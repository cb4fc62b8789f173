import Storefront.InvalidWord
import Storefront.Text.Blank

/-!
# Pay types

How orders are settled. A setting names the pay type in one of several words, in any case and between
blanks; documents and pages use the fixed names `PayType.name` and `PayType.text`.
-/

namespace Storefront

/-- How orders are settled. -/
inductive PayType where
  /-- By no automatic means: the buyer is contacted. -/
  | manual
  /-- To an address on the chain. -/
  | onChain
  /-- By a Lightning invoice. -/
  | lightningNetwork
  deriving DecidableEq

namespace PayType

/-- All pay types. -/
def all : List PayType := [.manual, .onChain, .lightningNetwork]

/-- The name in documents. -/
def name : PayType → String
  | .manual => "None"
  | .onChain => "OnChain"
  | .lightningNetwork => "LightningNetwork"

/-- The word that is shown to people. -/
def text : PayType → String
  | .manual => "none"
  | .onChain => "onchain"
  | .lightningNetwork => "ln"

/-- The pay type with a name. -/
def ofName? (name : String) : Option PayType := all.find? (·.name == name)

/-- The pay type that a setting names. -/
def parse (setting : String) : Except InvalidWord PayType :=
  let word := String.ofList ((Text.trim setting.toList).map Char.toLower)
  if word ∈ ["", "none", "manual", "contact"] then .ok .manual
  else if word ∈ ["onchain", "on-chain"] then .ok .onChain
  else if word ∈ ["ln", "lightning", "lightningnetwork"] then .ok .lightningNetwork
  else .error ⟨"pay type", word⟩

@[simp] theorem ofName?_name (p : PayType) : ofName? p.name = some p := by
  cases p <;> decide

end PayType

end Storefront
