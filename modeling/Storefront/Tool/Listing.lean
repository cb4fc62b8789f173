import Storefront.Binary64.Text
import Storefront.Text.Escape
import Storefront.Text.Hidden
import Storefront.Tool.Config

/-!
# The listing of a configuration

The configuration that the tool works with, a setting a line, and the variables that it was read from
as they stand. Texts are quoted, with a backslash before what would end them and with characters that
leave no mark of their own as their code points. In paths an apostrophe has a backslash, too.
-/

namespace Storefront.ToolConfig

/-! ## Values -/

/-- A character as it is listed between quotes, `marks` being the characters behind a backslash. -/
def listedChar (marks : List Char) (c : Char) : List Char :=
  if c = '\x00' then ['\\', '0']
  else if c = '\t' then ['\\', 't']
  else if c = '\r' then ['\\', 'r']
  else if c = '\n' then ['\\', 'n']
  else if c ∈ marks then ['\\', c]
  else if Text.isHidden c then Text.codePointEscape c
  else [c]

/-- A text between quotes. -/
def listedText (marks : List Char) (s : String) : String :=
  "\"" ++ String.ofList (s.toList.flatMap (listedChar marks)) ++ "\""

/-- A path between quotes. -/
def listedPath (s : String) : String := listedText ['"', '\\', '\''] s

/-- A word between quotes. -/
def listedWord (s : String) : String := listedText ['"', '\\'] s

/-- Lines set in by one more step. -/
def indented (lines : List String) : List String := lines.map ("    " ++ ·)

/-- The lines of a value under the name of what it is, the last one followed by a comma. -/
def wrapped (name : String) (inside : List String) : List String :=
  [name ++ "("] ++ indented inside ++ ["),"]

/-- The lines of a value that may be missing. -/
def listedOption {α : Type} (inside : α → List String) : Option α → List String
  | none => ["None,"]
  | some a => wrapped "Some" (inside a)

/-- The lines of a setting, given those of its value. -/
def setting (name : String) : List String → List String
  | [] => []
  | first :: rest => (name ++ ": " ++ first) :: rest

/-! ## The listing -/

/-- The lines of the settings. -/
def settings (c : ToolConfig) : List String :=
  setting "root" [listedPath c.root ++ ","] ++
    setting "catalog" [listedPath c.catalog ++ ","] ++
    setting "pay_type" [c.payType.name ++ ","] ++
    setting "account" [listedWord c.account ++ ","] ++
    setting "ship_charge" (wrapped "Cents" [Text.intText c.shipCharge.toInt ++ ","]) ++
    setting "operator"
      (listedOption (fun (u : UserId) => wrapped "UserId" [listedWord u.text ++ ","]) c.operator) ++
    setting "exchange_rate"
      (listedOption (fun (r : Binary64) => [r.text .listing ++ ","]) c.exchangeRate) ++
    setting "event_buffer" [Text.natText c.eventBuffer ++ ","]

/-- The variables that are listed. -/
def variableNames : List String :=
  ["RUST_LOG", "SSTORE_ROOT", "SSTORE_CATALOG", "SSTORE_PAY_TYPE", "SSTORE_ACCOUNT",
    "SSTORE_SHIP_CHARGE", "SSTORE_OPERATOR_ID", "SSTORE_EXCHANGE_RATE", "SSTORE_EVENT_BUFFER"]

/-- A text filled up with blanks on the right. -/
def padded (width : Nat) (s : String) : String :=
  s ++ String.ofList (List.replicate (width - s.length) ' ')

/-- The line of a variable. -/
def variableLine (value? : String → Option String) (name : String) : String :=
  "  " ++ padded 35 name ++ " " ++ padded 15 ((value? name).getD "Not set")

/-- The listing of a configuration and of the variables. -/
def listing (c : ToolConfig) (value? : String → Option String) : String :=
  let lines := ["ToolConfig \x7b"] ++ indented c.settings ++ ["\x7d"] ++
    ["Current environment values:"] ++ variableNames.map (variableLine value?)
  String.join (lines.map (· ++ "\n"))

end Storefront.ToolConfig
