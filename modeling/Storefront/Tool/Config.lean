import Storefront.Binary64.Parser
import Storefront.Money.Dollars
import Storefront.ExchangeRate
import Storefront.PayType
import Storefront.Shop.Basic

/-!
# The configuration of the tool

The tool is configured by variables. One that is not set has a default, and so has one whose value is
of no use; no variable has a say in what another one sets, but that the catalog lies in the root
unless it is given a place of its own.
-/

namespace Storefront

/-- The configuration of the tool. -/
structure ToolConfig where
  /-- The folder with the carts and orders. -/
  root : String
  /-- The file with the products. -/
  catalog : String
  payType : PayType
  account : String
  shipCharge : Cents
  operator : Option UserId
  /-- Dollars for one coin, if quotes are to be given. -/
  exchangeRate : Option Binary64
  /-- How many announcements may wait. -/
  eventBuffer : Nat
  deriving DecidableEq

namespace ToolConfig

/-- A path below a folder. An absolute path stands for itself. -/
def join (folder path : String) : String :=
  if path.toList.head? = some '/' ∨ folder = "" then path
  else if folder.toList.getLast? = some '/' then folder ++ path
  else folder ++ "/" ++ path

/-- How many announcements may wait by default. -/
def defaultBuffer : Nat := 16

/-- A positive whole number of at most 64 bits, in digits behind an optional plus sign. -/
def readCount? (text : String) : Option Nat := do
  let n ← Text.ofDigits? (match text.toList with
    | '+' :: ds => ds
    | ds => ds)
  if 0 < n ∧ n < UInt64.size then some n else none

/-- A charge in dollars that is not negative. -/
def readCharge? (text : String) : Option Cents := do
  let cents ← (Cents.ofDollars (← Binary64.parse? text)).toOption
  if 0 ≤ cents.toInt then some cents else none

/-- A rate that is of use. -/
def readRate? (text : String) : Option Binary64 :=
  (Binary64.parse? text).filter ExchangeRate.isUsable

/-- The configuration that variables describe. -/
def ofVariables (value? : String → Option String) : ToolConfig :=
  let root := (value? "SSTORE_ROOT").getD "data/store"
  { root
    catalog := (value? "SSTORE_CATALOG").getD (join root "products.json")
    payType := (value? "SSTORE_PAY_TYPE" >>= fun s => (PayType.parse s).toOption).getD .manual
    account := (value? "SSTORE_ACCOUNT").getD "default"
    shipCharge := (value? "SSTORE_SHIP_CHARGE" >>= readCharge?).getD .zero
    operator := value? "SSTORE_OPERATOR_ID" >>= fun s => (UserId.parse s).toOption
    exchangeRate := value? "SSTORE_EXCHANGE_RATE" >>= readRate?
    eventBuffer := (value? "SSTORE_EVENT_BUFFER" >>= readCount?).getD defaultBuffer }

/-- The configuration of the shop that the tool opens. -/
def shopConfig (c : ToolConfig) : ShopConfig := ⟨c.payType, c.account, c.shipCharge, c.operator⟩

/-- What the tool's source of exchange rates has to say. -/
def quote (c : ToolConfig) : Shop.Quote :=
  match c.exchangeRate with
  | some rate => .rate rate
  | none => .unattached

end ToolConfig

end Storefront
