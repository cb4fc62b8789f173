import Storefront.Document.Basic
import Storefront.Order
import Storefront.Timestamp.Parser

/-!
# The documents of the shop

Products, carts, orders and rates as documents. Prices and the charge for shipping are numbers of
dollars; amounts by themselves are whole numbers. The description of a product and all that concerns
the settlement of an order may be missing.
-/

namespace Storefront

open Json (Tree)
open Document

/-! ## Values by themselves -/

instance : Document Cents where
  toJson c := .int c.toInt
  ofTree t := do return ⟨Int64.ofInt (← readInt Amount.least Amount.greatest t)⟩

instance : Document Atoms where
  toJson a := .int a.toInt
  ofTree t := do return ⟨Int64.ofInt (← readInt Amount.least Amount.greatest t)⟩

instance : Document UserId where
  toJson user := .string user.text
  ofTree t := do
    match UserId.parse (← readString t) with
    | .ok user => .ok user
    | .error e => .error (.user e)

instance : Document OrderId where
  toJson id := .int id.toNat
  ofTree t := do
    let n ← readInt 0 (UInt64.size - 1) t
    return ⟨n.toNat.toUInt64⟩

instance : Document OrderStatus where
  toJson status := .string status.name
  ofTree := readName OrderStatus.ofName?

instance : Document PayType where
  toJson payType := .string payType.name
  ofTree := readName PayType.ofName?

instance : Document Timestamp where
  toJson t := .string t.text
  ofTree t := do
    match Timestamp.parse? (← readString t) with
    | some moment => .ok moment
    | none => .error .malformed

/-! ## Products -/

/-- A product whose fields have not all come. -/
structure Product.Draft where
  sku : Option String
  title : Option String
  price : Option Cents
  description : Option String

/-- How products are read. -/
def Product.record : Record Product.Draft Product where
  names := ["sku", "title", "price", "description"]
  start := ⟨none, none, none, none⟩
  take name t draft :=
    match name with
    | "sku" => return { draft with sku := ← once draft.sku readString t }
    | "title" => return { draft with title := ← once draft.title readString t }
    | "price" => return { draft with price := ← once draft.price readDollars t }
    | _ => return { draft with description := ← once draft.description readString t }
  finish draft := do
    return ⟨← draft.sku, ← draft.title, ← draft.price, draft.description.getD ""⟩

instance : Document Product where
  toJson p := .object
    [("sku", .string p.sku), ("title", .string p.title), ("price", .ofBinary64 p.price.dollars),
      ("description", .string p.description)]
  ofTree := Product.record.read

/-! ## Carts -/

/-- A line of a cart whose fields have not all come. -/
structure CartItem.Draft where
  product : Option Product
  quantity : Option UInt32

/-- A quantity of units. -/
def CartItem.readQuantity (t : Tree) : Except Unreadable UInt32 := do
  let n ← readInt 0 (UInt32.size - 1) t
  return n.toNat.toUInt32

/-- How the lines of a cart are read. -/
def CartItem.record : Record CartItem.Draft CartItem where
  names := ["product", "quantity"]
  start := ⟨none, none⟩
  take name t draft :=
    match name with
    | "product" => return { draft with product := ← once draft.product ofTree t }
    | _ => return { draft with quantity := ← once draft.quantity readQuantity t }
  finish draft := do return ⟨← draft.product, ← draft.quantity⟩

instance : Document CartItem where
  toJson item := .object
    [("product", toJson item.product), ("quantity", .int item.quantity.toNat)]
  ofTree := CartItem.record.read

/-- A cart whose fields have not all come. -/
structure Cart.Draft where
  items : Option (List CartItem)
  updated : Option Timestamp

/-- How carts are read. -/
def Cart.record : Record Cart.Draft Cart where
  names := ["items", "updated"]
  start := ⟨none, none⟩
  take name t draft :=
    match name with
    | "items" => return { draft with items := ← once draft.items ofTree t }
    | _ => return { draft with updated := ← once draft.updated ofTree t }
  finish draft := do return ⟨← draft.items, ← draft.updated⟩

instance : Document Cart where
  toJson cart := .object [("items", toJson cart.items), ("updated", toJson cart.updated)]
  ofTree := Cart.record.read

/-! ## Orders -/

/-- An order whose fields have not all come. -/
structure Order.Draft where
  user : Option UserId
  cart : Option Cart
  id : Option OrderId
  status : Option OrderStatus
  placedAt : Option Timestamp
  shipCharge : Option Cents
  exchangeRate : Option (Option Binary64)
  payType : Option PayType
  invoice : Option (Option String)

/-- How orders are read. -/
def Order.record : Record Order.Draft Order where
  names :=
    ["user", "cart", "id", "status", "placed_at", "ship_charge", "exchange_rate", "pay_type",
      "invoice"]
  start := ⟨none, none, none, none, none, none, none, none, none⟩
  take name t draft :=
    match name with
    | "user" => return { draft with user := ← once draft.user ofTree t }
    | "cart" => return { draft with cart := ← once draft.cart ofTree t }
    | "id" => return { draft with id := ← once draft.id ofTree t }
    | "status" => return { draft with status := ← once draft.status ofTree t }
    | "placed_at" => return { draft with placedAt := ← once draft.placedAt ofTree t }
    | "ship_charge" => return { draft with shipCharge := ← once draft.shipCharge readDollars t }
    | "exchange_rate" =>
      return { draft with exchangeRate := ← once draft.exchangeRate (readOption readNumber) t }
    | "pay_type" => return { draft with payType := ← once draft.payType ofTree t }
    | _ => return { draft with invoice := ← once draft.invoice (readOption readString) t }
  finish draft := do
    return ⟨← draft.user, ← draft.cart, ← draft.id, ← draft.status, ← draft.placedAt,
      ← draft.shipCharge, draft.exchangeRate.join, draft.payType.getD .manual, draft.invoice.join⟩

instance : Document Order where
  toJson o := .object
    [("user", toJson o.user), ("cart", toJson o.cart), ("id", toJson o.id),
      ("status", toJson o.status), ("placed_at", toJson o.placedAt),
      ("ship_charge", .ofBinary64 o.shipCharge.dollars),
      ("exchange_rate", .ofOption .ofBinary64 o.exchangeRate), ("pay_type", toJson o.payType),
      ("invoice", .ofOption .string o.invoice)]
  ofTree := Order.record.read

/-! ## Exchange rates -/

/-- An exchange rate whose fields have not all come. -/
structure ExchangeRate.Draft where
  rate : Option Binary64
  updatedAt : Option Timestamp

/-- How exchange rates are read. -/
def ExchangeRate.record : Record ExchangeRate.Draft ExchangeRate where
  names := ["rate", "updated_at"]
  start := ⟨none, none⟩
  take name t draft :=
    match name with
    | "rate" => return { draft with rate := ← once draft.rate readNumber t }
    | _ => return { draft with updatedAt := ← once draft.updatedAt ofTree t }
  finish draft := do return ⟨← draft.rate, ← draft.updatedAt⟩

instance : Document ExchangeRate where
  toJson e := .object [("rate", .ofBinary64 e.rate), ("updated_at", toJson e.updatedAt)]
  ofTree := ExchangeRate.record.read

end Storefront
