import Storefront.Product
import Storefront.Timestamp

/-!
# Carts

What a buyer has picked and not yet ordered. Adding a product whose SKU is already in the cart raises
the quantity of that line and keeps the product as it was when the line was made; quantities stop at
the greatest word of 32 bits.
-/

namespace Storefront

/-- A line of a cart. -/
structure CartItem where
  /-- The product as it was when the line was made. -/
  product : Product
  quantity : UInt32
  deriving DecidableEq

namespace CartItem

/-- What all units of the line cost. -/
def subtotal (item : CartItem) : Cents := item.product.price.times item.quantity.toNat

/-- A quantity raised by one, unless it is the greatest. -/
def raise (quantity : UInt32) : UInt32 :=
  if quantity.toNat + 1 < UInt32.size then quantity + 1 else quantity

theorem toNat_raise (q : UInt32) : (raise q).toNat = min (q.toNat + 1) (UInt32.size - 1) := by
  have hq := q.toNat_lt
  unfold raise UInt32.size
  split
  · rw [UInt32.toNat_add]; simp only [UInt32.reduceToNat]; omega
  · omega

end CartItem

/-- The items of a cart with one more unit of a product. -/
def addUnit (product : Product) : List CartItem → List CartItem
  | [] => [⟨product, 1⟩]
  | item :: rest =>
    if item.product.sku = product.sku then
      { item with quantity := CartItem.raise item.quantity } :: rest
    else item :: addUnit product rest

/-- What a buyer has picked. -/
structure Cart where
  /-- The lines, the oldest first. -/
  items : List CartItem
  /-- When the cart was last changed. -/
  updated : Timestamp
  deriving DecidableEq

namespace Cart

/-- The cart of a buyer who has picked nothing yet. -/
def empty : Cart := ⟨[], .epoch⟩

/-- Is there nothing in the cart? -/
def isEmpty (cart : Cart) : Bool := cart.items.isEmpty

/-- The line of a SKU. -/
def item? (cart : Cart) (sku : String) : Option CartItem :=
  cart.items.find? (·.product.sku == sku)

/-- The cart with one more unit of a product. -/
def add (cart : Cart) (product : Product) : Cart :=
  { cart with items := addUnit product cart.items }

/-- What the whole cart costs. -/
def total (cart : Cart) : Cents := Cents.sum (cart.items.map CartItem.subtotal)

end Cart

end Storefront
