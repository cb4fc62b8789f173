import Storefront.Cart
import Storefront.Proofs.Document.Records

/-!
# Units in a cart

The units of a SKU are counted over all lines, so that nothing is assumed about lines of the same SKU.
Adding a product adds one unit of its SKU and none of any other, as long as no line is full.
-/

namespace Storefront

/-- The units of a SKU in a line. -/
def CartItem.units (sku : String) (item : CartItem) : Nat :=
  if item.product.sku = sku then item.quantity.toNat else 0

theorem CartItem.units_reread (sku : String) (item : CartItem) :
    item.reread.units sku = item.units sku := by
  rw [units, units, quantity_reread, product_reread, Product.sku_reread]

namespace Cart

/-- The units of a SKU in a cart. -/
def units (cart : Cart) (sku : String) : Nat := (cart.items.map (CartItem.units sku)).sum

/-- Is every line below the greatest quantity? -/
def HasRoom (cart : Cart) : Prop := ∀ item ∈ cart.items, item.quantity.toNat < UInt32.size - 1

@[simp] theorem units_empty (sku : String) : empty.units sku = 0 := rfl

@[simp] theorem units_updated (cart : Cart) (now : Timestamp) (sku : String) :
    ({ cart with updated := now } : Cart).units sku = cart.units sku := rfl

variable {product : Product} {items : List CartItem}

/-- What holds of the products in some lines and of a product holds of them all when it is added. -/
theorem forall_product_addUnit {P : Product → Prop} (hitems : ∀ item ∈ items, P item.product)
    (hproduct : P product) : ∀ item ∈ addUnit product items, P item.product := by
  induction items with
  | nil =>
    intro item hitem
    rw [List.mem_singleton.1 hitem]
    exact hproduct
  | cons first rest ih =>
    intro item hitem
    rw [addUnit] at hitem
    split at hitem
    · rcases List.mem_cons.1 hitem with rfl | hitem
      · exact hitems first List.mem_cons_self
      · exact hitems item (List.mem_cons_of_mem _ hitem)
    · rcases List.mem_cons.1 hitem with rfl | hitem
      · exact hitems item List.mem_cons_self
      · exact ih (fun item hitem => hitems item (List.mem_cons_of_mem _ hitem)) item hitem

/-- One more unit of a product is one more of its SKU. -/
theorem sum_units_addUnit (sku : String)
    (h : ∀ item ∈ addUnit product items, item.quantity.toNat < UInt32.size - 1) :
    ((addUnit product items).map (CartItem.units sku)).sum =
      (items.map (CartItem.units sku)).sum + if product.sku = sku then 1 else 0 := by
  induction items with
  | nil =>
    show CartItem.units sku ⟨product, 1⟩ + 0 = 0 + _
    rw [CartItem.units, Nat.add_zero, Nat.zero_add]
    rfl
  | cons item rest ih =>
    rw [addUnit] at h ⊢
    split at h
    · next hsku =>
      have hroom := h _ List.mem_cons_self
      rw [CartItem.toNat_raise] at hroom
      rw [if_pos hsku, List.map_cons, List.map_cons, List.sum_cons, List.sum_cons]
      simp only [CartItem.units, CartItem.toNat_raise, hsku]
      split <;> omega
    · next hsku =>
      have hrest := ih fun item hitem => h item (List.mem_cons_of_mem _ hitem)
      rw [if_neg hsku, List.map_cons, List.map_cons, List.sum_cons, List.sum_cons, hrest,
        Nat.add_assoc]

theorem units_add {cart : Cart} (sku : String) (h : (cart.add product).HasRoom) :
    (cart.add product).units sku = cart.units sku + if product.sku = sku then 1 else 0 :=
  sum_units_addUnit sku h

/-- A full line stays full. -/
theorem sum_units_addUnit_le (product : Product) (items : List CartItem) (sku : String) :
    ((addUnit product items).map (CartItem.units sku)).sum ≤
      (items.map (CartItem.units sku)).sum + if product.sku = sku then 1 else 0 := by
  induction items with
  | nil =>
    show CartItem.units sku ⟨product, 1⟩ + 0 ≤ 0 + _
    rw [CartItem.units, Nat.add_zero, Nat.zero_add]
    exact Nat.le_refl _
  | cons item rest ih =>
    rw [addUnit]
    split
    · next hsku =>
      rw [List.map_cons, List.map_cons, List.sum_cons, List.sum_cons]
      simp only [CartItem.units, CartItem.toNat_raise, hsku]
      split <;> omega
    · rw [List.map_cons, List.map_cons, List.sum_cons, List.sum_cons]
      omega

theorem units_add_le (cart : Cart) (product : Product) (sku : String) :
    (cart.add product).units sku ≤ cart.units sku + if product.sku = sku then 1 else 0 :=
  sum_units_addUnit_le product cart.items sku

/-! ## Through documents -/

/-- No unit is lost on the way through a document. -/
@[simp] theorem units_reread (cart : Cart) (sku : String) : cart.reread.units sku = cart.units sku := by
  rw [units, units, items_reread, List.map_map, Function.comp_def]
  simp only [CartItem.units_reread]

theorem hasRoom_reread {cart : Cart} : cart.reread.HasRoom ↔ cart.HasRoom := by
  simp only [HasRoom, items_reread, List.forall_mem_map, CartItem.quantity_reread]

@[simp] theorem isEmpty_reread (cart : Cart) : cart.reread.isEmpty = cart.isEmpty := by
  rw [isEmpty, items_reread, List.isEmpty_map]
  rfl

end Cart

end Storefront
