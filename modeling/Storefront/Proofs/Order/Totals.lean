import Mathlib.Algebra.Order.BigOperators.Group.List
import Mathlib.Algebra.Order.Ring.Int
import Storefront.Order

/-!
# Totals as exact sums

Every product and every partial sum of a total is clamped. Saturating addition is not associative, but
where no price is less than nothing the clamps only ever cut at the greatest amount, and then one clamp of
the exact sum gives the same. So a total depends neither on the order of the lines nor on how the units of
a product are spread over them, and it grows with every price and every quantity.
-/

namespace Storefront

namespace Amount

theorem clamp_of_nonneg {i : Int} (h : 0 ≤ i) : clamp i = min i greatest := by
  unfold clamp least greatest
  omega

theorem clamp_nonneg {i : Int} (h : 0 ≤ i) : 0 ≤ clamp i := by
  unfold clamp least greatest
  omega

/-- Of numbers that are not negative it does not matter whether they are cut before they are added. -/
theorem clamp_min_add_min {i j : Int} (hi : 0 ≤ i) (hj : 0 ≤ j) :
    clamp (min i greatest + min j greatest) = min (i + j) greatest := by
  unfold clamp least greatest
  omega

end Amount

open Amount (greatest)

/-- What all units of a line cost, however much that is. -/
def CartItem.exactSubtotal (item : CartItem) : Int :=
  item.product.price.toInt * item.quantity.toNat

/-- What a row of lines costs, however much that is. -/
def exactTotal (items : List CartItem) : Int := (items.map CartItem.exactSubtotal).sum

@[simp] theorem exactTotal_nil : exactTotal [] = 0 := rfl

@[simp] theorem exactTotal_cons (item : CartItem) (rest : List CartItem) :
    exactTotal (item :: rest) = item.exactSubtotal + exactTotal rest :=
  List.sum_cons

@[simp] theorem exactTotal_append (items more : List CartItem) :
    exactTotal (items ++ more) = exactTotal items + exactTotal more := by
  rw [exactTotal, List.map_append, List.sum_append]
  rfl

/-- No line has a price less than nothing. -/
def NoneNegative (items : List CartItem) : Prop := ∀ item ∈ items, 0 ≤ item.product.price.toInt

instance (items : List CartItem) : Decidable (NoneNegative items) :=
  inferInstanceAs (Decidable (∀ item ∈ items, 0 ≤ item.product.price.toInt))

variable {items items' : List CartItem}

theorem CartItem.exactSubtotal_nonneg {item : CartItem} (h : 0 ≤ item.product.price.toInt) :
    0 ≤ item.exactSubtotal :=
  Int.mul_nonneg h (Int.natCast_nonneg _)

theorem CartItem.toInt_subtotal {item : CartItem} (h : 0 ≤ item.product.price.toInt) :
    item.subtotal.toInt = min item.exactSubtotal greatest := by
  rw [subtotal, Cents.toInt_times]
  exact Amount.clamp_of_nonneg (exactSubtotal_nonneg h)

theorem NoneNegative.exactTotal_nonneg (h : NoneNegative items) : 0 ≤ exactTotal items := by
  refine List.sum_nonneg fun cost hcost => ?_
  obtain ⟨item, hitem, rfl⟩ := List.mem_map.1 hcost
  exact CartItem.exactSubtotal_nonneg (h item hitem)

/-- By induction on the lines, with what was added up before as the invariant. -/
theorem toInt_foldl_subtotal (hitems : NoneNegative items) {start : Cents} {sofar : Int}
    (hsofar : 0 ≤ sofar) (hstart : start.toInt = min sofar greatest) :
    ((items.map CartItem.subtotal).foldl Cents.add start).toInt =
      min (sofar + exactTotal items) greatest := by
  induction items generalizing start sofar with
  | nil => rwa [exactTotal_nil, Int.add_zero]
  | cons item rest ih =>
    have hprice := hitems item List.mem_cons_self
    have hcost := CartItem.exactSubtotal_nonneg hprice
    have hstep : (start + item.subtotal).toInt = min (sofar + item.exactSubtotal) greatest := by
      rw [Cents.toInt_add, hstart, CartItem.toInt_subtotal hprice]
      exact Amount.clamp_min_add_min hsofar hcost
    rw [exactTotal_cons, ← Int.add_assoc]
    exact ih (fun other hother => hitems other (List.mem_cons_of_mem _ hother))
      (Int.add_nonneg hsofar hcost) hstep

theorem toInt_sum_subtotal (h : NoneNegative items) :
    (Cents.sum (items.map CartItem.subtotal)).toInt = min (exactTotal items) greatest := by
  rw [Cents.sum, toInt_foldl_subtotal h (Int.le_refl 0) rfl, Int.zero_add]

/-! ## Other lines -/

theorem exactTotal_perm (h : items.Perm items') : exactTotal items = exactTotal items' :=
  (h.map CartItem.exactSubtotal).sum_eq

/-- The units of a line may be spread over two. -/
theorem exactTotal_split {before after : List CartItem} {product : Product} {m n both : UInt32}
    (hboth : both.toNat = m.toNat + n.toNat) :
    exactTotal (before ++ ⟨product, m⟩ :: ⟨product, n⟩ :: after) =
      exactTotal (before ++ ⟨product, both⟩ :: after) := by
  have hcost : CartItem.exactSubtotal ⟨product, both⟩ =
      CartItem.exactSubtotal ⟨product, m⟩ + CartItem.exactSubtotal ⟨product, n⟩ := by
    simp only [CartItem.exactSubtotal]
    rw [hboth, Int.natCast_add, Int.mul_add]
  rw [exactTotal_append, exactTotal_append, exactTotal_cons, exactTotal_cons, exactTotal_cons, hcost,
    Int.add_assoc]

/-- One line costs no more a unit than the other and has no more units. -/
def CartItem.AtMost (item other : CartItem) : Prop :=
  item.product.price.toInt ≤ other.product.price.toInt ∧ item.quantity ≤ other.quantity

theorem exactTotal_mono (hitems : NoneNegative items) (h : List.Forall₂ CartItem.AtMost items items') :
    exactTotal items ≤ exactTotal items' := by
  induction h with
  | nil => exact Int.le_refl _
  | @cons item other rest rest' hline _ ih =>
    have hprice := hitems item List.mem_cons_self
    have hquantity : (item.quantity.toNat : Int) ≤ other.quantity.toNat :=
      Int.ofNat_le.2 (UInt32.le_iff_toNat_le.1 hline.2)
    have hcost : item.exactSubtotal ≤ other.exactSubtotal :=
      Int.mul_le_mul hline.1 hquantity (Int.natCast_nonneg _) (Int.le_trans hprice hline.1)
    exact Int.add_le_add hcost (ih fun line hmem => hitems line (List.mem_cons_of_mem _ hmem))

theorem NoneNegative.mono (hitems : NoneNegative items)
    (h : List.Forall₂ CartItem.AtMost items items') : NoneNegative items' := by
  induction h with
  | nil => exact fun _ hitem => absurd hitem List.not_mem_nil
  | cons hline _ ih =>
    intro line hmem
    rcases List.mem_cons.1 hmem with rfl | hmem
    · exact Int.le_trans (hitems _ List.mem_cons_self) hline.1
    · exact ih (fun line hmem => hitems line (List.mem_cons_of_mem _ hmem)) line hmem

namespace Order

/-- The charge for shipping, where it is more than nothing and there is something to be paid for. -/
def exactShipping (order : Order) : Int :=
  if 0 < order.shipCharge.toInt ∧ 0 < exactTotal order.cart.items then order.shipCharge.toInt else 0

/-- The order with other lines in its cart. -/
def withItems (order : Order) (items : List CartItem) : Order :=
  { order with cart := { order.cart with items := items } }

variable {order : Order}

theorem toInt_itemTotal (h : NoneNegative order.cart.items) :
    order.itemTotal.toInt = min (exactTotal order.cart.items) greatest :=
  toInt_sum_subtotal h

/-- A total that is cut is still more than nothing, so cutting it changes no charge. -/
theorem chargesShipping_iff (h : NoneNegative order.cart.items) :
    order.chargesShipping = true ↔ 0 < order.shipCharge.toInt ∧ 0 < exactTotal order.cart.items := by
  have hgreatest : 0 < greatest := by decide
  have hnonneg := h.exactTotal_nonneg
  simp only [chargesShipping, Cents.isPositive, Bool.and_eq_true, decide_eq_true_eq, toInt_itemTotal h]
  omega

theorem exactShipping_eq (h : NoneNegative order.cart.items) :
    order.exactShipping = if order.chargesShipping then order.shipCharge.toInt else 0 := by
  simp only [exactShipping, chargesShipping_iff h]

theorem toInt_grandTotal (h : NoneNegative order.cart.items) :
    order.grandTotal.toInt =
      min (exactTotal order.cart.items + order.exactShipping) greatest := by
  have htotal := toInt_itemTotal h
  have hnonneg := h.exactTotal_nonneg
  have hship := order.shipCharge.fits_toInt.2
  rw [grandTotal, exactShipping_eq h]
  by_cases hpaid : order.chargesShipping = true
  · have hmin : order.shipCharge.toInt = min order.shipCharge.toInt greatest :=
      (Int.min_eq_left hship).symm
    have hpositive := ((chargesShipping_iff h).1 hpaid).1
    rw [if_pos hpaid, if_pos hpaid, Cents.toInt_add, htotal, hmin,
      Amount.clamp_min_add_min hnonneg (Int.le_of_lt hpositive), ← hmin]
  · rw [if_neg hpaid, if_neg hpaid, htotal, Int.add_zero]

/-- Both totals of an order are those of another. -/
def SameTotals (order other : Order) : Prop :=
  order.itemTotal = other.itemTotal ∧ order.grandTotal = other.grandTotal

theorem sameTotals_of_exactTotal {other : Order} (h : NoneNegative order.cart.items)
    (hother : NoneNegative other.cart.items) (hship : other.shipCharge = order.shipCharge)
    (htotal : exactTotal other.cart.items = exactTotal order.cart.items) :
    other.SameTotals order := by
  have hshipping : other.exactShipping = order.exactShipping := by
    rw [exactShipping, exactShipping, hship, htotal]
  refine ⟨Cents.ext_toInt ?_, Cents.ext_toInt ?_⟩
  · rw [toInt_itemTotal h, toInt_itemTotal hother, htotal]
  · rw [toInt_grandTotal h, toInt_grandTotal hother, htotal, hshipping]

theorem exactShipping_mono {other : Order} (hship : other.shipCharge = order.shipCharge)
    (htotal : exactTotal order.cart.items ≤ exactTotal other.cart.items) :
    order.exactShipping ≤ other.exactShipping := by
  unfold exactShipping
  rw [hship]
  split <;> split <;> omega

/-- What the totals of an order come to. -/
structure Totalled (order : Order) : Prop where
  /-- The items cost what their units cost, or the greatest amount, -/
  items : order.itemTotal.toInt = min (exactTotal order.cart.items) greatest
  /-- and the order what they cost with their shipping. -/
  grand : order.grandTotal.toInt =
    min (exactTotal order.cart.items + order.exactShipping) greatest
  /-- Nothing wraps on the way, neither in the cost of a line -/
  lines : ∀ item ∈ order.cart.items, item.subtotal.toInt = min item.exactSubtotal greatest
  /-- nor in the sum of the first lines. -/
  partials : ∀ n, (Cents.sum ((order.cart.items.take n).map CartItem.subtotal)).toInt =
    min (exactTotal (order.cart.items.take n)) greatest
  /-- The lines may come in any order, -/
  permuted : ∀ items, items.Perm order.cart.items → (order.withItems items).SameTotals order
  /-- a line may be split in two, -/
  split : ∀ before product (m n both : UInt32) after,
    order.cart.items = before ++ ⟨product, both⟩ :: after → both.toNat = m.toNat + n.toNat →
      (order.withItems (before ++ ⟨product, m⟩ :: ⟨product, n⟩ :: after)).SameTotals order
  /-- and where a price or a quantity is greater, no total is less. -/
  monotone : ∀ items, List.Forall₂ CartItem.AtMost order.cart.items items →
    order.itemTotal.toInt ≤ (order.withItems items).itemTotal.toInt ∧
      order.grandTotal.toInt ≤ (order.withItems items).grandTotal.toInt

/-- As long as no price is negative, both totals are the exact sums, held at the greatest amount. They do not depend on
the order of the lines or on how a quantity is split among lines, and they grow with every quantity and price. -/
theorem totalled (order : Order) (h : NoneNegative order.cart.items) : order.Totalled := by
  refine ⟨toInt_itemTotal h, toInt_grandTotal h, fun item hitem => ?_, fun n => ?_,
    fun items hperm => ?_, fun before product m n both after hitems hboth => ?_,
    fun items hmost => ?_⟩
  · exact CartItem.toInt_subtotal (h item hitem)
  · exact toInt_sum_subtotal fun item hitem => h item (List.mem_of_mem_take hitem)
  · have hnone : NoneNegative items := fun item hitem => h item (hperm.mem_iff.1 hitem)
    exact sameTotals_of_exactTotal h hnone rfl (exactTotal_perm hperm)
  · have hprice : 0 ≤ product.price.toInt :=
      h ⟨product, both⟩ (hitems ▸ List.mem_append_right _ List.mem_cons_self)
    have hnone : NoneNegative (before ++ ⟨product, m⟩ :: ⟨product, n⟩ :: after) := by
      intro item hitem
      rcases List.mem_append.1 hitem with hbefore | hafter
      · exact h item (hitems ▸ List.mem_append_left _ hbefore)
      · rcases List.mem_cons.1 hafter with rfl | hafter
        · exact hprice
        · rcases List.mem_cons.1 hafter with rfl | hafter
          · exact hprice
          · exact h item (hitems ▸ List.mem_append_right _ (List.mem_cons_of_mem _ hafter))
    exact sameTotals_of_exactTotal h hnone rfl ((exactTotal_split hboth).trans (by rw [hitems]))
  · have hnone : NoneNegative (order.withItems items).cart.items := h.mono hmost
    have htotal : exactTotal order.cart.items ≤ exactTotal (order.withItems items).cart.items :=
      exactTotal_mono h hmost
    have hshipping : order.exactShipping ≤ (order.withItems items).exactShipping :=
      exactShipping_mono rfl htotal
    rw [toInt_itemTotal h, toInt_itemTotal hnone, toInt_grandTotal h, toInt_grandTotal hnone]
    exact ⟨min_le_min_right _ htotal, min_le_min_right _ (Int.add_le_add htotal hshipping)⟩

/-- A cart that costs more than any amount, sent for a charge. -/
theorem totalled_beyond_greatest :
    let gold : Product := ⟨"gold", "Gold", ⟨9223372036854775800⟩, ""⟩
    let mug : Product := ⟨"mug", "Mug", ⟨5⟩, ""⟩
    let order := Order.new ⟨"ann", by decide⟩ ⟨[⟨mug, 1⟩, ⟨gold, 4294967295⟩], .epoch⟩ ⟨1⟩ ⟨700⟩ .epoch
    NoneNegative order.cart.items ∧ order.Totalled ∧ order.itemTotal = ⟨9223372036854775807⟩ :=
  ⟨by decide, totalled _ (by decide), by decide⟩

end Order

end Storefront
