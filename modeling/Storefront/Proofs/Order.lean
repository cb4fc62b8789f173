import Storefront.Proofs.Cart
import Storefront.Proofs.Document.RoundTrip
import Storefront.Proofs.ExchangeRate
import Storefront.Proofs.Order.Totals

/-!
# Totals of orders

Where no price is less than nothing, no total is, in whatever currency: sums and products clamp at the
greatest amount, and no step of the conversion changes a sign. So an order that does not settle for nothing
settles for more than that.
-/

namespace Storefront

/-! ## Atoms -/

/-- An amount in thousandths of an atom is exact. -/
theorem Atoms.toInt_of_toMilliAtoms? {a : Atoms} {milliAtoms : Int64}
    (h : a.toMilliAtoms? = some milliAtoms) : milliAtoms.toInt = 1000 * a.toInt := by
  unfold toMilliAtoms? at h
  cases hchecked : Amount.checked .multiply (a.toInt * 1000) with
  | error e =>
    rw [hchecked] at h
    cases h
  | ok b =>
    rw [hchecked] at h
    cases h
    rw [Amount.toInt_of_checked hchecked, Int.mul_comm]

/-- The greatest amounts have none. -/
theorem Atoms.toMilliAtoms?_eq_none {a : Atoms} (h : Amount.greatest - 4096 ≤ a.toInt) : a.toMilliAtoms? = none := by
  have hfits : ¬ Amount.Fits (a.toInt * 1000) := by
    unfold Amount.Fits Amount.greatest at *
    omega
  rw [toMilliAtoms?, Amount.checked, if_neg hfits]
  rfl

theorem Atoms.isZero_eq_false {a : Atoms} (h : a.toInt ≠ 0) : a.isZero = false := by
  rw [isZero, beq_eq_false_iff_ne]
  intro hvalue
  rw [toInt, hvalue] at h
  exact h rfl

/-! ## Prices that a catalog takes -/

/-- Every price in the cart is one that a catalog takes. -/
def Cart.IsPriced (cart : Cart) : Prop :=
  ∀ item ∈ cart.items, 0 ≤ item.product.price.toInt ∧ item.product.price.toInt ≤ Catalog.greatestPrice

namespace Cart

variable {cart : Cart} {product : Product}

theorem isPriced_empty : empty.IsPriced := fun _ hitem => absurd hitem List.not_mem_nil

theorem IsPriced.isExact (h : cart.IsPriced) : cart.IsExact := by
  intro item hitem
  obtain ⟨hlow, hhigh⟩ := h item hitem
  unfold Catalog.greatestPrice at hhigh
  unfold Cents.IsExact Cents.exactLimit
  omega

theorem IsPriced.add (h : cart.IsPriced) (hproduct : Catalog.accepts product = true) :
    (cart.add product).IsPriced := by
  simp only [Catalog.accepts, Bool.and_eq_true, decide_eq_true_eq] at hproduct
  exact forall_product_addUnit (P := fun product =>
    0 ≤ product.price.toInt ∧ product.price.toInt ≤ Catalog.greatestPrice) h ⟨hproduct.1.2, hproduct.2⟩

theorem IsPriced.noneNegative (h : cart.IsPriced) : NoneNegative cart.items :=
  fun item hitem => (h item hitem).1

theorem toInt_total_nonneg (h : NoneNegative cart.items) : 0 ≤ cart.total.toInt := by
  rw [total, toInt_sum_subtotal h]
  exact Int.le_min.2 ⟨h.exactTotal_nonneg, by decide⟩

end Cart

namespace Order

variable {order : Order}

theorem toInt_grandTotal_nonneg (hitems : 0 ≤ order.itemTotal.toInt) : 0 ≤ order.grandTotal.toInt := by
  unfold grandTotal
  split
  · next hcharges =>
    simp only [chargesShipping, Cents.isPositive, Bool.and_eq_true, decide_eq_true_eq] at hcharges
    rw [Cents.toInt_add]
    exact Amount.clamp_nonneg (by omega)
  · exact hitems

/-- An order settles for nothing or for more than that, if its items do not cost less than nothing. -/
theorem toInt_settlementTotal_nonneg (hitems : 0 ≤ order.itemTotal.toInt) :
    0 ≤ order.settlementTotal.toInt := by
  unfold settlementTotal
  split
  · exact ExchangeRate.toInt_convert_nonneg _ (toInt_grandTotal_nonneg hitems)
  · exact Int.le_refl 0

theorem toInt_settlementTotal_ne_zero (hzero : order.settlementTotal.isZero = false) :
    order.settlementTotal.toInt ≠ 0 := by
  intro heq
  have hnone : order.settlementTotal = .zero := Atoms.ext_toInt heq
  rw [hnone] at hzero
  cases hzero

theorem toInt_settlementTotal_pos (hitems : 0 ≤ order.itemTotal.toInt)
    (hzero : order.settlementTotal.isZero = false) : 0 < order.settlementTotal.toInt := by
  have hnonneg := toInt_settlementTotal_nonneg hitems
  have hne := toInt_settlementTotal_ne_zero hzero
  omega

end Order

end Storefront
