import Storefront.Proofs.ExchangeRate
import Storefront.Proofs.Order.Totals

/-!
# What orders settle for

An order settles for what its grand total is worth at its rate. The grand total grows with the items, because
shipping is charged for every order that has something to be paid for; so of two orders at one rate and one
charge the dearer one never settles for fewer atoms.
-/

namespace Storefront

open Binary64 (nan ofInt)

namespace Order

variable {order other : Order}

theorem toInt_grandTotal_eq (order : Order) :
    order.grandTotal.toInt = if 0 < order.shipCharge.toInt ∧ 0 < order.itemTotal.toInt then
      Amount.clamp (order.itemTotal.toInt + order.shipCharge.toInt) else order.itemTotal.toInt := by
  have hcharges : order.chargesShipping = true ↔ 0 < order.shipCharge.toInt ∧ 0 < order.itemTotal.toInt := by
    simp only [chargesShipping, Cents.isPositive, Bool.and_eq_true, decide_eq_true_eq]
  unfold grandTotal
  by_cases hpaid : 0 < order.shipCharge.toInt ∧ 0 < order.itemTotal.toInt
  · rw [if_pos (hcharges.2 hpaid), if_pos hpaid, Cents.toInt_add]
  · rw [if_neg (mt hcharges.1 hpaid), if_neg hpaid]

theorem toInt_grandTotal_mono (hship : other.shipCharge = order.shipCharge)
    (hitems : order.itemTotal.toInt ≤ other.itemTotal.toInt) :
    order.grandTotal.toInt ≤ other.grandTotal.toInt := by
  obtain ⟨hlow, hhigh⟩ := other.itemTotal.fits_toInt
  rw [toInt_grandTotal_eq, toInt_grandTotal_eq, hship]
  unfold Amount.clamp
  split <;> split <;> omega

theorem settlementTotal_eq {rate : Binary64} (h : order.exchangeRate = some rate) :
    order.settlementTotal = ExchangeRate.convert rate order.grandTotal := by
  unfold settlementTotal
  rw [h]

theorem toInt_settlementTotal_mono (hrate : other.exchangeRate = order.exchangeRate)
    (h : order.grandTotal.toInt ≤ other.grandTotal.toInt) :
    order.settlementTotal.toInt ≤ other.settlementTotal.toInt := by
  unfold settlementTotal
  rw [hrate]
  split
  · exact ExchangeRate.toInt_convert_le h
  · exact Int.le_refl 0

end Order

namespace ExchangeRate

/-- How the atoms that amounts are worth at a rate follow the amounts and the rate. -/
structure KeepsOrder (rate : Binary64) : Prop where
  /-- A greater amount is never worth fewer atoms, -/
  amounts : ∀ a b : Cents, a.toInt ≤ b.toInt → (convert rate a).toInt ≤ (convert rate b).toInt
  /-- and at a dearer coin no amount from nothing on is worth more of them. -/
  rates : isUsable rate = true → ∀ dearer, isUsable dearer = true → rate ≤ dearer →
    ∀ a : Cents, 0 ≤ a.toInt → (convert dearer a).toInt ≤ (convert rate a).toInt
  /-- Nothing is worth nothing, -/
  nothing : convert rate .zero = .zero
  /-- and what an amount is worth has no other sign than the amount. -/
  credits : ∀ a : Cents, 0 ≤ a.toInt → 0 ≤ (convert rate a).toInt
  debts : ∀ a : Cents, a.toInt ≤ 0 → (convert rate a).toInt ≤ 0
  /-- Every step on the way gives a number. -/
  numbers : isUsable rate = true → ∀ a : Cents, ofInt a.toInt ≠ nan ∧ a.dollars ≠ nan ∧
    a.dollars / rate ≠ nan ∧ a.dollars / rate * ofInt atomsPerCoin ≠ nan
  /-- A rate that is of no use makes every amount worth nothing. -/
  useless : isUsable rate = false → ∀ a : Cents, convert rate a = .zero
  /-- An order that costs more never settles for fewer atoms, -/
  orders : ∀ order other : Order, order.exchangeRate = some rate → other.exchangeRate = some rate →
    order.grandTotal.toInt ≤ other.grandTotal.toInt →
      order.settlementTotal.toInt ≤ other.settlementTotal.toInt
  /-- nor does an order with a dearer cart. -/
  carts : ∀ order other : Order, order.exchangeRate = some rate → other.exchangeRate = some rate →
    other.shipCharge = order.shipCharge → order.itemTotal.toInt ≤ other.itemTotal.toInt →
      order.settlementTotal.toInt ≤ other.settlementTotal.toInt

/-- At every rate, of use or not, amounts are turned into atoms without disorder: monotone in the amount, antitone in
the rate, nothing for nothing, and never through a step that gives no number. -/
theorem convert_keepsOrder (rate : Binary64) : KeepsOrder rate := by
  refine
    { amounts := fun a b h => toInt_convert_le h
      rates := fun hrate dearer hdearer hle a ha => toInt_convert_le_of_le hrate hdearer hle ha
      nothing := convert_zero rate
      credits := fun a ha => toInt_convert_nonneg rate ha
      debts := fun a ha => ?_
      numbers := fun hrate a => ?_
      useless := fun hrate a => convert_of_not_isUsable hrate a
      orders := fun order other horder hother h =>
        Order.toInt_settlementTotal_mono (hother.trans horder.symm) h
      carts := fun order other horder hother hship h =>
        Order.toInt_settlementTotal_mono (hother.trans horder.symm) (Order.toInt_grandTotal_mono hship h) }
  · have h : (convert rate a).toInt ≤ (convert rate .zero).toInt := toInt_convert_le ha
    rwa [convert_zero] at h
  · obtain ⟨c, hc, rfl⟩ := isUsable_iff.1 hrate
    have hdollars := a.dollars_ne_nan
    refine ⟨Binary64.ofInt_ne_nan _, hdollars, ?_, ?_⟩
    · rw [Binary64.div_eq_scale _ hc]
      exact Binary64.scale_ne_nan hdollars
    · rw [coins_eq_scale, Binary64.div_eq_scale _ hc]
      exact Binary64.scale_ne_nan (Binary64.scale_ne_nan hdollars)

end ExchangeRate

end Storefront
