import Storefront.Proofs.Order.Settlement
import Storefront.Proofs.Shop.Payments

/-!
# Orders worth more than any amount

At a rate close to nothing an order may be worth more atoms than an amount can hold. The conversion then gives
the greatest amount or one close to it, and nothing tells such an amount from an exact one. A Lightning node is
never asked about it, since its thousandths do not fit an amount. But a wallet is asked for an address all the
same, a buyer who is to be contacted is told so, and in each case the message quotes the amount as the price of
the order.
-/

namespace Storefront

open Amount (greatest)

namespace Shop

open ExchangeRate (isUsable)

variable {moment : Moment} {payType : PayType} {account : String} {order : Order} {rate : Binary64}

/-- Is the order worth more than the greatest number of atoms? At the rate of a dollar for a coin a cent is worth
10^6 of them. -/
def IsOversized (order : Order) (rate : Binary64) : Prop :=
  (greatest : ℚ) < order.grandTotal.toInt * 10 ^ 6 / rate.value

theorem le_toInt_settlementTotal (hrate : order.exchangeRate = some rate) (husable : isUsable rate = true)
    (h : IsOversized order rate) : greatest - 4096 ≤ order.settlementTotal.toInt := by
  rw [Order.settlementTotal_eq hrate]
  exact ExchangeRate.le_toInt_convert husable h

theorem quoteLines_apply (hrate : order.exchangeRate = some rate) (htotal : 0 < order.settlementTotal.toInt)
    (resolution : Resolution) :
    Confirmation.quoteLines (resolution.apply order) =
      ["Using the current exchange rate of " ++ ExchangeRate.text rate ++ ", your order is " ++
        order.settlementTotal.text ++ ", valid for the next 60 minutes"] := by
  have hsame : Confirmation.quoteLines (resolution.apply order) = Confirmation.quoteLines order := by
    cases resolution <;> rfl
  have hminutes : ", valid for the next " ++ (Text.natText Confirmation.quoteMinutes ++ " minutes") =
      ", valid for the next 60 minutes" := by decide
  rw [hsame, Confirmation.quoteLines, hrate]
  dsimp only
  rw [if_pos htotal]
  simp only [String.append_assoc, hminutes]

/-- What comes of an order that is worth more than the greatest number of atoms. -/
structure Oversized (moment : Moment) (account : String) (order : Order) (rate : Binary64) : Prop where
  /-- It settles for the greatest amount or one close to it. -/
  clamped : greatest - 4096 ≤ order.settlementTotal.toInt ∧ order.settlementTotal.toInt ≤ greatest
  /-- Without a source of rates nothing is arranged. -/
  unattached : moment.quote = .unattached → ∀ payType,
    asked? moment payType account order = none ∧
      resolve moment payType account order = pure (.unavailable .noRateProvider)
  /-- No node is asked, with or without one. -/
  lightning : moment.quote ≠ .unattached →
    asked? moment .lightningNetwork account order = none ∧
      resolve moment .lightningNetwork account order =
        pure (.unavailable (if moment.hasNode then .amountOutOfRange else .lightningNotConfigured))
  /-- The wallet is asked for an address if there is one, -/
  onChain : moment.quote ≠ .unattached →
    asked? moment .onChain account order =
        (if moment.hasWallet then some (.address order.user account) else none) ∧
      resolve moment .onChain account order = resolveOnChain moment account order
  /-- and a buyer who is to be contacted will be. -/
  manual : moment.quote ≠ .unattached →
    asked? moment .manual account order = none ∧ resolve moment .manual account order = pure .contact
  /-- However it is to be paid, the message quotes that amount. -/
  quoted : ∀ resolution : Resolution, Confirmation.quoteLines (resolution.apply order) =
    ["Using the current exchange rate of " ++ ExchangeRate.text rate ++ ", your order is " ++
      order.settlementTotal.text ++ ", valid for the next 60 minutes"]

/-- An order worth more atoms than can be told settles for about the greatest number of them. A node is not asked for
that many, but a wallet is, and the buyer is told to pay them. -/
theorem oversized (moment : Moment) (account : String) (hrate : order.exchangeRate = some rate)
    (husable : isUsable rate = true) (h : IsOversized order rate) : Oversized moment account order rate := by
  have hclamped := le_toInt_settlementTotal hrate husable h
  have htotal : 0 < order.settlementTotal.toInt := by
    unfold Amount.greatest at hclamped
    omega
  have hobstacle : moment.quote ≠ .unattached → obstacle? moment order = none :=
    obstacle?_eq_none hrate husable (Atoms.isZero_eq_false htotal.ne')
  refine
    { clamped := ⟨hclamped, (Amount.fits_toInt _).2⟩
      unattached := fun hquote payType => ?_
      lightning := fun hattached => ?_
      onChain := fun hattached => ?_
      manual := fun hattached => ?_
      quoted := quoteLines_apply hrate htotal }
  · refine ⟨?_, resolve_unattached hquote payType account order⟩
    unfold asked?
    rw [obstacle?_unattached hquote]
    rfl
  · have hamount := Atoms.toMilliAtoms?_eq_none hclamped
    rw [asked?, resolve, hobstacle hattached, resolveLightning, hamount]
    cases moment.hasNode <;> exact ⟨rfl, rfl⟩
  · rw [asked?, resolve, hobstacle hattached]
    exact ⟨rfl, rfl⟩
  · rw [asked?, resolve, hobstacle hattached]
    exact ⟨rfl, rfl⟩

namespace Sample

/-- A price close to nothing for a coin. -/
def tinyRate : Binary64 := .ofDecimal false 1 (-12)

/-- Twenty-five dollars at that price. -/
def oversizedOrder : Order := paidOrder ⟨2500⟩ .zero tinyRate

theorem isUsable_tinyRate : isUsable tinyRate = true := by decide +kernel

theorem isOversized_oversizedOrder : IsOversized oversizedOrder tinyRate := by
  obtain ⟨c, hc, hfinite⟩ := ExchangeRate.isUsable_iff.1 isUsable_tinyRate
  -- the rate is 10^-12 but for its last bit
  have hratio : tinyRate = .ofRatio false 1 (10 ^ 12) :=
    Binary64.ofDecimal_eq_ofRatio ⟨by decide, by decide, by decide⟩
  have hunits : Magnitude.rounded (1 * Magnitude.one) (10 ^ 12) = c.units :=
    Binary64.ofUnits_eq_finite_iff.1 (hratio.symm.trans hfinite)
  have hone : 2 ^ 100 ≤ Magnitude.one := Magnitude.two_pow_le_one (by decide)
  obtain ⟨-, hnear⟩ := Magnitude.rounded_near (n := 1 * Magnitude.one) (d := 10 ^ 12) (by decide) (by omega)
  rw [hunits] at hnear
  have hbound : greatest * c.units < 2500 * 10 ^ 6 * Magnitude.one := by
    unfold Amount.greatest
    omega
  have htotal : oversizedOrder.grandTotal.toInt = 2500 := by decide
  have hpos : (0 : ℚ) < c.units := by exact_mod_cast hc
  have hvalue : tinyRate.value = (c.units : ℚ) / Magnitude.one := by
    rw [hfinite]
    rfl
  rw [IsOversized, htotal, hvalue, div_div_eq_mul_div, lt_div_iff₀ hpos]
  exact_mod_cast hbound

end Sample

/-- At such a rate a wallet is asked about a cart of twenty-five dollars. -/
theorem oversized_at_tinyRate :
    Sample.oversizedOrder.exchangeRate = some Sample.tinyRate ∧ isUsable Sample.tinyRate = true ∧
      IsOversized Sample.oversizedOrder Sample.tinyRate ∧
      Oversized (Sample.rated Sample.tinyRate) "default" Sample.oversizedOrder Sample.tinyRate :=
  ⟨rfl, Sample.isUsable_tinyRate, Sample.isOversized_oversizedOrder,
    oversized _ _ rfl Sample.isUsable_tinyRate Sample.isOversized_oversizedOrder⟩

/-- An order worth 2.5 * 10^21 atoms is placed with an address, and the buyer is told to pay 2^63 - 1 of them. -/
theorem oversized_order_billed :
    NoneNegative Sample.oversizedOrder.cart.items ∧ isUsable Sample.tinyRate = true ∧
      IsOversized Sample.oversizedOrder Sample.tinyRate ∧
      (∃ past s, History (Sample.chainShop ⟨2500⟩ .zero (by decide)) past s ∧
        s.documents.get? (orderKey Sample.buyer ⟨1⟩) = some (Document.encode Sample.oversizedOrder)) ∧
      Sample.oversizedOrder.invoice = some "address" ∧
      Confirmation.quoteLines Sample.oversizedOrder =
        ["Using the current exchange rate of 0.00 USD/DCR, your order is 92233720368.54775807 DCR, " ++
          "valid for the next 60 minutes"] := by
  obtain ⟨past, s, h, -, hstored⟩ := Sample.exists_paidOrder ⟨2500⟩ .zero Sample.tinyRate (by decide)
    Sample.isUsable_tinyRate (by decide +kernel)
  exact ⟨by decide, Sample.isUsable_tinyRate, Sample.isOversized_oversizedOrder, ⟨past, s, h, hstored⟩, rfl,
    by decide +kernel⟩

end Shop

end Storefront
