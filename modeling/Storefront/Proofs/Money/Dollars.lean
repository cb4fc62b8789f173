import Storefront.Money.Dollars
import Storefront.Proofs.Binary64.Order

/-!
# Cents and dollars

Every amount is a number of dollars, and such a number has a reading in cents. Up to 10^15 cents the reading is the
amount, also if the number of dollars is off by a few of its last bits; beyond that the last digits may change.
-/

namespace Storefront

open Binary64 (signed finite)
open Magnitude (one rounded rounded_eq_of_close rounded_mono rounded_mul rounded_near Near Precise)

namespace Cents

/-- The hundredfold of the greatest amount in dollars is rounded to 2^63 cents, which keeps every amount
readable. -/
theorem rounded_greatest :
    rounded (92233720368547760 * one * 100) 1 = 9223372036854775808 * one := by
  have hprecise : Precise (1 * 2 ^ 63 * one) := Magnitude.precise_mul_pow_mul_one (by decide)
  rw [show 1 * 2 ^ 63 = 9223372036854775808 by rfl] at hprecise
  have hone := Magnitude.one_pos
  exact rounded_eq_of_close hprecise (by decide) (by omega) (by omega)

theorem natAbs_least : Amount.least.natAbs = 9223372036854775808 := rfl

theorem natAbs_toInt_le (c : Cents) : c.toInt.natAbs ≤ 9223372036854775808 := by
  obtain ⟨h₁, h₂⟩ := c.fits_toInt
  simp only [Amount.least, Amount.greatest] at h₁ h₂
  omega

theorem exists_hundred : ∃ m : Magnitude, m.units = 100 * one ∧
    Binary64.ofInt 100 = .finite false m :=
  Binary64.exists_ofInt (k := 100) (by decide)

/-- An amount in dollars. -/
theorem exists_dollars (c : Cents) :
    ∃ d : Magnitude, c.dollars = .finite (c.toInt < 0) d ∧
      d.units = rounded (rounded (c.toInt.natAbs * one) 1) 100 ∧ d.units ≤ 92233720368547760 * one := by
  have hone := Magnitude.one_pos
  have hprecise₆₃ : Precise (9223372036854775808 * one) := by
    have h : Precise (1 * 2 ^ 63 * one) := Magnitude.precise_mul_pow_mul_one (by decide)
    exact h
  have hprecise₅₇ : Precise (92233720368547760 * one) := by
    have h : Precise (5764607523034235 * 2 ^ 4 * one) :=
      Magnitude.precise_mul_pow_mul_one (by decide)
    exact h
  obtain ⟨hundred, hunits, hhundred⟩ := exists_hundred
  have hzero : hundred.units ≠ 0 := by omega
  -- the amount itself, then a hundredth of it
  obtain ⟨a, ha, hale⟩ := Magnitude.exists_units (n := c.toInt.natAbs * one) (d := 1)
    (k := 9223372036854775808) (by decide) (by decide) hprecise₆₃
    (by rw [Nat.mul_one]; exact Nat.mul_le_mul_right one c.natAbs_toInt_le)
  obtain ⟨d, hd, hdle⟩ := Magnitude.exists_units (n := a.units) (d := 100) (k := 92233720368547760)
    (by decide) (by decide) hprecise₅₇ (by omega)
  have hamount : Binary64.ofInt c.toInt = .finite (c.toInt < 0) a :=
    Binary64.ofUnits_eq_finite ha.symm
  refine ⟨d, ?_, by rw [hd, ha], hdle⟩
  rw [dollars, hamount, hhundred]
  show Binary64.div _ _ = _
  simp only [Binary64.div, hzero, if_false, Bool.xor_false]
  apply Binary64.ofUnits_eq_finite
  rw [hd, hunits]
  exact Magnitude.rounded_congr (Nat.mul_pos (by decide) Magnitude.one_pos) (by decide) (by ring)

theorem ofDollars_eq {dollars : Binary64} {cents : Int}
    (h : (dollars * Binary64.ofInt 100).nearestInt? = some cents)
    (hle : cents.natAbs ≤ Amount.least.natAbs) :
    ofDollars dollars = .ok ⟨Amount.saturate cents⟩ := by
  unfold ofDollars
  rw [h]
  exact if_pos hle

/-- Up to the greatest amount in dollars every number has a reading. -/
theorem ofDollars_finite (negative : Bool) {d : Magnitude} (h : d.units ≤ 92233720368547760 * one) :
    ofDollars (finite negative d) =
      .ok ⟨Amount.saturate (signed negative (roundDiv .up (rounded (d.units * 100) 1) one))⟩ := by
  have hone := Magnitude.one_pos
  have hple : rounded (d.units * 100) 1 ≤ 9223372036854775808 * one := by
    rw [← rounded_greatest]
    exact rounded_mono (by decide) (by decide) (Nat.mul_le_mul_right 1 (Nat.mul_le_mul_right 100 h))
  obtain ⟨p, hp, -⟩ := Magnitude.exists_units_of_le (by decide) hple
  obtain ⟨hundred, hunits, hhundred⟩ := exists_hundred
  have hproduct : finite negative d * Binary64.ofInt 100 = finite negative p := by
    rw [hhundred, Binary64.mul_eq_scale _ (by omega)]
    refine Binary64.ofUnits_eq_finite ?_
    rw [hp, hunits]
    exact Magnitude.rounded_congr hone (by decide) (by ring)
  have hround : roundDiv .up (rounded (d.units * 100) 1) one ≤ 9223372036854775808 := by
    have hmono : roundDiv .up (rounded (d.units * 100) 1) one ≤ roundDiv .up (9223372036854775808 * one) one :=
      roundDiv_mono hone hone (Nat.mul_le_mul_right one hple)
    rwa [roundDiv_mul _ hone] at hmono
  refine ofDollars_eq ?_ ?_
  · rw [hproduct, Binary64.nearestInt?, hp]
    rfl
  · rw [natAbs_least, signed]
    split <;> omega

/-- From one cent to 10^15 cents the hundredfold of a number that is off by three parts in 2^53 is nearest to the
cents. -/
theorem roundDiv_of_near {k d : Nat} (hpos : 0 < k) (hk : k ≤ 1000000000000000) (h : Near 3 (k * one) (d * 100)) :
    roundDiv .up (rounded (d * 100) 1) one = k := by
  obtain ⟨hbelow, habove⟩ := h
  have hcent : 2 ^ 60 ≤ one := Magnitude.two_pow_le_one (by decide)
  have hle : one ≤ k * one := Nat.le_mul_of_pos_left one hpos
  have hmul : k * one ≤ 1000000000000000 * one := Nat.mul_le_mul_right one hk
  obtain ⟨hp₁, hp₂⟩ := rounded_near (n := d * 100) (d := 1) (by decide) (by omega)
  generalize rounded (d * 100) 1 = p at hp₁ hp₂ ⊢
  rw [Nat.mul_one] at hp₁ hp₂
  exact roundDiv_eq_of_near Magnitude.one_pos (by omega) (by omega)

/-- Such a number is read as the cents. -/
theorem ofDollars_of_near {c : Cents} {k : Nat} {negative : Bool} {d : Magnitude} (hc : c.toInt = signed negative k)
    (hpos : 0 < k) (hk : k ≤ 1000000000000000) (h : Near 3 (k * one) (d.units * 100)) :
    ofDollars (finite negative d) = .ok c := by
  have hmul : k * one ≤ 1000000000000000 * one := Nat.mul_le_mul_right one hk
  have habove := h.above
  rw [ofDollars_finite negative (by omega), roundDiv_of_near hpos hk h, ← hc]
  refine congrArg Except.ok (ext_toInt ?_)
  show (Amount.saturate c.toInt).toInt = c.toInt
  rw [Amount.toInt_saturate, Amount.clamp_of_fits c.fits_toInt]

theorem ofDollars_zero (s : Bool) : ofDollars (Binary64.zero s) = .ok .zero := by
  have h := ofDollars_finite s (d := .zero) (Nat.zero_le _)
  have hround : roundDiv .up (rounded (Magnitude.zero.units * 100) 1) one = 0 := by
    show roundDiv .up (rounded (0 * 100) 1) one = 0
    rw [Nat.zero_mul, Magnitude.rounded_zero Nat.one_pos, roundDiv_zero Magnitude.one_pos]
  rw [hround] at h
  exact h.trans (by cases s <;> rfl)

theorem rounded_natAbs {c : Cents} (h : c.toInt.natAbs ≤ 1000000000000000) :
    rounded (c.toInt.natAbs * one) 1 = c.toInt.natAbs * one := by
  have hprecise : Precise (c.toInt.natAbs * one) :=
    Magnitude.precise_mul_one (by unfold Magnitude.greatestSignificand; omega)
  have hmul := rounded_mul hprecise (d := 1) (by decide)
  rwa [Nat.mul_one] at hmul

/-- Up to 10^15 cents an amount is read from its dollars. -/
theorem ofDollars_dollars_eq {c : Cents} (h : c.toInt.natAbs ≤ 1000000000000000) : ofDollars c.dollars = .ok c := by
  obtain ⟨d, hdollars, hd, -⟩ := c.exists_dollars
  rw [rounded_natAbs h] at hd
  rcases Nat.eq_zero_or_pos c.toInt.natAbs with hzero | hpos
  · obtain rfl : c = .zero := ext_toInt (Int.natAbs_eq_zero.1 hzero)
    rw [hzero, Nat.zero_mul, Magnitude.rounded_zero (by decide)] at hd
    rw [hdollars, Magnitude.ext_units (b := .zero) hd]
    exact ofDollars_zero _
  · have hcent : 2 ^ 60 ≤ one := Magnitude.two_pow_le_one (by decide)
    have hle : one ≤ c.toInt.natAbs * one := Nat.le_mul_of_pos_left one hpos
    obtain ⟨hd₁, hd₂⟩ := rounded_near (n := c.toInt.natAbs * one) (d := 100) (by decide) (by omega)
    rw [← hd] at hd₁ hd₂
    rw [hdollars]
    exact ofDollars_of_near (Binary64.signed_natAbs c.toInt).symm hpos h ⟨by omega, by omega⟩

end Cents

end Storefront
