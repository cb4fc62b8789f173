import Storefront.Proofs.Binary64.Whole
import Storefront.Proofs.Money.Dollars

/-!
# Which numbers of dollars are read

A number of dollars is read if its hundredfold, rounded to a whole number, is an amount, and it is then read as
just that amount. There is one exception. The hundredfold of 92233720368547760 is rounded to 2^63, one more than
the greatest amount; that amount is no binary64 number itself, so hundredfolds are held against 2^63, and what is
read is the greatest amount. The numbers on either side of the exception stay clear of the bound.
-/

namespace Storefront

open Amount (least greatest)
open Binary64 (signed)
open Magnitude (one rounded rounded_eq_of_close rounded_mono rounded_mul Precise)

namespace Cents

variable {x : Binary64} {c : Cents} {m : Magnitude} {s : Bool} {a b : Nat}

/-- The hundredfold of a number of dollars, rounded to a whole number. -/
def hundredfold (dollars : Binary64) : Binary64 := (dollars * Binary64.ofInt 100).round

/-- The number of dollars whose hundredfold is 2^63. -/
def overGreatest : Binary64 := Binary64.ofInt 92233720368547760

/-! ## Sizes -/

/-- The size of the hundredfold of a size, in whole numbers. -/
def wholeCents (units : Nat) : Nat := roundDiv .up (rounded (units * 100) 1) one

theorem wholeCents_mono (h : a ≤ b) : wholeCents a ≤ wholeCents b :=
  roundDiv_mono Magnitude.one_pos Magnitude.one_pos
    (Nat.mul_le_mul_right one (rounded_mono Nat.one_pos Nat.one_pos
      (Nat.mul_le_mul_right 1 (Nat.mul_le_mul_right 100 h))))

theorem wholeCents_eq (h : rounded (a * 100) 1 = b * one) : wholeCents a = b := by
  rw [wholeCents, h, roundDiv_mul b Magnitude.one_pos]

theorem wholeCents_below : wholeCents (92233720368547744 * one) = 9223372036854774784 := by
  have hprecise : Precise (9007199254740991 * 2 ^ 10 * one) := Magnitude.precise_mul_pow_mul_one (by decide)
  rw [show 9007199254740991 * 2 ^ 10 = 9223372036854774784 by rfl] at hprecise
  have hone := Magnitude.one_pos
  exact wholeCents_eq (rounded_eq_of_close hprecise (by decide) (by omega) (by omega))

theorem wholeCents_above : wholeCents (92233720368547776 * one) = 9223372036854777856 := by
  have hprecise : Precise (4503599627370497 * 2 ^ 11 * one) := Magnitude.precise_mul_pow_mul_one (by decide)
  rw [show 4503599627370497 * 2 ^ 11 = 9223372036854777856 by rfl] at hprecise
  have hone := Magnitude.one_pos
  exact wholeCents_eq (rounded_eq_of_close hprecise (by decide) (by omega) (by omega))

/-- Between the exception and the numbers on either side of it there is no other number. -/
theorem units_cases (m : Magnitude) :
    m.units ≤ 92233720368547744 * one ∨ m.units = 92233720368547760 * one ∨
      92233720368547776 * one ≤ m.units := by
  by_cases hlarge : 2 ^ 56 * one ≤ m.units
  · obtain ⟨t, ht⟩ := Precise.two_pow_mul_one_dvd (j := 4) m.precise hlarge
    have hunits : m.units = 16 * t * one := by
      rw [ht]
      ring
    rcases Nat.lt_trichotomy t 5764607523034235 with hlt | rfl | hgt
    · refine .inl (hunits ▸ Nat.mul_le_mul_right one ?_)
      omega
    · exact .inr (.inl hunits)
    · refine .inr (.inr (hunits ▸ Nat.mul_le_mul_right one ?_))
      omega
  · exact .inl (by omega)

theorem units_of_wholeCents (h : wholeCents m.units = 9223372036854775808) :
    m.units = 92233720368547760 * one := by
  rcases units_cases m with hle | heq | hge
  · have hmono := wholeCents_mono hle
    rw [wholeCents_below] at hmono
    omega
  · exact heq
  · have hmono := wholeCents_mono hge
    rw [wholeCents_above] at hmono
    omega

/-! ## The hundredfold -/

theorem mul_hundred : .finite s m * Binary64.ofInt 100 = Binary64.ofUnits s (m.units * 100) 1 := by
  obtain ⟨hundred, hunits, hhundred⟩ := exists_hundred
  have hone := Magnitude.one_pos
  have hne := Magnitude.one_ne_zero
  rw [hhundred, Binary64.mul_eq_scale _ (by omega), hunits]
  refine Binary64.ofUnits_congr hone Nat.one_pos ?_
  push_cast
  field_simp

theorem exists_of_isFinite_hundredfold (h : (hundredfold x).isFinite = true) : ∃ s m, x = .finite s m := by
  obtain ⟨hundred, hunits, hhundred⟩ := exists_hundred
  have hone := Magnitude.one_pos
  rw [hundredfold, Binary64.isFinite_round, hhundred, Binary64.mul_eq_scale _ (by omega)] at h
  cases x with
  | nan => cases h
  | infinite s => cases h
  | finite s m => exact ⟨s, m, rfl⟩

theorem value_hundredfold (h : (hundredfold (.finite s m)).isFinite = true) :
    (hundredfold (.finite s m)).value = signed s (wholeCents m.units) := by
  rw [hundredfold, mul_hundred] at h ⊢
  rcases Binary64.ofUnits_cases s (m.units * 100) 1 with ⟨p, hp, hfinite⟩ | ⟨-, hinfinite⟩
  · rw [hfinite, Binary64.value_round_finite, Magnitude.whole, hp]
    rfl
  · rw [hinfinite] at h
    cases h

theorem exists_overGreatest : ∃ m : Magnitude, m.units = 92233720368547760 * one ∧
    overGreatest = .finite false m := by
  have hprecise : Precise (5764607523034235 * 2 ^ 4 * one) := Magnitude.precise_mul_pow_mul_one (by decide)
  rw [show 5764607523034235 * 2 ^ 4 = 92233720368547760 by rfl] at hprecise
  have hunits := rounded_mul hprecise Nat.one_pos
  rw [Nat.mul_one] at hunits
  obtain ⟨m, hm, -⟩ := Magnitude.exists_units_of_le (k := 92233720368547760) (by decide) (Nat.le_of_eq hunits)
  exact ⟨m, hm.trans hunits, Binary64.ofUnits_eq_finite hm.symm⟩

theorem hundredfold_overGreatest :
    (hundredfold overGreatest).isFinite = true ∧ (hundredfold overGreatest).value = 9223372036854775808 := by
  obtain ⟨m, hunits, hfinite⟩ := exists_overGreatest
  have hrounded : rounded (m.units * 100) 1 = 9223372036854775808 * one := by rw [hunits, rounded_greatest]
  have hbounded : (hundredfold overGreatest).isFinite = true := by
    rw [hundredfold, hfinite, mul_hundred, Binary64.isFinite_round]
    rcases Binary64.ofUnits_cases false (m.units * 100) 1 with ⟨p, -, hp⟩ | ⟨hlimit, -⟩
    · rw [hp]
      rfl
    · have hlt := Magnitude.mul_one_lt_limit (k := 9223372036854775808) (by decide)
      rw [hrounded] at hlimit
      omega
  refine ⟨hbounded, ?_⟩
  rw [hfinite] at hbounded ⊢
  rw [value_hundredfold hbounded, wholeCents_eq hrounded]
  rfl

/-- No other number has this hundredfold. -/
theorem eq_overGreatest (h : (hundredfold x).isFinite = true)
    (hvalue : (hundredfold x).value = 9223372036854775808) : x = overGreatest := by
  obtain ⟨s, m, rfl⟩ := exists_of_isFinite_hundredfold h
  rw [value_hundredfold h] at hvalue
  have hsigned : signed s (wholeCents m.units) = 9223372036854775808 := by exact_mod_cast hvalue
  obtain ⟨m', hunits, hfinite⟩ := exists_overGreatest
  cases s with
  | true =>
    have hneg : -(wholeCents m.units : Int) = 9223372036854775808 := hsigned
    omega
  | false =>
    have hwhole : (wholeCents m.units : Int) = 9223372036854775808 := hsigned
    have hm := units_of_wholeCents (m := m) (by omega)
    rw [hfinite, Magnitude.ext_units (hm.trans hunits.symm)]

/-! ## Reading -/

/-- A number of dollars is read by its hundredfold, clamped if that is 2^63. -/
theorem ofDollars_eq_ok_iff_value :
    ofDollars x = .ok c ↔ (hundredfold x).isFinite = true ∧
      ((hundredfold x).value = c.toInt ∨ (hundredfold x).value = 9223372036854775808 ∧ c.toInt = greatest) := by
  have hfits := c.fits_toInt
  by_cases hfinite : (hundredfold x).isFinite = true
  · obtain ⟨i, hi⟩ := Binary64.exists_nearestInt (Binary64.isFinite_round ▸ hfinite)
    have hvalue := (Binary64.nearestInt?_eq_some_iff.1 hi).2
    have hcases : (hundredfold x).value = c.toInt ∨
        (hundredfold x).value = 9223372036854775808 ∧ c.toInt = greatest ↔
        i = c.toInt ∨ i = 9223372036854775808 ∧ c.toInt = greatest := by
      rw [hundredfold, hvalue]
      norm_cast
    rw [and_iff_right hfinite, hcases]
    unfold ofDollars
    rw [hi]
    unfold Amount.Fits at hfits
    dsimp only
    split
    · next hle =>
      rw [natAbs_least] at hle
      have hclamp : (.ok ⟨Amount.saturate i⟩ : Except InvalidDollars Cents) = .ok c ↔ Amount.clamp i = c.toInt := by
        rw [← Amount.toInt_saturate]
        exact ⟨fun h => congrArg toInt (Except.ok.inj h), fun h => congrArg _ (ext_toInt h)⟩
      rw [hclamp]
      unfold Amount.clamp least greatest at *
      omega
    · next hgt =>
      rw [natAbs_least] at hgt
      refine ⟨nofun, fun h => ?_⟩
      unfold least greatest at *
      omega
  · refine ⟨fun h => ?_, fun h => absurd h.1 hfinite⟩
    unfold ofDollars at h
    split at h
    · next i hi => exact absurd (Binary64.nearestInt?_eq_some_iff.1 hi).1 hfinite
    · cases h

theorem ofDollars_cases (x : Binary64) : (∃ c, ofDollars x = .ok c) ∨ ofDollars x = .error ⟨x⟩ := by
  unfold ofDollars
  split
  · split
    · exact .inl ⟨_, rfl⟩
    · exact .inr rfl
  · exact .inr rfl

/-- Is the hundredfold an amount? -/
def InRange (x : Binary64) : Prop :=
  (hundredfold x).isFinite = true ∧ (least : ℚ) ≤ (hundredfold x).value ∧ (hundredfold x).value ≤ greatest

theorem inRange_iff : InRange x ↔ (hundredfold x).isFinite = true ∧ ∃ c : Cents, (hundredfold x).value = c.toInt := by
  refine and_congr_right fun hfinite => ?_
  obtain ⟨i, hi⟩ := Binary64.exists_nearestInt (Binary64.isFinite_round ▸ hfinite)
  have hvalue : (hundredfold x).value = i := (Binary64.nearestInt?_eq_some_iff.1 hi).2
  rw [hvalue]
  constructor
  · rintro ⟨hleast, hgreatest⟩
    have hfits : Amount.Fits i := ⟨by exact_mod_cast hleast, by exact_mod_cast hgreatest⟩
    refine ⟨⟨Amount.saturate i⟩, ?_⟩
    show (i : ℚ) = ((Amount.saturate i).toInt : ℚ)
    rw [Amount.toInt_saturate, Amount.clamp_of_fits hfits]
  · rintro ⟨c, hc⟩
    obtain ⟨hleast, hgreatest⟩ := c.fits_toInt
    have hic : i = c.toInt := by exact_mod_cast hc
    rw [hic]
    exact ⟨by exact_mod_cast hleast, by exact_mod_cast hgreatest⟩

/-- A number of dollars is read as an amount exactly when this amount is its hundredfold, rounded to the nearest
whole number and from half way away from zero, but for the one number whose hundredfold is 2^63: that is read as
the greatest amount. Every other number whose hundredfold is no amount is refused: what is no number, infinities,
and all that is out of range. -/
theorem ofDollars_exact (x : Binary64) :
    (∀ c : Cents, ofDollars x = .ok c ↔
      (hundredfold x).isFinite = true ∧ (hundredfold x).value = c.toInt ∨
        x = overGreatest ∧ c.toInt = greatest) ∧
    (ofDollars x = .error ⟨x⟩ ↔ ¬ InRange x ∧ x ≠ overGreatest) ∧
    (hundredfold x).isFinite = (x * Binary64.ofInt 100).isFinite ∧
    (hundredfold x).value =
      if (x * Binary64.ofInt 100).value < 0 then -(⌊-(x * Binary64.ofInt 100).value + 1 / 2⌋ : ℚ)
      else (⌊(x * Binary64.ofInt 100).value + 1 / 2⌋ : ℚ) := by
  have hread : ∀ c : Cents, ofDollars x = .ok c ↔
      (hundredfold x).isFinite = true ∧ (hundredfold x).value = c.toInt ∨
        x = overGreatest ∧ c.toInt = greatest := by
    intro c
    rw [ofDollars_eq_ok_iff_value]
    constructor
    · rintro ⟨hfinite, hvalue | ⟨hvalue, hc⟩⟩
      · exact .inl ⟨hfinite, hvalue⟩
      · exact .inr ⟨eq_overGreatest hfinite hvalue, hc⟩
    · rintro (⟨hfinite, hvalue⟩ | ⟨rfl, hc⟩)
      · exact ⟨hfinite, .inl hvalue⟩
      · exact ⟨hundredfold_overGreatest.1, .inr ⟨hundredfold_overGreatest.2, hc⟩⟩
  refine ⟨hread, ?_, Binary64.isFinite_round, Binary64.value_round _⟩
  have hok : (∃ c, ofDollars x = .ok c) ↔ InRange x ∨ x = overGreatest := by
    simp only [hread, exists_or, exists_and_left, inRange_iff]
    exact or_congr_right (and_iff_left ⟨⟨Amount.saturate greatest⟩, rfl⟩)
  rw [← not_or, ← hok]
  constructor
  · rintro herror ⟨c, hc⟩
    rw [herror] at hc
    cases hc
  · exact (ofDollars_cases x).resolve_left

/-- The one number out of range that is not refused. -/
theorem overGreatest_clamped :
    ofDollars overGreatest = .ok ⟨9223372036854775807⟩ ∧ (hundredfold overGreatest).isFinite = true ∧
      (hundredfold overGreatest).value = 9223372036854775808 ∧ ¬ InRange overGreatest := by
  obtain ⟨hfinite, hvalue⟩ := hundredfold_overGreatest
  refine ⟨ofDollars_eq_ok_iff_value.2 ⟨hfinite, .inr ⟨hvalue, rfl⟩⟩, hfinite, hvalue, fun hrange => ?_⟩
  have hle := hrange.2.2
  rw [hvalue] at hle
  unfold greatest at hle
  norm_num at hle

end Cents

end Storefront
