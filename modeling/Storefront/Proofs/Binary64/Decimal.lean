import Mathlib.Algebra.Order.Field.Power
import Mathlib.Data.Nat.Cast.Order.Field
import Mathlib.Tactic.FieldSimp
import Mathlib.Tactic.NormNum
import Mathlib.Tactic.Positivity
import Storefront.Binary64.Shortest
import Storefront.Proofs.Binary64.Rounding
import Storefront.Proofs.Text.Digits

/-!
# Decimals and the numbers they are read as

A decimal is read through the quotient that it denotes, so two decimals that denote the same are read as
the same number. Seventeen digits are always enough to be read as a given number again.
-/

namespace Storefront

open Text (digits)

/-! ## Quotients -/

namespace Binary64

variable {n d n' d' : Nat} {negative : Bool} {m : Magnitude}

theorem ofUnits_congr_mul (hd : 0 < d) (hd' : 0 < d') (h : n * d' = n' * d) :
    ofUnits negative n d = ofUnits negative n' d' := by
  unfold ofUnits
  rw [Magnitude.nearest?_congr hd hd' h]

theorem ofUnits_congr (hd : 0 < d) (hd' : 0 < d') (h : (n : ℚ) / d = n' / d') :
    ofUnits negative n d = ofUnits negative n' d' := by
  have hdq : (d : ℚ) ≠ 0 := by exact_mod_cast hd.ne'
  have hdq' : (d' : ℚ) ≠ 0 := by exact_mod_cast hd'.ne'
  rw [div_eq_div_iff hdq hdq'] at h
  exact ofUnits_congr_mul hd hd' (by exact_mod_cast h)

theorem ofRatio_congr (hd : 0 < d) (hd' : 0 < d') (h : (n : ℚ) / d = n' / d') :
    ofRatio negative n d = ofRatio negative n' d' := by
  refine ofUnits_congr hd hd' ?_
  push_cast
  rw [mul_div_right_comm, h, mul_div_right_comm]

theorem ofUnits_eq_finite_iff :
    ofUnits negative n d = .finite negative m ↔ Magnitude.rounded n d = m.units := by
  rw [← Magnitude.nearest?_eq_some_iff, ofUnits]
  split
  · next m' h => rw [h]; simp
  · next h => rw [h]; simp

/-! ## Decimals -/

/-- The quotient that a decimal denotes. -/
def decimalRatio (significand : Nat) (exponent : Int) : Nat × Nat :=
  if 0 ≤ exponent then (significand * Nat.pow 10 exponent.toNat, 1)
  else (significand, Nat.pow 10 (-exponent).toNat)

theorem decimalRatio_pos (significand : Nat) (exponent : Int) :
    0 < (decimalRatio significand exponent).2 := by
  unfold decimalRatio
  split
  · exact Nat.one_pos
  · exact Nat.pow_pos (by decide)

theorem decimalRatio_eq (significand : Nat) (exponent : Int) :
    ((decimalRatio significand exponent).1 : ℚ) / (decimalRatio significand exponent).2 =
      significand * (10 : ℚ) ^ exponent := by
  unfold decimalRatio
  split
  · next h =>
    obtain ⟨k, rfl⟩ := Int.eq_ofNat_of_zero_le h
    simp [Nat.pow_eq]
  · next h =>
    obtain ⟨k, hk⟩ : ∃ k : Nat, exponent = -k := ⟨(-exponent).toNat, by omega⟩
    subst hk
    simp [Nat.pow_eq, div_eq_mul_inv]

/-- Is the size of a decimal known only when its quotient is formed? -/
structure InWindow (significand : Nat) (exponent : Int) : Prop where
  ne_zero : significand ≠ 0
  high : exponent ≤ 400
  low : -400 ≤ exponent + (digits significand).length

variable {s t : Nat} {e f : Int}

theorem ofDecimal_eq_ofRatio (h : InWindow s e) :
    ofDecimal negative s e = ofRatio negative (decimalRatio s e).1 (decimalRatio s e).2 := by
  have hlow : ¬ e + ((Nat.toDigits 10 s).length : Nat) < -400 := by
    have := h.low
    rw [digits] at this
    omega
  rw [ofDecimal, if_neg h.ne_zero, if_neg (by have := h.high; omega), if_neg hlow, decimalRatio]
  split <;> rfl

/-- Decimals that denote the same are read as the same. -/
theorem ofDecimal_congr (hs : InWindow s e) (ht : InWindow t f)
    (h : (s : ℚ) * (10 : ℚ) ^ e = t * (10 : ℚ) ^ f) :
    ofDecimal negative s e = ofDecimal negative t f := by
  rw [ofDecimal_eq_ofRatio hs, ofDecimal_eq_ofRatio ht]
  refine ofRatio_congr (decimalRatio_pos s e) (decimalRatio_pos t f) ?_
  rw [decimalRatio_eq, decimalRatio_eq, h]

theorem ofDecimal_sign (h : ofDecimal false s e = .finite false m) (negative : Bool) :
    ofDecimal negative s e = .finite negative m := by
  have hunits : ∀ {n d}, ofUnits false n d = .finite false m →
      ofUnits negative n d = .finite negative m := by
    intro n d hfinite
    exact ofUnits_eq_finite_iff.2 (ofUnits_eq_finite_iff.1 hfinite)
  have hzero : zero false = .finite false m → zero negative = .finite negative m := by
    intro heq
    cases heq
    rfl
  unfold ofDecimal at h ⊢
  by_cases h₁ : s = 0
  · rw [if_pos h₁] at h ⊢
    exact hzero h
  rw [if_neg h₁] at h ⊢
  by_cases h₂ : 400 < e
  · rw [if_pos h₂] at h
    cases h
  rw [if_neg h₂] at h ⊢
  by_cases h₃ : e + ((Nat.toDigits 10 s).length : Nat) < -400
  · rw [if_pos h₃] at h ⊢
    exact hzero h
  rw [if_neg h₃] at h ⊢
  by_cases h₄ : 0 ≤ e
  · rw [if_pos h₄] at h ⊢
    exact hunits h
  · rw [if_neg h₄] at h ⊢
    exact hunits h

end Binary64

namespace Magnitude

/-! ## The place of the first digit -/

/-- The size of a number. -/
def value (m : Magnitude) : ℚ := (m.units : ℚ) / one

theorem one_ne_zero : (one : ℚ) ≠ 0 := by exact_mod_cast one_pos.ne'

/-- The digits of the whole part tell the order of a quotient from one on. -/
theorem order_of_whole {n d : Nat} (hd : 0 < d) (hle : d ≤ n) :
    (10 : ℚ) ^ (((digits (n / d)).length : Int) - 1) ≤ (n : ℚ) / d ∧
      (n : ℚ) / d < (10 : ℚ) ^ ((digits (n / d)).length : Int) := by
  have hdq : (0 : ℚ) < d := by exact_mod_cast hd
  have hlow := Text.pow_le_of_length_digits (Nat.div_pos hle hd)
  have hhigh := Text.lt_pow_length_digits (n / d)
  have hlen := Text.length_digits_pos (n / d)
  generalize (digits (n / d)).length = k at hlow hhigh hlen ⊢
  have hlow' : 10 ^ (k - 1) * d ≤ n := (Nat.le_div_iff_mul_le hd).1 hlow
  have hhigh' : n < 10 ^ k * d := (Nat.div_lt_iff_lt_mul hd).1 hhigh
  rw [le_div_iff₀ hdq, div_lt_iff₀ hdq, show (k : Int) - 1 = ((k - 1 : Nat) : Int) by omega,
    zpow_natCast, zpow_natCast]
  exact ⟨by exact_mod_cast hlow', by exact_mod_cast hhigh'⟩

/-- The order of a quotient is told by two powers of ten. -/
theorem decimalOrder_spec {n d : Nat} (hn : 0 < n) (hd : 0 < d) :
    (10 : ℚ) ^ (decimalOrder n d - 1) ≤ (n : ℚ) / d ∧
      (n : ℚ) / d < (10 : ℚ) ^ decimalOrder n d := by
  unfold decimalOrder
  split
  · next hle => exact order_of_whole hd hle
  · -- below one the whole part of the reciprocal tells the order, but for an exact power of ten
    next hlt =>
    have hnq : (0 : ℚ) < n := by exact_mod_cast hn
    have hdq : (0 : ℚ) < d := by exact_mod_cast hd
    have hlen := Text.length_digits_pos (d / n)
    obtain ⟨hlow, hhigh⟩ := order_of_whole hn (Nat.le_of_not_le hlt)
    generalize (digits (d / n)).length = k at hlow hhigh hlen ⊢
    rw [show (k : Int) - 1 = ((k - 1 : Nat) : Int) by omega, zpow_natCast, le_div_iff₀ hnq] at hlow
    rw [zpow_natCast, div_lt_iff₀ hnq] at hhigh
    have hpow : (0 : ℚ) < 10 ^ (k - 1) := by positivity
    have hpow' : (0 : ℚ) < 10 ^ k := by positivity
    have hneg : ∀ j : Nat, (10 : ℚ) ^ (-(j : Int)) = (10 ^ j)⁻¹ := by
      intro j
      rw [zpow_neg, zpow_natCast]
    simp only [show ((k : Int) - 1).toNat = k - 1 by omega]
    split
    · next hle =>
      have hle' : (d : ℚ) ≤ n * 10 ^ (k - 1) := by exact_mod_cast hle
      have heq : (n : ℚ) / d = (10 ^ (k - 1))⁻¹ := by
        rw [div_eq_iff hdq.ne', inv_mul_eq_div, eq_div_iff hpow.ne']
        linarith
      rw [heq, ← hneg, show (2 : Int) - k - 1 = -((k - 1 : Nat) : Int) by omega]
      exact ⟨le_rfl, zpow_lt_zpow_right₀ (by norm_num) (by omega)⟩
    · next hgt =>
      have hgt' : (n : ℚ) * 10 ^ (k - 1) < d := by exact_mod_cast Nat.lt_of_not_le hgt
      rw [show (1 : Int) - k - 1 = -(k : Int) by omega,
        show (1 : Int) - k = -((k - 1 : Nat) : Int) by omega, hneg, hneg]
      constructor
      · rw [inv_le_iff_one_le_mul₀ hpow', div_mul_eq_mul_div, le_div_iff₀ hdq]
        linarith
      · rw [div_lt_iff₀ hdq, lt_inv_mul_iff₀ hpow]
        linarith

end Magnitude

end Storefront
