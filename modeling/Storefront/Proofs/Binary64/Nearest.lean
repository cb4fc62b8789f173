import Mathlib.Algebra.Order.Ring.Abs
import Storefront.Proofs.Binary64.Order

/-!
# The nearest number

Rounding gives the binary64 number that is nearest to a quotient among all of them. To 53 significant bits it gives
a multiple of the last bit, and no multiple is nearer; numbers that are no multiples of the last bit all lie below the
least quotient with as many bits, and that one is a multiple itself.
-/

namespace Storefront

variable {tie : Tie} {n d u : Nat}

/-- No natural number is nearer to a quotient than the rounded one. -/
theorem roundDiv_nearest (tie : Tie) (n : Nat) (hd : 0 < d) (k : Nat) :
    ((roundDiv tie n d * d : Nat) - n : Int).natAbs ≤ ((k * d : Nat) - n : Int).natAbs := by
  obtain ⟨hbelow, habove⟩ := roundDiv_near tie n hd
  generalize roundDiv tie n d = r at *
  rcases Nat.lt_trichotomy k r with hlt | rfl | hgt
  · have hstep : (k + 1) * d ≤ r * d := Nat.mul_le_mul_right d hlt
    rw [Nat.succ_mul] at hstep
    omega
  · exact Nat.le_refl _
  · have hstep : (r + 1) * d ≤ k * d := Nat.mul_le_mul_right d hgt
    rw [Nat.succ_mul] at hstep
    omega

/-- No number of 53 significant bits is nearer to a quotient than the rounded one. -/
theorem Magnitude.rounded_nearest (hu : Precise u) (hd : 0 < d) (n : Nat) :
    ((rounded n d * d : Nat) - n : Int).natAbs ≤ ((u * d : Nat) - n : Int).natAbs := by
  have hpos : 0 < d * 2 ^ excessBits n d := Nat.mul_pos hd (Nat.two_pow_pos _)
  have hrounded : rounded n d * d = roundDiv .even n (d * 2 ^ excessBits n d) *
      (d * 2 ^ excessBits n d) := by
    show roundDiv .even n (d * 2 ^ excessBits n d) * 2 ^ excessBits n d * d = _
    rw [Nat.mul_assoc, Nat.mul_comm (2 ^ _) d]
  rw [hrounded]
  have hcases : 2 ^ excessBits n d ∣ u ∨ 0 < excessBits n d ∧ u < 2 ^ (52 + excessBits n d) := by
    by_cases hsmall : u < 2 ^ (52 + excessBits n d)
    · rcases Nat.eq_zero_or_pos (excessBits n d) with hzero | hexcess
      · exact .inl (by rw [hzero]; exact Nat.one_dvd u)
      · exact .inr ⟨hexcess, hsmall⟩
    · exact .inl (hu.two_pow_dvd (Nat.le_of_not_lt hsmall))
  rcases hcases with ⟨k, rfl⟩ | ⟨hexcess, hsmall⟩
  · have hmultiple : 2 ^ excessBits n d * k * d = k * (d * 2 ^ excessBits n d) := by ring
    rw [hmultiple]
    exact roundDiv_nearest .even n hpos k
  · -- the least quotient with as many bits lies between
    have hleast := (Nat.le_div_iff_mul_le hd).1 (le_div_of_excessBits_pos hexcess)
    have hbelow : u * d < 2 ^ (52 + excessBits n d) * d := Nat.mul_lt_mul_of_pos_right hsmall hd
    have hmultiple : 2 ^ (52 + excessBits n d) * d = 2 ^ 52 * (d * 2 ^ excessBits n d) := by
      rw [Nat.pow_add]
      ring
    rw [hmultiple] at hleast hbelow
    have hnear := roundDiv_nearest .even n hpos (2 ^ 52)
    omega

namespace Binary64

variable {x y : Binary64} {q : ℚ} {s t : Bool} {m : Magnitude}

/-- No finite number is nearer to the rational number than this one. -/
def IsNearest (x : Binary64) (q : ℚ) : Prop :=
  x.isFinite = true ∧ ∀ y : Binary64, y.isFinite = true → |x.value - q| ≤ |y.value - q|

/-- The distance of a number from a quotient, as a multiple of their common unit. -/
theorem abs_value_sub (hd : 0 < d) (i : Int) :
    |(finite t m).value - (i : ℚ) / d| =
      ((signed t m.units * d - i * Magnitude.one : Int).natAbs : ℚ) / (Magnitude.one * d) := by
  have hone := Magnitude.one_ne_zero
  have hdq : (d : ℚ) ≠ 0 := by exact_mod_cast hd.ne'
  have hpos : (0 : ℚ) < Magnitude.one * d := by exact_mod_cast Nat.mul_pos Magnitude.one_pos hd
  have hvalue : (finite t m).value - (i : ℚ) / d =
      ((signed t m.units * d - i * Magnitude.one : Int) : ℚ) / (Magnitude.one * d) := by
    rw [value, div_sub_div _ _ hone hdq]
    push_cast
    ring
  rw [hvalue, abs_div, abs_of_pos hpos, Nat.cast_natAbs, Int.cast_abs]

/-- What a quotient is rounded to is nearest to it, unless it is out of range. -/
theorem isNearest_ofRatio (hd : 0 < d) (h : (ofRatio s n d).isFinite = true) :
    (ofRatio s n d).IsNearest ((signed s n : ℚ) / d) := by
  refine ⟨h, fun y hy => ?_⟩
  rw [ofRatio] at h ⊢
  rcases ofUnits_cases s (n * Magnitude.one) d with ⟨m, hm, hfinite⟩ | ⟨-, hinfinite⟩
  · obtain ⟨t, m', rfl⟩ := exists_of_isFinite hy
    have hpos : (0 : ℚ) < Magnitude.one * d := by exact_mod_cast Nat.mul_pos Magnitude.one_pos hd
    rw [hfinite, abs_value_sub hd, abs_value_sub hd, div_le_div_iff_of_pos_right hpos, Nat.cast_le]
    rw [← signed_mul, ← signed_mul, ← signed_mul, hm]
    have hnear := Magnitude.rounded_nearest m'.precise hd (n * Magnitude.one)
    -- of a number with the other sign zero is on the way
    have hzero := Magnitude.rounded_nearest (u := 0) ⟨0, 0, by decide, rfl⟩ hd (n * Magnitude.one)
    unfold signed
    cases s <;> cases t <;> simp only [Bool.false_eq_true, if_true, if_false] <;> omega
  · rw [hinfinite] at h
    cases h

/-- Where a number is a rational number, no other is nearest to it. -/
theorem IsNearest.value_eq (hx : x.IsNearest q) (hy : y.isFinite = true) (h : y.value = q) :
    x.value = q := by
  have hle := hx.2 y hy
  rw [h, sub_self, abs_zero, abs_nonpos_iff, sub_eq_zero] at hle
  exact hle

/-- Two numbers that are nearest lie on either side. -/
theorem IsNearest.add_value_eq (hx : x.IsNearest q) (hy : y.IsNearest q) (hne : x.value ≠ y.value) :
    x.value + y.value = 2 * q := by
  have habs : |x.value - q| = |y.value - q| := le_antisymm (hx.2 y hy.1) (hy.2 x hx.1)
  rcases abs_eq_abs.1 habs with h | h
  · exact absurd (sub_left_injective h) hne
  · linarith

end Binary64

end Storefront
