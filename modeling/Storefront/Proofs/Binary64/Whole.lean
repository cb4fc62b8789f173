import Mathlib.Data.Rat.Floor
import Storefront.Proofs.Binary64.Order

/-!
# Rounding to a whole number

From 2^52 on every number is whole, and up to there every whole number is a number. So the whole number nearest
to a number is a number itself, and to round to it is exact. Half way between two whole numbers the one farther
from zero is taken.
-/

namespace Storefront

/-- From half way up a quotient is rounded to the greater number. -/
theorem roundDiv_up_near (n : Nat) {d : Nat} (hd : 0 < d) :
    2 * n < 2 * (roundDiv .up n d * d) + d ∧ 2 * (roundDiv .up n d * d) ≤ 2 * n + d := by
  have hn : n / d * d + n % d = n := by rw [Nat.mul_comm]; exact Nat.div_add_mod n d
  have hsucc : (n / d + 1) * d = n / d * d + d := Nat.succ_mul _ _
  have hr : n % d < d := Nat.mod_lt n hd
  unfold roundDiv
  simp only
  split
  · omega
  · split <;> omega

namespace Magnitude

/-- A precise number of at least 2^52 times a power of two is a multiple of this power. -/
theorem Precise.two_pow_mul_one_dvd {u j : Nat} (hu : Precise u) (h : 2 ^ (52 + j) * one ≤ u) :
    2 ^ j * one ∣ u := by
  have hlarge : 2 ^ (52 + (j + fractionBits)) ≤ u := by
    rw [← Nat.add_assoc, Nat.pow_add]
    rwa [one] at h
  have hdvd := hu.two_pow_dvd hlarge
  rw [Nat.pow_add] at hdvd
  rwa [one]

variable (m : Magnitude)

/-- How many ones a size is nearest to. -/
def whole : Nat := roundDiv .up m.units one

theorem whole_mul_one (h : 2 ^ 52 * one ≤ m.units) : m.whole * one = m.units := by
  obtain ⟨t, ht⟩ := Precise.two_pow_mul_one_dvd (j := 0) m.precise h
  have hunits : m.units = t * one := by
    rw [ht]
    ring
  rw [whole, hunits, roundDiv_mul t one_pos]

theorem whole_le (h : m.units < 2 ^ 52 * one) : m.whole ≤ 2 ^ 52 := by
  have hle : m.whole ≤ roundDiv .up (2 ^ 52 * one) one :=
    roundDiv_mono one_pos one_pos (Nat.mul_le_mul_right one (Nat.le_of_lt h))
  rwa [roundDiv_mul _ one_pos] at hle

theorem precise_whole : Precise (m.whole * one) := by
  by_cases h : 2 ^ 52 * one ≤ m.units
  · rw [m.whole_mul_one h]
    exact m.precise
  · refine precise_mul_one (Nat.le_trans (m.whole_le (Nat.lt_of_not_le h)) ?_)
    decide

theorem whole_lt_limit : m.whole * one < limit := by
  by_cases h : 2 ^ 52 * one ≤ m.units
  · rw [m.whole_mul_one h]
    exact m.bounded
  · exact mul_one_lt_limit (Nat.lt_of_le_of_lt (m.whole_le (Nat.lt_of_not_le h)) (by decide))

/-- The whole size nearest to a size. -/
def round : Magnitude := ⟨m.whole * one, m.precise_whole, m.whole_lt_limit⟩

end Magnitude

namespace Binary64

/-- The whole number nearest to a number, as a number. Infinities and what is no number stay what they are. -/
def round : Binary64 → Binary64
  | finite negative m => finite negative m.round
  | infinite negative => infinite negative
  | nan => nan

variable {x : Binary64} {s : Bool} {m : Magnitude} {i : Int}

@[simp] theorem isFinite_round : x.round.isFinite = x.isFinite := by
  cases x <;> rfl

theorem value_round_finite : (finite s m).round.value = signed s m.whole := by
  show ((signed s (m.whole * Magnitude.one) : Int) : ℚ) / Magnitude.one = signed s m.whole
  rw [signed_mul, Int.cast_mul, Int.cast_natCast, mul_div_cancel_right₀ _ Magnitude.one_ne_zero]

/-- What is rounded to as an integer is the value of what is rounded to as a number. -/
theorem nearestInt?_eq_some_iff : x.nearestInt? = some i ↔ x.round.isFinite = true ∧ x.round.value = i := by
  cases x with
  | nan => exact ⟨nofun, nofun⟩
  | infinite s => exact ⟨nofun, nofun⟩
  | finite s m =>
    rw [value_round_finite, Int.cast_inj]
    exact ⟨fun h => ⟨rfl, Option.some.inj h⟩, fun h => congrArg some h.2⟩

theorem exists_nearestInt (h : x.isFinite = true) : ∃ i, x.nearestInt? = some i := by
  obtain ⟨s, m, rfl⟩ := exists_of_isFinite h
  exact ⟨_, rfl⟩

theorem floor_units (m : Magnitude) : ⌊(m.units : ℚ) / Magnitude.one + 1 / 2⌋ = (m.whole : Int) := by
  obtain ⟨hbelow, habove⟩ := roundDiv_up_near m.units Magnitude.one_pos
  have hone : (0 : ℚ) < Magnitude.one := by exact_mod_cast Magnitude.one_pos
  have hbelow' : 2 * (m.units : ℚ) < 2 * (m.whole * Magnitude.one) + Magnitude.one := by exact_mod_cast hbelow
  have habove' : 2 * (m.whole * Magnitude.one : ℚ) ≤ 2 * m.units + Magnitude.one := by exact_mod_cast habove
  have hscale : (m.units : ℚ) / Magnitude.one * Magnitude.one = m.units := div_mul_cancel₀ _ hone.ne'
  rw [Int.floor_eq_iff, Int.cast_natCast]
  constructor
  · refine le_of_mul_le_mul_right ?_ hone
    linarith
  · refine lt_of_mul_lt_mul_right ?_ hone.le
    linarith

/-- A number is rounded to the whole number that lies at most one half farther from zero. -/
theorem value_round (x : Binary64) :
    x.round.value = if x.value < 0 then -(⌊-x.value + 1 / 2⌋ : ℚ) else (⌊x.value + 1 / 2⌋ : ℚ) := by
  have hzero : (0 : ℚ) = if (0 : ℚ) < 0 then -(⌊-(0 : ℚ) + 1 / 2⌋ : ℚ) else (⌊(0 : ℚ) + 1 / 2⌋ : ℚ) := by
    norm_num
  cases x with
  | nan => exact hzero
  | infinite s => exact hzero
  | finite s m =>
    have hnonneg : (0 : ℚ) ≤ m.units / Magnitude.one := by positivity
    rw [value_round_finite, value_finite]
    cases s with
    | false =>
      have hvalue : ((signed false m.units : Int) : ℚ) / Magnitude.one = m.units / Magnitude.one := rfl
      rw [hvalue, if_neg (not_lt.2 hnonneg), floor_units]
      rfl
    | true =>
      have hvalue : ((signed true m.units : Int) : ℚ) / Magnitude.one = -(m.units / Magnitude.one) := by
        show ((-(m.units : Int) : Int) : ℚ) / Magnitude.one = _
        rw [Int.cast_neg, Int.cast_natCast, neg_div]
      have hwhole : ((signed true m.whole : Int) : ℚ) = -((m.whole : Int) : ℚ) := Int.cast_neg _
      rw [hvalue, hwhole, neg_neg, ← floor_units]
      split
      · rfl
      · next hnot =>
        -- zero is its own opposite
        have hunits : (m.units : ℚ) / Magnitude.one = 0 := by linarith
        rw [hunits]
        norm_num

end Binary64

end Storefront
