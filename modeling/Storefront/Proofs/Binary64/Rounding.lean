import Mathlib.Tactic.Linarith
import Mathlib.Tactic.Ring
import Storefront.Binary64.Basic

/-!
# What rounding does to a quotient

Rounding depends on the quotient alone and keeps its order. It leaves a number that has 53 significant
bits as it is, and takes every quotient that is near enough to such a number to that number.
-/

namespace Storefront

/-! ## Rounding to a natural number -/

variable {tie : Tie} {n d n' d' s : Nat}

/-- The rounded quotient is within one half of the quotient. -/
theorem roundDiv_near (tie : Tie) (n : Nat) {d : Nat} (hd : 0 < d) :
    2 * n ≤ 2 * (roundDiv tie n d * d) + d ∧ 2 * (roundDiv tie n d * d) ≤ 2 * n + d := by
  have hn : n / d * d + n % d = n := by rw [Nat.mul_comm]; exact Nat.div_add_mod n d
  have hr : n % d < d := Nat.mod_lt n hd
  have hsucc : (n / d + 1) * d = n / d * d + d := Nat.succ_mul _ _
  have hcases : (roundDiv tie n d = n / d ∧ 2 * (n % d) ≤ d) ∨
      (roundDiv tie n d = n / d + 1 ∧ d ≤ 2 * (n % d)) := by
    unfold roundDiv
    simp only
    split
    · exact .inl ⟨rfl, by omega⟩
    · split
      · exact .inr ⟨rfl, by omega⟩
      · cases tie with
        | up => exact .inr ⟨rfl, by omega⟩
        | even =>
          rcases Nat.mod_two_eq_zero_or_one (n / d) with h | h
          · exact .inl ⟨by simp only [h]; omega, by omega⟩
          · exact .inr ⟨by simp only [h], by omega⟩
  rcases hcases with ⟨heq, hle⟩ | ⟨heq, hle⟩ <;> rw [heq]
  · omega
  · rw [hsucc]; omega

/-- A quotient nearer than one half to a natural number is rounded to it. -/
theorem roundDiv_eq_of_near (hd : 0 < d) (hbelow : 2 * n < 2 * (s * d) + d)
    (habove : 2 * (s * d) < 2 * n + d) : roundDiv tie n d = s := by
  obtain ⟨h₁, h₂⟩ := roundDiv_near tie n hd
  apply Nat.le_antisymm
  · by_contra hlt
    have hle : (s + 1) * d ≤ roundDiv tie n d * d := Nat.mul_le_mul_right d (by omega)
    rw [Nat.succ_mul] at hle
    omega
  · by_contra hlt
    have hle : (roundDiv tie n d + 1) * d ≤ s * d := Nat.mul_le_mul_right d (by omega)
    rw [Nat.succ_mul] at hle
    omega

theorem roundDiv_mul (s : Nat) (hd : 0 < d) : roundDiv tie (s * d) d = s :=
  roundDiv_eq_of_near hd (by omega) (by omega)

theorem roundDiv_zero (hd : 0 < d) : roundDiv tie 0 d = 0 := by
  have h : roundDiv tie (0 * d) d = 0 := roundDiv_mul 0 hd
  rwa [Nat.zero_mul] at h

theorem roundDiv_mul_right {c : Nat} (hc : 0 < c) :
    roundDiv tie (n * c) (d * c) = roundDiv tie n d := by
  have hlt : ∀ a b : Nat, a * c < b * c ↔ a < b := fun a b => Nat.mul_lt_mul_right hc
  unfold roundDiv
  simp only [Nat.mul_div_mul_right n d hc, Nat.mul_mod_mul_right, ← Nat.mul_assoc, hlt]

theorem roundDiv_congr (hd : 0 < d) (hd' : 0 < d') (h : n * d' = n' * d) :
    roundDiv tie n d = roundDiv tie n' d' := by
  rw [← roundDiv_mul_right hd', h, Nat.mul_comm d d', roundDiv_mul_right hd]

theorem roundDiv_mono (hd : 0 < d) (hd' : 0 < d') (h : n * d' ≤ n' * d) :
    roundDiv tie n d ≤ roundDiv tie n' d' := by
  rcases Nat.eq_or_lt_of_le h with heq | hlt
  · exact Nat.le_of_eq (roundDiv_congr hd hd' heq)
  · by_contra hgt
    obtain ⟨-, h₂⟩ := roundDiv_near tie n hd
    obtain ⟨h₁, -⟩ := roundDiv_near tie n' hd'
    generalize roundDiv tie n d = a at *
    generalize roundDiv tie n' d' = b at *
    have hab : b + 1 ≤ a := by omega
    have hdd : 0 < d * d' := Nat.mul_pos hd hd'
    have ha : 2 * (a * d) * d' ≤ (2 * n + d) * d' := Nat.mul_le_mul_right d' h₂
    have hb : 2 * n' * d ≤ (2 * (b * d') + d') * d := Nat.mul_le_mul_right d h₁
    have hmul : (b + 1) * (d * d') ≤ a * (d * d') := Nat.mul_le_mul_right _ hab
    nlinarith

namespace Magnitude

/-! ## The number of bits that do not fit -/

theorem excessBits_congr {c : Nat} (hc : 0 < c) : excessBits (n * c) (d * c) = excessBits n d := by
  rw [excessBits, Nat.mul_div_mul_right n d hc, excessBits]

theorem le_div_of_excessBits_pos (h : 0 < excessBits n d) : 2 ^ (52 + excessBits n d) ≤ n / d := by
  have hlog : 52 + excessBits n d = (n / d).log2 := by unfold excessBits at *; omega
  rw [hlog]
  refine Nat.log2_self_le fun hzero => ?_
  rw [excessBits, hzero] at h
  exact absurd h (by decide)

theorem div_lt_two_pow (n d : Nat) : n / d < 2 ^ (53 + excessBits n d) := by
  refine Nat.lt_of_lt_of_le Nat.lt_log2_self (Nat.pow_le_pow_right (by decide) ?_)
  unfold excessBits
  omega

theorem excessBits_le_of_lt {k : Nat} (h : n / d < 2 ^ (53 + k)) : excessBits n d ≤ k := by
  by_contra hlt
  have hle := le_div_of_excessBits_pos (n := n) (d := d) (by omega)
  have hpow : 2 ^ (53 + k) ≤ 2 ^ (52 + excessBits n d) :=
    Nat.pow_le_pow_right (by decide) (by omega)
  omega

/-! ## Rounding to 53 significant bits -/

/-- Has the number at most 53 significant bits? -/
def Precise (u : Nat) : Prop := ∃ m k, m ≤ greatestSignificand ∧ u = m * Nat.pow 2 k

theorem rounded_congr (hd : 0 < d) (hd' : 0 < d') (h : n * d' = n' * d) :
    rounded n d = rounded n' d' := by
  have hexcess : excessBits n d = excessBits n' d' := by
    rw [← excessBits_congr hd', h, Nat.mul_comm d d', excessBits_congr hd]
  have hpow : 0 < Nat.pow 2 (excessBits n' d') := two_pow_pos _
  rw [rounded, rounded, significand, significand, hexcess]
  congr 1
  refine roundDiv_congr (Nat.mul_pos hd hpow) (Nat.mul_pos hd' hpow) ?_
  rw [← Nat.mul_assoc, h]
  ring

/-- Bits of a precise number below its first 53 are zero. -/
theorem Precise.two_pow_dvd {u k : Nat} (h : Precise u) (hk : 2 ^ (52 + k) ≤ u) : 2 ^ k ∣ u := by
  obtain ⟨m, j, hm, rfl⟩ := h
  change 2 ^ (52 + k) ≤ m * 2 ^ j at hk
  change 2 ^ k ∣ m * 2 ^ j
  by_cases hkj : k ≤ j
  · exact Nat.dvd_mul_left_of_dvd (Nat.pow_dvd_pow 2 hkj) m
  · have hj : j + 1 ≤ k := by omega
    have hm53 : 2 ^ 53 ≤ m := by
      have hpow : 2 ^ 53 * 2 ^ j ≤ m * 2 ^ j := by
        rw [← Nat.pow_add]
        exact Nat.le_trans (Nat.pow_le_pow_right (by decide) (by omega)) hk
      exact Nat.le_of_mul_le_mul_right hpow (Nat.two_pow_pos j)
    have hmeq : m = 2 ^ 53 := Nat.le_antisymm hm hm53
    have hle : 52 + k ≤ 53 + j := by
      rw [hmeq, ← Nat.pow_add] at hk
      exact (Nat.pow_le_pow_iff_right (by decide)).1 hk
    rw [hmeq, ← Nat.pow_add]
    exact Nat.pow_dvd_pow 2 (by omega)

theorem lt_two_pow_mul (n : Nat) (hd : 0 < d) : n < 2 ^ 53 * (d * 2 ^ excessBits n d) := by
  have h := (Nat.div_lt_iff_lt_mul hd).1 (div_lt_two_pow n d)
  rw [Nat.pow_add] at h
  calc n < 2 ^ 53 * 2 ^ excessBits n d * d := h
    _ = 2 ^ 53 * (d * 2 ^ excessBits n d) := by ring

/-- The last bit of a quotient divides every precise number just below it or above it. -/
theorem Precise.two_pow_excessBits_dvd {u : Nat} (hu : Precise u) (hd : 0 < d)
    (habove : 20000000000000000 * n ≤ 20000000000000001 * (u * d)) : 2 ^ excessBits n d ∣ u := by
  rcases Nat.eq_zero_or_pos (excessBits n d) with hzero | hexcess
  · rw [hzero]
    exact Nat.one_dvd u
  · refine hu.two_pow_dvd ?_
    by_contra hsmall
    -- below the power of two `u` would be a multiple of half the last bit, and so too small
    obtain ⟨k, hk⟩ : ∃ k, excessBits n d = k + 1 := ⟨excessBits n d - 1, by omega⟩
    have hn : 2 ^ 53 * (2 ^ k * d) ≤ n := by
      have h := (Nat.le_div_iff_mul_le hd).1 (le_div_of_excessBits_pos hexcess)
      rw [hk, show 52 + (k + 1) = 53 + k by omega, Nat.pow_add, Nat.mul_assoc] at h
      exact h
    have hlarge : 2 ^ (52 + k) ≤ u := by
      refine Nat.le_of_mul_le_mul_right (?_ : 2 ^ (52 + k) * d ≤ u * d) hd
      rw [Nat.pow_add, Nat.mul_assoc]
      omega
    obtain ⟨t, rfl⟩ := hu.two_pow_dvd hlarge
    have ht : t < 2 ^ 53 := by
      rw [hk, show 52 + (k + 1) = k + 53 by omega, Nat.pow_add] at hsmall
      exact Nat.lt_of_mul_lt_mul_left (Nat.not_le.1 hsmall)
    have hle : 2 ^ k * t * d ≤ 9007199254740991 * (2 ^ k * d) := by
      calc 2 ^ k * t * d = t * (2 ^ k * d) := by ring
        _ ≤ 9007199254740991 * (2 ^ k * d) := Nat.mul_le_mul_right _ (by omega)
    have hkd : 0 < 2 ^ k * d := Nat.mul_pos (Nat.two_pow_pos k) hd
    omega

/-- A quotient whose distance from a precise number is at most one part in 2 * 10^16 of it is rounded to
this number. -/
theorem rounded_eq_of_close {u : Nat} (hu : Precise u) (hd : 0 < d)
    (hbelow : 19999999999999999 * (u * d) ≤ 20000000000000000 * n)
    (habove : 20000000000000000 * n ≤ 20000000000000001 * (u * d)) : rounded n d = u := by
  have hpos : 0 < d * 2 ^ excessBits n d := Nat.mul_pos hd (Nat.two_pow_pos _)
  have hlt := lt_two_pow_mul n hd
  obtain ⟨t, ht⟩ := hu.two_pow_excessBits_dvd hd habove
  have htd : t * (d * 2 ^ excessBits n d) = u * d := by
    rw [ht]
    ring
  have hround : roundDiv .even n (d * 2 ^ excessBits n d) = t :=
    roundDiv_eq_of_near hpos (by omega) (by omega)
  have hsignificand : significand n d = t := hround
  rw [rounded, hsignificand, ht, Nat.mul_comm]
  rfl

theorem rounded_mul {u : Nat} (hu : Precise u) (hd : 0 < d) : rounded (u * d) d = u :=
  rounded_eq_of_close hu hd (by omega) (by omega)

theorem rounded_zero (hd : 0 < d) : rounded 0 d = 0 := by
  have h := rounded_mul (u := 0) ⟨0, 0, by decide, rfl⟩ hd
  rwa [Nat.zero_mul] at h

/-- What is not rounded to nothing is more than half a unit. -/
theorem lt_two_mul_of_rounded_pos (hd : 0 < d) (h : 0 < rounded n d) : d < 2 * n := by
  by_contra hle
  have hdiv : n / d = 0 := Nat.div_eq_of_lt (by omega)
  have hmod : n % d = n := Nat.mod_eq_of_lt (by omega)
  have hexcess : excessBits n d = 0 := by rw [excessBits, hdiv]; rfl
  have hzero : significand n d = 0 := by
    rw [significand, hexcess, Nat.pow_eq, Nat.pow_zero, Nat.mul_one, roundDiv]
    simp only [hdiv, hmod]
    rw [if_neg (by omega : ¬ d < 2 * n)]
    split <;> rfl
  rw [rounded, hzero, Nat.zero_mul] at h
  exact absurd h (by decide)

theorem rounded_mono (hd : 0 < d) (hd' : 0 < d') (h : n * d' ≤ n' * d) :
    rounded n d ≤ rounded n' d' := by
  have hdiv : n / d ≤ n' / d' := by
    rw [Nat.le_div_iff_mul_le hd']
    refine Nat.le_of_mul_le_mul_right (?_ : n / d * d' * d ≤ n' * d) hd
    calc n / d * d' * d = n / d * d * d' := by ring
      _ ≤ n * d' := Nat.mul_le_mul_right d' (Nat.div_mul_le_self n d)
      _ ≤ n' * d := h
  have hexcess : excessBits n d ≤ excessBits n' d' := by
    refine excessBits_le_of_lt (Nat.lt_of_le_of_lt hdiv (div_lt_two_pow n' d'))
  rcases Nat.eq_or_lt_of_le hexcess with heq | hlt
  · have hpow : 0 < Nat.pow 2 (excessBits n' d') := two_pow_pos _
    rw [rounded, rounded, significand, significand, heq]
    refine Nat.mul_le_mul_right _ (roundDiv_mono (Nat.mul_pos hd hpow) (Nat.mul_pos hd' hpow) ?_)
    calc n * (d' * Nat.pow 2 (excessBits n' d')) = n * d' * Nat.pow 2 (excessBits n' d') := by ring
      _ ≤ n' * d * Nat.pow 2 (excessBits n' d') := Nat.mul_le_mul_right _ h
      _ = n' * (d * Nat.pow 2 (excessBits n' d')) := by ring
  · have hlarge : 2 ^ 52 ≤ significand n' d' := by
      refine Nat.le_trans ?_ (div_le_roundDiv .even n' (d' * Nat.pow 2 (excessBits n' d')))
      have hle := le_div_of_excessBits_pos (n := n') (d := d') (by omega)
      rw [← Nat.div_div_eq_div_mul]
      refine (Nat.le_div_iff_mul_le (two_pow_pos _)).2 ?_
      rw [Nat.pow_add] at hle
      exact hle
    calc rounded n d ≤ 2 ^ 53 * 2 ^ excessBits n d := Nat.mul_le_mul_right _ (significand_le n d)
      _ = 2 ^ 52 * 2 ^ (excessBits n d + 1) := by rw [Nat.pow_succ]; ring
      _ ≤ 2 ^ 52 * 2 ^ excessBits n' d' :=
        Nat.mul_le_mul_left _ (Nat.pow_le_pow_right (by decide) hlt)
      _ ≤ rounded n' d' := Nat.mul_le_mul_right _ hlarge

theorem two_pow_le_one {k : Nat} (hk : k ≤ 1074) : 2 ^ k ≤ one := by
  rw [one]
  refine Nat.pow_le_pow_right (by decide) (Nat.le_trans hk ?_)
  unfold fractionBits
  exact Nat.le_refl _

/-- A size differs from another by at most so many parts in 2^53 of that. -/
structure Near (parts n m : Nat) : Prop where
  below : 2 ^ 53 * n ≤ 2 ^ 53 * m + parts * n
  above : 2 ^ 53 * m ≤ 2 ^ 53 * n + parts * n

namespace Near

variable {parts m p q : Nat}

/-- Two small errors make no more than three. -/
theorem trans (h : Near 1 n m) (h' : Near 1 m p) : Near 3 n p := by
  obtain ⟨hbelow, habove⟩ := h
  obtain ⟨hbelow', habove'⟩ := h'
  constructor <;> omega

theorem mul_right (h : Near parts n m) (q : Nat) : Near parts (n * q) (m * q) := by
  constructor
  · calc 2 ^ 53 * (n * q) = 2 ^ 53 * n * q := (Nat.mul_assoc _ _ _).symm
      _ ≤ (2 ^ 53 * m + parts * n) * q := Nat.mul_le_mul_right q h.below
      _ = 2 ^ 53 * (m * q) + parts * (n * q) := by ring
  · calc 2 ^ 53 * (m * q) = 2 ^ 53 * m * q := (Nat.mul_assoc _ _ _).symm
      _ ≤ (2 ^ 53 * n + parts * n) * q := Nat.mul_le_mul_right q h.above
      _ = 2 ^ 53 * (n * q) + parts * (n * q) := by ring

theorem of_mul_right (hq : 0 < q) (h : Near parts (n * q) (m * q)) : Near parts n m := by
  obtain ⟨hbelow, habove⟩ := h
  constructor
  · refine Nat.le_of_mul_le_mul_right ?_ hq
    calc 2 ^ 53 * n * q = 2 ^ 53 * (n * q) := Nat.mul_assoc _ _ _
      _ ≤ 2 ^ 53 * (m * q) + parts * (n * q) := hbelow
      _ = (2 ^ 53 * m + parts * n) * q := by ring
  · refine Nat.le_of_mul_le_mul_right ?_ hq
    calc 2 ^ 53 * m * q = 2 ^ 53 * (m * q) := Nat.mul_assoc _ _ _
      _ ≤ 2 ^ 53 * (n * q) + parts * (n * q) := habove
      _ = (2 ^ 53 * n + parts * n) * q := by ring

end Near

/-- From 2^52 units on the rounded number differs from the quotient by at most one part in 2^53 of it. -/
theorem rounded_near (hd : 0 < d) (hlarge : 2 ^ 52 * d ≤ n) : Near 1 n (rounded n d * d) := by
  have hpos : 0 < d * Nat.pow 2 (excessBits n d) := Nat.mul_pos hd (two_pow_pos _)
  have hn : 2 ^ 52 * (d * Nat.pow 2 (excessBits n d)) ≤ n := by
    rcases Nat.eq_zero_or_pos (excessBits n d) with hzero | hexcess
    · rw [hzero]
      show 2 ^ 52 * (d * 1) ≤ n
      omega
    · have h := (Nat.le_div_iff_mul_le hd).1 (le_div_of_excessBits_pos hexcess)
      rw [Nat.pow_add] at h
      calc 2 ^ 52 * (d * 2 ^ excessBits n d) = 2 ^ 52 * 2 ^ excessBits n d * d := by ring
        _ ≤ n := h
  obtain ⟨h₁, h₂⟩ := roundDiv_near .even n hpos
  have heq : rounded n d * d = significand n d * (d * Nat.pow 2 (excessBits n d)) := by
    rw [rounded]
    ring
  rw [heq, significand]
  constructor <;> omega

/-! ## Numbers in range -/

theorem nearest?_eq_some_iff {m : Magnitude} : nearest? n d = some m ↔ rounded n d = m.units := by
  unfold nearest?
  constructor
  · intro h
    split at h
    · cases h; rfl
    · cases h
  · intro h
    rw [dif_pos (h ▸ m.bounded)]
    exact congrArg some (ext_units h)

theorem nearest?_congr (hd : 0 < d) (hd' : 0 < d') (h : n * d' = n' * d) :
    nearest? n d = nearest? n' d' := by
  unfold nearest?
  simp only [rounded_congr hd hd' h]

/-! ## Whole numbers -/

theorem precise_mul_one {k : Nat} (hk : k ≤ greatestSignificand) : Precise (k * one) := by
  refine ⟨k, fractionBits, hk, ?_⟩
  rw [one]

/-- Whole numbers up to 2^53 times powers of two are precise. -/
theorem precise_mul_pow_mul_one {k j : Nat} (hk : k ≤ greatestSignificand) :
    Precise (k * 2 ^ j * one) := by
  refine ⟨k, j + fractionBits, hk, ?_⟩
  rw [one, Nat.pow_eq, Nat.pow_eq, Nat.mul_assoc, ← Nat.pow_add]

theorem mul_one_lt_limit {k : Nat} (hk : k < 2 ^ 100) : k * one < limit := by
  refine Nat.lt_of_lt_of_le (Nat.mul_lt_mul_of_pos_right hk Magnitude.one_pos) ?_
  rw [one, limit, Nat.pow_eq, Nat.pow_eq, ← Nat.pow_add]
  exact Nat.pow_le_pow_right (by decide) (by omega)

/-- The number nearest to a quotient that is known to be in range. -/
theorem exists_units_of_le {k : Nat} (hk : k < 2 ^ 100) (h : rounded n d ≤ k * one) :
    ∃ m : Magnitude, m.units = rounded n d ∧ m.units ≤ k * one :=
  ⟨⟨rounded n d, ⟨_, _, significand_le n d, rfl⟩, Nat.lt_of_le_of_lt h (mul_one_lt_limit hk)⟩, rfl, h⟩

/-- A quotient up to a precise number is rounded to a number up to it. -/
theorem exists_units (hd : 0 < d) {k : Nat} (hk : k < 2 ^ 100) (hprecise : Precise (k * one))
    (h : n ≤ k * one * d) : ∃ m : Magnitude, m.units = rounded n d ∧ m.units ≤ k * one := by
  have hmono : rounded n d ≤ rounded (k * one * d) d :=
    rounded_mono hd hd (Nat.mul_le_mul_right d h)
  rw [rounded_mul hprecise hd] at hmono
  exact exists_units_of_le hk hmono

end Magnitude

namespace Binary64

open Magnitude (one rounded rounded_mul)

variable {n d : Nat} {negative : Bool} {m : Magnitude}

theorem ofUnits_eq_finite (h : rounded n d = m.units) : ofUnits negative n d = .finite negative m := by
  unfold ofUnits
  rw [Magnitude.nearest?_eq_some_iff.2 h]

/-- Precise natural numbers are numbers. -/
theorem exists_ofInt_of_precise {k : Nat} (hk : k < 2 ^ 100) (hprecise : Magnitude.Precise (k * one)) :
    ∃ m : Magnitude, m.units = k * one ∧ ofInt k = .finite false m := by
  obtain ⟨m, hm, -⟩ := Magnitude.exists_units (n := k * one) (d := 1) Nat.one_pos hk hprecise
    (Nat.le_of_eq (Nat.mul_one _).symm)
  have hunits : rounded (k * one) 1 = k * one := by
    have h := rounded_mul hprecise Nat.one_pos
    rwa [Nat.mul_one] at h
  refine ⟨m, hm.trans hunits, ?_⟩
  have hsign : decide ((k : Int) < 0) = false := decide_eq_false (Int.not_lt.2 (Int.natCast_nonneg k))
  rw [ofInt, ofRatio, hsign]
  exact ofUnits_eq_finite hm.symm

/-- Natural numbers of 53 bits are numbers. -/
theorem exists_ofInt {k : Nat} (hk : k ≤ Magnitude.greatestSignificand) :
    ∃ m : Magnitude, m.units = k * one ∧ ofInt k = .finite false m :=
  exists_ofInt_of_precise (Nat.lt_of_le_of_lt hk (by decide)) (Magnitude.precise_mul_one hk)

end Binary64

end Storefront
