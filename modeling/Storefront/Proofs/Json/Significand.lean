import Mathlib.Tactic.Ring
import Storefront.Json.Numeral
import Storefront.Proofs.Text.Digits

/-!
# The digits that are kept

As long as its digits fit into a word a numeral keeps all of them. Where they do not, nothing is lost if all but
the first of them are zeros: what no longer fits are zeros then, wherever the point stands among them.
-/

namespace Storefront.Json

open Text (isDigit)

variable {ds es rest : List Char} {k kept t j : Nat} {n : Numeral}

/-! ## Taking digits -/

theorem le_ofDigitChars (ds : List Char) (k : Nat) : k ≤ Nat.ofDigitChars 10 ds k := by
  rw [Nat.ofDigitChars_eq_ofDigitChars_zero]
  exact Nat.le_trans (Nat.le_mul_of_pos_left k (Nat.pow_pos (by decide))) (Nat.le_add_right _ _)

theorem ofDigitChars_cons_eq (d : Char) (ds : List Char) (k : Nat) :
    Nat.ofDigitChars 10 (d :: ds) k = Nat.ofDigitChars 10 ds (Nat.ofDigitChars 10 [d] k) :=
  Nat.ofDigitChars_append (l := [d]) k

/-- Digits that fit are all taken. -/
theorem takeDigits_of_lt (h : Nat.ofDigitChars 10 ds k < UInt64.size) :
    takeDigits k ds = (Nat.ofDigitChars 10 ds k, []) := by
  induction ds generalizing k with
  | nil => rfl
  | cons d ds ih =>
    rw [ofDigitChars_cons_eq] at h ⊢
    rw [takeDigits, if_pos (Nat.lt_of_le_of_lt (le_ofDigitChars ds _) h), ih h]

/-- The digits that are taken make up the number, and it fits; the first of the digits left would not. -/
theorem takeDigits_spec (hk : k < UInt64.size) (h : takeDigits k ds = (kept, rest)) :
    kept < UInt64.size ∧ (∃ taken, ds = taken ++ rest ∧ Nat.ofDigitChars 10 taken k = kept) ∧
      ∀ d r, rest = d :: r → UInt64.size ≤ Nat.ofDigitChars 10 [d] kept := by
  induction ds generalizing k with
  | nil =>
    cases h
    exact ⟨hk, ⟨[], rfl, rfl⟩, nofun⟩
  | cons d ds ih =>
    rw [takeDigits] at h
    split at h
    · next hfits =>
      obtain ⟨hkept, ⟨taken, rfl, htaken⟩, hleft⟩ := ih hfits h
      exact ⟨hkept, ⟨d :: taken, rfl, (ofDigitChars_cons_eq d taken k).trans htaken⟩, hleft⟩
    · next hfull =>
      cases h
      refine ⟨hk, ⟨[], rfl, rfl⟩, fun d' r heq => ?_⟩
      cases heq
      exact Nat.le_of_not_lt hfull

/-- Further digits are taken only if none was left before. -/
theorem takeDigits_append (ds es : List Char) (k : Nat) :
    takeDigits k (ds ++ es) =
      if (takeDigits k ds).2 = [] then takeDigits (takeDigits k ds).1 es
      else ((takeDigits k ds).1, (takeDigits k ds).2 ++ es) := by
  induction ds generalizing k with
  | nil => rfl
  | cons d ds ih =>
    rw [List.cons_append, takeDigits, takeDigits]
    split
    · exact ih _
    · rfl

/-! ## A few digits and zeros -/

/-- Of a number with few digits before its zeros only zeros are left when many digits have been taken. -/
theorem tail_eq_zero {count r : Nat} (hvalue : kept * 10 ^ count + r = t * 10 ^ j) (hr : r < 10 ^ count)
    (ht : t ≤ 1000000000000000) (hkept : 1000000000000000000 ≤ kept) : r = 0 := by
  have hlarge : 1000000000000000000 * 10 ^ count ≤ 1000000000000000 * 10 ^ j := by
    calc 1000000000000000000 * 10 ^ count ≤ kept * 10 ^ count := Nat.mul_le_mul_right _ hkept
      _ ≤ t * 10 ^ j := by omega
      _ ≤ 1000000000000000 * 10 ^ j := Nat.mul_le_mul_right _ ht
  have hle : count ≤ j := by
    by_contra hlt
    have hpow : 10 ^ j ≤ 10 ^ count := Nat.pow_le_pow_right (by decide) (by omega)
    have hpos : 0 < 10 ^ count := Nat.pow_pos (by decide)
    omega
  have hdvd : 10 ^ count ∣ kept * 10 ^ count + r := by
    rw [hvalue]
    exact Nat.dvd_mul_left_of_dvd (Nat.pow_dvd_pow 10 hle) t
  exact Nat.eq_zero_of_dvd_of_lt ((Nat.dvd_add_right (Nat.dvd_mul_left _ kept)).1 hdvd) hr

/-- Of such digits those that are left are zeros. -/
theorem takeDigits_zeros (hds : ds.all isDigit = true) (hvalue : digitsValue ds = t * 10 ^ j)
    (ht : t ≤ 1000000000000000) (h : takeDigits 0 ds = (kept, rest)) :
    digitsValue ds = kept * 10 ^ rest.length ∧ ∀ d ∈ rest, d = '0' := by
  obtain ⟨-, ⟨taken, rfl, htaken⟩, hleft⟩ := takeDigits_spec (by decide) h
  rw [List.all_append, Bool.and_eq_true] at hds
  have hsum : digitsValue (taken ++ rest) = kept * 10 ^ rest.length + Nat.ofDigitChars 10 rest 0 := by
    rw [digitsValue, Nat.ofDigitChars_append, htaken, Nat.ofDigitChars_eq_ofDigitChars_zero, Nat.mul_comm]
  have hzero : Nat.ofDigitChars 10 rest 0 = 0 := by
    cases rest with
    | nil => rfl
    | cons d r =>
      have hfull := hleft d r rfl
      have hd := Text.toNat_le_of_isDigit (List.all_eq_true.1 hds.2 d List.mem_cons_self)
      rw [Nat.ofDigitChars_cons, Nat.ofDigitChars_nil] at hfull
      simp only [UInt64.size] at hfull
      exact tail_eq_zero (hsum ▸ hvalue) (Text.ofDigitChars_lt hds.2) ht (by omega)
  exact ⟨by rw [hsum, hzero, Nat.add_zero], fun d hd => Text.eq_zero_of_mem hds.2 hzero hd⟩

namespace Numeral

/-- What all digits of a numeral denote, the point left out. -/
def significand (n : Numeral) : Nat := digitsValue (n.whole ++ n.fraction)

/-- The power of ten by which they are to be multiplied. -/
def power (n : Numeral) : Int := n.exponent.getD 0 - n.fraction.length

/-- Digits that fit are kept as they are. -/
theorem parts_of_lt (h : n.significand < UInt64.size) : n.parts = (n.significand, n.power) := by
  rw [significand, digitsValue, Nat.ofDigitChars_append] at h
  have hwhole := takeDigits_of_lt (Nat.lt_of_le_of_lt (le_ofDigitChars n.fraction _) h)
  have hfraction := takeDigits_of_lt h
  rw [parts]
  simp only [hwhole, hfraction, List.length_nil, Int.natCast_zero, Int.add_zero, significand, power, digitsValue,
    Nat.ofDigitChars_append]

/-- A few digits and zeros are kept as what they denote. -/
theorem parts_of_zeros (hwhole : n.whole.all isDigit = true) (hfraction : n.fraction.all isDigit = true)
    (hvalue : n.significand = t * 10 ^ j) (ht : t ≤ 1000000000000000) :
    ∃ kept zeros : Nat, kept < UInt64.size ∧ n.significand = kept * 10 ^ zeros ∧ n.parts = (kept, n.power + zeros) := by
  have hall : (n.whole ++ n.fraction).all isDigit = true := by
    rw [List.all_append, hwhole, hfraction]
    rfl
  obtain ⟨kept, rest, htake⟩ : ∃ kept rest, takeDigits 0 (n.whole ++ n.fraction) = (kept, rest) := ⟨_, _, rfl⟩
  obtain ⟨hkept, -, hleft⟩ := takeDigits_spec (by decide) htake
  obtain ⟨hdenotes, hzeros⟩ := takeDigits_zeros hall hvalue ht htake
  obtain ⟨first, skipped, hfirst⟩ : ∃ first skipped, takeDigits 0 n.whole = (first, skipped) := ⟨_, _, rfl⟩
  rw [takeDigits_append, hfirst] at htake
  refine ⟨kept, rest.length, hkept, hdenotes, ?_⟩
  by_cases hnone : skipped = []
  · rw [if_pos hnone] at htake
    rw [parts]
    simp only [hfirst, htake, hnone, List.length_nil, Int.natCast_zero, Int.add_zero, power]
    congr 1
    omega
  · rw [if_neg hnone] at htake
    obtain ⟨rfl, rfl⟩ := Prod.mk.inj htake
    -- the first zero that does not fit is before the point, so none behind it does
    have hbehind : takeDigits first n.fraction = (first, n.fraction) := by
      obtain ⟨c, r, hskipped⟩ := List.exists_cons_of_ne_nil hnone
      have hfull := hleft c (r ++ n.fraction) (by rw [hskipped, List.cons_append])
      cases hfraction : n.fraction with
      | nil => rfl
      | cons d r' =>
        have hc := hzeros c (List.mem_append_left _ (hskipped ▸ List.mem_cons_self))
        have hd := hzeros d (List.mem_append_right _ (hfraction ▸ List.mem_cons_self))
        rw [hc] at hfull
        rw [hd, takeDigits, if_neg (Nat.not_lt.2 hfull)]
    rw [parts]
    simp only [hfirst, hbehind, List.length_append, Int.natCast_add, power]
    congr 1
    omega

end Numeral

end Storefront.Json
