import Mathlib.Algebra.Group.Nat.Defs
import Storefront.Text.Digits

/-!
# Digits and numbers

How long the digits of a number are, which digit comes first, and what digits with zeros before or
behind them denote.
-/

namespace Storefront.Text

variable {n k width : Nat}

theorem length_digits_pos (n : Nat) : 0 < (digits n).length :=
  List.length_pos_iff.2 (digits_ne_nil n)

theorem length_digits_le_iff (hk : 0 < k) : (digits n).length ≤ k ↔ n < 10 ^ k :=
  Nat.length_toDigits_le_iff (by decide) hk

theorem lt_pow_length_digits (n : Nat) : n < 10 ^ (digits n).length :=
  (length_digits_le_iff (length_digits_pos n)).1 (Nat.le_refl _)

/-- Without its last digit a number would have one digit less. -/
theorem pow_le_of_length_digits (hn : 0 < n) : 10 ^ ((digits n).length - 1) ≤ n := by
  refine Nat.le_of_not_lt fun hlt => ?_
  have hpos : 0 < (digits n).length - 1 := by
    apply Nat.pos_of_ne_zero
    intro hzero
    rw [hzero, Nat.pow_zero] at hlt
    omega
  have hle := (length_digits_le_iff hpos).2 hlt
  have := length_digits_pos n
  omega

theorem toNat_le_of_isDigit {c : Char} (h : isDigit c = true) : '0'.toNat ≤ c.toNat ∧ c.toNat ≤ '0'.toNat + 9 := by
  simp only [isDigit, Char.isDigit, Bool.and_eq_true, decide_eq_true_eq, ge_iff_le] at h
  exact h

/-- Only zero is written with a zero in front. -/
theorem eq_nil_of_digits_eq_zero_cons {ds : List Char} (h : digits n = '0' :: ds) : ds = [] := by
  induction n using Nat.strongRecOn generalizing ds with
  | ind n ih =>
    rw [digits, Nat.toDigits_eq_if (by decide)] at h
    split at h
    · exact (List.cons.inj h).2.symm
    · next hge =>
      obtain ⟨c, cs, hcs⟩ := List.exists_cons_of_ne_nil (digits_ne_nil (n / 10))
      have hdigits : Nat.toDigits 10 (n / 10) = c :: cs := hcs
      rw [hdigits, List.cons_append] at h
      obtain ⟨rfl, -⟩ := List.cons.inj h
      obtain rfl := ih (n / 10) (Nat.div_lt_self (by omega) (by decide)) hcs
      have hzero : n / 10 = 0 := by
        have hread := ofDigits?_digits (n / 10)
        rw [hcs] at hread
        exact (Option.some.inj hread).symm
      omega

theorem digits_eq_of_head?_eq_zero (h : (digits n).head? = some '0') : digits n = ['0'] := by
  obtain ⟨ds, hds⟩ := List.head?_eq_some_iff.1 h
  rw [hds, eq_nil_of_digits_eq_zero_cons hds]

theorem ofDigits?_eq_some_iff {cs : List Char} :
    ofDigits? cs = some n ↔ cs ≠ [] ∧ cs.all isDigit = true ∧ Nat.ofDigitChars 10 cs 0 = n := by
  rw [ofDigits?]
  split
  · next h => simp [h]
  · next h =>
    constructor
    · intro hnone
      cases hnone
    · rintro ⟨hne, hall, -⟩
      exact absurd ⟨hne, hall⟩ h

/-! ## Padding -/

theorem all_isDigit_digits (n : Nat) : (digits n).all isDigit = true :=
  List.all_eq_true.2 fun _ hc => isDigit_of_mem_digits hc

theorem all_isDigit_digitsPadded (width n : Nat) : (digitsPadded width n).all isDigit = true := by
  rw [digitsPadded, List.all_append, all_isDigit_digits, Bool.and_true]
  exact List.all_eq_true.2 fun c hc => (List.eq_of_mem_replicate hc) ▸ rfl

theorem length_digitsPadded (hpos : 0 < width) (hn : n < 10 ^ width) :
    (digitsPadded width n).length = width := by
  have hle := (length_digits_le_iff hpos).2 hn
  rw [digitsPadded, List.length_append, List.length_replicate]
  omega

theorem digitsPadded_ne_nil (width n : Nat) : digitsPadded width n ≠ [] := fun h =>
  digits_ne_nil n (List.append_eq_nil_iff.1 h).2

/-- Zeros in front do not count. -/
theorem ofDigitChars_digitsPadded (width n : Nat) : Nat.ofDigitChars 10 (digitsPadded width n) 0 = n := by
  rw [digitsPadded, Nat.ofDigitChars_append, Nat.ofDigitChars_replicate_zero, Nat.mul_zero]
  exact Nat.ofDigitChars_ten_toDigits

theorem ofDigits?_digitsPadded (width n : Nat) : ofDigits? (digitsPadded width n) = some n := by
  rw [ofDigits?, if_pos ⟨digitsPadded_ne_nil width n, all_isDigit_digitsPadded width n⟩,
    ofDigitChars_digitsPadded]

theorem ofDigitChars_lt {ds : List Char} (h : ds.all isDigit = true) :
    Nat.ofDigitChars 10 ds 0 < 10 ^ ds.length := by
  induction ds with
  | nil => exact Nat.one_pos
  | cons d ds ih =>
    rw [List.all_cons, Bool.and_eq_true] at h
    have hd := toNat_le_of_isDigit h.1
    have hrest := ih h.2
    rw [Nat.ofDigitChars_cons, Nat.ofDigitChars_eq_ofDigitChars_zero, List.length_cons, Nat.pow_succ]
    have hmul : 10 ^ ds.length * (10 * 0 + (d.toNat - '0'.toNat)) ≤ 10 ^ ds.length * 9 :=
      Nat.mul_le_mul_left _ (by omega)
    omega

/-- Only zeros denote nothing. -/
theorem eq_zero_of_mem {ds : List Char} (h : ds.all isDigit = true) (hzero : Nat.ofDigitChars 10 ds 0 = 0) {d : Char}
    (hd : d ∈ ds) : d = '0' := by
  induction ds with
  | nil => cases hd
  | cons c ds ih =>
    rw [List.all_cons, Bool.and_eq_true] at h
    rw [Nat.ofDigitChars_cons, Nat.ofDigitChars_eq_ofDigitChars_zero, Nat.add_eq_zero_iff, Nat.mul_eq_zero] at hzero
    rcases List.mem_cons.1 hd with rfl | hd
    · have hle := toNat_le_of_isDigit h.1
      have hpow : 10 ^ ds.length ≠ 0 := Nat.ne_of_gt (Nat.pow_pos (by decide))
      have hfirst := hzero.1.resolve_left hpow
      exact Char.toNat_inj.1 (by omega)
    · exact ih h.2 hzero.2 hd

/-- The zeros at the end of digits can be cut off. -/
theorem exists_stripped (ds : List Char) :
    ∃ k, ds = (ds.reverse.dropWhile (· = '0')).reverse ++ List.replicate k '0' := by
  refine ⟨(ds.reverse.takeWhile (· = '0')).length, ?_⟩
  have hzeros : ds.reverse.takeWhile (· = '0') =
      List.replicate (ds.reverse.takeWhile (· = '0')).length '0' := by
    refine List.eq_replicate_of_mem fun c hc => ?_
    have hall : (ds.reverse.takeWhile (· = '0')).all (· = '0') = true := List.all_takeWhile
    simpa using List.all_eq_true.1 hall c hc
  rw [← List.reverse_replicate, ← hzeros, ← List.reverse_append, List.takeWhile_append_dropWhile,
    List.reverse_reverse]

/-! ## Bytes -/

/-- A character of ASCII takes one byte. -/
theorem utf8ByteSize_ofList {cs : List Char} (h : ∀ c ∈ cs, c.val ≤ 127) :
    (String.ofList cs).utf8ByteSize = cs.length := by
  induction cs with
  | nil => rfl
  | cons c cs ih =>
    have hc : c.utf8Size = 1 := Char.utf8Size_eq_one_iff.2 (h c List.mem_cons_self)
    have hcs := ih fun d hd => h d (List.mem_cons_of_mem _ hd)
    rw [String.ofList_cons, String.utf8ByteSize_append, String.utf8ByteSize_singleton, hc, hcs,
      List.length_cons, Nat.add_comm]

theorem utf8ByteSize_natText (n : Nat) : (natText n).utf8ByteSize = (digits n).length := by
  refine utf8ByteSize_ofList fun c hc => ?_
  have hdigit := isDigit_of_mem_digits hc
  simp only [isDigit, Char.isDigit, Bool.and_eq_true, decide_eq_true_eq] at hdigit
  exact UInt32.le_trans hdigit.2 (by decide)

end Storefront.Text
