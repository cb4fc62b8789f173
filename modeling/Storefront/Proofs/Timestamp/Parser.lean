import Storefront.Proofs.Text.Digits
import Storefront.Timestamp.Parser

/-!
# Reading timestamps that were written

The text of a timestamp is read as the timestamp, field by field: each field has all the digits that its
reader takes, or ends where no digit follows.
-/

namespace Storefront.Timestamp

open Text (isDigit digitsPadded trimLeft isBlank)

variable {width n : Nat} {ds rest : List Char}

/-! ## Numbers -/

theorem isBlank_of_isDigit {c : Char} (h : isDigit c = true) : isBlank c = false := by
  have hbounds : 48 ≤ c.toNat ∧ c.toNat ≤ 57 := by
    simp only [isDigit, Char.isDigit, Bool.and_eq_true, decide_eq_true_eq] at h
    exact ⟨h.1, h.2⟩
  obtain ⟨h₁, h₂⟩ := hbounds
  simp only [isBlank, Text.inRanges, Text.blankRanges, List.any_cons, List.any_nil, Bool.or_false,
    Bool.or_eq_false_iff, Bool.and_eq_false_iff, decide_eq_false_iff_not]
  omega

theorem trimLeft_of_not_isBlank {c : Char} (h : isBlank c = false) (cs : List Char) :
    trimLeft (c :: cs) = c :: cs :=
  List.dropWhile_cons_of_neg (by rw [h]; decide)

/-- A field is read if it has all its digits or no digit follows. -/
theorem readNumber?_append (hds : ds.all isDigit = true) (hn : Text.ofDigits? ds = some n)
    (hlen : ds.length ≤ width)
    (hstop : ds.length = width ∨ ∀ c r, rest = c :: r → isDigit c = false) :
    readNumber? width (ds ++ rest) = some (n, rest) := by
  have hafter : (rest.take (width - ds.length)).takeWhile isDigit = [] := by
    rcases hstop with hfull | hnot
    · rw [hfull, Nat.sub_self, List.take_zero, List.takeWhile_nil]
    · match rest, hnot with
      | [], _ => rw [List.take_nil, List.takeWhile_nil]
      | c :: r, hnot =>
        cases width - ds.length with
        | zero => rfl
        | succ k =>
          rw [List.take_succ_cons, List.takeWhile_cons_of_neg]
          rw [hnot c r rfl]
          decide
  have htake : ((ds ++ rest).take width).takeWhile isDigit = ds := by
    rw [List.take_append, List.take_of_length_le hlen,
      List.takeWhile_append_of_pos (List.all_eq_true.1 hds), hafter, List.append_nil]
  unfold readNumber?
  simp only [htake, hn, Option.map_some, List.drop_left]

theorem readField?_append (h : readNumber? width (ds ++ rest) = some (n, rest))
    (hds : ds.all isDigit = true) (hne : ds ≠ []) :
    readField? width (ds ++ rest) = some (n, rest) := by
  obtain ⟨d, ds', rfl⟩ := List.exists_cons_of_ne_nil hne
  rw [List.all_cons, Bool.and_eq_true] at hds
  rw [readField?, List.cons_append, trimLeft_of_not_isBlank (isBlank_of_isDigit hds.1)]
  exact h

theorem readField?_digitsPadded (hn : n < 100) (rest : List Char) :
    readField? 2 (digitsPadded 2 n ++ rest) = some (n, rest) := by
  have hlen : (digitsPadded 2 n).length = 2 := Text.length_digitsPadded (by decide) hn
  exact readField?_append
    (readNumber?_append (Text.all_isDigit_digitsPadded 2 n) (Text.ofDigits?_digitsPadded 2 n)
      (Nat.le_of_eq hlen) (.inl hlen))
    (Text.all_isDigit_digitsPadded 2 n) (Text.digitsPadded_ne_nil 2 n)

theorem readMark?_cons {mark : Char} (h : isBlank mark = false) (rest : List Char) :
    readMark? mark (mark :: rest) = some rest := by
  rw [readMark?, trimLeft_of_not_isBlank h]
  exact if_pos rfl

/-! ## The fields of a timestamp -/

theorem readYear?_yearText (year : Int) (rest : List Char)
    (hrest : ∀ c r, rest = c :: r → isDigit c = false) :
    readYear? (yearText year ++ rest) = some (year, rest) := by
  have hall := Text.all_isDigit_digitsPadded 4 year.natAbs
  have hvalue := Text.ofDigits?_digitsPadded 4 year.natAbs
  unfold yearText
  split
  · next hshort =>
    have hlen : (digitsPadded 4 year.natAbs).length = 4 :=
      Text.length_digitsPadded (by decide) (by omega)
    have hread : readNumber? 4 (digitsPadded 4 year.natAbs ++ rest) = some (year.natAbs, rest) :=
      readNumber?_append hall hvalue (Nat.le_of_eq hlen) (.inl hlen)
    obtain ⟨d, ds', hd⟩ := List.exists_cons_of_ne_nil (Text.digitsPadded_ne_nil 4 year.natAbs)
    rw [hd] at hread hall ⊢
    rw [List.all_cons, Bool.and_eq_true] at hall
    rw [List.cons_append] at hread ⊢
    unfold readYear?
    rw [trimLeft_of_not_isBlank (isBlank_of_isDigit hall.1)]
    split
    · next heq =>
      rw [(List.cons.inj heq).1] at hall
      exact absurd hall.1 (by decide)
    · next heq =>
      rw [(List.cons.inj heq).1] at hall
      exact absurd hall.1 (by decide)
    · rw [hread, Option.map_some]
      simp only [Option.some.injEq, Prod.mk.injEq, and_true]
      omega
  · next hlong =>
    have hread : readNumber? (digitsPadded 4 year.natAbs ++ rest).length
        (digitsPadded 4 year.natAbs ++ rest) = some (year.natAbs, rest) :=
      readNumber?_append hall hvalue (by rw [List.length_append]; omega) (.inr hrest)
    by_cases hneg : year < 0
    · rw [if_pos hneg, List.cons_append, readYear?, trimLeft_of_not_isBlank (by decide)]
      simp only [hread, Option.map_some, Option.some.injEq, Prod.mk.injEq, and_true]
      omega
    · rw [if_neg hneg, List.cons_append, readYear?, trimLeft_of_not_isBlank (by decide)]
      simp only [hread, Option.map_some, Option.some.injEq, Prod.mk.injEq, and_true]
      omega

/-- Digits behind a point are read as nanoseconds. -/
theorem readFraction?_point {k scaled : Nat} (hk : 0 < k) (hle : k ≤ 9) (hn : scaled < 10 ^ k) :
    readFraction? ('.' :: (digitsPadded k scaled ++ ['Z'])) =
      some (scaled * Nat.pow 10 (9 - k), ['Z']) := by
  have hlen : (digitsPadded k scaled).length = k := Text.length_digitsPadded hk hn
  have hstop : ∀ c r, ['Z'] = c :: r → isDigit c = false := by
    intro c r heq
    cases heq
    decide
  have hread := readNumber?_append (Text.all_isDigit_digitsPadded k scaled)
    (Text.ofDigits?_digitsPadded k scaled) (hlen ▸ hle) (.inr hstop)
  unfold readFraction?
  simp only [hread, Option.map_some, List.length_append, hlen, Nat.add_sub_cancel]
  rfl

theorem readBetween?_mark (rest : List Char) : readBetween? ('T' :: rest) = some rest :=
  rfl

theorem readFraction?_fractionText {nanos : Nat} (h : nanos < 1000000000) :
    readFraction? (fractionText nanos ++ ['Z']) = some (nanos, ['Z']) := by
  unfold fractionText
  split
  · next hzero => rw [hzero]; rfl
  split
  · next hmilli =>
    rw [List.cons_append, readFraction?_point (by decide) (by decide) (by omega)]
    exact congrArg (fun k => some (k, ['Z'])) (by show nanos / 1000000 * 1000000 = nanos; omega)
  split
  · next hmicro =>
    rw [List.cons_append, readFraction?_point (by decide) (by decide) (by omega)]
    exact congrArg (fun k => some (k, ['Z'])) (by show nanos / 1000 * 1000 = nanos; omega)
  · rw [List.cons_append, readFraction?_point (by decide) (by decide) (by omega)]
    exact congrArg (fun k => some (k, ['Z'])) (by show nanos * 1 = nanos; omega)

theorem ofFields?_fields (t : Timestamp) :
    ofFields? t.year t.month t.day t.hour t.minute t.second t.nanos = some t :=
  dif_pos ⟨t.isDay, t.isTime⟩

/-- A reading in universal time is the moment itself. -/
theorem ofLocal?_zero (t : Timestamp) : t.ofLocal? 0 = some t := by
  obtain ⟨hhour, hminute, -, -⟩ := t.isTime
  have hneg : ¬ (t.hour * 60 + t.minute - 0 : Int) < 0 := by omega
  have hover : ¬ 1440 ≤ (t.hour * 60 + t.minute - 0 : Int) := by omega
  have hday : ((t.hour * 60 + t.minute - 0 : Int) % 1440).toNat = t.hour * 60 + t.minute := by omega
  have hdiv : (t.hour * 60 + t.minute) / 60 = t.hour := by omega
  have hmod : (t.hour * 60 + t.minute) % 60 = t.minute := by omega
  unfold ofLocal?
  simp only [if_neg hneg, if_neg hover, hday, hdiv, hmod]
  exact t.ofFields?_fields

/-- The text of a timestamp is read as the timestamp. -/
theorem parse?_text (t : Timestamp) : parse? t.text = some t := by
  obtain ⟨-, -, hmonth₁, hmonth₂, hday₁, hday₂⟩ := t.isDay
  obtain ⟨hhour, hminute, hsecond, hnanos⟩ := t.isTime
  have hmonth : t.day ≤ 31 := by
    refine Nat.le_trans hday₂ ?_
    unfold daysInMonth
    split
    · split <;> decide
    · split <;> decide
  have hyear := readYear?_yearText t.year
    ('-' :: (digitsPadded 2 t.month ++ '-' :: (digitsPadded 2 t.day ++
      'T' :: (digitsPadded 2 t.hour ++ ':' :: (digitsPadded 2 t.minute ++
        ':' :: (digitsPadded 2 t.second ++ (fractionText t.nanos ++ ['Z'])))))))
    (fun c r heq => by cases heq; decide)
  have hchars : t.text.toList = yearText t.year ++ '-' :: (digitsPadded 2 t.month ++
      '-' :: (digitsPadded 2 t.day ++ 'T' :: (digitsPadded 2 t.hour ++
        ':' :: (digitsPadded 2 t.minute ++ ':' :: (digitsPadded 2 t.second ++
          (fractionText t.nanos ++ ['Z'])))))) := by
    simp [text, chars]
  have hdash : isBlank '-' = false := by decide
  have hcolon : isBlank ':' = false := by decide
  -- the parts are read one after the other
  unfold parse?
  rw [hchars]
  refine Option.bind_eq_some_iff.2 ⟨_, hyear, ?_⟩
  refine Option.bind_eq_some_iff.2 ⟨_, readMark?_cons hdash _, ?_⟩
  refine Option.bind_eq_some_iff.2 ⟨_, readField?_digitsPadded (by omega) _, ?_⟩
  refine Option.bind_eq_some_iff.2 ⟨_, readMark?_cons hdash _, ?_⟩
  refine Option.bind_eq_some_iff.2 ⟨_, readField?_digitsPadded (by omega) _, ?_⟩
  refine Option.bind_eq_some_iff.2 ⟨_, readBetween?_mark _, ?_⟩
  refine Option.bind_eq_some_iff.2 ⟨_, readField?_digitsPadded (by omega) _, ?_⟩
  refine Option.bind_eq_some_iff.2 ⟨_, readMark?_cons hcolon _, ?_⟩
  refine Option.bind_eq_some_iff.2 ⟨_, readField?_digitsPadded (by omega) _, ?_⟩
  refine Option.bind_eq_some_iff.2 ⟨_, readMark?_cons hcolon _, ?_⟩
  refine Option.bind_eq_some_iff.2 ⟨_, readField?_digitsPadded (by omega) _, ?_⟩
  refine Option.bind_eq_some_iff.2 ⟨_, readFraction?_fractionText hnanos, ?_⟩
  refine Option.bind_eq_some_iff.2 ⟨(0, []), rfl, ?_⟩
  refine Option.bind_eq_some_iff.2 ⟨t, t.ofFields?_fields, ?_⟩
  exact t.ofLocal?_zero

end Storefront.Timestamp
