import Mathlib.Algebra.Group.Int.Defs
import Storefront.Money.Atoms
import Storefront.Money.Cents
import Storefront.Proofs.Text.Digits
import Storefront.Text.Ends

/-!
# Amounts as they are displayed

Both currencies are written alike: an optional minus sign, whole units of the currency, and behind a point decimal
places for the rest, `[-]$W.FF` and `[-]W[.F] DCR`. They differ in what stands around the number and in how many
places are written in any case. A reader of this form gets the amount back from its text, so no two amounts look
the same. No significant zero is dropped on the way, since the zeros that are cut off behind the point are just
those that the reader fills in.
-/

namespace Storefront

open Text (isDigit)

/-! ## Writing and reading figures -/

/-- The sign of an amount and its digits before and behind the point. -/
structure Figures where
  negative : Bool
  whole : List Char
  fraction : List Char
  deriving DecidableEq

/-- How amounts of a currency are written. -/
structure Denomination where
  /-- What stands between the sign and the number. -/
  mark : String
  /-- What stands behind the number. -/
  code : String
  /-- How many decimal places there are at most. -/
  places : Nat
  /-- How many of them are written in any case. -/
  always : Nat

namespace Denomination

/-- The base currency has two decimal places, both of which are always written. -/
def base : Denomination := ⟨"$", "", 2, 2⟩

/-- The settlement currency has up to eight. -/
def settlement : Denomination := ⟨"", " " ++ settlementCurrency, 8, 0⟩

/-- The minus sign at the start of a text, if there is one, and what follows it. -/
def cutMinus : List Char → Bool × List Char
  | '-' :: cs => (true, cs)
  | cs => (false, cs)

/-- The digits behind a point, if the text is empty or starts with a point that digits may follow. -/
def fraction? : List Char → Option (List Char)
  | [] => some []
  | '.' :: c :: cs => some (c :: cs)
  | _ => none

variable (d : Denomination) (f : Figures)

/-- The digits of the decimal places, filled up with zeros on the right. -/
def padded (fraction : List Char) : List Char :=
  fraction ++ List.replicate (d.places - fraction.length) '0'

/-- The number of least units that figures denote. -/
def value : Int :=
  (if f.negative then -1 else 1) *
    (10 ^ d.places * Nat.ofDigitChars 10 f.whole 0 + Nat.ofDigitChars 10 (d.padded f.fraction) 0)

/-- The text of figures. -/
def write : String :=
  (if f.negative then "-" else "") ++ d.mark ++ String.ofList f.whole ++
    (if f.fraction = [] then "" else "." ++ String.ofList f.fraction) ++ d.code

/-- The figures that a text shows. -/
def figures? (text : String) : Option Figures := do
  let (negative, cs) := cutMinus text.toList
  let number ← Text.beforeEnd? d.code.toList (← Text.afterStart? d.mark.toList cs)
  let whole := number.takeWhile isDigit
  let fraction ← fraction? (number.dropWhile isDigit)
  if whole ≠ [] ∧ fraction.all isDigit ∧ d.always ≤ fraction.length ∧ fraction.length ≤ d.places then
    some ⟨negative, whole, fraction⟩
  else none

/-- The number of least units that a text shows. -/
def read? (text : String) : Option Int := (d.figures? text).map d.value

/-- Figures as they are written. -/
structure Canonical : Prop where
  whole_ne_nil : f.whole ≠ []
  whole_digits : f.whole.all isDigit = true
  fraction_digits : f.fraction.all isDigit = true
  always_le : d.always ≤ f.fraction.length
  le_places : f.fraction.length ≤ d.places
  /-- There is no zero in front, but for the one before the point, -/
  unpadded : f.whole.head? = some '0' → f.whole = ['0']
  /-- and none at the end that need not be there. -/
  trimmed : d.always < f.fraction.length → f.fraction.getLast? ≠ some '0'

end Denomination

namespace Denomination

variable {d : Denomination} {f : Figures}

theorem cutMinus_of_head?_ne {cs : List Char} (h : cs.head? ≠ some '-') : cutMinus cs = (false, cs) := by
  unfold cutMinus
  split
  · exact absurd rfl h
  · rfl

/-- The characters of a number behind its sign. -/
def body (f : Figures) : List Char := f.whole ++ (if f.fraction = [] then [] else '.' :: f.fraction)

theorem toList_write :
    (d.write f).toList =
      (if f.negative then ['-'] else []) ++ (d.mark.toList ++ (body f ++ d.code.toList)) := by
  unfold write body
  split <;> split <;> simp [String.toList_append]

/-- Every character of written figures is the sign, the point, a digit, or stands around the number. -/
theorem mem_write (h : d.Canonical f) {c : Char} (hc : c ∈ (d.write f).toList) :
    c = '-' ∨ c = '.' ∨ isDigit c = true ∨ c ∈ d.mark.toList ∨ c ∈ d.code.toList := by
  have hwhole : c ∈ f.whole → isDigit c = true := fun hmem => List.all_eq_true.1 h.whole_digits _ hmem
  have hfraction : c ∈ f.fraction → isDigit c = true := fun hmem => List.all_eq_true.1 h.fraction_digits _ hmem
  rw [toList_write] at hc
  unfold body at hc
  simp only [List.mem_append] at hc
  rcases hc with hsign | hmark | (hmem | hmem) | hcode
  · split at hsign
    · exact .inl (List.mem_singleton.1 hsign)
    · cases hsign
  · exact .inr (.inr (.inr (.inl hmark)))
  · exact .inr (.inr (.inl (hwhole hmem)))
  · split at hmem
    · cases hmem
    · rcases List.mem_cons.1 hmem with hpoint | hmem
      · exact .inr (.inl hpoint)
      · exact .inr (.inr (.inl (hfraction hmem)))
  · exact .inr (.inr (.inr (.inr hcode)))

theorem ne_minus_of_isDigit {c : Char} (h : isDigit c = true) : c ≠ '-' := by
  rintro rfl
  exact absurd h (by decide)

namespace Canonical

variable (h : d.Canonical f)
include h

theorem minus_not_mem_body : '-' ∉ body f := by
  intro hmem
  unfold body at hmem
  have hwhole : '-' ∉ f.whole := fun hc => ne_minus_of_isDigit (List.all_eq_true.1 h.whole_digits _ hc) rfl
  have hfraction : '-' ∉ f.fraction :=
    fun hc => ne_minus_of_isDigit (List.all_eq_true.1 h.fraction_digits _ hc) rfl
  split at hmem <;> simp_all

/-- A minus sign stands only before what is less than nothing. -/
theorem minus_mem_write_iff (hmark : '-' ∉ d.mark.toList) (hcode : '-' ∉ d.code.toList) :
    '-' ∈ (d.write f).toList ↔ f.negative = true := by
  have hbody := h.minus_not_mem_body
  rw [toList_write]
  cases f.negative <;> simp [hmark, hcode, hbody]

theorem takeWhile_body : (body f).takeWhile isDigit = f.whole := by
  unfold body
  rw [List.takeWhile_append_of_pos (List.all_eq_true.1 h.whole_digits)]
  split
  · rw [List.takeWhile_nil, List.append_nil]
  · rw [List.takeWhile_cons_of_neg (by decide), List.append_nil]

theorem fraction?_dropWhile_body : fraction? ((body f).dropWhile isDigit) = some f.fraction := by
  unfold body
  rw [List.dropWhile_append_of_pos (List.all_eq_true.1 h.whole_digits)]
  split
  · next hnil => rw [hnil]; rfl
  · next hne =>
    obtain ⟨c, cs, hcs⟩ := List.exists_cons_of_ne_nil hne
    rw [List.dropWhile_cons_of_neg (by decide), hcs]
    rfl

/-- The sign is told from what follows it. -/
theorem cutMinus_write (hmark : '-' ∉ d.mark.toList) :
    cutMinus (d.write f).toList = (f.negative, d.mark.toList ++ (body f ++ d.code.toList)) := by
  rw [toList_write]
  cases hsign : f.negative with
  | true => rfl
  | false =>
    refine cutMinus_of_head?_ne fun hhead => ?_
    have hne : d.mark.toList ++ body f ≠ [] := by
      intro hnil
      obtain ⟨-, hbody⟩ := List.append_eq_nil_iff.1 hnil
      exact h.whole_ne_nil (List.append_eq_nil_iff.1 hbody).1
    simp only [Bool.false_eq_true, if_false, List.nil_append] at hhead
    rw [← List.append_assoc, List.head?_append, List.head?_eq_some_head hne, Option.some_or] at hhead
    rcases List.mem_append.1 (Option.some.inj hhead ▸ List.head_mem hne) with hin | hin
    · exact hmark hin
    · exact h.minus_not_mem_body hin

/-- Reading what was written gives the figures back. -/
theorem figures?_write (hmark : '-' ∉ d.mark.toList) : d.figures? (d.write f) = some f := by
  have hstart : Text.afterStart? d.mark.toList (d.mark.toList ++ (body f ++ d.code.toList)) =
      some (body f ++ d.code.toList) := Text.afterStart?_eq_some_iff.2 rfl
  have hend : Text.beforeEnd? d.code.toList (body f ++ d.code.toList) = some (body f) :=
    Text.beforeEnd?_eq_some_iff.2 rfl
  simp only [figures?, h.cutMinus_write hmark, hstart, hend, Option.bind_eq_bind, Option.bind_some,
    h.takeWhile_body, h.fraction?_dropWhile_body]
  exact if_pos ⟨h.whole_ne_nil, h.fraction_digits, h.always_le, h.le_places⟩

end Canonical

/-- The text shows the number of least units, exactly and in only one way. -/
structure Shows (d : Denomination) (text : String) (units : Int) : Prop where
  /-- Reading the text gives the number. -/
  reads : d.read? text = some units
  /-- No digit is missing and none is to spare. -/
  canonical : ∃ f, d.Canonical f ∧ text = d.write f
  /-- There is a minus sign just where the number is less than nothing. -/
  minus : '-' ∈ text.toList ↔ units < 0

theorem shows_write (h : d.Canonical f) (hmark : '-' ∉ d.mark.toList) (hcode : '-' ∉ d.code.toList)
    {units : Int} (hvalue : d.value f = units) (hsign : f.negative = decide (units < 0)) :
    d.Shows (d.write f) units where
  reads := by rw [read?, h.figures?_write hmark, Option.map_some, hvalue]
  canonical := ⟨f, h, rfl⟩
  minus := by rw [h.minus_mem_write_iff hmark hcode, hsign, decide_eq_true_iff]

/-- An amount that is cut at a power of ten is put together again. -/
theorem value_eq {units : Int} (hsign : f.negative = decide (units < 0))
    (hwhole : Nat.ofDigitChars 10 f.whole 0 = units.natAbs / 10 ^ d.places)
    (hfraction : Nat.ofDigitChars 10 (d.padded f.fraction) 0 = units.natAbs % 10 ^ d.places) :
    d.value f = units := by
  have hparts : 10 ^ d.places * (units.natAbs / 10 ^ d.places) + units.natAbs % 10 ^ d.places = units.natAbs :=
    Nat.div_add_mod _ _
  have hsize : (10 ^ d.places * Nat.ofDigitChars 10 f.whole 0 +
      Nat.ofDigitChars 10 (d.padded f.fraction) 0 : Int) = units.natAbs := by
    rw [hwhole, hfraction]
    exact_mod_cast hparts
  rw [value, hsize, hsign]
  by_cases hneg : units < 0
  · rw [decide_eq_true hneg, if_pos rfl]
    omega
  · rw [decide_eq_false hneg, if_neg Bool.false_ne_true]
    omega

end Denomination

/-! ## Cents -/

namespace Cents

open Denomination (base)

variable (c : Cents)

/-- The figures of an amount in cents. -/
def figures : Figures where
  negative := decide (c.toInt < 0)
  whole := Text.digits (c.toInt.natAbs / 100)
  fraction := Text.digitsPadded 2 (c.toInt.natAbs % 100)

theorem length_fraction_figures : c.figures.fraction.length = 2 :=
  Text.length_digitsPadded (by decide) (Nat.mod_lt _ (by decide))

theorem canonical_figures : base.Canonical c.figures where
  whole_ne_nil := Text.digits_ne_nil _
  whole_digits := Text.all_isDigit_digits _
  fraction_digits := Text.all_isDigit_digitsPadded _ _
  always_le := Nat.le_of_eq c.length_fraction_figures.symm
  le_places := Nat.le_of_eq c.length_fraction_figures
  unpadded := Text.digits_eq_of_head?_eq_zero
  trimmed := fun hlt => absurd c.length_fraction_figures (Nat.ne_of_gt hlt)

theorem write_figures : base.write c.figures = c.text := by
  have hfraction : c.figures.fraction ≠ [] := Text.digitsPadded_ne_nil _ _
  rw [Denomination.write, if_neg hfraction]
  unfold figures text Text.natText base
  by_cases hneg : c.toInt < 0
  · simp [hneg, String.append_assoc]
  · simp [hneg, String.append_assoc]

theorem value_figures : base.value c.figures = c.toInt := by
  have hpadded : base.padded c.figures.fraction = c.figures.fraction := by
    rw [Denomination.padded, c.length_fraction_figures]
    exact List.append_nil _
  refine Denomination.value_eq rfl Nat.ofDigitChars_ten_toDigits ?_
  rw [hpadded]
  exact Text.ofDigitChars_digitsPadded _ _

theorem blank_not_mem_text : ' ' ∉ c.text.toList := by
  intro hmem
  rw [← c.write_figures] at hmem
  exact absurd (Denomination.mem_write c.canonical_figures hmem) (by decide)

/-- Cents are shown with two places behind the point. -/
theorem shows_text : base.Shows c.text c.toInt := by
  rw [← c.write_figures]
  exact Denomination.shows_write c.canonical_figures (by decide) (by decide) c.value_figures rfl

example : (⟨-9223372036854775808⟩ : Cents).text = "-$92233720368547758.08" := by decide

end Cents

/-! ## Atoms -/

namespace Atoms

open Denomination (settlement)

variable {n : Nat}

theorem padded_fractionDigits (hn : n < 10 ^ 8) : settlement.padded (fractionDigits n) = Text.digitsPadded 8 n := by
  have hlength : (Text.digitsPadded 8 n).length = 8 := Text.length_digitsPadded (by decide) hn
  obtain ⟨k, hk⟩ := Text.exists_stripped (Text.digitsPadded 8 n)
  have hcount : (fractionDigits n).length + k = 8 := by
    rw [← hlength, hk, List.length_append, List.length_replicate]
    rfl
  have hzeros : settlement.places - (fractionDigits n).length = k := by
    show 8 - (fractionDigits n).length = k
    omega
  rw [Denomination.padded, hzeros]
  exact hk.symm

theorem length_fractionDigits_le (hn : n < 10 ^ 8) : (fractionDigits n).length ≤ 8 := by
  have hlength := congrArg List.length (padded_fractionDigits hn)
  rw [Text.length_digitsPadded (by decide) hn, Denomination.padded, List.length_append] at hlength
  omega

/-- All places are cut off only if there is nothing in them. -/
theorem fractionDigits_eq_nil_iff (hn : n < 10 ^ 8) : fractionDigits n = [] ↔ n = 0 := by
  constructor
  · intro hnil
    have hread := Text.ofDigitChars_digitsPadded 8 n
    rw [← padded_fractionDigits hn, hnil] at hread
    exact hread.symm
  · rintro rfl
    decide

theorem getLast?_fractionDigits (n : Nat) : (fractionDigits n).getLast? ≠ some '0' := by
  intro hlast
  rw [fractionDigits, List.getLast?_reverse] at hlast
  have hstop := List.head?_dropWhile_not (· = '0') (Text.digitsPadded 8 n).reverse
  rw [hlast] at hstop
  simp at hstop

theorem all_isDigit_fractionDigits (n : Nat) : (fractionDigits n).all Text.isDigit = true := by
  have hall := Text.all_isDigit_digitsPadded 8 n
  obtain ⟨k, hk⟩ := Text.exists_stripped (Text.digitsPadded 8 n)
  rw [hk, List.all_append, Bool.and_eq_true] at hall
  exact hall.1

variable (a : Atoms)

/-- The figures of an amount in atoms. -/
def figures : Figures where
  negative := decide (a.toInt < 0)
  whole := Text.digits (a.toInt.natAbs / atomsPerCoin)
  fraction := fractionDigits (a.toInt.natAbs % atomsPerCoin)

theorem fraction_lt : a.toInt.natAbs % atomsPerCoin < 10 ^ 8 := Nat.mod_lt _ (by decide)

theorem canonical_figures : settlement.Canonical a.figures where
  whole_ne_nil := Text.digits_ne_nil _
  whole_digits := Text.all_isDigit_digits _
  fraction_digits := all_isDigit_fractionDigits _
  always_le := Nat.zero_le _
  le_places := length_fractionDigits_le a.fraction_lt
  unpadded := Text.digits_eq_of_head?_eq_zero
  trimmed := fun _ => getLast?_fractionDigits _

theorem write_figures : settlement.write a.figures = a.text := by
  have hfraction : a.figures.fraction = [] ↔ a.toInt.natAbs % atomsPerCoin = 0 :=
    fractionDigits_eq_nil_iff a.fraction_lt
  unfold Denomination.write text
  simp only [hfraction]
  unfold figures Text.natText settlement
  by_cases hneg : a.toInt < 0
  · simp [hneg, String.append_assoc]
  · simp [hneg, String.append_assoc]

theorem value_figures : settlement.value a.figures = a.toInt := by
  refine Denomination.value_eq rfl Nat.ofDigitChars_ten_toDigits ?_
  show Nat.ofDigitChars 10 (settlement.padded (fractionDigits (a.toInt.natAbs % atomsPerCoin))) 0 = _
  rw [padded_fractionDigits a.fraction_lt]
  exact Text.ofDigitChars_digitsPadded _ _

/-- Atoms are shown with up to eight places behind the point, and without a point if there is nothing behind it. -/
theorem shows_text : settlement.Shows a.text a.toInt := by
  rw [← a.write_figures]
  exact Denomination.shows_write a.canonical_figures (by decide) (by decide) a.value_figures rfl

/-- A point without digits is not read. -/
example : settlement.read? "-7.0005 DCR" = some (-700050000) ∧ settlement.read? "-7. DCR" = none := by decide

end Atoms

/-! ## No two amounts look the same -/

theorem Denomination.Shows.unique {d : Denomination} {text : String} {i j : Int} (hi : d.Shows text i)
    (hj : d.Shows text j) : i = j :=
  Option.some.inj (hi.reads.symm.trans hj.reads)

theorem Cents.text_injective : Function.Injective Cents.text := fun a b h =>
  Cents.ext_toInt ((h ▸ a.shows_text).unique b.shows_text)

theorem Atoms.text_injective : Function.Injective Atoms.text := fun a b h =>
  Atoms.ext_toInt ((h ▸ a.shows_text).unique b.shows_text)

end Storefront
