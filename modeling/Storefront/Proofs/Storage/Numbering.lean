import Storefront.Proofs.Text.Digits
import Storefront.Proofs.Text.Segments
import Storefront.Storage.Numbering

/-!
# Numbers in names

A numbered name tells its number: what stands between the two fixed texts, if that is digits and fits 64 bits.
From this equivalence follows that names are read back, and that the greatest number in a listing depends on
nothing but the numbers that its names tell.
-/

namespace Storefront.Storage.Numbering

variable {p : Numbering} {keys keys' : List String} {n : Nat}

theorem slash_not_mem_digits (n : Nat) : '/' ∉ Text.digits n := fun h =>
  absurd (Text.isDigit_of_mem_digits h) (by decide)

theorem toList_name (p : Numbering) (n : Nat) :
    (p.name n).toList = p.before.toList ++ (Text.digits n ++ p.after.toList) := by
  simp [name, Text.natText, String.toList_append]

/-- The key ends in a name with this number: the fixed texts and between them digits that denote it, and it fits
64 bits. -/
def Tells (p : Numbering) (key : String) (n : Nat) : Prop :=
  ∃ name digits : List Char, '/' ∉ name ∧ (key.toList = name ∨ ∃ folder, key.toList = folder ++ '/' :: name) ∧
    name = p.before.toList ++ digits ++ p.after.toList ∧
    digits ≠ [] ∧ digits.all Text.isDigit = true ∧ Nat.ofDigitChars 10 digits 0 = n ∧ n < UInt64.size

theorem number?_eq_some_iff {key : String} : p.number? key = some n ↔ p.Tells key n := by
  have hread : p.number? key = some n ↔ ∃ digits, (Text.splitLast '/' key.toList).2 =
      p.before.toList ++ digits ++ p.after.toList ∧ Text.ofDigits? digits = some n ∧ n < UInt64.size := by
    simp only [number?, Option.bind_eq_bind, Option.bind_eq_some_iff, Text.afterStart?_eq_some_iff,
      Text.beforeEnd?_eq_some_iff, Option.ite_none_right_eq_some, Option.some.injEq]
    constructor
    · rintro ⟨_, hname, digits, rfl, k, hk, hlt, rfl⟩
      exact ⟨digits, by rw [hname, List.append_assoc], hk, hlt⟩
    · rintro ⟨digits, hname, hdigits, hlt⟩
      exact ⟨_, by rw [hname, List.append_assoc], digits, rfl, n, hdigits, hlt, rfl⟩
  rw [hread]
  constructor
  · rintro ⟨digits, hname, hdigits, hlt⟩
    obtain ⟨hslash, hkey⟩ := Text.snd_splitLast_eq_iff.1 hname
    obtain ⟨hne, hall, hvalue⟩ := Text.ofDigits?_eq_some_iff.1 hdigits
    exact ⟨_, digits, hslash, hkey, rfl, hne, hall, hvalue, hlt⟩
  · rintro ⟨name, digits, hslash, hkey, rfl, hne, hall, hvalue, hlt⟩
    exact ⟨digits, Text.snd_splitLast_eq_iff.2 ⟨hslash, hkey⟩, Text.ofDigits?_eq_some_iff.2 ⟨hne, hall, hvalue⟩, hlt⟩

theorem number?_eq_none_iff {key : String} : p.number? key = none ↔ ∀ n, ¬ p.Tells key n := by
  simp only [Option.eq_none_iff_forall_ne_some, ne_eq, number?_eq_some_iff]

/-- A name tells the number that it was made for, wherever it stands. -/
theorem tells_name (p : Numbering) (hb : '/' ∉ p.before.toList) (ha : '/' ∉ p.after.toList)
    {n : Nat} (hn : n < UInt64.size) {key : String}
    (hkey : key = p.name n ∨ ∃ folder, key = folder ++ "/" ++ p.name n) : p.Tells key n := by
  have hslash : '/' ∉ (p.name n).toList := by
    simp only [toList_name, List.mem_append, not_or]
    exact ⟨hb, slash_not_mem_digits n, ha⟩
  refine ⟨(p.name n).toList, Text.digits n, hslash, ?_, ?_, Text.digits_ne_nil n, Text.all_isDigit_digits n,
    Nat.ofDigitChars_ten_toDigits, hn⟩
  · rcases hkey with rfl | ⟨folder, rfl⟩
    · exact .inl rfl
    · exact .inr ⟨folder.toList, Text.toList_append_slash _ _⟩
  · rw [toList_name, List.append_assoc]

/-- Reading the number in a name gives it back if it fits 64 bits, also behind a folder. -/
theorem number?_name (p : Numbering) (hb : '/' ∉ p.before.toList) (ha : '/' ∉ p.after.toList)
    {n : Nat} (hn : n < UInt64.size) (folder : String) :
    p.number? (folder ++ "/" ++ p.name n) = some n :=
  number?_eq_some_iff.2 (p.tells_name hb ha hn (.inr ⟨folder, rfl⟩))

/-- The digits in a name are all that differs between names. -/
theorem name_injective (p : Numbering) : Function.Injective p.name := by
  intro m n h
  have hlist := congrArg String.toList h
  rw [toList_name, toList_name, List.append_cancel_left_eq, List.append_cancel_right_eq] at hlist
  have hread := Text.ofDigits?_digits m
  rw [hlist, Text.ofDigits?_digits] at hread
  exact (Option.some.inj hread).symm

theorem lt_of_number? {key : String} (h : p.number? key = some n) : n < UInt64.size := by
  obtain ⟨_, _, -, -, -, -, -, -, hlt⟩ := number?_eq_some_iff.1 h
  exact hlt

/-- Only a name that starts as it should tells a number. -/
theorem before_prefix {folder name : String} (hslash : '/' ∉ name.toList)
    (h : p.number? (folder ++ "/" ++ name) ≠ none) : p.before.toList <+: name.toList := by
  obtain ⟨n, hn⟩ := Option.ne_none_iff_exists'.1 h
  obtain ⟨own, digits, hown, hkey', rfl, -⟩ := number?_eq_some_iff.1 hn
  have hsame : name.toList = p.before.toList ++ digits ++ p.after.toList := by
    rw [← Text.snd_splitLast_eq_iff.2 ⟨hown, hkey'⟩, Text.splitLast_append_slash _ hslash]
  rw [hsame, List.append_assoc]
  exact List.prefix_append _ _

/-! ## The greatest number -/

theorem greatest?_eq_some_iff :
    p.greatest? keys = some n ↔
      (∃ key ∈ keys, p.number? key = some n) ∧
        ∀ key ∈ keys, ∀ k, p.number? key = some k → k ≤ n := by
  rw [greatest?, List.max?_eq_some_iff, List.mem_filterMap]
  constructor
  · rintro ⟨hmem, hle⟩
    exact ⟨hmem, fun key hkey k hk => hle k (List.mem_filterMap.2 ⟨key, hkey, hk⟩)⟩
  · rintro ⟨hmem, hle⟩
    refine ⟨hmem, fun k hk => ?_⟩
    obtain ⟨key, hkey, hnumber⟩ := List.mem_filterMap.1 hk
    exact hle key hkey k hnumber

theorem greatest?_eq_none_iff : p.greatest? keys = none ↔ ∀ key ∈ keys, p.number? key = none := by
  rw [greatest?, List.max?_eq_none_iff, List.filterMap_eq_nil_iff]

/-- Only which numbers there are decides, not how often or in which order the keys come that tell them. -/
theorem greatest?_eq_of_numbers
    (h : ∀ n, (∃ key ∈ keys, p.number? key = some n) ↔ ∃ key ∈ keys', p.number? key = some n) :
    p.greatest? keys = p.greatest? keys' := by
  have hbound (keys : List String) (n : Nat) : (∀ key ∈ keys, ∀ k, p.number? key = some k → k ≤ n) ↔
      ∀ k, (∃ key ∈ keys, p.number? key = some k) → k ≤ n :=
    ⟨fun hle k ⟨key, hkey, hk⟩ => hle key hkey k hk, fun hle key hkey k hk => hle k ⟨key, hkey, hk⟩⟩
  apply Option.ext
  intro n
  simp only [greatest?_eq_some_iff, hbound, h]

/-- Keys without a number do not count. -/
theorem greatest?_congr (h : ∀ key, p.number? key ≠ none → (key ∈ keys ↔ key ∈ keys')) :
    p.greatest? keys = p.greatest? keys' := by
  have hmem : ∀ key k, p.number? key = some k → (key ∈ keys ↔ key ∈ keys') :=
    fun key k hk => h key (by rw [hk]; exact Option.some_ne_none k)
  refine greatest?_eq_of_numbers fun n => ?_
  constructor
  · rintro ⟨key, hkey, hn⟩
    exact ⟨key, (hmem key n hn).1 hkey, hn⟩
  · rintro ⟨key, hkey, hn⟩
    exact ⟨key, (hmem key n hn).2 hkey, hn⟩

theorem number?_le_greatest? {key : String} (hkey : key ∈ keys) (hn : p.number? key = some n) :
    n ≤ (p.greatest? keys).getD 0 := by
  cases hgreatest : p.greatest? keys with
  | none =>
    rw [greatest?_eq_none_iff.1 hgreatest key hkey] at hn
    cases hn
  | some m => exact (greatest?_eq_some_iff.1 hgreatest).2 key hkey n hn

/-- The greatest number fits 64 bits, as the others do. -/
theorem greatest?_lt (p : Numbering) (keys : List String) : (p.greatest? keys).getD 0 < UInt64.size := by
  cases hgreatest : p.greatest? keys with
  | none => decide
  | some n =>
    obtain ⟨⟨key, -, hn⟩, -⟩ := greatest?_eq_some_iff.1 hgreatest
    exact lt_of_number? hn

/-! ## Names and their numbers -/

/-- Names stand for their numbers. -/
structure Faithful (p : Numbering) : Prop where
  /-- A number of 64 bits is read back from its name, by itself and in any folder, -/
  back : ∀ n, n < UInt64.size →
    p.number? (p.name n) = some n ∧ ∀ folder, p.number? (folder ++ "/" ++ p.name n) = some n
  /-- and no two numbers have one name. -/
  injective : Function.Injective p.name
  /-- A number is read from the names that are written with it, be it with zeros in front, and from no others. -/
  reads : ∀ key n, p.number? key = some n ↔ p.Tells key n
  /-- The greatest number in a listing is the greatest that a name in it tells, -/
  greatest : ∀ keys n, p.greatest? keys = some n ↔
    (∃ key ∈ keys, p.Tells key n) ∧ ∀ key ∈ keys, ∀ k, p.Tells key k → k ≤ n
  /-- and there is none if no name tells a number. -/
  without : ∀ keys, p.greatest? keys = none ↔ ∀ key ∈ keys, ∀ k, ¬ p.Tells key k
  /-- Nothing but the numbers that are told has a say in that. -/
  congr : ∀ keys keys', (∀ n, (∃ key ∈ keys, p.Tells key n) ↔ ∃ key ∈ keys', p.Tells key n) →
    p.greatest? keys = p.greatest? keys'

/-- Whatever the fixed texts are, as long as they hold no slash, numbers and names tell each other, and the greatest
number is found in any listing. -/
theorem faithful (p : Numbering) (hb : '/' ∉ p.before.toList) (ha : '/' ∉ p.after.toList) : p.Faithful where
  back := fun n hn =>
    ⟨number?_eq_some_iff.2 (p.tells_name hb ha hn (.inl rfl)), fun folder => number?_name p hb ha hn folder⟩
  injective := p.name_injective
  reads := fun _ _ => number?_eq_some_iff
  greatest := fun keys n => by simp only [greatest?_eq_some_iff, number?_eq_some_iff]
  without := fun keys => by simp only [greatest?_eq_none_iff, number?_eq_none_iff]
  congr := fun keys keys' h => greatest?_eq_of_numbers fun n => by simpa only [number?_eq_some_iff] using h n

/-- A numbering whose fixed texts hold digits themselves, and a listing with names that tell no number: one with a
sign, one that is too short for both texts, and one with a number beyond 64 bits. -/
theorem faithful_between_digits :
    ('/' ∉ "no1".toList ∧ '/' ∉ "1".toList) ∧ Faithful ⟨"no1", "1"⟩ ∧
      Numbering.greatest? ⟨"no1", "1"⟩
        ["no191", "a/no11", "no1+71", "a/no10101", "no1184467440737095516161", "no191"] = some 10 :=
  ⟨by decide, faithful ⟨"no1", "1"⟩ (by decide) (by decide), by decide⟩

end Storefront.Storage.Numbering
