import Storefront.Proofs.Json.Numerals
import Storefront.Proofs.Json.Quoted

/-!
# Reading what was printed

The pretty layout of a value is read as the tree of the value, whatever closes the list or the object
around it. The proof goes by the structure of the value: a list or an object is read item by item, each
on a line of its own.
-/

namespace Storefront.Json

open Text (Symbol isDigit)

mutual

/-- What a text that holds a value is read as. -/
def treeOf : Json → Tree
  | .null => .null
  | .bool b => .bool b
  | .int i => .number (intNumeral i)
  | .float negative m => .number (floatNumeral negative m)
  | .string s => .string (some s)
  | .array items => .array (treesOf items)
  | .object fields => .object (fieldTreesOf fields)

/-- What the values of a list are read as. -/
def treesOf : List Json → List Tree
  | [] => []
  | v :: rest => treeOf v :: treesOf rest

/-- What the fields of an object are read as. -/
def fieldTreesOf : List (String × Json) → List (Option String × Tree)
  | [] => []
  | (name, v) :: rest => (some name, treeOf v) :: fieldTreesOf rest

end

theorem treesOf_eq_map (items : List Json) : treesOf items = items.map treeOf := by
  induction items with
  | nil => rfl
  | cons v rest ih => rw [treesOf, ih, List.map_cons]

/-! ## Blanks -/

variable {rest symbols : List Symbol}

theorem skipSpace_lineStart (depth : Nat) (symbols : List Symbol) :
    skipSpace ((lineStart depth).map some ++ symbols) = skipSpace symbols := by
  refine List.dropWhile_append_of_pos fun symbol hsymbol => ?_
  obtain ⟨c, hc, rfl⟩ := List.mem_map.1 hsymbol
  rcases List.mem_cons.1 hc with rfl | hc
  · rfl
  · rw [List.eq_of_mem_replicate hc]
    rfl

theorem skipSpace_of_not_isSpace {c : Char} (h : isSpace (some c) = false) :
    skipSpace (some c :: rest) = some c :: rest :=
  List.dropWhile_cons_of_neg (by rw [h]; decide)

/-- Blanks before a value do not count. -/
theorem readValue_congr {fuel : Nat} {symbols' : List Symbol}
    (h : skipSpace symbols = skipSpace symbols') : readValue fuel symbols = readValue fuel symbols' := by
  cases fuel with
  | zero => rfl
  | succ fuel => rw [readValue, readValue, h]

/-! ## Scalars -/

/-- A value that is neither a text nor a list nor an object is read by itself. -/
theorem readValue_readScalar {fuel : Nat} {c : Char} (hspace : isSpace (some c) = false)
    (hlist : c ≠ '[') (hobject : c ≠ '\x7b') (hquote : c ≠ '"') :
    readValue (fuel + 1) (some c :: rest) = readScalar (some c :: rest) := by
  rw [readValue, skipSpace_of_not_isSpace hspace]
  split
  · next heq => exact absurd (Option.some.inj (List.cons.inj heq).1) hlist
  · next heq => exact absurd (Option.some.inj (List.cons.inj heq).1) hobject
  · next heq => exact absurd (Option.some.inj (List.cons.inj heq).1) hquote
  · rfl

/-- The characters that a number may start with. -/
def startsNumber (c : Char) : Prop := c = '-' ∨ isDigit c = true

instance : DecidablePred startsNumber := fun _ => inferInstanceAs (Decidable (_ ∨ _))

theorem ne_of_startsNumber {c d : Char} (h : startsNumber c) (hd : ¬ startsNumber d) : c ≠ d := by
  rintro rfl
  exact hd h

/-- A number does not start with a blank. -/
theorem isSpace_of_startsNumber {c : Char} (h : startsNumber c) : isSpace (some c) = false := by
  simp only [isSpace, Bool.or_eq_false_iff, decide_eq_false_iff_not]
  exact ⟨⟨⟨ne_of_startsNumber h (by decide), ne_of_startsNumber h (by decide)⟩,
    ne_of_startsNumber h (by decide)⟩, ne_of_startsNumber h (by decide)⟩

theorem readValue_number {fuel : Nat} {cs : List Char} {n : Numeral}
    (hstart : ∃ c cs', cs = c :: cs' ∧ startsNumber c)
    (hread : readNumeral? (cs.map some ++ rest) = some (n, rest)) :
    readValue (fuel + 1) (cs.map some ++ rest) = (.number n, some rest) := by
  obtain ⟨c, cs', rfl, hc⟩ := hstart
  have hspace := isSpace_of_startsNumber hc
  rw [List.map_cons, List.cons_append] at hread ⊢
  rw [readValue_readScalar hspace (ne_of_startsNumber hc (by decide))
    (ne_of_startsNumber hc (by decide)) (ne_of_startsNumber hc (by decide))]
  unfold readScalar
  simp only
  split
  · next heq =>
    exact absurd (Option.some.inj (List.cons.inj heq).1) (ne_of_startsNumber hc (by decide))
  · next heq =>
    exact absurd (Option.some.inj (List.cons.inj heq).1) (ne_of_startsNumber hc (by decide))
  · next heq =>
    exact absurd (Option.some.inj (List.cons.inj heq).1) (ne_of_startsNumber hc (by decide))
  · rw [hread]

theorem startsNumber_digits (n : Nat) :
    ∃ c cs, Text.digits n = c :: cs ∧ startsNumber c := by
  obtain ⟨c, cs, hcs⟩ := List.exists_cons_of_ne_nil (Text.digits_ne_nil n)
  have hc : isDigit c = true := Text.isDigit_of_mem_digits (hcs ▸ List.mem_cons_self)
  exact ⟨c, cs, hcs, .inr hc⟩

theorem startsNumber_intText (i : Int) :
    ∃ c cs, (Text.intText i).toList = c :: cs ∧ startsNumber c := by
  obtain ⟨c, cs, hcs, hc⟩ := startsNumber_digits i.natAbs
  unfold Text.intText Text.natText
  split
  · exact ⟨'-', Text.digits i.natAbs, by simp [String.toList_append], .inl rfl⟩
  · exact ⟨c, cs, by simpa using hcs, hc⟩

theorem startsNumber_of_readNumeral? {cs : List Char} {n : Numeral}
    (h : readNumeral? (cs.map some) = some (n, [])) : ∃ c cs', cs = c :: cs' ∧ startsNumber c := by
  cases cs with
  | nil => cases h
  | cons c cs' =>
    refine ⟨c, cs', rfl, ?_⟩
    by_contra hnot
    obtain ⟨hminus, hdigit⟩ := not_or.1 hnot
    have hread : readMinus (some c :: cs'.map some) = (false, some c :: cs'.map some) := by
      rw [readMinus]
      exact fun _ heq => hminus (Option.some.inj (List.cons.inj heq).1)
    rw [List.map_cons, readNumeral?, hread] at h
    simp only [spanDigits, if_neg hdigit] at h
    cases h

theorem startsNumber_float (negative : Bool) (m : Magnitude) :
    ∃ c cs, scalarChars (.float negative m) = c :: cs ∧ startsNumber c := by
  have hread := (gives_floatNumeral negative m).reads [] stops_nil
  rw [List.append_nil] at hread
  exact startsNumber_of_readNumeral? hread

theorem map_quote (s : String) (symbols : List Symbol) :
    (quote s).map some ++ symbols =
      some '"' :: ((s.toList.flatMap escapeChar).map some ++ some '"' :: symbols) := by
  simp [quote]

theorem readValue_scalar {fuel : Nat} {v : Json} (hv : scalarChars v ≠ []) (hrest : Stops rest) :
    readValue (fuel + 1) ((scalarChars v).map some ++ rest) = (treeOf v, some rest) := by
  cases v with
  | null => rfl
  | bool b => cases b <;> rfl
  | int i => exact readValue_number (startsNumber_intText i) (readNumeral?_intText i hrest)
  | float negative m =>
    exact readValue_number (startsNumber_float negative m)
      ((gives_floatNumeral negative m).reads rest hrest)
  | string s =>
    show readValue (fuel + 1) ((quote s).map some ++ rest) = _
    rw [map_quote, readValue, skipSpace_of_not_isSpace (by decide)]
    simp only [readQuoted?_quote, treeOf]
  | array items => exact absurd rfl hv
  | object fields => exact absurd rfl hv

/-! ## Lists and objects -/

/-- A value starts with a character that is neither blank nor closes a list. -/
theorem prettyChars_eq_cons (depth : Nat) (v : Json) :
    ∃ c cs, prettyChars depth v = c :: cs ∧ isSpace (some c) = false ∧ c ≠ ']' := by
  have hnumber : ∀ {cs : List Char}, (∃ c cs', cs = c :: cs' ∧ startsNumber c) →
      ∃ c cs', cs = c :: cs' ∧ isSpace (some c) = false ∧ c ≠ ']' := by
    rintro cs ⟨c, cs', rfl, hc⟩
    exact ⟨c, cs', rfl, isSpace_of_startsNumber hc, ne_of_startsNumber hc (by decide)⟩
  cases v with
  | null => exact ⟨'n', _, rfl, by decide, by decide⟩
  | bool b => cases b <;> exact ⟨_, _, rfl, by decide, by decide⟩
  | int i => exact hnumber (startsNumber_intText i)
  | float negative m => exact hnumber (startsNumber_float negative m)
  | string s => exact ⟨'"', _, rfl, by decide, by decide⟩
  | array items => cases items <;> exact ⟨'[', _, rfl, by decide, by decide⟩
  | object fields => cases fields <;> exact ⟨'\x7b', _, rfl, by decide, by decide⟩

/-- What stands between the items of a list and the end of the list stops a number. -/
theorem stops_lineStart (depth : Nat) (symbols : List Symbol) :
    Stops ((lineStart depth).map some ++ symbols) := by
  rw [lineStart, List.map_cons, List.cons_append]
  exact stops_cons (by decide)

theorem stops_comma (symbols : List Symbol) : Stops (some ',' :: symbols) :=
  stops_cons (by decide)

/-- The items of a list do not start with its end. -/
theorem skipSpace_items (depth : Nat) (item : Json) (items : List Json) (symbols : List Symbol) :
    ∃ c cs, skipSpace ((prettyItems depth (item :: items)).map some ++ symbols) = some c :: cs ∧
      c ≠ ']' := by
  obtain ⟨c, cs, hcs, hspace, hclose⟩ := prettyChars_eq_cons depth item
  cases items with
  | nil =>
    rw [prettyItems, List.map_append, List.append_assoc, skipSpace_lineStart, hcs, List.map_cons,
      List.cons_append, skipSpace_of_not_isSpace hspace]
    exact ⟨c, _, rfl, hclose⟩
  | cons next items =>
    rw [prettyItems, List.append_assoc, List.map_append, List.append_assoc, skipSpace_lineStart, hcs,
      List.cons_append, List.map_cons, List.cons_append, skipSpace_of_not_isSpace hspace]
    · exact ⟨c, _, rfl, hclose⟩
    · exact List.cons_ne_nil _ _

theorem map_prettyFields_cons (depth : Nat) (name : String) (v next : Json) (nextName : String)
    (fields : List (String × Json)) (symbols : List Symbol) :
    (prettyFields depth ((name, v) :: (nextName, next) :: fields)).map some ++ symbols =
      (lineStart depth).map some ++ some '"' :: ((name.toList.flatMap escapeChar).map some ++
        some '"' :: some ':' :: some ' ' :: ((prettyChars depth v).map some ++ some ',' ::
          ((prettyFields depth ((nextName, next) :: fields)).map some ++ symbols))) := by
  simp [prettyFields, quote]

theorem map_prettyFields_singleton (depth : Nat) (name : String) (v : Json)
    (symbols : List Symbol) :
    (prettyFields depth [(name, v)]).map some ++ symbols =
      (lineStart depth).map some ++ some '"' :: ((name.toList.flatMap escapeChar).map some ++
        some '"' :: some ':' :: some ' ' :: ((prettyChars depth v).map some ++ symbols)) := by
  simp [prettyFields, quote]

theorem skipSpace_fields (depth : Nat) (field : String × Json) (fields : List (String × Json))
    (symbols : List Symbol) :
    ∃ cs, skipSpace ((prettyFields depth (field :: fields)).map some ++ symbols) =
      some '"' :: cs := by
  obtain ⟨name, v⟩ := field
  cases fields with
  | nil =>
    rw [map_prettyFields_singleton, skipSpace_lineStart, skipSpace_of_not_isSpace (by decide)]
    exact ⟨_, rfl⟩
  | cons next fields =>
    obtain ⟨nextName, next⟩ := next
    rw [map_prettyFields_cons, skipSpace_lineStart, skipSpace_of_not_isSpace (by decide)]
    exact ⟨_, rfl⟩

section

variable {fuel : Nat} {name : String} {t : Tree} {value after : List Symbol}

/-- A field that is not the last one is read up to the comma behind it. -/
theorem readFields_more (name : String) (hvalue : readValue fuel value = (t, some rest))
    (hsymbols : skipSpace symbols =
      some '"' :: ((name.toList.flatMap escapeChar).map some ++ some '"' :: some ':' :: value))
    (hafter : skipSpace rest = some ',' :: after) :
    readFields (fuel + 1) symbols =
      ((some name, t) :: (readFields fuel after).1, (readFields fuel after).2) := by
  have hcolon : skipSpace (some ':' :: value) = some ':' :: value :=
    skipSpace_of_not_isSpace (by decide)
  rw [readFields, hsymbols]
  simp only [readQuoted?_quote, hcolon, hvalue, hafter]

theorem readFields_last (hvalue : readValue fuel value = (t, some rest))
    (hsymbols : skipSpace symbols =
      some '"' :: ((name.toList.flatMap escapeChar).map some ++ some '"' :: some ':' :: value))
    (hafter : skipSpace rest = some '\x7d' :: after) :
    readFields (fuel + 1) symbols = ([(some name, t)], some after) := by
  have hcolon : skipSpace (some ':' :: value) = some ':' :: value :=
    skipSpace_of_not_isSpace (by decide)
  rw [readFields, hsymbols]
  simp only [readQuoted?_quote, hcolon, hvalue, hafter]

end

mutual

/-- A printed value is read as its tree. -/
theorem readValue_pretty (v : Json) (depth fuel : Nat) (rest : List Symbol)
    (hfuel : (prettyChars depth v).length < fuel) (hrest : Stops rest) :
    readValue fuel ((prettyChars depth v).map some ++ rest) = (treeOf v, some rest) := by
  obtain ⟨fuel, rfl⟩ : ∃ f, fuel = f + 1 := ⟨fuel - 1, by omega⟩
  cases v with
  | null => exact readValue_scalar (v := .null) (by decide) hrest
  | bool b => exact readValue_scalar (v := .bool b) (by cases b <;> decide) hrest
  | int i =>
    refine readValue_scalar (v := .int i) ?_ hrest
    obtain ⟨c, cs, hcs, -⟩ := startsNumber_intText i
    rw [scalarChars, hcs]
    exact List.cons_ne_nil _ _
  | float negative m =>
    refine readValue_scalar (v := .float negative m) ?_ hrest
    obtain ⟨c, cs, hcs, -⟩ := prettyChars_eq_cons depth (.float negative m)
    have heq : scalarChars (.float negative m) = c :: cs := hcs
    rw [heq]
    exact List.cons_ne_nil _ _
  | string s => exact readValue_scalar (v := .string s) (List.cons_ne_nil _ _) hrest
  | array items =>
    cases items with
    | nil => rfl
    | cons item items =>
      have hchars : (prettyChars depth (.array (item :: items))).map some ++ rest =
          some '[' :: ((prettyItems (depth + 1) (item :: items)).map some ++
            ((lineStart depth).map some ++ some ']' :: rest)) := by
        simp [prettyChars]
      have hitems := readItems_pretty (item :: items) (List.cons_ne_nil _ _) (depth + 1) depth fuel
        rest (by simp [prettyChars] at hfuel; omega)
      obtain ⟨c, cs, hcs, hclose⟩ := skipSpace_items (depth + 1) item items
        ((lineStart depth).map some ++ some ']' :: rest)
      rw [hchars, readValue, skipSpace_of_not_isSpace (by decide)]
      simp only [hcs, hitems]
      split
      · next heq => exact absurd (Option.some.inj (List.cons.inj heq).1) hclose
      · rfl
  | object fields =>
    cases fields with
    | nil => rfl
    | cons field fields =>
      have hchars : (prettyChars depth (.object (field :: fields))).map some ++ rest =
          some '\x7b' :: ((prettyFields (depth + 1) (field :: fields)).map some ++
            ((lineStart depth).map some ++ some '\x7d' :: rest)) := by
        simp [prettyChars]
      have hfields := readFields_pretty (field :: fields) (List.cons_ne_nil _ _) (depth + 1) depth
        fuel rest (by simp [prettyChars] at hfuel; omega)
      obtain ⟨cs, hcs⟩ := skipSpace_fields (depth + 1) field fields
        ((lineStart depth).map some ++ some '\x7d' :: rest)
      rw [hchars, readValue, skipSpace_of_not_isSpace (by decide)]
      simp only [hcs, hfields]
      rfl

theorem readItems_pretty (items : List Json) (hne : items ≠ []) (depth closing fuel : Nat)
    (rest : List Symbol) (hfuel : (prettyItems depth items).length < fuel) :
    readItems fuel ((prettyItems depth items).map some ++
      ((lineStart closing).map some ++ some ']' :: rest)) = (treesOf items, some rest) := by
  obtain ⟨fuel, rfl⟩ : ∃ f, fuel = f + 1 := ⟨fuel - 1, by omega⟩
  cases items with
  | nil => exact absurd rfl hne
  | cons item items =>
    cases items with
    | nil =>
      have hitem := readValue_pretty item depth fuel
        ((lineStart closing).map some ++ some ']' :: rest)
        (by simp [prettyItems, lineStart] at hfuel; omega) (stops_lineStart closing _)
      rw [prettyItems, List.map_append, List.append_assoc, readItems,
        readValue_congr (skipSpace_lineStart depth _), hitem]
      simp only [skipSpace_lineStart]
      rfl
    | cons next items =>
      have hitem := readValue_pretty item depth fuel
        (some ',' :: ((prettyItems depth (next :: items)).map some ++
          ((lineStart closing).map some ++ some ']' :: rest)))
        (by simp [prettyItems, lineStart] at hfuel; omega) (stops_comma _)
      have hitems := readItems_pretty (next :: items) (List.cons_ne_nil _ _) depth closing fuel rest
        (by simp [prettyItems, lineStart] at hfuel ⊢; omega)
      have hchars : (prettyItems depth (item :: next :: items)).map some ++
          ((lineStart closing).map some ++ some ']' :: rest) =
          (lineStart depth).map some ++ ((prettyChars depth item).map some ++
            some ',' :: ((prettyItems depth (next :: items)).map some ++
              ((lineStart closing).map some ++ some ']' :: rest))) := by
        simp [prettyItems]
      rw [hchars, readItems, readValue_congr (skipSpace_lineStart depth _), hitem]
      have hcomma : ∀ symbols, skipSpace (some ',' :: symbols) = some ',' :: symbols :=
        fun _ => skipSpace_of_not_isSpace (by decide)
      simp only [hcomma, hitems]
      rfl

theorem readFields_pretty (fields : List (String × Json)) (hne : fields ≠ [])
    (depth closing fuel : Nat) (rest : List Symbol)
    (hfuel : (prettyFields depth fields).length < fuel) :
    readFields fuel ((prettyFields depth fields).map some ++
      ((lineStart closing).map some ++ some '\x7d' :: rest)) = (fieldTreesOf fields, some rest) := by
  obtain ⟨fuel, rfl⟩ : ∃ f, fuel = f + 1 := ⟨fuel - 1, by omega⟩
  have hspace : ∀ symbols, skipSpace (some ' ' :: symbols) = skipSpace symbols := fun _ => rfl
  cases fields with
  | nil => exact absurd rfl hne
  | cons field fields =>
    obtain ⟨name, v⟩ := field
    cases fields with
    | nil =>
      have hvalue := readValue_pretty v depth fuel
        ((lineStart closing).map some ++ some '\x7d' :: rest)
        (by simp [prettyFields, lineStart] at hfuel; omega) (stops_lineStart closing _)
      rw [← readValue_congr (hspace _)] at hvalue
      refine readFields_last hvalue ?_ (skipSpace_lineStart closing _)
      rw [map_prettyFields_singleton, skipSpace_lineStart, skipSpace_of_not_isSpace (by decide)]
    | cons next fields =>
      obtain ⟨nextName, next⟩ := next
      have hvalue := readValue_pretty v depth fuel
        (some ',' :: ((prettyFields depth ((nextName, next) :: fields)).map some ++
          ((lineStart closing).map some ++ some '\x7d' :: rest)))
        (by simp [prettyFields, lineStart] at hfuel; omega) (stops_comma _)
      have hfields := readFields_pretty ((nextName, next) :: fields) (List.cons_ne_nil _ _) depth
        closing fuel rest (by simp [prettyFields, lineStart] at hfuel ⊢; omega)
      rw [← readValue_congr (hspace _)] at hvalue
      rw [readFields_more name hvalue _
        (skipSpace_of_not_isSpace (by decide)), hfields]
      · rfl
      · rw [map_prettyFields_cons, skipSpace_lineStart, skipSpace_of_not_isSpace (by decide)]

end

/-- A whole printed text is read as the tree of its value, and nothing is left. -/
theorem readText_pretty (v : Json) : readText (Text.ofText v.pretty) = (treeOf v, true) := by
  have hread := readValue_pretty v 0 ((Text.ofText v.pretty).length + 1) []
    (by simp [Text.ofText, pretty]) stops_nil
  rw [List.append_nil] at hread
  have hsymbols : Text.ofText v.pretty = (prettyChars 0 v).map some := by
    simp [Text.ofText, pretty]
  rw [readText, hsymbols]
  rw [hsymbols] at hread
  simp only [hread]
  rfl

end Storefront.Json
