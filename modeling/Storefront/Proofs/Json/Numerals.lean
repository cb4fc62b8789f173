import Storefront.Json.Printer
import Storefront.Json.Reader
import Storefront.Proofs.Binary64.Scaling
import Storefront.Proofs.Json.Significand

/-!
# Reading numbers that were written

A whole number is read as itself. A floating-point number is written as a decimal that rounds to it, and all digits of
this decimal are kept. It comes back as what they are read as in two steps: a number of the same sign, which need not
be the number itself. Neither depends on what follows, as long as no number could go on there.
-/

namespace Storefront

namespace Json

open Text (Symbol isDigit)

/-! ## Parts of a number -/

/-- No number goes on here. -/
def Stops (rest : List Symbol) : Prop :=
  ∀ c r, rest = some c :: r → isDigit c = false ∧ c ≠ '.' ∧ c ≠ 'e' ∧ c ≠ 'E'

theorem stops_nil : Stops [] := by
  intro c r h
  cases h

theorem stops_cons {c : Char} {rest : List Symbol}
    (h : isDigit c = false ∧ c ≠ '.' ∧ c ≠ 'e' ∧ c ≠ 'E') : Stops (some c :: rest) := by
  intro c' r heq
  cases heq
  exact h

/-- Digits end where no digit follows. -/
theorem spanDigits_append {ds : List Char} {rest : List Symbol} (hds : ds.all isDigit = true)
    (hrest : ∀ c r, rest = some c :: r → isDigit c = false) :
    spanDigits (ds.map some ++ rest) = (ds, rest) := by
  induction ds with
  | nil =>
    rw [List.map_nil, List.nil_append]
    match rest, hrest with
    | [], _ => rfl
    | none :: _, _ => rfl
    | some c :: r, hrest => rw [spanDigits, if_neg (by rw [hrest c r rfl]; decide)]
  | cons d ds ih =>
    rw [List.all_cons, Bool.and_eq_true] at hds
    rw [List.map_cons, List.cons_append, spanDigits, if_pos hds.1, ih hds.2]

theorem readFraction?_of_stops {rest : List Symbol} (h : Stops rest) :
    readFraction? rest = some ([], rest) := by
  match rest, h with
  | [], _ => rfl
  | none :: _, _ => rfl
  | some c :: r, h =>
    have hc := (h c r rfl).2.1
    rw [readFraction?]
    exact fun _ heq => hc (Option.some.inj (List.cons.inj heq).1)

theorem readExponent?_of_stops {rest : List Symbol} (h : Stops rest) :
    readExponent? rest = some (none, rest) := by
  match rest, h with
  | [], _ => rfl
  | none :: _, _ => rfl
  | some c :: r, h =>
    have hc := (h c r rfl).2.2
    rw [readExponent?, if_neg (not_or.2 hc)]

theorem all_isDigit_spanDigits (symbols : List Symbol) : (spanDigits symbols).1.all isDigit = true := by
  induction symbols with
  | nil => rfl
  | cons symbol rest ih =>
    cases symbol with
    | none => rfl
    | some c =>
      rw [spanDigits]
      split
      · next hc => exact Bool.and_eq_true_iff.2 ⟨hc, ih⟩
      · rfl

theorem all_isDigit_of_readFraction? {symbols rest : List Symbol} {ds : List Char}
    (h : readFraction? symbols = some (ds, rest)) : ds.all isDigit = true := by
  unfold readFraction? at h
  split at h
  · next after =>
    have hall := all_isDigit_spanDigits after
    generalize spanDigits after = found at h hall
    simp only at h
    split at h
    · cases h
    · cases h
      exact hall
  · cases h
    rfl

/-- A numeral that was read consists of digits. -/
theorem all_isDigit_of_readNumeral? {symbols rest : List Symbol} {n : Numeral}
    (h : readNumeral? symbols = some (n, rest)) : n.whole.all isDigit = true ∧ n.fraction.all isDigit = true := by
  have hall := all_isDigit_spanDigits (readMinus symbols).2
  unfold readNumeral? at h
  simp only at h
  split at h
  · cases h
  · cases h
  · obtain ⟨⟨fs, afterFraction⟩, hfraction, h⟩ := Option.bind_eq_some_iff.1 h
    obtain ⟨⟨exponent, afterExponent⟩, -, h⟩ := Option.bind_eq_some_iff.1 h
    cases h
    exact ⟨hall, all_isDigit_of_readFraction? hfraction⟩

/-- The number that a numeral denotes, -/
def Numeral.value (n : Numeral) : ℚ :=
  ((Binary64.signed n.negative n.significand : Int) : ℚ) * (10 : ℚ) ^ n.power

/-- and the binary64 number nearest to it. -/
def Numeral.nearest (n : Numeral) : Binary64 := .ofDecimal n.negative n.significand n.power

/-- What a numeral is read as where its parts make a number. -/
theorem Numeral.toBinary64?_eq {n : Numeral} {s : Nat} {e : Int} {m : Magnitude} (h : n.parts = (s, e))
    (hm : Binary64.ofParts s e = .finite false m) : n.toBinary64? = some (.finite n.negative m) := by
  rw [toBinary64?]
  simp only [h, hm]
  cases n.negative <;> rfl

/-! ## Whole numerals -/

/-- Symbols behind a minus sign, or by themselves. -/
def signed (negative : Bool) (symbols : List Symbol) : List Symbol :=
  if negative then some '-' :: symbols else symbols

theorem readMinus_signed (negative : Bool) {d : Char} (hd : isDigit d = true) (symbols : List Symbol) :
    readMinus (signed negative (some d :: symbols)) = (negative, some d :: symbols) := by
  cases negative with
  | true => rfl
  | false =>
    have hne : d ≠ '-' := by
      rintro rfl
      exact absurd hd (by decide)
    rw [signed, if_neg (by decide), readMinus]
    exact fun _ heq => hne (Option.some.inj (List.cons.inj heq).1)

/-- A numeral is read part by part. -/
theorem readNumeral?_parts (negative : Bool) {ds fs : List Char} {exponent : Option Int}
    {afterDigits afterFraction rest : List Symbol} (hds : ds.all isDigit = true) (hne : ds ≠ [])
    (hzero : ∀ r, ds = '0' :: r → r = [])
    (hstop : ∀ c r, afterDigits = some c :: r → isDigit c = false)
    (hfraction : readFraction? afterDigits = some (fs, afterFraction))
    (hexponent : readExponent? afterFraction = some (exponent, rest)) :
    readNumeral? (signed negative (ds.map some ++ afterDigits)) =
      some (⟨negative, ds, fs, exponent⟩, rest) := by
  have hspan := spanDigits_append hds hstop
  obtain ⟨d, ds', rfl⟩ := List.exists_cons_of_ne_nil hne
  have hd : isDigit d = true := (Bool.and_eq_true_iff.1 (List.all_cons ▸ hds)).1
  unfold readNumeral?
  rw [List.map_cons, List.cons_append, readMinus_signed negative hd]
  rw [List.map_cons, List.cons_append] at hspan
  simp only [hspan]
  split
  · next heq => cases heq
  · next heq =>
    have := hzero _ heq
    cases this
  · simp only [hfraction, hexponent, Option.bind_eq_bind, Option.bind_some]

/-- The numeral of a whole number. -/
def intNumeral (i : Int) : Numeral := ⟨i < 0, Text.digits i.natAbs, [], none⟩

theorem toInt?_intNumeral {i : Int} (hlow : -(UInt64.size / 2 : Int) ≤ i) (hhigh : i < UInt64.size) :
    (intNumeral i).toInt? = some i := by
  have hvalue : digitsValue (Text.digits i.natAbs) = i.natAbs := Nat.ofDigitChars_ten_toDigits
  have hwhole : (intNumeral i).isWhole = true := rfl
  rw [Numeral.toInt?, hwhole]
  simp only [intNumeral, hvalue, Bool.not_true, Bool.false_eq_true, if_false, decide_eq_true_eq]
  simp only [UInt64.size] at *
  split
  · rw [if_pos (by omega)]
    exact congrArg some (by omega)
  · rw [if_pos (by omega)]
    exact congrArg some (by omega)

theorem map_intText (i : Int) :
    (Text.intText i).toList.map some = signed (i < 0) ((Text.digits i.natAbs).map some) := by
  unfold Text.intText Text.natText signed
  split
  · next h => simp [h, String.toList_append]
  · next h => simp [h]

/-- A whole number is read as itself. -/
theorem readNumeral?_intText (i : Int) {rest : List Symbol} (hrest : Stops rest) :
    readNumeral? ((Text.intText i).toList.map some ++ rest) = some (intNumeral i, rest) := by
  have hsigned : signed (i < 0) ((Text.digits i.natAbs).map some) ++ rest =
      signed (i < 0) ((Text.digits i.natAbs).map some ++ rest) := by
    unfold signed
    split <;> rfl
  rw [map_intText, hsigned, readNumeral?_parts (i < 0) (Text.all_isDigit_digits _) (Text.digits_ne_nil _)
    (fun _ h => Text.eq_nil_of_digits_eq_zero_cons h) (fun c r h => (hrest c r h).1)
    (readFraction?_of_stops hrest) (readExponent?_of_stops hrest)]
  rfl

/-! ## Floating-point numerals -/

variable {negative : Bool} {m : Magnitude} {ds fs : List Char} {rest : List Symbol}

theorem readFraction?_point (hfs : fs.all isDigit = true) (hne : fs ≠ [])
    (hrest : ∀ c r, rest = some c :: r → isDigit c = false) :
    readFraction? (some '.' :: (fs.map some ++ rest)) = some (fs, rest) := by
  rw [readFraction?, spanDigits_append hfs hrest]
  exact if_neg hne

theorem readExponent?_intText (x : Int) (hrest : Stops rest) :
    readExponent? (some 'e' :: (((if x < 0 then "" else "+") ++ Text.intText x).toList.map some ++
      rest)) = some (some x, rest) := by
  have hspan := spanDigits_append (Text.all_isDigit_digits x.natAbs) (fun c r h => (hrest c r h).1)
  have hsign : readSign (((if x < 0 then "" else "+") ++ Text.intText x).toList.map some ++ rest) =
      (decide (x < 0), (Text.digits x.natAbs).map some ++ rest) := by
    rw [String.toList_append, List.map_append, map_intText, List.append_assoc]
    by_cases hx : x < 0
    · simp [hx, signed, readSign, readMinus]
    · simp [hx, signed, readSign]
  have hvalue : digitsValue (Text.digits x.natAbs) = x.natAbs := Nat.ofDigitChars_ten_toDigits
  rw [readExponent?, if_pos (.inl rfl), hsign]
  simp only [hspan, Text.digits_ne_nil, if_false, hvalue, decide_eq_true_eq, Option.some.injEq,
    Prod.mk.injEq, and_true]
  split <;> omega

/-- A numeral as which a floating-point number is written, in whatever it stands. -/
structure Numeral.Gives (n : Numeral) (negative : Bool) (m : Magnitude) (text : List Char) : Prop where
  not_whole : n.isWhole = false
  negative_eq : n.negative = negative
  written : m.Written .even n.significand n.power
  reads : ∀ rest, Stops rest → readNumeral? (text.map some ++ rest) = some (n, rest)

/-- The characters of a numeral behind its sign. -/
def signedChars (negative : Bool) (cs : List Char) : List Char := if negative then '-' :: cs else cs

theorem map_signedChars (negative : Bool) (cs : List Char) (rest : List Symbol) :
    (signedChars negative cs).map some ++ rest = signed negative (cs.map some ++ rest) := by
  cases negative <;> rfl

/-- Digits with a point among them. -/
theorem gives_point (hds : ds.all isDigit = true) (hne : ds ≠ [])
    (hzero : ∀ r, ds = '0' :: r → r = []) (hfs : fs.all isDigit = true) (hne' : fs ≠ [])
    (h : m.Written .even (digitsValue (ds ++ fs)) (-fs.length)) :
    ∃ n, Numeral.Gives n negative m (signedChars negative (ds ++ '.' :: fs)) := by
  obtain ⟨f, fs', hfs'⟩ := List.exists_cons_of_ne_nil hne'
  have hpower : (none : Option Int).getD 0 - (fs.length : Int) = -fs.length := Int.zero_sub _
  refine ⟨⟨negative, ds, fs, none⟩, by rw [hfs']; rfl, rfl,
    by simpa only [Numeral.significand, Numeral.power, hpower] using h, fun rest hrest => ?_⟩
  have hfraction := readFraction?_point hfs hne' (fun c r heq => (hrest c r heq).1)
  have hdot : ∀ c r, some '.' :: (fs.map some ++ rest) = some c :: r → isDigit c = false := by
    intro c r heq
    cases heq
    decide
  have hread := readNumeral?_parts negative hds hne hzero hdot hfraction
    (readExponent?_of_stops hrest)
  rw [map_signedChars, List.map_append, List.map_cons, List.append_assoc, List.cons_append, hread]

/-- A digit, perhaps more of them behind a point, and an exponent. -/
theorem gives_exponent (hds : ds.all isDigit = true) (hne : ds ≠ [])
    (hzero : ∀ r, ds = '0' :: r → r = []) (hfs : fs.all isDigit = true) (x : Int)
    (h : m.Written .even (digitsValue (ds ++ fs)) (x - fs.length)) :
    ∃ n, Numeral.Gives n negative m (signedChars negative (ds ++ ((if fs = [] then [] else '.' :: fs) ++
      'e' :: ((if x < 0 then "" else "+") ++ Text.intText x).toList))) := by
  refine ⟨⟨negative, ds, fs, some x⟩, Bool.and_false _, rfl, h, fun rest hrest => ?_⟩
  have hexponent := readExponent?_intText x hrest
  generalize ((if x < 0 then "" else "+") ++ Text.intText x).toList = cs at *
  have hletter : ∀ c r, some 'e' :: (cs.map some ++ rest) = some c :: r → isDigit c = false := by
    intro c r heq
    cases heq
    decide
  have hpoint : ∀ c r, some '.' :: (fs.map some ++ some 'e' :: (cs.map some ++ rest)) =
      some c :: r → isDigit c = false := by
    intro c r heq
    cases heq
    decide
  rw [map_signedChars, List.map_append, List.append_assoc]
  by_cases hnil : fs = []
  · subst hnil
    have hfraction : readFraction? (some 'e' :: (cs.map some ++ rest)) =
        some ([], some 'e' :: (cs.map some ++ rest)) := by
      rw [readFraction?]
      exact fun _ heq => absurd (Option.some.inj (List.cons.inj heq).1) (by decide)
    have hread := readNumeral?_parts negative hds hne hzero hletter hfraction hexponent
    simpa using hread
  · have hfraction : readFraction? (some '.' :: (fs.map some ++ some 'e' :: (cs.map some ++ rest))) =
        some (fs, some 'e' :: (cs.map some ++ rest)) := readFraction?_point hfs hnil hletter
    have hread := readNumeral?_parts negative hds hne hzero hpoint hfraction hexponent
    simpa [hnil] using hread

theorem toList_text (negative : Bool) (m : Magnitude) :
    ((Binary64.finite negative m).text .document).toList =
      signedChars negative (NumberLayout.document.magnitudeText m).toList := by
  cases negative <;> simp [Binary64.text, Binary64.signText, signedChars, String.toList_append]

/-- The first digit of a number is not zero, wherever its digits are cut. -/
theorem append_ne_zero_cons {s : Significant} (h : s.Tells m .even) {before after : List Char}
    (hdigits : s.digits = before ++ after) (hne : before ≠ []) (zeros r : List Char) :
    before ++ zeros ≠ '0' :: r := by
  obtain ⟨d, ds, rfl⟩ := List.exists_cons_of_ne_nil hne
  intro heq
  have hd : d = '0' := (List.cons.inj heq).1
  exact h.head_ne_zero (by rw [hdigits, hd]; rfl)

theorem all_isDigit_zeros (count : Nat) : (List.replicate count '0').all isDigit = true :=
  List.all_eq_true.2 fun _ hc => (List.eq_of_mem_replicate hc) ▸ rfl

/-- Digits that all stand before the point. -/
theorem gives_whole {s : Significant} (h : s.Tells m .even) (hm : 0 < m.units) (hcount : s.digits.length ≤ s.point)
    (hpoint : s.point ≤ 16) :
    ∃ n, Numeral.Gives n negative m (signedChars negative
      ((s.digits ++ List.replicate (s.point - s.digits.length).toNat '0') ++ '.' :: ['0'])) := by
  have hpos : 0 < s.digits.length := List.length_pos_iff.2 h.ne_nil
  have hreads := h.reads ((s.point - s.digits.length).toNat + 1) (by omega)
  rw [List.replicate_succ', ← List.append_assoc] at hreads
  refine gives_point ?_ ?_ ?_ (by decide) (by decide) ?_
  · rw [List.all_append, h.all_isDigit, all_isDigit_zeros]
    rfl
  · exact fun hnil => h.ne_nil (List.append_eq_nil_iff.1 hnil).1
  · intro r hr
    exact absurd hr (append_ne_zero_cons h (List.append_nil _).symm h.ne_nil _ r)
  · have hall : (s.digits ++ List.replicate (s.point - s.digits.length).toNat '0' ++ ['0']).all isDigit = true := by
      rw [List.all_append, List.all_append, h.all_isDigit, all_isDigit_zeros]
      rfl
    have hexponent : s.point - s.digits.length - (((s.point - s.digits.length).toNat + 1 : Nat) : Int) = -1 := by
      omega
    rw [hexponent] at hreads
    refine Magnitude.written_neg_one (Nat.le_of_lt (Nat.lt_of_lt_of_le (Text.ofDigitChars_lt hall) ?_)) hreads
      fun hzero => absurd hzero hm.ne'
    refine Nat.pow_le_pow_right (by decide) ?_
    simp only [List.length_append, List.length_replicate, List.length_cons, List.length_nil]
    omega

/-- Digits with the point among them. -/
theorem gives_split {s : Significant} (h : s.Tells m .even) (hcount : s.point < s.digits.length)
    (hpoint : 0 < s.point) :
    ∃ n, Numeral.Gives n negative m (signedChars negative
      (s.digits.take s.point.toNat ++ '.' :: s.digits.drop s.point.toNat)) := by
  have hall := h.all_isDigit
  rw [← List.take_append_drop s.point.toNat s.digits, List.all_append, Bool.and_eq_true] at hall
  have htake : s.digits.take s.point.toNat ≠ [] := by
    rw [ne_eq, ← List.length_eq_zero_iff, List.length_take]
    omega
  refine gives_point hall.1 htake ?_ hall.2 ?_ ?_
  · intro r hr
    have hcut := append_ne_zero_cons h (List.take_append_drop s.point.toNat _).symm htake [] r
    rw [List.append_nil] at hcut
    exact absurd hr hcut
  · rw [ne_eq, ← List.length_eq_zero_iff, List.length_drop]
    omega
  · have hexponent : -((s.digits.drop s.point.toNat).length : Int) = s.point - s.digits.length := by
      rw [List.length_drop]
      omega
    rw [List.take_append_drop, hexponent]
    exact h.written

/-- Digits that all stand behind the point. -/
theorem gives_fraction {s : Significant} (h : s.Tells m .even) (hpoint : s.point ≤ 0) :
    ∃ n, Numeral.Gives n negative m (signedChars negative
      (['0'] ++ '.' :: (List.replicate (-s.point).toNat '0' ++ s.digits))) := by
  refine gives_point (by decide) (by decide) (fun r hr => (List.cons.inj hr).2.symm) ?_ ?_ ?_
  · rw [List.all_append, h.all_isDigit, all_isDigit_zeros]
    rfl
  · exact fun hnil => h.ne_nil (List.append_eq_nil_iff.1 hnil).2
  · have hvalue : digitsValue (['0'] ++ (List.replicate (-s.point).toNat '0' ++ s.digits)) =
        Nat.ofDigitChars 10 s.digits 0 := by
      rw [digitsValue, ← List.append_assoc, ← List.replicate_one, List.replicate_append_replicate,
        Nat.ofDigitChars_append, Nat.ofDigitChars_replicate_zero, Nat.mul_zero]
    have hexponent : -((List.replicate (-s.point).toNat '0' ++ s.digits).length : Int) =
        s.point - s.digits.length := by
      rw [List.length_append, List.length_replicate]
      omega
    rw [hvalue, hexponent]
    exact h.written

theorem gives_positional {s : Significant} (h : s.Tells m .even) (hm : 0 < m.units) (hpoint : s.point ≤ 16) :
    ∃ n, Numeral.Gives n negative m
      (signedChars negative (NumberLayout.positionalText ".0" s).toList) := by
  unfold NumberLayout.positionalText
  simp only
  split
  · next hcount =>
    have htext : (String.ofList (s.digits ++ List.replicate (s.point - s.digits.length).toNat '0') ++
        ".0").toList = (s.digits ++ List.replicate (s.point - s.digits.length).toNat '0') ++
        '.' :: ['0'] := by
      simp [String.toList_append]
    rw [htext]
    exact gives_whole h hm hcount hpoint
  · next hcount =>
    split
    · next hpos =>
      have htext : (String.ofList (s.digits.take s.point.toNat) ++ "." ++
          String.ofList (s.digits.drop s.point.toNat)).toList =
          s.digits.take s.point.toNat ++ '.' :: s.digits.drop s.point.toNat := by
        simp [String.toList_append]
      rw [htext]
      exact gives_split h (Int.not_le.1 hcount) hpos
    · next hpos =>
      have htext : ("0." ++ String.ofList (List.replicate (-s.point).toNat '0' ++ s.digits)).toList =
          ['0'] ++ '.' :: (List.replicate (-s.point).toNat '0' ++ s.digits) := by
        simp [String.toList_append]
      rw [htext]
      exact gives_fraction h (Int.not_lt.1 hpos)

theorem gives_exponentText {s : Significant} (h : s.Tells m .even) :
    ∃ n, Numeral.Gives n negative m
      (signedChars negative (NumberLayout.exponentText "+" s).toList) := by
  obtain ⟨d, ds', hd⟩ := List.exists_cons_of_ne_nil h.ne_nil
  have hwritten := h.written
  have hall := h.all_isDigit
  rw [hd] at hall hwritten
  rw [List.all_cons, Bool.and_eq_true] at hall
  have htext : (NumberLayout.exponentText "+" s).toList =
      [d] ++ ((if ds' = [] then [] else '.' :: ds') ++
        'e' :: ((if s.point - 1 < 0 then "" else "+") ++ Text.intText (s.point - 1)).toList) := by
    unfold NumberLayout.exponentText
    rw [hd]
    cases ds' <;> simp [String.toList_append]
  rw [htext]
  refine gives_exponent (by simpa using hall.1) (by simp) (fun r hr => (List.cons.inj hr).2.symm)
    hall.2 (s.point - 1) ?_
  have hexponent : s.point - 1 - (ds'.length : Int) = s.point - (d :: ds').length := by
    rw [List.length_cons]
    omega
  rw [List.singleton_append, hexponent]
  exact hwritten

/-- Every floating-point number is written as a decimal that rounds to it. -/
theorem exists_gives (negative : Bool) (m : Magnitude) :
    ∃ n, Numeral.Gives n negative m ((Binary64.finite negative m).text .document).toList := by
  rw [toList_text]
  unfold NumberLayout.magnitudeText
  split
  · next hzero =>
    have htext : ("0" ++ NumberLayout.document.wholeMark).toList = ['0'] ++ '.' :: ['0'] := rfl
    rw [htext]
    refine gives_point (by decide) (by decide) (fun r hr => (List.cons.inj hr).2.symm) (by decide)
      (by decide) ?_
    obtain rfl : m = .zero := Magnitude.ext_units hzero
    exact Magnitude.written_neg_one (by decide) (if_pos rfl) fun _ => rfl
  · next hunits =>
    have htells := Significant.tells_shortest (Nat.pos_of_ne_zero hunits)
      NumberLayout.document.tie
    generalize m.shortest NumberLayout.document.tie = s at htells ⊢
    simp only
    split
    · next hpositional =>
      have hle : s.point ≤ 16 := by
        simp only [NumberLayout.document, Bool.and_eq_true, decide_eq_true_eq] at hpositional
        exact hpositional.2
      exact gives_positional htells (Nat.pos_of_ne_zero hunits) hle
    · exact gives_exponentText htells

/-- The numeral as which a floating-point number is written. -/
def floatNumeral (negative : Bool) (m : Magnitude) : Numeral :=
  match readNumeral? (Text.ofText ((Binary64.finite negative m).text .document)) with
  | some (n, _) => n
  | none => ⟨negative, [], [], none⟩

theorem gives_floatNumeral (negative : Bool) (m : Magnitude) :
    (floatNumeral negative m).Gives negative m
      ((Binary64.finite negative m).text .document).toList := by
  obtain ⟨n, hn⟩ := exists_gives negative m
  have hread := hn.reads [] stops_nil
  rw [List.append_nil] at hread
  have heq : floatNumeral negative m = n := by
    rw [floatNumeral, Text.ofText, hread]
  rw [heq]
  exact hn

end Json

/-! ## Numbers that come back -/

namespace Binary64

open Json (floatNumeral)

/-- The number as which a finite number is read where it was written. -/
def reread : Binary64 → Binary64
  | finite negative m => (floatNumeral negative m).toBinary64?.getD nan
  | x => x

/-- What was written is read in two steps, and has the sign that it had. -/
theorem exists_reread (negative : Bool) (m : Magnitude) :
    ∃ m', m.Written .even (floatNumeral negative m).significand (floatNumeral negative m).power ∧
      ofParts (floatNumeral negative m).significand (floatNumeral negative m).power = finite false m' ∧
      (floatNumeral negative m).toBinary64? = some (finite negative m') ∧
      (finite negative m).reread = finite negative m' := by
  have hgives := Json.gives_floatNumeral negative m
  obtain ⟨m', hm'⟩ := hgives.written.exists_ofParts
  -- of at most seventeen digits all are kept
  have hparts := Json.Numeral.parts_of_lt (Nat.lt_of_le_of_lt hgives.written.significand_le (by decide))
  have hread := Json.Numeral.toBinary64?_eq hparts hm'
  rw [hgives.negative_eq] at hread
  exact ⟨m', hgives.written, hm', hread, by rw [reread, hread]; rfl⟩

variable {x : Binary64}

/-- A finite number comes back as a finite number. -/
theorem isFinite_reread (h : x.isFinite = true) : x.reread.isFinite = true := by
  obtain ⟨s, m, rfl⟩ := exists_of_isFinite h
  obtain ⟨m', -, -, -, hreread⟩ := exists_reread s m
  rw [hreread]
  rfl

/-- A positive number comes back as a positive number. -/
theorem isPositive_reread (h : x.isPositive = true) : x.reread.isPositive = true := by
  cases x with
  | nan => cases h
  | infinite s => exact h
  | finite s m =>
    obtain ⟨rfl, hm⟩ : s = false ∧ m.units ≠ 0 := by simpa [isPositive] using h
    obtain ⟨m', hwritten, hparts, -, hreread⟩ := exists_reread false m
    rw [hreread, ← hparts]
    exact hwritten.isPositive_ofParts (Nat.pos_of_ne_zero hm)

/-- Nothing comes back as nothing, and with its sign. -/
theorem reread_zero (negative : Bool) : (zero negative).reread = zero negative := by
  obtain ⟨m', hwritten, hread, -, hreread⟩ := exists_reread negative .zero
  rw [hwritten.zero rfl, ofParts_zero] at hread
  cases hread
  exact hreread

/-- A number comes back as itself where significand and power of ten are numbers. -/
theorem reread_eq {negative : Bool} {m : Magnitude}
    (hs : (floatNumeral negative m).significand ≤ Magnitude.greatestSignificand)
    (hlow : -22 ≤ (floatNumeral negative m).power) (hhigh : (floatNumeral negative m).power ≤ 22) :
    (finite negative m).reread = finite negative m := by
  obtain ⟨m', hwritten, hread, -, hreread⟩ := exists_reread negative m
  rw [ofParts_eq_ofDecimal hs hlow hhigh, hwritten.reads] at hread
  cases hread
  exact hreread

/-- Are the digits as which a number is written read as the number nearest to what they denote? -/
def ReadNearest : Binary64 → Prop
  | finite negative m => (floatNumeral negative m).toBinary64? = some (floatNumeral negative m).nearest
  | _ => True

instance : (x : Binary64) → Decidable x.ReadNearest
  | nan => inferInstanceAs (Decidable True)
  | infinite _ => inferInstanceAs (Decidable True)
  | finite _ _ => inferInstanceAs (Decidable (_ = _))

theorem nearest_floatNumeral (negative : Bool) (m : Magnitude) :
    (floatNumeral negative m).nearest = finite negative m := by
  have hgives := Json.gives_floatNumeral negative m
  rw [Json.Numeral.nearest, hgives.negative_eq]
  exact ofDecimal_sign hgives.written.reads negative

/-- A number comes back as itself exactly if its digits are read with correct rounding. -/
theorem reread_eq_iff (x : Binary64) : x.reread = x ↔ x.ReadNearest := by
  cases x with
  | nan => exact iff_of_true rfl trivial
  | infinite s => exact iff_of_true rfl trivial
  | finite negative m =>
    obtain ⟨m', -, -, hread, hreread⟩ := exists_reread negative m
    rw [ReadNearest, nearest_floatNumeral, hread, hreread]
    exact ⟨congrArg some, Option.some.inj⟩

end Binary64

end Storefront
