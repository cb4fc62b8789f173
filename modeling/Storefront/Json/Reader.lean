import Storefront.Json.Tree
import Storefront.Json.Quoted
import Storefront.Text.Digits

/-!
# Reading JSON

The reader turns symbols into a `Tree` and what follows it; nothing follows once the text has stopped
being JSON. Every step into a value consumes a symbol, so the length of the text bounds the nesting.
-/

namespace Storefront.Json

open Text (Symbol)

/-- Is the symbol one of the four blanks of JSON? -/
def isSpace : Symbol → Bool
  | some c => c = ' ' || c = '\n' || c = '\t' || c = '\r'
  | none => false

/-- The symbols from the first that is not blank. -/
def skipSpace (symbols : List Symbol) : List Symbol := symbols.dropWhile isSpace

/-- What follows a word, if the symbols start with it. -/
def afterWord? : List Char → List Symbol → Option (List Symbol)
  | [], rest => some rest
  | w :: ws, some c :: rest => if w = c then afterWord? ws rest else none
  | _ :: _, _ => none

/-- The digits at the start, and what follows them. -/
def spanDigits : List Symbol → List Char × List Symbol
  | some c :: rest =>
    if Text.isDigit c then
      let (ds, r) := spanDigits rest
      (c :: ds, r)
    else ([], some c :: rest)
  | rest => ([], rest)

/-- The digits behind a point, if there is one. -/
def readFraction? : List Symbol → Option (List Char × List Symbol)
  | some '.' :: rest =>
    let (ds, r) := spanDigits rest
    if ds = [] then none else some (ds, r)
  | rest => some ([], rest)

/-- Whether there is a minus sign at the start, and what follows it. -/
def readMinus : List Symbol → Bool × List Symbol
  | some '-' :: rest => (true, rest)
  | rest => (false, rest)

/-- Whether there is a minus sign at the start, and what follows a sign of either kind. -/
def readSign : List Symbol → Bool × List Symbol
  | some '+' :: rest => (false, rest)
  | rest => readMinus rest

/-- The power of ten, if there is one. -/
def readExponent? : List Symbol → Option (Option Int × List Symbol)
  | some e :: rest =>
    if e = 'e' ∨ e = 'E' then
      let (negative, rest) := readSign rest
      let (ds, r) := spanDigits rest
      if ds = [] then none
      else
        let n : Int := digitsValue ds
        some (some (if negative then -n else n), r)
    else some (none, some e :: rest)
  | rest => some (none, rest)

/-- The number at the start. A first zero has no further digit before the point. -/
def readNumeral? (symbols : List Symbol) : Option (Numeral × List Symbol) := do
  let (negative, rest) := readMinus symbols
  let (ds, rest) := spanDigits rest
  match ds with
  | [] => none
  | '0' :: _ :: _ => none
  | _ =>
    let (fraction, rest) ← readFraction? rest
    let (exponent, rest) ← readExponent? rest
    some (⟨negative, ds, fraction, exponent⟩, rest)

/-- A scalar value at the start that is no text. -/
def readScalar (symbols : List Symbol) : Tree × Option (List Symbol) :=
  let word (w : String) (t : Tree) : Tree × Option (List Symbol) :=
    match afterWord? w.toList symbols with
    | some rest => (t, some rest)
    | none => (.cut, none)
  match symbols with
  | some 'n' :: _ => word "null" .null
  | some 't' :: _ => word "true" (.bool true)
  | some 'f' :: _ => word "false" (.bool false)
  | _ =>
    match readNumeral? symbols with
    | some (n, rest) => (.number n, some rest)
    | none => (.cut, none)

mutual

/-- The value at the start, and what follows it. -/
def readValue : Nat → List Symbol → Tree × Option (List Symbol)
  | 0, _ => (.cut, none)
  | fuel + 1, symbols =>
    match skipSpace symbols with
    | some '[' :: rest =>
      match skipSpace rest with
      | some ']' :: rest => (.array [], some rest)
      | _ =>
        let (items, rest) := readItems fuel rest
        (.array items, rest)
    | some '\x7b' :: rest =>
      match skipSpace rest with
      | some '\x7d' :: rest => (.object [], some rest)
      | _ =>
        let (fields, rest) := readFields fuel rest
        (.object fields, rest)
    | some '"' :: rest =>
      match readQuoted? rest with
      | some (s, rest) => (.string s, some rest)
      | none => (.cut, none)
    | rest => readScalar rest

/-- One value and those behind commas, up to the closing bracket. -/
def readItems : Nat → List Symbol → List Tree × Option (List Symbol)
  | 0, _ => ([.cut], none)
  | fuel + 1, symbols =>
    match readValue fuel symbols with
    | (t, none) => ([t], none)
    | (t, some rest) =>
      match skipSpace rest with
      | some ',' :: rest =>
        let (ts, rest) := readItems fuel rest
        (t :: ts, rest)
      | some ']' :: rest => ([t], some rest)
      | _ => ([t, .cut], none)

/-- One field and those behind commas, up to the closing brace. -/
def readFields : Nat → List Symbol → List (Option String × Tree) × Option (List Symbol)
  | 0, _ => ([(none, .cut)], none)
  | fuel + 1, symbols =>
    match skipSpace symbols with
    | some '"' :: rest =>
      match readQuoted? rest with
      | none => ([(none, .cut)], none)
      | some (name, rest) =>
        match skipSpace rest with
        | some ':' :: rest =>
          match readValue fuel rest with
          | (t, none) => ([(name, t)], none)
          | (t, some rest) =>
            match skipSpace rest with
            | some ',' :: rest =>
              let (ts, rest) := readFields fuel rest
              ((name, t) :: ts, rest)
            | some '\x7d' :: rest => ([(name, t)], some rest)
            | _ => ([(name, t), (none, .cut)], none)
        | _ => ([(name, .cut)], none)
    | _ => ([(none, .cut)], none)

end

/-- What a whole text holds, and whether only blanks follow it. -/
def readText (symbols : List Symbol) : Tree × Bool :=
  match readValue (symbols.length + 1) symbols with
  | (t, some rest) => (t, (skipSpace rest).isEmpty)
  | (t, none) => (t, false)

/-- The JSON value of a whole text without faults, with at most 127 levels of nesting. -/
def parse? (symbols : List Symbol) : Option Json :=
  let (t, clean) := readText symbols
  if clean then t.toJson? 127 else none

end Storefront.Json
