import Storefront.Text.Symbols

/-!
# Reading quoted text

Between its quotes a JSON text is a run of pieces: characters, UTF-16 units written as `\uXXXX`, and
stray bytes. `readPieces?` cuts the run off at the closing quote and fails only where the text stops
being JSON. `assemble?` makes characters of the pieces and fails on stray bytes and on surrogates
without their partner.
-/

namespace Storefront.Json

open Text (Symbol)

/-- A piece of a quoted text. -/
inductive Piece where
  /-- A character, plain or escaped. -/
  | char (c : Char)
  /-- A UTF-16 unit. -/
  | unit (code : Nat)
  /-- A byte that belongs to no character. -/
  | stray

/-- The character that a one-letter escape stands for. -/
def simpleEscape? (c : Char) : Option Char :=
  if c = '"' ∨ c = '\\' ∨ c = '/' then some c
  else if c = 'b' then some '\x08'
  else if c = 'f' then some '\x0c'
  else if c = 'n' then some '\n'
  else if c = 'r' then some '\r'
  else if c = 't' then some '\t'
  else none

/-- The value of a hexadecimal digit. -/
def hexValue? (c : Char) : Option Nat :=
  if '0' ≤ c ∧ c ≤ '9' then some (c.toNat - '0'.toNat)
  else if 'a' ≤ c ∧ c ≤ 'f' then some (c.toNat - 'a'.toNat + 10)
  else if 'A' ≤ c ∧ c ≤ 'F' then some (c.toNat - 'A'.toNat + 10)
  else none

/-- The unit that four hexadecimal digits denote. -/
def unitOf? (a b c d : Char) : Option Nat := do
  some ((((← hexValue? a) * 16 + (← hexValue? b)) * 16 + (← hexValue? c)) * 16 + (← hexValue? d))

/-- The pieces up to the closing quote, and what follows it. -/
def readPieces? : List Symbol → Option (List Piece × List Symbol)
  | [] => none
  | none :: rest => (readPieces? rest).map fun (ps, r) => (.stray :: ps, r)
  | some '\\' :: some 'u' :: some a :: some b :: some c :: some d :: rest =>
    match unitOf? a b c d with
    | some code => (readPieces? rest).map fun (ps, r) => (.unit code :: ps, r)
    | none => none
  | some '\\' :: some e :: rest =>
    match simpleEscape? e with
    | some c => (readPieces? rest).map fun (ps, r) => (.char c :: ps, r)
    | none => none
  | some c :: rest =>
    if c = '"' then some ([], rest)
    else if c = '\\' ∨ c.toNat < 0x20 then none
    else (readPieces? rest).map fun (ps, r) => (.char c :: ps, r)

/-- Is the unit the first half of a pair? -/
def isHighSurrogate (code : Nat) : Bool := 0xD800 ≤ code && code < 0xDC00

/-- Is the unit the second half of a pair? -/
def isLowSurrogate (code : Nat) : Bool := 0xDC00 ≤ code && code < 0xE000

/-- The characters that the pieces make up. -/
def assemble? : List Piece → Option (List Char)
  | [] => some []
  | .char c :: rest => (assemble? rest).map (c :: ·)
  | .unit high :: .unit low :: rest =>
    if isHighSurrogate high && isLowSurrogate low then
      let code := 0x10000 + (high - 0xD800) * 0x400 + (low - 0xDC00)
      (assemble? rest).map (Char.ofNat code :: ·)
    else if isHighSurrogate high || isLowSurrogate high then none
    else (assemble? (.unit low :: rest)).map (Char.ofNat high :: ·)
  | .unit code :: rest =>
    if isHighSurrogate code || isLowSurrogate code then none
    else (assemble? rest).map (Char.ofNat code :: ·)
  | .stray :: _ => none

/-- The text behind an opening quote if its pieces make up characters, and what follows the closing
quote. -/
def readQuoted? (symbols : List Symbol) : Option (Option String × List Symbol) :=
  (readPieces? symbols).map fun (ps, rest) => ((assemble? ps).map String.ofList, rest)

end Storefront.Json
