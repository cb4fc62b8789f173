import Storefront.Binary64.Basic
import Storefront.Text.Digits

/-!
# Reading numbers

A setting holds a number as digits with an optional sign, point and exponent, or as one of the names
of infinity and of what is no number. At least one digit stands before or behind the point. The text
is read whole: no blank is skipped.
-/

namespace Storefront.Binary64

/-- A sign at the start, and what follows it. -/
def readSign : List Char → Bool × List Char
  | '-' :: rest => (true, rest)
  | '+' :: rest => (false, rest)
  | rest => (false, rest)

/-- The number that digits denote, none of them denoting zero. -/
def digitsValue (ds : List Char) : Nat := Nat.ofDigitChars 10 ds 0

/-- The exponent that makes up the rest of a text, if there is one. -/
def readExponent? : List Char → Option Int
  | [] => some 0
  | e :: rest =>
    if e = 'e' ∨ e = 'E' then
      let (negative, ds) := readSign rest
      (Text.ofDigits? ds).map fun n => if negative then -n else n
    else none

/-- A number in digits without its sign. -/
def readDecimal? (negative : Bool) (cs : List Char) : Option Binary64 := do
  let whole := cs.takeWhile Text.isDigit
  let rest := cs.dropWhile Text.isDigit
  let (fraction, rest) := match rest with
    | '.' :: rest => (rest.takeWhile Text.isDigit, rest.dropWhile Text.isDigit)
    | rest => ([], rest)
  if whole = [] ∧ fraction = [] then none
  else
    let exponent ← readExponent? rest
    some (ofDecimal negative (digitsValue (whole ++ fraction)) (exponent - fraction.length))

/-- The number that a text denotes. -/
def parse? (text : String) : Option Binary64 :=
  let (negative, cs) := readSign text.toList
  let name := String.ofList (cs.map Char.toLower)
  if name = "inf" ∨ name = "infinity" then some (.infinite negative)
  else if name = "nan" then some .nan
  else readDecimal? negative cs

end Storefront.Binary64
