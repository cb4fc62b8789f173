import Storefront.Binary64.Scaling

/-!
# Numbers as they are written

A number in a document is kept as its digits. As a whole number it is exact. As a binary64 number it is made from
the digits that fit into a word of 64 bits: further ones before the point only raise the power of ten, and
further ones behind it are passed over.
-/

namespace Storefront.Json

/-- The number that digits denote. -/
def digitsValue (ds : List Char) : Nat := Nat.ofDigitChars 10 ds 0

/-- A number as it was written. -/
structure Numeral where
  /-- Was there a minus sign? -/
  negative : Bool
  /-- The digits before the point. -/
  whole : List Char
  /-- The digits behind the point. -/
  fraction : List Char
  /-- The power of ten behind the digits, if there is one. -/
  exponent : Option Int

/-- Puts digits behind a number as long as it fits into a word of 64 bits. The number, and the digits left. -/
def takeDigits (kept : Nat) : List Char → Nat × List Char
  | [] => (kept, [])
  | d :: ds =>
    let next := Nat.ofDigitChars 10 [d] kept
    if next < UInt64.size then takeDigits next ds else (kept, d :: ds)

namespace Numeral

/-- Was it written without point and exponent? -/
def isWhole (n : Numeral) : Bool := n.fraction.isEmpty && n.exponent.isNone

/-- The number as a word of 64 bits, signed if negative and unsigned else. A negative zero is not
whole. -/
def toInt? (n : Numeral) : Option Int :=
  let size := digitsValue n.whole
  if !n.isWhole then none
  else if n.negative then
    if size ≠ 0 ∧ size ≤ UInt64.size / 2 then some (-size) else none
  else if size < UInt64.size then some size
  else none

/-- The significand and the power of ten from which a binary64 number is made. -/
def parts (n : Numeral) : Nat × Int :=
  let (kept, skipped) := takeDigits 0 n.whole
  let (kept, dropped) := takeDigits kept n.fraction
  (kept, n.exponent.getD 0 + skipped.length + dropped.length - n.fraction.length)

/-- The binary64 number that is read, unless it is out of range. -/
def toBinary64? (n : Numeral) : Option Binary64 :=
  let (significand, exponent) := n.parts
  let x := Binary64.ofParts significand exponent
  if x.isFinite then some (if n.negative then -x else x) else none

end Numeral

end Storefront.Json
