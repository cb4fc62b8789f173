/-!
# Decimal digits

Natural numbers as decimal text. `digits` writes without padding, `digitsPadded` fills up with zeros
on the left, and `ofDigits?` reads any non-empty run of ASCII digits, leading zeros included.
-/

namespace Storefront.Text

/-- The decimal digits of a number, the most significant first; zero has one digit. -/
def digits (n : Nat) : List Char := Nat.toDigits 10 n

/-- The decimal digits of a number, filled up with zeros on the left to at least `width`. -/
def digitsPadded (width n : Nat) : List Char :=
  List.replicate (width - (digits n).length) '0' ++ digits n

/-- Is this one of the ten ASCII digits? -/
def isDigit (c : Char) : Bool := c.isDigit

/-- The number that a non-empty run of ASCII digits denotes. -/
def ofDigits? (cs : List Char) : Option Nat :=
  if cs ≠ [] ∧ cs.all isDigit then some (Nat.ofDigitChars 10 cs 0) else none

/-- A natural number as decimal text. -/
def natText (n : Nat) : String := String.ofList (digits n)

/-- An integer as decimal text, with a minus sign exactly if it is negative. -/
def intText (i : Int) : String :=
  if i < 0 then "-" ++ natText i.natAbs else natText i.natAbs

theorem digits_ne_nil (n : Nat) : digits n ≠ [] := Nat.toDigits_ne_nil

theorem isDigit_of_mem_digits {n : Nat} {c : Char} (h : c ∈ digits n) : isDigit c = true :=
  Nat.isDigit_of_mem_toDigits (by decide) (by decide) h

/-- Reading the digits of a number gives the number back. -/
theorem ofDigits?_digits (n : Nat) : ofDigits? (digits n) = some n := by
  have hall : (digits n).all isDigit = true :=
    List.all_eq_true.2 fun c hc => isDigit_of_mem_digits hc
  simp only [ofDigits?, digits_ne_nil, ne_eq, not_false_eq_true, hall, and_self, if_true]
  exact congrArg some Nat.ofDigitChars_ten_toDigits

end Storefront.Text
