import Storefront.Binary64.Shortest

/-!
# Numbers as text

Three layouts of the shortest digits, which differ in where positional notation ends and in how a
whole number and an exponent are marked, and the fixed layout with two places behind the point.
-/

namespace Storefront

/-- How significant digits are laid out. -/
structure NumberLayout where
  /-- Which of two equally near decimals is taken. -/
  tie : Tie
  /-- Is positional notation used where the point stands there? -/
  positional : Int → Bool
  /-- What follows a whole number in positional notation. -/
  wholeMark : String
  /-- What precedes an exponent that is not negative. -/
  exponentSign : String

namespace NumberLayout

/-- In documents: positional from 0.00001 up to sixteen digits, `.0` on whole numbers, `e+16`. -/
def document : NumberLayout := ⟨.even, fun p => -5 < p && p ≤ 16, ".0", "+"⟩

/-- In messages: always positional, whole numbers bare. -/
def plain : NumberLayout := ⟨.up, fun _ => true, "", ""⟩

/-- In the listing of a configuration: positional from 0.0001 up to sixteen digits, `e16`. -/
def listing : NumberLayout := ⟨.up, fun p => -4 < p && p ≤ 16, ".0", ""⟩

/-- Digits with a point among, before or behind them. -/
def positionalText (wholeMark : String) (s : Significant) : String :=
  let count : Int := s.digits.length
  if count ≤ s.point then
    String.ofList (s.digits ++ List.replicate (s.point - count).toNat '0') ++ wholeMark
  else if 0 < s.point then
    String.ofList (s.digits.take s.point.toNat) ++ "." ++ String.ofList (s.digits.drop s.point.toNat)
  else "0." ++ String.ofList (List.replicate (-s.point).toNat '0' ++ s.digits)

/-- One digit, the others behind a point, and the exponent. -/
def exponentText (exponentSign : String) (s : Significant) : String :=
  let exponent := s.point - 1
  String.ofList (s.digits.take 1) ++
    (if s.digits.length ≤ 1 then "" else "." ++ String.ofList (s.digits.drop 1)) ++
    "e" ++ (if exponent < 0 then "" else exponentSign) ++ Text.intText exponent

/-- The text of a finite number without its sign. -/
def magnitudeText (l : NumberLayout) (m : Magnitude) : String :=
  if m.units = 0 then "0" ++ l.wholeMark
  else
    let s := m.shortest l.tie
    if l.positional s.point then positionalText l.wholeMark s else exponentText l.exponentSign s

end NumberLayout

namespace Binary64

/-- A minus sign for negative numbers. -/
def signText (negative : Bool) : String := if negative then "-" else ""

/-- A number in a layout; infinities and what is no number have names. -/
def text (l : NumberLayout) : Binary64 → String
  | .nan => "NaN"
  | .infinite negative => signText negative ++ "inf"
  | .finite negative m => signText negative ++ l.magnitudeText m

/-- A number with exactly two places behind the point, rounded from its exact value, a half going to
the even neighbour. -/
def twoPlaces : Binary64 → String
  | .nan => "NaN"
  | .infinite negative => signText negative ++ "inf"
  | .finite negative m =>
    let hundredths := roundDiv .even (m.units * 100) Magnitude.one
    signText negative ++ Text.natText (hundredths / 100) ++ "." ++
      String.ofList (Text.digitsPadded 2 (hundredths % 100))

end Binary64

end Storefront
