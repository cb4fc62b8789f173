import Storefront.Binary64.Basic
import Storefront.Text.Digits

/-!
# The shortest decimal that reads back

A binary64 number is written with the fewest significant digits that round to it again. For one, two,
and up to seventeen digits the two neighbours of the number on that decimal grid are tried; of two
that read back the nearer is taken, and `Tie` decides where both are equally near.
-/

namespace Storefront

/-- The significant digits of a positive decimal, `0.d₁d₂d₃… * 10 ^ point`. -/
structure Significant where
  /-- The digits, with no zero at the end. -/
  digits : List Char
  /-- Where the point stands, counted from before the first digit. -/
  point : Int

namespace Magnitude

/-- The order of `n / d`: the number `e` with `10 ^ (e - 1) ≤ n / d < 10 ^ e`. -/
def decimalOrder (n d : Nat) : Int :=
  if d ≤ n then (Text.digits (n / d)).length
  else
    let k : Int := (Text.digits (d / n)).length
    if d ≤ n * Nat.pow 10 (k - 1).toNat then 2 - k else 1 - k

/-- The quotient of a size by `10 ^ exponent`, as numerator and denominator. -/
def scaled (m : Magnitude) (exponent : Int) : Nat × Nat :=
  if 0 ≤ exponent then (m.units, one * Nat.pow 10 exponent.toNat)
  else (m.units * Nat.pow 10 (-exponent).toNat, one)

/-- Does `significand * 10 ^ exponent` round to this number? -/
def readsBack (m : Magnitude) (exponent : Int) (significand : Nat) : Bool :=
  Binary64.ofDecimal false significand exponent == .finite false m

/-- The multiple of `10 ^ exponent` that is nearest among those next to the number that read back. -/
def onGrid? (tie : Tie) (m : Magnitude) (exponent : Int) : Option Nat :=
  let (n, d) := m.scaled exponent
  let below := n / d
  let nearest := roundDiv tie n d
  let other := if nearest = below then below + 1 else below
  if m.readsBack exponent nearest then some nearest
  else if m.readsBack exponent other then some other
  else none

/-- A positive decimal with the zeros at the end of its digits left out. -/
def significantOf (significand : Nat) (exponent : Int) : Significant :=
  let ds := Text.digits significand
  ⟨(ds.reverse.dropWhile (· = '0')).reverse, ds.length + exponent⟩

/-- The fewest digits that read back as a positive number. -/
def shortest (tie : Tie) (m : Magnitude) : Significant :=
  let order := decimalOrder m.units one
  let found := (List.range 17).findSome? fun (i : Nat) =>
    let exponent := order - (i + 1 : Nat)
    (m.onGrid? tie exponent).map (significantOf · exponent)
  found.getD ⟨[], 0⟩

end Magnitude

end Storefront
