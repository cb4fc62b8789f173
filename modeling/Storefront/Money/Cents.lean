import Storefront.Money.Amount
import Storefront.Text.Digits

/-!
# Cents

Prices, charges and totals in the base currency, held as whole cents so that totals never drift.
Sums and products clamp at the bounds of 64 bits. A difference and an opposite have no clamped form:
they stop with an `Overflow`.
-/

namespace Storefront

/-- The code of the base currency. -/
def baseCurrency : String := "USD"

/-- An amount in the base currency, in hundredths of a dollar. -/
structure Cents where
  value : Int64
  deriving DecidableEq

namespace Cents

/-- No money. -/
def zero : Cents := ⟨0⟩

/-- The integer view of an amount. -/
def toInt (c : Cents) : Int := c.value.toInt

/-- The sum, clamped to the bounds. -/
def add (a b : Cents) : Cents := ⟨Amount.saturate (a.toInt + b.toInt)⟩

instance : Add Cents := ⟨add⟩

/-- The price of `n` units, clamped to the bounds. -/
def times (a : Cents) (n : Int) : Cents := ⟨Amount.saturate (a.toInt * n)⟩

/-- The difference, or a stop if it is out of range. -/
def sub? (a b : Cents) : Except Overflow Cents :=
  return ⟨← Amount.checked .subtract (a.toInt - b.toInt)⟩

/-- The opposite, or a stop if it is out of range. -/
def neg? (a : Cents) : Except Overflow Cents :=
  return ⟨← Amount.checked .negate (-a.toInt)⟩

/-- The amounts added up from the left, each partial sum clamped. -/
def sum (cs : List Cents) : Cents := cs.foldl add zero

/-- The cents of whole dollars, clamped to the bounds. -/
def ofWholeDollars (dollars : Int64) : Cents := ⟨Amount.saturate (dollars.toInt * 100)⟩

/-- Is the amount more than nothing? -/
def isPositive (c : Cents) : Bool := 0 < c.toInt

/-- The greater of two amounts. -/
def max (a b : Cents) : Cents := if a.toInt ≤ b.toInt then b else a

/-- A sign if negative, a dollar sign, the whole dollars, a point and two digits of cents. -/
def text (c : Cents) : String :=
  (if c.toInt < 0 then "-$" else "$") ++ Text.natText (c.toInt.natAbs / 100) ++ "." ++
    String.ofList (Text.digitsPadded 2 (c.toInt.natAbs % 100))

theorem ext_toInt {a b : Cents} (h : a.toInt = b.toInt) : a = b := by
  cases a; cases b; exact congrArg mk (Int64.toInt_inj.1 h)

theorem fits_toInt (c : Cents) : Amount.Fits c.toInt := Amount.fits_toInt c.value

@[simp] theorem toInt_zero : zero.toInt = 0 := rfl

@[simp] theorem toInt_add (a b : Cents) : (a + b).toInt = Amount.clamp (a.toInt + b.toInt) :=
  Amount.toInt_saturate _

@[simp] theorem toInt_times (a : Cents) (n : Int) :
    (a.times n).toInt = Amount.clamp (a.toInt * n) :=
  Amount.toInt_saturate _

end Cents

end Storefront
