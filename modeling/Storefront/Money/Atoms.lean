import Storefront.Money.Amount
import Storefront.Text.Digits

/-!
# Atoms

Amounts in the settlement currency. A coin has 10^8 atoms; a Lightning invoice is denominated in
thousandths of an atom. Only products clamp; sums, differences and opposites stop with an `Overflow`
when they leave the range.
-/

namespace Storefront

/-- The code of the settlement currency. -/
def settlementCurrency : String := "DCR"

/-- How many atoms make a coin. -/
def atomsPerCoin : Nat := 100000000

/-- An amount in the settlement currency. -/
structure Atoms where
  value : Int64
  deriving DecidableEq

namespace Atoms

/-- No coins. -/
def zero : Atoms := ⟨0⟩

/-- The integer view of an amount. -/
def toInt (a : Atoms) : Int := a.value.toInt

/-- The sum, or a stop if it is out of range. -/
def add? (a b : Atoms) : Except Overflow Atoms :=
  return ⟨← Amount.checked .add (a.toInt + b.toInt)⟩

/-- The difference, or a stop if it is out of range. -/
def sub? (a b : Atoms) : Except Overflow Atoms :=
  return ⟨← Amount.checked .subtract (a.toInt - b.toInt)⟩

/-- The opposite, or a stop if it is out of range. -/
def neg? (a : Atoms) : Except Overflow Atoms :=
  return ⟨← Amount.checked .negate (-a.toInt)⟩

/-- The product with a whole number, clamped to the bounds. -/
def times (a : Atoms) (n : Int) : Atoms := ⟨Amount.saturate (a.toInt * n)⟩

/-- The amounts added up from the left, or a stop at the first partial sum out of range. -/
def sum? (as : List Atoms) : Except Overflow Atoms := as.foldlM add? zero

/-- Whole coins, or a stop if their atoms are out of range. -/
def ofCoins? (coins : Int64) : Except Overflow Atoms :=
  return ⟨← Amount.checked .multiply (coins.toInt * atomsPerCoin)⟩

/-- Is there nothing? -/
def isZero (a : Atoms) : Bool := a.value == 0

/-- The amount in thousandths of an atom, if that fits 64 bits. -/
def toMilliAtoms? (a : Atoms) : Option Int64 :=
  (Amount.checked .multiply (a.toInt * 1000)).toOption

/-- The eight digits behind the point, without the zeros at their end. -/
def fractionDigits (n : Nat) : List Char :=
  ((Text.digitsPadded 8 n).reverse.dropWhile (· = '0')).reverse

/-- A sign if negative, the whole coins, the fraction if there is one, and the currency. -/
def text (a : Atoms) : String :=
  let whole := a.toInt.natAbs / atomsPerCoin
  let fraction := a.toInt.natAbs % atomsPerCoin
  (if a.toInt < 0 then "-" else "") ++ Text.natText whole ++
    (if fraction = 0 then "" else "." ++ String.ofList (fractionDigits fraction)) ++
    " " ++ settlementCurrency

theorem ext_toInt {a b : Atoms} (h : a.toInt = b.toInt) : a = b := by
  cases a; cases b; exact congrArg mk (Int64.toInt_inj.1 h)

@[simp] theorem toInt_zero : zero.toInt = 0 := rfl

@[simp] theorem toInt_times (a : Atoms) (n : Int) :
    (a.times n).toInt = Amount.clamp (a.toInt * n) :=
  Amount.toInt_saturate _

end Atoms

end Storefront
