import Storefront.Binary64.Basic

/-!
# Decimals in two steps

The reader of documents does not round a decimal once. It takes the significand as a number, multiplies it by
a power of ten or divides it by one, and rounds each of them. So what it reads is near the decimal, but need
not be the number nearest to it.
-/

namespace Storefront.Binary64

/-- The opposite. -/
def neg : Binary64 → Binary64
  | .nan => .nan
  | .infinite negative => .infinite !negative
  | .finite negative m => .finite (!negative) m

instance : Neg Binary64 := ⟨neg⟩

/-- Is it zero, with either sign? -/
def isZero : Binary64 → Bool
  | .finite _ m => m.units = 0
  | _ => false

/-- The number nearest to a power of ten. -/
def tenPow (k : Nat) : Binary64 := ofInt (Nat.pow 10 k)

/-- A number divided by a power of ten, and by 10^308 as often as the power is beyond it and the number is not
nothing. -/
def divTenPow (x : Binary64) (k : Nat) : Binary64 :=
  if k ≤ 308 then x / tenPow k
  else if x.isZero then x
  else divTenPow (x / tenPow 308) (k - 308)
termination_by k

/-- The number that is read for `significand * 10 ^ exponent`, infinity if that is out of range. -/
def ofParts (significand : Nat) (exponent : Int) : Binary64 :=
  let x := ofInt significand
  if exponent < 0 then x.divTenPow (-exponent).toNat
  else if exponent ≤ 308 then x * tenPow exponent.toNat
  else if x.isZero then x
  else .infinite false

end Storefront.Binary64
