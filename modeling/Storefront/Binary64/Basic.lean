import Storefront.Binary64.Rounding

/-!
# Binary floating point of 64 bits

Dollar amounts in documents and exchange rates are binary64 numbers. A finite number is a sign and a
whole number of units of 2^-1074 that has at most 53 significant bits and stays below 2^2098 units,
that is 2^1024. Every operation first forms the exact result as a quotient of natural numbers and
then rounds it once, to the nearest number and from half way to the one with the even last bit.
-/

namespace Storefront

namespace Magnitude

/-- How many bits lie behind the point. -/
@[irreducible] def fractionBits : Nat := 1074

/-- The number of units in 2^1024, the first size that is out of range. -/
def limit : Nat := Nat.pow 2 (1024 + fractionBits)

/-- The number of units in one. -/
def one : Nat := Nat.pow 2 fractionBits

/-- The number 2^53, up to which every natural number has at most 53 significant bits. -/
def greatestSignificand : Nat := 9007199254740992

theorem two_pow_pos (k : Nat) : 0 < Nat.pow 2 k := Nat.two_pow_pos k

theorem limit_pos : 0 < limit := by unfold limit; apply two_pow_pos

theorem one_pos : 0 < one := by unfold one; apply two_pow_pos

-- The powers are never to be multiplied out in a proof.
attribute [irreducible] limit one

end Magnitude

/-- The size of a finite number, in units of 2^-1074. -/
structure Magnitude where
  /-- How many units. -/
  units : Nat
  /-- At most 53 significant bits are in use. -/
  precise : ∃ m k, m ≤ Magnitude.greatestSignificand ∧ units = m * Nat.pow 2 k
  /-- The size is below 2^1024. -/
  bounded : units < Magnitude.limit

/-- A binary64 number. -/
inductive Binary64 where
  | nan
  | infinite (negative : Bool)
  /-- A finite number; zero has a sign too. -/
  | finite (negative : Bool) (magnitude : Magnitude)

namespace Magnitude

theorem ext_units {a b : Magnitude} (h : a.units = b.units) : a = b := by
  cases a; cases b; cases h; rfl

instance : DecidableEq Magnitude := fun a b =>
  if h : a.units = b.units then isTrue (ext_units h)
  else isFalse fun e => h (congrArg units e)

/-- Nothing at all. -/
def zero : Magnitude := ⟨0, ⟨0, 0, by decide, rfl⟩, limit_pos⟩

/-- How many of the low bits of `n / d` units do not fit into 53 significant bits. -/
def excessBits (n d : Nat) : Nat := (n / d).log2 - 52

/-- The significand of the number nearest to `n / d` units. -/
def significand (n d : Nat) : Nat := roundDiv .even n (d * Nat.pow 2 (excessBits n d))

theorem significand_le (n d : Nat) : significand n d ≤ greatestSignificand := by
  refine Nat.le_trans (roundDiv_le _ _ _) ?_
  show n / (d * 2 ^ excessBits n d) < 2 ^ 53
  have hlog : n / d < 2 ^ ((n / d).log2 + 1) := Nat.lt_log2_self
  have hexp : (n / d).log2 + 1 ≤ 53 + excessBits n d := by simp only [excessBits]; omega
  have hlt : n / d < 2 ^ 53 * 2 ^ excessBits n d := by
    rw [← Nat.pow_add]
    exact Nat.lt_of_lt_of_le hlog (Nat.pow_le_pow_right (by decide) hexp)
  rw [← Nat.div_div_eq_div_mul]
  exact (Nat.div_lt_iff_lt_mul (Nat.two_pow_pos _)).2 hlt

/-- The number nearest to `n / d` units, before it is known to be in range. -/
def rounded (n d : Nat) : Nat := significand n d * Nat.pow 2 (excessBits n d)

/-- The number nearest to `n / d` units, unless it is 2^1024 or more. -/
def nearest? (n d : Nat) : Option Magnitude :=
  if h : rounded n d < limit then some ⟨rounded n d, ⟨_, _, significand_le n d, rfl⟩, h⟩ else none

end Magnitude

namespace Binary64

deriving instance DecidableEq for Binary64

/-- The number nearest to `n / d` units of 2^-1074 with the given sign, infinity if out of range. -/
def ofUnits (negative : Bool) (n d : Nat) : Binary64 :=
  match Magnitude.nearest? n d with
  | some m => .finite negative m
  | none => .infinite negative

/-- The number nearest to `n / d` with the given sign. -/
def ofRatio (negative : Bool) (n d : Nat) : Binary64 := ofUnits negative (n * Magnitude.one) d

/-- Zero with a sign. -/
def zero (negative : Bool) : Binary64 := .finite negative .zero

/-- The number nearest to an integer. -/
def ofInt (i : Int) : Binary64 := ofRatio (i < 0) i.natAbs 1

/-- The number nearest to `significand * 10 ^ exponent`. Beyond 400 decimal places on either side of
the point the answer is known without forming the power. -/
def ofDecimal (negative : Bool) (significand : Nat) (exponent : Int) : Binary64 :=
  if significand = 0 then zero negative
  else if 400 < exponent then .infinite negative
  else if exponent + (Nat.toDigits 10 significand).length < -400 then zero negative
  else if 0 ≤ exponent then ofRatio negative (significand * Nat.pow 10 exponent.toNat) 1
  else ofRatio negative significand (Nat.pow 10 (-exponent).toNat)

/-- Is the number neither infinite nor not a number? -/
def isFinite : Binary64 → Bool
  | .finite .. => true
  | _ => false

/-- Is the number greater than zero? -/
def isPositive : Binary64 → Bool
  | .nan => false
  | .infinite negative => !negative
  | .finite negative m => !negative && m.units != 0

/-- The product, rounded. -/
def mul : Binary64 → Binary64 → Binary64
  | .finite s a, .finite t b => ofUnits (s ^^ t) (a.units * b.units) Magnitude.one
  | .finite s a, .infinite t => if a.units = 0 then .nan else .infinite (s ^^ t)
  | .infinite s, .finite t b => if b.units = 0 then .nan else .infinite (s ^^ t)
  | .infinite s, .infinite t => .infinite (s ^^ t)
  | .nan, _ => .nan
  | _, .nan => .nan

instance : Mul Binary64 := ⟨mul⟩

/-- The quotient, rounded. -/
def div : Binary64 → Binary64 → Binary64
  | .finite s a, .finite t b =>
    if b.units = 0 then (if a.units = 0 then .nan else .infinite (s ^^ t))
    else ofUnits (s ^^ t) (a.units * Magnitude.one) b.units
  | .finite s _, .infinite t => zero (s ^^ t)
  | .infinite s, .finite t _ => .infinite (s ^^ t)
  | .infinite _, .infinite _ => .nan
  | .nan, _ => .nan
  | _, .nan => .nan

instance : Div Binary64 := ⟨div⟩

/-- The whole number nearest to a finite number, a half going away from zero. -/
def nearestInt? : Binary64 → Option Int
  | .finite negative m =>
    let size : Int := roundDiv .up m.units Magnitude.one
    some (if negative then -size else size)
  | _ => none

end Binary64

end Storefront
