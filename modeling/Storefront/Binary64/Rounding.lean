/-!
# Rounding a quotient

`roundDiv` rounds an exact quotient of natural numbers to the nearest natural number. Where the
quotient lies half way between two numbers, `Tie` decides.
-/

namespace Storefront

/-- Where a quotient half way between two neighbours goes. -/
inductive Tie where
  /-- To the even neighbour. -/
  | even
  /-- To the greater neighbour. -/
  | up
  deriving DecidableEq

/-- The natural number nearest to `n / d`. -/
def roundDiv (tie : Tie) (n d : Nat) : Nat :=
  let q := n / d
  let r := n % d
  if 2 * r < d then q
  else if d < 2 * r then q + 1
  else match tie with
    | .even => q + q % 2
    | .up => q + 1

theorem div_le_roundDiv (tie : Tie) (n d : Nat) : n / d ≤ roundDiv tie n d := by
  simp only [roundDiv]; split
  · omega
  · split
    · omega
    · cases tie <;> simp only <;> omega

theorem roundDiv_le (tie : Tie) (n d : Nat) : roundDiv tie n d ≤ n / d + 1 := by
  simp only [roundDiv]; split
  · omega
  · split
    · omega
    · cases tie <;> simp only <;> omega

end Storefront
