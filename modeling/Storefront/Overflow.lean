/-!
# Overflow

Amounts and sequence numbers are words of 64 bits. Some operations on them clamp, the others have no
answer outside the range of the word. `Overflow` names the operation that had none, so that a caller
can tell such a stop apart from an error of the shop itself.
-/

namespace Storefront

/-- The arithmetic operation whose exact result does not fit its word. -/
inductive Overflow where
  /-- A sum is out of range. -/
  | add
  /-- A difference is out of range. -/
  | subtract
  /-- A product is out of range. -/
  | multiply
  /-- The opposite of the least number is out of range. -/
  | negate
  deriving DecidableEq

/-- The text under which an overflow is reported. -/
def Overflow.message : Overflow → String
  | .add => "attempt to add with overflow"
  | .subtract => "attempt to subtract with overflow"
  | .multiply => "attempt to multiply with overflow"
  | .negate => "attempt to negate with overflow"

end Storefront
