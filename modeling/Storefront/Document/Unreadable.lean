import Storefront.Money.Dollars
import Storefront.UserId

/-!
# Why a document cannot be read

The first problem from the left decides. Two problems are told in the words of the shop: a text that
is no user id and a number that is no amount. All others, from a lost bracket to a missing field, are
one: the text is not the JSON of such a record.
-/

namespace Storefront

/-- Why a text cannot be read as a record. -/
inductive Unreadable where
  /-- The text is not the JSON of such a record. -/
  | malformed
  /-- A text inside it is no user id. -/
  | user (refused : InvalidUserId)
  /-- A number inside it is no amount of dollars. -/
  | dollars (refused : InvalidDollars)
  deriving DecidableEq

namespace Unreadable

/-- What stands for every reason that is not told in the words of the shop. -/
def malformedText : String := "<json>"

/-- The text before digits at its end and a word before these, if it ends so and the digits fit 64
bits. Texts are reversed. -/
def dropLabel? (word : String) (reversed : List Char) : Option (List Char) := do
  let ds := reversed.takeWhile Text.isDigit
  let n ← Text.ofDigits? ds.reverse
  let rest := reversed.drop ds.length
  let label := word.toList.reverse
  if n < UInt64.size ∧ label <+: rest then some (rest.drop label.length) else none

/-- A reason without a position in the text, a line and a column, at its end. Positions are not part
of a reason, so one that a refused text happens to end in is left out as well. -/
def withoutPosition (reason : String) : String :=
  match dropLabel? " column " reason.toList.reverse >>= dropLabel? " at line " with
  | some rest => String.ofList rest.reverse
  | none => reason

/-- The reason as it is reported. -/
def message : Unreadable → String
  | malformed => malformedText
  | user e => withoutPosition e.message
  | dollars e => withoutPosition e.message

end Unreadable

end Storefront
