import Storefront.Text.Digits
import Storefront.Text.Ends
import Storefront.Text.Segments

/-!
# Numbered names

Documents that are numbered have names such as `order-7.json`: a number in plain decimal between two
fixed texts. Names in a listing stand in the order of their characters, not of their numbers, so the
greatest number is looked for among all of them.
-/

namespace Storefront.Storage

/-- The fixed texts around the number in a name. -/
structure Numbering where
  /-- What precedes the number. -/
  before : String
  /-- What follows the number. -/
  after : String
  deriving DecidableEq

namespace Numbering

/-- The name with a number. -/
def name (p : Numbering) (n : Nat) : String := p.before ++ Text.natText n ++ p.after

/-- The number in a name, or in a key that ends in a name, if it fits 64 bits. -/
def number? (p : Numbering) (key : String) : Option Nat := do
  let (_, name) := Text.splitLast '/' key.toList
  let rest ← Text.afterStart? p.before.toList name
  let ds ← Text.beforeEnd? p.after.toList rest
  let n ← Text.ofDigits? ds
  if n < UInt64.size then some n else none

/-- The greatest number among keys; those without a number do not count. -/
def greatest? (p : Numbering) (keys : List String) : Option Nat :=
  (keys.filterMap p.number?).max?

end Numbering

end Storefront.Storage
