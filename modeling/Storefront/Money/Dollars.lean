import Storefront.Money.Cents
import Storefront.Binary64.Text

/-!
# Cents and dollars

Documents and configuration hold money as binary64 dollars. Reading multiplies by one hundred and
takes the nearest whole number, a half going away from zero; writing divides the cents by one
hundred. A number of cents beyond 2^63 on either side has no reading.
-/

namespace Storefront

/-- A number of dollars that has no reading in cents. -/
structure InvalidDollars where
  /-- The number that was refused. -/
  dollars : Binary64
  deriving DecidableEq

/-- The text under which a refused number is reported. -/
def InvalidDollars.message (e : InvalidDollars) : String :=
  "Value cannot be represented in cents: " ++ e.dollars.text .plain ++
    " is not a valid dollar amount"

namespace Cents

/-- The whole number of cents nearest to a number of dollars. -/
def ofDollars (dollars : Binary64) : Except InvalidDollars Cents :=
  match (dollars * Binary64.ofInt 100).nearestInt? with
  | some cents =>
    if cents.natAbs ≤ Amount.least.natAbs then .ok ⟨Amount.saturate cents⟩ else .error ⟨dollars⟩
  | none => .error ⟨dollars⟩

/-- The amount as a number of dollars. -/
def dollars (c : Cents) : Binary64 := Binary64.ofInt c.toInt / Binary64.ofInt 100

end Cents

end Storefront
