import Storefront.Money.Atoms
import Storefront.Money.Dollars
import Storefront.Timestamp

/-!
# Exchange rates

The price of a settlement coin in dollars. Only a finite rate above zero is of use. An amount in the
base currency is converted in binary64 arithmetic: dollars by the rate, times the atoms in a coin,
taken to the nearest atom and clamped to 64 bits.
-/

namespace Storefront

/-- The number of atoms nearest to a binary64 number, clamped to the bounds. What is no number counts
as nothing. -/
def Atoms.nearest : Binary64 → Atoms
  | .nan => zero
  | .infinite true => ⟨Amount.saturate Amount.least⟩
  | .infinite false => ⟨Amount.saturate Amount.greatest⟩
  | x => ⟨Amount.saturate (x.nearestInt?.getD 0)⟩

/-- The price of a coin at a moment. -/
structure ExchangeRate where
  /-- Dollars for one coin. -/
  rate : Binary64
  /-- When the price was learned. -/
  updatedAt : Timestamp
  deriving DecidableEq

namespace ExchangeRate

/-- May this number serve as a rate? -/
def isUsable (rate : Binary64) : Bool := rate.isFinite && rate.isPositive

/-- The atoms that an amount is worth; nothing at a rate that is of no use. -/
def convert (rate : Binary64) (amount : Cents) : Atoms :=
  if isUsable rate then .nearest (amount.dollars / rate * .ofInt atomsPerCoin) else .zero

/-- A rate as it is shown to a buyer. -/
def text (rate : Binary64) : String :=
  rate.twoPlaces ++ " " ++ baseCurrency ++ "/" ++ settlementCurrency

end ExchangeRate

end Storefront
