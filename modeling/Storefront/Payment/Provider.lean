import Storefront.UserId

/-!
# Payment providers

A shop may have a source of exchange rates, a wallet that hands out addresses and a node that issues
Lightning invoices. Each of them may be missing, and each may fail.
-/

namespace Storefront

/-- Why a payment provider did not give what it was asked for. -/
inductive ProviderError where
  /-- It cannot be reached. -/
  | unavailable (message : String)
  /-- It refuses the request. -/
  | rejected (message : String)
  deriving DecidableEq

/-- The text under which the failure of a payment provider is reported. -/
def ProviderError.message : ProviderError → String
  | .unavailable message => "The payment provider is not available: " ++ message
  | .rejected message => "The payment provider rejected the request: " ++ message

/-- What a payment provider is asked for. -/
inductive PaymentRequest where
  /-- An address in an account of the wallet, to be paid by a buyer. -/
  | address (user : UserId) (account : String)
  /-- An invoice in thousandths of an atom with a memo. -/
  | invoice (milliAtoms : Int64) (memo : String)
  deriving DecidableEq

end Storefront
