import Storefront.Payment.Resolution

/-!
# Confirmations

The message that tells the buyer what was ordered, what it costs, and how it is to be paid. Every
line ends in a line feed but the note that the buyer will be contacted, which follows a blank line.
-/

namespace Storefront.Confirmation

/-- How long an amount in the settlement currency is honoured, in minutes. -/
def quoteMinutes : Nat := 60

/-- The line of an item. -/
def itemLine (item : CartItem) : String :=
  "  SKU " ++ item.product.sku ++ " - " ++ item.product.title ++ " - " ++
    Text.natText item.quantity.toNat ++ " units - " ++ item.product.price.text ++ "/item - " ++
    item.subtotal.text

/-- The lines on what the order costs in the base currency. -/
def totalLines (order : Order) : List String :=
  (if order.chargesShipping then
    ["Total item amount: " ++ order.itemTotal.text ++ " " ++ baseCurrency,
      "Shipping and handling charge: " ++ order.shipCharge.text ++ " " ++ baseCurrency]
  else []) ++
  ["Total amount: " ++ order.grandTotal.text ++ " " ++ baseCurrency]

/-- The line on what the order costs in the settlement currency, if that is more than nothing. -/
def quoteLines (order : Order) : List String :=
  match order.exchangeRate with
  | some rate =>
    if 0 < order.settlementTotal.toInt then
      ["Using the current exchange rate of " ++ ExchangeRate.text rate ++ ", your order is " ++
        order.settlementTotal.text ++ ", valid for the next " ++ Text.natText quoteMinutes ++
        " minutes"]
    else []
  | none => []

/-- The text on how the order is to be paid. -/
def payment : Resolution → String
  | .onChain address => "On-chain Payment Address: " ++ address ++ "\n"
  | .lightning invoice => "LN Invoice for payment: " ++ invoice ++ "\n"
  | .contact => "\nYou will be contacted with payment details shortly"
  | .unavailable _ => ""

/-- The lines before the payment. -/
def lines (order : Order) : List String :=
  ["Thank you for placing your order " ++ order.id.text,
    "The following were the items in your order:"] ++
  order.cart.items.map itemLine ++ totalLines order ++ quoteLines order

/-- The message to the buyer. -/
def text (order : Order) (resolution : Resolution) : String :=
  String.join ((lines order).map (· ++ "\n")) ++ payment resolution

end Storefront.Confirmation
