import Storefront.Catalog
import Storefront.Shop.Call

/-!
# Shops

A shop sells the products of a catalog under a configuration and shows pages through a renderer. It
keeps nothing in mind: carts and orders are documents in its storage, and each operation is a program
that reads and writes them.
-/

namespace Storefront

/-- Why a page could not be rendered. -/
inductive RenderError where
  | unknownTemplate (template : String)
  | executionFailed (cause : String)
  deriving DecidableEq

/-- The text under which the failure of a renderer is reported. -/
def RenderError.message : RenderError → String
  | .unknownTemplate template => "Template " ++ template ++ " does not exist"
  | .executionFailed cause => "Template execution failed: " ++ cause

/-- Why an operation of a shop failed. -/
inductive ShopError where
  | unknownProduct (sku : String)
  | storage (cause : StorageError)
  | page (template : String) (cause : RenderError)
  /-- A number left its range; the operation stopped short. -/
  | overflow (cause : Overflow)
  deriving DecidableEq

/-- The text under which the failure of an operation is reported. -/
def ShopError.message : ShopError → String
  | .unknownProduct sku => "product does not exist: " ++ sku
  | .storage cause => "Persistence error: " ++ cause.message
  | .page template cause => "unable to execute " ++ template ++ " template: " ++ cause.message
  | .overflow cause => cause.message

/-- Makes the text of a page from the name of its template and its data. -/
abbrev Renderer := String → Json → Except RenderError String

/-- How a shop is run. -/
structure ShopConfig where
  payType : PayType
  /-- The account of the wallet that addresses are taken from. -/
  account : String
  shipCharge : Cents
  operator : Option UserId
  deriving DecidableEq

/-- The configuration of a shop that settles nothing by itself. -/
def ShopConfig.default : ShopConfig := ⟨.manual, "default", .zero, none⟩

/-- A shop. -/
structure Shop where
  /-- The products on sale. -/
  catalog : Catalog
  config : ShopConfig
  /-- How its pages are made. -/
  render : Renderer

namespace Shop

/-- What the source of exchange rates has to say. -/
inductive Quote where
  /-- The shop has no such source. -/
  | unattached
  /-- The source gave no rate. -/
  | missing
  /-- Dollars for one coin. -/
  | rate (rate : Binary64)

/-- The rate of a quote, if there is one. -/
def Quote.rate? : Quote → Option Binary64
  | rate r => some r
  | unattached | missing => none

/-- What an operation finds when it starts. -/
structure Moment where
  now : Timestamp
  quote : Quote
  /-- Has the shop a wallet that hands out addresses? -/
  hasWallet : Bool
  /-- Has the shop a node that issues invoices? -/
  hasNode : Bool

/-- An operation of a shop: a program that may fail. -/
abbrev Operation (α : Type) : Type := ExceptT ShopError (Program interface) α

/-- Makes a call on the storage. -/
def onStorage (request : Storage.Call) : Operation request.Result :=
  ExceptT.mk <| Program.call (I := interface) (.storage request) fun (answer : request.Answer) =>
    .done (answer.mapError .storage)

/-- Asks a payment provider. -/
def askProvider (request : PaymentRequest) : Operation (Except ProviderError String) :=
  ExceptT.mk <| Program.call (I := interface) (.pay request) fun answer => .done (.ok answer)

/-- Announces a new order. -/
def announce (event : OrderPlaced) : Operation Unit :=
  ExceptT.mk <| Program.call (I := interface) (.announce event) fun _ => .done (.ok ())

/-- Reads a document. A document that is absent is no error, one that cannot be read is. -/
def readDocument (α : Type) [Document α] (key : String) : Operation (Option α) := do
  match ← onStorage (.get key) with
  | none => return none
  | some data =>
    match Document.decode data with
    | .ok a => return some a
    | .error reason => throw (.storage (.corrupt key reason))

/-- Writes a document. -/
def writeDocument {α : Type} [Document α] (key : String) (a : α) : Operation Unit :=
  onStorage (.put key (Document.encode a))

/-- Does the user run the shop? -/
def isOperator (shop : Shop) (user : UserId) : Bool := shop.config.operator = some user

end Shop

end Storefront
