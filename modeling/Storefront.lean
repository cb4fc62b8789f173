import Storefront.Binary64.Basic
import Storefront.Binary64.Parser
import Storefront.Binary64.Rounding
import Storefront.Binary64.Scaling
import Storefront.Binary64.Shortest
import Storefront.Binary64.Text
import Storefront.Cart
import Storefront.Catalog
import Storefront.Channel
import Storefront.Channel.Handling
import Storefront.Confirmation
import Storefront.Document.Basic
import Storefront.Document.Fields
import Storefront.Document.Records
import Storefront.Document.Unreadable
import Storefront.EnvFile.Assignment
import Storefront.EnvFile.Lines
import Storefront.EnvFile.Value
import Storefront.EnvFile.Variables
import Storefront.ExchangeRate
import Storefront.Files.Entry
import Storefront.Files.Operation
import Storefront.Files.Path
import Storefront.Files.Tree
import Storefront.InvalidWord
import Storefront.Json.Basic
import Storefront.Json.Numeral
import Storefront.Json.Printer
import Storefront.Json.Quoted
import Storefront.Json.Reader
import Storefront.Json.Tree
import Storefront.Main
import Storefront.Money.Amount
import Storefront.Money.Atoms
import Storefront.Money.Cents
import Storefront.Money.Dollars
import Storefront.Order
import Storefront.OrderId
import Storefront.OrderStatus
import Storefront.Overflow
import Storefront.PayType
import Storefront.Payment.Provider
import Storefront.Payment.Resolution
import Storefront.Product
import Storefront.Program
import Storefront.Proofs.Binary64.Decimal
import Storefront.Proofs.Binary64.Nearest
import Storefront.Proofs.Binary64.Order
import Storefront.Proofs.Binary64.Rounding
import Storefront.Proofs.Binary64.Scaling
import Storefront.Proofs.Binary64.Shortest
import Storefront.Proofs.Binary64.Whole
import Storefront.Proofs.Cart
import Storefront.Proofs.Cart.Lines
import Storefront.Proofs.Catalog
import Storefront.Proofs.Catalog.Construction
import Storefront.Proofs.Channel
import Storefront.Proofs.Channel.Handling
import Storefront.Proofs.Confirmation
import Storefront.Proofs.Confirmation.Amounts
import Storefront.Proofs.Document.Records
import Storefront.Proofs.Document.RoundTrip
import Storefront.Proofs.ExchangeRate
import Storefront.Proofs.Files.Below
import Storefront.Proofs.Files.Destination
import Storefront.Proofs.Files.Entry
import Storefront.Proofs.Files.Grown
import Storefront.Proofs.Files.Inside
import Storefront.Proofs.Files.Root
import Storefront.Proofs.Files.Tree
import Storefront.Proofs.Json.Numerals
import Storefront.Proofs.Json.Quoted
import Storefront.Proofs.Json.Reader
import Storefront.Proofs.Json.Significand
import Storefront.Proofs.Json.Sorted
import Storefront.Proofs.Money.Display
import Storefront.Proofs.Money.Dollars
import Storefront.Proofs.Money.Hundredths
import Storefront.Proofs.Money.Readings
import Storefront.Proofs.Money.Reread
import Storefront.Proofs.Order
import Storefront.Proofs.Order.Settlement
import Storefront.Proofs.Order.Totals
import Storefront.Proofs.Program
import Storefront.Proofs.Shop.Asking
import Storefront.Proofs.Shop.Atomic
import Storefront.Proofs.Shop.Backends
import Storefront.Proofs.Shop.Books
import Storefront.Proofs.Shop.Carts
import Storefront.Proofs.Shop.Confined
import Storefront.Proofs.Shop.Confirmations
import Storefront.Proofs.Shop.Delivery
import Storefront.Proofs.Shop.Documents
import Storefront.Proofs.Shop.Exhausted
import Storefront.Proofs.Shop.Fetched
import Storefront.Proofs.Shop.History
import Storefront.Proofs.Shop.Immutable
import Storefront.Proofs.Shop.InStep
import Storefront.Proofs.Shop.Indifference
import Storefront.Proofs.Shop.Isolation
import Storefront.Proofs.Shop.Keys
import Storefront.Proofs.Shop.Layout
import Storefront.Proofs.Shop.Ledger
import Storefront.Proofs.Shop.Mirror
import Storefront.Proofs.Shop.Orders
import Storefront.Proofs.Shop.Oversized
import Storefront.Proofs.Shop.Pages
import Storefront.Proofs.Shop.Parts
import Storefront.Proofs.Shop.Payments
import Storefront.Proofs.Shop.Places
import Storefront.Proofs.Shop.Reading
import Storefront.Proofs.Shop.Requests
import Storefront.Proofs.Shop.Retries
import Storefront.Proofs.Shop.Returned
import Storefront.Proofs.Shop.Scene
import Storefront.Proofs.Shop.Sessions
import Storefront.Proofs.Shop.Unchecked
import Storefront.Proofs.Shop.World
import Storefront.Proofs.Storage.Alike
import Storefront.Proofs.Storage.Backend
import Storefront.Proofs.Storage.Conduct
import Storefront.Proofs.Storage.Confined
import Storefront.Proofs.Storage.Contract
import Storefront.Proofs.Storage.Folder
import Storefront.Proofs.Storage.Key
import Storefront.Proofs.Storage.Listing
import Storefront.Proofs.Storage.Memory
import Storefront.Proofs.Storage.Mirror
import Storefront.Proofs.Storage.Numbering
import Storefront.Proofs.Storage.Replace
import Storefront.Proofs.Table
import Storefront.Proofs.Text.Bytes
import Storefront.Proofs.Text.Digits
import Storefront.Proofs.Text.Lines
import Storefront.Proofs.Text.Segments
import Storefront.Proofs.Text.Symbols
import Storefront.Proofs.Timestamp.Parser
import Storefront.Proofs.Tool.Config
import Storefront.Shop.Basic
import Storefront.Shop.Call
import Storefront.Shop.Carts
import Storefront.Shop.Layout
import Storefront.Shop.Orders
import Storefront.Shop.Pages
import Storefront.Shop.Resource
import Storefront.Shop.Settlement
import Storefront.Shop.Template
import Storefront.Shop.World
import Storefront.Storage.Backend
import Storefront.Storage.Call
import Storefront.Storage.Error
import Storefront.Storage.Folder
import Storefront.Storage.Key
import Storefront.Storage.Memory
import Storefront.Storage.Numbering
import Storefront.Table
import Storefront.Terminal
import Storefront.Text.Alphanumeric
import Storefront.Text.Blank
import Storefront.Text.Digits
import Storefront.Text.Ends
import Storefront.Text.Escape
import Storefront.Text.Hex
import Storefront.Text.Hidden
import Storefront.Text.Segments
import Storefront.Text.Symbols
import Storefront.Timestamp
import Storefront.Timestamp.Clock
import Storefront.Timestamp.Parser
import Storefront.Tool.Call
import Storefront.Tool.Command
import Storefront.Tool.Config
import Storefront.Tool.Help
import Storefront.Tool.Listing
import Storefront.Tool.Machine
import Storefront.Tool.Run
import Storefront.Tool.Variables
import Storefront.UserId
