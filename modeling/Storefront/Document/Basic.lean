import Storefront.Document.Fields
import Storefront.Json.Printer
import Storefront.Json.Reader

/-!
# Documents

A type whose values are kept as JSON documents. `Document.encode` writes a document with one field a
line; `Document.decode` reads a whole document, and only blanks may follow the value.
-/

namespace Storefront

/-- A type with a form as a JSON document. -/
class Document (α : Type) where
  toJson : α → Json
  /-- The value that a text holds. -/
  ofTree : Json.Tree → Except Unreadable α

namespace Document

variable {α : Type} [Document α]

/-- The text of a document. -/
def text (a : α) : String := (toJson a).pretty

/-- The bytes of a document. -/
def encode (a : α) : ByteArray := (text a).toUTF8

/-- The value of a whole document. -/
def decodeSymbols (symbols : List Text.Symbol) : Except Unreadable α := do
  let (tree, clean) := Json.readText symbols
  let a ← ofTree tree
  if clean then .ok a else .error .malformed

/-- The value that the bytes of a document hold. -/
def decode (data : ByteArray) : Except Unreadable α := decodeSymbols (Text.symbols data)

instance : Document (List α) where
  toJson as := .array (as.map toJson)
  ofTree := readList ofTree

end Document

end Storefront
