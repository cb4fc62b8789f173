import Storefront.Binary64.Text
import Storefront.Table

/-!
# JSON values

A JSON value with integers apart from floating-point numbers and with the fields of an object in
order. `Json.sorted` brings objects into the form in which pages are rendered: each name once, the
last value given for it, the names in the order of their code points.
-/

namespace Storefront

/-- A JSON value. -/
inductive Json where
  | null
  | bool (b : Bool)
  /-- A whole number, written without a point. -/
  | int (i : Int)
  /-- A finite floating-point number. -/
  | float (negative : Bool) (magnitude : Magnitude)
  | string (s : String)
  | array (items : List Json)
  | object (fields : List (String × Json))

namespace Json

/-- A floating-point number; infinities and what is no number have no form and become `null`. -/
def ofBinary64 : Binary64 → Json
  | .finite negative m => .float negative m
  | _ => .null

/-- The value of an optional part. -/
def ofOption {α : Type} (f : α → Json) : Option α → Json
  | some a => f a
  | none => .null

/-- The value of a field of an object. -/
def field? (name : String) : Json → Option Json
  | .object fields => fields.lookup name
  | _ => none

mutual

/-- The value with the fields of every object sorted by name. -/
def sorted : Json → Json
  | .null => .null
  | .bool b => .bool b
  | .int i => .int i
  | .float negative m => .float negative m
  | .string s => .string s
  | .array items => .array (sortedItems items)
  | .object fields => .object (sortedFields fields [])

/-- The values of a list, each sorted. -/
def sortedItems : List Json → List Json
  | [] => []
  | v :: rest => sorted v :: sortedItems rest

/-- The fields from the left, each sorted, put into those already there. -/
def sortedFields : List (String × Json) → Table Json → Table Json
  | [], done => done
  | (name, v) :: rest, done => sortedFields rest (Table.insert name (sorted v) done)

end

end Json

end Storefront
