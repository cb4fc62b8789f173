import Storefront.Json.Basic
import Storefront.Json.Numeral

/-!
# What a text holds as JSON

Documents are decided from left to right: a value that the shop refuses counts before a place further
right where the text stops being JSON. A `Tree` therefore keeps what could be read so far, with `cut`
where the text stops being JSON. Two faults are kept inside a tree, since they only matter to a
reader that needs the text: a quoted text whose escapes or bytes make up no characters, and a number
that no binary64 number can hold.
-/

namespace Storefront.Json

/-- What a text holds as far as it is JSON. -/
inductive Tree where
  | null
  | bool (b : Bool)
  /-- A number as it was written. -/
  | number (n : Numeral)
  /-- A quoted text, or `none` if its escapes or bytes make up no characters. -/
  | string (s : Option String)
  | array (items : List Tree)
  /-- Named values in order; a name is absent if it makes up no characters. -/
  | object (fields : List (Option String × Tree))
  /-- Here the text stops being JSON. -/
  | cut

namespace Tree

mutual

/-- Did the text go on being JSON to the end of this value? -/
def isComplete : Tree → Bool
  | .cut => false
  | .array items => itemsComplete items
  | .object fields => fieldsComplete fields
  | _ => true

/-- Is every value of a list complete? -/
def itemsComplete : List Tree → Bool
  | [] => true
  | t :: rest => isComplete t && itemsComplete rest

/-- Is the value of every field complete? -/
def fieldsComplete : List (Option String × Tree) → Bool
  | [] => true
  | (_, t) :: rest => isComplete t && fieldsComplete rest

end

mutual

/-- The JSON value of a tree without faults whose lists and objects nest at most `depth` deep. -/
def toJson? : Nat → Tree → Option Json
  | _, .null => some .null
  | _, .bool b => some (.bool b)
  | _, .number n =>
    match n.toInt? with
    | some i => some (.int i)
    | none => n.toBinary64?.map Json.ofBinary64
  | _, .string s => s.map .string
  | 0, .array _ => none
  | depth + 1, .array items => (toItems? depth items).map .array
  | 0, .object _ => none
  | depth + 1, .object fields => (toFields? depth fields).map .object
  | _, .cut => none

/-- The JSON values of a list. -/
def toItems? : Nat → List Tree → Option (List Json)
  | _, [] => some []
  | depth, t :: rest => do
    let v ← toJson? depth t
    let vs ← toItems? depth rest
    some (v :: vs)

/-- The named JSON values of an object. -/
def toFields? : Nat → List (Option String × Tree) → Option (List (String × Json))
  | _, [] => some []
  | depth, (name, t) :: rest => do
    let name ← name
    let v ← toJson? depth t
    let vs ← toFields? depth rest
    some ((name, v) :: vs)

end

end Tree

end Storefront.Json
