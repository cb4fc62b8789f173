import Storefront.Json.Basic

/-!
# Writing JSON

Two layouts of a value: `compact` without any blank, and `pretty` with one item or field a line and
two blanks for each level. Only quotes, backslashes and the characters below U+0020 are escaped.
-/

namespace Storefront.Json

/-- A character inside a quoted text. -/
def escapeChar (c : Char) : List Char :=
  if c = '"' then ['\\', '"']
  else if c = '\\' then ['\\', '\\']
  else if c = '\x08' then ['\\', 'b']
  else if c = '\t' then ['\\', 't']
  else if c = '\n' then ['\\', 'n']
  else if c = '\x0c' then ['\\', 'f']
  else if c = '\r' then ['\\', 'r']
  else if c.toNat < 0x20 then
    ['\\', 'u', '0', '0', Nat.digitChar (c.toNat / 16), Nat.digitChar (c.toNat % 16)]
  else [c]

/-- A quoted text. -/
def quote (s : String) : List Char := '"' :: s.toList.flatMap escapeChar ++ ['"']

/-- A value that is neither a list nor an object. -/
def scalarChars : Json → List Char
  | .null => "null".toList
  | .bool true => "true".toList
  | .bool false => "false".toList
  | .int i => (Text.intText i).toList
  | .float negative m => ((Binary64.finite negative m).text .document).toList
  | .string s => quote s
  | .array _ | .object _ => []

mutual

/-- The characters of a value without blanks. -/
def compactChars : Json → List Char
  | .array items => '[' :: compactItems items ++ [']']
  | .object fields => '\x7b' :: compactFields fields ++ ['\x7d']
  | v => scalarChars v

/-- Values with commas between them. -/
def compactItems : List Json → List Char
  | [] => []
  | [v] => compactChars v
  | v :: rest => compactChars v ++ ',' :: compactItems rest

/-- Fields with commas between them. -/
def compactFields : List (String × Json) → List Char
  | [] => []
  | [(name, v)] => quote name ++ ':' :: compactChars v
  | (name, v) :: rest => quote name ++ ':' :: compactChars v ++ ',' :: compactFields rest

end

/-- The start of a line at a depth. -/
def lineStart (depth : Nat) : List Char := '\n' :: List.replicate (2 * depth) ' '

mutual

/-- The characters of a value whose closing bracket stands at `depth`. -/
def prettyChars (depth : Nat) : Json → List Char
  | .array [] => ['[', ']']
  | .array items => '[' :: prettyItems (depth + 1) items ++ lineStart depth ++ [']']
  | .object [] => ['\x7b', '\x7d']
  | .object fields => '\x7b' :: prettyFields (depth + 1) fields ++ lineStart depth ++ ['\x7d']
  | v => scalarChars v

/-- Values on lines of their own with commas between them. -/
def prettyItems (depth : Nat) : List Json → List Char
  | [] => []
  | [v] => lineStart depth ++ prettyChars depth v
  | v :: rest => lineStart depth ++ prettyChars depth v ++ ',' :: prettyItems depth rest

/-- Fields on lines of their own with commas between them. -/
def prettyFields (depth : Nat) : List (String × Json) → List Char
  | [] => []
  | [(name, v)] => lineStart depth ++ quote name ++ ':' :: ' ' :: prettyChars depth v
  | (name, v) :: rest =>
    lineStart depth ++ quote name ++ ':' :: ' ' :: prettyChars depth v ++
      ',' :: prettyFields depth rest

end

/-- The value on one line without blanks. -/
def compact (v : Json) : String := String.ofList v.compactChars

/-- The value with one item or field a line. -/
def pretty (v : Json) : String := String.ofList (v.prettyChars 0)

end Storefront.Json
