import Storefront.Text.Segments

/-!
# Paths

A path is written as names between slashes. It leads from the folder in which one stands, or from the
outermost folder if it starts with a slash. An empty name and `.` stand for the folder that has been
reached, and `..` for the one around it; the others are names of what lies in a folder.
-/

namespace Storefront.Files

/-- The names of a path, from the outside in. The first name of a path that starts with a slash is
empty, and the path without names leads nowhere else. -/
abbrev Path := List String

namespace Path

/-- The path that a text such as `data/store` writes. -/
def ofText (text : String) : Path :=
  if text = "" then [] else (Text.segments '/' text.toList).map String.ofList

/-- The text of a path. -/
def text (path : Path) : String := String.intercalate "/" path

/-- The number of bytes in the text of a path. -/
def size : Path → Nat
  | [] => 0
  | [name] => name.utf8ByteSize
  | name :: rest => name.utf8ByteSize + 1 + size rest

/-- Does the path start at the outermost folder? -/
def isAbsolute (path : Path) : Bool := path.head? = some ""

/-- The path of what lies below a folder. A slash at the end of the folder is the one that is
needed. -/
def join (folder names : Path) : Path :=
  (if folder.getLast? = some "" then folder.dropLast else folder) ++ names

/-- Does the name stand for the folder that has been reached? -/
def isHere (name : String) : Bool := name = "" || name = "."

end Path

end Storefront.Files
