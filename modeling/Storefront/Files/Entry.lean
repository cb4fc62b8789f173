import Storefront.Table

/-!
# Entries

What stands at a place in a tree of files: a file with its bytes, or a folder with what lies in it. A
place is told by the names on the way to it, and the view of an entry is `get?`.
-/

namespace Storefront.Files

/-- The names on the way from a folder inwards. -/
abbrev Place := List String

/-- A file or a folder. -/
inductive Entry where
  /-- A file with its bytes. -/
  | file (data : ByteArray)
  /-- A folder with what lies in it, in the order of the names. -/
  | folder (inside : List (String × Entry))

namespace Entry

/-- What stands at a place in an entry. -/
def get? (e : Entry) : Place → Option Entry
  | [] => some e
  | name :: rest =>
    match e with
    | file _ => none
    | folder inside => (inside.lookup name).bind (get? · rest)

/-- The entry with something else, or nothing, at a place whose folder exists. -/
def set (e : Entry) (new : Option Entry) : Place → Entry
  | [] => new.getD e
  | name :: rest =>
    match e with
    | file data => file data
    | folder inside =>
      match rest, new, inside.lookup name with
      | [], some entry, _ => folder (Table.insert name entry inside)
      | [], none, _ => folder (Table.erase name inside)
      | _ :: _, _, some entry => folder (Table.insert name (entry.set new rest) inside)
      | _ :: _, _, none => folder inside

/-- The names of the files that lie right in a folder. -/
def fileNames : Entry → List String
  | file _ => []
  | folder inside => inside.filterMap fun
    | (name, file _) => some name
    | (_, folder _) => none

mutual

/-- The paths of all files in an entry at a path, and of the folders in which nothing lies, which have a
slash at the end. -/
def paths (path : String) : Entry → List String
  | file _ => [path]
  | folder [] => [if path = "" then "" else path ++ "/"]
  | folder (first :: rest) => pathsInside path (first :: rest)

/-- The paths in the entries of a folder at a path. -/
def pathsInside (path : String) : List (String × Entry) → List String
  | [] => []
  | (name, entry) :: rest =>
    paths (if path = "" then name else path ++ "/" ++ name) entry ++ pathsInside path rest

end

/-- The paths of all files in a folder, and of the folders in which nothing lies, sorted. The folder
itself, if nothing lies in it, has the empty path. -/
def listing (e : Entry) : List String := (paths "" e).mergeSort (decide <| · ≤ ·)

end Entry

end Storefront.Files
