import Storefront.Files.Entry
import Storefront.Files.Operation

/-!
# Trees of files

A model of files: the outermost folder with all that lies in it, and the folder in which one stands. A
path is walked from the outside in, and the first name that cannot be entered decides why an operation
is refused. Names have at most 255 bytes and paths at most 4095, whatever they lead to.
-/

namespace Storefront.Files

/-- The names walked from the outermost folder on, each with what it led to, the last one first. -/
abbrev Trail := List (String × Entry)

/-- The place that has been reached. -/
def Trail.place (trail : Trail) : Place := (trail.map (·.1)).reverse

/-- Files and folders. -/
structure Tree where
  root : Entry
  /-- The folder in which one stands. -/
  start : Place

namespace Tree

/-- The greatest number of bytes in a name. -/
def nameLimit : Nat := 255

/-- The greatest number of bytes in a path. -/
def pathLimit : Nat := 4095

/-- Nothing but the outermost folder. -/
def empty : Tree := ⟨.folder [], []⟩

/-- The tree with something, or nothing, at a place. -/
def set (t : Tree) (new : Option Entry) (place : Place) : Tree := { t with root := t.root.set new place }

/-! ## Walking along paths -/

/-- What has been reached. -/
def reached (t : Tree) : Trail → Entry
  | [] => t.root
  | (_, entry) :: _ => entry

/-- One more step of a walk. -/
def step (t : Tree) (trail : Trail) (name : String) : Except FileError Trail :=
  match t.reached trail with
  | .file _ => .error .notFolder
  | .folder inside =>
    if Path.isHere name then .ok trail
    else if name = ".." then .ok (trail.drop 1)
    else if nameLimit < name.utf8ByteSize then .error .nameTooLong
    else match inside.lookup name with
      | some entry => .ok ((name, entry) :: trail)
      | none => .error .notFound

/-- A walk from the outermost folder. -/
def walk (t : Tree) (names : Path) : Except FileError Trail := names.foldlM t.step []

/-- The names to be walked for a path from the outermost folder on, if the path is not too long. -/
def way (t : Tree) (path : Path) : Except FileError Path :=
  if pathLimit < path.size then .error .nameTooLong
  else .ok (if path.isAbsolute then path else t.start ++ path)

/-- What stands at the end of a path, and where. -/
def find (t : Tree) (path : Path) : Except FileError (Place × Entry) := do
  let trail ← t.walk (← t.way path)
  return (trail.place, t.reached trail)

/-- What stands at the end of a path whose last name need not exist, and where it stands or would
stand. -/
def aim (t : Tree) (path : Path) : Except FileError (Place × Option Entry) := do
  let way ← t.way path
  let trail ← t.walk way.dropLast
  match way.getLast? with
  | none => return (trail.place, some (t.reached trail))
  | some name =>
    match t.step trail name with
    | .ok trail => return (trail.place, some (t.reached trail))
    | .error .notFound => return (trail.place ++ [name], none)
    | .error e => .error e

/-! ## Operations -/

/-- Performs an operation. -/
def perform : (o : Operation) → StateM Tree o.Answer
  | .makeFolder path => fun t =>
    match t.aim path with
    | .ok (place, none) => (.ok (), t.set (some (.folder [])) place)
    | .ok (_, some _) => (.error .alreadyExists, t)
    | .error e => (.error e, t)
  | .isFolder path => fun t =>
    match t.find path with
    | .ok (_, .folder _) => (.ok true, t)
    | _ => (.ok false, t)
  | .read path => fun t =>
    match t.find path with
    | .ok (_, .file data) => (.ok data, t)
    | .ok (_, .folder _) => (.error .isFolder, t)
    | .error e => (.error e, t)
  | .write path data => fun t =>
    match t.aim path with
    | .ok (_, some (.folder _)) => (.error .isFolder, t)
    | .ok (place, _) => (.ok (), t.set (some (.file data)) place)
    | .error e => (.error e, t)
  | .rename source target => fun t =>
    match t.find source, t.aim target with
    | .ok (_, .folder _), _ => (.error .isFolder, t)
    | .ok _, .ok (_, some (.folder _)) => (.error .isFolder, t)
    | .ok (place, file), .ok (new, _) => (.ok (), (t.set none place).set (some file) new)
    | .ok _, .error e => (.error e, t)
    | .error e, _ => (.error e, t)
  | .remove path => fun t =>
    match t.find path with
    | .ok (place, .file _) => (.ok (), t.set none place)
    | .ok (_, .folder _) => (.error .isFolder, t)
    | .error e => (.error e, t)
  | .names path => fun t =>
    match t.find path with
    | .ok (_, .file _) => (.error .notFolder, t)
    | .ok (_, folder) => (.ok folder.fileNames, t)
    | .error e => (.error e, t)

/-- The listing of what lies below a place. -/
def listing (t : Tree) (place : Place) : List String :=
  match t.root.get? place with
  | some entry => entry.listing
  | none => []

end Tree

end Storefront.Files
