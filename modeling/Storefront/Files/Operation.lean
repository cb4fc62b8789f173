import Storefront.Files.Path
import Storefront.Program
import Storefront.Storage.Error

/-!
# File operations

The operations on files that the storage needs, and programs that consist of them.
-/

namespace Storefront.Files

/-- An operation on files. -/
inductive Operation where
  /-- Make one folder whose own folder exists. -/
  | makeFolder (path : Path)
  /-- Is this a folder? -/
  | isFolder (path : Path)
  /-- The bytes of a file. -/
  | read (path : Path)
  /-- Write a file, in place of an earlier one. -/
  | write (path : Path) (data : ByteArray)
  /-- Give a file another path, in place of an earlier file there. -/
  | rename (source target : Path)
  /-- Remove a file. -/
  | remove (path : Path)
  /-- The names of the files in a folder; folders within it are left out. -/
  | names (path : Path)

namespace Operation

/-- What an operation gives if it succeeds. -/
def Result : Operation → Type
  | makeFolder _ | write _ _ | rename _ _ | remove _ => Unit
  | isFolder _ => Bool
  | read _ => ByteArray
  | names _ => List String

/-- What an operation gives. -/
abbrev Answer (o : Operation) : Type := Except FileError o.Result

/-- The paths that an operation touches. -/
def paths : Operation → List Path
  | makeFolder p | isFolder p | read p | write p _ | remove p | names p => [p]
  | rename source target => [source, target]

end Operation

/-- The files as an interface. -/
abbrev interface : Interface := ⟨Operation, Operation.Answer⟩

/-- A program on files. -/
abbrev FileProgram (α : Type) : Type := Program interface α

/-- One operation as a program. -/
def perform (o : Operation) : FileProgram o.Answer := Program.ask (I := interface) o

/-- Makes one folder, unless it exists. -/
def makeFolder (path : Path) : FileProgram (Except FileError Unit) := do
  match ← perform (.makeFolder path) with
  | .error .alreadyExists =>
    match ← perform (.isFolder path) with
    | .ok true => return .ok ()
    | _ => return .error .alreadyExists
  | other => return other

/-- Makes a folder and those it lies in, given the names of its path from the inside out. The folder
itself is tried first, so that nothing is made for a path that no folder can have. -/
def makeFoldersFrom : List String → FileProgram (Except FileError Unit)
  | [] => return .ok ()
  | name :: outside =>
    if Path.isHere name then makeFoldersFrom outside
    else do
      let path := (name :: outside).reverse
      match ← makeFolder path with
      | .error .notFound =>
        match ← makeFoldersFrom outside with
        | .ok () => makeFolder path
        | .error e => return .error e
      | other => return other

/-- Makes a folder and those it lies in. -/
def makeFolders (path : Path) : FileProgram (Except FileError Unit) := makeFoldersFrom path.reverse

end Storefront.Files
