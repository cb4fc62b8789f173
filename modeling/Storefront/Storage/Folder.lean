import Storefront.Files.Operation
import Storefront.Storage.Call
import Storefront.Storage.Key

/-!
# Documents in a folder

The storage as files below a root folder, one file a document, the components of the key being the
names on the way. A document is first written to a hidden temporary file beside its place and then
moved there, so that a reader sees the old document or the new one and never a part. Files whose
names start with a point are not listed.
-/

namespace Storefront.Storage.Folder

open Files (Path FileProgram perform makeFolders)

/-- The name of the temporary file for a document. -/
def temporaryName (name suffix : String) : String := "." ++ name ++ ".tmp-" ++ suffix

/-- The temporary path for the document at a path. -/
def temporary (path : Path) (suffix : String) : Path :=
  path.dropLast ++ [temporaryName (path.getLast?.getD "") suffix]

/-- A refusal of the system as an error of the storage. -/
def failed {α : Type} (key : String) (cause : FileError) : Except StorageError α :=
  .error (.file key cause)

/-- Fetches the document at a path. -/
def get (key : String) (path : Path) : FileProgram (Except StorageError (Option ByteArray)) := do
  match ← perform (.read path) with
  | .ok data => return .ok (some data)
  | .error .notFound => return .ok none
  | .error e => return failed key e

/-- Puts a document at a path, by way of a temporary file. -/
def put (key : String) (path : Path) (suffix : String) (data : ByteArray) :
    FileProgram (Except StorageError Unit) := do
  match ← makeFolders path.dropLast with
  | .error e => return failed key e
  | .ok () =>
    let aside := temporary path suffix
    match ← perform (.write aside data) with
    | .error e =>
      let _ ← perform (.remove aside)
      return failed key e
    | .ok () =>
      match ← perform (.rename aside path) with
      | .ok () => return .ok ()
      | .error e =>
        let _ ← perform (.remove aside)
        return failed key e

/-- Deletes the document at a path. -/
def delete (key : String) (path : Path) : FileProgram (Except StorageError Bool) := do
  match ← perform (.remove path) with
  | .ok () => return .ok true
  | .error .notFound => return .ok false
  | .error e => return failed key e

/-- The keys that a listing shows among the names of its folder, sorted. -/
def listed (l : Listing) (names : List String) : List String :=
  ((names.filter fun name => name.toList.head? ≠ some '.' && l.matchesName name).map l.key).mergeSort
    (decide <| · ≤ ·)

/-- Lists the keys in a folder. -/
def list (start : String) (root : Path) (l : Listing) :
    FileProgram (Except StorageError (List String)) := do
  match ← perform (.names (root.join l.path)) with
  | .ok names => return .ok (listed l names)
  | .error .notFound => return .ok []
  | .error e => return failed start e

/-- Answers a call on the storage below a root folder. The suffix names the temporary file. -/
def answer (root : Path) (suffix : String) : (c : Call) → FileProgram c.Answer
  | .get key =>
    match readKey key with
    | .ok path => get key (root.join path)
    | .error e => return .error e
  | .put key data =>
    match readKey key with
    | .ok path => put key (root.join path) suffix data
    | .error e => return .error e
  | .delete key =>
    match readKey key with
    | .ok path => delete key (root.join path)
    | .error e => return .error e
  | .list start =>
    match Listing.parse start with
    | .ok l => list start root l
    | .error e => return .error e

end Storefront.Storage.Folder
