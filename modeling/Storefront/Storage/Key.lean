import Storefront.Storage.Error
import Storefront.Text.Segments

/-!
# Storage keys

A key is a relative path of one or more components between slashes. No component is empty, `.` or
`..`, and no backslash and no NUL occurs. A listing asks for the documents of one folder whose names
start with a given text; the folder and the start of the names are cut apart at the last slash.
-/

namespace Storefront.Storage

/-- The components of a key or a path. -/
def components (key : String) : List String := (Text.segments '/' key.toList).map String.ofList

/-- May this be a component of a key? -/
def isComponent (name : String) : Bool := name ≠ "" && name ≠ "." && name ≠ ".."

/-- May a key hold this character? -/
def allows (c : Char) : Bool := c ≠ '\\' && c ≠ '\x00'

/-- Is the text a key? -/
def isKey (text : String) : Bool := text.toList.all allows && (components text).all isComponent

/-- The components of a key, or a refusal. -/
def readKey (text : String) : Except StorageError (List String) :=
  if isKey text then .ok (components text) else .error (.invalidKey text)

/-- What a listing asks for. -/
structure Listing where
  /-- The key of the folder; empty for the outermost one. -/
  folder : String
  /-- How the names start. -/
  start : String
  deriving DecidableEq

/-- Reads what a listing asks for. -/
def Listing.parse (text : String) : Except StorageError Listing :=
  let (folder, start) := Text.splitLast '/' text.toList
  if folder ≠ [] ∧ !isKey (String.ofList folder) then .error (.invalidKey (String.ofList folder))
  else if !start.all allows then .error (.invalidKey text)
  else .ok ⟨String.ofList folder, String.ofList start⟩

namespace Listing

/-- The components of the folder. -/
def path (l : Listing) : List String := if l.folder = "" then [] else components l.folder

/-- The key of a document in the folder. -/
def key (l : Listing) (name : String) : String :=
  if l.folder = "" then name else l.folder ++ "/" ++ name

/-- Does the name start as asked for? -/
def matchesName (l : Listing) (name : String) : Bool := l.start.toList.isPrefixOf name.toList

end Listing

end Storefront.Storage
