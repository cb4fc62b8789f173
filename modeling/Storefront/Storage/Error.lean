import Storefront.Document.Unreadable
import Storefront.Text.Escape

/-!
# Storage errors

A key that is none, a file that the system refuses, and a document that cannot be read. That nothing
is stored under a key is no error.
-/

namespace Storefront

/-- Why the system refused an operation on a file. -/
inductive FileError where
  /-- Nothing stands at the path. -/
  | notFound
  /-- Something stands at the path already. -/
  | alreadyExists
  /-- A part of the path, or the path itself, is a file where a folder is needed. -/
  | notFolder
  /-- The path is a folder where a file is needed. -/
  | isFolder
  /-- A name in the path is longer than the system allows. -/
  | nameTooLong
  /-- Another reason, in the words of the system. -/
  | other (message : String)
  deriving DecidableEq

/-- The text of the system for a refusal. -/
def FileError.message : FileError → String
  | .notFound => "No such file or directory (os error 2)"
  | .alreadyExists => "File exists (os error 17)"
  | .notFolder => "Not a directory (os error 20)"
  | .isFolder => "Is a directory (os error 21)"
  | .nameTooLong => "File name too long (os error 36)"
  | .other message => message

/-- Why a call on the storage failed. -/
inductive StorageError where
  /-- The text is no key. -/
  | invalidKey (text : String)
  /-- The document, or the listing, could not be reached. -/
  | file (key : String) (cause : FileError)
  /-- The document could not be read. -/
  | corrupt (key : String) (reason : Unreadable)
  deriving DecidableEq

/-- The text under which a storage error is reported. -/
def StorageError.message : StorageError → String
  | .invalidKey text => "Invalid storage key: " ++ Text.escape text
  | .file key cause => "I/O error accessing " ++ key ++ ": " ++ cause.message
  | .corrupt key reason => "Document " ++ key ++ " is corrupt: " ++ reason.message

end Storefront
