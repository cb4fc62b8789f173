import Storefront.Program
import Storefront.Storage.Error

/-!
# Calls on the storage

The storage holds documents, runs of bytes, under keys. It is asked to get, put and delete a document
and to list the keys of a folder that start in a given way. That something is absent is never an
error, and a listing is sorted.
-/

namespace Storefront.Storage

/-- A call on the storage. -/
inductive Call where
  | get (key : String)
  /-- Put a document under a key in place of an earlier one. -/
  | put (key : String) (data : ByteArray)
  | delete (key : String)
  /-- List the keys that start in a given way, within one folder. -/
  | list (start : String)

namespace Call

/-- What a call answers if it succeeds. -/
def Result : Call → Type
  | get _ => Option ByteArray
  | put _ _ => Unit
  | delete _ => Bool
  | list _ => List String

/-- What a call answers. -/
abbrev Answer (c : Call) : Type := Except StorageError c.Result

/-- The verb of a call. -/
def verb : Call → String
  | get _ => "get"
  | put _ _ => "put"
  | delete _ => "delete"
  | list _ => "list"

/-- The key or the start of keys that a call is about. -/
def key : Call → String
  | get key | put key _ | delete key | list key => key

/-- A call as it is shown: its verb and its key. -/
def text (c : Call) : String := c.verb ++ " " ++ c.key

end Call

/-- The storage as an interface. -/
abbrev interface : Interface := ⟨Call, Call.Answer⟩

end Storefront.Storage
