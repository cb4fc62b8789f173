import Storefront.Storage.Call
import Storefront.Storage.Key
import Storefront.Table

/-!
# Documents in memory

The storage as a table from keys to documents. There are no folders: a listing looks at every key and
compares what precedes its last slash.
-/

namespace Storefront.Storage

/-- Documents by key. -/
structure Memory where
  /-- The documents in the order of their keys. -/
  documents : Table ByteArray
  /-- They do stand in this order, each key once. -/
  ascending : documents.Ascending

namespace Memory

/-- No documents. -/
def empty : Memory := ⟨[], Table.ascending_nil⟩

/-- How many documents there are. -/
def size (m : Memory) : Nat := m.documents.length

/-- The document under a key. -/
def get? (m : Memory) (key : String) : Option ByteArray := m.documents.lookup key

/-- Is there a document under the key? -/
def contains (m : Memory) (key : String) : Bool := (m.get? key).isSome

/-- The documents with one more under a key, in place of an earlier one. -/
def put (m : Memory) (key : String) (data : ByteArray) : Memory :=
  ⟨m.documents.insert key data, m.ascending.insert key data⟩

/-- The documents without the one under a key. -/
def erase (m : Memory) (key : String) : Memory :=
  ⟨m.documents.erase key, m.ascending.erase key⟩

/-- Does a listing show the key? -/
def shows (l : Listing) (key : String) : Bool :=
  let (folder, name) := Text.splitLast '/' key.toList
  l.folder == String.ofList folder && l.matchesName (String.ofList name)

/-- The keys that a listing shows. -/
def listed (m : Memory) (l : Listing) : List String := (m.documents.map Prod.fst).filter (shows l)

/-- Answers a call on the storage. -/
def answer : (c : Call) → StateM Memory c.Answer
  | .get key => fun m =>
    match readKey key with
    | .ok _ => (.ok (m.get? key), m)
    | .error e => (.error e, m)
  | .put key data => fun m =>
    match readKey key with
    | .ok _ => (.ok (), m.put key data)
    | .error e => (.error e, m)
  | .delete key => fun m =>
    match readKey key with
    | .ok _ => (.ok (m.contains key), m.erase key)
    | .error e => (.error e, m)
  | .list start => fun m =>
    match Listing.parse start with
    | .ok l => (.ok (m.listed l), m)
    | .error e => (.error e, m)

end Memory

end Storefront.Storage
