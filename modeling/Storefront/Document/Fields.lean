import Storefront.Document.Unreadable
import Storefront.Json.Tree

/-!
# Fields and records

How single values and records are read from what a text holds. A record is an object or the array of
its fields in order. Fields are read from left to right into a draft: a field that comes twice is
refused before its second value is looked at, a field of another name is passed over, and at the end
every field without a default must have come.
-/

namespace Storefront.Document

open Json (Tree)

/-- A text. -/
def readString : Tree → Except Unreadable String
  | .string (some s) => .ok s
  | _ => .error .malformed

/-- A whole number within bounds. -/
def readInt (least greatest : Int) : Tree → Except Unreadable Int
  | .number n =>
    match n.toInt? with
    | some i => if least ≤ i ∧ i ≤ greatest then .ok i else .error .malformed
    | none => .error .malformed
  | _ => .error .malformed

/-- A binary64 number; whole numbers are taken too. -/
def readNumber : Tree → Except Unreadable Binary64
  | .number n =>
    match n.toBinary64? with
    | some x => .ok x
    | none => .error .malformed
  | _ => .error .malformed

/-- An amount given as a number of dollars. -/
def readDollars (t : Tree) : Except Unreadable Cents := do
  match Cents.ofDollars (← readNumber t) with
  | .ok cents => .ok cents
  | .error e => .error (.dollars e)

/-- A value that may be `null`. -/
def readOption {α : Type} (read : Tree → Except Unreadable α) : Tree → Except Unreadable (Option α)
  | .null => .ok none
  | t => some <$> read t

/-- A list of values. -/
def readList {α : Type} (read : Tree → Except Unreadable α) : Tree → Except Unreadable (List α)
  | .array items => items.mapM read
  | _ => .error .malformed

/-- One of a few names, by itself or as the only field of an object, whose value is then `null`. -/
def readName {α : Type} (ofName? : String → Option α) : Tree → Except Unreadable α
  | .string (some name) | .object [(some name, .null)] =>
    match ofName? name with
    | some a => .ok a
    | none => .error .malformed
  | _ => .error .malformed

/-- How records of type `α` are read, through drafts of type `δ`. -/
structure Record (δ α : Type) where
  /-- The names of the fields in order. -/
  names : List String
  /-- The draft before any field. -/
  start : δ
  /-- Takes the value of a field into the draft. -/
  take : String → Tree → δ → Except Unreadable δ
  /-- The record, unless a field is missing. -/
  finish : δ → Option α

/-- The value of a field that has not come before. -/
def once {α : Type} (seen : Option α) (read : Tree → Except Unreadable α) (t : Tree) :
    Except Unreadable (Option α) :=
  match seen with
  | some _ => .error .malformed
  | none => some <$> read t

namespace Record

variable {δ α : Type}

/-- Takes a field of an object into the draft, or passes over it if its name is not known. -/
def takeField (r : Record δ α) (draft : δ) : Option String × Tree → Except Unreadable δ
  | (none, _) => .error .malformed
  | (some name, t) =>
    if name ∈ r.names then r.take name t draft
    else if t.isComplete then .ok draft
    else .error .malformed

/-- The record of a finished draft. -/
def complete (r : Record δ α) (draft : δ) : Except Unreadable α :=
  match r.finish draft with
  | some a => .ok a
  | none => .error .malformed

/-- The record that a value holds. -/
def read (r : Record δ α) : Tree → Except Unreadable α
  | .object fields => do r.complete (← fields.foldlM r.takeField r.start)
  | .array items => do
    let named := r.names.zip items
    let draft ← named.foldlM (fun draft (name, t) => r.take name t draft) r.start
    if items.length ≤ r.names.length then r.complete draft else .error .malformed
  | _ => .error .malformed

end Record

end Storefront.Document
