import Storefront.Files.Tree
import Storefront.Storage.Folder
import Storefront.Storage.Memory

/-!
# Backends

The storage in memory or in a folder, where any call may be made to fail before it reaches the
documents, and with a record of the calls that were made.
-/

namespace Storefront.Storage

/-- Where documents are kept. -/
inductive Backend where
  | memory (documents : Memory)
  /-- In files below a root folder. -/
  | files (root : Files.Path) (tree : Files.Tree)

namespace Backend

/-- The name given to temporary files. Nothing else writes to the folder, so one name will do. -/
def temporarySuffix : String := "0000000000000000"

/-- Answers a call. -/
def answer (c : Call) : StateM Backend c.Answer
  | .memory documents =>
    let (a, documents) := (Memory.answer c).run documents
    (a, .memory documents)
  | .files root tree =>
    let (a, tree) := ((Folder.answer root temporarySuffix c).run Files.Tree.perform).run tree
    (a, .files root tree)

end Backend

/-- Which calls fail, and why: a table from the text of a call, or from its verb alone, to the message
of the system. -/
structure Faults where
  messages : Table String

namespace Faults

/-- No call fails. -/
def none : Faults := ⟨[]⟩

/-- From now on calls of this text or verb fail with a message, or no longer fail. -/
def set (f : Faults) (text : String) : Option String → Faults
  | some message => ⟨f.messages.insert text message⟩
  | .none => ⟨f.messages.erase text⟩

/-- The message with which a call fails, if it does. A message for exactly this call comes before one
for its verb. -/
def message? (f : Faults) (c : Call) : Option String :=
  f.messages.lookup c.text <|> f.messages.lookup c.verb

end Faults

/-- A backend whose calls may be made to fail, with a record of the calls. -/
structure Recorded where
  backend : Backend
  faults : Faults
  /-- The calls that were made, the last one first. -/
  calls : List Call

namespace Recorded

/-- Answers a call and records it. -/
def answer (c : Call) : StateM Recorded c.Answer := fun r =>
  let r := { r with calls := c :: r.calls }
  match r.faults.message? c with
  | some message => (.error (.file c.key (.other message)), r)
  | none =>
    let (a, backend) := (Backend.answer c).run r.backend
    (a, { r with backend := backend })

end Recorded

end Storefront.Storage
