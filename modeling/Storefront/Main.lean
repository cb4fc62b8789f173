import Storefront.Text.Hex
import Storefront.Timestamp.Clock
import Storefront.Tool.Run

/-!
# The tool on the command line

Answers the calls of the tool on the machine it runs on. The time is that at which a new file was
written.
-/

namespace Storefront.Main

/-- The number under which an error was reported. -/
def reportedCode : IO.Error → UInt32
  | .alreadyExists _ code _ | .interrupted _ code _ | .noFileOrDirectory _ code _
  | .invalidArgument _ code _ | .permissionDenied _ code _ | .resourceExhausted _ code _
  | .inappropriateType _ code _ | .noSuchThing _ code _ | .otherError code _
  | .resourceBusy code _ | .resourceVanished code _ | .unsupportedOperation code _
  | .hardwareFault code _ | .unsatisfiedConstraints code _ | .illegalOperation code _
  | .protocolError code _ | .timeExpired code _ => code
  | .unexpectedEof | .userError _ => 0

/-- The number of an error of the system, which some layers report with the opposite sign. -/
def errorCode (e : IO.Error) : UInt32 :=
  let code := reportedCode e
  if code < 0x80000000 then code else 0 - code

/-- A refusal of the system. -/
def refusal (e : IO.Error) : FileError :=
  match errorCode e with
  | 2 => .notFound
  | 17 => .alreadyExists
  | 20 => .notFolder
  | 21 => .isFolder
  | 36 => .nameTooLong
  | _ => .other (toString e)

/-- The result of an action, or the refusal of the system. -/
def attempt {α : Type} (action : IO α) : IO (Except FileError α) := do
  try return .ok (← action)
  catch e => return .error (refusal e)

/-- The text of a path. The folder in which the tool is started has one of its own. -/
def pathText (path : Files.Path) : String := if path = [] then "." else Files.Path.text path

/-- A path as the system takes it. -/
def systemPath (path : Files.Path) := (IO.FS.DirEntry.mk (pathText path) "").root

/-- Performs an operation on files. -/
def perform : (o : Files.Operation) → IO o.Answer
  | .makeFolder path => attempt (IO.FS.createDir (systemPath path))
  | .isFolder path => attempt (systemPath path).isDir
  | .read path => attempt (IO.FS.readBinFile (systemPath path))
  | .write path data => attempt (IO.FS.writeBinFile (systemPath path) data)
  | .rename source target => attempt (IO.FS.rename (systemPath source) (systemPath target))
  | .remove path => attempt (IO.FS.removeFile (systemPath path))
  | .names path => attempt do
    let entries ← (systemPath path).readDir
    let files ← entries.filterM fun entry =>
      return (← entry.path.symlinkMetadata).type == .file
    return files.toList.map fun entry => entry.fileName

/-- Answers a call of the tool. -/
def answer : (c : Tool.Call) → IO c.Answer
  | .getVariable name => IO.getEnv name
  | .onFiles operation => perform operation

/-- The time. -/
def readClock : IO Timestamp := do
  let (_, path) ← IO.FS.createTempFile
  let written := (← path.metadata).modified
  IO.FS.removeFile path
  return (Timestamp.ofClock? written.sec written.nsec.toNat).getD .epoch

end Storefront.Main

/-- Runs the tool. -/
def main (arguments : List String) : IO UInt32 := do
  let now ← Storefront.Main.readClock
  let suffix := Storefront.Text.hex (← IO.getRandomBytes 8)
  let outcome ← (Storefront.Tool.run now suffix arguments).run Storefront.Main.answer
  IO.print outcome.output
  for text in outcome.error?.toList do
    IO.eprintln text
  return outcome.code.toUInt32
