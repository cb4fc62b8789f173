import Storefront.Files.Operation

/-!
# What the tool calls

The calls that the tool makes on the machine: on its files and on the variables of its environment.
-/

namespace Storefront.Tool

/-- A call on the machine. -/
inductive Call where
  | getVariable (name : String)
  | onFiles (operation : Files.Operation)

/-- What a call answers. -/
def Call.Answer : Call → Type
  | getVariable _ => Option String
  | onFiles operation => operation.Answer

/-- The machine as an interface. -/
abbrev interface : Interface := ⟨Call, Call.Answer⟩

/-- A program of the tool. -/
abbrev ToolProgram (α : Type) : Type := Program interface α

/-- Asks for the value of a variable. -/
def getVariable (name : String) : ToolProgram (Option String) :=
  Program.ask (I := interface) (.getVariable name)

/-- Performs an operation on files. -/
def perform (operation : Files.Operation) : ToolProgram operation.Answer :=
  Program.ask (I := interface) (.onFiles operation)

end Storefront.Tool
