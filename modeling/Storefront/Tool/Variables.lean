import Storefront.EnvFile.Assignment
import Storefront.Tool.Call
import Storefront.Tool.Help
import Storefront.Tool.Listing

/-!
# The variables of the tool

The tool works with the variables of its environment and, where these leave one open, with the
assignments of an environment file in the folder in which it is started. One variable counts only in
the environment: how many threads work for the tool is settled before the file is read.
-/

namespace Storefront.Tool

/-! ## Threads -/

/-- The variable for the number of threads. -/
def threadsName : String := "TOKIO_WORKER_THREADS"

/-- The greatest number of threads of which memory could hold a list, 2^60 - 1. -/
def greatestThreads : Nat := 1152921504606846975

/-- Is the text a number of threads with which the tool can start? -/
def isThreadCount (text : String) : Bool :=
  (ToolConfig.readCount? text).any (· ≤ greatestThreads)

/-- Can the tool start with the number of threads that is asked for, if one is? -/
def canStart : ToolProgram Bool := do return (← getVariable threadsName).all isThreadCount

/-- The text under which a number of threads is refused. -/
def threadsText : String := threadsName ++ " is no number of threads"

/-! ## Variables -/

/-- The environment file. -/
def envFile : Files.Path := [".env"]

/-- The assignments of the environment file. A file that cannot be read makes none. -/
def readAssignments : ToolProgram (List EnvFile.Assignment) := do
  match ← perform (.read envFile) with
  | .ok data =>
    return match String.fromUTF8? data with
      | some text => EnvFile.assignments text.toList
      | none => []
  | .error _ => return []

/-- Those of the variables that are set in the environment. -/
def readEnvironment : List String → ToolProgram (Table String)
  | [] => return []
  | name :: rest => do
    let value ← getVariable name
    let environment ← readEnvironment rest
    return match value with
      | some text => environment.insert name text
      | none => environment

/-- The variables that the tool works with, or the first assignment that cannot be made. -/
def readVariables : ToolProgram (Except EnvFile.InvalidValue EnvFile.Variables) := do
  let assignments ← readAssignments
  let names := assignments.flatMap EnvFile.Assignment.names ++ ToolConfig.variableNames ++
    styleVariableNames
  let environment ← readEnvironment names
  return assignments.foldlM EnvFile.Assignment.apply ⟨environment, []⟩

end Storefront.Tool
