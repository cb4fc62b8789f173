import Storefront.Files.Tree
import Storefront.Tool.Run

/-!
# The machine

A model of what the tool calls: the variables of an environment and a tree of files. Runs of the tool
follow one another in it.
-/

namespace Storefront.Tool

/-- A machine. -/
structure Machine where
  environment : Table String
  /-- The files below the folder in which the tool is started. -/
  tree : Files.Tree

namespace Machine

/-- Answers a call. -/
def answer : (c : Call) → StateM Machine c.Answer
  | .getVariable name => fun m => (EnvFile.valueIn? m.environment name, m)
  | .onFiles operation => fun m =>
    let (a, tree) := (Files.Tree.perform operation).run m.tree
    (a, { m with tree := tree })

/-- Runs the tool. -/
def run (now : Timestamp) (suffix : String) (arguments : List String) (m : Machine) :
    Outcome × Machine :=
  ((Tool.run now suffix arguments).run answer).run m

end Machine

end Storefront.Tool
