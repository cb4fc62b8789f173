import Storefront.EnvFile.Lines
import Storefront.EnvFile.Value
import Storefront.Text.Ends

/-!
# Assignments in an environment file

Each line assigns a value to a variable, as in `NAME=value` or `export NAME=value`, or holds nothing.
The assignments of a file are those before the first line that is neither. An assignment does not
change a variable that is set already, so the environment comes before the file and an earlier line
before a later one.
-/

namespace Storefront.EnvFile

/-- An assignment of a value to a variable. -/
structure Assignment where
  name : String
  value : List Piece
  deriving DecidableEq

/-- What a line holds. -/
inductive Line where
  | blank
  | assignment (assignment : Assignment)
  | malformed

/-- May a name start with this character? -/
def startsName (c : Char) : Bool := c.isAlpha || c = '_'

/-- May a name hold this character? -/
def allowsInName (c : Char) : Bool := c.isAlphanum || c = '_' || c = '.'

/-- The name at the start of a text, and what follows it behind blanks. -/
def splitName? (text : List Char) : Option (String × List Char) :=
  if text.head?.any startsName then
    some (String.ofList (text.takeWhile allowsInName),
      Text.trimLeft (text.dropWhile allowsInName))
  else none

/-- The name that is assigned to, and what follows it behind blanks. The word `export` is a name of its
own where an equals sign follows, and says nothing elsewhere. -/
def splitTarget? (text : List Char) : Option (String × List Char) := do
  let (name, rest) ← splitName? text
  if name = "export" ∧ rest.head? ≠ some '=' then splitName? rest else some (name, rest)

/-- The assignment in a text without blanks at its ends. -/
def Assignment.parse? (text : List Char) : Option Assignment := do
  let (name, rest) ← splitTarget? text
  let value := Text.trimLeft (← Text.afterStart? ['='] rest)
  if value.head? = some '#' then some ⟨name, []⟩ else return ⟨name, ← pieces? value⟩

/-- What a line holds. -/
def Line.parse (line : List Char) : Line :=
  let text := Text.trim line
  if text = [] ∨ text.head? = some '#' then .blank
  else match Assignment.parse? text with
    | some a => .assignment a
    | none => .malformed

/-- The assignments before the first malformed line. -/
def assignmentsBeforeFault : List Line → List Assignment
  | [] | .malformed :: _ => []
  | .blank :: rest => assignmentsBeforeFault rest
  | .assignment a :: rest => a :: assignmentsBeforeFault rest

/-- The assignments of a file. -/
def assignments (text : List Char) : List Assignment :=
  assignmentsBeforeFault ((lines text).map Line.parse)

namespace Assignment

/-- The variables that an assignment mentions. -/
def names (a : Assignment) : List String :=
  a.name :: a.value.filterMap fun
    | .reference name => some name
    | .char _ => none

/-- The variables after an assignment. -/
def apply (v : Variables) (a : Assignment) : Except InvalidValue Variables :=
  v.assign a.name (expand v a.value)

end Assignment

end Storefront.EnvFile
