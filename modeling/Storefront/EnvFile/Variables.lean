import Storefront.Table
import Storefront.Text.Ends

/-!
# Variables

An environment keeps variables as entries `NAME=value`, and what follows a name and an equals sign in
the first entry that starts so is the value under that name. A name with an equals sign in it thus
finds the rest of a value. Variables that are assigned come behind those of the environment and hide
none of them, and no value holds a NUL.
-/

namespace Storefront.EnvFile

/-- The value under a name in an environment. Nothing has the empty name. -/
def valueIn? (entries : Table String) (name : String) : Option String :=
  if name = "" then none
  else entries.findSome? fun (n, value) =>
    (Text.afterStart? (name ++ "=").toList (n ++ "=" ++ value).toList).map String.ofList

/-- The variables of an environment that are of interest, and those assigned since. -/
structure Variables where
  /-- The values found in the environment, each under the name that was asked for. -/
  found : Table String
  /-- The entries of the variables that were assigned. -/
  assigned : Table String

/-- A value that no variable can have. -/
structure InvalidValue where
  /-- The variable that was to have it. -/
  name : String
  deriving DecidableEq

/-- The text under which a value is refused. -/
def InvalidValue.message (e : InvalidValue) : String := "the value for " ++ e.name ++ " holds a NUL"

namespace Variables

/-- The value under a name. -/
def value? (v : Variables) (name : String) : Option String :=
  v.found.lookup name <|> valueIn? v.assigned name

/-- The variables after an assignment. One that is set already stays as it is. -/
def assign (v : Variables) (name value : String) : Except InvalidValue Variables :=
  if (v.value? name).isSome then .ok v
  else if value.toList.contains '\x00' then .error ⟨name⟩
  else .ok { v with assigned := v.assigned.insert name value }

end Variables

end Storefront.EnvFile
