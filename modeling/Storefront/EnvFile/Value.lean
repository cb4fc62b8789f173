import Storefront.EnvFile.Variables
import Storefront.Text.Alphanumeric

/-!
# Values in an environment file

A value is a run of pieces: characters, and references to variables whose values stand in their place.
Single quotes take everything as it is, double quotes still allow references and escapes, and outside
quotes a value ends at a blank. A reference is a dollar sign before a name of letters and digits, or
before any text between braces; the character that ends a bare name is taken as it is, whatever it is.
-/

namespace Storefront.EnvFile

/-- A piece of a value. -/
inductive Piece where
  /-- A character. -/
  | char (c : Char)
  /-- The value of a variable. -/
  | reference (name : String)
  deriving DecidableEq

/-- Where the reader of a value stands. -/
inductive Place where
  /-- Behind the value. -/
  | behind
  /-- In the value, outside single quotes. -/
  | plain (quoted : Bool)
  /-- Behind a backslash. -/
  | escape (quoted : Bool)
  | single
  /-- In the name of a reference, whose letters so far are given in reverse. -/
  | name (quoted : Bool) (letters : List Char)
  /-- In the name of a reference between braces. -/
  | braced (quoted : Bool) (letters : List Char)

/-- The character that an escape stands for. -/
def escaped? (c : Char) : Option Char :=
  if c = 'n' then some '\n'
  else if c = '\\' ∨ c = '\'' ∨ c = '"' ∨ c = '$' ∨ c = ' ' then some c
  else none

/-- A reference to a variable whose name is given in reverse. -/
def Piece.ofLetters (letters : List Char) : Piece := .reference (String.ofList letters.reverse)

/-- The pieces of what ends at this place, if a value may end there. -/
def piecesAtEnd? : Place → Option (List Piece)
  | .behind | .plain false | .escape false => some []
  | .name false letters => some [.ofLetters letters]
  | .plain true | .escape true | .name true _ | .single | .braced _ _ => none

/-- The pieces of the rest of a value, from a place in it on. -/
def piecesFrom? : Place → List Char → Option (List Piece)
  | place, [] => piecesAtEnd? place
  | .behind, c :: rest =>
    if c = '#' then some []
    else if c = ' ' ∨ c = '\t' then piecesFrom? .behind rest
    else none
  | .escape quoted, c :: rest => do
    let e ← escaped? c
    return .char e :: (← piecesFrom? (.plain quoted) rest)
  | .single, c :: rest =>
    if c = '\'' then piecesFrom? (.plain false) rest
    else return .char c :: (← piecesFrom? .single rest)
  | .name quoted letters, c :: rest =>
    if Text.isAlphanumeric c then piecesFrom? (.name quoted (c :: letters)) rest
    else if c = '\x7b' ∧ letters = [] then piecesFrom? (.braced quoted []) rest
    else if c = '$' then return .ofLetters letters :: (← piecesFrom? (.name quoted []) rest)
    else return .ofLetters letters :: .char c :: (← piecesFrom? (.plain quoted) rest)
  | .braced quoted letters, c :: rest =>
    if c = '\x7d' then return .ofLetters letters :: (← piecesFrom? (.plain quoted) rest)
    else piecesFrom? (.braced quoted (c :: letters)) rest
  | .plain quoted, c :: rest =>
    if c = '$' then piecesFrom? (.name quoted []) rest
    else if c = '"' then piecesFrom? (.plain !quoted) rest
    else if c = '\\' then piecesFrom? (.escape quoted) rest
    else if c = '\'' ∧ !quoted then piecesFrom? .single rest
    else if (c = ' ' ∨ c = '\t') ∧ !quoted then piecesFrom? .behind rest
    else return .char c :: (← piecesFrom? (.plain quoted) rest)

/-- The pieces of a value. -/
def pieces? (value : List Char) : Option (List Piece) := piecesFrom? (.plain false) value

/-- The text of a piece. A variable that is not set has the empty value. -/
def Piece.text (v : Variables) : Piece → String
  | .char c => c.toString
  | .reference name => (v.value? name).getD ""

/-- The text of a run of pieces. -/
def expand (v : Variables) (pieces : List Piece) : String := String.join (pieces.map (Piece.text v))

end Storefront.EnvFile
