/-!
# The commands of the tool

What the words of a command line ask for. A command line is read from left to right and the first word
that decides decides: a request for help is answered although something is missing, but not behind a
word that has no place. Words with a hyphen are options wherever they stand, up to a lone `--`, behind
which every word is part of a path.
-/

namespace Storefront.Tool

/-- What help is about. -/
inductive Topic where
  | tool
  | fetch
  | config
  | help
  deriving DecidableEq

/-- What the tool is asked to do. -/
inductive Command where
  /-- Fetch a resource on behalf of a user. -/
  | fetch (user : String) (path : List String)
  /-- Show the configuration. -/
  | config
  /-- Show help. -/
  | help (topic : Topic)
  /-- Show the version. -/
  | version
  deriving DecidableEq

/-- A word of a command line. -/
inductive Word where
  /-- A lone `--`. -/
  | separator
  /-- A request for help. -/
  | help
  /-- The option that names the user, with its value if that is part of the word. -/
  | user (value : Option String)
  /-- The value of an option, or a part of a path. -/
  | operand
  /-- An option that does not exist. -/
  | unknown
  deriving DecidableEq

namespace Word

/-- The word behind `--`. -/
def ofLong (name : List Char) : Word :=
  if name = [] then separator
  else if name = "help".toList then help
  else if name = "user".toList then user none
  else if "user=".toList.isPrefixOf name then user (some (String.ofList (name.drop 5)))
  else unknown

/-- The word of an option of one letter and what follows the letter. -/
def ofShort (letter : Char) (rest : List Char) : Word :=
  if letter = 'h' then help
  else if letter = 'u' then
    user (match rest with
      | [] => none
      | '=' :: value => some (String.ofList value)
      | value => some (String.ofList value))
  else unknown

/-- What kind of word this is. -/
def parse (text : String) : Word :=
  match text.toList with
  | '-' :: '-' :: name => ofLong name
  | '-' :: letter :: rest => ofShort letter rest
  | _ => operand

end Word

namespace Command

/-- The command to fetch a resource, given the user and the parts of the path so far, the last one
first. A user must be named, and once only. -/
def parseFetch (user : Option String) (path : List String) : List String → Option Command
  | [] => user.map (fetch · path.reverse)
  | text :: rest =>
    match Word.parse text with
    | .separator => user.map (fetch · (path.reverse ++ rest))
    | .help => some (help .fetch)
    | .operand => parseFetch user (text :: path) rest
    | .user (some value) => if user.isSome then none else parseFetch (some value) path rest
    | .user none =>
      match rest with
      | value :: rest =>
        if user = none ∧ Word.parse value = .operand then parseFetch (some value) path rest
        else none
      | [] => none
    | .unknown => none

/-- The command to show the configuration, which takes nothing. -/
def parseConfig : List String → Option Command
  | [] => some config
  | text :: rest =>
    match Word.parse text with
    | .help => some (help .config)
    | .separator => if rest = [] then some config else none
    | .user _ | .operand | .unknown => none

/-- The command to show help. -/
def parseHelp : List String → Option Command
  | [] => some (help .tool)
  | ["fetch"] => some (help .fetch)
  | ["config"] => some (help .config)
  | ["help"] => some (help .help)
  | _ => none

/-- Does the word ask for the version? -/
def asksForVersion (text : String) : Bool :=
  text = "--version" || "-V".toList.isPrefixOf text.toList

/-- The command that the words of a command line make up, if they make up one. -/
def parse : List String → Option Command
  | [] => none
  | "fetch" :: rest => parseFetch none [] rest
  | "config" :: rest => parseConfig rest
  | "help" :: rest => parseHelp rest
  | text :: _ =>
    if Word.parse text = .help then some (help .tool)
    else if asksForVersion text then some version
    else none

end Command

end Storefront.Tool
