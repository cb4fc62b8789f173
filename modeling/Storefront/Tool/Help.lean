import Storefront.Tool.Command

/-!
# Help

The texts that tell how the tool is used. Headings and the words that are written as they stand may be
set apart by the control sequences of a terminal; that is done only where it is forced, as what is
printed need not go to a terminal.
-/

namespace Storefront.Tool

/-- The name of the tool. -/
def toolName : String := "storetools"

/-- The name and the version of the tool. -/
def versionText : String := toolName ++ " 0.1.0\n"

/-! ## Style -/

/-- The variable that forces style. -/
def forceStyleName : String := "CLICOLOR_FORCE"

/-- The variable that forbids style. -/
def forbidStyleName : String := "NO_COLOR"

/-- The variables that have a say in style. -/
def styleVariableNames : List String := [forceStyleName, forbidStyleName]

/-- Is help set in style? What is forbidden cannot be forced, and an empty value says nothing. -/
def isStyled (value? : String → Option String) : Bool :=
  let holds (name : String) : Bool := (value? name).any (· ≠ "")
  holds forceStyleName && !holds forbidStyleName

/-- A piece of a line. -/
inductive Span where
  | plain (text : String)
  | heading (text : String)
  /-- Words that are written as they stand. -/
  | literal (text : String)

namespace Span

/-- The control sequence behind which text is bold. -/
def bold : String := "\x1b[1m"

/-- The control sequence behind which text is underlined. -/
def underlined : String := "\x1b[4m"

/-- The control sequence that ends all style. -/
def ending : String := "\x1b[0m"

/-- The text of a piece, in style or without. -/
def text (styled : Bool) : Span → String
  | plain text => text
  | heading text => if styled then bold ++ underlined ++ text ++ ending else text
  | literal text => if styled then bold ++ text ++ ending else text

end Span

/-! ## Topics -/

/-- The lines of a help text: what it is about, the usage, and the rest. -/
def helpLines (about : String) (usage : List Span) (rest : List (List Span)) : List (List Span) :=
  [[.plain about], [], [.heading "Usage:", .plain " "] ++ usage, []] ++ rest

namespace Topic

/-- What a command does, in one line. -/
def about : Topic → String
  | tool => "Browse and shop from a simple store on the command line"
  | fetch => "Fetch a store resource on behalf of a user, e.g. `fetch -u alice addtocart A1`"
  | config => "Print the effective configuration and the environment it was read from"
  | help => "Print this message or the help of the given subcommand(s)"

/-- The line of a command in a list of commands. -/
def commandLine (name gap : String) (topic : Topic) : List Span :=
  [.plain "  ", .literal name, .plain (gap ++ topic.about)]

/-- The line of an option with a short and a long name. -/
def optionLine (short long rest : String) : List Span :=
  [.plain "  ", .literal short, .plain ", ", .literal long, .plain rest]

/-- The lines of the help on a topic. -/
def lines (topic : Topic) : List (List Span) :=
  match topic with
  | tool => helpLines topic.about [.literal toolName, .plain " <COMMAND>"]
      [[.heading "Commands:"], commandLine "fetch" "   " fetch, commandLine "config" "  " config,
        commandLine "help" "    " help, [], [.heading "Options:"],
        optionLine "-h" "--help" "     Print help", optionLine "-V" "--version" "  Print version"]
  | fetch => helpLines topic.about
      [.literal (toolName ++ " fetch"), .plain " ", .literal "--user", .plain " <USER> [PATH]..."]
      [[.heading "Arguments:"],
        [.plain ("  [PATH]...  The resource path. Segments may be given as separate arguments " ++
          "or joined with '/'")], [], [.heading "Options:"],
        optionLine "-u" "--user" " <USER>  The id of the user making the request",
        optionLine "-h" "--help" "         Print help"]
  | config => helpLines topic.about [.literal (toolName ++ " config")]
      [[.heading "Options:"], optionLine "-h" "--help" "  Print help"]
  | help => helpLines topic.about [.literal (toolName ++ " help"), .plain " [COMMAND]..."]
      [[.heading "Arguments:"], [.plain "  [COMMAND]...  Print help for the subcommand(s)"]]

/-- The help on a topic, in style or without. -/
def text (topic : Topic) (styled : Bool) : String :=
  String.join (topic.lines.map fun line => String.join (line.map (Span.text styled)) ++ "\n")

end Topic

end Storefront.Tool
