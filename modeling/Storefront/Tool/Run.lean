import Storefront.Channel
import Storefront.Shop.Pages
import Storefront.Storage.Folder
import Storefront.Terminal
import Storefront.Tool.Help
import Storefront.Tool.Variables

/-!
# The tool

One run of the tool: it reads its variables and its command line, and prints a page, the configuration
or help, or says why it did not. Of two problems the one that is met first is reported: the variables
come before the command line, the command line before the user, the user before the catalog, and the
catalog before the shop.
-/

namespace Storefront.Tool

/-- How a run ends. -/
inductive Outcome where
  /-- With a text. -/
  | printed (text : String)
  /-- With an error. -/
  | failed (message : String)
  /-- With a command line that makes up no command. -/
  | misused
  /-- Short of an end, a number having left its range or a value being of no use. -/
  | stopped (message : String)
  deriving DecidableEq

namespace Outcome

/-- The exit code. -/
def code : Outcome → Nat
  | printed _ => 0
  | failed _ => 1
  | misused => 2
  | stopped _ => 101

/-- The text on the standard output. -/
def output : Outcome → String
  | printed text => text
  | failed _ | misused | stopped _ => ""

/-- The error that is reported. -/
def error? : Outcome → Option String
  | failed message => some ("Error: " ++ message)
  | printed _ | misused | stopped _ => none

end Outcome

/-! ## Fetching a resource -/

/-- The segments of a path given in parts, each of which may hold several. -/
def segments (parts : List String) : List String :=
  (parts.flatMap fun part => (Text.segments '/' part.toList).map String.ofList).filter (· ≠ "")

/-- The outside of the shop that the tool opens: its storage is a folder, payment providers it has
none, and nobody wants to hear of new orders. -/
def answerShop (root : Files.Path) (suffix : String) : (c : Shop.Call) → ToolProgram c.Answer
  | .storage request => (Storage.Folder.answer root suffix request).run perform
  | .pay _ => return Except.error (ProviderError.unavailable "")
  | .announce _ => return ()

/-- Reads the catalog. -/
def readCatalog (path : String) : ToolProgram (Except CatalogError Catalog) := do
  return Catalog.ofFile (← perform (.read (.ofText path)))

/-- The shop that the tool opens. -/
def shop (config : ToolConfig) (catalog : Catalog) : Shop :=
  ⟨catalog, config.shopConfig, fun page data => .ok (Terminal.render page data)⟩

/-- How a run ends that fetched a resource. -/
def Outcome.ofReply (path : List String) : Except ShopError Shop.Reply → Outcome
  | .ok (.page text) => printed text
  | .ok .notFound => failed ("Resource not found: /" ++ String.intercalate "/" path)
  | .error (.overflow cause) => stopped cause.message
  | .error e => failed e.message

/-- Fetches a resource from the shop of a catalog. -/
def fetchFrom (config : ToolConfig) (catalog : Catalog) (now : Timestamp) (suffix : String)
    (user : UserId) (path : List String) : ToolProgram Outcome := do
  let operation := (shop config catalog).fetch ⟨now, config.quote, false, false⟩ user path
  return .ofReply path (← operation.run.run (answerShop (.ofText config.root) suffix))

/-- Fetches a resource. -/
def fetch (config : ToolConfig) (now : Timestamp) (suffix user : String) (path : List String) :
    ToolProgram Outcome := do
  match UserId.parse user with
  | .error e => return .failed e.message
  | .ok user =>
    match ← readCatalog config.catalog with
    | .error _ => return .failed ("Could not load the catalog from " ++ config.catalog)
    | .ok catalog =>
      if Channel.greatestCapacity < config.eventBuffer then return .stopped Channel.tooLongText
      else fetchFrom config catalog now suffix user path

/-! ## Runs -/

/-- What the tool does with its variables and the words of its command line. -/
def obey (now : Timestamp) (suffix : String) (v : EnvFile.Variables)
    (arguments : List String) : ToolProgram Outcome := do
  let config := ToolConfig.ofVariables v.value?
  match Command.parse arguments with
  | none => return .misused
  | some (.help topic) => return .printed (topic.text (isStyled v.value?))
  | some .version => return .printed versionText
  | some .config => return .printed (config.listing v.value?)
  | some (.fetch user path) => fetch config now suffix user (segments path)

/-- A run of the tool at a time. The suffix is that of temporary files. -/
def run (now : Timestamp) (suffix : String) (arguments : List String) : ToolProgram Outcome := do
  if !(← canStart) then return .stopped threadsText
  match ← readVariables with
  | .ok v => obey now suffix v arguments
  | .error e => return .stopped e.message

end Storefront.Tool
