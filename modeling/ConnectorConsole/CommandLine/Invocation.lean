import ConnectorConsole.Catalog
import ConnectorConsole.CommandLine.Grammar
import ConnectorConsole.CommandLine.Settings

/-!
# Commands of the console

The console's own grammar and what its command lines mean. The first half
describes the commands; the second turns what was given into an invocation.
-/

namespace ConnectorConsole

/-- How a draft is opened and edited. -/
structure DraftArguments where
  wizard : WizardMode
  connector : Option String
  mode : Option Mode
  /-- A file to take the draft from. -/
  file : Option String
  /-- Fields to set, in order. -/
  edits : List (String × String)
deriving DecidableEq, Repr

/-- The commands that author drafts. -/
inductive StudioCommand where
  | catalog (query : CatalogQuery) (json : Bool)
  | fields (mode : Mode) (auth : AuthMode)
  | validate (draft : DraftArguments)
  | preview (draft : DraftArguments)
  | propose (draft : DraftArguments) (action : Option ProposalAction)
  | runNow (connectorId : String)
deriving DecidableEq, Repr

/-- The commands that look at operations. -/
structure OpsCommand where
  target : OpsTarget
  query : String
  once : Bool
  json : Bool
deriving DecidableEq, Repr

/-- A command of the console. -/
inductive ConsoleCommand where
  | ops (command : OpsCommand)
  | studio (command : StudioCommand)
deriving DecidableEq, Repr

/-- What a command line asks for. -/
structure Invocation where
  overrides : Overrides
  command : ConsoleCommand
deriving DecidableEq, Repr

namespace Invocation

/-- The number of 64 bits, of at least `least`, that a value writes. -/
def word64? (least : Nat) (value : String) : Option UInt64 :=
  (readWithin? least (UInt64.size - 1) value).map UInt64.ofNat

/-- The number of 32 bits, of at least one, that a value writes. -/
def count? (value : String) : Option UInt32 :=
  (readWithin? 1 (UInt32.size - 1) value).map UInt32.ofNat

/-- The mode that a value names, with blanks around it allowed. -/
def mode? (value : String) : Option Mode :=
  Named.ofName? (Text.trim value)

def auth? (value : String) : Option AuthMode :=
  Named.ofName? (Text.trim value)

def wizard? (value : String) : Option WizardMode :=
  (Named.readLoosely value).toOption

def action? (value : String) : Option ProposalAction :=
  (Named.readLoosely value).toOption

/-- The assignment that a value of the form key=value writes. -/
def assignment? (value : String) : Option (String × String) :=
  ((Text.cutAt '=' value).map fun (key, text) => (Text.trim key, text)).filter
    fun (key, _) => key ≠ ""

def typed {α : Type} (name : String) (read : String → Option α) : OptionSpec :=
  .checked name fun value => (read value).isSome

/-- Options that override settings; they hold for every command. -/
def settingOptions : List OptionSpec :=
  [.text "base-url", typed "refresh-ms" (word64? 1), typed "limit-runs" count?,
   typed "timeout-secs" (word64? 1)]

def opsSpec : CommandSpec :=
  .mk "ops" [] [.text "query", .flag "once", .flag "json"] []
    [.mk "snapshot" [] [] [] [],
     .mk "connector" [] [] ["connector_id"] [],
     .mk "run" [] [] ["run_id"] []]

def draftOptions : List OptionSpec :=
  [typed "wizard" wizard?,
   .text "connector",
   typed "mode" mode?,
   ⟨"draft", true, false, false, fun value => if value = "" then some .missingValue else none⟩,
   { typed "set" assignment? with repeatable := true }]

def studioSpec : CommandSpec :=
  .mk "studio" [] [] []
    [.mk "catalog"
      [.text "status", .text "mode", .text "q", typed "limit" count?, typed "offset" (word64? 0),
       .flag "json"] [] [] [],
     .mk "fields" [{ typed "mode" mode? with required := true }, typed "auth" auth?] [] [] [],
     .mk "validate" draftOptions [] [] [],
     .mk "preview" draftOptions [] [] [],
     .mk "propose" (draftOptions ++ [typed "action" action?]) [] [] [],
     .mk "run-now" [] [] ["connector_id"] []]

def consoleSpec : CommandSpec :=
  .mk "console" [] settingOptions [] [opsSpec, studioSpec]

def overridesOf (path : List Given) : Overrides where
  baseUrl := Given.find? path "base-url"
  refreshMilliseconds := (Given.find? path "refresh-ms").bind (word64? 1)
  limit := (Given.find? path "limit-runs").bind count?
  timeoutSeconds := (Given.find? path "timeout-secs").bind (word64? 1)

def draftOf (path : List Given) : DraftArguments where
  wizard := ((Given.find? path "wizard").bind wizard?).getD (.propose .create)
  connector := Given.find? path "connector"
  mode := (Given.find? path "mode").bind mode?
  file := Given.find? path "draft"
  edits := (Given.all path "set").filterMap assignment?

/-- The text given under a name, empty when there is none. -/
def textOf (path : List Given) (name : String) : String :=
  (Given.find? path name).getD ""

def catalogOf (path : List Given) : CatalogQuery where
  status := textOf path "status"
  mode := textOf path "mode"
  search := textOf path "q"
  limit := ((Given.find? path "limit").bind count?).getD CatalogQuery.defaultLimit
  offset := ((Given.find? path "offset").bind (word64? 0)).getD 0

def opsOf (path : List Given) (name : String) : OpsCommand where
  target :=
    if name = "connector" then .connector (textOf path "connector_id")
    else if name = "run" then .run (textOf path "run_id")
    else .snapshot
  query := textOf path "query"
  once := Given.has path "once"
  json := Given.has path "json"

/-- The authoring command of a name. The grammar has seen to it that the mode
of the fields is given. -/
def studioOf (path : List Given) (name : String) : StudioCommand :=
  if name = "catalog" then .catalog (catalogOf path) (Given.has path "json")
  else if name = "fields" then
    .fields (((Given.find? path "mode").bind mode?).getD .sqlPull)
      (((Given.find? path "auth").bind auth?).getD .staticBearer)
  else if name = "validate" then .validate (draftOf path)
  else if name = "preview" then .preview (draftOf path)
  else if name = "propose" then
    .propose (draftOf path) ((Given.find? path "action").bind action?)
  else .runNow (textOf path "connector_id")

/-- What was given on the way to a command, as an invocation. -/
def ofGiven (path : List Given) : Invocation where
  overrides := overridesOf path
  command :=
    match path.map Given.command with
    | [_, "ops", name] => .ops (opsOf path name)
    | names => .studio (studioOf path (names.getLastD ""))

def read (words : List String) : Except UsageProblem Invocation :=
  (consoleSpec.read words).map ofGiven

end Invocation

end ConnectorConsole
