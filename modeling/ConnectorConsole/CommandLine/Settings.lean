import ConnectorConsole.CommandLine.Failure
import ConnectorConsole.Number.Reading
import ConnectorConsole.Ops.Query
import ConnectorConsole.Text.Blank

/-!
# Settings

Settings come from environment variables, each with a default, and may be
overridden on the command line. A variable that is blank counts as unset; a
number must be whole and at least one.
-/

namespace ConnectorConsole

/-- How the console runs. -/
structure Settings where
  baseUrl : String
  refreshMilliseconds : UInt64
  limit : UInt32
  /-- Without a timeout of its own a request has that of the transport. -/
  timeoutSeconds : Option UInt64
deriving DecidableEq, Repr

/-- Settings given on the command line. -/
structure Overrides where
  baseUrl : Option String
  refreshMilliseconds : Option UInt64
  limit : Option UInt32
  timeoutSeconds : Option UInt64
deriving DecidableEq, Repr

namespace Settings

def default : Settings :=
  ⟨"http://localhost:8000", 15000, QueryState.defaultLimit, none⟩

def baseVariable : String := "GSB_BASE_URL"

def refreshVariable : String := "GSB_REFRESH_MS"

def limitVariable : String := "GSB_DEFAULT_LIMIT_RUNS"

/-- The variable that holds the longest time a request may take. -/
def timeoutVariable : String := "GSB_REQUEST_TIMEOUT_SECS"

def variableNames : List String :=
  [baseVariable, refreshVariable, limitVariable, timeoutVariable]

/-- The number of at least one, and at most `greatest`, in a variable. -/
def positive (lookup : String → Option String) (name expected : String) (greatest : Nat) :
    Except BadSetting (Option Nat) :=
  match lookup name with
  | none => .ok none
  | some raw =>
    match Text.nonBlank? raw with
    | none => .ok none
    | some text =>
      match readWithin? 1 greatest text with
      | some number => .ok (some number)
      | none => .error ⟨name, raw, expected⟩

def ofVariables (lookup : String → Option String) : Except BadSetting Settings := do
  let refresh ←
    positive lookup refreshVariable "a positive number of milliseconds" (UInt64.size - 1)
  let limit ← positive lookup limitVariable "a positive integer" (UInt32.size - 1)
  let timeout ←
    positive lookup timeoutVariable "a positive number of seconds" (UInt64.size - 1)
  return {
    baseUrl := ((lookup baseVariable).bind Text.nonBlank?).getD default.baseUrl
    refreshMilliseconds := (refresh.map UInt64.ofNat).getD default.refreshMilliseconds
    limit := (limit.map UInt32.ofNat).getD default.limit
    timeoutSeconds := timeout.map UInt64.ofNat }

def override (settings : Settings) (overrides : Overrides) : Settings where
  baseUrl := overrides.baseUrl.getD settings.baseUrl
  refreshMilliseconds := overrides.refreshMilliseconds.getD settings.refreshMilliseconds
  limit := overrides.limit.getD settings.limit
  timeoutSeconds := overrides.timeoutSeconds.or settings.timeoutSeconds

def badBase (settings : Settings) : BadSetting :=
  ⟨baseVariable, settings.baseUrl, "an http(s) URL"⟩

end Settings

end ConnectorConsole
