import ConnectorConsole.CommandLine.Invocation

/-!
# Usage

What a command line that cannot be carried out is answered with: one sentence on
what is wrong with it, and the forms that commands have.
-/

namespace ConnectorConsole

def OptionSpec.synopsis (option : OptionSpec) : String :=
  let word := "--" ++ option.name ++ (if option.takesValue then " <value>" else "")
  (if option.required then word else "[" ++ word ++ "]") ++
    (if option.repeatable then "..." else "")

namespace CommandSpec

/-- The words of a command without its subcommands. -/
def ownWords (spec : CommandSpec) : List String :=
  spec.name :: (spec.options ++ spec.shared).map OptionSpec.synopsis ++
    spec.arguments.map fun name => "<" ++ name ++ ">"

mutual

/-- The forms of a command after some words, one for each way to its end. -/
def synopses (before : List String) : CommandSpec → List String
  | spec@(.mk _ _ _ _ subcommands) =>
    let words := before ++ ownWords spec
    match subcommands with
    | [] => [Text.join " " words]
    | sub :: rest => sub.synopses words ++ synopsesOfAll words rest

def synopsesOfAll (before : List String) : List CommandSpec → List String
  | [] => []
  | spec :: rest => spec.synopses before ++ synopsesOfAll before rest

end

end CommandSpec

namespace UsageProblem

/-- Whether the operator has asked for what is told. -/
def isRequest : UsageProblem → Bool
  | .helpWanted | .versionWanted => true
  | _ => false

def exitStatus (problem : UsageProblem) : Nat :=
  if problem.isRequest then 0 else 2

def message : UsageProblem → String
  | .helpWanted => "Author connectors and watch operations"
  | .versionWanted => "console 0.1.0"
  | .nothingGiven | .missingSubcommand => "error: a subcommand is needed"
  | .unknownSubcommand => "error: there is no such subcommand"
  | .missingArgument => "error: a required argument is missing"
  | .unknownArgument => "error: an argument is not expected"
  | .badValue => "error: the value of an option is not valid"
  | .missingValue => "error: an option lacks its value"
  | .unwantedValue => "error: an option takes no value"
  | .repeatedOption => "error: an option is given more than once"

def told (problem : UsageProblem) : String :=
  let forms := (Invocation.consoleSpec.synopses []).map fun form => "  " ++ form ++ "\n"
  match problem with
  | .versionWanted => problem.message ++ "\n"
  | _ => problem.message ++ "\n\nUsage:\n" ++ String.join forms

end UsageProblem

end ConnectorConsole
