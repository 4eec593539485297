import ConnectorConsole.Ops.Query
import ConnectorConsole.Text.Utf8

/-!
# Operator commands

While a screen is watched the operator types one command a line. An empty line
asks for a refresh. Filters are words of the form key=value; those not given are
taken back, like the emptied fields of a form.
-/

namespace ConnectorConsole

/-- What the operator asks of a watched screen. -/
inductive Command where
  | change (transition : Transition)
  | refresh
  | quit
deriving DecidableEq, Repr

/-- What one line says: a command, or a call for help. -/
inductive OperatorLine where
  | command (command : Command)
  | help
deriving DecidableEq, Repr

/-- Why a line is no command. -/
inductive CommandProblem where
  | unknownCommand (word : String)
  | noAssignment (word : String)
  | badWindow (value : String)
  | unknownFilter (key : String)
deriving DecidableEq, Repr

def CommandProblem.message : CommandProblem → String
  | .unknownCommand word => s!"Unknown command '{word}'"
  | .noAssignment word => s!"Expected key=value, got '{word}'"
  | .badWindow value => s!"window must be a whole number of hours >= 1, got '{value}'"
  | .unknownFilter key => s!"Unknown filter '{key}'"

namespace OperatorLine

def helpText : String :=
  "Commands: n (next page), p (previous page), " ++
    "f [window=<hours>] [status=<status>] [connector=<id>] (apply filters), " ++
    "reset, <enter> (refresh now), q (quit)"

def assignFilter (filters : Filters) (word : String) : Except CommandProblem Filters :=
  match Text.cutAt '=' word with
  | none => .error (.noAssignment word)
  | some (key, value) =>
    if key = "window" ∨ key = "window_hours" then
      match readWithin? 1 (UInt32.size - 1) value with
      | some hours => .ok { filters with windowHours := some (UInt32.ofNat hours) }
      | none => .error (.badWindow value)
    else if key = "status" then .ok { filters with status := value }
    else if key = "connector" ∨ key = "connector_id" then
      .ok { filters with connectorId := value }
    else .error (.unknownFilter key)

def readFilters (words : List String) : Except CommandProblem Filters :=
  words.foldlM assignFilter ⟨none, "", ""⟩

/-- What a line says. Words after a command that takes none are passed over. -/
def read (line : String) : Except CommandProblem OperatorLine :=
  match Text.words line with
  | [] => .ok (.command .refresh)
  | head :: rest =>
    let name := Text.lowerAscii head
    if ["n", "next"].contains name then .ok (.command (.change .next))
    else if ["p", "prev"].contains name then .ok (.command (.change .previous))
    else if name = "reset" then .ok (.command (.change .reset))
    else if ["r", "refresh"].contains name then .ok (.command .refresh)
    else if ["q", "quit", "exit"].contains name then .ok (.command .quit)
    else if ["h", "help", "?"].contains name then .ok .help
    else if ["f", "filter"].contains name then
      (readFilters rest).map fun filters => .command (.change (.filter filters))
    else .error (.unknownCommand name)

end OperatorLine

namespace Command

/-- The lines of a byte sequence. Each ends with a line feed, before which a
carriage return is dropped; the last line may lack its end. -/
def lines : List UInt8 → List (List UInt8)
  | [] => []
  | byte :: rest =>
    if byte = 0x0A then [] :: lines rest
    else if byte = 0x0D ∧ rest.head? = some 0x0A then lines rest
    else
      match lines rest with
      | [] => [[byte]]
      | line :: more => (byte :: line) :: more

/-- The commands on the given lines and what the operator is told meanwhile.
Reading ends with a command to quit or a line that is not text. -/
def readLines : List (List UInt8) → List Command × String
  | [] => ([], "")
  | line :: rest =>
    match Utf8.decode? line with
    | none => ([], "")
    | some text =>
      match OperatorLine.read text with
      | .ok (.command .quit) => ([.quit], "")
      | .ok (.command command) =>
        let (commands, told) := readLines rest
        (command :: commands, told)
      | .ok .help =>
        let (commands, told) := readLines rest
        (commands, OperatorLine.helpText ++ "\n" ++ told)
      | .error problem =>
        let (commands, told) := readLines rest
        (commands, problem.message ++ "\n" ++ OperatorLine.helpText ++ "\n" ++ told)

/-- The commands that the operator types and what is told meanwhile. -/
def readAll (bytes : List UInt8) : List Command × String :=
  readLines (lines bytes)

end Command

end ConnectorConsole
