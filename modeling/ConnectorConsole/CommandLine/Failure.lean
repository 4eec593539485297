import ConnectorConsole.Fault

/-!
# Failures of commands

How a command can fail, what it then says and with which exit status. One kind
of failure has been shown already when the command ends and says nothing more.
-/

namespace ConnectorConsole

/-- A setting that cannot be used. -/
structure BadSetting where
  name : String
  value : String
  expected : String
deriving DecidableEq, Repr

/-- Why a file cannot be read. -/
inductive FileProblem where
  | missing
  | isDirectory
  | notDirectory
  | notText
  | other (message : String)
deriving DecidableEq, Repr

def FileProblem.message : FileProblem → String
  | .missing => "No such file or directory (os error 2)"
  | .isDirectory => "Is a directory (os error 21)"
  | .notDirectory => "Not a directory (os error 20)"
  | .notText => "stream did not contain valid UTF-8"
  | .other message => message

/-- How a command fails. -/
inductive Failure where
  | setting (problem : BadSetting)
  | input (message : String)
  | network (message : String)
  | service (status : Nat) (message : String)
  | file (problem : FileProblem)
  /-- The answer that was printed says what is wrong. -/
  | reported
deriving DecidableEq, Repr

namespace Failure

def ofFault : Fault → Failure
  | .transport message => .network message
  | .service status message => .service status message
  | .unreadable message => .input message
  | .invalid message => .input message

def message : Failure → String
  | .setting problem =>
    s!"Configuration error: {problem.name} must be {problem.expected}, got '{problem.value}'"
  | .input message => s!"Invalid input: {message}"
  | .network message => s!"Network error: {message}"
  | .service status message => s!"API error (status {status}): {message}"
  | .file problem => s!"I/O error: {problem.message}"
  | .reported => "request reported an error"

def exitStatus : Failure → Nat
  | .reported => 1
  | .file _ => 1
  | .setting _ => 2
  | .network _ => 3
  | .input _ => 4
  | .service _ _ => 5

/-- What is said on the error stream. -/
def told (failure : Failure) : String :=
  match failure with
  | .reported => ""
  | failure => "Error: " ++ failure.message ++ "\n"

end Failure

end ConnectorConsole
