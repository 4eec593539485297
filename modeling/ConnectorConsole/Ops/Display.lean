import ConnectorConsole.Number.Layout
import ConnectorConsole.Text.Blank
import ConnectorConsole.Time.Timestamp

/-!
# How operational values are shown

Values come from the service as they are stored and are often missing. Every
function of this file is total: what is absent or makes no sense has a
placeholder, and a date that cannot be read is shown as it was served.
-/

namespace ConnectorConsole

def notAvailable : String := "n/a"

def emptyCell : String := "-"

/-- An optional text, or the fallback when it is absent or empty. -/
def textOrElse (value : Option String) (fallback : String) : String :=
  match value with
  | some text => if text = "" then fallback else text
  | none => fallback

/-- What became of a run. -/
inductive RunStatus where
  | success
  | failed
  | running
  | unknown
deriving DecidableEq, Repr

namespace RunStatus

def name : RunStatus → String
  | .success => "SUCCESS"
  | .failed => "FAILED"
  | .running => "RUNNING"
  | .unknown => "UNKNOWN"

/-- The status that a served text stands for, in any letter case. -/
def classify (served : Option String) : RunStatus :=
  match served.map fun text => Text.lowerAscii (Text.trim text) with
  | some "success" => .success
  | some "failed" => .failed
  | some "running" => .running
  | _ => .unknown

end RunStatus

/-- A status as it was served, with its class. -/
structure StatusBadge where
  label : String
  status : RunStatus
deriving DecidableEq, Repr

/-- The badge of a served status. One that is absent or empty is labelled as
unknown. -/
def StatusBadge.ofServed (served : Option String) : StatusBadge :=
  ⟨textOrElse served RunStatus.unknown.name, RunStatus.classify served⟩

namespace Duration

/-- Whole minutes in a number of seconds, given as a ratio. The quotient is
rounded to the number format before its fraction is dropped. -/
def minutes (numerator denominator : Nat) : Binary64 :=
  let quotient := Binary64.ofRatio false numerator (60 * denominator)
  match quotient.integerPart? with
  | some whole => Binary64.ofInt whole
  | none => quotient

/-- The seconds left over after whole minutes. -/
def leftOver (numerator denominator : Nat) : Binary64 :=
  Binary64.ofRatio false (numerator % (60 * denominator)) denominator

/-- A duration in seconds, or in minutes and seconds from one minute on. -/
def text (seconds : Option Binary64) : String :=
  match seconds with
  | some (.finite negative significand exponent) =>
    let (numerator, denominator) := Binary64.ratio significand exponent
    if negative || numerator < 60 * denominator then
      Binary64.Layout.screen.text (.finite negative significand exponent) ++ "s"
    else
      Binary64.Layout.screen.text (minutes numerator denominator) ++ "m " ++
        Binary64.Layout.screen.text (leftOver numerator denominator) ++ "s"
  | _ => notAvailable

end Duration

/-- A served date in universal time and whole seconds. One that cannot be read
is shown as it was served. -/
def dateText (served : Option String) : String :=
  match served with
  | none => notAvailable
  | some raw =>
    match Text.nonBlank? raw with
    | none => notAvailable
    | some text =>
      match Timestamp.read? text with
      | some instant => instant.text
      | none => raw

end ConnectorConsole
