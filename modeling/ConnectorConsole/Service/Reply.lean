import ConnectorConsole.Fault
import ConnectorConsole.Json.Reader
import ConnectorConsole.Text.Blank

/-!
# Replies of the service

A reply that reports success has a body, read as JSON where its content type
says so and it parses. A reply that reports a failure becomes a fault: the
service explains itself in JSON, anything else speaks for the transport.
-/

namespace ConnectorConsole

/-- A reply as it came in. -/
structure Reply where
  status : Nat
  contentType : Option String
  body : String
deriving DecidableEq, Repr

/-- The body of a reply that reports success. -/
inductive ReplyBody where
  | json (value : Json)
  | text (text : String)
deriving BEq, Repr

namespace ReplyBody

/-- A body on the screen: JSON is indented, text is shown as it is. -/
def render : ReplyBody → String
  | .json value => value.indented
  | .text shown => shown

def json? : ReplyBody → Option Json
  | .json value => some value
  | .text _ => none

end ReplyBody

namespace Reply

def announcesJson (contentType : String) : Bool :=
  Text.occursIn "application/json".toList (Text.lowerAscii contentType).toList

def succeeded (reply : Reply) : Bool :=
  200 ≤ reply.status && reply.status < 300

/-- The JSON value of the body, if it is announced and parses. -/
def json? (reply : Reply) : Option Json :=
  if reply.contentType.any announcesJson then Json.read? reply.body else none

/-- What a JSON body says about a failure: its detail if it has one, else all of
it. -/
def explanation (body : Json) : String :=
  match body with
  | .null => "Request failed"
  | .text message => message
  | body =>
    match body.get? "detail" with
    | some (.text detail) => detail
    | none => body.indented
    | some .null => body.indented
    | some detail => detail.indented

def accept (reply : Reply) : Except Fault ReplyBody :=
  match reply.json? with
  | some value =>
    if reply.succeeded then .ok (.json value)
    else .error (.service reply.status (explanation value))
  | none =>
    if reply.succeeded then .ok (.text reply.body)
    else if Text.blank reply.body then .error (.transport s!"request failed ({reply.status})")
    else .error (.transport reply.body)

end Reply

end ConnectorConsole
