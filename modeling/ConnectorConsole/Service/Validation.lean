import ConnectorConsole.Json.Decoder
import ConnectorConsole.Service.Reply

/-!
# Panels and validation

The editor shows the answer to a request in one output region. A verdict that a
draft is not valid is styled as an error although the request succeeded, so a
panel keeps the fault of a request apart from its styling.
-/

namespace ConnectorConsole

/-- The output region of the editor. -/
structure Panel where
  text : String
  isError : Bool
  /-- The fault shown, when no answer was produced. -/
  failure : Option Fault
deriving DecidableEq, Repr

namespace Panel

def ofBody (body : ReplyBody) : Panel :=
  ⟨body.render, false, none⟩

def ofFault (fault : Fault) : Panel :=
  ⟨fault.message, true, some fault⟩

end Panel

/-- The verdict of the service on a draft. -/
structure ValidationOutcome where
  valid : Bool
  errors : List Json
  warnings : List Json
  normalized : Option Json
deriving BEq, Repr

namespace ValidationOutcome

/-- Reading a verdict. Whatever is missing is empty, and a missing verdict is a
refusal. -/
def decoder : Decoder ValidationOutcome :=
  .record "ValidationOutcome" <|
    ValidationOutcome.mk
      <$> .withDefault "valid" false .flag
      <*> .withDefault "errors" [] (.list .any)
      <*> .withDefault "warnings" [] (.list .any)
      <*> .optional "normalized" .any

def toJson (outcome : ValidationOutcome) : Json :=
  .object
    [("valid", .boolean outcome.valid),
     ("errors", .list outcome.errors),
     ("warnings", .list outcome.warnings),
     ("normalized", outcome.normalized.getD .null)]

def verdict? (body : ReplyBody) : Option Json :=
  body.json?.bind (Json.get? "valid")

def ofBody? (body : ReplyBody) : Option ValidationOutcome := do
  discard (verdict? body)
  (decoder.ofJson (← body.json?)).toOption

def panel (body : ReplyBody) : Panel :=
  match verdict? body with
  | some (.boolean false) => ⟨body.render, true, none⟩
  | _ => Panel.ofBody body

def messages (outcome : ValidationOutcome) : List String :=
  outcome.errors.map (fun value => "error: " ++ value.scalarText) ++
    outcome.warnings.map (fun value => "warning: " ++ value.scalarText)

end ValidationOutcome

end ConnectorConsole
