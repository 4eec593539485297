/-!
# Faults

Everything that can go wrong for the operator falls into four classes. Two arise
locally, before any request is sent; two come back from the service.
-/

namespace ConnectorConsole

/-- A fault shown to the operator. -/
inductive Fault where
  /-- The service was not reached, or its answer could not be understood. -/
  | transport (message : String)
  /-- The service refused a request and said why. -/
  | service (status : Nat) (message : String)
  /-- A text that the operator gave does not parse. -/
  | unreadable (message : String)
  /-- A draft or request does not meet its conditions. -/
  | invalid (message : String)
deriving DecidableEq, Repr

namespace Fault

def message : Fault → String
  | .transport message => message
  | .service _ message => message
  | .unreadable message => message
  | .invalid message => message

/-- Whether a fault arises before any request is sent. -/
def isLocal : Fault → Bool
  | .transport _ => false
  | .service _ _ => false
  | .unreadable _ => true
  | .invalid _ => true

end Fault

end ConnectorConsole
