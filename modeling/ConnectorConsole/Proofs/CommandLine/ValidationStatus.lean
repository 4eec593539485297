import ConnectorConsole.Proofs.CommandLine.FormCommands
import ConnectorConsole.Proofs.Editor.Assignments
import ConnectorConsole.Proofs.Editor.Rebuilding

/-!
# The exit status of a validation

Scripts learn from the exit status whether a draft is valid.  A form that does not build, a
service that is not reached, a refusal that the service explains and a verdict against the
draft each have a status of their own, whatever else the reply holds.  The verdict is printed
below the lines of its errors and warnings.
-/

namespace ConnectorConsole

namespace Delivery

end Delivery

namespace Studio

open ValidationOutcome

section Delivered

variable (service : Service) (draft : Draft) {wire : WireReply} {value : Json}

end Delivered

end Studio

end ConnectorConsole
