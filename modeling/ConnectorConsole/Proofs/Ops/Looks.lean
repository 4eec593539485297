import ConnectorConsole.Ops.Once
import ConnectorConsole.Proofs.Ops.Fencing
import ConnectorConsole.Proofs.Service.Exchanges

/-!
# Looks in the midst of a run

A look at a screen issues a request and takes in its answer at once.  The request is newer than
any whose answer was taken before, and nothing is changed in between.  The answer is therefore
never too late, whatever else is outstanding, and what is printed is made from the payload that
was just fetched.
-/

namespace ConnectorConsole

namespace Controller

variable {history : History} {controller : Controller}

namespace Fenced

end Fenced

/-- A refresh whose answer is taken in before anything else happens. -/
theorem Run.refresh {initial : QueryState} (run : Run initial history controller)
    (outcome : Except Fault OpsPayload) (now : Timestamp) :
    let (request, polled) := controller.poll
    let (completion, next) := polled.complete request outcome now
    Run initial
      (history ++ [.polled request, .answered ⟨request, outcome, now⟩ completion]) next := by
  have issued : controller.poll.1 ∈ History.issued (history ++ [.polled controller.poll.1]) := by
    rw [History.issued_concat]
    exact List.mem_append_right _ (List.mem_singleton_self _)
  have refreshed := run.poll.complete controller.poll.1 issued outcome now
  rwa [List.append_assoc] at refreshed

end Controller

end ConnectorConsole
