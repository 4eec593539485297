import ConnectorConsole.Proofs.Ops.SharedQueries
import ConnectorConsole.Service.Calls

/-!
# Locations told apart

A location shows the page of a target and the query string of a state.  The name of a
connector or a run stands in the page as it is, and may itself look like a query string or
like another page.  The query string holds no question mark, so that the last one in a
location is where the page ends; a run has no query string, and its page begins unlike
every other location.  Two states with the same location therefore ask for the same thing.
-/

namespace ConnectorConsole

namespace OpsTarget

/-- What follows the name of the console in the page of a target. -/
def place : OpsTarget → List Char
  | .snapshot => []
  | .connector id => "/connectors/".toList ++ id.toList
  | .run id => "/runs/".toList ++ id.toList

theorem toList_page (target : OpsTarget) : target.page.toList = "/ops".toList ++ target.place := by
  cases target with
  | snapshot => rfl
  | connector id => exact String.toList_append
  | run id => exact String.toList_append

theorem place_injective {target other : OpsTarget} (same : target.place = other.place) :
    target = other := by
  cases target with
  | snapshot =>
      cases other with
      | snapshot => rfl
      | _ => cases same
  | connector id =>
      cases other with
      | connector otherId =>
          have sameId : id.toList = otherId.toList := List.append_cancel_left same
          rw [String.toList_injective sameId]
      | _ => cases same
  | run id =>
      cases other with
      | run otherId =>
          have sameId : id.toList = otherId.toList := List.append_cancel_left same
          rw [String.toList_injective sameId]
      | _ => cases same

theorem page_injective {target other : OpsTarget} (same : target.page = other.page) :
    target = other := by
  have samePlace : "/ops".toList ++ target.place = "/ops".toList ++ other.place := by
    rw [← toList_page, ← toList_page, same]
  exact place_injective (List.append_cancel_left samePlace)

end OpsTarget

namespace QueryState

variable {state other : QueryState}

theorem pairs_ne_nil (paged : state.view ≠ .runDetail) : state.pairs ≠ [] := by
  cases isView : state.view with
  | snapshot =>
      rw [pairs_fleet isView]
      exact List.cons_ne_nil _ _
  | connectorDetail =>
      rw [pairs_connector isView]
      exact List.cons_ne_nil _ _
  | runDetail => exact absurd isView paged

theorem pairs_run (isRun : state.view = .runDetail) : state.pairs = [] := by
  rw [pairs, isRun]

theorem pairs_eq_of_query_eq (same : state.query = other.query) : state.pairs = other.pairs := by
  rw [← FormEncoding.decode_encode state.pairs, ← FormEncoding.decode_encode other.pairs]
  exact congrArg FormEncoding.decode same

theorem location_run (isRun : state.view = .runDetail) : state.location = state.target.page := by
  have noQuery : state.query = "" := by
    rw [query, pairs_run isRun]
    rfl
  rw [location, noQuery]
  rfl

theorem location_paged (paged : state.view ≠ .runDetail) :
    state.location.toList = state.target.page.toList ++ '?' :: state.query.toList := by
  have someQuery : state.query ≠ "" := by
    intro noQuery
    apply pairs_ne_nil paged
    rw [← FormEncoding.decode_encode state.pairs, ← query, noQuery]
    rfl
  rw [location, if_neg someQuery]
  simp

/-- The location of a run begins unlike all others. -/
theorem location_run_ne (isRun : state.view = .runDetail) (paged : other.view ≠ .runDetail) :
    state.location ≠ other.location := by
  intro same
  have chars := congrArg String.toList same
  rw [location_run isRun, location_paged paged, OpsTarget.toList_page, OpsTarget.toList_page,
    List.append_assoc] at chars
  have places := List.append_cancel_left chars
  cases isTarget : state.target with
  | run id =>
      cases isOther : other.target with
      | snapshot =>
          rw [isTarget, isOther] at places
          cases places
      | connector otherId =>
          rw [isTarget, isOther] at places
          cases places
      | run otherId => exact paged (congrArg OpsTarget.view isOther)
  | _ =>
      rw [view, isTarget] at isRun
      cases isRun

/-- States with the same location have the same target and the same pairs, so that one location
never stands for two different requests. -/
theorem location_names_one_fetch (same : state.location = other.location) :
    state.target = other.target ∧ state.pairs = other.pairs ∧
      ∀ service : Service, service.fetchOps state = service.fetchOps other := by
  have located : state.target = other.target ∧ state.pairs = other.pairs := by
    by_cases isRun : state.view = .runDetail
    · by_cases otherIsRun : other.view = .runDetail
      · rw [location_run isRun, location_run otherIsRun] at same
        exact ⟨OpsTarget.page_injective same, by rw [pairs_run isRun, pairs_run otherIsRun]⟩
      · exact absurd same (location_run_ne isRun otherIsRun)
    · by_cases otherIsRun : other.view = .runDetail
      · exact absurd same.symm (location_run_ne otherIsRun isRun)
      · have chars := congrArg String.toList same
        rw [location_paged isRun, location_paged otherIsRun] at chars
        -- the name of a connector may hold question marks, the query string holds none
        obtain ⟨samePage, sameQuery⟩ := Text.eq_of_append_cons_eq
          (fun _ => FormEncoding.ne_mark_of_mem_encode)
          (fun _ => FormEncoding.ne_mark_of_mem_encode) chars
        exact ⟨OpsTarget.page_injective (String.toList_injective samePage),
          pairs_eq_of_query_eq (String.toList_injective sameQuery)⟩
  obtain ⟨sameTarget, samePairs⟩ := located
  refine ⟨sameTarget, samePairs, fun service => ?_⟩
  simp only [Service.fetchOps, view, sameTarget, samePairs]

/-- A connector whose name looks like a query string, with settings that its screen does not
use. -/
theorem location_names_one_fetch_lookalike :
    let state : QueryState :=
      ⟨.connector "c-1?limit_runs=1&offset_runs=0", 25, 50, 168, "FAILED", ""⟩
    let other : QueryState := { state with windowHours := 24, connectorId := "/ops/runs/r-1" }
    state ≠ other ∧ state.location = other.location ∧ state.pairs = other.pairs ∧
      ∀ service : Service, service.fetchOps state = service.fetchOps other := by
  intro state other
  have same : state.location = other.location := rfl
  exact ⟨by decide, same, (location_names_one_fetch same).2⟩

end QueryState

end ConnectorConsole
