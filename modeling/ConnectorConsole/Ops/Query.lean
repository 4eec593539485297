import ConnectorConsole.Number.Reading
import ConnectorConsole.Ops.Target
import ConnectorConsole.Text.Uppercase
import ConnectorConsole.Web.FormEncoding

/-!
# Query state

The query state says what an operations screen fetches: the target, the page of
runs and the filters. It is read once from a query string, changes by named
transitions only, and is always written back to the location, so that the
location can be shared. Counts are machine words and stop at their bounds.
-/

namespace ConnectorConsole

/-- Filters as the operator submits them. -/
structure Filters where
  windowHours : Option UInt32
  status : String
  connectorId : String
deriving DecidableEq, Repr

/-- A change of the query state. -/
inductive Transition where
  | filter (filters : Filters)
  | reset
  | previous
  | next
deriving DecidableEq, Repr

/-- What an operations screen fetches. -/
structure QueryState where
  target : OpsTarget
  limit : UInt32
  offset : UInt64
  windowHours : UInt32
  /-- In capital letters; empty for no filter. -/
  status : String
  /-- Empty for no filter. -/
  connectorId : String
deriving DecidableEq, Repr

namespace QueryState

def defaultWindow : UInt32 := 168

def defaultLimit : UInt32 := 25

/-- A number brought within the bounds of a 32-bit count of at least one. -/
def clampCount (number : Int) : UInt32 :=
  UInt32.ofNat (min (max number 1).toNat (UInt32.size - 1))

/-- A number brought within the bounds of a 64-bit offset. -/
def clampOffset (number : Int) : UInt64 :=
  UInt64.ofNat (min number.toNat (UInt64.size - 1))

/-- The state with the given page size and nothing else chosen. -/
def fresh (target : OpsTarget) (limit : UInt32) : QueryState where
  target := target
  limit := max limit 1
  offset := 0
  windowHours := defaultWindow
  status := ""
  connectorId := ""

def view (state : QueryState) : OpsView :=
  state.target.view

/-- The integer part of a number in a query string. A number that is missing,
malformed or not finite gives way to the fallback. -/
def readNumber (raw : Option String) (fallback : Int) : Int :=
  match raw.map Text.trim with
  | none => fallback
  | some text => ((Binary64.read? text).bind Binary64.integerPart?).getD fallback

/-- The state that a query string describes, given the values under its names.
Names that a screen does not use are passed over. -/
def ofParameters (target : OpsTarget) (limit : UInt32) (find : String → Option String) :
    QueryState :=
  let base := fresh target limit
  let base := { base with
    limit := clampCount (readNumber (find "limit_runs") base.limit.toNat)
    offset := clampOffset (readNumber (find "offset_runs") 0) }
  let status := Text.upper ((find "status").getD "")
  match target.view with
  | .snapshot =>
    { base with
      windowHours := clampCount (readNumber (find "window_hours") defaultWindow.toNat)
      status := status
      connectorId := (find "connector_id").getD "" }
  | .connectorDetail => { base with status := status }
  | .runDetail => base

/-- The state that a query string describes. Question marks in front are dropped,
and of several values under one name the first counts. -/
def hydrate (target : OpsTarget) (query : String) (limit : UInt32) : QueryState :=
  let pairs := FormEncoding.decode (String.ofList (query.toList.dropWhile (· = '?')))
  ofParameters target limit fun name => pairs.lookup name

/-- The state with filters in force. The first page is shown again. -/
def withFilters (state : QueryState) (filters : Filters) : QueryState :=
  let status := Text.upper (Text.trim filters.status)
  match state.view with
  | .snapshot =>
    { state with
      windowHours := (filters.windowHours.map fun hours => max hours 1).getD state.windowHours
      status := status
      connectorId := Text.trim filters.connectorId
      offset := 0 }
  | .connectorDetail => { state with status := status, offset := 0 }
  | .runDetail => { state with offset := 0 }

def withoutFilters (state : QueryState) : QueryState :=
  match state.view with
  | .snapshot =>
    { state with windowHours := defaultWindow, connectorId := "", status := "", offset := 0 }
  | _ => { state with status := "", offset := 0 }

/-- The state one page back, at the first page at the earliest. -/
def previousPage (state : QueryState) : QueryState :=
  { state with offset := UInt64.ofNat (state.offset.toNat - state.limit.toNat) }

/-- The state one page on, at the greatest offset at the latest. -/
def nextPage (state : QueryState) : QueryState :=
  { state with
    offset := UInt64.ofNat (min (state.offset.toNat + state.limit.toNat) (UInt64.size - 1)) }

def apply (state : QueryState) : Transition → QueryState
  | .filter filters => state.withFilters filters
  | .reset => state.withoutFilters
  | .previous => state.previousPage
  | .next => state.nextPage

/-- A pair for a text, none when the text is empty. -/
def textPair (name value : String) : List (String × String) :=
  if value = "" then [] else [(name, value)]

def pagePairs (state : QueryState) : List (String × String) :=
  [("limit_runs", toString state.limit.toNat), ("offset_runs", toString state.offset.toNat)]

/-- The pairs that a state is written as, in the order in which they are sent. -/
def pairs (state : QueryState) : List (String × String) :=
  match state.view with
  | .snapshot =>
    ("window_hours", toString state.windowHours.toNat) :: state.pagePairs ++
      textPair "status" state.status ++ textPair "connector_id" state.connectorId
  | .connectorDetail => state.pagePairs ++ textPair "status" state.status
  | .runDetail => []

def query (state : QueryState) : String :=
  FormEncoding.encode state.pairs

/-- The location of a state: the page of its target and the query string, if
there is one. -/
def location (state : QueryState) : String :=
  let query := state.query
  if query = "" then state.target.page else state.target.page ++ "?" ++ query

end QueryState

end ConnectorConsole
