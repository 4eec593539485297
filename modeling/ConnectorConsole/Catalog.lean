import ConnectorConsole.Ops.Display
import ConnectorConsole.Ops.Payload
import ConnectorConsole.Proposal

/-!
# The connector catalog

The catalog lists the stored connectors a page at a time. Every row offers the
same wizards.
-/

namespace ConnectorConsole

open Json Decoder Fields

/-- A connector as the catalog lists it. -/
structure CatalogItem where
  connectorId : String
  mode : String
  schedule : Option String
  scheduleEnabled : Bool
  sourceType : Option String
  lastStatus : Option String
  lastRunId : Option String
  lastStartedAt : Option String
deriving DecidableEq, Repr

namespace CatalogItem

/-- Reading an item. Only its identifier must be there. -/
def decoder : Decoder CatalogItem :=
  record "CatalogItem" <|
    CatalogItem.mk
      <$> required "connector_id" text
      <*> textOrEmpty "mode"
      <*> optional "schedule" text
      <*> withDefault "schedule_enabled" true flag
      <*> optional "source_type" text
      <*> optional "last_status" text
      <*> optional "last_run_id" text
      <*> optional "last_started_at" text

def toJson (item : CatalogItem) : Json :=
  .object
    [("connector_id", .text item.connectorId),
     ("mode", .text item.mode),
     ("schedule", ofText? item.schedule),
     ("schedule_enabled", .boolean item.scheduleEnabled),
     ("source_type", ofText? item.sourceType),
     ("last_status", ofText? item.lastStatus),
     ("last_run_id", ofText? item.lastRunId),
     ("last_started_at", ofText? item.lastStartedAt)]

end CatalogItem

/-- One page of the catalog. -/
structure CatalogPage where
  items : List CatalogItem
  total : UInt64
  limit : UInt32
  offset : UInt64
deriving DecidableEq, Repr

namespace CatalogPage

def decoder : Decoder CatalogPage :=
  record "CatalogPage" <|
    CatalogPage.mk
      <$> withDefault "items" [] (list CatalogItem.decoder)
      <*> withDefault "total" 0 word64
      <*> withDefault "limit" 0 word32
      <*> withDefault "offset" 0 word64

def toJson (page : CatalogPage) : Json :=
  .object
    [("items", .list (page.items.map CatalogItem.toJson)),
     ("total", ofWord64 page.total),
     ("limit", ofWord32 page.limit),
     ("offset", ofWord64 page.offset)]

/-- The connectors on a page, counted from one, or that there are none. Sums wrap
around at the width of a word. -/
def summary (page : CatalogPage) : String :=
  if page.total = 0 ∨ page.items.isEmpty then "No connectors"
  else
    let first := page.offset + 1
    let last := page.offset + UInt64.ofNat page.items.length
    s!"{first.toNat}-{last.toNat} of {page.total.toNat}"

end CatalogPage

/-- What to list. Blank filters are not sent. -/
structure CatalogQuery where
  status : String
  mode : String
  search : String
  limit : UInt32
  offset : UInt64
deriving DecidableEq, Repr

namespace CatalogQuery

def defaultLimit : UInt32 := 50

def pairs (query : CatalogQuery) : List (String × String) :=
  ([("status", query.status), ("mode", query.mode), ("q", query.search)].filterMap
    fun (name, value) => (Text.nonBlank? value).map fun value => (name, value)) ++
  [("limit", toString (max query.limit 1).toNat), ("offset", toString query.offset.toNat)]

end CatalogQuery

/-- A row of the catalog as it is shown. -/
structure CatalogRow where
  connectorId : String
  mode : String
  schedule : String
  enabled : String
  sourceType : String
  status : StatusBadge
  lastRunId : String
  lastStarted : String
  wizards : List WizardMode
deriving DecidableEq, Repr

namespace CatalogRow

def offered : List WizardMode :=
  [.propose .edit, .propose .clone, .propose .pause, .propose .resume, .propose .delete, .run]

def ofItem (item : CatalogItem) : CatalogRow where
  connectorId := item.connectorId
  mode := textOrElse (some item.mode) notAvailable
  schedule := textOrElse item.schedule notAvailable
  enabled := if item.scheduleEnabled then "yes" else "no"
  sourceType := textOrElse item.sourceType notAvailable
  status := .ofServed item.lastStatus
  lastRunId := textOrElse item.lastRunId notAvailable
  lastStarted := dateText item.lastStartedAt
  wizards := offered

end CatalogRow

end ConnectorConsole
