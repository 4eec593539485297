import ConnectorConsole.Editor.Fields

/-!
# Editor layouts

For each mode and authentication mode a layout says which groups of fields are
shown, which source types are offered, and which values an empty field starts
with.
-/

namespace ConnectorConsole

/-- A field that an empty editor fills with a value of its own. -/
inductive DefaultSlot where
  | sourceType
  | query
  | url
  | method
  | fileGlob
  | fileFormat
  | watermarkField
  | clientAuthMethod
  | mimeType
  | outputFormat
  | deletePolicy
deriving DecidableEq, Repr

namespace DefaultSlot

def all : List DefaultSlot :=
  [.sourceType, .query, .url, .method, .fileGlob, .fileFormat, .watermarkField,
   .clientAuthMethod, .mimeType, .outputFormat, .deletePolicy]

def field : DefaultSlot → TextField
  | .sourceType => .sourceType
  | .query => .query
  | .url => .url
  | .method => .method
  | .fileGlob => .glob
  | .fileFormat => .fileFormat
  | .watermarkField => .watermarkField
  | .clientAuthMethod => .clientAuthMethod
  | .mimeType => .mimeType
  | .outputFormat => .outputFormat
  | .deletePolicy => .deletePolicy

def label : DefaultSlot → String
  | .sourceType => "SourceType"
  | .query => "Query"
  | .url => "Url"
  | .method => "Method"
  | .fileGlob => "FileGlob"
  | .fileFormat => "FileFormat"
  | .watermarkField => "WatermarkField"
  | .clientAuthMethod => "ClientAuthMethod"
  | .mimeType => "MimeType"
  | .outputFormat => "OutputFormat"
  | .deletePolicy => "DeletePolicy"

def value (mode : Mode) : DefaultSlot → String
  | .sourceType => mode.firstSourceType
  | .query => "SELECT * FROM source_table WHERE updated_at > :watermark"
  | .url => "https://source.example/api/items"
  | .method => "GET"
  | .fileGlob => "*.csv"
  | .fileFormat => "csv"
  | .watermarkField => "updated_at"
  | .clientAuthMethod => "client_secret_post"
  | .mimeType => "text/plain"
  | .outputFormat => "ndjson"
  | .deletePolicy => "auto_delete_missing"

/-- Whether a slot is filled: the source type always is, any other slot when
its group is shown. -/
def filled (mode : Mode) (auth : AuthMode) (slot : DefaultSlot) : Bool :=
  slot == .sourceType || slot.field.group.shown mode auth

end DefaultSlot

/-- What the editor shows and fills in for a mode. -/
structure Layout where
  mode : Mode
  auth : AuthMode
  groups : List FieldGroup
  sourceTypes : List String
  /-- Values for fields that are blank. -/
  defaults : List (DefaultSlot × String)
deriving Repr

namespace Layout

/-- The layout for a mode and an authentication mode. The latter matters for
polled services only. -/
def resolve (mode : Mode) (auth : AuthMode) : Layout where
  mode := mode
  auth := auth
  groups := FieldGroup.all.filter (FieldGroup.shown mode auth)
  sourceTypes := mode.sourceTypes
  defaults :=
    (DefaultSlot.all.filter (DefaultSlot.filled mode auth)).map fun slot =>
      (slot, slot.value mode)

def shows (layout : Layout) (group : FieldGroup) : Bool :=
  layout.groups.contains group

def default? (layout : Layout) (field : TextField) : Option String :=
  (layout.defaults.find? fun (slot, _) => slot.field == field).map Prod.snd

end Layout

end ConnectorConsole
