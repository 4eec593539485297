import ConnectorConsole.Text.Blank

/-!
# Names of closed choices

A connector is described by a handful of closed choices, each value of which has
one name. The names serve the wire format, the editor and the command line
alike, so reading and listing them is defined once for all choices.
-/

namespace ConnectorConsole

/-- A closed choice whose values have names. -/
class Named (α : Type) where
  /-- The values in the order in which they are offered. -/
  all : List α
  /-- The name of a value. -/
  name : α → String
  /-- The complaint about a text that names no value, given the names that
  do. -/
  complaint : String → String → String

namespace Named

def choices (α : Type) [Named α] : List (String × α) :=
  all.map fun value => (name value, value)

def ofName? {α : Type} [Named α] (text : String) : Option α :=
  (choices α).lookup text

def listing (α : Type) [Named α] : String :=
  Text.join ", " ((all : List α).map name)

def read {α : Type} [Named α] (text : String) : Except String α :=
  match ofName? text with
  | some value => .ok value
  | none => .error (complaint α text (listing α))

end Named

/-- A choice in which every value is found under its name, so that no two values
share one. Names are not empty and trimming leaves them as they are. -/
class LawfulNamed (α : Type) [Named α] : Prop where
  ofName?_name : ∀ value : α, Named.ofName? (Named.name value) = some value
  name_ne_empty : ∀ value : α, Named.name value ≠ ""
  trim_name : ∀ value : α, Text.trim (Named.name value) = Named.name value

attribute [simp] LawfulNamed.ofName?_name LawfulNamed.name_ne_empty LawfulNamed.trim_name

@[simp]
theorem Named.read_name {α : Type} [Named α] [LawfulNamed α] (value : α) :
    read (name value) = .ok value := by
  rw [read, LawfulNamed.ofName?_name]

/-- How records reach the connector. -/
inductive Mode where
  | sqlPull
  | restPull
  | restPush
  | filePull
deriving DecidableEq, Repr, Inhabited

instance : Named Mode where
  all := [.sqlPull, .restPull, .restPush, .filePull]
  name
    | .sqlPull => "sql_pull"
    | .restPull => "rest_pull"
    | .restPush => "rest_push"
    | .filePull => "file_pull"
  complaint text names := s!"Invalid mode '{text}'. Must be one of: {names}"

instance : LawfulNamed Mode where
  ofName?_name value := by cases value <;> rfl
  name_ne_empty value := by cases value <;> decide
  trim_name value := by cases value <;> decide

def Mode.name (mode : Mode) : String := Named.name mode

/-- Pull connectors run on a schedule, push connectors are fed by callers. -/
def Mode.isScheduled : Mode → Bool
  | .restPush => false
  | _ => true

/-- How a pulled service is authenticated against. -/
inductive AuthMode where
  | staticBearer
  | clientCredentials
deriving DecidableEq, Repr, Inhabited

instance : Named AuthMode where
  all := [.staticBearer, .clientCredentials]
  name
    | .staticBearer => "static_bearer"
    | .clientCredentials => "oauth_client_credentials"
  complaint text names := s!"Invalid auth mode '{text}'. Must be one of: {names}"

instance : LawfulNamed AuthMode where
  ofName?_name value := by cases value <;> rfl
  name_ne_empty value := by cases value <;> decide
  trim_name value := by cases value <;> decide

def AuthMode.name (auth : AuthMode) : String := Named.name auth

/-- The database engine that is queried. -/
inductive SqlEngine where
  | postgres
  | mysql
  | mssql
  | oracle
deriving DecidableEq, Repr

instance : Named SqlEngine where
  all := [.postgres, .mysql, .mssql, .oracle]
  name
    | .postgres => "postgres"
    | .mysql => "mysql"
    | .mssql => "mssql"
    | .oracle => "oracle"
  complaint text names :=
    s!"Source type '{text}' is not valid for sql_pull. Must be one of: {names}"

instance : LawfulNamed SqlEngine where
  ofName?_name value := by cases value <;> rfl
  name_ne_empty value := by cases value <;> decide
  trim_name value := by cases value <;> decide

/-- How the client shows its secret to a token endpoint. -/
inductive ClientAuthMethod where
  | secretPost
  | secretBasic
deriving DecidableEq, Repr

instance : Named ClientAuthMethod where
  all := [.secretPost, .secretBasic]
  name
    | .secretPost => "client_secret_post"
    | .secretBasic => "client_secret_basic"
  complaint text names := s!"Invalid client auth method '{text}'. Must be one of: {names}"

instance : LawfulNamed ClientAuthMethod where
  ofName?_name value := by cases value <;> rfl
  name_ne_empty value := by cases value <;> decide
  trim_name value := by cases value <;> decide

/-- The grant that a client asks a token endpoint for. There is only one. -/
inductive GrantType where
  | clientCredentials
deriving DecidableEq, Repr

instance : Named GrantType where
  all := [.clientCredentials]
  name _ := "client_credentials"
  complaint text names := s!"Invalid grant type '{text}'. Must be one of: {names}"

instance : LawfulNamed GrantType where
  ofName?_name value := by cases value; rfl
  name_ne_empty value := by cases value; decide
  trim_name value := by cases value; decide

/-- The format of files that are picked up. -/
inductive FileFormat where
  | csv
  | json
  | ndjson
deriving DecidableEq, Repr

instance : Named FileFormat where
  all := [.csv, .json, .ndjson]
  name
    | .csv => "csv"
    | .json => "json"
    | .ndjson => "ndjson"
  complaint text names := s!"Invalid file format '{text}'. Must be one of: {names}"

instance : LawfulNamed FileFormat where
  ofName?_name value := by cases value <;> rfl
  name_ne_empty value := by cases value <;> decide
  trim_name value := by cases value <;> decide

/-- The format of staged documents. There is only one. -/
inductive OutputFormat where
  | ndjson
deriving DecidableEq, Repr

instance : Named OutputFormat where
  all := [.ndjson]
  name _ := "ndjson"
  complaint text names := s!"Invalid output format '{text}'. Must be: {names}"

instance : LawfulNamed OutputFormat where
  ofName?_name value := by cases value; rfl
  name_ne_empty value := by cases value; decide
  trim_name value := by cases value; decide

/-- What becomes of stored documents that a pull no longer finds. -/
inductive DeletePolicy where
  | autoDeleteMissing
  | softDeleteOnly
  | neverDelete
deriving DecidableEq, Repr

instance : Named DeletePolicy where
  all := [.autoDeleteMissing, .softDeleteOnly, .neverDelete]
  name
    | .autoDeleteMissing => "auto_delete_missing"
    | .softDeleteOnly => "soft_delete_only"
    | .neverDelete => "never_delete"
  complaint text names := s!"Invalid delete policy '{text}'. Must be one of: {names}"

instance : LawfulNamed DeletePolicy where
  ofName?_name value := by cases value <;> rfl
  name_ne_empty value := by cases value <;> decide
  trim_name value := by cases value <;> decide

/-- The source types that a mode admits, in the order in which they are
offered. -/
def Mode.sourceTypes : Mode → List String
  | .sqlPull => (Named.all : List SqlEngine).map Named.name
  | .restPull => ["http"]
  | .restPush => ["http"]
  | .filePull => ["file"]

/-- The source type that a mode offers first. -/
def Mode.firstSourceType : Mode → String
  | .sqlPull => "postgres"
  | .restPull => "http"
  | .restPush => "http"
  | .filePull => "file"

end ConnectorConsole
