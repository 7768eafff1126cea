import Tributary.Wire.Statement

/-!
# Result sets on the wire

The terminal answer to a statement: its status code, the columns and partitions of its result, the
rows of one partition, and perhaps a redirect to the dataplane endpoint that holds the rows
instead.
-/

namespace Tributary

open Json (text string? bool? uuid? integer? list? nullable required defaulted optional
  optionalField)

/-- What kind of result a dataplane endpoint holds. A kind that is not known is taken for a
stream. -/
inductive RedirectKind where
  | resultSet
  | streaming
  | unknown
  deriving DecidableEq, Repr

/-- Where to fetch a result from instead. -/
structure Redirect where
  uri : String
  token : String
  kind : RedirectKind
  statementId : Option Uuid := none
  queryId : Option String := none
  deriving DecidableEq

structure ResultColumn where
  name : String
  declared : String
  nullable : Bool := false
  deriving DecidableEq, Repr

structure ResultMetadata where
  encoding : Option String := none
  partitions : List Int := []
  columns : List ResultColumn := []
  redirect : Option Redirect := none
  context : Option Context := none
  deriving DecidableEq

/-- A row: a cell is null or a text. -/
abbrev Row := List (Option String)

/-- The terminal answer to a statement. -/
structure ResultSet where
  statementId : Uuid
  sqlState : SqlState
  message : Option String := none
  createdOn : Option Int := none
  metadata : ResultMetadata := {}
  data : Option (List Row) := none
  deriving DecidableEq

/-- The rows of the partition that a result set holds. -/
def ResultSet.rows (r : ResultSet) : List Row :=
  r.data.getD []

/-- The value of a field with a name, of an object with that field only and the value null there. -/
def unitName? : Json → Option String
  | .string s => s
  | .object [(some name, .null)] => some name
  | _ => none

namespace RedirectKind

def read? (j : Json) : Option RedirectKind :=
  (unitName? j).map fun name =>
    if name = "result-set" then .resultSet
    else if name = "streaming" then .streaming
    else .unknown

def word : RedirectKind → String
  | .resultSet => "result-set"
  | .streaming => "streaming"
  | .unknown => "unknown"

end RedirectKind

namespace Redirect

def read? (j : Json) : Option Redirect := do
  let [uri, token, kind, statementId, queryId] ← j.fields?
    ["uri", "token", "requestType", "statementID", "queryID"] | none
  some
    { uri := ← required string? uri
      token := ← required string? token
      kind := ← required RedirectKind.read? kind
      statementId := ← optional uuid? statementId
      queryId := ← optional string? queryId }

def json (r : Redirect) : Json :=
  .record <|
    [("uri", text r.uri), ("token", text r.token), ("requestType", text r.kind.word)] ++
    optionalField "statementID" (fun u : Uuid => text u.toString) r.statementId ++
    optionalField "queryID" text r.queryId

end Redirect

namespace ResultColumn

def read? (j : Json) : Option ResultColumn := do
  let [name, declared, nullable] ← j.fields? ["name", "type", "nullable"] | none
  some
    { name := ← required string? name
      declared := ← required string? declared
      nullable := ← defaulted false bool? nullable }

def json (c : ResultColumn) : Json :=
  .record [("name", text c.name), ("type", text c.declared), ("nullable", .bool c.nullable)]

end ResultColumn

namespace ResultMetadata

/-- Reads the number of rows of a partition. -/
def readPartition? (j : Json) : Option Int := do
  let [rowCount] ← j.fields? ["rowCount"] | none
  required (integer? Integer.int32) rowCount

def read? (j : Json) : Option ResultMetadata := do
  let [encoding, partitions, columns, redirect, context] ← j.fields?
    ["encoding", "partitionInfo", "columns", "dataplaneRequest", "context"] | none
  some
    { encoding := ← optional string? encoding
      partitions := ← defaulted [] (list? readPartition?) partitions
      columns := ← defaulted [] (list? ResultColumn.read?) columns
      redirect := ← optional Redirect.read? redirect
      context := ← optional Context.read? context }

def json (m : ResultMetadata) : Json :=
  .record <|
    optionalField "encoding" text m.encoding ++
    [("partitionInfo", .array (m.partitions.map fun n => .record [("rowCount", .integer n)])),
      ("columns", .array (m.columns.map ResultColumn.json))] ++
    optionalField "dataplaneRequest" Redirect.json m.redirect ++
    optionalField "context" Context.json m.context

end ResultMetadata

def readRow? (j : Json) : Option Row :=
  list? (nullable string?) j

def cellJson : Option String → Json
  | none => .null
  | some s => text s

def rowJson (row : Row) : Json :=
  .array (row.map cellJson)

namespace ResultSet

def read? (j : Json) : Option ResultSet := do
  let [statementId, sqlState, message, createdOn, metadata, data] ← j.fields?
    ["statementID", "sqlState", "message", "createdOn", "metadata", "data"] | none
  some
    { statementId := ← required uuid? statementId
      sqlState := ← required SqlState.read? sqlState
      message := ← optional string? message
      createdOn := ← optional (integer? Integer.int64) createdOn
      metadata := ← required ResultMetadata.read? metadata
      data := ← optional (list? readRow?) data }

def json (r : ResultSet) : Json :=
  .record <|
    [("statementID", text r.statementId.toString), ("sqlState", r.sqlState.json)] ++
    optionalField "message" text r.message ++
    optionalField "createdOn" Json.integer r.createdOn ++
    [("metadata", r.metadata.json)] ++
    optionalField "data" (fun rows : List Row => .array (rows.map rowJson)) r.data

end ResultSet

end Tributary
