import Tributary.Wire.ResultSet

/-!
# Messages on a streaming socket

A message is an object with a `type` among its fields, or an array that begins with it. The client
sends one message, which authenticates it; the server sends the columns, rows, and perhaps an
error.
-/

namespace Tributary

open Json (text string? bool? integer? list? map? nullable required defaulted optional
  optionalField)

namespace Json

/-- How deep a tagged message may be nested. -/
def taggedDepth : Nat := 127

/-- The type of a tagged message, and the message without it. All of the message has to be
readable, fields that are not looked at included. -/
def tagged? (j : Json) : Option (String × Json) :=
  if j.isReadable && j.depth ≤ taggedDepth then
    match j with
    | .object fields =>
      match valueOf? "type" fields with
      | some (some (.string (some tag))) =>
        some (tag, .object (fields.filter (·.1 != some "type")))
      | _ => none
    | .array (.string (some tag) :: items) => some (tag, .array items)
    | _ => none
  else none

def withTag (tag : String) (fields : List (String × Json)) : Json :=
  .record (("type", text tag) :: fields)

end Json

/-- The message of the client. -/
structure AuthMessage where
  accessToken : String
  sessionId : String
  deriving DecidableEq, Repr

namespace AuthMessage

def read? (j : Json) : Option AuthMessage := do
  let (tag, body) ← j.tagged?
  if tag = "auth" then
    let [accessToken, sessionId] ← body.fields? ["accessToken", "sessionId"] | none
    some
      { accessToken := ← required string? accessToken
        sessionId := ← required string? sessionId }
  else none

def json (m : AuthMessage) : Json :=
  .withTag "auth" [("accessToken", text m.accessToken), ("sessionId", text m.sessionId)]

end AuthMessage

structure StreamColumn where
  name : String
  nullable : Bool := false
  declared : String
  length : Option Int := none
  precision : Option Int := none
  scale : Option Int := none
  deriving DecidableEq, Repr

/-- Headers of a message, in no significant order. -/
abbrev Headers := List (String × String)

structure StreamMetadata where
  headers : Headers := []
  columns : List StreamColumn := []
  deriving DecidableEq, Repr

structure StreamData where
  headers : Headers := []
  data : Row := []
  deriving DecidableEq, Repr

/-- An error that ends a stream. -/
structure StreamError where
  headers : Headers := []
  message : String := ""
  sqlCode : Option SqlState := none
  deriving DecidableEq, Repr

inductive ServerMessage where
  | metadata (m : StreamMetadata)
  | data (d : StreamData)
  | error (e : StreamError)
  | unknown
  deriving DecidableEq, Repr

def headersJson (headers : Headers) : Json :=
  .record (headers.map fun h => (h.1, text h.2))

namespace StreamColumn

def read? (j : Json) : Option StreamColumn := do
  let [name, nullable, declared, length, precision, scale] ← j.fields?
    ["name", "nullable", "type", "length", "precision", "scale"] | none
  some
    { name := ← required string? name
      nullable := ← defaulted false bool? nullable
      declared := ← required string? declared
      length := ← optional (integer? Integer.int64) length
      precision := ← optional (integer? Integer.int64) precision
      scale := ← optional (integer? Integer.int64) scale }

def json (c : StreamColumn) : Json :=
  .record <|
    [("name", text c.name), ("nullable", .bool c.nullable), ("type", text c.declared)] ++
    optionalField "length" Json.integer c.length ++
    optionalField "precision" Json.integer c.precision ++
    optionalField "scale" Json.integer c.scale

end StreamColumn

namespace StreamMetadata

def read? (j : Json) : Option StreamMetadata := do
  let [headers, columns] ← j.fields? ["headers", "columns"] | none
  some
    { headers := ← defaulted [] (map? string?) headers
      columns := ← defaulted [] (list? StreamColumn.read?) columns }

end StreamMetadata

namespace StreamData

def read? (j : Json) : Option StreamData := do
  let [headers, data] ← j.fields? ["headers", "data"] | none
  some
    { headers := ← defaulted [] (map? string?) headers
      data := ← defaulted [] readRow? data }

end StreamData

namespace StreamError

def read? (j : Json) : Option StreamError := do
  let [headers, message, sqlCode] ← j.fields? ["headers", "message", "sqlCode"] | none
  some
    { headers := ← defaulted [] (map? string?) headers
      message := ← defaulted "" string? message
      sqlCode := ← optional SqlState.read? sqlCode }

end StreamError

namespace ServerMessage

/-- Reads a message of the server. A type that is not known says nothing about its fields. -/
def read? (j : Json) : Option ServerMessage := do
  let (tag, body) ← j.tagged?
  if tag = "metadata" then (StreamMetadata.read? body).map .metadata
  else if tag = "data" then (StreamData.read? body).map .data
  else if tag = "error" then (StreamError.read? body).map .error
  else match body with
    | .array (_ :: _) => none
    | _ => some .unknown

def json : ServerMessage → Json
  | .metadata m =>
    .withTag "metadata"
      [("headers", headersJson m.headers), ("columns", .array (m.columns.map StreamColumn.json))]
  | .data d =>
    .withTag "data" [("headers", headersJson d.headers), ("data", rowJson d.data)]
  | .error e =>
    .withTag "error" <|
      [("headers", headersJson e.headers), ("message", text e.message)] ++
      optionalField "sqlCode" SqlState.json e.sqlCode
  | .unknown => .withTag "unknown" []

end ServerMessage

end Tributary
