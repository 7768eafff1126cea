import Tributary.SqlState
import Tributary.Wire.Context

/-!
# Statements on the wire

The body that submits a statement, and the answer that says it is still running.
-/

namespace Tributary

open Json (text string? uuid? integer? required optional optionalField)

/-- Parameters of a session that go with a statement. -/
structure StatementParameters where
  sessionId : Option String := none
  timezone : Option String := none
  deriving DecidableEq, Repr

structure StatementBody where
  statement : String
  organization : Option String := none
  role : Option String := none
  database : Option String := none
  schema : Option String := none
  store : Option String := none
  computePool : Option String := none
  parameters : Option StatementParameters := none
  deriving DecidableEq, Repr

/-- The answer to a statement that is still running. -/
structure StatementStatus where
  statementId : Uuid
  sqlState : Option SqlState := none
  message : Option String := none
  createdOn : Option Int := none
  deriving DecidableEq

/-- A status code of the query engine, of any text. -/
def SqlState.read? (j : Json) : Option SqlState :=
  j.string?.map SqlState.ofCode

def SqlState.json (state : SqlState) : Json :=
  text state.code

namespace StatementParameters

def read? (j : Json) : Option StatementParameters := do
  let [sessionId, timezone] ← j.fields? ["sessionID", "timezone"] | none
  some
    { sessionId := ← optional string? sessionId
      timezone := ← optional string? timezone }

def json (p : StatementParameters) : Json :=
  .record (optionalField "sessionID" text p.sessionId ++ optionalField "timezone" text p.timezone)

end StatementParameters

namespace StatementBody

def read? (j : Json) : Option StatementBody := do
  let [statement, organization, role, database, schema, store, pool, parameters] ← j.fields?
    ["statement", "organization", "role", "database", "schema", "store", "computePool",
      "parameters"]
    | none
  some
    { statement := ← required string? statement
      organization := ← optional string? organization
      role := ← optional string? role
      database := ← optional string? database
      schema := ← optional string? schema
      store := ← optional string? store
      computePool := ← optional string? pool
      parameters := ← optional StatementParameters.read? parameters }

def json (b : StatementBody) : Json :=
  .record <|
    ("statement", text b.statement) ::
    optionalField "organization" text b.organization ++
    optionalField "role" text b.role ++
    optionalField "database" text b.database ++
    optionalField "schema" text b.schema ++
    optionalField "store" text b.store ++
    optionalField "computePool" text b.computePool ++
    optionalField "parameters" StatementParameters.json b.parameters

/-- The body of a statement that carries a context. -/
def inContext (c : Context) (statement : String) (sessionId : Option String) : StatementBody :=
  { statement
    organization := c.organization.map Uuid.toString
    role := c.role
    database := c.database
    schema := c.schema
    store := c.store
    computePool := c.computePool
    parameters := some { sessionId } }

end StatementBody

namespace StatementStatus

def read? (j : Json) : Option StatementStatus := do
  let [statementId, sqlState, message, createdOn] ← j.fields?
    ["statementID", "sqlState", "message", "createdOn"] | none
  some
    { statementId := ← required uuid? statementId
      sqlState := ← optional SqlState.read? sqlState
      message := ← optional string? message
      createdOn := ← optional (integer? Integer.int64) createdOn }

def json (s : StatementStatus) : Json :=
  .record <|
    ("statementID", text s.statementId.toString) ::
    optionalField "sqlState" SqlState.json s.sqlState ++
    optionalField "message" text s.message ++
    optionalField "createdOn" Json.integer s.createdOn

end StatementStatus

end Tributary
