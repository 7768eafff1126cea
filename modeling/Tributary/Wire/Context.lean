import Tributary.Json.Record

/-!
# The session context

The organization, role, database, schema, store and compute pool that a statement runs in when it
names none. The service echoes them after a statement.
-/

namespace Tributary

open Json (text string? uuid? optional optionalField)

/-- Addressing defaults carried between statements. -/
structure Context where
  organization : Option Uuid := none
  role : Option String := none
  database : Option String := none
  schema : Option String := none
  store : Option String := none
  computePool : Option String := none
  deriving DecidableEq

namespace Context

def read? (j : Json) : Option Context := do
  let [organization, role, database, schema, store, pool] ← j.fields?
    ["organizationID", "roleName", "databaseName", "schemaName", "storeName", "computePoolName"]
    | none
  some
    { organization := ← optional uuid? organization
      role := ← optional string? role
      database := ← optional string? database
      schema := ← optional string? schema
      store := ← optional string? store
      computePool := ← optional string? pool }

def json (c : Context) : Json :=
  .record <|
    optionalField "organizationID" (fun u : Uuid => text u.toString) c.organization ++
    optionalField "roleName" text c.role ++
    optionalField "databaseName" text c.database ++
    optionalField "schemaName" text c.schema ++
    optionalField "storeName" text c.store ++
    optionalField "computePoolName" text c.computePool

end Context

end Tributary
