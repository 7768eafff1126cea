import Tributary.Cursor.Cells
import Tributary.Statement.Runner
import Tributary.Value.Column

/-!
# Cursors over bounded results

The rows of a bounded result come in partitions, of which the first is there when the cursor is.
A later one is fetched when the next row lies in it, and then takes the place of the one before. A
fetch that fails leaves the cursor where it was; any other attempt moves on by one row.

Positions and sums of counts are unbounded integers here. A count has 32 bits, so it takes more than
`2 ^ 32` partitions to leave a signed word of 64 bits.
-/

namespace Tributary

structure PagedCursor where
  runner : Runner
  token : CancelId
  statementId : Uuid
  columns : List ResultColumn
  partitions : List Int
  hints : Bool
  /-- The rows of the partition that is held, and which one that is. -/
  held : List Row
  partition : Nat := 0
  /-- How many rows have been passed. -/
  position : Nat := 0
  closed : Bool := false

namespace PagedCursor

/-- The cursor in front of the rows of a result. -/
def ofResult (runner : Runner) (token : CancelId) (first : ResultSet) (hints : Bool) :
    PagedCursor :=
  { runner, token, hints
    statementId := first.statementId
    columns := first.metadata.columns
    partitions := first.metadata.partitions
    held := first.rows }

def totalRows (r : PagedCursor) : Int := r.partitions.foldr (· + ·) 0

/-- The partition that holds a row, counted from `partition` on, and the row within it. A
partition without rows holds none; one with a negative number of rows defers the rows after it. -/
def locate (counts : List Int) (row partition : Nat) : Option (Nat × Nat) :=
  match counts with
  | [] => none
  | count :: counts =>
    if (row : Int) < count then some (row, partition)
    else locate counts (row - count).toNat (partition + 1)

/-- The number of a partition in a request, which has 32 bits. -/
def partNumber (partition : Nat) : Int :=
  Int.bmod partition 0x100000000

/-- The cursor that holds a partition. -/
def holding (r : PagedCursor) (partition : Nat) : Talk PagedCursor := do
  if partition = r.partition then pure r
  else
    let result ← r.runner.await r.token r.statementId (partNumber partition)
    pure { r with held := result.rows, partition }

/-- Decodes a row of the partition that is held, and passes it. -/
def serve (r : PagedCursor) (row : Nat) (dest : List Value) : Fetched PagedCursor :=
  let cursor := { r with position := r.position + 1 }
  match r.held[row]? with
  | none => ⟨.error (.protocol s!"partition {r.partition} has no row {row}"), dest, cursor⟩
  | some cells =>
    let (more, slots) := Cells.place .paged (r.columns.map (·.declared)) cells dest
    ⟨more, slots, cursor⟩

def next (r : PagedCursor) (dest : List Value) :
    Conversation → Fetched PagedCursor × Conversation := fun c =>
  if r.closed then (⟨.error (.client "rows are closed"), dest, r⟩, c)
  else
    match locate r.partitions r.position 0 with
    | none => (⟨.ok false, dest, r⟩, c)
    | some (row, partition) =>
      match r.holding partition c with
      | (.error e, c) => (⟨.error e, dest, r⟩, c)
      | (.ok r, c) => (r.serve row dest, c)

def close (r : PagedCursor) : PagedCursor := { r with closed := true }

def describe (r : PagedCursor) : List Column :=
  r.columns.map fun c => .describe c.name c.declared c.nullable r.hints .paged

def shown (r : PagedCursor) : String :=
  Text.record "PartitionedRows"
    [("statement_id", r.statementId.toString), ("columns", s!"{r.columns.length}"),
      ("partitions", s!"{r.partitions.length}"), ("partition_index", s!"{r.partition}"),
      ("row_index", String.ofList (Integer.text ((r.position : Int) - 1))),
      ("closed", Text.truth r.closed)]

end PagedCursor

end Tributary
