import Tributary.Cursor.Cells
import Tributary.Cursor.Signal
import Tributary.Cursor.Socket
import Tributary.Statement.Runner
import Tributary.Text.Ascii
import Tributary.Value.Column

/-!
# Cursors over streams

A stream begins with its columns and goes on with rows, until it ends or fails. What it fails with
is reported once, after all rows before it, and is nothing more than the end from then on. An error
of the query itself is told with the messages that the service keeps about the query, where it can
be asked for them.
-/

namespace Tributary

/-- A cursor over a stream: what is known of its columns, and what arrives after them. -/
structure StreamCursor where
  metadata : StreamMetadata
  events : List SocketEvent
  /-- The query that can be looked up, and by whom. -/
  lookup : Option (String × Runner)
  token : CancelId
  hints : Bool
  finished : Bool := false
  closed : Bool := false

/-! ## Errors of the query -/

namespace History

/-- What is found in the columns of the first row of a history: whether the query has failed, and
the last of its messages. -/
structure Finding where
  failed : Bool := false
  messages : Option String := none
  deriving DecidableEq, Repr

def look (f : Finding) (column : ResultColumn) (cell : Option String) : Finding :=
  let cell := cell.getD ""
  if Text.eqIgnoringCase column.name "state" && Text.eqIgnoringCase cell "errored" then
    { f with failed := true }
  else if Text.eqIgnoringCase column.name "messages" then { f with messages := some cell }
  else f

def ofRow (columns : List ResultColumn) (row : Row) : Finding :=
  (columns.zip row).foldl (fun f p => look f p.1 p.2) {}

/-- The messages that the history keeps about a query that has failed. -/
def messages? (history : ResultSet) : Option String :=
  match history.rows with
  | [] => none
  | row :: _ =>
    let f := ofRow history.metadata.columns row
    if f.failed then f.messages else none

def statement (queryId : String) : String :=
  "DESCRIBE QUERY HISTORY " ++ queryId ++ ";"

/-- The messages about a query; `none` if they cannot be had. -/
def lookUp (runner : Runner) (token : CancelId) (queryId : String) (c : Conversation) :
    Option String × Conversation :=
  let (r, c) := runner.submit token { statement := statement queryId } c
  (r.toOption.bind messages?, c)

def joined (messages : Option String) (message : String) : String :=
  match messages with
  | none => message
  | some p => p ++ "\n\n" ++ message

/-- The fault that an error of the query counts as. -/
def fault (e : StreamError) (messages : Option String) : Error :=
  .sql ⟨e.sqlCode.getD (.ofCode ""), joined messages e.message, none⟩

/-- Looks up the query of an error, where it is known, and reports the error. -/
def report (lookup : Option (String × Runner)) (token : CancelId) (e : StreamError)
    (c : Conversation) : Error × Conversation :=
  match lookup with
  | none => (fault e none, c)
  | some (queryId, runner) =>
    let (messages, c) := lookUp runner token queryId c
    (fault e messages, c)

end History

namespace StreamCursor

def finish (r : StreamCursor) : StreamCursor :=
  { r with finished := true, events := [] }

/-- What a stream fails with that does not begin with its columns. -/
def unready : Signal → Error
  | .broken e => e
  | .data _ => .protocol "data received before metadata"
  | _ => .protocol "stream ended before metadata"

def ofEvents (lookup : Option (String × Runner)) (token : CancelId) (hints : Bool)
    (events : List SocketEvent) : Talk StreamCursor := fun c =>
  match Signal.next events with
  | (.metadata metadata, events) => (.ok { metadata, events, lookup, token, hints }, c)
  | (.reported e, _) => let (e, c) := History.report lookup token e c; (.error e, c)
  | (signal, _) => (.error (unready signal), c)

def next (r : StreamCursor) (dest : List Value) :
    Conversation → Fetched StreamCursor × Conversation := fun c =>
  if r.closed then (⟨.error (.client "rows are closed"), dest, r⟩, c)
  else if r.finished then (⟨.ok false, dest, r⟩, c)
  else if c.isCancelled r.token then (⟨.ok false, dest, r.finish⟩, c)
  else
    match Signal.nextRow r.events with
    | (.data row, events) =>
      let (more, slots) :=
        Cells.place .streamed (r.metadata.columns.map (·.declared)) row dest
      (⟨more, slots, { r with events }⟩, c)
    | (.broken e, _) => (⟨.error e, dest, r.finish⟩, c)
    | (.reported e, _) =>
      let (e, c) := History.report r.lookup r.token e c
      (⟨if c.isCancelled r.token then .ok false else .error e, dest, r.finish⟩, c)
    | _ => (⟨.ok false, dest, r.finish⟩, c)

def close (r : StreamCursor) : StreamCursor :=
  if r.closed then r else { r.finish with closed := true }

def describe (r : StreamCursor) : List Column :=
  r.metadata.columns.map fun c =>
    (Column.describe c.name c.declared c.nullable r.hints .streamed).withDimensions c.length
      c.precision c.scale

def shown (r : StreamCursor) : String :=
  Text.record "StreamingRows"
    [("columns", s!"{r.metadata.columns.length}"), ("finished", Text.truth r.finished),
      ("closed", Text.truth r.closed)]

end StreamCursor

end Tributary
