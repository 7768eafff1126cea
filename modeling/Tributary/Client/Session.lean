import Tributary.Client.Connection

/-!
# Sessions

A caller at work: a connection, the conversation that it takes part in, and the cursors that the
caller keeps, by number. Whatever the caller does is an action, and what comes of it is an outcome.
-/

namespace Tributary

/-- What a caller does with a cursor. -/
inductive CursorAction where
  /-- Fetches the next row into a destination of slots that hold `unset`, one for each column if no
  width is given. -/
  | next (width : Option Nat) (unset : Value)
  | nextRow
  | drain (most : Nat)
  | close
  | info
  | column (index : Nat)

/-- What a caller does. -/
inductive Action where
  | query (request : StatementRequest) (token : CancelId) (slot : Nat)
  | execute (request : StatementRequest) (token : CancelId)
  | ping (token : CancelId)
  | version (token : CancelId)
  | beginTransaction
  | close
  | isClosed
  | context
  | setContext (context : Context)
  | params
  | describe
  | cancel (token : CancelId)
  | download (type : ResourceType) (name : String) (dest : Destination) (token : CancelId)
  | onCursor (slot : Nat) (action : CursorAction)

inductive Outcome where
  | opened (cursor : Cursor)
  | executed (result : Executed)
  | done
  | version (v : Version)
  | closed (closed : Bool)
  | context (context : Context)
  | params (params : Params)
  | text (text : String)
  | downloaded (result : Except Error Unit) (dest : Destination)
  | fetched (more : Except Error Bool) (slots : List Value)
  | row (row : Option (List Value))
  | drained (rows : List (List Value)) (ended : Except Error Bool)
  | column (column : Option Column)
  | noCursor
  | failed (e : Error)

/-- A caller at work. -/
structure Session where
  connection : Connection
  conversation : Conversation
  cursors : List (Nat × Cursor) := []

namespace Outcome

def ofExcept (ok : α → Outcome) : Except Error α → Outcome
  | .ok a => ok a
  | .error e => .failed e

end Outcome

namespace Session

def cursor? (s : Session) (slot : Nat) : Option Cursor :=
  s.cursors.lookup slot

/-- Puts a cursor into a slot, in place of the one that was there. -/
def keep (s : Session) (slot : Nat) (cursor : Cursor) : Session :=
  { s with cursors := (slot, cursor) :: s.cursors.filter (·.1 != slot) }

def operate (s : Session) (ok : α → Outcome) (x : Talk α) : Outcome × Session :=
  let (r, conversation) := x s.conversation
  (.ofExcept ok r, { s with conversation })

def query (s : Session) (request : StatementRequest) (token : CancelId) (slot : Nat) :
    Outcome × Session :=
  match s.connection.query token request s.conversation with
  | (.ok cursor, conversation) => (.opened cursor, { s with conversation }.keep slot cursor)
  | (.error e, conversation) => (.failed e, { s with conversation })

def download (s : Session) (type : ResourceType) (name : String) (dest : Destination)
    (token : CancelId) : Outcome × Session :=
  let ((r, dest), conversation) := s.connection.download token type name dest s.conversation
  (.downloaded r dest, { s with conversation })

/-- Does something with a cursor: the outcome, and the cursor afterwards. -/
def act (r : Cursor) (c : Conversation) : CursorAction → (Outcome × Cursor) × Conversation
  | .next width unset =>
    let (f, c) := r.next (List.replicate (width.getD r.width) unset) c
    ((.fetched f.more f.slots, f.cursor), c)
  | .nextRow =>
    let ((row, r), c) := r.nextRow c
    ((.ofExcept .row row, r), c)
  | .drain most =>
    let (d, c) := r.drain most c
    ((.drained d.rows d.ended, d.cursor), c)
  | .close => ((.done, r.close), c)
  | .info => ((.opened r, r), c)
  | .column index => ((.column (r.column? index), r), c)

def onCursor (s : Session) (slot : Nat) (action : CursorAction) : Outcome × Session :=
  match s.cursor? slot with
  | none => (.noCursor, s)
  | some r =>
    let ((outcome, r), conversation) := act r s.conversation action
    (outcome, { s with conversation }.keep slot r)

def step (s : Session) : Action → Outcome × Session
  | .query request token slot => s.query request token slot
  | .execute request token => s.operate .executed (s.connection.execute token request)
  | .ping token => s.operate (fun _ => .done) (s.connection.ping token)
  | .version token => s.operate .version (s.connection.version token)
  | .beginTransaction => (.failed (.client "feature is not supported"), s)
  | .close => (.done, { s with connection := s.connection.close })
  | .isClosed => (.closed s.connection.closed, s)
  | .context => (.context s.conversation.context, s)
  | .setContext context =>
    (.done, { s with conversation := s.conversation.setContext context })
  | .params => (.params s.connection.params, s)
  | .describe => (.text s.connection.shown, s)
  | .cancel token => (.done, { s with conversation := s.conversation.cancel token })
  | .download type name dest token => s.download type name dest token
  | .onCursor slot action => s.onCursor slot action

def run (s : Session) : List Action → List Outcome × Session
  | [] => ([], s)
  | action :: actions =>
    let (outcome, s) := s.step action
    let (outcomes, s) := s.run actions
    (outcome :: outcomes, s)

end Session

end Tributary
