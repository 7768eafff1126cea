import Tributary.Cursor.Streamed

/-!
# Handing a stream over

A stream is read in the background. The reader tells once whether the stream is ready, then hands
its rows over through a channel of limited capacity, and waits while that is full. A fault that ends
the stream is put into a slot before the channel is closed, so whoever receives the rows finds it
there when they have come to an end.

Reader and receiver take their steps independently of each other.
-/

namespace Tributary

/-- What the reader of a stream is about to do. -/
inductive StreamReader where
  | reading
  /-- It hands a row over. -/
  | handing (row : Row)
  /-- It looks up the query of an error. -/
  | describing (e : StreamError)
  | failing (e : Error)
  /-- The stream has ended without a fault. -/
  | ending
  /-- It closes the channel. -/
  | leaving
  | gone

/-- What the receiver of a stream knows. -/
inductive StreamReceiver where
  | opening
  | receiving (metadata : StreamMetadata)
  | refused (e : Error)
  /-- The rows have come to an end, and this was found in the slot for a fault. -/
  | finished (metadata : StreamMetadata) (fault : Option Error)

/-- A stream on its way from its reader to its receiver. -/
structure HandOff where
  events : List SocketEvent
  /-- The query that can be looked up, and by whom. -/
  lookup : Option (String × Runner)
  token : CancelId
  conversation : Conversation
  reader : StreamReader := .reading
  /-- What the receiver was told about the beginning of the stream. -/
  ready : Option (Except Error StreamMetadata) := none
  channel : List Row := []
  fault : Option Error := none
  receiver : StreamReceiver := .opening
  received : List Row := []

namespace HandOff

/-- Tells a fault where the receiver waits for it. -/
def fail (s : HandOff) (e : Error) : HandOff :=
  if s.ready.isNone then { s with ready := some (.error e) } else { s with fault := some e }

/-- Ends the stream without a fault, unless the receiver still waits for its beginning. -/
def conclude (s : HandOff) : HandOff :=
  if s.ready.isNone then s.fail (StreamCursor.unready .ended) else s

def read (s : HandOff) : Option Signal → HandOff
  | none => s
  | some (.metadata m) => if s.ready.isNone then { s with ready := some (.ok m) } else s
  | some (.data row) =>
    if s.ready.isNone then { s with reader := .failing (StreamCursor.unready (.data row)) }
    else { s with reader := .handing row }
  | some (.reported e) => { s with reader := .describing e }
  | some (.broken e) => { s with reader := .failing e }
  | some .ended => { s with reader := .ending }

/-- The next step of the reader, unless it has to wait or is gone. -/
def readerStep? (capacity : Nat) (s : HandOff) : Option HandOff :=
  match s.reader with
  | .reading =>
    match s.events with
    | [] => some { s with reader := .ending }
    | event :: events => some ({ s with events }.read (Signal.ofEvent? event))
  | .handing row =>
    if s.channel.length < capacity then
      some { s with channel := s.channel ++ [row], reader := .reading }
    else none
  | .describing e =>
    let (e, conversation) := History.report s.lookup s.token e s.conversation
    some { s with conversation, reader := .failing e }
  | .failing e => some { s.fail e with reader := .leaving }
  | .ending => some { s.conclude with reader := .leaving }
  | .leaving => some { s with reader := .gone }
  | .gone => none

/-- The next step of the receiver, unless it has to wait or is done. -/
def receiverStep? (s : HandOff) : Option HandOff :=
  match s.receiver with
  | .opening =>
    match s.ready, s.reader with
    | some (.ok m), _ => some { s with receiver := .receiving m }
    | some (.error e), _ => some { s with receiver := .refused e }
    | none, .gone => some { s with receiver := .refused (StreamCursor.unready .ended) }
    | none, _ => none
  | .receiving m =>
    match s.channel, s.reader with
    | row :: channel, _ => some { s with channel, received := s.received ++ [row] }
    | [], .gone => some { s with receiver := .finished m s.fault, fault := none }
    | [], _ => none
  | .refused _ => none
  | .finished _ _ => none

inductive Step (capacity : Nat) (s s' : HandOff) : Prop where
  | reader (h : s.readerStep? capacity = some s')
  | receiver (h : s.receiverStep? = some s')

def start (lookup : Option (String × Runner)) (token : CancelId) (events : List SocketEvent)
    (conversation : Conversation) : HandOff :=
  { events, lookup, token, conversation }

end HandOff

end Tributary
