import Tributary.Service.Conversation

/-!
# Signals of a stream

What arrives on a socket, read as messages of the server. Frames that only keep the connection
alive say nothing; a close frame and the end of the connection are the same to a reader.
-/

namespace Tributary

/-- What an event on a socket says to the reader of a stream. -/
inductive Signal where
  | metadata (m : StreamMetadata)
  | data (row : Row)
  /-- The server reports an error of the query. -/
  | reported (e : StreamError)
  /-- The stream is broken. -/
  | broken (e : Error)
  | ended
  deriving DecidableEq

namespace Signal

def ofMessage : ServerMessage → Signal
  | .metadata m => .metadata m
  | .data d => .data d.data
  | .error e => .reported e
  | .unknown => .broken (.protocol "unexpected message type")

def ofBytes (bytes : List UInt8) (complaint : String) : Signal :=
  match (Json.read? bytes).bind ServerMessage.read? with
  | some m => ofMessage m
  | none => .broken (.protocol ("invalid stream message: " ++ complaint))

def lost (text : String) : Signal :=
  .broken (.transport (.receive text))

/-- What an event says, if anything. A message of text has to be text. -/
def ofEvent? : SocketEvent → Option Signal
  | .message isText bytes complaint =>
    if isText && (Text.Utf8.decode? bytes).isNone then some (lost "UTF-8 encoding error")
    else some (ofBytes bytes complaint)
  | .ping | .pong => none
  | .close => some .ended
  | .drop => some (lost "WebSocket protocol error: Connection reset without closing handshake")
  | .failed text => some (lost text)

/-- The next signal, and the events after it. -/
def next : List SocketEvent → Signal × List SocketEvent
  | [] => (.ended, [])
  | event :: events =>
    match ofEvent? event with
    | some signal => (signal, events)
    | none => next events

/-- The next signal of a stream whose columns are known already, and the events after it. -/
def nextRow : List SocketEvent → Signal × List SocketEvent
  | [] => (.ended, [])
  | event :: events =>
    match ofEvent? event with
    | none | some (.metadata _) => nextRow events
    | some signal => (signal, events)

end Signal

end Tributary
