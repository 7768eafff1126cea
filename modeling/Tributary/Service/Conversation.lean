import Tributary.Params.Token
import Tributary.Service.Answers
import Tributary.Wire.Stream

/-!
# Conversations

Everything that passes between a client and its peers: what the peers are still going to answer,
what the client has asked so far, which operations its caller has cancelled, and the context that
the client carries along. An operation of the client is a function of the conversation. A journal
keeps the order of what was asked and told about statements, and of the contexts that the caller
set in between.

Answers to the background lookups of failed streams may be kept apart from all others, and then
these lookups are recorded apart as well.
-/

namespace Tributary

inductive SocketEvent where
  /-- A frame with a message, of text or of bytes. If it is no message of the server, whoever parses
  it complains in words of its own. -/
  | message (isText : Bool) (bytes : List UInt8) (complaint : String := "")
  | ping
  | pong
  | close
  /-- The connection ends without a close frame. -/
  | drop
  /-- The connection fails in some other way. -/
  | failed (text : String)
  deriving DecidableEq, Repr

inductive SocketAnswer where
  | opened (events : List SocketEvent)
  | rejected (status : Nat) (body : List UInt8)
  | silent
  deriving DecidableEq, Repr

/-- Where the peers listen, if there is a network at all: the primary service and the dataplane
endpoint, which both answer under certain schemes, the streaming server, and an address that refuses
connections. -/
structure Network where
  reachable : Bool := false
  schemes : List String := ["http"]
  primary : List Char := []
  dataplane : List Char := []
  sockets : List Char := []
  refusing : List Char := []
  deriving DecidableEq, Repr

/-- A request that was made: a question in memory, or a request over HTTP and who received it. -/
inductive Call where
  | direct (question : Question)
  | http (endpoint : Endpoint) (request : HttpRequest)
  deriving DecidableEq

/-- What became of an attempt to open a socket, as the peer saw it: it was opened, or rejected with
a status. -/
inductive Dial where
  | opened (target : List Char) (sessionHeader : Option String) (auth : AuthMessage)
  | rejected (target : List Char) (status : Nat)
  deriving DecidableEq

/-- An entry in the journal of a conversation: a question about a statement on its way to an
endpoint, a reply that came back from it, or a context that the caller set. -/
inductive Entry where
  | asked (endpoint : Endpoint) (question : Question)
  | told (endpoint : Endpoint) (reply : Reply)
  | replaced (context : Context)
  deriving DecidableEq

structure Conversation where
  context : Context := {}
  tokens : TokenSource
  cancelled : List CancelId := []
  network : Network := {}
  direct : DirectAnswers := {}
  http : HttpAnswers := {}
  sockets : List (Served SocketAnswer) := []
  lookups : List Uuid := []
  calls : List Call := []
  lookupCalls : List Call := []
  /-- Where sockets were to be opened, whether anybody listened there or not. -/
  attempts : List Url := []
  dials : List Dial := []
  journal : List Entry := []

/-- An operation of the client. -/
def Talk (α : Type) : Type := Conversation → Except Error α × Conversation

namespace Talk

def pure (a : α) : Talk α := fun c => (.ok a, c)

def bind (x : Talk α) (f : α → Talk β) : Talk β := fun c =>
  match x c with
  | (.ok a, c) => f a c
  | (.error e, c) => (.error e, c)

instance : Monad Talk where
  pure := pure
  bind := bind

def fail (e : Error) : Talk α := fun c => (.error e, c)

def ofExcept (r : Except Error α) : Talk α := fun c => (r, c)

end Talk

namespace Conversation

def isCancelled (c : Conversation) (id : CancelId) : Bool :=
  c.cancelled.contains id

def cancel (c : Conversation) (id : CancelId) : Conversation :=
  if c.isCancelled id then c else { c with cancelled := id :: c.cancelled }

def cancelAll (c : Conversation) (ids : List CancelId) : Conversation :=
  ids.foldl cancel c

/-- Records a request, apart if it belongs to a background lookup. -/
def note (c : Conversation) (isLookup : Bool) (call : Call) : Conversation :=
  if isLookup then { c with lookupCalls := c.lookupCalls ++ [call] }
  else { c with calls := c.calls ++ [call] }

def noteAttempt (c : Conversation) (url : Url) : Conversation :=
  { c with attempts := c.attempts ++ [url] }

def noteDials (c : Conversation) (dials : List Dial) : Conversation :=
  { c with dials := c.dials ++ dials }

def write (c : Conversation) (entry : Entry) : Conversation :=
  { c with journal := c.journal ++ [entry] }

def setContext (c : Conversation) (context : Context) : Conversation :=
  { c.write (.replaced context) with context }

def askToken : Talk String := fun c =>
  (c.tokens.ask.1, { c with tokens := c.tokens.ask.2 })

/-- Whether a question belongs to a background lookup with answers of its own. -/
def isLookup (c : Conversation) (hasLookups : Bool) : Question → Bool
  | .submit body _ =>
    hasLookups && "DESCRIBE QUERY HISTORY ".toList.isPrefixOf body.statement.toList
  | .status statementId _ _ => c.lookups.contains statementId
  | _ => false

/-- Remembers that a statement belongs to a background lookup, if it was accepted. -/
def noteLookup (c : Conversation) (isLookup : Bool) : Except Error Reply → Conversation
  | .ok (.accepted s) =>
    if isLookup then { c with lookups := s.statementId :: c.lookups } else c
  | _ => c

def remaining (c : Conversation) : Nat :=
  c.direct.statements.remaining + c.http.remaining

end Conversation

namespace Talk

/-- Does nothing once an operation is cancelled. -/
def unlessCancelled (id : CancelId) (x : Talk α) : Talk α := fun c =>
  if c.isCancelled id then (.error .cancelled, c) else x c

/-- Does nothing once an operation is cancelled, and gives up if it is cancelled meanwhile. -/
def untilCancelled (id : CancelId) (x : Talk α) : Talk α := fun c =>
  if c.isCancelled id then (.error .cancelled, c)
  else
    let (r, c) := x c
    (if c.isCancelled id then .error .cancelled else r, c)

end Talk

end Tributary
