import Tributary.Params.Server
import Tributary.Service.Conversation

/-!
# Services

A service answers questions in memory, or over HTTP. Over HTTP each question takes one token, and
it is recorded where it reaches a peer; a question that cannot be sent takes no answer.
-/

namespace Tributary

/-- Where the tokens of requests come from: the source of the connection is asked for each
request, or all carry one token. -/
inductive Bearer where
  | asked
  | fixed (token : FixedToken)
  deriving DecidableEq

/-- A service: in memory, or over HTTP below a base. -/
inductive Service where
  | direct
  | rest (base : String) (bearer : Bearer) (maintenance : Bool)
  deriving DecidableEq

namespace Network

def peer? (n : Network) (url : Url) : Option Endpoint :=
  if n.reachable && n.schemes.contains url.scheme then
    if url.authority = n.primary then some .primary
    else if url.authority = n.dataplane then some .dataplane
    else none
  else none

end Network

namespace Service

def ofTransport (r : Except TransportError α) : Talk α :=
  Talk.ofExcept (r.mapError .transport)

def token : Bearer → Talk String
  | .asked => Conversation.askToken
  | .fixed t => pure t.token

def send (q : Question) (isLookup : Bool) (r : HttpRequest) : Talk HttpResponse := fun c =>
  match c.network.peer? r.url with
  | none => (.error (.transport (HttpRequest.unanswered r.url)), c)
  | some endpoint =>
    let c := c.note (isLookup && endpoint == .primary) (.http endpoint r)
    let (served, http) := c.http.take endpoint q isLookup
    ((served.answer.read r.url).mapError .transport,
      { c with http }.cancelAll served.cancels)

def exchange (base : String) (bearer : Bearer) (maintenance isLookup : Bool) (q : Question) :
    Talk HttpResponse := do
  let token ← token bearer
  let request ← ofTransport (q.request base token maintenance)
  send q isLookup request

theorem exchange_eq (base : String) (bearer : Bearer) (maintenance isLookup : Bool) (q : Question)
    (c : Conversation) : exchange base bearer maintenance isLookup q c =
      Talk.bind (token bearer) (fun token =>
        Talk.bind (ofTransport (q.request base token maintenance)) (send q isLookup)) c :=
  rfl

/-- The answer to a question in memory, which fails where there is none. -/
def deliver (s : Option (Served (Except Error α))) : Talk α := fun c =>
  match s with
  | none => (.error (.client "script exhausted"), c)
  | some s => (s.answer, c.cancelAll s.cancels)

def askStatement (service : Service) (q : Question) : Talk Reply := fun c =>
  match service with
  | .direct =>
    let isLookup := c.isLookup c.direct.statements.lookup.isSome q
    let (served, statements) := c.direct.statements.take q isLookup
    let (r, c) := deliver served
      { c.note isLookup (.direct q) with direct := { c.direct with statements } }
    (r, c.noteLookup isLookup r)
  | .rest base bearer maintenance =>
    let isLookup := c.isLookup c.http.statements.lookup.isSome q
    let (r, c) := (do
      let response ← exchange base bearer maintenance isLookup q
      ofTransport (Reply.ofResponse response) : Talk Reply) c
    (r, c.noteLookup isLookup r)

def version (service : Service) : Talk Version := fun c =>
  match service with
  | .direct =>
    let (served, version) := takeServed c.direct.version
    deliver served { c.note false (.direct .version) with direct := { c.direct with version } }
  | .rest base bearer maintenance => (do
    let response ← exchange base bearer maintenance false .version
    ofTransport (Version.ofResponse response) : Talk Version) c

def download (service : Service) (type : ResourceType) (organization : Uuid) (name : String) :
    Talk DownloadReply := fun c =>
  let q := Question.download type organization name
  match service with
  | .direct =>
    let (served, download) := takeServed c.direct.download
    deliver served { c.note false (.direct q) with direct := { c.direct with download } }
  | .rest base bearer maintenance => (do
    let response ← exchange base bearer maintenance false q
    pure (DownloadReply.ofResponse response) : Talk DownloadReply) c

/-- Makes a call for an operation that may be cancelled. It is not made once the operation is
cancelled; an operation that is cancelled meanwhile sees no response over HTTP, while an answer in
memory is there at once. -/
def guarded (service : Service) (id : CancelId) (call : Talk α) : Talk α :=
  match service with
  | .direct => call.unlessCancelled id
  | .rest _ _ _ => call.untilCancelled id

def baseShown (base : String) : String :=
  Text.record "HttpTransport" [("base_url", Text.quoted base)]

end Service

end Tributary
