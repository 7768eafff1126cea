import Tributary.Params.Duration
import Tributary.Service.Conversation

/-!
# Opening sockets

A stream comes over a socket, at the address of its redirect under the matching scheme. The session
goes into a header of the handshake, and one message authenticates the client once the socket is
open.
-/

namespace Tributary.Socket

open Text

def schemeOf? (scheme : String) : Option String :=
  if scheme = "http" then some "ws"
  else if scheme = "https" then some "wss"
  else none

def url (uri : String) : Except Error Url :=
  match Url.ofString uri with
  | .error e => .error (.client ("invalid streaming uri: " ++ e.message))
  | .ok u =>
    match schemeOf? u.scheme with
    | some scheme => .ok { u with scheme }
    | none => .error (.client "unsupported scheme in streaming result set")

/-- The address of a stream, if the handshake can name its host. -/
def requestUrl (uri : String) : Except Error Url := do
  let url ← url uri
  if url.isNameable then .ok url
  else .error (.client "invalid streaming uri: HTTP format error: invalid uri character")

def isHeaderChar (c : Char) : Bool :=
  c == '\t' || (0x20 ≤ c.toNat && c.toNat < 0x7F)

/-- The header of the session; blanks around it do not count. -/
def header (sessionId : String) : Except Error String :=
  if sessionId.toList.all isHeaderChar then
    let isBlank (c : Char) : Bool := c == ' ' || c == '\t'
    .ok (String.ofList (dropEndWhile isBlank (sessionId.toList.dropWhile isBlank)))
  else .error (.client "invalid session id: failed to parse header value")

def header? : Option String → Except Error (Option String)
  | none => .ok none
  | some sessionId => (header sessionId).map some

/-- A fault of the operating system while opening a socket. -/
def fault (text : String) : Error :=
  .transport (.socket ("IO error: " ++ text))

/-- The fault of a handshake that is turned down: what the peer says, or its status. -/
def rejection (status : Nat) (body : List UInt8) : Error :=
  let text := trim (Utf8.decodeLossy body)
  .client (if text.isEmpty then s!"streaming handshake rejected with status {status}"
    else String.ofList text)

def exhausted : Served SocketAnswer :=
  { answer := .rejected 599 (utf8Bytes "script exhausted") }

/-- What an answer comes to: what arrives on the socket, and the record of it. A peer that stays
silent until the time is up leaves no record. -/
def answered (url : Url) (sessionHeader : Option String) (auth : AuthMessage)
    (timeout : Duration) : SocketAnswer → Except Error (List SocketEvent) × Option Dial
  | .silent => (.error (.transport (.timeout (timeout.millis % 0x10000000000000000))), none)
  | .rejected status body => (.error (rejection status body), some (.rejected url.target status))
  | .opened events => (.ok events, some (.opened url.target sessionHeader auth))

def handshake (url : Url) (sessionHeader : Option String) (auth : AuthMessage)
    (timeout : Duration) : Talk (List SocketEvent) := fun c =>
  let (served, sockets) := takeServed c.sockets
  let served := served.getD exhausted
  let (r, dial) := answered url sessionHeader auth timeout served.answer
  (r, ({ c with sockets }.noteDials dial.toList).cancelAll served.cancels)

/-- Connects to the address of a URL: what arrives on the socket. The attempt is recorded, whatever
comes of it. -/
def connect (url : Url) (sessionHeader : Option String) (auth : AuthMessage)
    (timeout : Duration) : Talk (List SocketEvent) := fun c =>
  let c := c.noteAttempt url
  if c.network.reachable = false then (.error (fault "Network is unreachable (os error 101)"), c)
  else if url.authority = c.network.refusing then
    (.error (fault "Connection refused (os error 111)"), c)
  else if url.authority = c.network.sockets then handshake url sessionHeader auth timeout c
  else (.error (fault "Network is unreachable (os error 101)"), c)

/-- Opens a socket: what arrives on it. -/
def dial (uri token : String) (sessionId : Option String) (timeout : Duration) :
    Talk (List SocketEvent) := do
  let url ← Talk.ofExcept (requestUrl uri)
  let sessionHeader ← Talk.ofExcept (header? sessionId)
  connect url sessionHeader ⟨token, sessionId.getD ""⟩ timeout

end Tributary.Socket
