import Tributary.Params.Duration
import Tributary.Params.Server
import Tributary.Params.Token

/-!
# Connection parameters

What a connection needs to know, put together from settings. Of settings of one kind the last
counts; `Builder.build` checks them in a fixed order, whatever the order in which they were made.
-/

namespace Tributary

open Text

structure Params where
  server : String
  tokens : TokenSource
  sessionId : Option String
  hints : Bool
  insecureTls : Bool
  connectTimeout : Duration
  pollInterval : Duration
  handshakeTimeout : Duration
  streamBuffer : Nat
  connectTimeout_le : connectTimeout.seconds ≤ 300
  pollInterval_pos : 0 < pollInterval
  streamBuffer_pos : 0 < streamBuffer

/-- One choice of a caller. -/
inductive Setting where
  | server (text : String)
  | token (token : String)
  | provider (source : List (Except Error String))
  | sessionId (id : String)
  | hints (enabled : Bool)
  | insecureTls (insecure : Bool)
  | connectTimeout (d : Duration)
  | pollInterval (d : Duration)
  | handshakeTimeout (d : Duration)
  | streamBuffer (capacity : Nat)

/-- The settings made so far. -/
structure Builder where
  server : Option String := none
  token : Option String := none
  provider : Option (List (Except Error String)) := none
  sessionId : Option String := none
  hints : Option Bool := none
  insecureTls : Option Bool := none
  connectTimeout : Option Duration := none
  pollInterval : Option Duration := none
  handshakeTimeout : Option Duration := none
  streamBuffer : Option Nat := none

namespace Builder

def set (b : Builder) : Setting → Builder
  | .server text => { b with server := some text }
  | .token token => { b with token := some token }
  | .provider source => { b with provider := some source }
  | .sessionId id => { b with sessionId := some id }
  | .hints enabled => { b with hints := some enabled }
  | .insecureTls insecure => { b with insecureTls := some insecure }
  | .connectTimeout d => { b with connectTimeout := some d }
  | .pollInterval d => { b with pollInterval := some d }
  | .handshakeTimeout d => { b with handshakeTimeout := some d }
  | .streamBuffer capacity => { b with streamBuffer := some capacity }

def setAll (b : Builder) (settings : List Setting) : Builder :=
  settings.foldl set b

def defaultServer : String := "https://api.deltastream.com/v2"

/-- The source of tokens: a fixed token goes before a provider. -/
def tokens (b : Builder) : Except ConnectionError TokenSource :=
  match b.token, b.provider with
  | some token, _ => (FixedToken.of token).map .fixed
  | none, some source => .ok (.supplied source)
  | none, none => .error .missingToken

/-- Checks the settings, in the order server, token, connect timeout, poll interval and stream
buffer. -/
def build (b : Builder) : Except ConnectionError Params := do
  let server ← Server.normalize (b.server.getD defaultServer)
  let tokens ← b.tokens
  let connectTimeout := b.connectTimeout.getD (.ofSeconds 30)
  let pollInterval := b.pollInterval.getD (.ofSeconds 1)
  let streamBuffer := b.streamBuffer.getD 30
  if hc : connectTimeout.seconds ≤ 300 then
    if hp : 0 < pollInterval then
      if hs : 0 < streamBuffer then
        .ok
          { server, tokens, connectTimeout, pollInterval, streamBuffer
            sessionId := b.sessionId
            hints := b.hints.getD false
            insecureTls := b.insecureTls.getD false
            handshakeTimeout := b.handshakeTimeout.getD (.ofSeconds 45)
            connectTimeout_le := hc
            pollInterval_pos := hp
            streamBuffer_pos := hs }
      else .error (.invalidParameter "stream_buffer" "Stream buffer must be greater than 0")
    else .error (.invalidParameter "poll_interval" "Poll interval must be greater than 0")
  else
    .error (.invalidParameter "connect_timeout" "Connect timeout cannot exceed 300 seconds")

def shown (b : Builder) : String :=
  record "ConnectionBuilder"
    [("server", optional quoted b.server),
      ("token", optional quoted (b.token.map fun _ => "<redacted>")),
      ("token_provider", optional quoted (b.provider.map fun _ => "<provider>")),
      ("session_id", optional quoted b.sessionId),
      ("column_display_hints", optional truth b.hints),
      ("insecure_tls", optional truth b.insecureTls)]

end Builder

namespace Params

def shown (p : Params) : String :=
  record "ConnectionParams"
    [("server", quoted p.server), ("token", quoted "<redacted>"),
      ("session_id", optional quoted p.sessionId), ("column_display_hints", truth p.hints),
      ("insecure_tls", truth p.insecureTls), ("connect_timeout", p.connectTimeout.shown),
      ("poll_interval", p.pollInterval.shown),
      ("stream_handshake_timeout", p.handshakeTimeout.shown),
      ("stream_buffer", s!"{p.streamBuffer}")]

/-- The short text of parameters, for a user. -/
def text (p : Params) : String :=
  record "ConnectionParams"
    [("server", p.server), ("session_id", optional quoted p.sessionId),
      ("insecure_tls", truth p.insecureTls)]

end Params

end Tributary
