import Tributary.Cursor.Basic

/-!
# Opening cursors

The result of a statement holds its rows, or says where they are: at a dataplane endpoint that
serves them in partitions, or on a socket. A dataplane endpoint is asked with the token of the
redirect and never touches the context.
-/

namespace Tributary

/-- What the cursors of a connection have in common. -/
structure CursorSettings where
  hints : Bool
  sessionId : Option String
  pollInterval : Duration
  handshakeTimeout : Duration
  /-- Whether requests to dataplane endpoints are marked as maintenance. -/
  maintenance : Bool
  deriving DecidableEq, Repr

namespace Redirect

/-- The address of a dataplane endpoint, with the path of its interface. -/
def address (uri : String) : Except Error String :=
  match Url.ofString uri with
  | .error _ => .error (.client "invalid dataplane uri")
  | .ok url => .ok (url.withPath ['v', '2']).toString

def bearer (token : String) : Except Error FixedToken :=
  (FixedToken.of token).mapError fun e => .client ("invalid dataplane token: " ++ e.message)

def runner (r : Redirect) (settings : CursorSettings) : Except Error Runner := do
  let address ← address r.uri
  let token ← bearer r.token
  let base ← (Server.base address).mapError .connection
  .ok
    { service := .rest base (.fixed token) settings.maintenance
      keepsContext := false
      sessionId := settings.sessionId
      pollInterval := settings.pollInterval
      endpoint := .dataplane }

end Redirect

namespace Cursor

def openPaged (redirect : Redirect) (token : CancelId) (statementId : Uuid)
    (settings : CursorSettings) : Talk Cursor := do
  let runner ← Talk.ofExcept (redirect.runner settings)
  let first ← runner.await token statementId 0
  pure (.paged (.ofResult runner token first settings.hints))

/-- Opens a cursor over a stream; `primary` is asked about its query. -/
def openStream (primary : Runner) (redirect : Redirect) (token : CancelId)
    (settings : CursorSettings) : Talk Cursor :=
  Talk.untilCancelled token do
    let events ← Socket.dial redirect.uri redirect.token settings.sessionId
      settings.handshakeTimeout
    let rows ← StreamCursor.ofEvents (redirect.queryId.map fun id => (id, primary)) token
      settings.hints events
    pure (.streamed rows)

def ofResult (primary : Runner) (token : CancelId) (result : ResultSet)
    (settings : CursorSettings) : Talk Cursor :=
  match result.metadata.redirect with
  | none => pure (.paged (.ofResult primary token result settings.hints))
  | some redirect =>
    match redirect.kind with
    | .resultSet => openPaged redirect token result.statementId settings
    | .streaming | .unknown => openStream primary redirect token settings

end Cursor

end Tributary
