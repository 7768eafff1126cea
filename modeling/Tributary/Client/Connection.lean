import Tributary.Cursor.Opening
import Tributary.Params.ConnectionString

/-!
# Connections

A connection runs statements, one after the other, in a context that it carries along. Nothing is
sent when it is made. Closing it is final for the connection, while its cursors go on.
-/

namespace Tributary

structure ClientInfo where
  name : String := "deltastream-rs"
  version : String := "0.1.0"
  deriving DecidableEq, Repr

/-- What is told of a statement without rows; the service does not count. -/
structure Executed where
  rowsAffected : Int := -1
  lastInsertId : Int := -1
  deriving DecidableEq, Repr

/-- A connection: its parameters, and the service that it talks to. The environment may mark
requests to dataplane endpoints as maintenance. -/
structure Connection where
  params : Params
  service : Service
  maintenance : Bool := false
  closed : Bool := false

/-- What keeps a file from being written: it cannot be opened, or no more than some bytes get
into it. -/
inductive Obstacle where
  | opening (reason : String)
  | writing (reason : String) (room : Nat)
  deriving DecidableEq, Repr

/-- A place for a file: what is in it, if it exists, whether its directory does, and what else
keeps it from being written. -/
structure Destination where
  content : Option (List UInt8) := none
  hasDirectory : Bool := true
  obstacle : Option Obstacle := none
  deriving DecidableEq, Repr

namespace Destination

def hindrance? (d : Destination) : Option String :=
  if d.hasDirectory then
    match d.obstacle with
    | some (.opening reason) => some reason
    | _ => none
  else some "No such file or directory (os error 2)"

/-- Opens the file for writing. It is there then, and empty, whatever it held before. -/
def create (d : Destination) : Except Error Destination :=
  match d.hindrance? with
  | some reason => .error (.client ("error opening file for writing: " ++ reason))
  | none => .ok { d with content := some [] }

/-- Writes at the end of the file. What was written before a fault stays there. -/
def append (d : Destination) (bytes : List UInt8) : Except Error Unit × Destination :=
  let held := d.content.getD []
  match d.obstacle with
  | some (.writing reason room) =>
    (.error (.client ("error writing to file: " ++ reason)),
      { d with content := some (held ++ bytes.take room) })
  | _ => (.ok (), { d with content := some (held ++ bytes) })

/-- Writes a file, in place of what was there. -/
def write (d : Destination) (bytes : List UInt8) : Except Error Unit × Destination :=
  match d.create with
  | .error e => (.error e, d)
  | .ok d => d.append bytes

end Destination

namespace Connection

def serviceOf (params : Params) (bearer : Bearer) (maintenance : Bool) : Except Error Service :=
  ((Server.base params.server).map fun base => .rest base bearer maintenance).mapError .connection

/-- Connects over HTTP; requests carry the tokens of the parameters. -/
def connect (params : Params) (environment : Bool) : Except Error Connection :=
  (serviceOf params .asked false).map fun service =>
    { params, service, maintenance := environment }

def settings (k : Connection) : CursorSettings :=
  { hints := k.params.hints
    sessionId := k.params.sessionId
    pollInterval := k.params.pollInterval
    handshakeTimeout := k.params.handshakeTimeout
    maintenance := k.maintenance }

def runner (k : Connection) : Runner :=
  { service := k.service
    keepsContext := true
    sessionId := k.params.sessionId
    pollInterval := k.params.pollInterval }

def whileOpen (k : Connection) (x : Talk α) : Talk α :=
  if k.closed then Talk.fail (.connection .closed) else x

def query (k : Connection) (token : CancelId) (request : StatementRequest) : Talk Cursor :=
  k.whileOpen do
    let result ← k.runner.submit token request
    Cursor.ofResult k.runner token result k.settings

def execute (k : Connection) (token : CancelId) (request : StatementRequest) : Talk Executed :=
  k.whileOpen do
    let _ ← k.runner.submit token request
    pure {}

def version (k : Connection) (token : CancelId) : Talk Version :=
  k.whileOpen (k.service.guarded token k.service.version)

/-- What a fault in asking for the version says about the connection. -/
def pingError : Error → Error
  | .cancelled => .cancelled
  | e => .connection (.bad e.message)

def ping (k : Connection) (token : CancelId) : Talk Unit := fun c =>
  let (r, c) := k.version token c
  ((r.map fun _ => ()).mapError pingError, c)

/-- The fault of a download that was not answered. -/
def downloadError : Error → Error
  | .transport e => .client ("unable to send request to server: " ++ e.message)
  | e => e

def contentOf : Except Error DownloadReply → Except Error (List UInt8)
  | .ok (.content bytes) => .ok bytes
  | .ok (.failed status message) => .error (primaryFailure status message)
  | .error e => .error (downloadError e)

/-- The content of a resource of the organization in the context. -/
def fetch (k : Connection) (token : CancelId) (type : ResourceType) (name : String) :
    Talk (List UInt8) :=
  k.whileOpen fun c =>
    match c.context.organization with
    | none => (.error (.client "no organization in context"), c)
    | some organization =>
      let (r, c) := k.service.guarded token (k.service.download type organization name) c
      (contentOf r, c)

/-- Downloads a resource into a file, which is left alone unless the content has arrived. -/
def download (k : Connection) (token : CancelId) (type : ResourceType) (name : String)
    (dest : Destination) : Conversation → (Except Error Unit × Destination) × Conversation :=
  fun c =>
    match k.fetch token type name c with
    | (.ok bytes, c) => (dest.write bytes, c)
    | (.error e, c) => ((.error e, dest), c)

def close (k : Connection) : Connection := { k with closed := true }

def shown (k : Connection) : String :=
  Text.record "Connection" [("params", k.params.shown), ("closed", Text.truth k.closed)]

end Connection

end Tributary
