import Tributary.SqlState
import Tributary.Uuid

/-!
# Errors

Everything that can go wrong, by cause, with the wording of each cause and the kind of fault it
counts as. Local faults count as the caller's, whatever their cause.
-/

namespace Tributary

/-- A cell or a row that does not fit its columns. -/
inductive ConversionError where
  | invalidValue (declared value message : String)
  | numericOverflow (value : String)
  | columnCountMismatch (expected actual : Nat)
  deriving DecidableEq, Repr

/-- A fault in the configuration or the life of a connection. -/
inductive ConnectionError where
  | invalidParameter (parameter message : String)
  | unreadable (message : String)
  | missingToken
  | closed
  | bad (message : String)
  deriving DecidableEq, Repr

/-- A fault in moving messages. -/
inductive TransportError where
  | http (message : String)
  | socket (message : String)
  | serialization (message : String)
  | deserialization (message : String)
  | send (message : String)
  | receive (message : String)
  | invalidResponse (message : String)
  | timeout (milliseconds : Nat)
  deriving DecidableEq, Repr

/-- What the query engine says about a statement that did not succeed. -/
structure SqlError where
  code : SqlState
  message : String
  statementId : Option Uuid
  deriving DecidableEq

inductive Error where
  | client (message : String)
  | server (message : String)
  | authentication (message : String)
  | deadlineExceeded (message : String)
  | serviceUnavailable (message : String)
  | sql (error : SqlError)
  | protocol (message : String)
  | cancelled
  | connection (error : ConnectionError)
  | conversion (error : ConversionError)
  | transport (error : TransportError)
  deriving DecidableEq

inductive ErrorKind where
  | client
  | server
  | authentication
  | deadline
  | unavailable
  | sql
  | protocol
  | cancelled
  deriving DecidableEq, Repr

def ErrorKind.word : ErrorKind → String
  | .client => "CLIENT"
  | .server => "SERVER"
  | .authentication => "AUTHENTICATION"
  | .deadline => "DEADLINE"
  | .unavailable => "UNAVAILABLE"
  | .sql => "SQL"
  | .protocol => "PROTOCOL"
  | .cancelled => "CANCELLED"

namespace ConversionError

/-- A row of the wrong width is the caller's fault; a cell is the server's. -/
def kind : ConversionError → ErrorKind
  | .columnCountMismatch _ _ => .client
  | _ => .protocol

def message : ConversionError → String
  | .invalidValue declared value message =>
    "Failed to decode '" ++ value ++ "' as " ++ declared ++ ": " ++ message
  | .numericOverflow value => "Numeric overflow decoding '" ++ value ++ "'"
  | .columnCountMismatch expected actual =>
    "number of columns does not match size of result slice. " ++
      s!"expected {expected}, got {actual}"

end ConversionError

def ConnectionError.message : ConnectionError → String
  | .invalidParameter parameter message =>
    "Invalid connection parameter '" ++ parameter ++ "': " ++ message
  | .unreadable message => "Failed to parse connection string: " ++ message
  | .missingToken => "no api token provided"
  | .closed => "Connection is closed"
  | .bad message => "bad connection: " ++ message

namespace TransportError

/-- A message of the wrong shape is the server's fault; all else counts as local. -/
def kind : TransportError → ErrorKind
  | .deserialization _ | .invalidResponse _ => .protocol
  | _ => .client

def message : TransportError → String
  | .http message => "unable to send request to server: " ++ message
  | .socket message => "WebSocket error: " ++ message
  | .serialization message => "Serialization error: " ++ message
  | .deserialization message => "Deserialization error: " ++ message
  | .send message => "Failed to send message: " ++ message
  | .receive message => "unable to read message from server: " ++ message
  | .invalidResponse message => "Invalid server response: " ++ message
  | .timeout milliseconds => s!"Connection timeout after {milliseconds}ms"

end TransportError

namespace Error

def kind : Error → ErrorKind
  | .client _ => .client
  | .server _ => .server
  | .authentication _ => .authentication
  | .deadlineExceeded _ => .deadline
  | .serviceUnavailable _ => .unavailable
  | .sql _ => .sql
  | .protocol _ => .protocol
  | .cancelled => .cancelled
  | .connection _ => .client
  | .conversion e => e.kind
  | .transport e => e.kind

def message : Error → String
  | .client message => message
  | .server message => message
  | .authentication message => message ++ ": error while authenticating with server"
  | .deadlineExceeded message => message ++ ": deadline exceeded"
  | .serviceUnavailable message => message ++ ": service temporarily unavailable"
  | .sql e => e.message
  | .protocol message => "Protocol error: " ++ message
  | .cancelled => "Operation cancelled"
  | .connection e => e.message
  | .conversion e => e.message
  | .transport e => e.message

def isCancelled : Error → Bool
  | .cancelled => true
  | _ => false

end Error

end Tributary
