import Tributary.Error

/-!
# Response status codes

What the status of a response says about the request. The primary service and the dataplane
endpoints agree on the documented statuses; of any other, the primary names the status as a fault
of the client, and a dataplane endpoint reports a fault of the server.
-/

namespace Tributary

inductive StatusClass where
  | success
  | pending
  | clientFault
  | serverFault
  | authFault
  | timeout
  | unavailable
  deriving DecidableEq, Repr

namespace StatusClass

def ofStatus (status : Nat) : StatusClass :=
  match status with
  | 200 => .success
  | 202 => .pending
  | 403 => .authFault
  | 408 => .timeout
  | 500 => .serverFault
  | 503 => .unavailable
  | _ => .clientFault

def name : StatusClass → String
  | .success => "Success"
  | .pending => "Pending"
  | .clientFault => "ClientFault"
  | .serverFault => "ServerFault"
  | .authFault => "AuthFault"
  | .timeout => "Timeout"
  | .unavailable => "Unavailable"

def error? (message : String) : StatusClass → Option Error
  | .success | .pending => none
  | .clientFault => some (.client message)
  | .serverFault => some (.server message)
  | .authFault => some (.authentication message)
  | .timeout => some (.deadlineExceeded message)
  | .unavailable => some (.serviceUnavailable message)

end StatusClass

/-- Whether the service documents a status code. -/
def isDocumentedStatus (status : Nat) : Bool :=
  [200, 202, 400, 403, 404, 408, 500, 503].contains status

/-- Which kind of endpoint answered. -/
inductive Endpoint where
  | primary
  | dataplane
  deriving DecidableEq, Repr

/-- The error for a failed response of the primary service. -/
def primaryFailure (status : Nat) (message : String) : Error :=
  let message :=
    if isDocumentedStatus status then message
    else s!"unexpected response from server. status code: {status}"
  ((StatusClass.ofStatus status).error? message).getD (.client message)

def failure (endpoint : Endpoint) (status : Nat) (message : String) : Error :=
  match endpoint with
  | .primary => primaryFailure status message
  | .dataplane =>
    if isDocumentedStatus status then primaryFailure status message
    else .server "unexpected response"

end Tributary
