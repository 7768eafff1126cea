import Tributary.Service.Http

/-!
# Questions to a service

What the client asks of a service, and the request over HTTP that asks it. The paths of requests
are appended to the base of the service; the answer to a question for the status holds the rows of
the part that is asked for, once the statement has completed.
-/

namespace Tributary

open Text

/-- What the client asks of a service. -/
inductive Question where
  | submit (body : StatementBody) (attachments : List Attachment)
  | status (statementId : Uuid) (part : Int) (sessionId : Option String)
  | version
  | download (type : ResourceType) (organization : Uuid) (name : String)
  deriving DecidableEq

namespace Question

/-- What is appended to the base of the service. -/
def path : Question → String
  | .submit _ _ => "/statements"
  | .status statementId _ _ => "/statements/" ++ statementId.toString
  | .version => "/version"
  | .download type organization name =>
    "/download/" ++ type.word ++ "/" ++ organization.toString ++ "/" ++
      percentComponent name

def pairs : Question → List (String × String)
  | .status _ part sessionId =>
    [("partitionID", String.ofList (Integer.text part)), ("timezone", "UTC")] ++
      sessionId.toList.map fun id => ("sessionID", id)
  | _ => []

def method : Question → HttpMethod
  | .submit body attachments =>
    .post (.request body.json.toString :: attachments.map FormPart.attachment)
  | _ => .get

def request (q : Question) (base token : String) (maintenance : Bool) :
    Except TransportError HttpRequest :=
  HttpRequest.build q.method (base ++ q.path) q.pairs token maintenance

end Question

end Tributary
