import Tributary.Proofs.Client.Runs
import Tributary.Proofs.Cursor.Requests

/-!
# A token for each request

The source of tokens is asked once for each question that a connection sends to its service over
HTTP, and the request carries the answer. Dataplane endpoints are asked with the token of their
redirect, and the source is left alone. A token that is refused is the end of what is done: no
request is made, and the outcome tells of the refusal, unless a stream only looks up an error.
-/

namespace Tributary

open Conversation (Sends Sent)
open Talk (Heeds)

/-! ## One question -/

namespace Sending

end Sending

/-! ## Operations of a connection -/

namespace Connection

variable {k : Connection}

variable (id : CancelId)

end Connection

/-! ## Runs -/

/-- What an action makes of a refusal. -/
def Action.makes : Action → Error → Error
  | .ping _, e => Connection.pingError e
  | .download _ _ _ _, e => Connection.downloadError e
  | _, e => e

namespace Session

end Session

end Tributary
