import Tributary.Error
import Tributary.Text.Quoted

/-!
# Statements and their attachments

A statement may come with named files. The content of a file is in memory, or is streamed from a
reader into the request.
-/

namespace Tributary

open Text

structure Attachment where
  name : String
  content : List UInt8
  streamed : Bool := false
  deriving DecidableEq, Repr

namespace Attachment

/-- Attaches a file from disk, given its content if it is there. -/
def ofFile (name path : String) : Option (List UInt8) → Except Error Attachment
  | some content => .ok { name, content, streamed := true }
  | none =>
    .error (.client ("error opening attachment " ++ path ++
      ": No such file or directory (os error 2)"))

/-- Shows an attachment, its content by the size only. -/
def shown (a : Attachment) : String :=
  record "Attachment"
    [("name", quoted a.name),
      ("body", quoted (if a.streamed then "<reader>" else s!"{a.content.length} bytes"))]

end Attachment

structure StatementRequest where
  statement : String
  attachments : List Attachment := []
  deriving DecidableEq, Repr

namespace StatementRequest

/-- A statement with attachments, unless one of them could not be opened. -/
def of (statement : String) (attachments : List (Except Error Attachment)) :
    Except Error StatementRequest :=
  (attachments.mapM id).map fun attachments => { statement, attachments }

def shown (r : StatementRequest) : String :=
  record "StatementRequest"
    [("statement", quoted r.statement),
      ("attachments", bracketed (r.attachments.map Attachment.shown))]

end StatementRequest

end Tributary
