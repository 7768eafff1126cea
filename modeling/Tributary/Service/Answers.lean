import Tributary.Service.Question

/-!
# Answers of services

What the peers are still going to answer, in order. Answers to the background lookups of failed
streams may be kept apart from the answers to all other submissions.
-/

namespace Tributary

open Text

/-- An operation that a caller can cancel, by number. -/
abbrev CancelId := Nat

/-- An answer of a peer. A caller may cancel an operation while it is on its way. -/
structure Served (α : Type) where
  answer : α
  cancels : List CancelId := []

structure StatementAnswers (α : Type) where
  submit : List (Served α) := []
  status : List (Served α) := []
  lookup : Option (List (Served α)) := none

structure DirectAnswers where
  statements : StatementAnswers (Except Error Reply) := {}
  version : List (Served (Except Error Version)) := []
  download : List (Served (Except Error DownloadReply)) := []

structure HttpAnswers where
  statements : StatementAnswers HttpAnswer := {}
  version : List (Served HttpAnswer) := []
  download : List (Served HttpAnswer) := []
  dataplane : List (Served HttpAnswer) := []

def takeServed : List (Served α) → Option (Served α) × List (Served α)
  | [] => (none, [])
  | s :: rest => (some s, rest)

namespace StatementAnswers

def takeSubmit (a : StatementAnswers α) (isLookup : Bool) :
    Option (Served α) × StatementAnswers α :=
  if isLookup then
    let (s, rest) := takeServed (a.lookup.getD [])
    (s, { a with lookup := a.lookup.map fun _ => rest })
  else
    let (s, rest) := takeServed a.submit
    (s, { a with submit := rest })

def takeStatus (a : StatementAnswers α) : Option (Served α) × StatementAnswers α :=
  let (s, rest) := takeServed a.status
  (s, { a with status := rest })

def take (a : StatementAnswers α) (q : Question) (isLookup : Bool) :
    Option (Served α) × StatementAnswers α :=
  match q with
  | .submit _ _ => a.takeSubmit isLookup
  | _ => a.takeStatus

def remaining (a : StatementAnswers α) : Nat :=
  a.submit.length + a.status.length + (a.lookup.getD []).length

end StatementAnswers

namespace HttpAnswers

/-- What a service answers that has no more answers. -/
def exhausted : Served HttpAnswer :=
  { answer := .response 599 (utf8Bytes "script exhausted") true }

/-- Takes the answer of a service to a question. A dataplane endpoint has one list of answers to
all questions. -/
def take (a : HttpAnswers) (endpoint : Endpoint) (q : Question) (isLookup : Bool) :
    Served HttpAnswer × HttpAnswers :=
  match endpoint, q with
  | .dataplane, _ =>
    let (s, rest) := takeServed a.dataplane
    (s.getD exhausted, { a with dataplane := rest })
  | .primary, .version =>
    let (s, rest) := takeServed a.version
    (s.getD exhausted, { a with version := rest })
  | .primary, .download _ _ _ =>
    let (s, rest) := takeServed a.download
    (s.getD exhausted, { a with download := rest })
  | .primary, q =>
    let (s, statements) := a.statements.take q isLookup
    (s.getD exhausted, { a with statements })

def remaining (a : HttpAnswers) : Nat :=
  a.statements.remaining + a.version.length + a.download.length + a.dataplane.length

end HttpAnswers

end Tributary
