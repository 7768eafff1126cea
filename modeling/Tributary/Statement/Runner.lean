import Tributary.Params.Duration
import Tributary.Service.Progress

/-!
# Running statements

A statement is submitted once. It either completes at once or is promised, and then it is asked
for until it completes; a result is a success by its status code alone. A runner that keeps the
context sends it with every statement and takes over the context of every success.
-/

namespace Tributary

/-- How statements are run: by which service, in which session, and whose faults the faults of the
service are. -/
structure Runner where
  service : Service
  keepsContext : Bool
  sessionId : Option String
  pollInterval : Duration
  endpoint : Endpoint := .primary
  deriving DecidableEq

/-- What a reply about a statement comes to, unless it is a fault. -/
inductive Progress where
  | done (result : ResultSet)
  | pending (statementId : Uuid)
  deriving DecidableEq

namespace Runner

/-- The body of a statement, in the context of the conversation if the runner keeps it. -/
def body (x : Runner) (context : Context) (statement : String) : StatementBody :=
  .inContext (if x.keepsContext then context else {}) statement x.sessionId

/-- Takes over the context of a success. -/
def adopt (x : Runner) (result : ResultSet) (c : Conversation) : Conversation :=
  match result.metadata.context with
  | some context => if x.keepsContext then { c with context } else c
  | none => c

def put (x : Runner) (q : Question) : Talk Reply := fun c =>
  x.service.askStatement q (c.write (.asked x.endpoint q))

def settle (x : Runner) (reply : Reply) : Talk Progress := fun c =>
  let c := c.write (.told x.endpoint reply)
  match reply with
  | .completed r =>
    if r.sqlState.isSuccess then (.ok (.done r), x.adopt r c)
    else (.error (.sql ⟨r.sqlState, r.message.getD "", some r.statementId⟩), c)
  | .accepted s => (.ok (.pending s.statementId), c)
  | .failed status message => (.error (failure x.endpoint status message), c)

/-- Asks about a statement, unless the operation is cancelled. -/
def ask (x : Runner) (id : CancelId) (q : Question) : Talk Progress := do
  let reply ← x.service.guarded id (x.put q)
  x.settle reply

/-- Being put off takes an answer of the service. -/
theorem remaining_lt_of_pending {x : Runner} {id : CancelId} {q : Question} {s : Uuid}
    {c c' : Conversation} (h : x.ask id q c = (.ok (.pending s), c')) :
    c'.remaining < c.remaining := by
  simp only [ask, bind, Talk.bind] at h
  split at h
  next reply c₁ hg =>
    have hp : x.put q c = (.ok reply, c₁) := Service.eq_of_guarded_ok hg
    cases reply with
    | completed r =>
      simp only [settle] at h
      split at h <;> cases h
    | failed status message => cases h
    | accepted promise =>
      have hc : c₁.write (.told x.endpoint (.accepted promise)) = c' := congrArg Prod.snd h
      subst hc
      have := Service.remaining_lt_of_accepted (congrArg Prod.fst hp)
      rw [show x.service.askStatement q (c.write (.asked x.endpoint q)) = _ from hp] at this
      exact this
  next => cases h

def await (x : Runner) (id : CancelId) (statementId : Uuid) (part : Int) : Talk ResultSet :=
  fun c =>
    match _h : x.ask id (.status statementId part x.sessionId) c with
    | (.ok (.done r), c') => (.ok r, c')
    | (.ok (.pending _), c') => x.await id statementId part c'
    | (.error e, c') => (.error e, c')
termination_by c => c.remaining
decreasing_by exact remaining_lt_of_pending _h

/-- Waiting for a statement is asking for it, and again as long as it is pending. -/
theorem await_eq (x : Runner) (id : CancelId) (statementId : Uuid) (part : Int)
    (c : Conversation) :
    x.await id statementId part c =
      match x.ask id (.status statementId part x.sessionId) c with
      | (.ok (.done r), c') => (.ok r, c')
      | (.ok (.pending _), c') => x.await id statementId part c'
      | (.error e, c') => (.error e, c') := by
  rw [await]
  split <;> simp only [*]

def submit (x : Runner) (id : CancelId) (request : StatementRequest) : Talk ResultSet := fun c =>
  let body := x.body c.context request.statement
  match x.ask id (.submit body request.attachments) c with
  | (.ok (.done r), c') => (.ok r, c')
  | (.ok (.pending statementId), c') => x.await id statementId 0 c'
  | (.error e, c') => (.error e, c')

def shown (x : Runner) : String :=
  Text.record "StatementExecutor"
    [("session_id", Text.optional Text.quoted x.sessionId), ("poll_interval", x.pollInterval.shown),
      ("updates_context", Text.truth x.keepsContext),
      ("dataplane", Text.truth (x.endpoint = .dataplane))]

end Runner

end Tributary
