import Tributary.Proofs.Statement.Asking

/-!
# Statements that complete

A service in memory answers from a script. A statement that it accepts is asked for as often as it
is promised again and once more, and the first answer that is not a promise decides what comes of
it. Which questions these are and which answer decides is said here of the script alone; that a
runner asks exactly them and takes exactly that answer is proved by induction on the script.
-/

namespace Tributary

/-! ## Scripts -/

/-- The answers of a service in memory about statements. -/
abbrev Script := List (Served (Except Error Reply))

/-- An answer that only promises another one. -/
def isPromise (s : Served (Except Error Reply)) : Bool :=
  match s.answer with
  | .ok (.accepted _) => true
  | _ => false

/-- What a service in memory says, which fails where its script ends. -/
def answered (s : Option (Served (Except Error Reply))) : Except Error Reply :=
  match s with
  | some s => s.answer
  | none => .error (.client "script exhausted")

/-- What an answer decides; a promise decides nothing. -/
def verdict? (endpoint : Endpoint) : Except Error Reply → Option (Except Error ResultSet)
  | .ok (.accepted _) => none
  | .ok (.completed r) =>
    if r.sqlState.code = "00000" then some (.ok r)
    else some (.error (.sql ⟨r.sqlState, r.message.getD "", some r.statementId⟩))
  | .ok (.failed status message) => some (.error (failure endpoint status message))
  | .error e => some (.error e)

/-- Only the completion of a statement with the code of success decides that there is a result. -/
theorem eq_ok_iff_of_verdict {endpoint : Endpoint} {answer : Except Error Reply}
    {r : Except Error ResultSet} (h : verdict? endpoint answer = some r) (result : ResultSet) :
    r = .ok result ↔ answer = .ok (.completed result) ∧ result.sqlState.code = "00000" := by
  constructor
  · rintro rfl
    unfold verdict? at h
    split at h
    next => cases h
    next r =>
      split at h
      next hcode =>
        cases h
        exact ⟨rfl, hcode⟩
      next => cases h
    next => cases h
    next => cases h
  · rintro ⟨rfl, hcode⟩
    have hr : verdict? endpoint (.ok (.completed result)) = some (.ok result) := if_pos hcode
    rw [hr] at h
    exact (Option.some.inj h).symm

theorem isPromise_iff_verdict (endpoint : Endpoint) (s : Served (Except Error Reply)) :
    isPromise s = true ↔ verdict? endpoint s.answer = none := by
  unfold isPromise verdict?
  constructor
  · intro h
    split at h
    next hs => rw [hs]
    next => cases h
  · intro h
    split at h
    next hs => rw [hs]
    next => split at h <;> cases h
    next => cases h
    next => cases h

/-- An operation that nobody cancels meets a service in memory whose answers about statements are
the two scripts for submissions and for the status. -/
structure Conversation.Scripted (c : Conversation) (id : CancelId) : Prop where
  spares : c.Spares id
  lookup : c.direct.statements.lookup = none
  lookups : c.lookups = []

/-- A conversation that is about to begin, with a service in memory. -/
def Conversation.withScripts (submit status : Script) : Conversation :=
  { tokens := .supplied []
    direct := { statements := { submit, status } } }

theorem Conversation.scripted_withScripts {submit status : Script} {id : CancelId}
    (hsubmit : Spare id submit) (hstatus : Spare id status) :
    (withScripts submit status).Scripted id := by
  have hanswers : (withScripts submit status).direct.statements.Spares id :=
    ⟨hsubmit, hstatus, spare_nil id⟩
  exact ⟨⟨rfl, DirectAnswers.spares_statements hanswers, HttpAnswers.spares_empty id,
    spare_nil id⟩, rfl, rfl⟩

/-- A conversation after some calls, with the answers that they left. -/
structure Conversation.After (id : CancelId) (c : Conversation) (calls : List Call)
    (left : StatementAnswers (Except Error Reply)) (c' : Conversation) : Prop where
  scripted : c'.Scripted id
  calls : c'.calls = c.calls ++ calls
  lookupCalls : c'.lookupCalls = c.lookupCalls
  left : c'.direct.statements = left

namespace Conversation

variable {id : CancelId} {c : Conversation}

theorem Scripted.isLookup (h : c.Scripted id) (q : Question) :
    c.isLookup c.direct.statements.lookup.isSome q = false := by
  unfold Conversation.isLookup
  cases q with
  | submit body attachments => simp [h.lookup]
  | status statementId part sessionId => simp [h.lookups]
  | version => rfl
  | download type organization name => rfl

theorem after_cancelAll {calls : List Call} {left : StatementAnswers (Except Error Reply)}
    {c' : Conversation} (h : c.After id calls left c') {ids : List CancelId} (hid : id ∉ ids) :
    c.After id calls left (c'.cancelAll ids) := by
  induction ids generalizing c' with
  | nil => exact h
  | cons other ids ih =>
      rw [List.mem_cons, not_or] at hid
      refine ih ?_ hid.2
      have hspares := h.scripted.spares.cancel hid.1
      unfold Conversation.cancel at hspares ⊢
      split
      · exact h
      next hother =>
        rw [if_neg hother] at hspares
        exact ⟨⟨hspares, h.scripted.lookup, h.scripted.lookups⟩, h.calls, h.lookupCalls, h.left⟩

theorem After.trans {calls calls' : List Call}
    {left left' : StatementAnswers (Except Error Reply)} {c₁ c₂ : Conversation}
    (h : c.After id calls left c₁) (h' : c₁.After id calls' left' c₂) :
    c.After id (calls ++ calls') left' c₂ := by
  refine ⟨h'.scripted, ?_, h'.lookupCalls.trans h.lookupCalls, h'.left⟩
  rw [h'.calls, h.calls, List.append_assoc]

end Conversation

/-! ## One question -/

namespace Runner

variable {x : Runner} {id : CancelId} {c : Conversation}

/-- A question takes the answer that is next, whatever it is, and is recorded. -/
theorem put_of_scripted (hx : x.service = .direct) (h : c.Scripted id) (q : Question) :
    (x.put q c).1 = answered (c.direct.statements.take q false).1 ∧
      c.After id [.direct q] (c.direct.statements.take q false).2 (x.put q c).2 := by
  -- No question belongs to a background lookup, so the answer is the next one of the script.
  have hlookup : (c.write (.asked x.endpoint q)).isLookup c.direct.statements.lookup.isSome q =
      false := h.isLookup q
  obtain ⟨hserved, hleft⟩ := h.spares.direct.statements.take q false
  have hnolookup : (c.direct.statements.take q false).2.lookup = none := by
    cases q <;> exact h.lookup
  have hafter : c.After id [.direct q] (c.direct.statements.take q false).2
      { (c.write (.asked x.endpoint q)).note false (.direct q) with
        direct := { c.direct with statements := (c.direct.statements.take q false).2 } } :=
    ⟨⟨⟨h.spares.going, ⟨hleft, h.spares.direct.version, h.spares.direct.download⟩,
        h.spares.http, h.spares.sockets⟩, hnolookup, h.lookups⟩, rfl, rfl, rfl⟩
  have hput : x.put q c =
      let d := Service.deliver (c.direct.statements.take q false).1
        { (c.write (.asked x.endpoint q)).note false (.direct q) with
          direct := { c.direct with statements := (c.direct.statements.take q false).2 } }
      (d.1, d.2.noteLookup false d.1) := by
    show x.service.askStatement q _ = _
    rw [hx]
    unfold Service.askStatement
    dsimp only [Conversation.write] at hlookup ⊢
    rw [hlookup]
  rw [hput]
  dsimp only
  have hnote (r : Except Error Reply) (c : Conversation) : c.noteLookup false r = c := by
    unfold Conversation.noteLookup
    split <;> rfl
  rw [hnote]
  cases hs : (c.direct.statements.take q false).1 with
  | none => exact ⟨rfl, hafter⟩
  | some s =>
      rw [hs] at hserved
      exact ⟨rfl, Conversation.after_cancelAll hafter (hserved s (List.mem_singleton_self s))⟩

/-- Settling a reply takes no answer. -/
theorem after_settle {calls : List Call} {left : StatementAnswers (Except Error Reply)}
    {c' : Conversation} (h : c.After id calls left c') (reply : Reply) :
    c.After id calls left (x.settle reply c').2 := by
  obtain ⟨context, journal, hc⟩ := x.snd_settle reply c'
  rw [hc]
  have hs := h.scripted.spares
  exact ⟨⟨⟨hs.going, hs.direct, hs.http, hs.sockets⟩, h.scripted.lookup, h.scripted.lookups⟩,
    h.calls, h.lookupCalls, h.left⟩

/-- A reply that is no promise is settled by its verdict. -/
theorem settle_verdict (reply : Reply) (c : Conversation) :
    (∃ s, reply = .accepted s ∧ (x.settle reply c).1 = .ok (.pending s.statementId)) ∨
      ∃ r, verdict? x.endpoint (.ok reply) = some r ∧
        (x.settle reply c).1 = r.map Progress.done := by
  cases reply with
  | accepted s => exact .inl ⟨s, rfl, rfl⟩
  | failed status message => exact .inr ⟨_, rfl, rfl⟩
  | completed r =>
      right
      have hcode := r.sqlState.isSuccess_iff
      unfold verdict? settle
      dsimp only
      by_cases hsuccess : r.sqlState.isSuccess = true
      · rw [if_pos hsuccess, if_pos (hcode.mp hsuccess)]
        exact ⟨_, rfl, rfl⟩
      · rw [if_neg hsuccess, if_neg fun h => hsuccess (hcode.mpr h)]
        exact ⟨_, rfl, rfl⟩

/-- One exchange by the script: the answer that is next promises another one, or decides. -/
theorem ask_of_scripted (hx : x.service = .direct) (h : c.Scripted id) (q : Question) :
    ∃ c', c.After id [.direct q] (c.direct.statements.take q false).2 c' ∧
      ((∃ s, answered (c.direct.statements.take q false).1 = .ok (.accepted s) ∧
          x.ask id q c = (.ok (.pending s.statementId), c')) ∨
        ∃ r, verdict? x.endpoint (answered (c.direct.statements.take q false).1) = some r ∧
          x.ask id q c = (r.map Progress.done, c')) := by
  obtain ⟨hanswer, hafter⟩ := put_of_scripted hx h q
  rw [ask_of_spares h.spares, ← hanswer]
  unfold Talk.bind
  cases hput : x.put q c with
  | mk r c₁ =>
      rw [hput] at hafter
      cases r with
      | error e => exact ⟨c₁, hafter, .inr ⟨.error e, rfl, rfl⟩⟩
      | ok reply =>
          refine ⟨_, after_settle (x := x) hafter reply, ?_⟩
          rcases settle_verdict (x := x) reply c₁ with ⟨s, rfl, hs⟩ | ⟨r, hr, hs⟩
          · exact .inl ⟨s, rfl, Prod.ext hs rfl⟩
          · exact .inr ⟨r, hr, Prod.ext hs rfl⟩

/-! ## Whole statements -/

/-- The questions for the status that a script calls for, and what the last of them is told. -/
def polling (x : Runner) (statementId : Uuid) (part : Int) (script : Script) :
    List Question × Except Error Reply :=
  (List.replicate ((script.takeWhile isPromise).length + 1)
      (.status statementId part x.sessionId),
    answered (script.dropWhile isPromise).head?)

/-- The questions that a statement takes, and what the last of them is told: the submission, and
if that is accepted, questions for the status under the name that it is accepted with. -/
def protocol (x : Runner) (submission : Question) (submit status : Script) :
    List Question × Except Error Reply :=
  match answered submit.head? with
  | .ok (.accepted s) =>
    let (questions, decision) := x.polling s.statementId 0 status
    (submission :: questions, decision)
  | decision => ([submission], decision)

/-- Waiting for a statement goes through the promises of the script. -/
theorem await_of_scripted (hx : x.service = .direct) (h : c.Scripted id) (statementId : Uuid)
    (part : Int) :
    verdict? x.endpoint (x.polling statementId part c.direct.statements.status).2 =
        some (x.await id statementId part c).1 ∧
      c.After id ((x.polling statementId part c.direct.statements.status).1.map .direct)
        { c.direct.statements with
          status := (c.direct.statements.status.dropWhile isPromise).tail }
        (x.await id statementId part c).2 := by
  induction hscript : c.direct.statements.status generalizing c with
  | nil =>
      obtain ⟨c₁, hafter, hask⟩ := ask_of_scripted hx h (.status statementId part x.sessionId)
      have htake : c.direct.statements.take (.status statementId part x.sessionId) false =
          (none, { c.direct.statements with status := [] }) := by
        simp [StatementAnswers.take, StatementAnswers.takeStatus, takeServed, hscript]
      rw [htake] at hafter hask
      rcases hask with ⟨s, hs, -⟩ | ⟨r, hr, hask⟩
      · cases hs
      · cases hr
        rw [await_eq, hask]
        exact ⟨rfl, hafter⟩
  | cons s rest ih =>
      obtain ⟨c₁, hafter, hask⟩ := ask_of_scripted hx h (.status statementId part x.sessionId)
      have htake : c.direct.statements.take (.status statementId part x.sessionId) false =
          (some s, { c.direct.statements with status := rest }) := by
        simp [StatementAnswers.take, StatementAnswers.takeStatus, takeServed, hscript]
      rw [htake] at hafter hask
      rcases hask with ⟨promise, hs, hask⟩ | ⟨r, hr, hask⟩
      · -- One more promise: the rest of the script decides, and one more question is asked.
        have hpromise : isPromise s = true := by
          unfold isPromise
          rw [show s.answer = .ok (.accepted promise) from hs]
        have hrest : c₁.direct.statements.status = rest := by rw [hafter.left]
        obtain ⟨hverdict, hlast⟩ := ih hafter.scripted hrest
        rw [await_eq, hask]
        unfold polling at hverdict hlast ⊢
        rw [List.takeWhile_cons_of_pos hpromise, List.dropWhile_cons_of_pos hpromise]
        refine ⟨hverdict, ?_⟩
        have hall := hafter.trans hlast
        rw [hafter.left] at hall
        exact hall
      · -- The answer decides, so no promise stands in front of it.
        have hdecides : ¬ isPromise s = true := by
          rw [isPromise_iff_verdict x.endpoint]
          intro hnone
          rw [show verdict? x.endpoint s.answer = some r from hr] at hnone
          cases hnone
        unfold polling
        rw [List.takeWhile_cons_of_neg hdecides, List.dropWhile_cons_of_neg hdecides, await_eq,
          hask]
        cases r with
        | ok result => exact ⟨hr, hafter⟩
        | error e => exact ⟨hr, hafter⟩

/-- Submitting a statement takes one answer to a submission, and after a promise goes on as
waiting for the statement does. -/
theorem submit_of_scripted (hx : x.service = .direct) (h : c.Scripted id)
    (request : StatementRequest) :
    let p := x.protocol
      (.submit (x.body c.context request.statement) request.attachments)
      c.direct.statements.submit c.direct.statements.status
    verdict? x.endpoint p.2 = some (x.submit id request c).1 ∧
      (x.submit id request c).2.calls = c.calls ++ p.1.map .direct ∧
      (x.submit id request c).2.lookupCalls = c.lookupCalls := by
  intro p
  obtain ⟨c₁, hafter, hask⟩ := ask_of_scripted hx h
    (.submit (x.body c.context request.statement) request.attachments)
  have htake : (c.direct.statements.take
      (.submit (x.body c.context request.statement) request.attachments) false).1 =
      c.direct.statements.submit.head? := by
    unfold StatementAnswers.take StatementAnswers.takeSubmit
    cases c.direct.statements.submit <;> rfl
  -- The submission leaves the script for the status as it was.
  have hstatus : c₁.direct.statements.status = c.direct.statements.status := by
    rw [hafter.left]
    rfl
  rw [htake] at hask
  unfold submit
  dsimp only
  rcases hask with ⟨promise, hs, hask⟩ | ⟨r, hr, hask⟩
  · obtain ⟨hverdict, hlast⟩ := await_of_scripted hx hafter.scripted promise.statementId 0
    rw [hstatus] at hverdict hlast
    have hp : p = ((.submit (x.body c.context request.statement) request.attachments) ::
        (x.polling promise.statementId 0 c.direct.statements.status).1,
        (x.polling promise.statementId 0 c.direct.statements.status).2) := by
      simp only [p, protocol, hs]
    rw [hask, hp]
    exact ⟨hverdict, (hafter.trans hlast).calls, (hafter.trans hlast).lookupCalls⟩
  · have hp : p = ([.submit (x.body c.context request.statement) request.attachments],
        answered c.direct.statements.submit.head?) := by
      simp only [p, protocol]
      split
      next s hs =>
        rw [hs] at hr
        cases hr
      next => rfl
    rw [hask, hp]
    cases r with
    | ok result => exact ⟨hr, hafter.calls, hafter.lookupCalls⟩
    | error e => exact ⟨hr, hafter.calls, hafter.lookupCalls⟩

/-- A runner follows the protocol of the script: it makes the calls that the script calls for and
no others, and what comes of the statement is what the last answer decides. It is a result if and
only if that answer completes the statement with the code of success. -/
theorem follows_protocol {x : Runner} (hx : x.service = .direct) {id : CancelId}
    {c : Conversation} (h : c.Scripted id) :
    (∀ request : StatementRequest,
      let p := x.protocol (.submit (x.body c.context request.statement) request.attachments)
        c.direct.statements.submit c.direct.statements.status
      (x.submit id request c).2.calls = c.calls ++ p.1.map .direct ∧
        (x.submit id request c).2.lookupCalls = c.lookupCalls ∧
        verdict? x.endpoint p.2 = some (x.submit id request c).1 ∧
        ∀ result, (x.submit id request c).1 = .ok result ↔
          p.2 = .ok (.completed result) ∧ result.sqlState.code = "00000") ∧
      ∀ statementId part,
        let p := x.polling statementId part c.direct.statements.status
        (x.await id statementId part c).2.calls = c.calls ++ p.1.map .direct ∧
          (x.await id statementId part c).2.lookupCalls = c.lookupCalls ∧
          verdict? x.endpoint p.2 = some (x.await id statementId part c).1 ∧
          ∀ result, (x.await id statementId part c).1 = .ok result ↔
            p.2 = .ok (.completed result) ∧ result.sqlState.code = "00000" := by
  constructor
  · intro request p
    obtain ⟨hverdict, hcalls, hlookups⟩ := submit_of_scripted hx h request
    exact ⟨hcalls, hlookups, hverdict, eq_ok_iff_of_verdict hverdict⟩
  · intro statementId part p
    obtain ⟨hverdict, hafter⟩ := await_of_scripted hx h statementId part
    exact ⟨hafter.calls, hafter.lookupCalls, hverdict, eq_ok_iff_of_verdict hverdict⟩

/-- A statement that is promised under one name and again under another is asked for under the
first name until it completes. -/
theorem promised_statement_completes :
    let first : Uuid := ⟨List.replicate 32 1, rfl⟩
    let second : Uuid := ⟨List.replicate 32 2, rfl⟩
    let result : ResultSet := { statementId := second, sqlState := .named .successfulCompletion }
    let x : Runner :=
      { service := .direct, keepsContext := true, sessionId := some "s", pollInterval := 0 }
    let c := Conversation.withScripts [{ answer := .ok (.accepted { statementId := first }) }]
      [{ answer := .ok (.accepted { statementId := second }) },
        { answer := .ok (.completed result) }]
    let ended := x.submit 0 { statement := "SELECT 1;" } c
    c.Scripted 0 ∧ ended.1 = .ok result ∧
      ended.2.calls = [.direct (.submit (x.body {} "SELECT 1;") []),
        .direct (.status first 0 (some "s")), .direct (.status first 0 (some "s"))] := by
  intro first second result x c ended
  have h : c.Scripted 0 := Conversation.scripted_withScripts (by simp [Spare]) (by simp [Spare])
  obtain ⟨hcalls, -, -, hresult⟩ := (follows_protocol (x := x) rfl h).1 { statement := "SELECT 1;" }
  exact ⟨h, (hresult result).mpr ⟨rfl, rfl⟩, hcalls⟩

end Runner

end Tributary
