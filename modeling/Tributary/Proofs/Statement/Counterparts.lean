import Tributary.Proofs.Statement.Completion

/-!
# Runners for the two kinds of endpoints

A runner for the primary service and its counterpart for a dataplane endpoint differ in the endpoint
that they write into the journal, and in nothing else until a reply decides. No call of a service
reads the journal, so the two go through conversations that are alike: they make the same calls, are
told the same and are cancelled at the same place. What decides is the same for both. They take it
for the same result, unless it is a failure with a status that nobody documents.
-/

namespace Tributary

/-! ## The journal is not read -/

/-- A conversation with another journal. -/
def Conversation.withJournal (c : Conversation) (journal : List Entry) : Conversation :=
  { c with journal }

/-- An operation neither reads nor writes the journal. -/
def Talk.Ignores (x : Talk α) : Prop :=
  ∀ (c : Conversation) (journal : List Entry),
    x (c.withJournal journal) = ((x c).1, (x c).2.withJournal journal)

namespace Talk

theorem ignores_ofExcept (r : Except Error α) : Ignores (ofExcept r) := fun _ _ => rfl

theorem Ignores.bind {x : Talk α} {f : α → Talk β} (hx : Ignores x) (hf : ∀ a, Ignores (f a)) :
    Ignores (Talk.bind x f) := by
  intro c journal
  unfold Talk.bind
  rw [hx]
  cases x c with
  | mk r c' =>
      cases r with
      | ok a => exact hf a c' journal
      | error e => rfl

end Talk

namespace Conversation

variable (c : Conversation) (journal : List Entry)

@[simp]
theorem isCancelled_withJournal (id : CancelId) :
    (c.withJournal journal).isCancelled id = c.isCancelled id := rfl

theorem isLookup_withJournal (hasLookups : Bool) (q : Question) :
    (c.withJournal journal).isLookup hasLookups q = c.isLookup hasLookups q := by
  cases q <;> rfl

theorem note_withJournal (isLookup : Bool) (call : Call) :
    (c.withJournal journal).note isLookup call = (c.note isLookup call).withJournal journal := by
  cases isLookup <;> rfl

theorem noteLookup_withJournal (isLookup : Bool) (r : Except Error Reply) :
    (c.withJournal journal).noteLookup isLookup r =
      (c.noteLookup isLookup r).withJournal journal := by
  unfold noteLookup
  split
  · split <;> rfl
  · rfl

theorem cancelAll_withJournal (ids : List CancelId) :
    (c.withJournal journal).cancelAll ids = (c.cancelAll ids).withJournal journal := by
  induction ids generalizing c with
  | nil => rfl
  | cons id ids ih =>
      have hcancel : (c.withJournal journal).cancel id = (c.cancel id).withJournal journal := by
        unfold cancel
        rw [isCancelled_withJournal]
        split <;> rfl
      show ((c.withJournal journal).cancel id).cancelAll ids = _
      rw [hcancel, ih]
      rfl

end Conversation

namespace Service

open Talk (Ignores)

theorem ignores_token (bearer : Bearer) : Ignores (token bearer) := by
  intro c journal
  cases bearer <;> rfl

theorem ignores_deliver (s : Option (Served (Except Error α))) : Ignores (deliver s) := by
  intro c journal
  cases s with
  | none => rfl
  | some s => exact congrArg (Prod.mk s.answer) (c.cancelAll_withJournal journal s.cancels)

theorem ignores_send (q : Question) (isLookup : Bool) (r : HttpRequest) :
    Ignores (send q isLookup r) := by
  intro c journal
  unfold send
  have hpeer : (c.withJournal journal).network.peer? r.url = c.network.peer? r.url := rfl
  rw [hpeer]
  cases c.network.peer? r.url with
  | none => rfl
  | some endpoint =>
      dsimp only
      rw [Conversation.note_withJournal]
      refine congrArg (Prod.mk _) ?_
      exact Conversation.cancelAll_withJournal { c.note _ _ with http := _ } journal _

theorem ignores_exchange (base : String) (bearer : Bearer) (maintenance isLookup : Bool)
    (q : Question) : Ignores (exchange base bearer maintenance isLookup q) :=
  (ignores_token bearer).bind fun _ =>
    (Talk.ignores_ofExcept _).bind fun request => ignores_send q isLookup request

/-- An answer to a question about a statement, and that the statement may belong to a lookup. -/
theorem ignores_noteLookup {x : Talk Reply} (hx : Ignores x) (isLookup : Bool) :
    Ignores fun c => ((x c).1, (x c).2.noteLookup isLookup (x c).1) := by
  intro c journal
  dsimp only
  rw [hx]
  exact congrArg (Prod.mk _) (Conversation.noteLookup_withJournal _ journal isLookup _)

theorem ignores_askStatement (service : Service) (q : Question) :
    Ignores (service.askStatement q) := by
  intro c journal
  cases service with
  | direct =>
      let isLookup := c.isLookup c.direct.statements.lookup.isSome q
      let taken := c.direct.statements.take q isLookup
      have hdeliver := ignores_noteLookup (ignores_deliver taken.1) isLookup
        { c.note isLookup (.direct q) with
          direct := { c.direct with statements := taken.2 } } journal
      unfold askStatement
      dsimp only
      rw [Conversation.isLookup_withJournal, Conversation.note_withJournal]
      exact hdeliver
  | rest base bearer maintenance =>
      let isLookup := c.isLookup c.http.statements.lookup.isSome q
      have hanswer := ignores_noteLookup ((ignores_exchange base bearer maintenance isLookup q).bind
        fun response => Talk.ignores_ofExcept ((Reply.ofResponse response).mapError .transport))
        isLookup c journal
      unfold askStatement
      dsimp only
      rw [Conversation.isLookup_withJournal]
      exact hanswer

end Service

/-! ## Conversations that are alike -/

/-- An entry without the endpoint. -/
def Entry.anywhere : Entry → Entry
  | .asked _ question => .asked .primary question
  | .told _ reply => .told .primary reply
  | .replaced context => .replaced context

/-- Two conversations are the same, but for the endpoints in the journal. -/
structure Conversation.Alike (c c' : Conversation) : Prop where
  same : c' = c.withJournal c'.journal
  journal : c'.journal.map Entry.anywhere = c.journal.map Entry.anywhere

/-- Two operations do the same where conversations are alike. -/
def Talk.Mirrors (x y : Talk α) : Prop :=
  ∀ c c' : Conversation, c.Alike c' → (y c').1 = (x c).1 ∧ (x c).2.Alike (y c').2

namespace Conversation

open Talk (Mirrors)

variable {c c' : Conversation}

theorem alike_refl (c : Conversation) : c.Alike c := ⟨rfl, rfl⟩

/-- Conversations stay alike where the same entry is written for two endpoints. -/
theorem Alike.write (h : c.Alike c') {entry entry' : Entry}
    (hentry : entry'.anywhere = entry.anywhere) : (c.write entry).Alike (c'.write entry') where
  same := by
    rw [h.same]
    rfl
  journal := by
    show (c'.journal ++ [entry']).map _ = (c.journal ++ [entry]).map _
    rw [List.map_append, List.map_append, h.journal, List.map_singleton, List.map_singleton, hentry]

theorem Alike.isCancelled (h : c.Alike c') (id : CancelId) :
    c'.isCancelled id = c.isCancelled id := by
  rw [h.same, isCancelled_withJournal]

theorem Alike.calls (h : c.Alike c') : c'.calls = c.calls := by
  rw [h.same]
  rfl

theorem Alike.lookupCalls (h : c.Alike c') : c'.lookupCalls = c.lookupCalls := by
  rw [h.same]
  rfl

theorem Alike.context (h : c.Alike c') : c'.context = c.context := by
  rw [h.same]
  rfl

/-- What does not read the journal does the same in both conversations. -/
theorem mirrors_of_ignores {x : Talk α} (hx : x.Ignores) (hquiet : Talk.Moves Quiet x) :
    Mirrors x x := by
  intro c c' h
  rw [h.same, hx]
  refine ⟨rfl, rfl, ?_⟩
  show c'.journal.map _ = (x c).2.journal.map _
  rw [(hquiet c).journal, h.journal]

theorem mirrors_guarded {x y : Talk α} (h : Mirrors x y) (service : Service) (id : CancelId) :
    Mirrors (service.guarded id x) (service.guarded id y) := by
  intro c c' halike
  obtain ⟨hresult, hafter⟩ := h c c' halike
  cases service with
  | direct =>
      unfold Service.guarded Talk.unlessCancelled
      dsimp only
      rw [halike.isCancelled]
      split
      next => exact ⟨rfl, halike⟩
      next => exact ⟨hresult, hafter⟩
  | rest base bearer maintenance =>
      unfold Service.guarded Talk.untilCancelled
      dsimp only
      rw [halike.isCancelled, hafter.isCancelled, hresult]
      split
      next => exact ⟨rfl, halike⟩
      next => exact ⟨rfl, hafter⟩

end Conversation

namespace Runner

open Conversation (Alike)

variable {x : Runner} {id : CancelId} {c c' : Conversation}

/-- The runner for an endpoint. -/
def facing (x : Runner) (endpoint : Endpoint) : Runner := { x with endpoint }

/-! ## One exchange -/

theorem mirrors_put (x : Runner) (q : Question) :
    Talk.Mirrors ((x.facing .primary).put q) ((x.facing .dataplane).put q) := by
  intro c c' h
  have hwritten : (c.write (.asked .primary q)).Alike (c'.write (.asked .dataplane q)) :=
    h.write rfl
  exact Conversation.mirrors_of_ignores (Service.ignores_askStatement x.service q)
    (Conversation.quiet_allowsCalls.moves_askStatement x.service q) _ _ hwritten

theorem alike_adopt (h : c.Alike c') (r : ResultSet) :
    ((x.facing .primary).adopt r c).Alike ((x.facing .dataplane).adopt r c') := by
  unfold adopt facing
  dsimp only
  split
  next context =>
    split
    next => exact ⟨by rw [h.same]; rfl, h.journal⟩
    next => exact h
  next => exact h

/-- The same reply is settled in conversations that are alike. -/
theorem alike_settle (h : c.Alike c') (reply : Reply) :
    ((x.facing .primary).settle reply c).2.Alike ((x.facing .dataplane).settle reply c').2 := by
  have hwritten : (c.write (.told .primary reply)).Alike (c'.write (.told .dataplane reply)) :=
    h.write rfl
  cases reply with
  | accepted s => exact hwritten
  | failed status message => exact hwritten
  | completed r =>
      unfold settle
      dsimp only
      split
      next => exact alike_adopt hwritten r
      next => exact hwritten

/-- Entries that leave a statement open: if the last one is a reply, it is a promise. -/
def IsOpen (entries : List Entry) : Prop :=
  ∀ endpoint reply, entries.getLast? = some (.told endpoint reply) → ∃ s, reply = .accepted s

theorem isOpen_append {entries more : List Entry} (h : IsOpen entries) (hmore : IsOpen more) :
    IsOpen (entries ++ more) := by
  intro endpoint reply hlast
  rw [List.getLast?_append] at hlast
  cases hm : more.getLast? with
  | none =>
      rw [hm, Option.none_or] at hlast
      exact h endpoint reply hlast
  | some entry =>
      rw [hm, Option.some_or] at hlast
      exact hmore endpoint reply (hm.trans hlast)

/-- A question that is put, unless the operation is cancelled, is all that is written. -/
theorem journal_guarded_put (x : Runner) (id : CancelId) (q : Question) (c : Conversation) :
    ∃ asked, (x.service.guarded id (x.put q) c).2.journal = c.journal ++ asked ∧ IsOpen asked := by
  rcases x.service.guarded_cases id (x.put q) c with hg | ⟨r, hg⟩
  · rw [hg]
    refine ⟨[], (List.append_nil _).symm, ?_⟩
    rintro endpoint reply ⟨⟩
  · have hquiet := Conversation.quiet_allowsCalls.moves_askStatement x.service q
      (c.write (.asked x.endpoint q))
    rw [hg]
    refine ⟨[.asked x.endpoint q], hquiet.journal, ?_⟩
    rintro endpoint reply ⟨⟩

/-- What comes of an exchange is what an answer decides. -/
def Settles (endpoint : Endpoint) (answer : Except Error Reply) (r : Except Error Progress) :
    Prop :=
  ∃ result, verdict? endpoint answer = some result ∧ r = result.map .done

/-- An answer decides: it is the last reply, or a fault by which the statement is left open. -/
def Decides (entries : List Entry) : Except Error Reply → Prop
  | .ok reply => entries.getLast? = some (.told .primary reply)
  | .error _ => IsOpen entries

theorem Decides.after {answer : Except Error Reply} {entries more : List Entry}
    (h : Decides more answer) (hentries : IsOpen entries) : Decides (entries ++ more) answer := by
  cases answer with
  | error e => exact isOpen_append hentries h
  | ok reply =>
      have hlast : more.getLast? = some (.told .primary reply) := h
      show (entries ++ more).getLast? = some (.told .primary reply)
      rw [List.getLast?_append, hlast]
      rfl

/-- What a runner and its counterpart come to in one exchange, in which some entries are written:
the same promise, or what the same answer decides. -/
structure Paired (entries : List Entry) (r r' : Except Error Progress × Conversation) : Prop where
  alike : r.2.Alike r'.2
  outcome : (∃ s, r.1 = .ok (.pending s) ∧ r'.1 = .ok (.pending s) ∧ IsOpen entries) ∨
    ∃ answer, Settles .primary answer r.1 ∧ Settles .dataplane answer r'.1 ∧
      Decides entries answer

theorem paired_settle (h : c.Alike c') (reply : Reply) (asked : List Entry) :
    Paired (asked ++ [.told .primary reply]) ((x.facing .primary).settle reply c)
      ((x.facing .dataplane).settle reply c') where
  alike := alike_settle h reply
  outcome := by
    rcases settle_verdict (x := x.facing .primary) reply c with ⟨s, rfl, hs⟩ | ⟨r, hr, hs⟩
    · refine .inl ⟨s.statementId, hs, rfl, ?_⟩
      intro endpoint reply hlast
      rw [List.getLast?_concat] at hlast
      cases hlast
      exact ⟨s, rfl⟩
    · rcases settle_verdict (x := x.facing .dataplane) reply c' with ⟨s, rfl, -⟩ | ⟨r', hr', hs'⟩
      · cases hr
      · exact .inr ⟨.ok reply, ⟨r, hr, hs⟩, ⟨r', hr', hs'⟩, List.getLast?_concat⟩

theorem ask_of_guarded_ok {q : Question} {reply : Reply}
    (h : x.service.guarded id (x.put q) c = (.ok reply, c')) :
    x.ask id q c = x.settle reply c' := by
  show Talk.bind (x.service.guarded id (x.put q)) x.settle c = _
  unfold Talk.bind
  rw [h]

theorem ask_of_guarded_error {q : Question} {e : Error}
    (h : x.service.guarded id (x.put q) c = (.error e, c')) : x.ask id q c = (.error e, c') := by
  show Talk.bind (x.service.guarded id (x.put q)) x.settle c = _
  unfold Talk.bind
  rw [h]

theorem paired_ask (x : Runner) (id : CancelId) (h : c.Alike c') (q : Question) : ∃ entries,
    ((x.facing .primary).ask id q c).2.journal = c.journal ++ entries ∧
      Paired entries ((x.facing .primary).ask id q c) ((x.facing .dataplane).ask id q c') := by
  have hmirrors : Talk.Mirrors
      ((x.facing .primary).service.guarded id ((x.facing .primary).put q))
      ((x.facing .dataplane).service.guarded id ((x.facing .dataplane).put q)) :=
    Conversation.mirrors_guarded (mirrors_put x q) x.service id
  obtain ⟨hresult, hafter⟩ := hmirrors c c' h
  obtain ⟨asked, hasked, hopen⟩ := journal_guarded_put (x.facing .primary) id q c
  cases hp : (x.facing .primary).service.guarded id ((x.facing .primary).put q) c with
  | mk answer c₁ =>
      cases hd : (x.facing .dataplane).service.guarded id ((x.facing .dataplane).put q) c' with
      | mk answer' c₁' =>
          rw [hp] at hasked
          rw [hp, hd] at hresult hafter
          obtain rfl : answer' = answer := hresult
          cases answer' with
          | error e =>
              rw [ask_of_guarded_error hp, ask_of_guarded_error hd]
              have hsettles (endpoint : Endpoint) : Settles endpoint (.error e) (.error e) :=
                ⟨.error e, rfl, rfl⟩
              exact ⟨asked, hasked, hafter, .inr ⟨.error e, hsettles _, hsettles _, hopen⟩⟩
          | ok reply =>
              rw [ask_of_guarded_ok hp, ask_of_guarded_ok hd]
              refine ⟨asked ++ [.told .primary reply], ?_, paired_settle hafter reply asked⟩
              rw [← List.append_assoc, ← hasked]
              exact journal_settle _ reply c₁

/-! ## Whole statements -/

/-- What a runner and its counterpart come to is what the same answer decides. -/
structure Counterparts (c : Conversation) (r r' : Except Error ResultSet × Conversation) :
    Prop where
  alike : r.2.Alike r'.2
  outcome : ∃ entries answer, r.2.journal = c.journal ++ entries ∧ Decides entries answer ∧
    verdict? .primary answer = some r.1 ∧ verdict? .dataplane answer = some r'.1

/-- A statement whose first exchange is not the last one. -/
theorem Counterparts.of_open {c₁ : Conversation} {r r' : Except Error ResultSet × Conversation}
    (h : Counterparts c₁ r r') {entries : List Entry} (hentries : c₁.journal = c.journal ++ entries)
    (hopen : IsOpen entries) : Counterparts c r r' := by
  obtain ⟨more, answer, hmore, hdecides, hverdicts⟩ := h.outcome
  refine ⟨h.alike, entries ++ more, answer, ?_, hdecides.after hopen, hverdicts⟩
  rw [hmore, hentries, List.append_assoc]

theorem await_of_settled {statementId : Uuid} {part : Int} {result : Except Error ResultSet}
    (h : x.ask id (.status statementId part x.sessionId) c = (result.map .done, c')) :
    x.await id statementId part c = (result, c') := by
  rw [await_eq, h]
  cases result <;> rfl

theorem await_of_pending {statementId s : Uuid} {part : Int}
    (h : x.ask id (.status statementId part x.sessionId) c = (.ok (.pending s), c')) :
    x.await id statementId part c = x.await id statementId part c' := by
  rw [await_eq, h]

theorem submit_of_settled {request : StatementRequest} {result : Except Error ResultSet}
    (h : x.ask id (.submit (x.body c.context request.statement) request.attachments) c =
      (result.map .done, c')) : x.submit id request c = (result, c') := by
  unfold submit
  dsimp only
  rw [h]
  cases result <;> rfl

theorem submit_of_pending {request : StatementRequest} {s : Uuid}
    (h : x.ask id (.submit (x.body c.context request.statement) request.attachments) c =
      (.ok (.pending s), c')) : x.submit id request c = x.await id s 0 c' := by
  unfold submit
  dsimp only
  rw [h]

/-- Either both are promised the same in an exchange, or it is the whole statement for both. -/
theorem paired_cases (x : Runner) (id : CancelId) (h : c.Alike c') (q : Question) :
    (∃ s entries c₁ c₁', (x.facing .primary).ask id q c = (.ok (.pending s), c₁) ∧
        (x.facing .dataplane).ask id q c' = (.ok (.pending s), c₁') ∧ c₁.Alike c₁' ∧
        c₁.journal = c.journal ++ entries ∧ IsOpen entries) ∨
      ∃ result result' c₁ c₁', (x.facing .primary).ask id q c = (result.map .done, c₁) ∧
        (x.facing .dataplane).ask id q c' = (result'.map .done, c₁') ∧
        Counterparts c (result, c₁) (result', c₁') := by
  obtain ⟨entries, hentries, halike, houtcome⟩ := paired_ask x id h q
  rcases houtcome with ⟨s, hs, hs', hopen⟩ | ⟨answer, hsettles, hsettles', hdecides⟩
  · exact .inl ⟨s, entries, _, _, Prod.ext hs rfl, Prod.ext hs' rfl, halike, hentries, hopen⟩
  · obtain ⟨result, hresult, hr⟩ := hsettles
    obtain ⟨result', hresult', hr'⟩ := hsettles'
    exact .inr ⟨result, result', _, _, Prod.ext hr rfl, Prod.ext hr' rfl, halike,
      entries, answer, hentries, hdecides, hresult, hresult'⟩

theorem counterparts_await (h : c.Alike c') (statementId : Uuid) (part : Int) :
    Counterparts c ((x.facing .primary).await id statementId part c)
      ((x.facing .dataplane).await id statementId part c') := by
  -- Each promise takes one of the answers that are left, so their number goes down.
  induction hn : c.remaining using Nat.strongRecOn generalizing c c' with
  | _ n ih =>
      rcases paired_cases x id h (.status statementId part x.sessionId) with
        ⟨s, entries, c₁, c₁', hask, hask', halike, hentries, hopen⟩ |
        ⟨result, result', c₁, c₁', hask, hask', hall⟩
      · have hrest := ih _ (hn ▸ remaining_lt_of_pending hask) halike rfl
        rw [await_of_pending hask, await_of_pending hask']
        exact hrest.of_open hentries hopen
      · rw [await_of_settled hask, await_of_settled hask']
        exact hall

theorem counterparts_submit (h : c.Alike c') (request : StatementRequest) :
    Counterparts c ((x.facing .primary).submit id request c)
      ((x.facing .dataplane).submit id request c') := by
  have hcontext := h.context
  rcases paired_cases x id h
      (.submit (x.body c.context request.statement) request.attachments) with
    ⟨s, entries, c₁, c₁', hask, hask', halike, hentries, hopen⟩ |
    ⟨result, result', c₁, c₁', hask, hask', hall⟩
  · rw [← hcontext] at hask'
    rw [submit_of_pending hask, submit_of_pending hask']
    exact (counterparts_await halike s 0).of_open hentries hopen
  · rw [← hcontext] at hask'
    rw [submit_of_settled hask, submit_of_settled hask']
    exact hall

/-! ## Where the two differ -/

theorem isDocumentedStatus_iff (status : Nat) :
    isDocumentedStatus status = true ↔ status ∈ [200, 202, 400, 403, 404, 408, 500, 503] :=
  List.contains_iff_mem

/-- Both take an answer for the same, unless it is a failure with a status nobody documents. -/
theorem verdict_dataplane {answer : Except Error Reply}
    (h : ∀ status message, answer = .ok (.failed status message) →
      status ∈ [200, 202, 400, 403, 404, 408, 500, 503]) :
    verdict? .dataplane answer = verdict? .primary answer := by
  cases answer with
  | error e => rfl
  | ok reply =>
      cases reply with
      | accepted s => rfl
      | completed r => rfl
      | failed status message =>
          have hstatus := (isDocumentedStatus_iff status).mpr (h status message rfl)
          show some (Except.error (failure .dataplane status message)) = _
          unfold failure
          dsimp only
          rw [if_pos hstatus]
          rfl

/-- The classes of the undocumented statuses are those of faults of the client. -/
theorem primaryFailure_of_undocumented {status : Nat} (message : String)
    (h : status ∉ [200, 202, 400, 403, 404, 408, 500, 503]) :
    primaryFailure status message =
      .client s!"unexpected response from server. status code: {status}" := by
  have hstatus : ¬ isDocumentedStatus status = true := fun hs =>
    h ((isDocumentedStatus_iff status).mp hs)
  have hclass : StatusClass.ofStatus status = .clientFault := by
    unfold StatusClass.ofStatus
    split <;> simp_all
  unfold primaryFailure
  dsimp only
  rw [if_neg hstatus, hclass]
  rfl

/-- What a failure with an undocumented status is taken for. -/
theorem verdicts_of_undocumented {status : Nat} (message : String)
    (h : status ∉ [200, 202, 400, 403, 404, 408, 500, 503]) :
    verdict? .primary (.ok (.failed status message)) = some (.error (.client
        s!"unexpected response from server. status code: {status}")) ∧
      verdict? .dataplane (.ok (.failed status message)) =
        some (.error (.server "unexpected response")) := by
  have hprimary := primaryFailure_of_undocumented message h
  have hdataplane : failure .dataplane status message = .server "unexpected response" :=
    if_neg fun hs => h ((isDocumentedStatus_iff status).mp hs)
  exact ⟨congrArg (fun e => some (Except.error e)) hprimary,
    congrArg (fun e => some (Except.error e)) hdataplane⟩

/-- The answer that decides is the failure that is told last, if that is what is told last. -/
theorem Decides.eq_failed_iff {entries : List Entry} {answer : Except Error Reply}
    (h : Decides entries answer) (status : Nat) (message : String) :
    answer = .ok (.failed status message) ↔
      entries.getLast? = some (.told .primary (.failed status message)) := by
  cases answer with
  | error e =>
      refine iff_of_false (fun he => nomatch he) fun hlast => ?_
      obtain ⟨s, hs⟩ := h _ _ hlast
      cases hs
  | ok reply =>
      have hlast : entries.getLast? = some (.told .primary reply) := h
      rw [hlast]
      simp

/-- What a runner is asked for: to run a statement, or to get a part of one. -/
inductive Task where
  | submit (request : StatementRequest)
  | await (statementId : Uuid) (part : Int)

/-- Does what the runner is asked for. -/
def perform (x : Runner) (id : CancelId) : Task → Talk ResultSet
  | .submit request => x.submit id request
  | .await statementId part => x.await id statementId part

theorem counterparts_perform (x : Runner) (id : CancelId) (task : Task) (c : Conversation) :
    Counterparts c ((x.facing .primary).perform id task c)
      ((x.facing .dataplane).perform id task c) :=
  match task with
  | .submit request => counterparts_submit (Conversation.alike_refl c) request
  | .await statementId part => counterparts_await (Conversation.alike_refl c) statementId part

/-- A runner for the primary service and its counterpart for a dataplane endpoint make the same
calls and leave the same context. They come to the same result as well, unless the last that is
told is a failure with a status that nobody documents: this is a fault of the client that names the
status for the one, and a fault of the server for the other. -/
theorem endpoints_differ_in_undocumented_faults (x : Runner) (id : CancelId) (task : Task)
    (c : Conversation) :
    let r := (x.facing .primary).perform id task c
    let r' := (x.facing .dataplane).perform id task c
    r'.2.calls = r.2.calls ∧ r'.2.lookupCalls = r.2.lookupCalls ∧ r'.2.context = r.2.context ∧
      ∃ entries, r.2.journal = c.journal ++ entries ∧
        ((∀ status message, entries.getLast? = some (.told .primary (.failed status message)) →
            status ∈ [200, 202, 400, 403, 404, 408, 500, 503]) → r'.1 = r.1) ∧
        ∀ status message, entries.getLast? = some (.told .primary (.failed status message)) →
          status ∉ [200, 202, 400, 403, 404, 408, 500, 503] →
          r.1 = .error (.client s!"unexpected response from server. status code: {status}") ∧
            r'.1 = .error (.server "unexpected response") := by
  intro r r'
  have h : Counterparts c r r' := counterparts_perform x id task c
  obtain ⟨entries, answer, hentries, hdecides, hprimary, hdataplane⟩ := h.outcome
  refine ⟨h.alike.calls, h.alike.lookupCalls, h.alike.context, entries, hentries, ?_, ?_⟩
  · intro hdocumented
    have hverdict := verdict_dataplane fun status message hanswer =>
      hdocumented status message ((hdecides.eq_failed_iff status message).mp hanswer)
    rw [hprimary, hdataplane] at hverdict
    exact Option.some.inj hverdict
  · intro status message hlast hstatus
    obtain rfl := (hdecides.eq_failed_iff status message).mpr hlast
    obtain ⟨hclient, hserver⟩ := verdicts_of_undocumented message hstatus
    rw [hprimary] at hclient
    rw [hdataplane] at hserver
    exact ⟨Option.some.inj hclient, Option.some.inj hserver⟩

/-- A statement that is promised and fails with a status that nobody documents. -/
theorem promised_statement_fails_apart :
    let x : Runner :=
      { service := .direct, keepsContext := false, sessionId := some "s", pollInterval := 0 }
    let c := Conversation.withScripts
      [{ answer := .ok (.accepted { statementId := ⟨List.replicate 32 1, rfl⟩ }) }]
      [{ answer := .ok (.failed 418 "teapot") }]
    let task := Task.submit { statement := "SELECT 1;" }
    ((x.facing .primary).perform 0 task c).1 =
        .error (.client "unexpected response from server. status code: 418") ∧
      ((x.facing .dataplane).perform 0 task c).1 = .error (.server "unexpected response") := by
  intro x c task
  let statementId : Uuid := ⟨List.replicate 32 1, rfl⟩
  let c₁ := ((x.facing .primary).ask 0 (.submit (x.body {} "SELECT 1;") []) c).2
  let c₂ := ((x.facing .primary).ask 0 (.status statementId 0 (some "s")) c₁).2
  obtain ⟨-, -, -, entries, hentries, -, hfaults⟩ :=
    endpoints_differ_in_undocumented_faults x 0 task c
  have hpromise : (x.facing .primary).submit 0 { statement := "SELECT 1;" } c =
      (x.facing .primary).await 0 statementId 0 c₁ := submit_of_pending (Prod.ext rfl rfl)
  have hfailure : (x.facing .primary).await 0 statementId 0 c₁ =
      (.error (.client "unexpected response from server. status code: 418"), c₂) :=
    await_of_settled (Prod.ext rfl rfl)
  have hjournal : ((x.facing .primary).perform 0 task c).2.journal = c₂.journal :=
    congrArg (fun r => r.2.journal) (hpromise.trans hfailure)
  have hlast : entries.getLast? = some (.told .primary (.failed 418 "teapot")) := by
    obtain rfl : entries = c₂.journal := hentries.symm.trans hjournal
    rfl
  exact hfaults 418 "teapot" hlast (by decide)

end Runner

end Tributary
