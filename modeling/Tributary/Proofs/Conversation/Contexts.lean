import Tributary.Proofs.Conversation.Turns

/-!
# The context follows the journal

The journal of a conversation says who has written the context: the caller, who sets it, and the
primary service, whose successes may carry one. The context is what the last of them wrote, as a
whole, and every statement that is submitted to the primary service carries the context of that
moment. Each turn keeps this law, since it is kept by each of the entries that a turn writes.
-/

namespace Tributary

/-! ## Writes -/

/-- The context that an entry writes, if it writes one. -/
def Entry.written? : Entry → Option Context
  | .replaced context => some context
  | .told .primary (.completed r) =>
    if r.sqlState.code = "00000" then r.metadata.context else none
  | _ => none

/-- The context that was written last; it is empty if there was none. -/
def latest (journal : List Entry) : Context :=
  (journal.filterMap Entry.written?).getLastD {}

theorem latest_append (journal : List Entry) (entry : Entry) :
    latest (journal ++ [entry]) = entry.written?.getD (latest journal) := by
  unfold latest
  rw [List.filterMap_append]
  cases h : entry.written? with
  | none =>
      rw [List.filterMap_cons_none h, List.filterMap_nil, List.append_nil]
      rfl
  | some context =>
      rw [List.filterMap_cons_some h, List.filterMap_nil, List.getLastD_concat]
      rfl

/-- A body carries the six fields of a context. -/
structure StatementBody.Carries (body : StatementBody) (context : Context) : Prop where
  organization : body.organization = context.organization.map Uuid.toString
  role : body.role = context.role
  database : body.database = context.database
  schema : body.schema = context.schema
  store : body.store = context.store
  computePool : body.computePool = context.computePool

namespace Conversation

/-- The law of contexts. -/
structure Lawful (c : Conversation) : Prop where
  context : c.context = latest c.journal
  bodies : ∀ before body attachments after,
    c.journal = before ++ .asked .primary (.submit body attachments) :: after →
      body.Carries (latest before)

/-- The law is kept by one more entry that has written its context, and whose body, if it is a
statement for the primary service, carries the context of before. -/
theorem Lawful.append {c c' : Conversation} {entry : Entry} (h : c.Lawful)
    (hjournal : c'.journal = c.journal ++ [entry])
    (hcontext : c'.context = entry.written?.getD c.context)
    (hbody : ∀ body attachments, entry = .asked .primary (.submit body attachments) →
      body.Carries c.context) : c'.Lawful := by
  constructor
  · rw [hcontext, hjournal, latest_append, h.context]
  · intro before body attachments after hsplit
    rw [hjournal] at hsplit
    rcases List.eq_nil_or_concat after with rfl | ⟨after, last, rfl⟩
    · -- The entry is the last one, so all others come before it.
      obtain ⟨hbefore, hentry⟩ := List.append_inj' hsplit rfl
      rw [← hbefore, ← h.context]
      exact hbody body attachments (List.singleton_inj.mp hentry)
    · rw [List.concat_eq_append, ← List.cons_append, ← List.append_assoc] at hsplit
      exact h.bodies before body attachments after (List.append_inj' hsplit rfl).1

theorem Lawful.of_quiet {c c' : Conversation} (h : c.Lawful) (hquiet : Quiet c c') :
    c'.Lawful := by
  constructor
  · rw [hquiet.context, hquiet.journal, h.context]
  · rw [hquiet.journal]
    exact h.bodies

theorem Lawful.setContext {c : Conversation} (h : c.Lawful) (context : Context) :
    (c.setContext context).Lawful :=
  h.append rfl rfl fun _ _ hentry => nomatch hentry

end Conversation

/-! ## Exchanges -/

namespace Runner

/-- A runner keeps the context just when it talks to the primary service. -/
def Proper (x : Runner) : Prop := x.keepsContext = true ↔ x.endpoint = .primary

/-- Settling a reply adopts the context that the reply writes. -/
theorem context_settle {x : Runner} (hx : x.Proper) (reply : Reply) (c : Conversation) :
    (x.settle reply c).2.context =
      (Entry.told x.endpoint reply).written?.getD c.context := by
  cases reply with
  | accepted s =>
      cases x.endpoint <;> rfl
  | failed status message =>
      cases x.endpoint <;> rfl
  | completed r =>
      have hcode := r.sqlState.isSuccess_iff
      unfold settle adopt
      dsimp only
      cases hendpoint : x.endpoint with
      | primary =>
          rw [hx.mpr hendpoint]
          unfold Entry.written?
          dsimp only
          by_cases hsuccess : r.sqlState.isSuccess = true
          · rw [if_pos hsuccess, if_pos (hcode.mp hsuccess)]
            cases r.metadata.context <;> rfl
          · rw [if_neg hsuccess, if_neg fun h => hsuccess (hcode.mpr h)]
            rfl
      | dataplane =>
          -- Whatever the reply says of a context, this runner does not take it over.
          have hkeeps : x.keepsContext = false := by
            rw [Bool.eq_false_iff]
            intro h
            rw [hx.mp h] at hendpoint
            cases hendpoint
          rw [hkeeps]
          by_cases hsuccess : r.sqlState.isSuccess = true
          · rw [if_pos hsuccess]
            cases r.metadata.context <;> rfl
          · rw [if_neg hsuccess]
            rfl

theorem carries_body {x : Runner} (hx : x.Proper) (hprimary : x.endpoint = .primary)
    (context : Context) (statement : String) : (x.body context statement).Carries context := by
  unfold body
  rw [if_pos (hx.mpr hprimary)]
  exact ⟨rfl, rfl, rfl, rfl, rfl, rfl⟩

/-- An exchange keeps the law, if what it submits carries the context. -/
theorem lawful_ask {x : Runner} (hx : x.Proper) {q : Question} {c : Conversation}
    (hq : ∀ body attachments, q = .submit body attachments → x.endpoint = .primary →
      body.Carries c.context) (h : c.Lawful) (id : CancelId) : (x.ask id q c).2.Lawful := by
  -- The question is written down first; the call leaves context and journal alone.
  have hasked : (c.write (.asked x.endpoint q)).Lawful := by
    refine h.append rfl rfl fun body attachments hentry => ?_
    injection hentry with hendpoint hquestion
    exact hq body attachments hquestion hendpoint
  rcases x.ask_cases id q c with ha | ⟨c₁, hquiet, ⟨e, ha⟩ | ⟨reply, ha⟩⟩
  · rw [ha]
    exact h
  · rw [ha]
    exact hasked.of_quiet hquiet
  · rw [ha]
    apply (hasked.of_quiet hquiet).append (x.journal_settle reply c₁) (context_settle hx reply c₁)
    intro body attachments hentry
    cases hentry

end Runner

/-! ## Turns -/

namespace Conversation

/-- The journal goes on, and nothing in it is by the caller. -/
def Grows (c c' : Conversation) : Prop :=
  ∃ entries, c'.journal = c.journal ++ entries ∧ ∀ context, .replaced context ∉ entries

instance : IsPreorder Conversation Grows where
  refl c := ⟨[], (List.append_nil _).symm, fun _ => List.not_mem_nil⟩
  trans a b c := by
    rintro ⟨entries, hentries, hnone⟩ ⟨more, hmore, hnone'⟩
    refine ⟨entries ++ more, ?_, ?_⟩
    · rw [hmore, hentries, List.append_assoc]
    · intro context hmem
      rcases List.mem_append.mp hmem with hmem | hmem
      · exact hnone context hmem
      · exact hnone' context hmem

theorem Quiet.grows {c c' : Conversation} (h : Quiet c c') : Grows c c' :=
  ⟨[], by rw [h.journal, List.append_nil], fun _ => List.not_mem_nil⟩

theorem grows_of_append {c c' : Conversation} {entry : Entry}
    (h : c'.journal = c.journal ++ [entry]) (hentry : ∀ context, entry ≠ .replaced context) :
    Grows c c' :=
  ⟨[entry], h, fun context hmem => hentry context (List.mem_singleton.mp hmem).symm⟩

end Conversation

open Conversation (Grows Quiet Turn Turns)

theorem Runner.grows_ask (x : Runner) (id : CancelId) (q : Question) :
    Talk.Moves Grows (x.ask id q) := by
  intro c
  have hasked : Grows c (c.write (.asked x.endpoint q)) :=
    Conversation.grows_of_append rfl fun _ h => nomatch h
  rcases x.ask_cases id q c with ha | ⟨c₁, hquiet, ⟨e, ha⟩ | ⟨reply, ha⟩⟩
  · rw [ha]
    exact refl_of Grows c
  · rw [ha]
    exact trans_of Grows hasked hquiet.grows
  · rw [ha]
    exact trans_of Grows (trans_of Grows hasked hquiet.grows)
      (Conversation.grows_of_append (x.journal_settle reply c₁) fun _ h => nomatch h)

variable {runs : Runner → Prop} {c c' : Conversation}

/-- A turn without a runner leaves the context and the journal alone. -/
theorem Conversation.Turn.cases_quiet (h : Turn runs c c') :
    Quiet c c' ∨ (∃ x id, ∃ request : StatementRequest, runs x ∧ c' = (x.ask id
        (.submit (x.body c.context request.statement) request.attachments) c).2) ∨
      ∃ x id statementId part, runs x ∧
        c' = (x.ask id (.status statementId part x.sessionId) c).2 := by
  cases h with
  | submitted hx id request => exact .inr (.inl ⟨_, id, request, hx, rfl⟩)
  | polled hx id statementId part => exact .inr (.inr ⟨_, id, statementId, part, hx, rfl⟩)
  | askedVersion service id =>
      exact .inl ((Conversation.quiet_allowsCalls.moves_version service).guarded service id c)
  | downloaded service id type organization name =>
      exact .inl ((Conversation.quiet_allowsCalls.moves_download service type organization
        name).guarded service id c)
  | dialled uri token sessionId timeout =>
      exact .inl (Conversation.quiet_allowsCalls.moves_dial uri token sessionId timeout c)

theorem Conversation.Turn.lawful (hruns : ∀ x, runs x → x.Proper) (h : Turn runs c c')
    (hc : c.Lawful) : c'.Lawful := by
  rcases h.cases_quiet with hquiet | ⟨x, id, request, hx, rfl⟩ | ⟨x, id, statementId, part, hx, rfl⟩
  · exact hc.of_quiet hquiet
  · refine Runner.lawful_ask (hruns x hx) ?_ hc id
    rintro body attachments ⟨⟩ hprimary
    exact Runner.carries_body (hruns x hx) hprimary c.context request.statement
  · refine Runner.lawful_ask (hruns x hx) ?_ hc id
    rintro body attachments ⟨⟩

theorem Conversation.Turn.grows (h : Turn runs c c') : Grows c c' := by
  rcases h.cases_quiet with hquiet | ⟨x, id, request, hx, rfl⟩ | ⟨x, id, statementId, part, hx, rfl⟩
  · exact hquiet.grows
  · exact x.grows_ask id _ c
  · exact x.grows_ask id _ c

theorem Conversation.Turns.lawful (hruns : ∀ x, runs x → x.Proper) (h : Turns runs c c')
    (hc : c.Lawful) : c'.Lawful := by
  induction h with
  | refl => exact hc
  | tail _ hturn ih => exact hturn.lawful hruns ih

theorem Conversation.Turns.grows (h : Turns runs c c') : Grows c c' := by
  induction h with
  | refl => exact refl_of Grows c
  | tail _ hturn ih => exact trans_of Grows ih hturn.grows

end Tributary
