import Tributary.Proofs.Conversation.Sparing
import Tributary.Statement.Runner

/-!
# Asking about a statement

What one exchange about a statement can do: it does not take place, because the operation is
cancelled; the question is asked and no reply comes back; or the reply is written down and settled.
Only a success that carries a context can change the context of the conversation.
-/

namespace Tributary

/-- A guarded call is not made, or it leads where the call leads. -/
theorem Service.guarded_cases (service : Service) (id : CancelId) (call : Talk α)
    (c : Conversation) :
    service.guarded id call c = (.error .cancelled, c) ∨
      ∃ r, service.guarded id call c = (r, (call c).2) := by
  cases service with
  | direct =>
      unfold guarded Talk.unlessCancelled
      dsimp only
      split
      · exact .inl rfl
      · exact .inr ⟨_, rfl⟩
  | rest base bearer maintenance =>
      unfold guarded Talk.untilCancelled
      dsimp only
      split
      · exact .inl rfl
      · exact .inr ⟨_, rfl⟩

/-- A guarded call for an operation that is spared is the call. -/
theorem Service.guarded_of_spares (service : Service) {id : CancelId} {call : Talk α}
    (hcall : Talk.Moves (Conversation.Sparing id) call) {c : Conversation} (h : c.Spares id) :
    service.guarded id call c = call c := by
  cases service with
  | direct =>
      unfold guarded Talk.unlessCancelled
      simp only [h.going, Bool.false_eq_true, if_false]
  | rest base bearer maintenance => exact Talk.untilCancelled_of_spares hcall h

namespace Runner

open Conversation (Quiet Sparing)
open Talk (Moves)

/-! ## Settling a reply -/

/-- Settling a reply changes nothing but the context and the journal. -/
theorem snd_settle (x : Runner) (reply : Reply) (c : Conversation) :
    ∃ context journal, (x.settle reply c).2 = { c with context, journal } := by
  unfold settle adopt
  cases reply with
  | completed r =>
      dsimp only
      split
      · split
        · split <;> exact ⟨_, _, rfl⟩
        · exact ⟨_, _, rfl⟩
      · exact ⟨_, _, rfl⟩
  | accepted s => exact ⟨_, _, rfl⟩
  | failed status message => exact ⟨_, _, rfl⟩

theorem journal_settle (x : Runner) (reply : Reply) (c : Conversation) :
    (x.settle reply c).2.journal = c.journal ++ [.told x.endpoint reply] := by
  unfold settle adopt
  cases reply with
  | completed r =>
      dsimp only
      split
      · split
        · split <;> rfl
        · rfl
      · rfl
  | accepted s => rfl
  | failed status message => rfl

theorem context_settle_of_ne_done {x : Runner} {reply : Reply} {c : Conversation}
    (h : ∀ r, (x.settle reply c).1 ≠ .ok (.done r)) :
    (x.settle reply c).2.context = c.context := by
  cases reply with
  | completed r =>
      have hr := h r
      simp only [settle] at hr ⊢
      split at hr
      · exact absurd rfl hr
      next hstate =>
        rw [if_neg hstate]
        rfl
  | accepted s => rfl
  | failed status message => rfl

theorem sparing_settle (id : CancelId) (x : Runner) (reply : Reply) :
    Moves (Sparing id) (x.settle reply) := by
  intro c h
  obtain ⟨context, journal, hsettle⟩ := x.snd_settle reply c
  rw [hsettle]
  exact ⟨h.going, h.direct, h.http, h.sockets⟩

/-! ## One exchange -/

theorem sparing_put (id : CancelId) (x : Runner) (q : Question) :
    Moves (Sparing id) (x.put q) := by
  intro c h
  exact Service.sparing_askStatement id x.service q _ (Conversation.sparing_write id c _ h)

theorem sparing_ask (id other : CancelId) (x : Runner) (q : Question) :
    Moves (Sparing id) (x.ask other q) :=
  ((sparing_put id x q).guarded x.service other).bind (sparing_settle id x)

/-- Asking for an operation that is spared is putting the question and settling the reply. -/
theorem ask_of_spares {x : Runner} {id : CancelId} {c : Conversation} (h : c.Spares id)
    (q : Question) : x.ask id q c = Talk.bind (x.put q) x.settle c := by
  show Talk.bind (x.service.guarded id (x.put q)) x.settle c = _
  unfold Talk.bind
  rw [Service.guarded_of_spares x.service (sparing_put id x q) h]

/-- What an exchange comes to: nothing is asked, no reply comes back, or the reply is settled. -/
theorem ask_cases (x : Runner) (id : CancelId) (q : Question) (c : Conversation) :
    x.ask id q c = (.error .cancelled, c) ∨
      ∃ c₁, Quiet (c.write (.asked x.endpoint q)) c₁ ∧
        ((∃ e, x.ask id q c = (.error e, c₁)) ∨ ∃ reply, x.ask id q c = x.settle reply c₁) := by
  have hquiet := Conversation.quiet_allowsCalls.moves_askStatement x.service q
    (c.write (.asked x.endpoint q))
  have hbind : x.ask id q c = Talk.bind (x.service.guarded id (x.put q)) x.settle c := rfl
  unfold Talk.bind at hbind
  rcases x.service.guarded_cases id (x.put q) c with hg | ⟨r, hg⟩
  · rw [hg] at hbind
    exact .inl hbind
  · rw [hg] at hbind
    refine .inr ⟨_, hquiet, ?_⟩
    cases r with
    | error e => exact .inl ⟨e, hbind⟩
    | ok reply => exact .inr ⟨reply, hbind⟩

/-- An exchange that does not end a statement leaves the context as it was. -/
theorem context_of_ask {x : Runner} {id : CancelId} {q : Question} {c c' : Conversation}
    {r : Except Error Progress} (h : x.ask id q c = (r, c'))
    (hr : ∀ result, r ≠ .ok (.done result)) : c'.context = c.context := by
  rcases x.ask_cases id q c with ha | ⟨c₁, hq, ⟨e, ha⟩ | ⟨reply, ha⟩⟩
  · rw [ha] at h
    cases h
    rfl
  · rw [ha] at h
    cases h
    exact hq.context
  · -- The reply was settled, but not as a success.
    rw [ha] at h
    have hs : (x.settle reply c₁).2.context = c₁.context :=
      context_settle_of_ne_done fun result => by
        rw [h]
        exact hr result
    rw [h] at hs
    exact hs.trans hq.context

/-! ## Whole statements -/

section

variable {R : Conversation → Conversation → Prop} [IsPreorder Conversation R] {x : Runner}
  {id : CancelId}

/-- Waiting for a statement moves a conversation as each question for the status does. -/
theorem moves_await {statementId : Uuid} {part : Int}
    (hask : Moves R (x.ask id (.status statementId part x.sessionId))) :
    Moves R (x.await id statementId part) := by
  intro c
  -- Each promise takes one of the answers that are left, so their number goes down.
  induction hn : c.remaining using Nat.strongRecOn generalizing c with
  | _ n ih =>
      have hfirst := hask c
      rw [await_eq]
      split
      next r c' hc =>
        rw [hc] at hfirst
        exact hfirst
      next s c' hc =>
        rw [hc] at hfirst
        have hlt := remaining_lt_of_pending hc
        exact trans_of R hfirst (ih _ (hn ▸ hlt) c' rfl)
      next e c' hc =>
        rw [hc] at hfirst
        exact hfirst

theorem moves_submit {request : StatementRequest}
    (hsubmit : ∀ c, R c
      (x.ask id (.submit (x.body c.context request.statement) request.attachments) c).2)
    (hask : ∀ statementId, Moves R (x.ask id (.status statementId 0 x.sessionId))) :
    Moves R (x.submit id request) := by
  intro c
  have hfirst := hsubmit c
  unfold submit
  dsimp only
  split
  next r c' hc =>
    rw [hc] at hfirst
    exact hfirst
  next s c' hc =>
    rw [hc] at hfirst
    exact trans_of R hfirst (moves_await (hask s) c')
  next e c' hc =>
    rw [hc] at hfirst
    exact hfirst

end

theorem context_await_of_error {x : Runner} {id : CancelId} {statementId : Uuid} {part : Int}
    {c : Conversation} {e : Error} (h : (x.await id statementId part c).1 = .error e) :
    (x.await id statementId part c).2.context = c.context := by
  -- The error comes from the last exchange; all exchanges before it were promises.
  induction hn : c.remaining using Nat.strongRecOn generalizing c with
  | _ n ih =>
      rw [await_eq] at h ⊢
      split at h
      next r c' hc => cases h
      next s c' hc =>
        have hlt := remaining_lt_of_pending hc
        exact (ih _ (hn ▸ hlt) h rfl).trans (context_of_ask hc (by simp))
      next e' c' hc => exact context_of_ask hc (by simp)

theorem context_submit_of_error {x : Runner} {id : CancelId} {request : StatementRequest}
    {c : Conversation} {e : Error} (h : (x.submit id request c).1 = .error e) :
    (x.submit id request c).2.context = c.context := by
  unfold submit at h ⊢
  dsimp only at h ⊢
  split at h
  next r c' hc => cases h
  next s c' hc => exact (context_await_of_error h).trans (context_of_ask hc (by simp))
  next e' c' hc => exact context_of_ask hc (by simp)

end Runner

end Tributary
