import Tributary.Service.Basic

/-!
# Answers run out

Every answer that promises another one is taken from those that are left. So a statement that is
asked for until it completes is asked for finitely often.
-/

namespace Tributary

/-- Taking an answer leaves one less. -/
theorem takeServed_shorter (ss : List (Served α)) :
    (takeServed ss).1 = none ∨ (takeServed ss).2.length < ss.length := by
  cases ss <;> simp [takeServed]

namespace StatementAnswers

theorem takeSubmit_remaining (a : StatementAnswers α) (isLookup : Bool) :
    (a.takeSubmit isLookup).1 = none ∨ (a.takeSubmit isLookup).2.remaining < a.remaining := by
  cases isLookup
  · exact (takeServed_shorter a.submit).imp id fun h => by
      simp only [takeSubmit, remaining, Bool.false_eq_true, if_false]; omega
  · cases hl : a.lookup with
    | none => exact .inl (by simp [takeSubmit, hl, takeServed])
    | some ss =>
      exact (takeServed_shorter ss).imp (by simp [takeSubmit, hl]) fun h => by
        simp only [takeSubmit, remaining, hl, if_true, Option.getD_some, Option.map_some]; omega

theorem takeStatus_remaining (a : StatementAnswers α) :
    a.takeStatus.1 = none ∨ a.takeStatus.2.remaining < a.remaining :=
  (takeServed_shorter a.status).imp id fun h => by
    simp only [takeStatus, remaining]; omega

theorem take_remaining (a : StatementAnswers α) (q : Question) (isLookup : Bool) :
    (a.take q isLookup).1 = none ∨ (a.take q isLookup).2.remaining < a.remaining := by
  cases q with
  | submit _ _ => exact a.takeSubmit_remaining isLookup
  | _ => exact a.takeStatus_remaining

end StatementAnswers

namespace HttpAnswers

/-- A service without answers says so; any other answer is taken. -/
theorem take_remaining (a : HttpAnswers) (endpoint : Endpoint) (q : Question) (isLookup : Bool) :
    (a.take endpoint q isLookup).1 = exhausted ∨
      (a.take endpoint q isLookup).2.remaining < a.remaining := by
  have exhausts {s : Option (Served HttpAnswer)} (h : s = none) : s.getD exhausted = exhausted := by
    rw [h]; rfl
  cases endpoint with
  | dataplane =>
    exact (takeServed_shorter a.dataplane).imp exhausts fun h => by
      simp only [take, remaining]; omega
  | primary =>
    cases q with
    | version =>
      exact (takeServed_shorter a.version).imp exhausts fun h => by
        simp only [take, remaining]; omega
    | download type organization name =>
      exact (takeServed_shorter a.download).imp exhausts fun h => by
        simp only [take, remaining]; omega
    | submit body attachments =>
      exact (a.statements.take_remaining (.submit body attachments) isLookup).imp exhausts
        fun h => by simp only [take, remaining]; omega
    | status id part sessionId =>
      exact (a.statements.take_remaining (.status id part sessionId) isLookup).imp exhausts
        fun h => by simp only [take, remaining]; omega

end HttpAnswers

namespace Conversation

@[simp] theorem remaining_cancelAll (c : Conversation) (ids : List CancelId) :
    (c.cancelAll ids).remaining = c.remaining := by
  induction ids generalizing c with
  | nil => rfl
  | cons id ids ih =>
    refine (ih (c.cancel id)).trans ?_
    unfold cancel; split <;> rfl

@[simp] theorem remaining_noteLookup (c : Conversation) (isLookup : Bool)
    (r : Except Error Reply) : (c.noteLookup isLookup r).remaining = c.remaining := by
  unfold noteLookup; split <;> (try split) <;> rfl

@[simp] theorem http_note (c : Conversation) (isLookup : Bool) (call : Call) :
    (c.note isLookup call).http = c.http := by
  cases isLookup <;> rfl

@[simp] theorem direct_note (c : Conversation) (isLookup : Bool) (call : Call) :
    (c.note isLookup call).direct = c.direct := by
  cases isLookup <;> rfl

end Conversation

namespace Service

/-- A guarded call that succeeds is the call. -/
theorem eq_of_guarded_ok {service : Service} {id : CancelId} {call : Talk α}
    {c c' : Conversation} {a : α} (h : service.guarded id call c = (.ok a, c')) :
    call c = (.ok a, c') := by
  cases service with
  | direct =>
    simp only [guarded, Talk.unlessCancelled] at h
    split at h
    · cases h
    · exact h
  | rest base bearer maintenance =>
    simp only [guarded, Talk.untilCancelled] at h
    split at h
    · cases h
    · split at h
      next => cases h
      next => exact h

theorem ne_none_of_deliver {s : Option (Served (Except Error α))} {c : Conversation}
    (h : (deliver s c).1 = .ok r) : s ≠ none := by
  rintro rfl; cases h

@[simp] theorem remaining_deliver (s : Option (Served (Except Error α))) (c : Conversation) :
    (deliver s c).2.remaining = c.remaining := by
  cases s <;> simp [deliver]

/-- A response other than that there are no answers has been taken. -/
theorem send_remaining {q : Question} {isLookup : Bool} {r : HttpRequest} {c : Conversation}
    {response : HttpResponse} (h : (send q isLookup r c).1 = .ok response) :
    response.status = 599 ∨ (send q isLookup r c).2.remaining < c.remaining := by
  unfold send at h ⊢
  split at h
  · cases h
  next endpoint hp =>
    simp only at h ⊢
    rcases HttpAnswers.take_remaining
        (c.note (isLookup && endpoint == .primary) (.http endpoint r)).http endpoint q isLookup
      with ht | ht
    · left
      rw [ht] at h
      exact (congrArg HttpResponse.status (Except.ok.inj h)).symm
    · right
      simp only [Conversation.remaining_cancelAll]
      simp only [Conversation.remaining, Conversation.http_note, Conversation.direct_note] at ht ⊢
      omega

/-- The same for a question with its token. -/
theorem exchange_remaining {base : String} {bearer : Bearer} {maintenance isLookup : Bool}
    {q : Question} {c : Conversation} {response : HttpResponse}
    (h : (exchange base bearer maintenance isLookup q c).1 = .ok response) :
    response.status = 599 ∨
      (exchange base bearer maintenance isLookup q c).2.remaining < c.remaining := by
  simp only [exchange, bind, Talk.bind] at h ⊢
  have ht : (token bearer c).2.remaining = c.remaining := by
    cases bearer <;> rfl
  split at h
  next t c' hc =>
    rw [hc] at ht
    split at h
    next request c'' hr =>
      have : c'' = c' := (congrArg Prod.snd hr).symm
      subst this
      rw [← ht]
      exact send_remaining h
    next => cases h
  next => cases h

/-- A question about a statement that is answered by a promise takes an answer. -/
theorem remaining_lt_of_accepted {service : Service} {q : Question} {s : StatementStatus}
    {c : Conversation} (h : (service.askStatement q c).1 = .ok (.accepted s)) :
    (service.askStatement q c).2.remaining < c.remaining := by
  cases service with
  | direct =>
    simp only [askStatement, Conversation.remaining_noteLookup, remaining_deliver] at h ⊢
    rcases c.direct.statements.take_remaining q
        (c.isLookup c.direct.statements.lookup.isSome q) with hk | hk
    · exact absurd hk (ne_none_of_deliver h)
    · simp only [Conversation.remaining, Conversation.http_note]
      omega
  | rest base bearer maintenance =>
    simp only [askStatement, Conversation.remaining_noteLookup, bind, Talk.bind] at h ⊢
    split at h
    next response c' hc =>
      rcases exchange_remaining (congrArg Prod.fst hc) with hexhausted | hlt
      · obtain ⟨status, body, complaint⟩ := response
        obtain rfl : status = 599 := hexhausted
        cases h
      · rw [hc] at hlt
        exact hlt
    next => cases h

end Service

end Tributary

