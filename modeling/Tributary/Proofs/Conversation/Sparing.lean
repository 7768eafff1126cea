import Tributary.Proofs.Conversation.Moves

/-!
# Operations that nobody cancels

A conversation *spares* an operation that is not cancelled and that none of the answers still to
come cancels. No call of a service changes that, so an operation that is spared once is never
cancelled by its own calls.
-/

namespace Tributary

/-! ## Answers that spare an operation -/

/-- None of the answers in a list cancels an operation. -/
def Spare (id : CancelId) (ss : List (Served α)) : Prop := ∀ s ∈ ss, id ∉ s.cancels

/-- No answer about a statement cancels an operation. -/
structure StatementAnswers.Spares (a : StatementAnswers α) (id : CancelId) : Prop where
  submit : Spare id a.submit
  status : Spare id a.status
  lookup : Spare id (a.lookup.getD [])

/-- No answer of a service in memory cancels an operation. -/
structure DirectAnswers.Spares (a : DirectAnswers) (id : CancelId) : Prop where
  statements : a.statements.Spares id
  version : Spare id a.version
  download : Spare id a.download

/-- No answer of a service over HTTP cancels an operation. -/
structure HttpAnswers.Spares (a : HttpAnswers) (id : CancelId) : Prop where
  statements : a.statements.Spares id
  version : Spare id a.version
  download : Spare id a.download
  dataplane : Spare id a.dataplane

/-- An operation is not cancelled, and no answer still to come cancels it. -/
structure Conversation.Spares (c : Conversation) (id : CancelId) : Prop where
  going : c.isCancelled id = false
  direct : c.direct.Spares id
  http : c.http.Spares id
  sockets : Spare id c.sockets

theorem spare_nil (id : CancelId) : Spare id ([] : List (Served α)) :=
  fun _ hs => nomatch hs

/-- A service over HTTP without answers cancels nothing. -/
theorem HttpAnswers.spares_empty (id : CancelId) : ({} : HttpAnswers).Spares id :=
  ⟨⟨spare_nil id, spare_nil id, spare_nil id⟩, spare_nil id, spare_nil id, spare_nil id⟩

/-- Neither does a service in memory that only answers about statements, unless these answers do. -/
theorem DirectAnswers.spares_statements {id : CancelId}
    {statements : StatementAnswers (Except Error Reply)} (h : statements.Spares id) :
    ({ statements } : DirectAnswers).Spares id :=
  ⟨h, spare_nil id, spare_nil id⟩

theorem takeServed_spares {id : CancelId} {ss : List (Served α)} (h : Spare id ss) :
    Spare id (takeServed ss).1.toList ∧ Spare id (takeServed ss).2 := by
  cases ss with
  | nil => exact ⟨h, h⟩
  | cons s rest =>
      refine ⟨?_, fun t ht => h t (List.mem_cons_of_mem s ht)⟩
      intro t ht
      rw [show t = s from List.mem_singleton.mp ht]
      exact h s List.mem_cons_self

namespace StatementAnswers

theorem Spares.takeSubmit {a : StatementAnswers α} {id : CancelId} (h : a.Spares id)
    (isLookup : Bool) :
    Spare id (a.takeSubmit isLookup).1.toList ∧ (a.takeSubmit isLookup).2.Spares id := by
  cases isLookup with
  | false =>
      obtain ⟨hs, hrest⟩ := takeServed_spares h.submit
      exact ⟨hs, hrest, h.status, h.lookup⟩
  | true =>
      obtain ⟨hs, hrest⟩ := takeServed_spares h.lookup
      refine ⟨hs, h.submit, h.status, ?_⟩
      -- Without answers of their own the lookups take none.
      cases hl : a.lookup with
      | none => simp [StatementAnswers.takeSubmit, hl, Spare]
      | some ss => simpa [StatementAnswers.takeSubmit, hl] using hrest

theorem Spares.takeStatus {a : StatementAnswers α} {id : CancelId} (h : a.Spares id) :
    Spare id a.takeStatus.1.toList ∧ a.takeStatus.2.Spares id := by
  obtain ⟨hs, hrest⟩ := takeServed_spares h.status
  exact ⟨hs, h.submit, hrest, h.lookup⟩

theorem Spares.take {a : StatementAnswers α} {id : CancelId} (h : a.Spares id) (q : Question)
    (isLookup : Bool) :
    Spare id (a.take q isLookup).1.toList ∧ (a.take q isLookup).2.Spares id := by
  cases q with
  | submit body attachments => exact h.takeSubmit isLookup
  | status statementId part sessionId => exact h.takeStatus
  | version => exact h.takeStatus
  | download type organization name => exact h.takeStatus

end StatementAnswers

/-- Where a list has no answer, the one that says so may cancel nothing. -/
theorem not_mem_cancels_getD {id : CancelId} {s : Option (Served α)} {d : Served α}
    (hd : d.cancels = []) (h : Spare id s.toList) : id ∉ (s.getD d).cancels := by
  cases s with
  | none => simp [hd]
  | some s => exact h s (List.mem_singleton_self s)

theorem HttpAnswers.Spares.take {a : HttpAnswers} {id : CancelId} (h : a.Spares id)
    (endpoint : Endpoint) (q : Question) (isLookup : Bool) :
    id ∉ (a.take endpoint q isLookup).1.cancels ∧
      (a.take endpoint q isLookup).2.Spares id := by
  cases endpoint with
  | dataplane =>
      obtain ⟨hs, hrest⟩ := takeServed_spares h.dataplane
      exact ⟨not_mem_cancels_getD rfl hs, h.statements, h.version, h.download, hrest⟩
  | primary =>
      cases q with
      | version =>
          obtain ⟨hs, hrest⟩ := takeServed_spares h.version
          exact ⟨not_mem_cancels_getD rfl hs, h.statements, hrest, h.download, h.dataplane⟩
      | download type organization name =>
          obtain ⟨hs, hrest⟩ := takeServed_spares h.download
          exact ⟨not_mem_cancels_getD rfl hs, h.statements, h.version, hrest, h.dataplane⟩
      | submit body attachments =>
          obtain ⟨hs, hrest⟩ := h.statements.take (.submit body attachments) isLookup
          exact ⟨not_mem_cancels_getD rfl hs, hrest, h.version, h.download, h.dataplane⟩
      | status statementId part sessionId =>
          obtain ⟨hs, hrest⟩ := h.statements.take (.status statementId part sessionId) isLookup
          exact ⟨not_mem_cancels_getD rfl hs, hrest, h.version, h.download, h.dataplane⟩

/-! ## Calls spare what their answers spare -/

namespace Conversation

/-- What is spared stays spared. -/
def Sparing (id : CancelId) (c c' : Conversation) : Prop := c.Spares id → c'.Spares id

instance (id : CancelId) : IsPreorder Conversation (Sparing id) where
  refl _ h := h
  trans _ _ _ h h' := h' ∘ h

theorem sparing_note (id : CancelId) (c : Conversation) (isLookup : Bool) (call : Call) :
    Sparing id c (c.note isLookup call) := by
  intro h
  cases isLookup <;> exact ⟨h.going, h.direct, h.http, h.sockets⟩

theorem sparing_write (id : CancelId) (c : Conversation) (entry : Entry) :
    Sparing id c (c.write entry) :=
  fun h => ⟨h.going, h.direct, h.http, h.sockets⟩

theorem sparing_noteLookup (id : CancelId) (c : Conversation) (isLookup : Bool)
    (r : Except Error Reply) : Sparing id c (c.noteLookup isLookup r) := by
  intro h
  unfold noteLookup
  split
  · split <;> exact ⟨h.going, h.direct, h.http, h.sockets⟩
  · exact h

theorem Spares.cancel {c : Conversation} {id other : CancelId} (h : c.Spares id)
    (hne : id ≠ other) : (c.cancel other).Spares id := by
  unfold Conversation.cancel
  split
  · exact h
  · refine ⟨?_, h.direct, h.http, h.sockets⟩
    have := h.going
    simp only [isCancelled, List.contains_cons, Bool.or_eq_false_iff] at this ⊢
    exact ⟨by simpa using hne, this⟩

theorem Spares.cancelAll {c : Conversation} {id : CancelId} {ids : List CancelId}
    (h : c.Spares id) (hid : id ∉ ids) : (c.cancelAll ids).Spares id := by
  induction ids generalizing c with
  | nil => exact h
  | cons other ids ih =>
      rw [List.mem_cons, not_or] at hid
      exact ih (h.cancel hid.1) hid.2

end Conversation

/-- An operation that is spared is not given up. -/
theorem Talk.untilCancelled_of_spares {x : Talk α} {id : CancelId}
    (hx : Talk.Moves (Conversation.Sparing id) x) {c : Conversation} (h : c.Spares id) :
    x.untilCancelled id c = x c := by
  unfold Talk.untilCancelled
  simp only [h.going, (hx c h).going, Bool.false_eq_true, if_false]

namespace Service

open Conversation (Sparing)
open Talk (Moves)

variable (id : CancelId)

theorem sparing_token (bearer : Bearer) : Moves (Sparing id) (token bearer) := by
  cases bearer <;> exact fun _ h => ⟨h.going, h.direct, h.http, h.sockets⟩

theorem sparing_send (q : Question) (isLookup : Bool) (r : HttpRequest) :
    Moves (Sparing id) (send q isLookup r) := by
  intro c h
  unfold send
  split
  · exact h
  · next endpoint _ =>
    have hn := Conversation.sparing_note id c (isLookup && endpoint == .primary)
      (.http endpoint r) h
    obtain ⟨hs, hrest⟩ := hn.http.take endpoint q isLookup
    exact Conversation.Spares.cancelAll ⟨hn.going, hn.direct, hrest, hn.sockets⟩ hs

theorem sparing_exchange (base : String) (bearer : Bearer) (maintenance isLookup : Bool)
    (q : Question) : Moves (Sparing id) (exchange base bearer maintenance isLookup q) :=
  (sparing_token id bearer).bind fun _ =>
    (Talk.moves_ofExcept _).bind fun request => sparing_send id q isLookup request

theorem spares_deliver {id : CancelId} {s : Option (Served (Except Error α))}
    {c : Conversation} (h : c.Spares id) (hs : Spare id s.toList) :
    (deliver s c).2.Spares id := by
  cases s with
  | none => exact h
  | some s => exact h.cancelAll (hs s (List.mem_singleton_self s))

theorem sparing_askStatement (service : Service) (q : Question) :
    Moves (Sparing id) (service.askStatement q) := by
  intro c
  cases service with
  | direct =>
      intro h
      have hn := Conversation.sparing_note id c
        (c.isLookup c.direct.statements.lookup.isSome q) (.direct q) h
      obtain ⟨hs, hrest⟩ := h.direct.statements.take q
        (c.isLookup c.direct.statements.lookup.isSome q)
      refine Conversation.sparing_noteLookup id _ _ _ (spares_deliver ?_ hs)
      exact ⟨hn.going, ⟨hrest, h.direct.version, h.direct.download⟩, hn.http, hn.sockets⟩
  | rest base bearer maintenance =>
      exact trans_of (Sparing id)
        ((sparing_exchange id base bearer maintenance _ q).bind
          (fun _ => Talk.moves_ofExcept _) c)
        (Conversation.sparing_noteLookup id _ _ _)

theorem sparing_version (service : Service) : Moves (Sparing id) service.version := by
  intro c
  cases service with
  | direct =>
      intro h
      have hn := Conversation.sparing_note id c false (.direct .version) h
      obtain ⟨hs, hrest⟩ := takeServed_spares h.direct.version
      refine spares_deliver ?_ hs
      exact ⟨hn.going, ⟨h.direct.statements, hrest, h.direct.download⟩, hn.http, hn.sockets⟩
  | rest base bearer maintenance =>
      exact (sparing_exchange id base bearer maintenance false .version).bind
        (fun _ => Talk.moves_ofExcept _) c

theorem sparing_download (service : Service) (type : ResourceType) (organization : Uuid)
    (name : String) : Moves (Sparing id) (service.download type organization name) := by
  intro c
  cases service with
  | direct =>
      intro h
      have hn := Conversation.sparing_note id c false
        (.direct (.download type organization name)) h
      obtain ⟨hs, hrest⟩ := takeServed_spares h.direct.download
      refine spares_deliver ?_ hs
      exact ⟨hn.going, ⟨h.direct.statements, h.direct.version, hrest⟩, hn.http, hn.sockets⟩
  | rest base bearer maintenance =>
      exact (sparing_exchange id base bearer maintenance false _).bind
        (fun _ => Talk.moves_pure _) c

end Service

theorem Socket.sparing_dial (id : CancelId) (uri token : String) (sessionId : Option String)
    (timeout : Duration) :
    Talk.Moves (Conversation.Sparing id) (Socket.dial uri token sessionId timeout) := by
  refine Socket.moves_dial_of ?_ ?_ uri token sessionId timeout
  · exact fun c url h => ⟨h.going, h.direct, h.http, h.sockets⟩
  · intro url sessionHeader auth timeout c h
    obtain ⟨hs, hrest⟩ := takeServed_spares h.sockets
    refine Conversation.Spares.cancelAll ⟨h.going, h.direct, h.http, hrest⟩ ?_
    exact not_mem_cancels_getD rfl hs

end Tributary
