import Tributary.Proofs.Conversation.Ledgers

/-!
# What operations send

A call of a service sends one question, and an operation sends what its calls send, as far as it
comes. If the source of tokens refuses a token, the call fails with what the source says. Then
nothing more is sent, and that is the fault of the operation as well.
-/

namespace Tributary

/-! ## One call -/

/-- A call sends a question, and opens no socket. If the source of tokens refuses one, that is the
fault of the call, and nothing is cancelled. -/
structure Talk.Puts (s : Sending) (c : Conversation) (p : Except Error α × Conversation) :
    Prop where
  records : c.Records [s] p.2
  sockets : c.SameSockets p.2
  refused : ∀ e, s.asked? = some (.error e) → p.1 = .error e ∧ p.2.cancelled = c.cancelled

/-- A call sends one question to a service. -/
def Talk.SendsOne (service : Service) (q : Question) (c : Conversation)
    (p : Except Error α × Conversation) : Prop :=
  ∃ s : Sending, s.service = service ∧ s.question = q ∧ Puts s c p

namespace Service

open Conversation (Notes Records notes_cancelAll notes_none notes_none_of_eq notes_noteLookup
  notes_note)
open Talk (SendsOne)

/-- A request that is put together with a token is recorded where a peer receives it. -/
theorem notes_request (base token : String) (maintenance isLookup : Bool) (q : Question)
    (c : Conversation) :
    Notes isLookup (c.network.received? base token maintenance q) c
      (Talk.bind (ofTransport (q.request base token maintenance)) (send q isLookup) c).2 := by
  unfold Network.received?
  cases hrequest : q.request base token maintenance with
  | error e => exact notes_none c
  | ok r =>
      show Notes isLookup ((c.network.peer? r.url).map fun endpoint => .http endpoint r) c
        (send q isLookup r c).2
      unfold send
      cases hpeer : c.network.peer? r.url with
      | none => exact notes_none c
      | some endpoint =>
          refine Notes.trans ?_ (notes_cancelAll _ _)
          refine (notes_note c isLookup (.http endpoint r)).trans ?_
          exact notes_none_of_eq rfl rfl rfl rfl ⟨rfl, rfl⟩

theorem sendsOne_exchange (base : String) (bearer : Bearer) (maintenance isLookup : Bool)
    (q : Question) (c : Conversation) :
    SendsOne (.rest base bearer maintenance) q c
      (exchange base bearer maintenance isLookup q c) := by
  cases bearer with
  | asked =>
      have hnotes : Notes isLookup
          (Sending.call? c.network ⟨.asked base maintenance c.tokens.ask.1, q, isLookup⟩)
          { c with tokens := c.tokens.ask.2 }
          (exchange base .asked maintenance isLookup q c).2 := by
        rw [exchange_eq]
        unfold Talk.bind
        dsimp only [token, Conversation.askToken, Sending.call?]
        cases c.tokens.ask.1 with
        | error e => exact notes_none _
        | ok token =>
            exact notes_request base token maintenance isLookup q
              { c with tokens := c.tokens.ask.2 }
      refine ⟨⟨.asked base maintenance c.tokens.ask.1, q, isLookup⟩, rfl, rfl,
        Records.of_ask rfl hnotes, ⟨hnotes.sockets.attempts, hnotes.sockets.dials⟩, fun e he => ?_⟩
      have hanswer : c.tokens.ask.1 = .error e := Option.some.inj he
      rw [exchange_eq]
      unfold Talk.bind
      dsimp only [token, Conversation.askToken]
      rw [hanswer]
      exact ⟨rfl, rfl⟩
  | fixed t =>
      have hnotes := notes_request base t.token maintenance isLookup q c
      exact ⟨⟨.fixed base maintenance t, q, isLookup⟩, rfl, rfl, Records.of_notes rfl hnotes,
        hnotes.sockets, fun e he => (nomatch he)⟩

/-- What is made of the answer to a call sends nothing. -/
theorem sendsOne_map {service : Service} {q : Question} {x : Talk α} {f : α → Talk β}
    {c : Conversation} (hx : SendsOne service q c (x c)) (hf : ∀ a c', (f a c').2 = c') :
    SendsOne service q c (Talk.bind x f c) := by
  obtain ⟨s, hservice, hquestion, hputs⟩ := hx
  have hsame : (Talk.bind x f c).2 = (x c).2 := by
    unfold Talk.bind
    split
    next a c' hc => rw [hf, hc]
    next e c' hc => rw [hc]
  refine ⟨s, hservice, hquestion, hsame ▸ hputs.records, hsame ▸ hputs.sockets, fun e he => ?_⟩
  obtain ⟨herror, hcancelled⟩ := hputs.refused e he
  refine ⟨?_, hsame ▸ hcancelled⟩
  unfold Talk.bind
  split
  next a c' hc =>
    rw [hc] at herror
    cases herror
  next e' c' hc =>
    rw [hc] at herror
    cases herror
    rfl

theorem sendsOne_noteLookup {service : Service} {q : Question} {c : Conversation}
    {p : Except Error Reply × Conversation} (isLookup : Bool) (hx : SendsOne service q c p) :
    SendsOne service q c (p.1, p.2.noteLookup isLookup p.1) := by
  obtain ⟨s, hservice, hquestion, hputs⟩ := hx
  have hnotes : Notes false none p.2 _ := notes_noteLookup p.2 isLookup p.1
  refine ⟨s, hservice, hquestion, hputs.records.trans (Conversation.records_of_notes hnotes),
    trans_of Conversation.SameSockets hputs.sockets hnotes.sockets, fun e he => ?_⟩
  obtain ⟨herror, hcancelled⟩ := hputs.refused e he
  dsimp only
  rw [herror]
  exact ⟨rfl, hcancelled⟩

/-- An answer in memory is taken for the question that is noted. -/
theorem sendsOne_direct (isLookup : Bool) {q : Question} {c : Conversation}
    {p : Except Error α × Conversation}
    (hp : Notes isLookup none (c.note isLookup (.direct q)) p.2) :
    SendsOne .direct q c p := by
  have hnotes := (notes_note c isLookup (.direct q)).trans hp
  exact ⟨⟨.direct, q, isLookup⟩, rfl, rfl, Records.of_notes rfl hnotes, hnotes.sockets,
    fun _ he => (nomatch he)⟩

theorem notes_deliver {isLookup : Bool} (s : Option (Served (Except Error α))) (c : Conversation) :
    Notes isLookup none c (deliver s c).2 := by
  cases s with
  | none => exact notes_none c
  | some s => exact notes_cancelAll c s.cancels

theorem sendsOne_askStatement (service : Service) (q : Question) (c : Conversation) :
    SendsOne service q c (service.askStatement q c) := by
  cases service with
  | direct =>
      apply sendsOne_direct (c.isLookup c.direct.statements.lookup.isSome q)
      refine Notes.trans ?_ (notes_noteLookup _ _ _)
      refine Notes.trans ?_ (notes_deliver _ _)
      exact notes_none_of_eq rfl rfl rfl rfl ⟨rfl, rfl⟩
  | rest base bearer maintenance =>
      have hone := sendsOne_map (f := fun response => ofTransport (Reply.ofResponse response))
        (sendsOne_exchange base bearer maintenance
          (c.isLookup c.http.statements.lookup.isSome q) q c) fun _ _ => rfl
      exact sendsOne_noteLookup _ hone

end Service

/-! ## Whole operations -/

/-- What is sent between two conversations is among certain questions. If the source of tokens
refuses one, nothing is sent after that, and the fault is told. -/
def Conversation.Sends (P : Sending → Prop) (told : Error → Prop) (c c' : Conversation) : Prop :=
  ∃ sent, c.Records sent c' ∧ (∀ s ∈ sent, P s) ∧
    ∀ before s after e, sent = before ++ s :: after → s.asked? = some (.error e) →
      after = [] ∧ told e

namespace Conversation

variable {P : Sending → Prop} {told told' : Error → Prop} {c c₁ c' : Conversation}

theorem Sends.of_records_nil (h : Records c [] c') : Sends P told c c' := by
  refine ⟨[], h, fun s hs => (nomatch hs), ?_⟩
  intro before s after e hsplit
  simp at hsplit

theorem Sends.refl (c : Conversation) : Sends P told c c := .of_records_nil (records_nil c)

theorem Sends.mono (h : Sends P told c c') (htold : ∀ e, told e → told' e) :
    Sends P told' c c' := by
  obtain ⟨sent, hrecords, hP, hlast⟩ := h
  refine ⟨sent, hrecords, hP, ?_⟩
  intro before s after e hsplit hrefused
  obtain ⟨hafter, htell⟩ := hlast before s after e hsplit hrefused
  exact ⟨hafter, htold e htell⟩

theorem Sends.sent (h : Sends P told c c') : Sent P c c' := by
  obtain ⟨sent, hrecords, hP, -⟩ := h
  exact ⟨sent, hrecords, hP⟩

/-- More is sent only if no token was refused. -/
theorem Sends.trans (h : Sends P told c c₁) (hnone : ∀ e, ¬ told e) (h' : Sends P told' c₁ c') :
    Sends P told' c c' := by
  obtain ⟨sent, hrecords, hP, hlast⟩ := h
  obtain ⟨later, hrecords', hP', hlast'⟩ := h'
  refine ⟨sent ++ later, hrecords.trans hrecords', ?_, ?_⟩
  · intro s hs
    rcases List.mem_append.mp hs with hs | hs
    · exact hP s hs
    · exact hP' s hs
  · intro before s after e hsplit hrefused
    rcases List.append_eq_append_iff.mp hsplit with ⟨rest, -, hlater⟩ | ⟨rest, hsent, hlater⟩
    · exact hlast' rest s after e hlater hrefused
    · cases rest with
      | nil => exact hlast' [] s after e hlater.symm hrefused
      | cons s' rest =>
          -- The question was among the first ones, which were all given a token.
          cases hlater
          exact absurd (hlast before s rest e hsent hrefused).2 (hnone e)

end Conversation

/-- An operation sends some questions and comes to a result. If a token is refused, the operation
is not cancelled, and its fault is what it makes of the refusal. -/
def Talk.Heeds (id : CancelId) (P : Sending → Prop) (makes : Error → Error → Prop)
    (c : Conversation) (p : Except Error α × Conversation) : Prop :=
  c.Sends P (fun e => ∃ e', makes e e' ∧ p.1 = .error e' ∧ p.2.isCancelled id = false) p.2

namespace Talk

open Conversation (Records Sends)

variable {id : CancelId} {P : Sending → Prop} {makes : Error → Error → Prop}
  {c c₁ c' : Conversation}

theorem heeds_of_records_nil {p : Except Error α × Conversation} (h : c.Records [] p.2) :
    Heeds id P makes c p :=
  .of_records_nil h

/-- After an operation that succeeds, more may be sent. -/
theorem Heeds.of_ok {told : Error → Prop} {a : α} (h : Heeds id P makes c (.ok a, c₁))
    (h' : c₁.Sends P told c') : c.Sends P told c' :=
  h.trans (fun _ ⟨_, _, herror, _⟩ => nomatch herror) h'

theorem Heeds.of_error {e : Error} (h : Heeds id P makes c ((.error e, c₁) : Except Error α × _)) :
    Heeds id P makes c ((.error e, c₁) : Except Error β × _) := by
  refine h.mono fun e' htold => ?_
  obtain ⟨e'', hmakes, herror, hgoing⟩ := htold
  cases herror
  exact ⟨e, hmakes, rfl, hgoing⟩

/-- A sequence sends what its parts send, as far as it comes. -/
theorem Heeds.bind {x : Talk α} {f : α → Talk β} (hx : Heeds id P makes c (x c))
    (hf : ∀ a c', x c = (.ok a, c') → Heeds id P makes c' (f a c')) :
    Heeds id P makes c (Talk.bind x f c) := by
  unfold Talk.bind
  split
  next a c' hc =>
    rw [hc] at hx
    exact hx.of_ok (hf a c' hc)
  next e c' hc =>
    rw [hc] at hx
    exact hx.of_error

/-- Giving up when it is cancelled does not hide the fault of an operation. -/
theorem heeds_untilCancelled {x : Talk α}
    (hx : c.isCancelled id = false → Heeds id P makes c (x c)) :
    Heeds id P makes c (x.untilCancelled id c) := by
  unfold untilCancelled
  split
  · exact .refl c
  next hgoing =>
    refine (hx (Bool.eq_false_iff.mpr hgoing)).mono fun e htold => ?_
    obtain ⟨e', hmakes, herror, hgoing'⟩ := htold
    refine ⟨e', hmakes, ?_, hgoing'⟩
    dsimp only
    rw [hgoing']
    exact herror

/-- A guarded call sends its question unless the operation is cancelled. -/
theorem SendsOne.guarded {service : Service} {q : Question} {x : Talk α}
    (hx : SendsOne service q c (x c))
    (hP : ∀ s : Sending, s.service = service → s.question = q → P s) :
    Heeds id P Eq c (service.guarded id x c) := by
  have hcall : c.isCancelled id = false → Heeds id P Eq c (x c) := by
    intro hgoing
    obtain ⟨s, hservice, hquestion, hputs⟩ := hx
    refine ⟨[s], hputs.records, ?_, ?_⟩
    · intro s' hs'
      rw [List.mem_singleton.mp hs']
      exact hP s hservice hquestion
    · intro before s' after e hsplit he
      obtain ⟨rfl, hcons⟩ | ⟨rest, -, hrest⟩ := List.cons_eq_append_iff.mp hsplit
      · cases hcons
        obtain ⟨herror, hcancelled⟩ := hputs.refused e he
        refine ⟨rfl, e, rfl, herror, ?_⟩
        unfold Conversation.isCancelled at hgoing ⊢
        rw [hcancelled]
        exact hgoing
      · simp at hrest
  cases service with
  | direct =>
      unfold Service.guarded unlessCancelled
      dsimp only
      split
      · exact .refl c
      next hgoing => exact hcall (Bool.eq_false_iff.mpr hgoing)
  | rest base bearer maintenance => exact heeds_untilCancelled hcall

end Talk

namespace Runner

open Talk (Heeds SendsOne)

variable {x : Runner} (id : CancelId) {P : Sending → Prop}

/-- What is written into the journal is not sent. -/
theorem sendsOne_put (x : Runner) (q : Question) (c : Conversation) :
    SendsOne x.service q c (x.put q c) := by
  obtain ⟨s, hservice, hquestion, hputs⟩ :=
    Service.sendsOne_askStatement x.service q (c.write (.asked x.endpoint q))
  have hrecords := hputs.records
  exact ⟨s, hservice, hquestion,
    ⟨hrecords.network, hrecords.tokens, hrecords.calls, hrecords.lookupCalls⟩,
    ⟨hputs.sockets.attempts, hputs.sockets.dials⟩, hputs.refused⟩

/-- One exchange about a statement sends one question. -/
theorem heeds_ask {q : Question} (hP : ∀ s : Sending, s.service = x.service → s.question = q → P s)
    (c : Conversation) : Heeds id P Eq c (x.ask id q c) := by
  refine Heeds.bind (f := x.settle) ((x.sendsOne_put q c).guarded hP) fun reply c' _ => ?_
  have hnotes : Conversation.Notes false none c' _ := Conversation.notes_settle x reply c'
  exact Talk.heeds_of_records_nil (Conversation.records_of_notes hnotes)

/-- Waiting for a statement sends the question for its status, again and again. -/
theorem heeds_await {statementId : Uuid} {part : Int}
    (hP : ∀ s : Sending, s.service = x.service →
      s.question = .status statementId part x.sessionId → P s) (c : Conversation) :
    Heeds id P Eq c (x.await id statementId part c) := by
  induction hn : c.remaining using Nat.strongRecOn generalizing c with
  | _ n ih =>
      have hfirst := heeds_ask id hP c
      rw [await_eq]
      split
      next r c' hc =>
        rw [hc] at hfirst
        exact hfirst.of_ok (.refl c')
      next s c' hc =>
        rw [hc] at hfirst
        have hlt := remaining_lt_of_pending hc
        exact hfirst.of_ok (ih _ (hn ▸ hlt) c' rfl)
      next e c' hc =>
        rw [hc] at hfirst
        exact hfirst.of_error

end Runner

end Tributary
