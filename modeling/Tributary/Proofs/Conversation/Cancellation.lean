import Mathlib.Logic.Relation
import Tributary.Proofs.Conversation.Exchanges

/-!
# Operations that are cancelled

What is done for an operation is done piece by piece: a peer is called, or a reply is settled, which
calls nobody. A call begins only while the operation is not cancelled, and makes one request at
most. An operation that is cancelled stays cancelled, so from that moment on no request is made and
no socket opened for it.
-/

namespace Tributary

open Talk (Moves)

namespace Conversation

/-! ## Being cancelled is final -/

/-- What is cancelled stays cancelled. -/
def Keeps (id : CancelId) (c c' : Conversation) : Prop :=
  c.isCancelled id = true → c'.isCancelled id = true

instance (id : CancelId) : IsPreorder Conversation (Keeps id) where
  refl _ h := h
  trans _ _ _ h h' := h' ∘ h

theorem keeps_cancel (id other : CancelId) (c : Conversation) : Keeps id c (c.cancel other) := by
  intro h
  unfold cancel
  split
  · exact h
  · simp only [isCancelled, List.contains_cons, Bool.or_eq_true] at h ⊢
    exact .inr h

theorem keeps_allowsCalls (id : CancelId) : AllowsCalls (Keeps id) where
  tokens _ _ h := h
  direct _ _ h := h
  http _ _ h := h
  sockets _ _ h := h
  lookups _ _ h := h
  calls _ _ h := h
  lookupCalls _ _ h := h
  attempts _ _ h := h
  dials _ _ h := h
  cancel c other := keeps_cancel id other c

theorem keeps_put (id : CancelId) (x : Runner) (q : Question) : Moves (Keeps id) (x.put q) :=
  fun _ h => (keeps_allowsCalls id).moves_askStatement x.service q _ h

theorem keeps_settle (id : CancelId) (x : Runner) (reply : Reply) :
    Moves (Keeps id) (x.settle reply) := by
  intro c h
  obtain ⟨context, journal, hsettle⟩ := x.snd_settle reply c
  rw [hsettle]
  exact h

theorem keeps_ask (id other : CancelId) (x : Runner) (q : Question) :
    Moves (Keeps id) (x.ask other q) :=
  ((keeps_put id x q).guarded x.service other).bind (keeps_settle id x)

/-- No exchange takes a cancellation back. -/
theorem keeps_allowsExchanges (id : CancelId) (runs : Runner → Prop) (other : CancelId) :
    AllowsExchanges (Keeps id) runs other where
  submitted _ _ c := keeps_ask id other _ _ c
  polled _ _ _ c := keeps_ask id other _ _ c
  askedVersion service := ((keeps_allowsCalls id).moves_version service).guarded service other
  downloaded service type organization name :=
    ((keeps_allowsCalls id).moves_download service type organization name).guarded service other
  dialled uri token sessionId timeout _ _ :=
    (keeps_allowsCalls id).moves_dial uri token sessionId timeout _

/-! ## Requests -/

/-- How many requests were made and sockets opened. -/
def requests (c : Conversation) : Nat :=
  c.calls.length + c.lookupCalls.length + c.dials.length

/-- No request was made and no socket opened, and none was to be opened. -/
structure SameTraffic (c c' : Conversation) : Prop extends SameSockets c c' where
  calls : c'.calls = c.calls
  lookupCalls : c'.lookupCalls = c.lookupCalls

instance : IsPreorder Conversation SameTraffic where
  refl c := ⟨refl_of SameSockets c, rfl, rfl⟩
  trans _ _ _ h h' := ⟨trans_of SameSockets h.toSameSockets h'.toSameSockets,
    h'.calls.trans h.calls, h'.lookupCalls.trans h.lookupCalls⟩

theorem SameTraffic.requests_eq {c c' : Conversation} (h : SameTraffic c c') :
    c'.requests = c.requests := by
  unfold requests
  rw [h.calls, h.lookupCalls, h.dials]

theorem sameTraffic_cancelAll (c : Conversation) (ids : List CancelId) :
    SameTraffic c (c.cancelAll ids) := by
  induction ids generalizing c with
  | nil => exact refl_of SameTraffic c
  | cons id ids ih =>
      refine trans_of SameTraffic ?_ (ih (c.cancel id))
      unfold cancel
      split <;> exact ⟨⟨rfl, rfl⟩, rfl, rfl⟩

theorem sameTraffic_noteLookup (c : Conversation) (isLookup : Bool) (r : Except Error Reply) :
    SameTraffic c (c.noteLookup isLookup r) := by
  unfold noteLookup
  split
  · split <;> exact ⟨⟨rfl, rfl⟩, rfl, rfl⟩
  · exact ⟨⟨rfl, rfl⟩, rfl, rfl⟩

theorem sameTraffic_settle (x : Runner) (reply : Reply) (c : Conversation) :
    SameTraffic c (x.settle reply c).2 := by
  obtain ⟨context, journal, hsettle⟩ := x.snd_settle reply c
  rw [hsettle]
  exact ⟨⟨rfl, rfl⟩, rfl, rfl⟩

theorem requests_note (c : Conversation) (isLookup : Bool) (call : Call) :
    (c.note isLookup call).requests = c.requests + 1 := by
  cases isLookup with
  | false => simp [note, requests]; omega
  | true => simp [note, requests]; omega

end Conversation

/-- An operation makes a number of requests at most. -/
def Talk.Makes (n : Nat) (x : Talk α) : Prop := ∀ c, (x c).2.requests ≤ c.requests + n

theorem Talk.Makes.bind {x : Talk α} {f : α → Talk β} {m n : Nat} (hx : x.Makes m)
    (hf : ∀ a, (f a).Makes n) : (Talk.bind x f).Makes (m + n) := by
  intro c
  have hfirst := hx c
  unfold Talk.bind
  split
  next a c' hc =>
    rw [hc] at hfirst
    have hrest := hf a c'
    dsimp only at hfirst
    omega
  next e c' hc =>
    rw [hc] at hfirst
    dsimp only at hfirst ⊢
    omega

theorem Talk.makes_ofExcept (r : Except Error α) : (Talk.ofExcept r).Makes 0 :=
  fun _ => Nat.le_refl _

namespace Service

open Conversation (requests_note sameTraffic_cancelAll sameTraffic_noteLookup)
open Talk (Makes)

theorem makes_token (bearer : Bearer) : Makes 0 (token bearer) := by
  intro c
  cases bearer <;> exact Nat.le_refl _

theorem makes_deliver (s : Option (Served (Except Error α))) : Makes 0 (deliver s) := by
  intro c
  cases s with
  | none => exact Nat.le_refl _
  | some s => exact Nat.le_of_eq (sameTraffic_cancelAll c s.cancels).requests_eq

theorem makes_send (q : Question) (isLookup : Bool) (r : HttpRequest) :
    Makes 1 (send q isLookup r) := by
  intro c
  unfold send
  split
  · exact Nat.le_succ _
  next endpoint _ =>
    rw [(sameTraffic_cancelAll _ _).requests_eq]
    exact Nat.le_of_eq (requests_note c _ _)

theorem makes_exchange (base : String) (bearer : Bearer) (maintenance isLookup : Bool)
    (q : Question) : Makes 1 (exchange base bearer maintenance isLookup q) :=
  (makes_token bearer).bind fun _ =>
    (Talk.makes_ofExcept _).bind fun request => makes_send q isLookup request

theorem makes_askStatement (service : Service) (q : Question) :
    Makes 1 (service.askStatement q) := by
  intro c
  cases service with
  | direct =>
      have hnote := requests_note c (c.isLookup c.direct.statements.lookup.isSome q) (.direct q)
      refine Nat.le_trans ?_ (Nat.le_of_eq hnote)
      exact Nat.le_trans (Nat.le_of_eq (sameTraffic_noteLookup _ _ _).requests_eq)
        (makes_deliver _ _)
  | rest base bearer maintenance =>
      refine Nat.le_trans (Nat.le_of_eq (sameTraffic_noteLookup _ _ _).requests_eq) ?_
      exact ((makes_exchange base bearer maintenance _ q).bind fun _ =>
        Talk.makes_ofExcept _) c

theorem makes_version (service : Service) : Makes 1 service.version := by
  intro c
  cases service with
  | direct =>
      exact Nat.le_trans (makes_deliver _ _) (Nat.le_of_eq (requests_note c false _))
  | rest base bearer maintenance =>
      exact ((makes_exchange base bearer maintenance false .version).bind fun _ =>
        Talk.makes_ofExcept _) c

theorem makes_download (service : Service) (type : ResourceType) (organization : Uuid)
    (name : String) : Makes 1 (service.download type organization name) := by
  intro c
  cases service with
  | direct =>
      exact Nat.le_trans (makes_deliver _ _) (Nat.le_of_eq (requests_note c false _))
  | rest base bearer maintenance =>
      exact ((makes_exchange base bearer maintenance false _).bind (n := 0) fun _ _ =>
        Nat.le_refl _) c

end Service

namespace Socket

theorem makes_handshake (url : Url) (sessionHeader : Option String) (auth : AuthMessage)
    (timeout : Duration) : Talk.Makes 1 (handshake url sessionHeader auth timeout) := by
  intro c
  have hdials (c : Conversation) (dial : Option Dial) :
      (c.noteDials dial.toList).requests ≤ c.requests + 1 := by
    cases dial with
    | none => simp [Conversation.noteDials, Conversation.requests]
    | some dial => simp [Conversation.noteDials, Conversation.requests]; omega
  exact Nat.le_trans (Nat.le_of_eq (Conversation.sameTraffic_cancelAll _ _).requests_eq)
    (hdials _ _)

theorem makes_dial (uri token : String) (sessionId : Option String) (timeout : Duration) :
    Talk.Makes 1 (dial uri token sessionId timeout) := by
  refine (Talk.makes_ofExcept _).bind (n := 1) fun url =>
    (Talk.makes_ofExcept _).bind (n := 1) fun header => ?_
  intro c
  have hattempt : (c.noteAttempt url).requests = c.requests := rfl
  rw [← hattempt]
  unfold connect
  dsimp only
  split
  · exact Nat.le_succ _
  split
  · exact Nat.le_succ _
  split
  · exact makes_handshake url header _ timeout _
  · exact Nat.le_succ _

end Socket

/-! ## Work for an operation -/

namespace Conversation

/-- A piece of work for an operation. A peer is called, which begins while the operation is not
cancelled, or a reply is settled, which calls nobody. -/
inductive Work (id : CancelId) (c : Conversation) : Conversation → Prop where
  | asked (h : c.isCancelled id = false) (x : Runner) (q : Question) : Work id c (x.put q c).2
  | settled (x : Runner) (reply : Reply) : Work id c (x.settle reply c).2
  | askedVersion (h : c.isCancelled id = false) (service : Service) :
    Work id c (service.version c).2
  | downloaded (h : c.isCancelled id = false) (service : Service) (type : ResourceType)
      (organization : Uuid) (name : String) :
    Work id c (service.download type organization name c).2
  | dialled (h : c.isCancelled id = false) (uri token : String) (sessionId : Option String)
      (timeout : Duration) :
    Work id c (Socket.dial uri token sessionId timeout c).2

/-- One piece of work after the other. -/
def Works (id : CancelId) : Conversation → Conversation → Prop :=
  Relation.ReflTransGen (Work id)

instance (id : CancelId) : IsPreorder Conversation (Works id) :=
  inferInstanceAs (IsPreorder Conversation (Relation.ReflTransGen _))

variable {id : CancelId} {c c' : Conversation}

theorem works_ask (id : CancelId) (x : Runner) (q : Question) : Moves (Works id) (x.ask id q) :=
  (Talk.moves_guarded x.service fun _ h => .single (.asked h x q)).bind fun reply _ =>
    .single (.settled x reply)

/-- Every exchange for an operation is work for it. -/
theorem works_allowsExchanges (id : CancelId) (runs : Runner → Prop) :
    AllowsExchanges (Works id) runs id where
  submitted _ _ c := works_ask id _ _ c
  polled _ _ _ c := works_ask id _ _ c
  askedVersion service := Talk.moves_guarded service fun _ h => .single (.askedVersion h service)
  downloaded service type organization name :=
    Talk.moves_guarded service fun _ h => .single (.downloaded h service type organization name)
  dialled uri token sessionId timeout _ h := .single (.dialled h uri token sessionId timeout)

theorem Work.requests_le (h : Work id c c') : c'.requests ≤ c.requests + 1 := by
  cases h with
  | asked h x q => exact x.service.makes_askStatement q (c.write (.asked x.endpoint q))
  | settled x reply =>
      rw [(sameTraffic_settle x reply c).requests_eq]
      exact Nat.le_succ _
  | askedVersion h service => exact service.makes_version c
  | downloaded h service type organization name =>
      exact service.makes_download type organization name c
  | dialled h uri token sessionId timeout =>
      exact Socket.makes_dial uri token sessionId timeout c

/-- Once an operation is cancelled, all that is left to do for it is to settle replies. -/
theorem Work.of_cancelled (h : Work id c c') (hc : c.isCancelled id = true) :
    SameTraffic c c' ∧ c'.isCancelled id = true := by
  have hgoing (h : c.isCancelled id = false) : False := by
    rw [hc] at h
    cases h
  cases h with
  | asked h x q => exact (hgoing h).elim
  | settled x reply => exact ⟨sameTraffic_settle x reply c, keeps_settle id x reply c hc⟩
  | askedVersion h service => exact (hgoing h).elim
  | downloaded h service type organization name => exact (hgoing h).elim
  | dialled h uri token sessionId timeout => exact (hgoing h).elim

theorem Works.of_cancelled (h : Works id c c') (hc : c.isCancelled id = true) :
    SameTraffic c c' := by
  have hboth : SameTraffic c c' ∧ c'.isCancelled id = true := by
    induction h with
    | refl => exact ⟨refl_of SameTraffic c, hc⟩
    | tail _ hwork ih =>
        obtain ⟨hsame, hcancelled⟩ := ih
        obtain ⟨hnext, hstays⟩ := hwork.of_cancelled hcancelled
        exact ⟨trans_of SameTraffic hsame hnext, hstays⟩
  exact hboth.1

end Conversation

/-! ## Calls of an operation that is cancelled -/

/-- A call for an operation that is cancelled is not made. -/
theorem Service.guarded_of_cancelled (service : Service) {id : CancelId} (call : Talk α)
    {c : Conversation} (hc : c.isCancelled id = true) :
    service.guarded id call c = (.error .cancelled, c) := by
  cases service with
  | direct =>
      unfold guarded Talk.unlessCancelled
      exact if_pos hc
  | rest base bearer maintenance =>
      unfold guarded Talk.untilCancelled
      exact if_pos hc

namespace Runner

open Conversation (SameTraffic)

variable {x : Runner} {id : CancelId} {c : Conversation}

theorem ask_of_cancelled (x : Runner) (q : Question) (hc : c.isCancelled id = true) :
    x.ask id q c = (.error .cancelled, c) := by
  show Talk.bind (x.service.guarded id (x.put q)) x.settle c = _
  unfold Talk.bind
  rw [x.service.guarded_of_cancelled (x.put q) hc]

theorem await_of_cancelled (x : Runner) (statementId : Uuid) (part : Int)
    (hc : c.isCancelled id = true) : x.await id statementId part c = (.error .cancelled, c) := by
  rw [await_eq, ask_of_cancelled x _ hc]

theorem submit_of_cancelled (x : Runner) (request : StatementRequest)
    (hc : c.isCancelled id = true) : x.submit id request c = (.error .cancelled, c) := by
  unfold submit
  dsimp only
  rw [ask_of_cancelled x _ hc]

/-- A runner that waits for a statement has been put off, any number of times. -/
def PutOff (x : Runner) (id : CancelId) (statementId : Uuid) (part : Int) :
    Conversation → Conversation → Prop :=
  Relation.ReflTransGen fun c c' =>
    ∃ s, x.ask id (.status statementId part x.sessionId) c = (.ok (.pending s), c')

theorem await_of_putOff {statementId : Uuid} {part : Int} {c' : Conversation}
    (h : x.PutOff id statementId part c c') :
    x.await id statementId part c = x.await id statementId part c' := by
  induction h with
  | refl => rfl
  | tail _ hask ih =>
      obtain ⟨s, hask⟩ := hask
      rw [ih, await_eq, hask]

/-- A promise that arrives when the operation has been cancelled meanwhile is lost or leads
nowhere: no further request is made. -/
theorem ask_of_late_promise {q : Question} {promise : StatementStatus} {c₁ : Conversation}
    (hgoing : c.isCancelled id = false) (hput : x.put q c = (.ok (.accepted promise), c₁))
    (hlate : c₁.isCancelled id = true) :
    ∃ c₂, SameTraffic c₁ c₂ ∧ c₂.isCancelled id = true ∧
      (x.ask id q c = (.error .cancelled, c₂) ∨
        x.ask id q c = (.ok (.pending promise.statementId), c₂)) := by
  have hbind : x.ask id q c = Talk.bind (x.service.guarded id (x.put q)) x.settle c := rfl
  unfold Talk.bind at hbind
  cases hservice : x.service with
  | direct =>
      -- The promise is there at once, and is settled.
      have hguarded : x.service.guarded id (x.put q) c = (.ok (.accepted promise), c₁) := by
        rw [hservice, ← hput]
        unfold Service.guarded Talk.unlessCancelled
        simp only [hgoing, Bool.false_eq_true, if_false]
      rw [hguarded] at hbind
      have hsame := Conversation.sameTraffic_settle x (.accepted promise) c₁
      have hstays := Conversation.keeps_settle id x (.accepted promise) c₁ hlate
      exact ⟨_, hsame, hstays, .inr hbind⟩
  | rest base bearer maintenance =>
      have hguarded : x.service.guarded id (x.put q) c = (.error .cancelled, c₁) := by
        rw [hservice]
        unfold Service.guarded Talk.untilCancelled
        simp only [hgoing, hput, hlate, Bool.false_eq_true, if_false, if_true]
      rw [hguarded] at hbind
      exact ⟨c₁, refl_of SameTraffic c₁, hlate, .inl hbind⟩

theorem await_of_late_promise {statementId : Uuid} {part : Int} {promise : StatementStatus}
    {c₁ : Conversation} (hgoing : c.isCancelled id = false)
    (hput : x.put (.status statementId part x.sessionId) c = (.ok (.accepted promise), c₁))
    (hlate : c₁.isCancelled id = true) :
    ∃ c₂, SameTraffic c₁ c₂ ∧ x.await id statementId part c = (.error .cancelled, c₂) := by
  obtain ⟨c₂, hsame, hcancelled, hask | hask⟩ := ask_of_late_promise hgoing hput hlate
  · refine ⟨c₂, hsame, ?_⟩
    rw [await_eq, hask]
  · refine ⟨c₂, hsame, ?_⟩
    rw [await_eq, hask]
    exact await_of_cancelled x statementId part hcancelled

theorem submit_of_late_promise {request : StatementRequest} {promise : StatementStatus}
    {c₁ : Conversation} (hgoing : c.isCancelled id = false)
    (hput : x.put (.submit (x.body c.context request.statement) request.attachments) c =
      (.ok (.accepted promise), c₁))
    (hlate : c₁.isCancelled id = true) :
    ∃ c₂, SameTraffic c₁ c₂ ∧ x.submit id request c = (.error .cancelled, c₂) := by
  unfold submit
  dsimp only
  obtain ⟨c₂, hsame, hcancelled, hask | hask⟩ := ask_of_late_promise hgoing hput hlate
  · refine ⟨c₂, hsame, ?_⟩
    rw [hask]
  · refine ⟨c₂, hsame, ?_⟩
    rw [hask]
    exact await_of_cancelled x promise.statementId 0 hcancelled

end Runner

namespace Connection

variable {k : Connection} {id : CancelId} {c : Conversation}

theorem query_of_cancelled (hopen : k.closed = false) (request : StatementRequest)
    (hc : c.isCancelled id = true) : k.query id request c = (.error .cancelled, c) := by
  unfold query whileOpen
  rw [hopen]
  show Talk.bind (k.runner.submit id request) _ c = _
  unfold Talk.bind
  rw [Runner.submit_of_cancelled k.runner request hc]

theorem execute_of_cancelled (hopen : k.closed = false) (request : StatementRequest)
    (hc : c.isCancelled id = true) : k.execute id request c = (.error .cancelled, c) := by
  unfold execute whileOpen
  rw [hopen]
  show Talk.bind (k.runner.submit id request) _ c = _
  unfold Talk.bind
  rw [Runner.submit_of_cancelled k.runner request hc]

theorem version_of_cancelled (hopen : k.closed = false) (hc : c.isCancelled id = true) :
    k.version id c = (.error .cancelled, c) := by
  unfold version whileOpen
  rw [hopen]
  exact k.service.guarded_of_cancelled k.service.version hc

/-- The cancellation is no fault of the connection. -/
theorem ping_of_cancelled (hopen : k.closed = false) (hc : c.isCancelled id = true) :
    k.ping id c = (.error .cancelled, c) := by
  unfold ping
  rw [version_of_cancelled hopen hc]
  rfl

end Connection

/-! ## Cursors of an operation that is cancelled -/

/-- A partition that is not held is not fetched, and the cursor stays where it is. -/
theorem PagedCursor.next_of_cancelled {r : PagedCursor} {c : Conversation}
    (hopen : r.closed = false) (hc : c.isCancelled r.token = true) (dest : List Value)
    {row partition : Nat} (hlocate : locate r.partitions r.position 0 = some (row, partition))
    (hother : partition ≠ r.partition) :
    r.next dest c = (⟨.error .cancelled, dest, r⟩, c) := by
  unfold next holding
  rw [hopen, hlocate]
  simp only [Bool.false_eq_true, if_false, if_neg hother, bind, Talk.bind,
    Runner.await_of_cancelled r.runner _ _ hc]

end Tributary
