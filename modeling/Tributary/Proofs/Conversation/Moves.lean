import Mathlib.Order.Defs.Unbundled
import Tributary.Cursor.Socket
import Tributary.Service.Basic

/-!
# How operations move a conversation

An operation of a client takes one conversation to another. Where a preorder holds between the two
for every operation that a larger one is made of, it holds for the larger one. A preorder that
*allows calls* holds wherever an answer is taken, a request recorded or an operation cancelled, so
it is kept by every call of a service. All calls are *quiet*: they leave the context and the
journal alone.
-/

namespace Tributary

namespace Talk

/-- A sequence succeeds as its parts do. -/
theorem of_bind_eq_ok {x : Talk α} {f : α → Talk β} {c c' : Conversation} {b : β}
    (h : (x >>= f) c = (.ok b, c')) : ∃ a c₁, x c = (.ok a, c₁) ∧ f a c₁ = (.ok b, c') := by
  change Talk.bind x f c = _ at h
  unfold Talk.bind at h
  split at h
  next a c₁ hx => exact ⟨a, c₁, hx, h⟩
  next e c₁ hx => cases h

theorem fst_bind_pure (x : Talk α) (f : α → β) (c : Conversation) :
    (Talk.bind x (fun a => Talk.pure (f a)) c).1 = (x c).1.map f := by
  unfold Talk.bind
  cases x c with
  | mk r c' => cases r <;> rfl

/-- An operation that gives up when it is cancelled succeeds as it does otherwise. -/
theorem of_untilCancelled_eq_ok {x : Talk α} {id : CancelId} {c c' : Conversation} {a : α}
    (h : x.untilCancelled id c = (.ok a, c')) : x c = (.ok a, c') := by
  unfold untilCancelled at h
  split at h
  · cases h
  · dsimp only at h
    split at h
    · cases h
    · exact h

/-- An operation takes every conversation along a relation. -/
def Moves (R : Conversation → Conversation → Prop) (x : Talk α) : Prop :=
  ∀ c, R c (x c).2

section

variable {R : Conversation → Conversation → Prop} [IsPreorder Conversation R]

theorem moves_pure (a : α) : Moves R (Talk.pure a) := fun c => refl_of R c

theorem moves_fail (e : Error) : Moves R (Talk.fail e : Talk α) := fun c => refl_of R c

theorem moves_ofExcept (r : Except Error α) : Moves R (Talk.ofExcept r) := fun c => refl_of R c

/-- A sequence moves a conversation as its first part does there, and the rest everywhere. -/
theorem moves_bind_of {x : Talk α} {f : α → Talk β} {c : Conversation} (hx : R c (x c).2)
    (hf : ∀ a, Moves R (f a)) : R c (Talk.bind x f c).2 := by
  unfold Talk.bind
  split
  next a c' hc =>
    rw [hc] at hx
    exact trans_of R hx (hf a c')
  next e c' hc =>
    rw [hc] at hx
    exact hx

theorem Moves.bind {x : Talk α} {f : α → Talk β} (hx : Moves R x)
    (hf : ∀ a, Moves R (f a)) : Moves R (Talk.bind x f) :=
  fun c => moves_bind_of (hx c) hf

theorem moves_unlessCancelled {x : Talk α} {id : CancelId}
    (hx : ∀ c, c.isCancelled id = false → R c (x c).2) : Moves R (x.unlessCancelled id) := by
  intro c
  unfold Talk.unlessCancelled
  split
  next => exact refl_of R c
  next hgoing => exact hx c (Bool.eq_false_iff.mpr hgoing)

theorem moves_untilCancelled {x : Talk α} {id : CancelId}
    (hx : ∀ c, c.isCancelled id = false → R c (x c).2) : Moves R (x.untilCancelled id) := by
  intro c
  unfold Talk.untilCancelled
  split
  next => exact refl_of R c
  next hgoing => exact hx c (Bool.eq_false_iff.mpr hgoing)

/-- A guarded call moves a conversation as the call does where the operation goes on. -/
theorem moves_guarded {call : Talk α} (service : Service) {id : CancelId}
    (hx : ∀ c, c.isCancelled id = false → R c (call c).2) :
    Moves R (service.guarded id call) := by
  cases service with
  | direct => exact moves_unlessCancelled hx
  | rest base bearer maintenance => exact moves_untilCancelled hx

theorem Moves.guarded {call : Talk α} (service : Service) (id : CancelId)
    (hx : Moves R call) : Moves R (service.guarded id call) :=
  moves_guarded service fun c _ => hx c

end

end Talk

/-! ## Sockets -/

/-- No socket was opened, and none was to be opened. -/
structure Conversation.SameSockets (c c' : Conversation) : Prop where
  attempts : c'.attempts = c.attempts
  dials : c'.dials = c.dials

instance : IsPreorder Conversation Conversation.SameSockets where
  refl _ := ⟨rfl, rfl⟩
  trans _ _ _ h h' := ⟨h'.attempts.trans h.attempts, h'.dials.trans h.dials⟩

/-- A socket is opened by a handshake at most, after the attempt has been recorded. -/
theorem Socket.moves_dial_of {R : Conversation → Conversation → Prop} [IsPreorder Conversation R]
    (hattempt : ∀ (c : Conversation) (url : Url), R c (c.noteAttempt url))
    (hhandshake : ∀ url sessionHeader auth timeout,
      Talk.Moves R (handshake url sessionHeader auth timeout))
    (uri token : String) (sessionId : Option String) (timeout : Duration) :
    Talk.Moves R (dial uri token sessionId timeout) := by
  refine (Talk.moves_ofExcept _).bind fun url => (Talk.moves_ofExcept _).bind fun header => ?_
  intro c
  refine trans_of R (hattempt c url) ?_
  unfold connect
  dsimp only
  split
  · exact refl_of R _
  split
  · exact refl_of R _
  split
  · exact hhandshake url header _ timeout _
  · exact refl_of R _

/-! ## Calls -/

/-- A relation holds between conversations that differ in one of the things a call changes: the
answers that are left, the tokens, the records of requests, and the operations that are
cancelled. -/
structure Conversation.AllowsCalls (R : Conversation → Conversation → Prop) : Prop where
  tokens (c : Conversation) (tokens : TokenSource) : R c { c with tokens }
  direct (c : Conversation) (direct : DirectAnswers) : R c { c with direct }
  http (c : Conversation) (http : HttpAnswers) : R c { c with http }
  sockets (c : Conversation) (sockets : List (Served SocketAnswer)) : R c { c with sockets }
  lookups (c : Conversation) (lookups : List Uuid) : R c { c with lookups }
  calls (c : Conversation) (calls : List Call) : R c { c with calls }
  lookupCalls (c : Conversation) (lookupCalls : List Call) : R c { c with lookupCalls }
  attempts (c : Conversation) (attempts : List Url) : R c { c with attempts }
  dials (c : Conversation) (dials : List Dial) : R c { c with dials }
  cancel (c : Conversation) (id : CancelId) : R c (c.cancel id)

namespace Conversation.AllowsCalls

open Talk (Moves)

variable {R : Conversation → Conversation → Prop} [IsPreorder Conversation R]

section

variable (hR : AllowsCalls R)
include hR

theorem cancelAll (c : Conversation) (ids : List CancelId) : R c (c.cancelAll ids) := by
  induction ids generalizing c with
  | nil => exact refl_of R c
  | cons id ids ih => exact trans_of R (hR.cancel c id) (ih (c.cancel id))

omit [IsPreorder Conversation R] in
theorem note (c : Conversation) (isLookup : Bool) (call : Call) :
    R c (c.note isLookup call) := by
  cases isLookup with
  | false => exact hR.calls c _
  | true => exact hR.lookupCalls c _

theorem noteLookup (c : Conversation) (isLookup : Bool) (r : Except Error Reply) :
    R c (c.noteLookup isLookup r) := by
  unfold Conversation.noteLookup
  split
  · split
    · exact hR.lookups c _
    · exact refl_of R c
  · exact refl_of R c

theorem moves_token (bearer : Bearer) : Moves R (Service.token bearer) := by
  intro c
  cases bearer with
  | asked => exact hR.tokens c _
  | fixed token => exact refl_of R c

theorem moves_send (q : Question) (isLookup : Bool) (r : HttpRequest) :
    Moves R (Service.send q isLookup r) := by
  intro c
  unfold Service.send
  split
  · exact refl_of R c
  · next endpoint _ =>
    have hnote := hR.note c (isLookup && endpoint == .primary) (.http endpoint r)
    exact trans_of R (trans_of R hnote (hR.http _ _)) (hR.cancelAll _ _)

theorem moves_exchange (base : String) (bearer : Bearer) (maintenance isLookup : Bool)
    (q : Question) : Moves R (Service.exchange base bearer maintenance isLookup q) :=
  (hR.moves_token bearer).bind fun _ =>
    (Talk.moves_ofExcept _).bind fun request => hR.moves_send q isLookup request

theorem moves_deliver (s : Option (Served (Except Error α))) : Moves R (Service.deliver s) := by
  intro c
  cases s with
  | none => exact refl_of R c
  | some s => exact hR.cancelAll c s.cancels

theorem moves_askStatement (service : Service) (q : Question) :
    Moves R (service.askStatement q) := by
  intro c
  cases service with
  | direct =>
      have hnote := hR.note c (c.isLookup c.direct.statements.lookup.isSome q) (.direct q)
      exact trans_of R
        (trans_of R (trans_of R hnote (hR.direct _ _)) (hR.moves_deliver _ _))
        (hR.noteLookup _ _ _)
  | rest base bearer maintenance =>
      exact trans_of R
        ((hR.moves_exchange base bearer maintenance _ q).bind (fun _ => Talk.moves_ofExcept _) c)
        (hR.noteLookup _ _ _)

theorem moves_version (service : Service) : Moves R service.version := by
  intro c
  cases service with
  | direct =>
      exact trans_of R (trans_of R (hR.note c false _) (hR.direct _ _)) (hR.moves_deliver _ _)
  | rest base bearer maintenance =>
      exact (hR.moves_exchange base bearer maintenance false .version).bind
        (fun _ => Talk.moves_ofExcept _) c

theorem moves_download (service : Service) (type : ResourceType) (organization : Uuid)
    (name : String) : Moves R (service.download type organization name) := by
  intro c
  cases service with
  | direct =>
      exact trans_of R (trans_of R (hR.note c false _) (hR.direct _ _)) (hR.moves_deliver _ _)
  | rest base bearer maintenance =>
      exact (hR.moves_exchange base bearer maintenance false _).bind
        (fun _ => Talk.moves_pure _) c

theorem moves_dial (uri token : String) (sessionId : Option String) (timeout : Duration) :
    Moves R (Socket.dial uri token sessionId timeout) :=
  Socket.moves_dial_of (fun c url => hR.attempts c (c.attempts ++ [url]))
    (fun _ _ _ _ c => trans_of R (trans_of R (hR.sockets c _) (hR.dials _ _)) (hR.cancelAll _ _))
    uri token sessionId timeout

end

end Conversation.AllowsCalls

/-! ## Calls leave the context and the journal alone -/

/-- The context and the journal are left as they were. -/
structure Conversation.Quiet (c c' : Conversation) : Prop where
  context : c'.context = c.context
  journal : c'.journal = c.journal

instance : IsPreorder Conversation Conversation.Quiet where
  refl _ := ⟨rfl, rfl⟩
  trans _ _ _ h h' := ⟨h'.context.trans h.context, h'.journal.trans h.journal⟩

theorem Conversation.quiet_cancel (c : Conversation) (id : CancelId) : Quiet c (c.cancel id) := by
  unfold cancel
  split <;> exact ⟨rfl, rfl⟩

theorem Conversation.quiet_allowsCalls : AllowsCalls Quiet where
  tokens _ _ := ⟨rfl, rfl⟩
  direct _ _ := ⟨rfl, rfl⟩
  http _ _ := ⟨rfl, rfl⟩
  sockets _ _ := ⟨rfl, rfl⟩
  lookups _ _ := ⟨rfl, rfl⟩
  calls _ _ := ⟨rfl, rfl⟩
  lookupCalls _ _ := ⟨rfl, rfl⟩
  attempts _ _ := ⟨rfl, rfl⟩
  dials _ _ := ⟨rfl, rfl⟩
  cancel := quiet_cancel

end Tributary
