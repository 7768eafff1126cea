import Tributary.Proofs.Service.Building
import Tributary.Proofs.Statement.Asking

/-!
# Ledgers of what is sent

A question goes to a service in memory, or over HTTP with a token: the source of the connection is
asked for one, or the token comes with a redirect. A ledger lists the questions in order and how
each of them was sent. Which requests are recorded and how often the source is asked can be read off
it.
-/

namespace Tributary

/-! ## Asking a source of tokens -/

namespace TokenSource

/-- Asks for a number of tokens: the answers, and the source that is left. -/
def asks (t : TokenSource) : Nat → List (Except Error String) × TokenSource
  | 0 => ([], t)
  | n + 1 =>
    let (answer, t) := t.ask
    let (answers, t) := t.asks n
    (answer :: answers, t)

theorem asks_add (t : TokenSource) (m n : Nat) :
    t.asks (m + n) = ((t.asks m).1 ++ ((t.asks m).2.asks n).1, ((t.asks m).2.asks n).2) := by
  induction m generalizing t with
  | zero =>
      rw [Nat.zero_add]
      rfl
  | succ m ih =>
      rw [Nat.add_right_comm]
      simp only [asks, ih, List.cons_append]

end TokenSource

/-! ## Ledgers -/

/-- How a question is sent: to a service in memory, or over HTTP with what the source of tokens
answers, or with a fixed token. -/
inductive Means where
  | direct
  | asked (base : String) (maintenance : Bool) (answer : Except Error String)
  | fixed (base : String) (maintenance : Bool) (token : FixedToken)

/-- The service that a question is sent to. -/
def Means.service : Means → Service
  | .direct => .direct
  | .asked base maintenance _ => .rest base .asked maintenance
  | .fixed base maintenance token => .rest base (.fixed token) maintenance

/-- A question that is sent, perhaps for a background lookup. -/
structure Sending where
  means : Means
  question : Question
  isLookup : Bool

/-- The request for a question as a peer receives it, if it can be sent and somebody listens. -/
def Network.received? (n : Network) (base token : String) (maintenance : Bool) (q : Question) :
    Option Call :=
  match q.request base token maintenance with
  | .error _ => none
  | .ok r => (n.peer? r.url).map fun endpoint => .http endpoint r

/-- What a peer receives is the request for the question, with the token. -/
theorem Network.of_received?_eq_some {n : Network} {base token : String} {maintenance : Bool}
    {q : Question} {call : Call} (h : n.received? base token maintenance q = some call) :
    ∃ endpoint r, call = .http endpoint r ∧ q.request base token maintenance = .ok r := by
  unfold received? at h
  cases hrequest : q.request base token maintenance with
  | error e =>
      rw [hrequest] at h
      cases h
  | ok r =>
      rw [hrequest] at h
      obtain ⟨endpoint, -, rfl⟩ := Option.map_eq_some_iff.mp h
      exact ⟨endpoint, r, rfl, rfl⟩

/-- Whether a request for a background lookup is recorded apart. -/
def Call.isApart (isLookup : Bool) : Call → Bool
  | .direct _ => isLookup
  | .http endpoint _ => isLookup && endpoint == .primary

namespace Sending

/-- The service that the question is sent to. -/
def service (s : Sending) : Service := s.means.service

/-- What the source of tokens answers, if it is asked. -/
def asked? (s : Sending) : Option (Except Error String) :=
  match s.means with
  | .asked _ _ answer => some answer
  | _ => none

/-- The request that a peer receives, if there is one. -/
def call? (n : Network) (s : Sending) : Option Call :=
  match s.means with
  | .direct => some (.direct s.question)
  | .asked base maintenance (.ok token) => n.received? base token maintenance s.question
  | .asked _ _ (.error _) => none
  | .fixed base maintenance token => n.received? base token.token maintenance s.question

/-- The request as it is recorded, among the others or apart from them. -/
def recorded (n : Network) (apart : Bool) (s : Sending) : List Call :=
  (s.call? n).toList.filter fun call => call.isApart s.isLookup == apart

/-- The source is asked just for what is sent to its own service. -/
theorem asked?_eq_none_iff (s : Sending) :
    s.asked? = none ↔ ∀ base maintenance, s.service ≠ .rest base .asked maintenance := by
  unfold asked? service
  cases s.means with
  | direct => simp [Means.service]
  | asked base maintenance answer => simp [Means.service]
  | fixed base maintenance token => simp [Means.service]

theorem asked?_of_fixed {s : Sending} {base : String} {token : FixedToken} {maintenance : Bool}
    (h : s.service = .rest base (.fixed token) maintenance) : s.asked? = none := by
  rw [asked?_eq_none_iff]
  intro base' maintenance' h'
  rw [h] at h'
  cases h'

end Sending

/-- A ledger of what is sent between two conversations: the source of tokens has given the answers,
and the requests have been recorded. -/
structure Conversation.Records (c : Conversation) (sent : List Sending) (c' : Conversation) :
    Prop where
  network : c'.network = c.network
  tokens : c.tokens.asks (sent.filterMap Sending.asked?).length =
    (sent.filterMap Sending.asked?, c'.tokens)
  calls : c'.calls = c.calls ++ sent.flatMap (Sending.recorded c.network false)
  lookupCalls : c'.lookupCalls = c.lookupCalls ++ sent.flatMap (Sending.recorded c.network true)

/-- A conversation records a request, if there is one, and no socket. -/
structure Conversation.Notes (isLookup : Bool) (call : Option Call) (c c' : Conversation) :
    Prop where
  network : c'.network = c.network
  tokens : c'.tokens = c.tokens
  calls : c'.calls = c.calls ++ call.toList.filter fun call => call.isApart isLookup == false
  lookupCalls : c'.lookupCalls =
    c.lookupCalls ++ call.toList.filter fun call => call.isApart isLookup == true
  sockets : c.SameSockets c'

namespace Conversation

variable {c c₁ c' : Conversation} {isLookup : Bool} {call : Option Call}

theorem notes_none_of_eq (hnetwork : c'.network = c.network) (htokens : c'.tokens = c.tokens)
    (hcalls : c'.calls = c.calls) (hlookupCalls : c'.lookupCalls = c.lookupCalls)
    (hsockets : c.SameSockets c') : Notes isLookup none c c' :=
  ⟨hnetwork, htokens, hcalls.trans (List.append_nil _).symm,
    hlookupCalls.trans (List.append_nil _).symm, hsockets⟩

theorem notes_none (c : Conversation) : Notes isLookup none c c :=
  notes_none_of_eq rfl rfl rfl rfl (refl_of SameSockets c)

theorem Notes.trans (h : Notes isLookup call c c₁) (h' : Notes isLookup none c₁ c') :
    Notes isLookup call c c' where
  network := h'.network.trans h.network
  tokens := h'.tokens.trans h.tokens
  calls := by
    rw [h'.calls, h.calls]
    exact List.append_nil _
  lookupCalls := by
    rw [h'.lookupCalls, h.lookupCalls]
    exact List.append_nil _
  sockets := trans_of SameSockets h.sockets h'.sockets

theorem notes_note (c : Conversation) (isLookup : Bool) (call : Call) :
    Notes isLookup (some call) c (c.note (call.isApart isLookup) call) := by
  unfold note
  cases hapart : call.isApart isLookup with
  | false => exact ⟨rfl, rfl, by simp [hapart], by simp [hapart], rfl, rfl⟩
  | true => exact ⟨rfl, rfl, by simp [hapart], by simp [hapart], rfl, rfl⟩

theorem notes_cancelAll (c : Conversation) (ids : List CancelId) :
    Notes isLookup none c (c.cancelAll ids) := by
  induction ids generalizing c with
  | nil => exact notes_none c
  | cons id ids ih =>
      refine Notes.trans ?_ (ih (c.cancel id))
      unfold cancel
      split
      · exact notes_none c
      · exact notes_none_of_eq rfl rfl rfl rfl ⟨rfl, rfl⟩

theorem notes_noteLookup (c : Conversation) (b : Bool) (r : Except Error Reply) :
    Notes isLookup none c (c.noteLookup b r) := by
  unfold noteLookup
  split
  · split
    · exact notes_none_of_eq rfl rfl rfl rfl ⟨rfl, rfl⟩
    · exact notes_none c
  · exact notes_none c

theorem notes_settle (x : Runner) (reply : Reply) (c : Conversation) :
    Notes isLookup none c (x.settle reply c).2 := by
  obtain ⟨context, journal, hsettle⟩ := x.snd_settle reply c
  rw [hsettle]
  exact notes_none_of_eq rfl rfl rfl rfl ⟨rfl, rfl⟩

theorem records_of_notes (h : Notes isLookup none c c') : Records c [] c' :=
  ⟨h.network, Prod.ext rfl h.tokens.symm, h.calls, h.lookupCalls⟩

theorem records_cancelAll (c : Conversation) (ids : List CancelId) :
    Records c [] (c.cancelAll ids) := by
  have hnotes : Notes false none c (c.cancelAll ids) := notes_cancelAll c ids
  exact records_of_notes hnotes

/-- Nothing is recorded where the requests and the source of tokens stay as they are. -/
theorem records_nil_of_eq (hnetwork : c'.network = c.network) (htokens : c'.tokens = c.tokens)
    (hcalls : c'.calls = c.calls) (hlookupCalls : c'.lookupCalls = c.lookupCalls) :
    Records c [] c' :=
  ⟨hnetwork, Prod.ext rfl htokens.symm, hcalls.trans (List.append_nil _).symm,
    hlookupCalls.trans (List.append_nil _).symm⟩

theorem records_nil (c : Conversation) : Records c [] c := records_nil_of_eq rfl rfl rfl rfl

theorem Records.trans {sent later : List Sending} (h : Records c sent c₁)
    (h' : Records c₁ later c') : Records c (sent ++ later) c' where
  network := h'.network.trans h.network
  tokens := by
    rw [List.filterMap_append, List.length_append, TokenSource.asks_add, h.tokens, h'.tokens]
  calls := by
    rw [h'.calls, h.calls, h.network, List.flatMap_append, List.append_assoc]
  lookupCalls := by
    rw [h'.lookupCalls, h.lookupCalls, h.network, List.flatMap_append, List.append_assoc]

/-- A question that is sent without asking for a token, and the request for it. -/
theorem Records.of_notes {s : Sending} (hasked : s.asked? = none)
    (h : Notes s.isLookup (s.call? c.network) c c') : Records c [s] c' where
  network := h.network
  tokens := by
    rw [List.filterMap_cons_none hasked, h.tokens]
    rfl
  calls := by
    rw [h.calls, List.flatMap_singleton]
    rfl
  lookupCalls := by
    rw [h.lookupCalls, List.flatMap_singleton]
    rfl

/-- A question that is sent after asking for a token, and the request for it. -/
theorem Records.of_ask {s : Sending} (hasked : s.asked? = some c.tokens.ask.1)
    (h : Notes s.isLookup (s.call? c.network) { c with tokens := c.tokens.ask.2 } c') :
    Records c [s] c' where
  network := h.network
  tokens := by
    rw [List.filterMap_cons_some hasked, h.tokens]
    rfl
  calls := by
    rw [h.calls, List.flatMap_singleton]
    rfl
  lookupCalls := by
    rw [h.lookupCalls, List.flatMap_singleton]
    rfl

/-- What is sent between two conversations is among certain questions. -/
def Sent (P : Sending → Prop) (c c' : Conversation) : Prop :=
  ∃ sent, c.Records sent c' ∧ ∀ s ∈ sent, P s

variable {P Q : Sending → Prop}

theorem Sent.of_records_nil (h : Records c [] c') : Sent P c c' :=
  ⟨[], h, fun _ hs => (nomatch hs)⟩

theorem Sent.mono (h : Sent P c c') (hPQ : ∀ s, P s → Q s) : Sent Q c c' := by
  obtain ⟨sent, hrecords, hP⟩ := h
  exact ⟨sent, hrecords, fun s hs => hPQ s (hP s hs)⟩

instance : IsPreorder Conversation (Sent P) where
  refl c := .of_records_nil (records_nil c)
  trans a b c := by
    rintro ⟨sent, hrecords, hP⟩ ⟨later, hrecords', hP'⟩
    refine ⟨sent ++ later, hrecords.trans hrecords', ?_⟩
    intro s hs
    rcases List.mem_append.mp hs with hs | hs
    · exact hP s hs
    · exact hP' s hs

end Conversation

end Tributary
