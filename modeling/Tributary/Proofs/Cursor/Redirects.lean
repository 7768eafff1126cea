import Tributary.Proofs.Conversation.Cancellation
import Tributary.Proofs.Cursor.Requests
import Tributary.Proofs.Text.Splitting

/-!
# Redirected cursors

A result may say that its rows are somewhere else. Rows at a dataplane endpoint are fetched with the
token of the redirect, in the session of the connection. The connection's own service is then left
alone, and so is the context. Rows on a socket take one socket, which is opened with that token, and
the endpoint is asked for nothing.
-/

namespace Tributary

open Talk (Moves)

/-! ## What is left alone -/

namespace Conversation

/-- Certain questions are sent, and no socket is opened. -/
structure Confined (P : Sending → Prop) (c c' : Conversation) : Prop where
  sent : c.Sent P c'
  sockets : c.SameSockets c'

/-- Certain questions are sent, no socket is opened, and the context stays as it is. -/
structure Apart (P : Sending → Prop) (c c' : Conversation) : Prop extends Confined P c c' where
  context : c'.context = c.context

/-- One attempt is made to open a socket, at an address. A peer there records at most one socket, for
the target of that address: it was opened and got a message, or it was rejected. -/
structure Attempts (url : Url) (auth : AuthMessage) (c c' : Conversation) : Prop where
  attempts : c'.attempts = c.attempts ++ [url]
  dials : c'.dials = c.dials ∨ (∃ header, c'.dials = c.dials ++ [.opened url.target header auth]) ∨
    ∃ status, c'.dials = c.dials ++ [.rejected url.target status]

/-- Certain questions are sent, and one socket is opened at most, which is at an address and
authenticates the client with a message. -/
structure Opens (IsAddress : Url → Prop) (auth : AuthMessage) (P : Sending → Prop)
    (c c' : Conversation) : Prop where
  sent : c.Sent P c'
  sockets : c.SameSockets c' ∨ ∃ url, IsAddress url ∧ c.Attempts url auth c'

variable {P : Sending → Prop}

instance : IsPreorder Conversation (Confined P) where
  refl c := ⟨refl_of (Sent P) c, refl_of SameSockets c⟩
  trans _ _ _ h h' :=
    ⟨trans_of (Sent P) h.sent h'.sent, trans_of SameSockets h.sockets h'.sockets⟩

instance : IsPreorder Conversation (Apart P) where
  refl c := ⟨refl_of (Confined P) c, rfl⟩
  trans _ _ _ h h' :=
    ⟨trans_of (Confined P) h.toConfined h'.toConfined, h'.context.trans h.context⟩

variable {IsAddress : Url → Prop} {url : Url} {auth : AuthMessage} {c c₁ c' : Conversation}

theorem Attempts.trans (h : Attempts url auth c c₁) (h' : SameSockets c₁ c') :
    Attempts url auth c c' := by
  refine ⟨h'.attempts.trans h.attempts, ?_⟩
  rw [h'.dials]
  exact h.dials

theorem Confined.opens (h : Confined P c c') : Opens IsAddress auth P c c' :=
  ⟨h.sent, .inl h.sockets⟩

theorem Opens.trans (h : Opens IsAddress auth P c c₁) (h' : Confined P c₁ c') :
    Opens IsAddress auth P c c' := by
  refine ⟨trans_of (Sent P) h.sent h'.sent, ?_⟩
  rcases h.sockets with hsame | ⟨url, haddress, hattempts⟩
  · exact .inl (trans_of SameSockets hsame h'.sockets)
  · exact .inr ⟨url, haddress, hattempts.trans h'.sockets⟩

end Conversation

open Conversation (Apart Confined Opens)

/-! ## Runners -/

namespace Runner

variable {x : Runner} {P : Sending → Prop}

theorem confined_ask {q : Question}
    (hP : ∀ s : Sending, s.service = x.service → s.question = q → P s) (id : CancelId) :
    Moves (Confined P) (x.ask id q) := by
  have hput : Moves (Confined P) (x.put q) := by
    intro c
    obtain ⟨s, hservice, hquestion, hputs⟩ := x.sendsOne_put q c
    refine ⟨⟨[s], hputs.records, fun s' hs' => ?_⟩, hputs.sockets⟩
    rw [List.mem_singleton.mp hs']
    exact hP s hservice hquestion
  refine (hput.guarded x.service id).bind fun reply c => ?_
  have hnotes : Conversation.Notes false none c _ := Conversation.notes_settle x reply c
  exact ⟨.of_records_nil (Conversation.records_of_notes hnotes), hnotes.sockets⟩

theorem confined_await (hP : ∀ s : Sending, s.service = x.service → P s) (id : CancelId)
    (statementId : Uuid) (part : Int) : Moves (Confined P) (x.await id statementId part) :=
  moves_await (confined_ask (fun s hs _ => hP s hs) id)

theorem confined_submit (hP : ∀ s : Sending, s.service = x.service → P s) (id : CancelId)
    (request : StatementRequest) : Moves (Confined P) (x.submit id request) :=
  moves_submit (fun c => confined_ask (fun s hs _ => hP s hs) id c)
    fun _ => confined_ask (fun s hs _ => hP s hs) id

/-- A runner that keeps no context leaves the context alone. -/
theorem context_ask (hx : x.keepsContext = false) (id : CancelId) (q : Question)
    (c : Conversation) : (x.ask id q c).2.context = c.context := by
  rcases x.ask_cases id q c with ha | ⟨c₁, hquiet, ⟨e, ha⟩ | ⟨reply, ha⟩⟩
  · rw [ha]
  · rw [ha]
    exact hquiet.context
  · rw [ha]
    refine Eq.trans ?_ hquiet.context
    unfold settle adopt
    rw [hx]
    cases reply with
    | completed r =>
        dsimp only
        split
        · split <;> rfl
        · rfl
    | accepted s => rfl
    | failed status message => rfl

theorem apart_await (hx : x.keepsContext = false) {statementId : Uuid} {part : Int}
    (hP : ∀ s : Sending, s.service = x.service →
      s.question = .status statementId part x.sessionId → P s) (id : CancelId) :
    Moves (Apart P) (x.await id statementId part) :=
  moves_await fun c => ⟨confined_ask hP id c, context_ask hx id _ c⟩

end Runner

/-! ## Cursors over partitions -/

/-- A question for a part of a statement, for which the source of tokens is not asked. It goes to
the service below a base with a token of its own, and whatever a peer receives is the request for
the part, in the session, with that token. -/
structure Sending.Fetches (base token : String) (maintenance : Bool) (sessionId : Option String)
    (statementId : Uuid) (part : Int) (s : Sending) : Prop where
  service : ∃ t : FixedToken, t.token = token ∧ s.service = .rest base (.fixed t) maintenance
  question : s.question = .status statementId part sessionId
  asked : s.asked? = none
  call : ∀ n call, s.call? n = some call → ∃ endpoint r u, call = .http endpoint r ∧
    r.method = .get ∧ r.authorization = HttpRequest.bearer token ∧
    Url.ofString (base ++ ("/statements/" ++ statementId.toString)) = .ok u ∧
    r.url = (HttpRequest.stripped u).withPairs
      (("partitionID", String.ofList (Integer.text part)) :: ("timezone", "UTC") ::
        sessionId.toList.map fun id => ("sessionID", id))

theorem Sending.fetches_of_fixed {s : Sending} {base : String} {t : FixedToken}
    {maintenance : Bool} {statementId : Uuid} {part : Int} {sessionId : Option String}
    (hservice : s.service = .rest base (.fixed t) maintenance)
    (hquestion : s.question = .status statementId part sessionId) :
    s.Fetches base t.token maintenance sessionId statementId part := by
  refine ⟨⟨t, rfl, hservice⟩, hquestion, asked?_of_fixed hservice, fun n call hcall => ?_⟩
  obtain ⟨means, question, isLookup⟩ := s
  cases means with
  | direct => cases hservice
  | asked base' maintenance' answer => cases hservice
  | fixed base' maintenance' t' =>
      cases hservice
      cases hquestion
      obtain ⟨endpoint, r, hr, hrequest⟩ := Network.of_received?_eq_some hcall
      obtain ⟨hmethod, ⟨u, hu, hurl⟩, hauthorization⟩ := HttpRequest.of_build_eq_ok hrequest
      exact ⟨endpoint, r, u, hr, hmethod, hauthorization, hu, hurl⟩

namespace PagedCursor

/-- A cursor that fetches later partitions of a statement by a runner. -/
structure Draws (x : Runner) (id : CancelId) (statementId : Uuid) (r : PagedCursor) : Prop where
  runner : r.runner = x
  token : r.token = id
  statementId : r.statementId = statementId
  ahead : r.closed = false → r.Ahead

variable {x : Runner} {id : CancelId} {statementId : Uuid} {r : PagedCursor}

theorem draws_ofResult (x : Runner) (id : CancelId) (first : ResultSet) (hints : Bool) :
    (ofResult x id first hints).Draws x id first.statementId :=
  ⟨rfl, rfl, rfl, fun _ => ahead_ofResult x id first hints⟩

theorem Draws.next (h : r.Draws x id statementId) (dest : List Value) (c : Conversation) :
    (r.next dest c).1.cursor.Draws x id statementId := by
  cases hclosed : r.closed with
  | true =>
      have hsame : (r.next dest c).1.cursor = r := by
        unfold PagedCursor.next
        rw [if_pos hclosed]
      rw [hsame]
      exact h
  | false =>
      have hahead := h.ahead hclosed
      obtain ⟨held, partition, position, hattempt⟩ := attempt_keeps hahead ⟨dest, c⟩
      have hnext : (r.next dest c).1.cursor = { r with held, partition, position } := hattempt
      refine ⟨?_, ?_, ?_, fun _ => hahead.attempt ⟨dest, c⟩⟩
      · rw [hnext]
        exact h.runner
      · rw [hnext]
        exact h.token
      · rw [hnext]
        exact h.statementId

theorem Draws.close (h : r.Draws x id statementId) : r.close.Draws x id statementId :=
  ⟨h.runner, h.token, h.statementId, fun hopen => (nomatch hopen)⟩

/-- What a fetch asks for is a later partition. -/
theorem Draws.apart_next (h : r.Draws x id statementId) {P : Sending → Prop}
    (hx : x.keepsContext = false)
    (hP : ∀ (s : Sending) (partition : Nat), partition ≠ 0 → s.service = x.service →
      s.question = .status statementId (partNumber partition) x.sessionId → P s)
    (dest : List Value) (c : Conversation) : Apart P c (r.next dest c).2 := by
  obtain ⟨rfl, rfl, rfl, hahead⟩ := h
  refine moves_next_of_await (fun hopen row partition hlocate hother => ?_) dest c
  have hle := (hahead hopen).held_le row partition hlocate
  exact Runner.apart_await hx (fun s hs hq => hP s partition (by omega) hs hq) r.token

end PagedCursor

/-! ## Streams -/

namespace Conversation

/-- Once a socket is opened, an operation goes on without opening another one. -/
theorem opens_bind {IsAddress : Url → Prop} {auth : AuthMessage} {P : Sending → Prop}
    {x : Talk α} {f : α → Talk β} {c : Conversation} (hx : Opens IsAddress auth P c (x c).2)
    (hf : ∀ a, Moves (Confined P) (f a)) : Opens IsAddress auth P c (Talk.bind x f c).2 := by
  unfold Talk.bind
  split
  next a c' hc =>
    rw [hc] at hx
    exact hx.trans (hf a c')
  next e c' hc =>
    rw [hc] at hx
    exact hx

end Conversation

namespace Socket

/-- The address of a stream: that of its redirect, under the scheme for sockets. -/
def IsAddress (uri : String) (url : Url) : Prop :=
  ∃ u scheme, Url.ofString uri = .ok u ∧ schemeOf? u.scheme = some scheme ∧ url = { u with scheme }

theorem isAddress_of_requestUrl {uri : String} {url : Url} (h : requestUrl uri = .ok url) :
    IsAddress uri url := by
  unfold requestUrl Socket.url at h
  simp only [bind, Except.bind] at h
  split at h
  · cases h
  next url' hurl =>
    split at hurl
    · cases hurl
    next u hu =>
      split at hurl
      next scheme hscheme =>
        cases hurl
        split at h
        · cases h
          exact ⟨u, scheme, hu, hscheme, rfl⟩
        · cases h
      next => cases hurl

theorem attempts_handshake (url : Url) (sessionHeader : Option String) (auth : AuthMessage)
    (timeout : Duration) (c : Conversation) :
    c.Attempts url auth (handshake url sessionHeader auth timeout (c.noteAttempt url)).2 := by
  have hsame := Conversation.sameTraffic_cancelAll
    ({ c.noteAttempt url with sockets := (takeServed c.sockets).2 }.noteDials
      (answered url sessionHeader auth timeout
        ((takeServed c.sockets).1.getD exhausted).answer).2.toList)
    ((takeServed c.sockets).1.getD exhausted).cancels
  refine ⟨hsame.attempts, ?_⟩
  have hdials : (handshake url sessionHeader auth timeout (c.noteAttempt url)).2.dials =
      c.dials ++ (answered url sessionHeader auth timeout
        ((takeServed c.sockets).1.getD exhausted).answer).2.toList := hsame.dials
  rw [hdials]
  cases ((takeServed c.sockets).1.getD exhausted).answer with
  | silent => exact .inl (List.append_nil _)
  | rejected status body => exact .inr (.inr ⟨status, rfl⟩)
  | opened events => exact .inr (.inl ⟨sessionHeader, rfl⟩)

/-- A socket is opened at the address of the stream with one message, or not at all. -/
theorem opens_dial {P : Sending → Prop} (uri token : String) (sessionId : Option String)
    (timeout : Duration) (c : Conversation) :
    Opens (IsAddress uri) ⟨token, sessionId.getD ""⟩ P c
      (dial uri token sessionId timeout c).2 := by
  refine ⟨.of_records_nil (records_dial uri token sessionId timeout c), ?_⟩
  rcases snd_dial_cases uri token sessionId timeout c with hsame | ⟨url, hurl, hattempt⟩
  · rw [hsame]
    exact .inl (refl_of Conversation.SameSockets c)
  · refine .inr ⟨url, isAddress_of_requestUrl hurl, ?_⟩
    rcases hattempt with hnobody | ⟨header, hhandshake⟩
    · rw [hnobody]
      exact ⟨rfl, .inl rfl⟩
    · rw [hhandshake]
      exact attempts_handshake url header _ timeout c

end Socket

namespace Cursor

/-- A cursor sends questions to the service of its runner. -/
theorem confined_next {r : Cursor} {x : Runner} (h : r.RunBy (Eq x)) {P : Sending → Prop}
    (hP : ∀ s : Sending, s.service = x.service → P s) (dest : List Value) (c : Conversation) :
    Confined P c (r.next dest c).2 := by
  cases r with
  | paged rows =>
      obtain rfl : x = rows.runner := h
      exact PagedCursor.moves_next_of_await
        (fun _ _ _ _ _ => Runner.confined_await hP rows.token rows.statementId _) dest c
  | streamed rows =>
      refine StreamCursor.moves_next_of_submit (fun l hl request => ?_) dest c
      obtain rfl : x = l.2 := h l hl
      exact Runner.confined_submit hP rows.token request

theorem opens_openStream (primary : Runner) {P : Sending → Prop}
    (hP : ∀ s : Sending, s.service = primary.service → P s) (redirect : Redirect) (id : CancelId)
    (settings : CursorSettings) (c : Conversation) :
    Opens (Socket.IsAddress redirect.uri) ⟨redirect.token, settings.sessionId.getD ""⟩ P c
      (openStream primary redirect id settings c).2 := by
  unfold openStream Talk.untilCancelled
  split
  · exact (refl_of (Confined P) c).opens
  · refine Conversation.opens_bind (Socket.opens_dial _ _ _ _ c) fun events => ?_
    refine Moves.bind ?_ fun _ => Talk.moves_pure _
    refine StreamCursor.moves_ofEvents_of_submit (fun l hl request => ?_) settings.hints events
    obtain ⟨queryId, -, rfl⟩ := Option.map_eq_some_iff.mp hl
    exact Runner.confined_submit hP id request

/-! ## Following a redirect -/

/-- Something is done with a cursor, whatever is going on then. -/
def Goes (r r' : Cursor) : Prop := ∃ c action, r' = (Session.act r c action).1.2

/-- A cursor over partitions that fetches later ones of a statement by a runner. -/
def Draws (x : Runner) (id : CancelId) (statementId : Uuid) : Cursor → Prop
  | .paged rows => rows.Draws x id statementId
  | .streamed _ => False

theorem Draws.next {x : Runner} {id : CancelId} {statementId : Uuid} {r : Cursor}
    (h : r.Draws x id statementId) (dest : List Value) (c : Conversation) :
    (r.next dest c).1.cursor.Draws x id statementId := by
  cases r with
  | paged rows => exact PagedCursor.Draws.next h dest c
  | streamed rows => exact h.elim

theorem Draws.close {x : Runner} {id : CancelId} {statementId : Uuid} {r : Cursor}
    (h : r.Draws x id statementId) : r.close.Draws x id statementId := by
  cases r with
  | paged rows => exact PagedCursor.Draws.close h
  | streamed rows => exact h.elim

theorem Draws.apart_next {x : Runner} {id : CancelId} {statementId : Uuid} {r : Cursor}
    (h : r.Draws x id statementId) {P : Sending → Prop} (hx : x.keepsContext = false)
    (hP : ∀ (s : Sending) (partition : Nat), partition ≠ 0 → s.service = x.service →
      s.question = .status statementId (PagedCursor.partNumber partition) x.sessionId → P s)
    (dest : List Value) (c : Conversation) : Apart P c (r.next dest c).2 := by
  cases r with
  | paged rows => exact PagedCursor.Draws.apart_next h hx hP dest c
  | streamed rows => exact h.elim

/-- However long a cursor has been used, what is done with it moves every conversation along a
relation. -/
def Always (R : Conversation → Conversation → Prop) (r : Cursor) : Prop :=
  ∀ r', Relation.ReflTransGen Goes r r' → ∀ c action, R c (Session.act r' c action).2

section

variable {I : Cursor → Prop} (hkeeps : ∀ r dest c, I r → I (next r dest c).1.cursor)
  (hclose : ∀ r, I r → I r.close) {r r' : Cursor} (hr : I r)
include hkeeps hclose hr

/-- What is kept of a cursor when it fetches or closes holds for as long as the cursor is used. -/
theorem keeps_of_goes (h : Relation.ReflTransGen Goes r r') : I r' := by
  induction h with
  | refl => exact hr
  | tail _ hgoes ih =>
      obtain ⟨c, action, rfl⟩ := hgoes
      exact Session.act_keeps hkeeps hclose ih c action

theorem always_of_next {R : Conversation → Conversation → Prop} [IsPreorder Conversation R]
    (hnext : ∀ r dest c, I r → R c (next r dest c).2) : r.Always R := by
  intro r' hgoes c action
  have hr' : I r' := keeps_of_goes hkeeps hclose hr hgoes
  exact Session.moves_act_of_next hkeeps hnext hr' c action

end

section

variable (primary : Runner) {id : CancelId} {result : ResultSet} {settings : CursorSettings}
  {redirect : Redirect} (hredirect : result.metadata.redirect = some redirect)
include hredirect

theorem ofResult_of_resultSet (hkind : redirect.kind = .resultSet) :
    ofResult primary id result settings = openPaged redirect id result.statementId settings := by
  unfold ofResult
  rw [hredirect]
  dsimp only
  rw [hkind]

theorem ofResult_of_stream (hkind : redirect.kind ≠ .resultSet) :
    ofResult primary id result settings = openStream primary redirect id settings := by
  unfold ofResult
  rw [hredirect]
  dsimp only
  split
  next hresultSet => exact absurd hresultSet hkind
  next => rfl
  next => rfl

end

/-- A redirect that cannot be followed is told, and nothing else happens. -/
theorem openPaged_of_error {redirect : Redirect} {settings : CursorSettings} {e : Error}
    (h : redirect.runner settings = .error e) (id : CancelId) (statementId : Uuid)
    (c : Conversation) : openPaged redirect id statementId settings c = (.error e, c) := by
  unfold openPaged
  rw [h]
  rfl

theorem openPaged_of_ok {redirect : Redirect} {settings : CursorSettings} {x : Runner}
    (h : redirect.runner settings = .ok x) (id : CancelId) (statementId : Uuid)
    (c : Conversation) :
    openPaged redirect id statementId settings c =
      Talk.bind (x.await id statementId 0)
        (fun first => Talk.pure (.paged (.ofResult x id first settings.hints))) c := by
  unfold openPaged
  rw [h]
  rfl

end Cursor

namespace Redirect

/-- The runner of a redirect leaves the context alone, and what it asks of a statement are parts
that it fetches below the address of the redirect, with its token. -/
theorem fetches_of_runner {redirect : Redirect} {settings : CursorSettings} {x : Runner}
    (h : redirect.runner settings = .ok x) :
    ∃ a base, address redirect.uri = .ok a ∧ Server.base a = .ok base ∧ x.keepsContext = false ∧
      ∀ (s : Sending) (statementId : Uuid) (part : Int), s.service = x.service →
        s.question = .status statementId part x.sessionId →
        s.Fetches base redirect.token settings.maintenance settings.sessionId statementId part := by
  obtain ⟨a, base, t, haddress, hbase, htoken, rfl⟩ := of_runner_eq_ok h
  refine ⟨a, base, haddress, hbase, rfl, fun s statementId part hservice hquestion => ?_⟩
  rw [← htoken]
  exact Sending.fetches_of_fixed hservice hquestion

/-- A redirect with an address that is no URL, or without a token, is a fault of the client. -/
theorem runner_of_invalid {redirect : Redirect} (settings : CursorSettings)
    (h : (∃ e, Url.ofString redirect.uri = .error e) ∨ redirect.token = "") :
    ∃ message, redirect.runner settings = .error (.client message) := by
  unfold runner
  simp only [bind, Except.bind]
  cases hurl : Url.ofString redirect.uri with
  | error e =>
      have haddress : address redirect.uri = .error (.client "invalid dataplane uri") := by
        unfold address
        rw [hurl]
      rw [haddress]
      exact ⟨_, rfl⟩
  | ok url =>
      have haddress : address redirect.uri = .ok (url.withPath ['v', '2']).toString := by
        unfold address
        rw [hurl]
      have hempty : redirect.token = "" := by
        rcases h with ⟨e, he⟩ | hempty
        · rw [hurl] at he
          cases he
        · exact hempty
      rw [haddress, hempty]
      exact ⟨_, rfl⟩

end Redirect

namespace Connection

/-- Once the statement has succeeded, a query opens the cursor over its result. -/
theorem query_of_submit {k : Connection} (hopen : k.closed = false) {id : CancelId}
    {request : StatementRequest} {c₀ c : Conversation} {result : ResultSet}
    (hsubmit : k.runner.submit id request c₀ = (.ok result, c)) :
    k.query id request c₀ = Cursor.ofResult k.runner id result k.settings c := by
  unfold query whileOpen
  rw [hopen, if_neg Bool.false_ne_true]
  simp only [bind, Talk.bind]
  rw [hsubmit]

/-- Whatever its peers do, a redirected query leaves alone what it has no business with. After the
statement has succeeded, rows at a dataplane endpoint are fetched from there: nothing is sent but
questions for the partitions, below the address of the redirect, with its token and in the session
of the connection, and neither the source of tokens nor the context is touched. The first partition
is that of the statement, the others are those of the statement that the endpoint names, and no
redirect of the endpoint counts. A redirect that cannot be followed sends nothing. Rows on a socket
take one socket at most, which is opened at the address of the redirect with its token and the
session, and no endpoint but the service of the connection is asked for anything. -/
theorem redirected_query_stays_apart {k : Connection} (hopen : k.closed = false) {id : CancelId}
    {request : StatementRequest} {c₀ c : Conversation} {result : ResultSet}
    (hsubmit : k.runner.submit id request c₀ = (.ok result, c)) {redirect : Redirect}
    (hredirect : result.metadata.redirect = some redirect) :
    let opened := k.query id request c₀
    -- Rows at a dataplane endpoint.
    (redirect.kind = .resultSet →
      ((∃ e, Url.ofString redirect.uri = .error e) ∨ redirect.token = "" →
        ∃ message, opened = (.error (.client message), c)) ∧
      (∀ e, redirect.runner k.settings = .error e → opened = (.error e, c)) ∧
      ∀ x, redirect.runner k.settings = .ok x → ∃ address base,
        Redirect.address redirect.uri = .ok address ∧ Server.base address = .ok base ∧
        c.Apart (Sending.Fetches base redirect.token k.maintenance k.params.sessionId
          result.statementId 0) opened.2 ∧
        ∀ r, opened.1 = .ok r → ∃ first : ResultSet,
          (x.await id result.statementId 0 c).1 = .ok first ∧
          r = .paged (.ofResult x id
            { first with metadata := { first.metadata with redirect := none } } k.params.hints) ∧
          r.Always (Apart fun s => ∃ p : Nat, p ≠ 0 ∧ s.Fetches base redirect.token k.maintenance
            k.params.sessionId first.statementId (PagedCursor.partNumber p)) ∧
          -- Of a partition that is fetched later, nothing counts but its rows.
          ∀ rows, Relation.ReflTransGen Cursor.Goes r (.paged rows) → rows.closed = false →
            ∀ row p, PagedCursor.locate rows.partitions rows.position 0 = some (row, p) →
            p ≠ rows.partition → ∀ (c₁ c₂ : Conversation) (page : ResultSet),
            x.await id first.statementId (PagedCursor.partNumber p) c₁ = (.ok page, c₂) →
            ∀ dest, rows.next dest c₁ =
              ({ rows with held := page.rows, partition := p }.serve row dest, c₂)) ∧
    -- Rows on a socket.
    (redirect.kind ≠ .resultSet →
      c.Opens (Socket.IsAddress redirect.uri) ⟨redirect.token, k.params.sessionId.getD ""⟩
        (·.service = k.service) opened.2 ∧
      ∀ r, opened.1 = .ok r → r.Always (Confined (·.service = k.service))) := by
  intro opened
  have hopened : opened = Cursor.ofResult k.runner id result k.settings c :=
    query_of_submit hopen hsubmit
  refine ⟨fun hkind => ?_, fun hkind => ?_⟩
  · rw [Cursor.ofResult_of_resultSet k.runner hredirect hkind] at hopened
    have hunfollowed (e : Error) (he : redirect.runner k.settings = .error e) :
        opened = (.error e, c) :=
      hopened.trans (Cursor.openPaged_of_error he id result.statementId c)
    refine ⟨fun hinvalid => ?_, hunfollowed, fun x hx => ?_⟩
    · obtain ⟨message, he⟩ := redirect.runner_of_invalid k.settings hinvalid
      exact ⟨message, hunfollowed _ he⟩
    rw [Cursor.openPaged_of_ok hx] at hopened
    obtain ⟨address, base, haddress, hbase, hkeeps, hfetches⟩ := redirect.fetches_of_runner hx
    refine ⟨address, base, haddress, hbase, ?_, fun r hr => ?_⟩
    · rw [hopened]
      have hawait := Runner.apart_await hkeeps (hfetches · result.statementId 0) id
      exact hawait.bind (fun _ => Talk.moves_pure _) c
    · rw [hopened] at hr
      obtain ⟨first, c', hfirst, hr⟩ := Talk.of_bind_eq_ok (Prod.ext hr rfl)
      cases hr
      have hdraws : (Cursor.paged (.ofResult x id first k.params.hints)).Draws x id
          first.statementId := PagedCursor.draws_ofResult x id first k.params.hints
      refine ⟨first, congrArg Prod.fst hfirst, rfl, ?_, ?_⟩
      · refine Cursor.always_of_next (fun _ dest c h => h.next dest c) (fun _ h => h.close) hdraws
          fun _ dest c h => h.apart_next hkeeps (fun s p hp hs hq => ?_) dest c
        exact ⟨p, hp, hfetches s _ _ hs hq⟩
      · intro rows hgoes hrows row p hlocate hother c₁ c₂ page hawait dest
        have hkept : (Cursor.paged rows).Draws x id first.statementId :=
          Cursor.keeps_of_goes (fun _ dest c h => h.next dest c) (fun _ h => h.close) hdraws hgoes
        obtain ⟨rfl, rfl, hstatement, -⟩ := hkept
        rw [← hstatement] at hawait
        exact PagedCursor.next_of_other hrows dest c₁ hlocate hother hawait
  · rw [Cursor.ofResult_of_stream k.runner hredirect hkind] at hopened
    rw [hopened]
    have hopens := Cursor.opens_openStream k.runner (P := (·.service = k.service))
      (fun _ hs => hs) redirect id k.settings c
    refine ⟨hopens, fun r hr => ?_⟩
    have hrun : r.RunBy (Eq k.runner) ∧ r.token = id :=
      Cursor.of_openStream_eq_ok rfl (Prod.ext hr rfl)
    exact Cursor.always_of_next (fun _ dest c h => h.next dest c) (fun _ h => h.close) hrun.1
      fun _ dest c h => Cursor.confined_next h (fun _ hs => hs) dest c

/-- The first partition comes from a dataplane endpoint, which names another redirect and another
statement. The redirect does not count, and the second partition is asked for as one of that
statement, when the endpoint has no more answers. Another query is redirected to a stream, which is
opened under the scheme for secure sockets. -/
theorem second_partition_is_asked_of_dataplane :
    let k : Connection :=
      { params :=
          { server := "", tokens := .supplied [], sessionId := some "s", hints := false,
            insecureTls := false, connectTimeout := 0, pollInterval := 1, handshakeTimeout := 0,
            streamBuffer := 1, connectTimeout_le := by decide, pollInterval_pos := by decide,
            streamBuffer_pos := by decide }
        service := .direct }
    let redirect : Redirect := { uri := "http://a/b", token := "t", kind := .resultSet }
    let result : ResultSet :=
      { statementId := ⟨List.replicate 32 1, rfl⟩
        sqlState := .named .successfulCompletion
        metadata := { redirect := some redirect } }
    let first : ResultSet :=
      { statementId := ⟨List.replicate 32 2, rfl⟩
        sqlState := .named .successfulCompletion
        metadata := { partitions := [1, 1], redirect := some ⟨"", "u", .resultSet, none, none⟩ }
        data := some [[]] }
    let body : List UInt8 :=
      ["\x7b\"statementID\":\"22222222222222222222222222222222\",\"sqlState\":\"00000\",",
        "\"metadata\":\x7b\"partitionInfo\":[\x7b\"rowCount\":1\x7d,\x7b\"rowCount\":1\x7d],",
        "\"dataplaneRequest\":\x7b\"uri\":\"\",\"token\":\"u\",",
        "\"requestType\":\"result-set\"\x7d\x7d,\"data\":[[]]\x7d"].flatMap Text.utf8Bytes
    let page : Served HttpAnswer := { answer := .response 200 body true }
    let c₀ : Conversation :=
      { tokens := .supplied []
        network := { reachable := true, dataplane := ['a'] }
        direct := { statements := { submit := [{ answer := .ok (.completed result) }] } }
        http := { dataplane := [page] } }
    let c := (k.runner.submit 0 { statement := "q" } c₀).2
    let x : Runner :=
      { service := .rest "http://a/v2" (.fixed ⟨"t", by decide⟩) false, keepsContext := false,
        sessionId := some "s", pollInterval := 1, endpoint := .dataplane }
    let r := Cursor.paged (.ofResult x 0
      { first with metadata := { first.metadata with redirect := none } } false)
    let received : Call → Option (String × String)
      | .direct _ => none
      | .http _ request => some (request.authorization, request.url.toString)
    let stream : Redirect := { uri := "https://a/s?x=1", token := "u", kind := .streaming }
    let streamed : ResultSet := { result with metadata := { redirect := some stream } }
    let columns := Text.utf8Bytes "\x7b\"type\":\"metadata\",\"columns\":[]\x7d"
    let d₀ : Conversation :=
      { tokens := .supplied []
        network := { reachable := true, sockets := ['a'] }
        direct := { statements := { submit := [{ answer := .ok (.completed streamed) }] } }
        sockets := [{ answer := .opened [.message true columns, .close] }] }
    let d := (k.runner.submit 0 { statement := "q" } d₀).2
    let opened := k.query 0 { statement := "q" } d₀
    k.runner.submit 0 { statement := "q" } c₀ = (.ok result, c) ∧
      redirect.runner k.settings = .ok x ∧
      (k.query 0 { statement := "q" } c₀).1 = .ok r ∧
      c.Apart (Sending.Fetches "http://a/v2" "t" false (some "s") result.statementId 0)
        (k.query 0 { statement := "q" } c₀).2 ∧
      (k.query 0 { statement := "q" } c₀).2.calls.filterMap received =
        [("Bearer t", "http://a/v2/statements/11111111-1111-1111-1111-111111111111" ++
          "?partitionID=0&timezone=UTC&sessionID=s")] ∧
      r.Always (Apart fun s => ∃ p : Nat, p ≠ 0 ∧ s.Fetches "http://a/v2" "t" false (some "s")
        first.statementId (PagedCursor.partNumber p)) ∧
      (Session.act r { c₀ with http := {} } (.drain 3)).2.calls.filterMap received =
        [("Bearer t", "http://a/v2/statements/22222222-2222-2222-2222-222222222222" ++
          "?partitionID=1&timezone=UTC&sessionID=s")] ∧
      d.Opens (Socket.IsAddress "https://a/s?x=1") ⟨"u", "s"⟩ (·.service = .direct) opened.2 ∧
      opened.2.attempts.map Url.toString = ["wss://a/s?x=1"] ∧
      opened.2.dials = [.opened "/s?x=1".toList (some "s") ⟨"u", "s"⟩] ∧
      ∃ rows, opened.1 = .ok rows ∧ rows.Always (Confined (·.service = .direct)) := by
  intro k redirect result first body page c₀ c x r received stream streamed columns d₀ d opened
  have hsubmit : k.runner.submit 0 { statement := "q" } c₀ = (.ok result, c) :=
    Prod.ext (by decide +kernel) rfl
  have hrunner : redirect.runner k.settings = .ok x := by decide +kernel
  obtain ⟨-, -, hfollowed⟩ := (redirected_query_stays_apart rfl hsubmit rfl).1 rfl
  obtain ⟨address, base, haddress, hbase, hapart, hrows⟩ := hfollowed x hrunner
  have haddress' : Redirect.address redirect.uri = .ok "http://a/v2" := by decide +kernel
  have hbase' : Server.base "http://a/v2" = .ok "http://a/v2" := by decide +kernel
  obtain rfl : "http://a/v2" = address := Except.ok.inj (haddress'.symm.trans haddress)
  obtain rfl : "http://a/v2" = base := Except.ok.inj (hbase'.symm.trans hbase)
  have hfirst : (x.await 0 result.statementId 0 c).1 = .ok first := by decide +kernel
  have hopened : (k.query 0 { statement := "q" } c₀).1 = .ok r := by
    rw [query_of_submit rfl hsubmit, Cursor.ofResult_of_resultSet k.runner rfl rfl,
      Cursor.openPaged_of_ok hrunner, Talk.fst_bind_pure, hfirst]
    rfl
  obtain ⟨first', hfirst', -, hlater, -⟩ := hrows r hopened
  obtain rfl : first = first' := Except.ok.inj (hfirst.symm.trans hfirst')
  have hstreamed : k.runner.submit 0 { statement := "q" } d₀ = (.ok streamed, d) :=
    Prod.ext (by decide +kernel) rfl
  obtain ⟨hopens, hstays⟩ := (redirected_query_stays_apart rfl hstreamed rfl).2 (by decide)
  obtain ⟨hwidth, hattempts, hdials⟩ : opened.1.toOption.map Cursor.width = some 0 ∧
      opened.2.attempts.map Url.toString = ["wss://a/s?x=1"] ∧
      opened.2.dials = [.opened "/s?x=1".toList (some "s") ⟨"u", "s"⟩] := by decide +kernel
  obtain ⟨rows, hrows, -⟩ := Text.exists_of_toOption_map hwidth
  exact ⟨hsubmit, hrunner, hopened, hapart, by decide +kernel, hlater, by decide +kernel, hopens,
    hattempts, hdials, rows, hrows, hstays rows hrows⟩

end Connection

end Tributary
