import Tributary.Client.Session
import Tributary.Proofs.Statement.Asking

/-!
# Exchanges of an operation

Whatever a client does for an operation is made of exchanges: a statement is submitted in the
context of the moment or asked for, the service is asked for its version or a resource, or a socket
is opened. Statements are run by few runners: the one of the connection, and those of the redirects
that it followed. A preorder that *allows the exchanges* of an operation is kept by everything that
connections and cursors do for the operation.
-/

namespace Tributary

/-- A relation holds wherever an exchange takes place for an operation, whose statements are run by
certain runners. A socket is opened only while the operation goes on. -/
structure Conversation.AllowsExchanges (R : Conversation → Conversation → Prop)
    (runs : Runner → Prop) (id : CancelId) : Prop where
  submitted {x : Runner} (hx : runs x) (request : StatementRequest) (c : Conversation) :
    R c (x.ask id (.submit (x.body c.context request.statement) request.attachments) c).2
  polled {x : Runner} (hx : runs x) (statementId : Uuid) (part : Int) (c : Conversation) :
    R c (x.ask id (.status statementId part x.sessionId) c).2
  askedVersion (service : Service) (c : Conversation) :
    R c (service.guarded id service.version c).2
  downloaded (service : Service) (type : ResourceType) (organization : Uuid) (name : String)
    (c : Conversation) :
    R c (service.guarded id (service.download type organization name) c).2
  dialled (uri token : String) (sessionId : Option String) (timeout : Duration)
    {c : Conversation} (h : c.isCancelled id = false) :
    R c (Socket.dial uri token sessionId timeout c).2

theorem Conversation.AllowsExchanges.mono {R : Conversation → Conversation → Prop}
    {runs fewer : Runner → Prop} {id : CancelId} (h : AllowsExchanges R runs id)
    (hfewer : ∀ x, fewer x → runs x) : AllowsExchanges R fewer id where
  submitted hx := h.submitted (hfewer _ hx)
  polled hx := h.polled (hfewer _ hx)
  askedVersion := h.askedVersion
  downloaded := h.downloaded
  dialled := h.dialled

/-- No exchange cancels an operation unless an answer does. -/
theorem Conversation.sparing_allowsExchanges (spared : CancelId) (runs : Runner → Prop)
    (id : CancelId) : AllowsExchanges (Sparing spared) runs id where
  submitted _ _ c := Runner.sparing_ask spared id _ _ c
  polled _ _ _ := Runner.sparing_ask spared id _ _
  askedVersion service := (service.sparing_version spared).guarded service id
  downloaded service type organization name :=
    (service.sparing_download spared type organization name).guarded service id
  dialled uri token sessionId timeout _ _ :=
    Socket.sparing_dial spared uri token sessionId timeout _

open Conversation (AllowsExchanges)
open Talk (Moves)

variable {R : Conversation → Conversation → Prop} [IsPreorder Conversation R]
  {runs : Runner → Prop} {id : CancelId}

/-! ## Statements -/

namespace Runner

theorem moves_await_of {x : Runner} (hR : AllowsExchanges R runs id) (hx : runs x)
    (statementId : Uuid) (part : Int) : Moves R (x.await id statementId part) :=
  moves_await (hR.polled hx statementId part)

theorem moves_submit_of {x : Runner} (hR : AllowsExchanges R runs id) (hx : runs x)
    (request : StatementRequest) : Moves R (x.submit id request) :=
  moves_submit (hR.submitted hx request) fun statementId => hR.polled hx statementId 0

end Runner

/-! ## Cursors -/

namespace History

/-- Reporting an error takes a statement that is submitted, or nothing. -/
theorem moves_report_of_submit {lookup : Option (String × Runner)}
    (h : ∀ l ∈ lookup, ∀ request, Moves R (l.2.submit id request)) (e : StreamError)
    (c : Conversation) : R c (report lookup id e c).2 := by
  cases lookup with
  | none => exact refl_of R c
  | some l => exact h l rfl { statement := statement l.1 } c

theorem moves_report (hR : AllowsExchanges R runs id) {lookup : Option (String × Runner)}
    (h : ∀ l ∈ lookup, runs l.2) (e : StreamError) (c : Conversation) :
    R c (report lookup id e c).2 :=
  moves_report_of_submit (fun l hl => Runner.moves_submit_of hR (h l hl)) e c

end History

namespace StreamCursor

theorem moves_ofEvents_of_submit {lookup : Option (String × Runner)}
    (h : ∀ l ∈ lookup, ∀ request, Moves R (l.2.submit id request)) (hints : Bool)
    (events : List SocketEvent) : Moves R (ofEvents lookup id hints events) := by
  intro c
  unfold ofEvents
  split
  · exact refl_of R c
  · exact History.moves_report_of_submit h _ c
  · exact refl_of R c

theorem moves_ofEvents (hR : AllowsExchanges R runs id) {lookup : Option (String × Runner)}
    (h : ∀ l ∈ lookup, runs l.2) (hints : Bool) (events : List SocketEvent) :
    Moves R (ofEvents lookup id hints events) :=
  moves_ofEvents_of_submit (fun l hl => Runner.moves_submit_of hR (h l hl)) hints events

/-- A cursor that is opened keeps what can be looked up and its operation. -/
theorem of_ofEvents_eq_ok {lookup : Option (String × Runner)} {hints : Bool}
    {events : List SocketEvent} {c c' : Conversation} {r : StreamCursor}
    (h : ofEvents lookup id hints events c = (.ok r, c')) : r.lookup = lookup ∧ r.token = id := by
  unfold ofEvents at h
  split at h
  · cases h
    exact ⟨rfl, rfl⟩
  · cases h
  · cases h

/-- A fetch does no more than report an error. -/
theorem moves_next_of_submit {r : StreamCursor}
    (h : ∀ l ∈ r.lookup, ∀ request, Moves R (l.2.submit r.token request)) (dest : List Value)
    (c : Conversation) : R c (r.next dest c).2 := by
  unfold next
  split
  · exact refl_of R c
  split
  · exact refl_of R c
  split
  · exact refl_of R c
  split
  · exact refl_of R c
  · exact refl_of R c
  · exact History.moves_report_of_submit h _ c
  · exact refl_of R c

theorem next_keeps (r : StreamCursor) (dest : List Value) (c : Conversation) :
    (r.next dest c).1.cursor.lookup = r.lookup ∧ (r.next dest c).1.cursor.token = r.token := by
  unfold next
  split
  · exact ⟨rfl, rfl⟩
  split
  · exact ⟨rfl, rfl⟩
  split
  · exact ⟨rfl, rfl⟩
  split <;> exact ⟨rfl, rfl⟩

end StreamCursor

namespace PagedCursor

/-- Holding another partition changes nothing else about a cursor. -/
theorem of_holding_eq_ok {r r' : PagedCursor} {partition : Nat} {c c' : Conversation}
    (h : r.holding partition c = (.ok r', c')) :
    ∃ held, r' = { r with held, partition } := by
  unfold holding at h
  split at h
  next hsame =>
    cases h
    exact ⟨r.held, by rw [hsame]⟩
  next =>
    simp only [bind, Talk.bind] at h
    split at h
    next result c₁ hawait =>
      cases h
      exact ⟨result.rows, rfl⟩
    next => cases h

/-- A fetch waits for the partition that the next row lies in, unless that is held. -/
theorem moves_next_of_await {r : PagedCursor}
    (h : r.closed = false → ∀ row partition,
      locate r.partitions r.position 0 = some (row, partition) → partition ≠ r.partition →
      Moves R (r.runner.await r.token r.statementId (partNumber partition)))
    (dest : List Value) (c : Conversation) : R c (r.next dest c).2 := by
  unfold next
  split
  · exact refl_of R c
  next hopen =>
    split
    · exact refl_of R c
    next row partition hlocate =>
      have hmoves : R c (r.holding partition c).2 := by
        unfold holding
        split
        · exact refl_of R c
        next hother =>
          exact (h (Bool.eq_false_iff.mpr hopen) row partition hlocate hother).bind
            (fun _ => Talk.moves_pure _) c
      split
      next e c' hc =>
        rw [hc] at hmoves
        exact hmoves
      next r' c' hc =>
        rw [hc] at hmoves
        exact hmoves

theorem serve_keeps (r : PagedCursor) (row : Nat) (dest : List Value) :
    (r.serve row dest).cursor = { r with position := r.position + 1 } := by
  unfold serve
  dsimp only
  split <;> rfl

theorem next_keeps (r : PagedCursor) (dest : List Value) (c : Conversation) :
    (r.next dest c).1.cursor.runner = r.runner ∧ (r.next dest c).1.cursor.token = r.token := by
  unfold next
  split
  · exact ⟨rfl, rfl⟩
  split
  · exact ⟨rfl, rfl⟩
  split
  · exact ⟨rfl, rfl⟩
  next r' c' hc =>
    obtain ⟨held, rfl⟩ := of_holding_eq_ok hc
    rw [serve_keeps]
    exact ⟨rfl, rfl⟩

end PagedCursor

/-- The runner of a redirect asks the endpoint at the address of the redirect, with the token of the
redirect. It keeps no context. -/
theorem Redirect.of_runner_eq_ok {redirect : Redirect} {settings : CursorSettings} {x : Runner}
    (h : redirect.runner settings = .ok x) :
    ∃ address base token, Redirect.address redirect.uri = .ok address ∧
      Server.base address = .ok base ∧ FixedToken.token token = redirect.token ∧
      x = { service := .rest base (.fixed token) settings.maintenance, keepsContext := false,
            sessionId := settings.sessionId, pollInterval := settings.pollInterval,
            endpoint := .dataplane } := by
  unfold runner at h
  simp only [bind, Except.bind] at h
  split at h
  next => cases h
  next address haddress =>
    split at h
    next => cases h
    next token htoken =>
      split at h
      next => cases h
      next base hbase =>
        cases h
        refine ⟨address, base, token, haddress, ?_, ?_, rfl⟩
        · cases hserver : Server.base address with
          | error e =>
              rw [hserver] at hbase
              cases hbase
          | ok base' =>
              rw [hserver] at hbase
              cases hbase
              rfl
        · unfold bearer FixedToken.of at htoken
          split at htoken
          · cases htoken
          · cases htoken
            rfl

namespace Cursor

/-- The operation that a cursor belongs to. -/
def token : Cursor → CancelId
  | .paged rows => rows.token
  | .streamed rows => rows.token

/-- The statements that a cursor runs are run by certain runners. -/
def RunBy (runs : Runner → Prop) : Cursor → Prop
  | .paged rows => runs rows.runner
  | .streamed rows => ∀ l ∈ rows.lookup, runs l.2

theorem runBy_true (r : Cursor) : r.RunBy fun _ => True := by
  cases r with
  | paged rows => exact trivial
  | streamed rows => exact fun _ _ => trivial

theorem moves_next {r : Cursor} (hR : AllowsExchanges R runs r.token) (h : r.RunBy runs)
    (dest : List Value) (c : Conversation) : R c (r.next dest c).2 := by
  cases r with
  | paged rows =>
      exact PagedCursor.moves_next_of_await
        (fun _ _ _ _ _ => Runner.moves_await_of hR h rows.statementId _) dest c
  | streamed rows =>
      exact StreamCursor.moves_next_of_submit
        (fun l hl => Runner.moves_submit_of hR (h l hl)) dest c

theorem RunBy.next {r : Cursor} (h : r.RunBy runs) (dest : List Value) (c : Conversation) :
    (r.next dest c).1.cursor.RunBy runs := by
  cases r with
  | paged rows =>
      show runs (rows.next dest c).1.cursor.runner
      rw [(rows.next_keeps dest c).1]
      exact h
  | streamed rows =>
      show ∀ l ∈ (rows.next dest c).1.cursor.lookup, runs l.2
      rw [(rows.next_keeps dest c).1]
      exact h

theorem token_next (r : Cursor) (dest : List Value) (c : Conversation) :
    (r.next dest c).1.cursor.token = r.token := by
  cases r with
  | paged rows => exact (rows.next_keeps dest c).2
  | streamed rows => exact (rows.next_keeps dest c).2

section

variable {I : Cursor → Prop} (hkeeps : ∀ r dest c, I r → I (Cursor.next r dest c).1.cursor)
include hkeeps

/-- What every fetch keeps of a cursor is kept by fetching rows until they end. -/
theorem drain_keeps {r : Cursor} (h : I r) (count : Nat) (c : Conversation) :
    I (r.drain count c).1.cursor := by
  induction count generalizing r c with
  | zero => exact h
  | succ count ih =>
      have hrow : I (r.nextRow c).1.2 := hkeeps r _ c h
      unfold drain
      split
      next row r' c' hc =>
        rw [hc] at hrow
        exact ih hrow c'
      next r' c' hc =>
        rw [hc] at hrow
        exact hrow
      next e r' c' hc =>
        rw [hc] at hrow
        exact hrow

/-- Fetching rows until they end moves a conversation as every fetch does. -/
theorem moves_drain_of_next (hnext : ∀ r dest c, I r → R c (Cursor.next r dest c).2) {r : Cursor}
    (h : I r) (count : Nat) (c : Conversation) : R c (r.drain count c).2 := by
  induction count generalizing r c with
  | zero => exact refl_of R c
  | succ count ih =>
      have hmoves : R c (r.nextRow c).2 := hnext r _ c h
      have hkept : I (r.nextRow c).1.2 := hkeeps r _ c h
      unfold drain
      split
      next row r' c' hc =>
        rw [hc] at hmoves hkept
        exact trans_of R hmoves (ih hkept c')
      next r' c' hc =>
        rw [hc] at hmoves
        exact hmoves
      next e r' c' hc =>
        rw [hc] at hmoves
        exact hmoves

end

theorem RunBy.close {r : Cursor} (h : r.RunBy runs) : r.close.RunBy runs := by
  cases r with
  | paged rows => exact h
  | streamed rows =>
      unfold Cursor.close StreamCursor.close
      dsimp only
      split <;> exact h

theorem token_close (r : Cursor) : r.close.token = r.token := by
  cases r with
  | paged rows => rfl
  | streamed rows =>
      unfold Cursor.close StreamCursor.close
      dsimp only
      split <;> rfl

/-! ## Opening cursors -/

variable {settings : CursorSettings}

theorem moves_openPaged (hR : AllowsExchanges R runs id) {redirect : Redirect}
    (h : ∀ x, redirect.runner settings = .ok x → runs x) (statementId : Uuid) :
    Moves R (openPaged redirect id statementId settings) := by
  unfold openPaged
  cases hx : redirect.runner settings with
  | error e => exact Talk.moves_fail e
  | ok x =>
      exact (Runner.moves_await_of hR (h x hx) statementId 0).bind fun _ => Talk.moves_pure _

theorem of_openPaged_eq_ok {redirect : Redirect}
    (h : ∀ x, redirect.runner settings = .ok x → runs x) {statementId : Uuid}
    {c c' : Conversation} {r : Cursor}
    (hr : openPaged redirect id statementId settings c = (.ok r, c')) :
    r.RunBy runs ∧ r.token = id := by
  obtain ⟨x, c₁, hx, hr⟩ := Talk.of_bind_eq_ok hr
  obtain ⟨first, c₂, -, hr⟩ := Talk.of_bind_eq_ok hr
  cases hr
  exact ⟨h x (congrArg Prod.fst hx), rfl⟩

theorem runs_of_lookup {primary : Runner} (h : runs primary) (queryId : Option String) :
    ∀ l ∈ queryId.map fun id => (id, primary), runs l.2 := by
  intro l hl
  obtain ⟨id, -, rfl⟩ := Option.map_eq_some_iff.mp hl
  exact h

theorem moves_openStream (hR : AllowsExchanges R runs id) {primary : Runner}
    (h : runs primary) (redirect : Redirect) :
    Moves R (openStream primary redirect id settings) := by
  refine Talk.moves_untilCancelled fun c hgoing => ?_
  have hdial := hR.dialled redirect.uri redirect.token settings.sessionId
    settings.handshakeTimeout hgoing
  refine Talk.moves_bind_of hdial fun events => Moves.bind ?_ fun rows => Talk.moves_pure _
  exact StreamCursor.moves_ofEvents hR (runs_of_lookup h redirect.queryId) settings.hints events

theorem of_openStream_eq_ok {primary : Runner} (h : runs primary) {redirect : Redirect}
    {c c' : Conversation} {r : Cursor}
    (hr : openStream primary redirect id settings c = (.ok r, c')) :
    r.RunBy runs ∧ r.token = id := by
  obtain ⟨events, c₁, -, hr⟩ := Talk.of_bind_eq_ok (Talk.of_untilCancelled_eq_ok hr)
  obtain ⟨rows, c₂, hrows, hr⟩ := Talk.of_bind_eq_ok hr
  cases hr
  obtain ⟨hlookup, htoken⟩ := StreamCursor.of_ofEvents_eq_ok hrows
  refine ⟨?_, htoken⟩
  show ∀ l ∈ rows.lookup, runs l.2
  rw [hlookup]
  exact runs_of_lookup h redirect.queryId

theorem moves_ofResult (hR : AllowsExchanges R runs id) {primary : Runner} (h : runs primary)
    (hd : ∀ (redirect : Redirect) x, redirect.runner settings = .ok x → runs x)
    (result : ResultSet) : Moves R (ofResult primary id result settings) := by
  unfold ofResult
  split
  · exact Talk.moves_pure _
  next redirect _ =>
    split
    · exact moves_openPaged hR (hd redirect) result.statementId
    · exact moves_openStream hR h redirect
    · exact moves_openStream hR h redirect

/-- A cursor that is opened belongs to the operation that opens it. -/
theorem of_ofResult_eq_ok {primary : Runner} (h : runs primary)
    (hd : ∀ (redirect : Redirect) x, redirect.runner settings = .ok x → runs x)
    {result : ResultSet} {c c' : Conversation} {r : Cursor}
    (hr : ofResult primary id result settings c = (.ok r, c')) : r.RunBy runs ∧ r.token = id := by
  unfold ofResult at hr
  cases hredirect : result.metadata.redirect with
  | none =>
      rw [hredirect] at hr
      cases hr
      exact ⟨h, rfl⟩
  | some redirect =>
      rw [hredirect] at hr
      dsimp only at hr
      cases hkind : redirect.kind with
      | resultSet =>
          rw [hkind] at hr
          exact of_openPaged_eq_ok (hd redirect) hr
      | streaming =>
          rw [hkind] at hr
          exact of_openStream_eq_ok h hr
      | unknown =>
          rw [hkind] at hr
          exact of_openStream_eq_ok h hr

end Cursor

/-! ## Connections -/

namespace Connection

/-- What runs the statements of a connection and of its cursors: its own runner, and those of the
redirects that it follows. -/
inductive Runs (k : Connection) : Runner → Prop where
  | own : k.Runs k.runner
  | redirected {redirect : Redirect} {x : Runner} (h : redirect.runner k.settings = .ok x) :
    k.Runs x

theorem moves_whileOpen (k : Connection) {x : Talk α} (hx : Moves R x) :
    Moves R (k.whileOpen x) := by
  unfold whileOpen
  split
  · exact Talk.moves_fail _
  · exact hx

variable {k : Connection}

theorem moves_query (hR : AllowsExchanges R k.Runs id) (request : StatementRequest) :
    Moves R (k.query id request) :=
  k.moves_whileOpen <| (Runner.moves_submit_of hR .own request).bind fun result =>
    Cursor.moves_ofResult hR .own (fun _ _ h => .redirected h) result

theorem of_query_eq_ok {request : StatementRequest} {c c' : Conversation} {r : Cursor}
    (h : k.query id request c = (.ok r, c')) : r.RunBy k.Runs ∧ r.token = id := by
  unfold query whileOpen at h
  split at h
  · cases h
  · obtain ⟨result, c₁, -, h⟩ := Talk.of_bind_eq_ok h
    exact Cursor.of_ofResult_eq_ok .own (fun _ _ h => .redirected h) h

theorem moves_execute (hR : AllowsExchanges R k.Runs id) (request : StatementRequest) :
    Moves R (k.execute id request) :=
  k.moves_whileOpen <| (Runner.moves_submit_of hR .own request).bind fun _ =>
    Talk.moves_pure _

theorem moves_version (hR : AllowsExchanges R k.Runs id) : Moves R (k.version id) :=
  k.moves_whileOpen (hR.askedVersion k.service)

-- A ping is the question for the version, with its answer left out.
theorem moves_ping (hR : AllowsExchanges R k.Runs id) : Moves R (k.ping id) :=
  moves_version hR

theorem moves_fetch (hR : AllowsExchanges R k.Runs id) (type : ResourceType) (name : String) :
    Moves R (k.fetch id type name) := by
  refine k.moves_whileOpen fun c => ?_
  cases c.context.organization with
  | none => exact refl_of R c
  | some organization => exact hR.downloaded k.service type organization name c

theorem moves_download (hR : AllowsExchanges R k.Runs id) (type : ResourceType)
    (name : String) (dest : Destination) (c : Conversation) :
    R c (k.download id type name dest c).2 := by
  have hmoves : R c _ := moves_fetch hR type name c
  unfold download
  split
  all_goals
    next hc =>
      rw [hc] at hmoves
      exact hmoves

end Connection

/-! ## Sessions -/

namespace Session

/-- What fetching and closing keep of a cursor is kept by whatever is done with it. -/
theorem act_keeps {I : Cursor → Prop} (hnext : ∀ r dest c, I r → I (Cursor.next r dest c).1.cursor)
    (hclose : ∀ r, I r → I r.close) {r : Cursor} (h : I r) (c : Conversation)
    (action : CursorAction) : I (act r c action).1.2 := by
  cases action with
  | next width unset => exact hnext r _ c h
  | nextRow => exact hnext r _ c h
  | drain most => exact Cursor.drain_keeps hnext h most c
  | close => exact hclose r h
  | info => exact h
  | column index => exact h

/-- Whatever is done with a cursor moves a conversation as every fetch does. -/
theorem moves_act_of_next {I : Cursor → Prop}
    (hkeeps : ∀ r dest c, I r → I (Cursor.next r dest c).1.cursor)
    (hnext : ∀ r dest c, I r → R c (Cursor.next r dest c).2) {r : Cursor} (h : I r)
    (c : Conversation) (action : CursorAction) : R c (act r c action).2 := by
  cases action with
  | next width unset => exact hnext r _ c h
  | nextRow => exact hnext r _ c h
  | drain most => exact Cursor.moves_drain_of_next hkeeps hnext h most c
  | close => exact refl_of R c
  | info => exact refl_of R c
  | column index => exact refl_of R c

theorem runBy_act {r : Cursor} (h : r.RunBy runs) (c : Conversation) (action : CursorAction) :
    (act r c action).1.2.RunBy runs :=
  act_keeps (fun _ dest c h => h.next dest c) (fun _ h => h.close) h c action

theorem token_act (r : Cursor) (c : Conversation) (action : CursorAction) :
    (act r c action).1.2.token = r.token :=
  act_keeps (I := fun r' => r'.token = r.token)
    (fun r' dest c h => (r'.token_next dest c).trans h) (fun r' h => r'.token_close.trans h) rfl c
    action

/-- Whatever is done with a cursor is done for its operation. -/
theorem moves_act {r : Cursor} (hR : AllowsExchanges R runs r.token) (h : r.RunBy runs)
    (c : Conversation) (action : CursorAction) : R c (act r c action).2 :=
  moves_act_of_next (I := fun r' => r'.RunBy runs ∧ r'.token = r.token)
    (fun r' dest c h' => ⟨h'.1.next dest c, (r'.token_next dest c).trans h'.2⟩)
    (fun _ dest c h' => Cursor.moves_next (h'.2 ▸ hR) h'.1 dest c) ⟨h, rfl⟩ c action

end Session

end Tributary
