import Tributary.Proofs.Client.Cancelled

/-!
# Closing

A connection that is closed refuses whatever it is asked to do, and nothing comes of the attempt.
Its cursors are not concerned: they go on as if the connection had never been closed. A cursor that
is closed itself refuses to fetch, for good.
-/

namespace Tributary

open Conversation (Turn)

/-! ## Cursors that are closed -/

theorem StreamCursor.closed_close (r : StreamCursor) : r.close.closed = true := by
  unfold close
  split
  · assumption
  · rfl

theorem StreamCursor.close_close (r : StreamCursor) : r.close.close = r.close := by
  rw [close, if_pos r.closed_close]

namespace Cursor

theorem close_close (r : Cursor) : r.close.close = r.close := by
  cases r with
  | paged rows => rfl
  | streamed rows => exact congrArg streamed rows.close_close

/-- A closed cursor fetches nothing: the destination, the cursor and the conversation stay. -/
theorem next_close (r : Cursor) (dest : List Value) (c : Conversation) :
    r.close.next dest c = (⟨.error (.client "rows are closed"), dest, r.close⟩, c) := by
  cases r with
  | paged rows => rfl
  | streamed rows =>
      simp only [close, next, StreamCursor.next, rows.closed_close, if_true]
      rfl

theorem nextRow_close (r : Cursor) (c : Conversation) :
    r.close.nextRow c = ((.error (.client "rows are closed"), r.close), c) := by
  simp only [nextRow, next_close]
  rfl

theorem drain_close (r : Cursor) (most : Nat) (c : Conversation) :
    ∃ d, r.close.drain most c = (d, c) ∧ d.rows = [] ∧ d.cursor = r.close := by
  cases most with
  | zero => exact ⟨_, rfl, rfl, rfl⟩
  | succ most =>
      refine ⟨⟨[], .error (.client "rows are closed"), r.close⟩, ?_, rfl, rfl⟩
      rw [drain, nextRow_close]

end Cursor

namespace Session

/-- Nothing that is done with a closed cursor changes it, or the conversation. -/
theorem act_close (r : Cursor) (c : Conversation) (action : CursorAction) :
    (act r.close c action).1.2 = r.close ∧ (act r.close c action).2 = c := by
  cases action with
  | next width unset => simp [act, Cursor.next_close]
  | nextRow => simp [act, Cursor.nextRow_close]
  | drain most =>
      obtain ⟨d, hdrain, -, hcursor⟩ := r.drain_close most c
      simp [act, hdrain, hcursor]
  | close => exact ⟨r.close_close, rfl⟩
  | info => exact ⟨rfl, rfl⟩
  | column index => exact ⟨rfl, rfl⟩

/-- A slot keeps its cursor once that is closed, unless a query puts another one there. -/
theorem cursor?_step_of_closed {s : Session} {slot : Nat} {r : Cursor}
    (hr : s.cursor? slot = some r.close) (action : Action)
    (hkept : opening? slot (action, (s.step action).1) = none) :
    (s.step action).2.cursor? slot = some r.close := by
  cases action with
  | query request token slot' =>
      simp only [step, query] at hkept ⊢
      cases hquery : s.connection.query token request s.conversation with
      | mk result c =>
          rw [hquery] at hkept
          cases result with
          | error e => exact hr
          | ok r' =>
              simp only [cursor?_keep, opening?] at hkept ⊢
              by_cases hslot : slot = slot'
              · rw [if_pos hslot] at hkept
                cases hkept
              · rw [if_neg hslot]
                exact hr
  | onCursor slot' action =>
      simp only [step, onCursor]
      cases hr' : s.cursor? slot' with
      | none => exact hr
      | some r' =>
          simp only [cursor?_keep]
          by_cases hslot : slot = slot'
          · subst hslot
            obtain rfl := Option.some.inj (hr'.symm.trans hr)
            rw [if_pos rfl, (act_close r s.conversation action).1]
          · rw [if_neg hslot]
            exact hr
  | execute request token => exact hr
  | ping token => exact hr
  | version token => exact hr
  | beginTransaction => exact hr
  | close => exact hr
  | isClosed => exact hr
  | context => exact hr
  | setContext context => exact hr
  | params => exact hr
  | describe => exact hr
  | cancel token => exact hr
  | download type name dest token => exact hr

theorem Led.cursor?_of_closed {s u : Session} {later : Deeds} (h : Led s later u) {slot : Nat}
    {r : Cursor} (hr : s.cursor? slot = some r.close)
    (hkept : ∀ deed ∈ later, opening? slot deed = none) : u.cursor? slot = some r.close := by
  induction h with
  | start => exact hr
  | acts h action ih =>
      refine cursor?_step_of_closed (ih fun deed hmem => ?_) action (hkept _ ?_)
      · exact hkept deed (List.mem_append_left _ hmem)
      · exact List.mem_append_right _ List.mem_cons_self
  | background h hturn ih => exact ih hkept

/-! ## Connections that are closed -/

/-- The caller with the connection closed. -/
def closing (s : Session) : Session :=
  { s with connection := s.connection.close }

/-- Closing changes nothing once the connection is closed. -/
theorem closing_of_closed {s : Session} (h : s.connection.closed = true) : s.closing = s := by
  obtain ⟨⟨params, service, maintenance, closed⟩, conversation, cursors⟩ := s
  cases h
  rfl

theorem closed_step {s : Session} (h : s.connection.closed = true) (action : Action) :
    (s.step action).2.connection.closed = true := by
  cases action with
  | query request token slot =>
      simp only [step, query]
      split <;> exact h
  | onCursor slot action =>
      simp only [step, onCursor]
      split <;> exact h
  | close => rfl
  | execute request token => exact h
  | ping token => exact h
  | version token => exact h
  | beginTransaction => exact h
  | isClosed => exact h
  | context => exact h
  | setContext context => exact h
  | params => exact h
  | describe => exact h
  | cancel token => exact h
  | download type name dest token => exact h

/-- A connection is closed once its caller has closed it. -/
theorem Led.closed {s₀ s : Session} {deeds : Deeds} (h : Led s₀ deeds s)
    (hclosed : s₀.connection.closed = true ∨ .close ∈ deeds.map Prod.fst) :
    s.connection.closed = true := by
  induction h with
  | start =>
      rcases hclosed with hclosed | hmem
      · exact hclosed
      · cases hmem
  | acts h action ih =>
      rw [List.map_append, List.mem_append] at hclosed
      rcases hclosed with hclosed | hmem | hmem
      · exact closed_step (ih (.inl hclosed)) action
      · exact closed_step (ih (.inr hmem)) action
      · obtain rfl := List.mem_singleton.mp hmem
        rfl
  | background h hturn ih => exact ih hclosed

/-! ## Cursors of a closed connection -/

end Session

/-- Whether an action asks for the connection to do something, or whether it is closed. -/
def Action.asksConnection : Action → Bool
  | .query _ _ _ | .execute _ _ | .ping _ | .version _ | .download _ _ _ _ => true
  | .isClosed | .describe => true
  | _ => false

namespace Session

/-- All else comes to the same whether the connection is closed or not. -/
theorem step_closing (s : Session) {action : Action} (h : action.asksConnection = false) :
    s.closing.step action = ((s.step action).1, (s.step action).2.closing) := by
  cases action with
  | onCursor slot action =>
      have hcursor : s.closing.cursor? slot = s.cursor? slot := rfl
      simp only [step, onCursor]
      rw [hcursor]
      cases s.cursor? slot <;> rfl
  | beginTransaction => rfl
  | close => rfl
  | context => rfl
  | setContext context => rfl
  | params => rfl
  | cancel token => rfl
  | query request token slot => cases h
  | execute request token => cases h
  | ping token => cases h
  | version token => cases h
  | download type name dest token => cases h
  | isClosed => cases h
  | describe => cases h

/-! ## What a closed connection answers -/

section Refused

variable {s : Session} (hs : s.connection.closed = true)

include hs

theorem query_of_closed (request : StatementRequest) (token : CancelId) (slot : Nat) :
    s.step (.query request token slot) = (.failed (.connection .closed), s) := by
  have hquery : s.connection.query token request = Talk.fail (.connection .closed) := if_pos hs
  simp only [step, query, hquery]
  rfl

theorem execute_of_closed (request : StatementRequest) (token : CancelId) :
    s.step (.execute request token) = (.failed (.connection .closed), s) := by
  have hexecute : s.connection.execute token request = Talk.fail (.connection .closed) :=
    if_pos hs
  simp only [step, operate, hexecute]
  rfl

theorem version_of_closed (token : CancelId) :
    s.step (.version token) = (.failed (.connection .closed), s) := by
  have hversion : s.connection.version token = Talk.fail (.connection .closed) := if_pos hs
  simp only [step, operate, hversion]
  rfl

theorem ping_of_closed (token : CancelId) :
    s.step (.ping token) =
      (.failed (.connection (.bad (Error.connection .closed).message)), s) := by
  have hversion : s.connection.version token = Talk.fail (.connection .closed) := if_pos hs
  simp only [step, operate, Connection.ping, hversion]
  rfl

theorem download_of_closed (type : ResourceType) (name : String) (dest : Destination)
    (token : CancelId) :
    s.step (.download type name dest token) =
      (.downloaded (.error (.connection .closed)) dest, s) := by
  have hfetch : s.connection.fetch token type name = Talk.fail (.connection .closed) := if_pos hs
  simp only [step, download, Connection.download, hfetch]
  rfl

/-- A closed connection does nothing for whoever asks it. -/
theorem step_of_closed {action : Action} (h : action.asksConnection = true) :
    (s.step action).2 = s := by
  cases action with
  | query request token slot => rw [query_of_closed hs]
  | execute request token => rw [execute_of_closed hs]
  | ping token => rw [ping_of_closed hs]
  | version token => rw [version_of_closed hs]
  | download type name dest token => rw [download_of_closed hs]
  | isClosed => rfl
  | describe => rfl
  | onCursor slot action => cases h
  | beginTransaction => cases h
  | close => cases h
  | context => cases h
  | setContext context => cases h
  | params => cases h
  | cancel token => cases h

end Refused

/-- Deeds that do not ask the connection are the same deeds with the connection closed. -/
theorem Led.closing {s t : Session} {later : Deeds} (h : Led s later t)
    (hlater : ∀ deed ∈ later, deed.1.asksConnection = false) :
    Led s.closing later t.closing := by
  induction h with
  | start => exact .start
  | @acts deeds t h action ih =>
      have hled := ih fun deed hmem => hlater deed (List.mem_append_left _ hmem)
      have haction := hlater _ (List.mem_append_right _ List.mem_cons_self)
      have hstep := hled.acts action
      rwa [step_closing t haction] at hstep
  | @background deeds t c h hturn ih =>
      refine (ih hlater).background (c := c) ?_
      rwa [show t.closing.connection.Runs = t.connection.Runs from runs_close t.connection]

/-- What a caller does after closing the connection could be done without closing it, apart from
what is refused. -/
theorem Led.of_closing {s u : Session} {later : Deeds} (h : Led s.closing later u) :
    ∃ t, Led s (later.filter (!·.1.asksConnection)) t ∧ u = t.closing := by
  induction h with
  | start => exact ⟨s, .start, rfl⟩
  | @acts deeds u h action ih =>
      obtain ⟨t, hled, rfl⟩ := ih
      rw [List.filter_append]
      cases haction : action.asksConnection with
      | true =>
          refine ⟨t, ?_, step_of_closed rfl haction⟩
          rw [List.filter_cons_of_neg (by simp [haction]), List.filter_nil, List.append_nil]
          exact hled
      | false =>
          rw [step_closing t haction, List.filter_cons_of_pos (by simp [haction])]
          exact ⟨_, hled.acts action, rfl⟩
  | @background deeds u c h hturn ih =>
      obtain ⟨t, hled, rfl⟩ := ih
      rw [show t.closing.connection.Runs = t.connection.Runs from runs_close t.connection] at hturn
      exact ⟨_, hled.background hturn, rfl⟩

/-! ## Closing -/

/-- Closing is final for the connection and invisible to its cursors. Once the caller has closed
the connection, whatever it is asked to do is refused and changes nothing, and closing it again
changes nothing either. What else the caller does afterwards, on cursors in particular, comes to
the same as in the run that leaves out the closing and all that is refused, and the other way
round. A cursor that is closed itself stays closed, and fetches nothing. -/
theorem closing_is_final {k : Connection} {peers : Conversation} {deeds : Deeds} {s : Session}
    (h : Led (start k peers) deeds s) :
    -- Once the connection is closed.
    (.close ∈ deeds.map Prod.fst →
      (∀ request token slot,
        s.step (.query request token slot) = (.failed (.connection .closed), s)) ∧
      (∀ request token, s.step (.execute request token) = (.failed (.connection .closed), s)) ∧
      (∀ token, s.step (.version token) = (.failed (.connection .closed), s)) ∧
      (∀ type name dest token, s.step (.download type name dest token) =
        (.downloaded (.error (.connection .closed)) dest, s)) ∧
      (∀ token, s.step (.ping token) =
        (.failed (.connection (.bad (Error.connection .closed).message)), s)) ∧
      s.step .close = (.done, s)) ∧
      -- What follows the closing, without the closing.
      (∀ later u, Led (s.step .close).2 later u →
        ∃ t, Led s (later.filter (!·.1.asksConnection)) t ∧ u = (t.step .close).2) ∧
      (∀ later t, (∀ deed ∈ later, deed.1.asksConnection = false) → Led s later t →
        Led (s.step .close).2 later (t.step .close).2) ∧
      -- Once a cursor is closed, until a query puts another one into its slot.
      ∀ slot r later u, s.cursor? slot = some r → Led (s.step (.onCursor slot .close)).2 later u →
        (∀ deed ∈ later, opening? slot deed = none) →
        u.cursor? slot = some r.close ∧
        (∀ width unset, (u.step (.onCursor slot (.next width unset))).1 =
          .fetched (.error (.client "rows are closed"))
            (List.replicate (width.getD r.close.width) unset)) ∧
        (u.step (.onCursor slot .nextRow)).1 = .failed (.client "rows are closed") ∧
        (u.step (.onCursor slot .close)).1 = .done ∧
        ∀ action, (u.step (.onCursor slot action)).2.conversation = u.conversation ∧
          ∀ slot', (u.step (.onCursor slot action)).2.cursor? slot' = u.cursor? slot' := by
  refine ⟨fun hmem => ?_, fun later u => Led.of_closing, fun later t hlater hled => ?_, ?_⟩
  · have hs : s.connection.closed = true := h.closed (.inr hmem)
    refine ⟨query_of_closed hs, execute_of_closed hs, version_of_closed hs, download_of_closed hs,
      ping_of_closed hs, ?_⟩
    exact congrArg (Prod.mk Outcome.done) (closing_of_closed hs)
  · exact hled.closing hlater
  · intro slot r later u hr hled hkept
    have hclosed : (s.step (.onCursor slot .close)).2.cursor? slot = some r.close := by
      simp [step, onCursor, hr, act, cursor?_keep]
    have hu : u.cursor? slot = some r.close := hled.cursor?_of_closed hclosed hkept
    refine ⟨hu, fun width unset => ?_, ?_, ?_, fun action => ?_⟩
    · simp [step, onCursor, hu, act, Cursor.next_close]
    · simp [step, onCursor, hu, act, Cursor.nextRow_close, Outcome.ofExcept]
    · simp [step, onCursor, hu, act]
    · obtain ⟨hcursor, hconversation⟩ := act_close r u.conversation action
      simp only [step, onCursor, hu]
      refine ⟨hconversation, fun slot' => ?_⟩
      rw [cursor?_keep, hcursor]
      split
      next hslot => rw [hslot, hu]
      next => rfl

/-- A connection is closed after the first of two rows. It refuses a download, while the second row
is still fetched from the service; then the cursor is closed as well. -/
theorem cursor_outlives_connection :
    let k : Connection :=
      { params :=
          { server := "", tokens := .supplied [], sessionId := none, hints := false,
            insecureTls := false, connectTimeout := 0, pollInterval := 1, handshakeTimeout := 0,
            streamBuffer := 1, connectTimeout_le := by decide, pollInterval_pos := by decide,
            streamBuffer_pos := by decide }
        service := .direct }
    let part (cell : String) : ResultSet :=
      { statementId := ⟨List.replicate 32 1, rfl⟩
        sqlState := .named .successfulCompletion
        metadata :=
          { partitions := [1, 1], columns := [{ name := "a", declared := "VARCHAR" }] }
        data := some [[some cell]] }
    let peers := Conversation.withScripts [{ answer := .ok (.completed (part "x")) }]
      [{ answer := .ok (.completed (part "y")) }]
    let r := PagedCursor.ofResult k.runner 0 (part "x") false
    let deeds : Deeds :=
      [(.query { statement := "SELECT 1;" } 0 0, .opened (.paged r)),
        (.onCursor 0 .nextRow, .row (some [.string "x"])), (.close, .done)]
    let rest : Deeds := [(.onCursor 0 .nextRow, .row (some [.string "y"]))]
    let s := ((start k peers).run (deeds.map Prod.fst)).2
    let dest : Destination := { content := some [1] }
    s.step (.download .functionSource "f" dest 0) =
        (.downloaded (.error (.connection .closed)) dest, s) ∧
      ∃ u, Led s rest u ∧ u.conversation.calls.length = 2 ∧
        ((u.step (.onCursor 0 .close)).2.step (.onCursor 0 .nextRow)).1 =
          .failed (.client "rows are closed") := by
  intro k part peers r deeds rest s dest
  let s₀ := ((start k peers).run ((deeds.take 2).map Prod.fst)).2
  have hled₀ : Led (start k peers) (deeds.take 2) s₀ := (Led.start.acts _).acts _
  have hled : Led (start k peers) deeds s := hled₀.acts _
  -- The second row lies in the other partition, which is fetched.
  let r₁ : PagedCursor := { r with position := 1 }
  let r₂ : PagedCursor := { r with position := 2, partition := 1, held := [[some "y"]] }
  let c := (k.runner.await 0 (part "x").statementId 1 s₀.conversation).2
  let t : Session := { s₀ with conversation := c }.keep 0 (.paged r₂)
  have hawait : k.runner.await 0 (part "x").statementId 1 s₀.conversation = (.ok (part "y"), c) :=
    Prod.ext ((congrArg Prod.fst (Runner.await_eq ..)).trans rfl) rfl
  have hnext : r₁.next [.null] s₀.conversation = (⟨.ok true, [.string "y"], r₂⟩, c) :=
    PagedCursor.next_of_other (r := r₁) rfl [.null] s₀.conversation rfl Nat.one_ne_zero hawait
  have hstep : s₀.step (.onCursor 0 .nextRow) = (.row (some [.string "y"]), t) :=
    congrArg
      (fun (f : Fetched PagedCursor × Conversation) =>
        (Outcome.ofExcept .row (f.1.more.map fun more => if more then some f.1.slots else none),
          { s₀ with conversation := f.2 }.keep 0 (.paged f.1.cursor))) hnext
  have hrest : Led s₀ rest t := by
    have hacts : Led s₀ [(.onCursor 0 .nextRow, (s₀.step (.onCursor 0 .nextRow)).1)]
        (s₀.step (.onCursor 0 .nextRow)).2 := Led.start.acts _
    rwa [hstep] at hacts
  have hcalls : c.calls.length = 2 :=
    congrArg (fun p => p.2.calls.length) (Runner.await_eq k.runner 0 (part "x").statementId 1 _)
  obtain ⟨-, -, hgoesOn, -⟩ := closing_is_final hled₀
  obtain ⟨hrefused, -, -, -⟩ := closing_is_final hled
  obtain ⟨-, -, -, hdownload, -, -⟩ := hrefused (by simp [deeds])
  have hu : Led s rest (t.step .close).2 :=
    hgoesOn rest _ (by simp [rest, Action.asksConnection]) hrest
  obtain ⟨-, -, -, hcursors⟩ := closing_is_final (hled.trans hu)
  refine ⟨hdownload .functionSource "f" dest 0, _, hu, hcalls, ?_⟩
  exact (hcursors 0 _ [] _ rfl .start (by simp)).2.2.1

end Session

end Tributary
