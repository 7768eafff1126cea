import Tributary.Proofs.Client.Runs
import Tributary.Proofs.Conversation.Cancellation
import Tributary.Proofs.Cursor.Frames
import Tributary.Proofs.Cursor.Paging

/-!
# Cancellation stops all traffic

A caller names an operation in each call, and a cursor belongs to the operation that it was opened
for. Which one that is can be read off what the caller has done so far. Whatever is done for an
operation is work for it, and so nothing is requested any more once the operation is cancelled.
-/

namespace Tributary

open Conversation (AllowsExchanges Keeps SameTraffic Turn Work Works)

/-! ## Moves of a session -/

namespace Session

theorem cursor?_keep (s : Session) (slot slot' : Nat) (r : Cursor) :
    (s.keep slot r).cursor? slot' = if slot' = slot then some r else s.cursor? slot' := by
  have hfilter (hne : slot' ≠ slot) (cursors : List (Nat × Cursor)) :
      (cursors.filter (·.1 != slot)).lookup slot' = cursors.lookup slot' := by
    induction cursors with
    | nil => rfl
    | cons entry cursors ih =>
        obtain ⟨key, r⟩ := entry
        by_cases hkey : key = slot
        · have hother : (slot' == key) = false := by simpa [hkey] using hne
          rw [List.filter_cons_of_neg (by simpa using hkey), ih]
          simp only [List.lookup_cons, hother]
        · rw [List.filter_cons_of_pos (by simpa using hkey)]
          simp only [List.lookup_cons, ih]
  unfold keep cursor?
  by_cases hslot : slot' = slot
  · simp [hslot]
  · have hother : (slot' == slot) = false := by simpa using hslot
    rw [if_neg hslot]
    simp only [List.lookup_cons, hother]
    exact hfilter hslot s.cursors

/-- The operation that an action belongs to. -/
def operation? (s : Session) : Action → Option CancelId
  | .query _ token _ => some token
  | .execute _ token => some token
  | .ping token => some token
  | .version token => some token
  | .download _ _ _ token => some token
  | .onCursor slot _ => (s.cursor? slot).map Cursor.token
  | _ => none

variable {R : Conversation → Conversation → Prop} [IsPreorder Conversation R]

/-- An action moves the conversation as the exchanges of its operation do, unless the caller
cancels an operation or sets the context. -/
theorem moves_step (s : Session) (action : Action)
    (hR : ∀ id, s.operation? action = some id → AllowsExchanges R (fun _ => True) id)
    (hcancel : ∀ id, action = .cancel id → R s.conversation (s.conversation.cancel id))
    (hset : ∀ context, action = .setContext context →
      R s.conversation (s.conversation.setContext context)) :
    R s.conversation (s.step action).2.conversation := by
  have hsame : R s.conversation s.conversation := refl_of R s.conversation
  have hany {id : CancelId} (h : AllowsExchanges R (fun _ => True) id) :
      AllowsExchanges R s.connection.Runs id := h.mono fun _ _ => trivial
  cases action with
  | query request token slot =>
      have hmoves := Connection.moves_query (hany (hR token rfl)) request s.conversation
      simp only [step, query]
      cases hquery : s.connection.query token request s.conversation with
      | mk result c =>
          rw [hquery] at hmoves
          cases result <;> exact hmoves
  | execute request token => exact Connection.moves_execute (hany (hR token rfl)) request _
  | ping token => exact Connection.moves_ping (hany (hR token rfl)) _
  | version token => exact Connection.moves_version (hany (hR token rfl)) _
  | beginTransaction => exact hsame
  | close => exact hsame
  | isClosed => exact hsame
  | context => exact hsame
  | setContext context => exact hset context rfl
  | params => exact hsame
  | describe => exact hsame
  | cancel token => exact hcancel token rfl
  | download type name dest token =>
      exact Connection.moves_download (hany (hR token rfl)) type name dest _
  | onCursor slot action =>
      simp only [step, onCursor]
      cases hr : s.cursor? slot with
      | none => exact hsame
      | some r =>
          have hoperation : s.operation? (.onCursor slot action) = some r.token := by
            simp [operation?, hr]
          exact moves_act (hR r.token hoperation) r.runBy_true s.conversation action

/-! ## What a caller has done -/

/-- What a caller has done so far, and what came of it. -/
abbrev Deeds := List (Action × Outcome)

/-- The operation that a cursor was opened for, if a deed has put one into a slot. -/
def opening? (slot : Nat) : Action × Outcome → Option CancelId
  | (.query _ token slot', .opened _) => if slot = slot' then some token else none
  | _ => none

/-- The operation that the cursor in a slot was opened for. -/
def openedFor (deeds : Deeds) (slot : Nat) : Option CancelId :=
  (deeds.filterMap (opening? slot)).getLast?

/-- An action is done for an operation: it is called with it, or on a cursor that was opened for
it. -/
def DoneFor (deeds : Deeds) (id : CancelId) : Action → Prop
  | .query _ token _ => token = id
  | .execute _ token => token = id
  | .ping token => token = id
  | .version token => token = id
  | .download _ _ _ token => token = id
  | .onCursor slot _ => openedFor deeds slot = some id
  | _ => False

/-- Where the deeds of a caller lead, with turns of the runners of the connection taken in the
background at any time. -/
inductive Led (s₀ : Session) : Deeds → Session → Prop where
  | start : Led s₀ [] s₀
  | acts {deeds : Deeds} {s : Session} (h : Led s₀ deeds s) (action : Action) :
    Led s₀ (deeds ++ [(action, (s.step action).1)]) (s.step action).2
  | background {deeds : Deeds} {s : Session} {c : Conversation} (h : Led s₀ deeds s)
    (hturn : Turn s.connection.Runs s.conversation c) : Led s₀ deeds { s with conversation := c }

theorem Led.trans {s₀ s s' : Session} {deeds later : Deeds} (h : Led s₀ deeds s)
    (h' : Led s later s') : Led s₀ (deeds ++ later) s' := by
  induction h' with
  | start => rwa [List.append_nil]
  | acts h' action ih =>
      rw [← List.append_assoc]
      exact ih.acts action
  | background h' hturn ih => exact ih.background hturn

theorem openedFor_append (deeds : Deeds) (deed : Action × Outcome) (slot : Nat) :
    openedFor (deeds ++ [deed]) slot = (opening? slot deed).or (openedFor deeds slot) := by
  unfold openedFor
  rw [List.filterMap_append]
  cases hdeed : opening? slot deed with
  | none => rw [List.filterMap_cons_none hdeed, List.filterMap_nil, List.append_nil, Option.none_or]
  | some id =>
      rw [List.filterMap_cons_some hdeed, List.filterMap_nil, List.getLast?_concat]
      rfl

/-- Only a query puts a cursor into a slot, and it belongs to the operation of the query. -/
theorem token_step (s : Session) (action : Action) (slot : Nat) :
    ((s.step action).2.cursor? slot).map Cursor.token =
      (opening? slot (action, (s.step action).1)).or ((s.cursor? slot).map Cursor.token) := by
  cases action with
  | query request token slot' =>
      simp only [step, query]
      cases hquery : s.connection.query token request s.conversation with
      | mk result c =>
          cases result with
          | error e => rfl
          | ok r =>
              have htoken := (Connection.of_query_eq_ok hquery).2
              simp only [cursor?_keep, opening?]
              by_cases hslot : slot = slot'
              · simp [hslot, htoken]
              · simp [hslot, cursor?]
  | onCursor slot' action =>
      simp only [step, onCursor, opening?, Option.none_or]
      cases hr : s.cursor? slot' with
      | none => rfl
      | some r =>
          simp only [cursor?_keep]
          by_cases hslot : slot = slot'
          · rw [if_pos hslot, hslot, hr]
            exact congrArg some (token_act r s.conversation action)
          · rw [if_neg hslot]
            rfl
  | execute request token => rfl
  | ping token => rfl
  | version token => rfl
  | beginTransaction => rfl
  | close => rfl
  | isClosed => rfl
  | context => rfl
  | setContext context => rfl
  | params => rfl
  | describe => rfl
  | cancel token => rfl
  | download type name dest token => rfl

/-- A cursor belongs to the operation that it was opened for. -/
theorem Led.token {s₀ s : Session} {deeds : Deeds} (h : Led s₀ deeds s)
    (hs₀ : s₀.cursors = []) (slot : Nat) :
    (s.cursor? slot).map Cursor.token = openedFor deeds slot := by
  induction h with
  | start =>
      unfold cursor?
      rw [hs₀]
      rfl
  | @acts deeds s h action ih => rw [token_step, openedFor_append, ih]
  | background h hturn ih => exact ih

theorem Led.operation {s₀ s : Session} {deeds : Deeds} (h : Led s₀ deeds s)
    (hs₀ : s₀.cursors = []) {id : CancelId} {action : Action} (hdone : DoneFor deeds id action) :
    ∀ other, s.operation? action = some other → other = id := by
  intro other hother
  cases action with
  | query request token slot => exact (Option.some.inj hother).symm.trans hdone
  | execute request token => exact (Option.some.inj hother).symm.trans hdone
  | ping token => exact (Option.some.inj hother).symm.trans hdone
  | version token => exact (Option.some.inj hother).symm.trans hdone
  | download type name dest token => exact (Option.some.inj hother).symm.trans hdone
  | onCursor slot action =>
      have hslot := h.token hs₀ slot
      rw [show openedFor deeds slot = some id from hdone] at hslot
      rw [show (s.cursor? slot).map Cursor.token = some other from hother] at hslot
      exact Option.some.inj hslot
  | beginTransaction => exact hdone.elim
  | close => exact hdone.elim
  | isClosed => exact hdone.elim
  | context => exact hdone.elim
  | setContext context => exact hdone.elim
  | params => exact hdone.elim
  | describe => exact hdone.elim
  | cancel token => exact hdone.elim

/-! ## Cancellation -/

/-- What is done for an operation is work for it. -/
theorem Led.works {s₀ s : Session} {deeds : Deeds} (h : Led s₀ deeds s) (hs₀ : s₀.cursors = [])
    {id : CancelId} {action : Action} (hdone : DoneFor deeds id action) :
    Works id s.conversation (s.step action).2.conversation := by
  apply moves_step
  · intro other hother
    rw [h.operation hs₀ hdone other hother]
    exact Conversation.works_allowsExchanges id _
  · rintro other rfl
    exact hdone.elim
  · rintro context rfl
    exact hdone.elim

theorem keeps_turn (id : CancelId) {runs : Runner → Prop} {c c' : Conversation}
    (h : Turn runs c c') : Keeps id c c' := by
  cases h with
  | submitted hx other request => exact Conversation.keeps_ask id other _ _ c
  | polled hx other statementId part => exact Conversation.keeps_ask id other _ _ c
  | askedVersion service other =>
      exact (Conversation.keeps_allowsExchanges id runs other).askedVersion service c
  | downloaded service other type organization name =>
      exact (Conversation.keeps_allowsExchanges id runs other).downloaded service type organization
        name c
  | dialled uri token sessionId timeout =>
      exact (Conversation.keeps_allowsCalls id).moves_dial uri token sessionId timeout c

/-- Whatever the caller does, an operation that is cancelled stays cancelled. -/
theorem Led.keeps {s₀ s : Session} {deeds : Deeds} (h : Led s₀ deeds s) (id : CancelId) :
    Keeps id s₀.conversation s.conversation := by
  induction h with
  | start => exact refl_of (Keeps id) _
  | acts h action ih =>
      refine trans_of (Keeps id) ih (moves_step _ action ?_ ?_ ?_)
      · exact fun other _ => Conversation.keeps_allowsExchanges id _ other
      · exact fun other _ => Conversation.keeps_cancel id other _
      · exact fun context _ hc => hc
  | background h hturn ih => exact trans_of (Keeps id) ih (keeps_turn id hturn)

end Session

namespace Session

/-- Cancellation wins and stops all traffic. Whatever is done for an operation is work for it: each
piece of it makes one request at most, and begins while the operation is not cancelled. So nothing
is requested from the moment the operation is cancelled on, and that is final. Calls with a
cancelled operation change nothing; a promise that arrives late is not followed up; a cursor over
partitions serves what it holds and stays where it is; a stream is at its end. -/
theorem cancellation_stops_traffic {k : Connection} {peers : Conversation} {deeds : Deeds}
    {s : Session} (h : Led (start k peers) deeds s) (id : CancelId) :
    -- Whatever is done for an operation is work for it.
    (∀ action, DoneFor deeds id action →
        Works id s.conversation (s.step action).2.conversation) ∧
      (∀ (x : Runner) (c : Conversation),
        (∀ request, Works id c (x.submit id request c).2) ∧
        (∀ statementId part, Works id c (x.await id statementId part c).2) ∧
        (∀ result settings, Works id c (Cursor.ofResult x id result settings c).2) ∧
        ∀ queryId e, Works id c (History.report (some (queryId, x)) id e c).2) ∧
      (∀ c c', Work id c c' → c'.requests ≤ c.requests + 1) ∧
      (∀ c c', Works id c c' → c.isCancelled id = true → c.SameTraffic c') ∧
      -- Calls after the operation is cancelled.
      (s.conversation.isCancelled id = true →
        (∀ later s', Led s later s' → s'.conversation.isCancelled id = true ∧
          ∀ action, DoneFor (deeds ++ later) id action →
            s'.conversation.SameTraffic (s'.step action).2.conversation) ∧
        (s.connection.closed = false →
          (∀ request slot, s.step (.query request id slot) = (.failed .cancelled, s)) ∧
          (∀ request, s.step (.execute request id) = (.failed .cancelled, s)) ∧
          s.step (.version id) = (.failed .cancelled, s) ∧
          s.step (.ping id) = (.failed .cancelled, s))) ∧
      -- A promise that arrives when the operation has been cancelled meanwhile.
      (∀ (x : Runner) (c c₁ : Conversation) (promise : StatementStatus),
        c.isCancelled id = false → c₁.isCancelled id = true →
        (∀ request : StatementRequest,
          x.put (.submit (x.body c.context request.statement) request.attachments) c =
            (.ok (.accepted promise), c₁) →
          ∃ c₂, c₁.SameTraffic c₂ ∧ x.submit id request c = (.error .cancelled, c₂)) ∧
        ∀ statementId part c₀, x.PutOff id statementId part c₀ c →
          x.put (.status statementId part x.sessionId) c = (.ok (.accepted promise), c₁) →
          ∃ c₂, c₁.SameTraffic c₂ ∧ x.await id statementId part c₀ = (.error .cancelled, c₂) ∧
            ∀ (request : StatementRequest) c', part = 0 →
              x.ask id (.submit (x.body c'.context request.statement) request.attachments) c' =
                (.ok (.pending statementId), c₀) →
              x.submit id request c' = (.error .cancelled, c₂)) ∧
      -- Cursors of an operation that is cancelled.
      (∀ (r : PagedCursor) (c : Conversation) (dest : List Value) (row partition : Nat),
        r.closed = false → c.isCancelled r.token = true →
        PagedCursor.locate r.partitions r.position 0 = some (row, partition) →
        (partition ≠ r.partition → r.next dest c = (⟨.error .cancelled, dest, r⟩, c)) ∧
        (partition = r.partition → ∀ cells, r.held[row]? = some cells →
          r.next dest c = (r.placed cells dest { r with position := r.position + 1 }, c))) ∧
      ∀ (r : StreamCursor) (c : Conversation) (dest : Nat → List Value) (n : Nat),
        r.closed = false → c.isCancelled r.token = true →
        ∃ r', afterFetches (StreamCursor.rowsInto dest) (.streamed r) c n = (.streamed r', c) ∧
          (r'.next (dest n) c).1.more = .ok false := by
  have hworks := Conversation.works_allowsExchanges id fun _ => True
  refine ⟨fun action => h.works rfl, ?_, fun c c' => Work.requests_le,
    fun c c' => Works.of_cancelled, ?_, ?_, ?_, ?_⟩
  · intro x c
    refine ⟨fun request => ?_, fun statementId part => ?_, fun result settings => ?_,
      fun queryId e => ?_⟩
    · exact Runner.moves_submit_of hworks trivial request c
    · exact Runner.moves_await_of hworks trivial statementId part c
    · exact Cursor.moves_ofResult hworks trivial (fun _ _ _ => trivial) result c
    · exact History.moves_report hworks (fun _ _ => trivial) e c
  · intro hc
    constructor
    · intro later s' hlater
      have hstays := hlater.keeps id hc
      exact ⟨hstays, fun action hdone => ((h.trans hlater).works rfl hdone).of_cancelled hstays⟩
    · intro hopen
      refine ⟨fun request slot => ?_, fun request => ?_, ?_, ?_⟩
      · simp only [step, query, Connection.query_of_cancelled hopen request hc]
      · simp only [step, operate, Connection.execute_of_cancelled hopen request hc]
        rfl
      · simp only [step, operate, Connection.version_of_cancelled hopen hc]
        rfl
      · simp only [step, operate, Connection.ping_of_cancelled hopen hc]
        rfl
  · intro x c c₁ promise hgoing hlate
    constructor
    · intro request hput
      exact Runner.submit_of_late_promise hgoing hput hlate
    · intro statementId part c₀ hputOff hput
      obtain ⟨c₂, hsame, hawait⟩ := Runner.await_of_late_promise hgoing hput hlate
      rw [← Runner.await_of_putOff hputOff] at hawait
      refine ⟨c₂, hsame, hawait, ?_⟩
      rintro request c' rfl hask
      unfold Runner.submit
      dsimp only
      rw [hask]
      exact hawait
  · intro r c dest row partition hopen hc hlocate
    constructor
    · exact PagedCursor.next_of_cancelled hopen hc dest hlocate
    · rintro rfl cells hcells
      rw [PagedCursor.next_of_held hopen dest c hlocate]
      unfold PagedCursor.serve PagedCursor.placed
      simp only [hcells]
  · intro r c dest n hopen hc
    obtain ⟨r', hafter, hopen', htoken⟩ := StreamCursor.fetches_of_cancelled hopen hc dest n
    refine ⟨r', hafter, ?_⟩
    rw [StreamCursor.next_of_cancelled hopen' (htoken ▸ hc)]

/-- One operation is cancelled after the first of two rows, and another one while the promise of
its statement arrives. -/
theorem cancelled_operations_go_no_further :
    let k : Connection :=
      { params :=
          { server := "", tokens := .supplied [], sessionId := none, hints := false,
            insecureTls := false, connectTimeout := 0, pollInterval := 1, handshakeTimeout := 0,
            streamBuffer := 1, connectTimeout_le := by decide, pollInterval_pos := by decide,
            streamBuffer_pos := by decide }
        service := .direct }
    let result : ResultSet :=
      { statementId := ⟨List.replicate 32 1, rfl⟩
        sqlState := .named .successfulCompletion
        metadata :=
          { partitions := [1, 1], columns := [{ name := "a", declared := "VARCHAR" }] }
        data := some [[some "x"]] }
    let promise : StatementStatus := { statementId := ⟨List.replicate 32 2, rfl⟩ }
    let peers := Conversation.withScripts
      [{ answer := .ok (.completed result) },
        { answer := .ok (.accepted promise), cancels := [1] }] []
    let r := PagedCursor.ofResult k.runner 0 result false
    let second : StatementRequest := { statement := "SELECT 2;" }
    let deeds : Deeds :=
      [(.query { statement := "SELECT 1;" } 0 0, .opened (.paged r)),
        (.onCursor 0 .nextRow, .row (some [.string "x"])), (.cancel 0, .done)]
    let s := ((start k peers).run (deeds.map Prod.fst)).2
    Led (start k peers) deeds s ∧ s.conversation.isCancelled 0 = true ∧
      s.step (.ping 0) = (.failed .cancelled, s) ∧
      s.conversation.SameTraffic (s.step (.onCursor 0 (.drain 5))).2.conversation ∧
      { r with position := 1 }.next [.null] s.conversation =
        (⟨.error .cancelled, [.null], { r with position := 1 }⟩, s.conversation) ∧
      ∃ c, s.conversation.calls.length = 1 ∧ c.calls.length = 2 ∧
        k.runner.submit 1 second s.conversation = (.error .cancelled, c) := by
  intro k result promise peers r second deeds s
  have hled : Led (start k peers) deeds s := ((Led.start.acts _).acts _).acts _
  have hcancelled : s.conversation.isCancelled 0 = true := rfl
  obtain ⟨-, -, -, -, hafter, -, hpaged, -⟩ := cancellation_stops_traffic hled 0
  obtain ⟨hlater, hcalls⟩ := hafter hcancelled
  obtain ⟨-, -, -, -, -, hlate, -⟩ := cancellation_stops_traffic hled 1
  have hput : k.runner.put (.submit (k.runner.body s.conversation.context "SELECT 2;") [])
      s.conversation = (.ok (.accepted promise), _) := rfl
  obtain ⟨c, hsame, hsubmit⟩ := (hlate _ _ _ promise rfl rfl).1 second hput
  refine ⟨hled, hcancelled, (hcalls rfl).2.2.2, ?_, ?_, c, rfl, ?_, hsubmit⟩
  · exact (hlater [] s .start).2 _ rfl
  · exact (hpaged { r with position := 1 } s.conversation [.null] 0 1 rfl rfl rfl).1 (by decide)
  · rw [hsame.calls]
    rfl

end Session

end Tributary
