import Mathlib.Data.List.Induction
import Tributary.Proofs.Conversation.Cancellation
import Tributary.Proofs.Conversation.Sendings
import Tributary.Proofs.Cursor.Frames
import Tributary.Proofs.Cursor.Lookups

/-!
# Errors of a query are told with what is known about them

An error that arrives on a stream is told as an SQL error with its own code and message. Before
that the history of the query is asked for once, if the query can be named. Whatever comes of it,
the error is told: after the messages of the history where its first row says that the query has
failed and holds any, and as it is otherwise. Only a caller who cancels the operation meanwhile is
not told: opening the stream is cancelled then, and a cursor is at its end.
-/

namespace Tributary

/-! ## What a history says -/

/-- The name of a column, up to the case of ASCII letters. -/
def ResultColumn.IsNamed (column : ResultColumn) (name : String) : Prop :=
  Text.eqIgnoringCase column.name name = true

namespace History

/-- A cell of a history says that the query has failed. -/
def IsFailure (p : ResultColumn × Option String) : Prop :=
  p.1.IsNamed "state" ∧ ∃ text, p.2 = some text ∧ Text.eqIgnoringCase text "errored" = true

/-- The messages in the last cell for them, which is empty if it is null. -/
def AreLast (messages : String) (cells : List (ResultColumn × Option String)) : Prop :=
  ∃ before p after, cells = before ++ p :: after ∧ p.1.IsNamed "messages" ∧
    messages = p.2.getD "" ∧ ∀ q ∈ after, ¬ q.1.IsNamed "messages"

/-- The first row of a history says that the query has failed, and holds messages about it. -/
def Holds (history : ResultSet) (messages : String) : Prop :=
  ∃ row rows, history.rows = row :: rows ∧
    (∃ p ∈ history.metadata.columns.zip row, IsFailure p) ∧
    AreLast messages (history.metadata.columns.zip row)

theorem not_isNamed_messages {column : ResultColumn} (h : column.IsNamed "state") :
    ¬ column.IsNamed "messages" := by
  intro h'
  rw [ResultColumn.IsNamed, Text.eqIgnoringCase, beq_iff_eq] at h h'
  rw [h] at h'
  exact absurd h' (by decide)

theorem isFailure_iff (p : ResultColumn × Option String) :
    IsFailure p ↔ (Text.eqIgnoringCase p.1.name "state" &&
      Text.eqIgnoringCase (p.2.getD "") "errored") = true := by
  rw [Bool.and_eq_true]
  refine and_congr_right fun _ => ?_
  cases p.2 with
  | none => simp [Text.eqIgnoringCase]
  | some text => simp

theorem look_of_isFailure {p : ResultColumn × Option String} (h : IsFailure p) (f : Finding) :
    look f p.1 p.2 = { f with failed := true } :=
  if_pos ((isFailure_iff p).mp h)

theorem look_of_messages {p : ResultColumn × Option String} (h : p.1.IsNamed "messages")
    (f : Finding) : look f p.1 p.2 = { f with messages := some (p.2.getD "") } := by
  have hother : ¬ IsFailure p := fun hfailure => not_isNamed_messages hfailure.1 h
  unfold look
  dsimp only
  rw [if_neg (mt (isFailure_iff p).mpr hother)]
  exact if_pos h

theorem look_of_other {p : ResultColumn × Option String} (hfailure : ¬ IsFailure p)
    (hmessages : ¬ p.1.IsNamed "messages") (f : Finding) : look f p.1 p.2 = f := by
  unfold look
  dsimp only
  rw [if_neg (mt (isFailure_iff p).mpr hfailure)]
  exact if_neg hmessages

/-- What is found in cells, one after the other. -/
def finding (cells : List (ResultColumn × Option String)) : Finding :=
  cells.foldl (fun f p => look f p.1 p.2) {}

theorem finding_append (cells : List (ResultColumn × Option String))
    (p : ResultColumn × Option String) : finding (cells ++ [p]) = look (finding cells) p.1 p.2 :=
  List.foldl_append

theorem failed_finding_iff (cells : List (ResultColumn × Option String)) :
    (finding cells).failed = true ↔ ∃ p ∈ cells, IsFailure p := by
  induction cells using List.reverseRecOn with
  | nil => simp [finding]
  | append_singleton cells p ih =>
      rw [finding_append]
      simp only [List.mem_append, List.mem_singleton, or_and_right, exists_or, exists_eq_left]
      by_cases hfailure : IsFailure p
      · simp [look_of_isFailure hfailure, hfailure]
      · by_cases hmessages : p.1.IsNamed "messages"
        · simp [look_of_messages hmessages, hfailure, ih]
        · simp [look_of_other hfailure hmessages, hfailure, ih]

/-- The last cell for messages is the one that counts. -/
theorem areLast_append_iff (messages : String) (cells : List (ResultColumn × Option String))
    (p : ResultColumn × Option String) :
    AreLast messages (cells ++ [p]) ↔
      (p.1.IsNamed "messages" ∧ messages = p.2.getD "") ∨
        (¬ p.1.IsNamed "messages" ∧ AreLast messages cells) := by
  constructor
  · rintro ⟨before, q, after, hcells, hname, hmessages, hafter⟩
    rcases List.eq_nil_or_concat after with rfl | ⟨after, last, rfl⟩
    · obtain ⟨-, hlast⟩ := List.append_inj' hcells rfl
      cases hlast
      exact .inl ⟨hname, hmessages⟩
    · rw [List.concat_eq_append, ← List.cons_append, ← List.append_assoc] at hcells
      obtain ⟨hinit, hlast⟩ := List.append_inj' hcells rfl
      cases hlast
      rw [List.concat_eq_append] at hafter
      refine .inr ⟨hafter p (by simp), before, q, after, hinit, hname, hmessages, ?_⟩
      intro q' hq'
      exact hafter q' (List.mem_append_left _ hq')
  · rintro (⟨hname, hmessages⟩ | ⟨hother, before, q, after, rfl, hname, hmessages, hafter⟩)
    · exact ⟨cells, p, [], rfl, hname, hmessages, nofun⟩
    · refine ⟨before, q, after ++ [p], by simp, hname, hmessages, ?_⟩
      intro q' hq'
      rcases List.mem_append.mp hq' with hq' | hq'
      · exact hafter q' hq'
      · rw [List.mem_singleton.mp hq']
        exact hother

theorem messages_finding_iff (cells : List (ResultColumn × Option String)) (messages : String) :
    (finding cells).messages = some messages ↔ AreLast messages cells := by
  induction cells using List.reverseRecOn with
  | nil =>
      constructor
      · exact nofun
      · rintro ⟨before, p, after, h, -⟩
        simp at h
  | append_singleton cells p ih =>
      rw [finding_append, areLast_append_iff]
      by_cases hmessages : p.1.IsNamed "messages"
      · simp only [look_of_messages hmessages, hmessages, Option.some.injEq, true_and,
          not_true_eq_false, false_and, or_false]
        exact eq_comm
      · have hkept : (look (finding cells) p.1 p.2).messages = (finding cells).messages := by
          by_cases hfailure : IsFailure p
          · rw [look_of_isFailure hfailure]
          · rw [look_of_other hfailure hmessages]
        rw [hkept, ih]
        simp [hmessages]

/-- A history has messages to tell if its first row says that the query has failed and has a cell
for them. -/
theorem messages?_eq_some_iff (history : ResultSet) (messages : String) :
    messages? history = some messages ↔ Holds history messages := by
  unfold messages? Holds
  cases history.rows with
  | nil => simp
  | cons row rows =>
      have hrow : ofRow history.metadata.columns row =
        finding (history.metadata.columns.zip row) := rfl
      simp only [hrow, List.cons.injEq, ← failed_finding_iff, ← messages_finding_iff]
      constructor
      · intro h
        split at h
        next hfailed => exact ⟨row, rows, ⟨rfl, rfl⟩, hfailed, h⟩
        next => cases h
      · rintro ⟨_, _, ⟨rfl, rfl⟩, hfailed, hmessages⟩
        rw [if_pos hfailed, hmessages]

end History

/-! ## Asking for a history -/

namespace Service

theorem guarded_of_going (service : Service) {id : CancelId} {c : Conversation} (call : Talk α)
    (hc : c.isCancelled id = false) : (service.guarded id call c).2 = (call c).2 := by
  cases service with
  | direct =>
      unfold guarded Talk.unlessCancelled
      simp only [hc, Bool.false_eq_true, if_false]
  | rest base bearer maintenance =>
      unfold guarded Talk.untilCancelled
      simp only [hc, Bool.false_eq_true, if_false]

end Service

namespace Runner

open Conversation (Records)

variable {x : Runner} {id : CancelId} {c : Conversation}

/-- A question is sent once unless the operation is cancelled. -/
theorem records_ask (q : Question) (hc : c.isCancelled id = false) :
    ∃ s : Sending, s.service = x.service ∧ s.question = q ∧ c.Records [s] (x.ask id q c).2 := by
  obtain ⟨s, hservice, hquestion, hputs⟩ := x.sendsOne_put q c
  have hsent := x.service.guarded_of_going (x.put q) hc
  refine ⟨s, hservice, hquestion, ?_⟩
  have hbind : x.ask id q c = Talk.bind (x.service.guarded id (x.put q)) x.settle c := rfl
  rw [hbind]
  unfold Talk.bind
  split
  next reply c' hguarded =>
    rw [hguarded] at hsent
    have hnotes : Conversation.Notes false none c' _ := Conversation.notes_settle x reply c'
    exact (hsent ▸ hputs.records).trans (Conversation.records_of_notes hnotes)
  next e c' hguarded =>
    rw [hguarded] at hsent
    exact hsent ▸ hputs.records

/-- A statement is submitted once, and after that only its status is asked for. -/
theorem records_submit (request : StatementRequest) (hc : c.isCancelled id = false) :
    ∃ (s : Sending) (later : List Sending), c.Records (s :: later) (x.submit id request c).2 ∧
      s.service = x.service ∧
      s.question = .submit (x.body c.context request.statement) request.attachments ∧
      ∀ t ∈ later, t.service = x.service ∧
        ∃ statementId, t.question = .status statementId 0 x.sessionId := by
  obtain ⟨s, hservice, hquestion, hrecords⟩ :=
    records_ask (x := x) (.submit (x.body c.context request.statement) request.attachments) hc
  unfold submit
  dsimp only
  split
  next r c' hask =>
    rw [hask] at hrecords
    exact ⟨s, [], hrecords, hservice, hquestion, List.forall_mem_nil _⟩
  next statementId c' hask =>
    rw [hask] at hrecords
    obtain ⟨later, hlater, hstatus, -⟩ := heeds_await id
      (P := fun t => t.service = x.service ∧ t.question = .status statementId 0 x.sessionId)
      (fun t hservice hquestion => ⟨hservice, hquestion⟩) c'
    refine ⟨s, later, hrecords.trans hlater, hservice, hquestion, ?_⟩
    intro t ht
    exact ⟨(hstatus t ht).1, statementId, (hstatus t ht).2⟩
  next e c' hask =>
    rw [hask] at hrecords
    exact ⟨s, [], hrecords, hservice, hquestion, List.forall_mem_nil _⟩

end Runner

/-! ## Reporting an error -/

namespace History

variable {lookup : Option (String × Runner)} {token : CancelId} {c : Conversation}

/-- The history of a query is had, and holds messages about it. -/
def Tells (lookup : Option (String × Runner)) (token : CancelId) (c : Conversation)
    (messages : String) : Prop :=
  ∃ queryId x history, lookup = some (queryId, x) ∧
    (x.submit token { statement := "DESCRIBE QUERY HISTORY " ++ queryId ++ ";" } c).1 =
      .ok history ∧ Holds history messages

/-- What an error is told as: after the messages about its query, or as it is. -/
structure IsTold (lookup : Option (String × Runner)) (token : CancelId) (c : Conversation)
    (e : StreamError) (told : Error) : Prop where
  enriched : ∀ messages, Tells lookup token c messages →
    told = .sql ⟨e.sqlCode.getD (.ofCode ""), messages ++ "\n\n" ++ e.message, none⟩
  plain : (¬ ∃ messages, Tells lookup token c messages) →
    told = .sql ⟨e.sqlCode.getD (.ofCode ""), e.message, none⟩

/-- The history of a query is asked for once, if the query is known and the operation goes on. -/
structure IsAsked (lookup : Option (String × Runner)) (token : CancelId)
    (c c' : Conversation) : Prop where
  once : ∀ queryId x, lookup = some (queryId, x) → c.isCancelled token = false →
    ∃ (s : Sending) (later : List Sending), c.Records (s :: later) c' ∧ s.service = x.service ∧
      s.question =
        .submit (x.body c.context ("DESCRIBE QUERY HISTORY " ++ queryId ++ ";")) [] ∧
      ∀ t ∈ later, t.service = x.service ∧
        ∃ statementId, t.question = .status statementId 0 x.sessionId
  never : lookup = none ∨ c.isCancelled token = true → c' = c

/-- Messages are told if the history is had and holds them. -/
theorem isTold_report (lookup : Option (String × Runner)) (token : CancelId) (e : StreamError)
    (c : Conversation) : IsTold lookup token c e (report lookup token e c).1 := by
  cases lookup with
  | none =>
      refine ⟨?_, fun _ => rfl⟩
      rintro messages ⟨queryId, x, history, hlookup, -⟩
      cases hlookup
  | some known =>
      obtain ⟨queryId, x⟩ := known
      have hreport : (report (some (queryId, x)) token e c).1 =
        fault e ((x.submit token { statement := statement queryId } c).1.toOption.bind
          messages?) := rfl
      rw [hreport]
      constructor
      · rintro messages ⟨_, _, history, hlookup, hsubmit, hholds⟩
        cases hlookup
        have hhad : (x.submit token { statement := statement queryId } c).1 = .ok history := hsubmit
        rw [hhad]
        show fault e (messages? history) = _
        rw [(messages?_eq_some_iff history messages).mpr hholds]
        rfl
      · intro hnone
        cases hsubmit : (x.submit token { statement := statement queryId } c).1 with
        | error fault => rfl
        | ok history =>
            show fault e (messages? history) = _
            cases hmessages : messages? history with
            | none => rfl
            | some messages =>
                have hholds := (messages?_eq_some_iff history messages).mp hmessages
                exact absurd ⟨messages, queryId, x, history, rfl, hsubmit, hholds⟩ hnone

/-- An error that comes after the operation is cancelled is reported as it is. -/
theorem report_of_cancelled (lookup : Option (String × Runner)) (e : StreamError)
    (hc : c.isCancelled token = true) : report lookup token e c = (fault e none, c) := by
  cases lookup with
  | none => rfl
  | some known =>
      obtain ⟨queryId, x⟩ := known
      have hsubmit := x.submit_of_cancelled { statement := statement queryId } hc
      dsimp only [report, lookUp]
      rw [hsubmit]
      rfl

theorem isAsked_report (lookup : Option (String × Runner)) (token : CancelId) (e : StreamError)
    (c : Conversation) : IsAsked lookup token c (report lookup token e c).2 := by
  constructor
  · rintro queryId x rfl hc
    exact x.records_submit { statement := statement queryId } hc
  · rintro (rfl | hc)
    · rfl
    · rw [report_of_cancelled lookup e hc]

end History

/-! ## A stream that begins with an error -/

/-- A conversation that is about to begin, with a peer that opens one socket and a service in
memory that answers one statement. -/
def Conversation.withStream (events : List SocketEvent) (answer : Served (Except Error Reply)) :
    Conversation :=
  { withSocket events with direct := { statements := { submit := [answer] } } }

theorem dial_withStream (events : List SocketEvent) (answer : Served (Except Error Reply)) :
    ∃ attempts dials, Socket.dial "http://a" "t" none 1 (Conversation.withStream events answer) =
      (.ok events,
        { Conversation.withStream events answer with sockets := [], attempts, dials }) := by
  let dialled := Socket.dial "http://a" "t" none 1 (Conversation.withStream events answer)
  have hfirst : dialled.1 = .ok events := by rfl
  exact ⟨dialled.2.attempts, dialled.2.dials, Prod.ext hfirst rfl⟩

namespace StreamCursor

/-- The frame of an error of a query, and the error that is read in it. -/
def errorFrame : SocketEvent :=
  .message true (Text.utf8Bytes
    "\x7b\"type\":\"error\",\"message\":\"query failed\",\"sqlCode\":\"XX000\"\x7d")

theorem ofEvent?_errorFrame : Signal.ofEvent? errorFrame =
    some (.reported { message := "query failed", sqlCode := some (.ofCode "XX000") }) := by
  decide +kernel

theorem all_errorFrame : Signal.all [errorFrame] =
    [.reported { message := "query failed", sqlCode := some (.ofCode "XX000") }] :=
  List.filterMap_cons_some ofEvent?_errorFrame

end StreamCursor

/-! ## Cursors and streams that are opened -/

/-- A promise that arrives when the operation has been cancelled meanwhile leaves it cancelled. -/
theorem Runner.isCancelled_submit_of_late_promise {x : Runner} {id : CancelId}
    {c c₁ : Conversation} {r : StatementRequest} {promise : StatementStatus}
    (hgoing : c.isCancelled id = false)
    (hput : x.put (.submit (x.body c.context r.statement) r.attachments) c =
      (.ok (.accepted promise), c₁))
    (hlate : c₁.isCancelled id = true) : (x.submit id r c).2.isCancelled id = true := by
  unfold submit
  dsimp only
  obtain ⟨c₂, -, hcancelled, hask | hask⟩ := ask_of_late_promise hgoing hput hlate
  · rw [hask]
    exact hcancelled
  · rw [hask]
    dsimp only
    rw [await_of_cancelled x promise.statementId 0 hcancelled]
    exact hcancelled

namespace StreamCursor

open History (IsAsked IsTold report report_of_cancelled)

variable {r : StreamCursor} {c : Conversation}

/-- Where the error comes next, it is reported and the cursor is at its end. -/
theorem next_of_reported (hopen : r.closed = false) (hmore : r.finished = false) {e : StreamError}
    (hrest : Signal.rows (Signal.all r.events) = ([], .reported e)) (dest : List Value) :
    r.next dest c =
      (⟨if (report r.lookup r.token e c).2.isCancelled r.token then .ok false
          else .error (report r.lookup r.token e c).1, dest, r.finish⟩,
        (report r.lookup r.token e c).2) := by
  rcases Signal.nextRow_cases r.events with
    ⟨row, later, hnext, hsplit⟩ | ⟨signal, later, hnext, hsplit, hend⟩
  · rw [hrest] at hsplit
    cases hsplit
  · rw [hrest] at hsplit
    cases hsplit
    cases hgoing : c.isCancelled r.token with
    | true =>
        rw [next_of_cancelled hopen hgoing, report_of_cancelled r.lookup e hgoing, hmore,
          if_pos hgoing]
        rfl
    | false =>
        unfold next
        simp only [hopen, hmore, hgoing, hnext, Bool.false_eq_true, if_false]

/-- The error of a stream is reported once, however many fetches come after it. -/
theorem conversation_afterFetches (hopen : r.closed = false) (hmore : r.finished = false)
    {rows : List Row} {e : StreamError}
    (hstream : Signal.rows (Signal.all r.events) = (rows, .reported e))
    (dest : Nat → List Value) (n : Nat) :
    (afterFetches (into dest) (.streamed r) c n).2 =
      if n ≤ rows.length then c else (report r.lookup r.token e c).2 := by
  cases hgoing : c.isCancelled r.token with
  | true =>
      obtain ⟨r', hafter, -⟩ := fetches_of_cancelled hopen hgoing dest n
      rw [← afterFetches_rowsInto, hafter, report_of_cancelled r.lookup e hgoing, ite_self]
  | false =>
      induction n with
      | zero => rfl
      | succ n ih =>
          rcases afterFetches_cases hopen hmore hgoing hstream dest n with
            ⟨later, hafter, hle, hrest⟩ | ⟨r', c', hafter, hlt, hopen', hfinished⟩
          · unfold afterFetches
            rw [hafter]
            dsimp only [into, Cursor.next]
            cases hrow : rows[n]? with
            | some row =>
                obtain ⟨hlt, hget⟩ := List.getElem?_eq_some_iff.mp hrow
                rw [List.drop_eq_getElem_cons hlt] at hrest
                obtain ⟨rest, hnext, -⟩ := next_of_row (r := { r with events := later }) hopen hmore
                  hgoing hrest (dest n)
                rw [hnext, if_pos (Nat.succ_le_of_lt hlt)]
            | none =>
                have hlength : rows.length ≤ n := List.getElem?_eq_none_iff.mp hrow
                rw [List.drop_eq_nil_of_le hlength] at hrest
                have hnext := next_of_reported (r := { r with events := later }) (c := c) hopen
                  hmore hrest (dest n)
                rw [hnext, if_neg (Nat.not_le.mpr (Nat.lt_succ_of_le hlength))]
          · rw [hafter, if_neg (Nat.not_le.mpr hlt)] at ih
            unfold afterFetches
            rw [hafter]
            dsimp only [into, Cursor.next]
            rw [next_of_finished hopen' hfinished, if_neg (Nat.not_le.mpr (Nat.lt_succ_of_lt hlt))]
            exact ih

/-- Where the error comes first, opening the stream fails with it. -/
theorem openStream_of_reported (primary : Runner) {redirect : Redirect} {token : CancelId}
    {settings : CursorSettings} {c₁ : Conversation} {events : List SocketEvent} {e : StreamError}
    (hgoing : c.isCancelled token = false)
    (hdial : Socket.dial redirect.uri redirect.token settings.sessionId
      settings.handshakeTimeout c = (.ok events, c₁))
    (hfirst : (Signal.all events).head? = some (.reported e)) :
    Cursor.openStream primary redirect token settings c =
      (if (report (redirect.queryId.map fun id => (id, primary)) token e c₁).2.isCancelled token
        then .error .cancelled
        else .error (report (redirect.queryId.map fun id => (id, primary)) token e c₁).1,
      (report (redirect.queryId.map fun id => (id, primary)) token e c₁).2) := by
  have hevents : ofEvents (redirect.queryId.map fun id => (id, primary)) token settings.hints
      events c₁ = (.error (report (redirect.queryId.map fun id => (id, primary)) token e c₁).1,
        (report (redirect.queryId.map fun id => (id, primary)) token e c₁).2) := by
    unfold ofEvents
    rcases Signal.next_cases events with ⟨hall, -⟩ | ⟨signal, later, hnext, hall⟩
    · rw [hall] at hfirst
      cases hfirst
    · rw [hall] at hfirst
      cases hfirst
      rw [hnext]
  unfold Cursor.openStream Talk.untilCancelled
  simp only [hgoing, Bool.false_eq_true, if_false, bind, Talk.bind, hdial, hevents]

/-- An error of the query is never lost. A cursor tells it where it comes, and opening a stream
tells it where it comes first: as an SQL error with its own code, after the messages of the history
of its query or as it is. The history is asked for once, and not again by later fetches. Only if
the operation is cancelled by then, opening is cancelled and the cursor is at its end. This holds
as well where the stream is read in the background and the history is asked for earlier: whatever
happens meanwhile, one step of the stream asks for it, and the receiver comes to know the error as
it was told in that step, behind all rows before it. -/
theorem errors_are_told :
    (∀ (r : StreamCursor) (c : Conversation) (e : StreamError) (dest : List Value),
      r.closed = false → r.finished = false →
      Signal.rows (Signal.all r.events) = ([], .reported e) →
        IsAsked r.lookup r.token c (r.next dest c).2 ∧
          ((r.next dest c).2.isCancelled r.token = true → (r.next dest c).1.more = .ok false) ∧
          ((r.next dest c).2.isCancelled r.token = false →
            ∃ told, (r.next dest c).1.more = .error told ∧ IsTold r.lookup r.token c e told)) ∧
      (∀ (r : StreamCursor) (c : Conversation) (rows : List Row) (e : StreamError)
        (dest : Nat → List Value),
        r.closed = false → r.finished = false →
        Signal.rows (Signal.all r.events) = (rows, .reported e) →
          ∃ c', IsAsked r.lookup r.token c c' ∧ ∀ n,
            (afterFetches (into dest) (.streamed r) c n).2 = if n ≤ rows.length then c else c') ∧
      (∀ (primary : Runner) (redirect : Redirect) (token : CancelId) (settings : CursorSettings)
        (c : Conversation),
        let opened := Cursor.openStream primary redirect token settings c
        (c.isCancelled token = true → opened = (.error .cancelled, c)) ∧
          ∀ (c₁ : Conversation) (events : List SocketEvent) (e : StreamError),
            c.isCancelled token = false →
            Socket.dial redirect.uri redirect.token settings.sessionId settings.handshakeTimeout c =
              (.ok events, c₁) →
            (Signal.all events).head? = some (.reported e) →
              let lookup := redirect.queryId.map fun id => (id, primary)
              IsAsked lookup token c₁ opened.2 ∧
                (opened.2.isCancelled token = true → opened.1 = .error .cancelled) ∧
                (opened.2.isCancelled token = false →
                  ∃ told, opened.1 = .error told ∧ IsTold lookup token c₁ e told)) ∧
      ∀ (capacity : Nat) (lookup : Option (String × Runner)) (token : CancelId)
        (events : List SocketEvent) (c₀ : Conversation) (e : StreamError)
        (before : Option (StreamMetadata × List Row)) (trace : List (Conversation × Conversation))
        (s : HandOff),
        Signal.ComesTo e before (Signal.all events) →
        HandOff.Runs capacity (.start lookup token events c₀) trace s →
          (HandOff.IsQuiet trace ∧ ¬ s.receiver.IsDone ∨
            ∃ c c' told, HandOff.ChangesOnce trace c c' ∧ IsAsked lookup token c c' ∧
              IsTold lookup token c e told ∧ (s.receiver.IsDone → s.Knows before told)) ∧
          (0 < capacity → (∀ s', ¬ HandOff.Step capacity s s') → s.receiver.IsDone) := by
  refine ⟨?_, ?_, ?_, ?_⟩
  · intro r c e dest hopen hmore hrest
    rw [next_of_reported hopen hmore hrest dest]
    refine ⟨History.isAsked_report r.lookup r.token e c, fun h => if_pos h, fun h => ?_⟩
    exact ⟨_, if_neg (Bool.eq_false_iff.mp h), History.isTold_report r.lookup r.token e c⟩
  · intro r c rows e dest hopen hmore hstream
    exact ⟨_, History.isAsked_report r.lookup r.token e c,
      conversation_afterFetches hopen hmore hstream dest⟩
  · intro primary redirect token settings c
    refine ⟨fun hc => if_pos hc, ?_⟩
    intro c₁ events e hgoing hdial hfirst
    rw [openStream_of_reported primary hgoing hdial hfirst]
    refine ⟨History.isAsked_report _ token e c₁, fun h => if_pos h, fun h => ?_⟩
    exact ⟨_, if_neg (Bool.eq_false_iff.mp h), History.isTold_report _ token e c₁⟩
  · intro capacity lookup token events c₀ e before trace s hcomes h
    refine ⟨?_, fun hcapacity hstuck => h.done_of_stuck hcapacity hcomes hstuck⟩
    rcases h.describes_once hcomes with hahead | ⟨c, honce, hknows⟩
    · exact .inl hahead
    · exact .inr ⟨c, _, _, honce, History.isAsked_report lookup token e c,
        History.isTold_report lookup token e c, hknows⟩

/-- A run that looks up the error of a first event in any conversation that it comes to meanwhile. -/
theorem runs_of_reported {event : SocketEvent} {e : StreamError}
    (hevent : Signal.ofEvent? event = some (.reported e)) (lookup : Option (String × Runner))
    (token : CancelId) (c₀ c : Conversation) :
    ∃ trace s, HandOff.Runs 1 (.start lookup token [event] c₀) trace s ∧
      s.receiver = .refused (report lookup token e c).1 := by
  let first : HandOff :=
    { events := [], lookup, token, conversation := c₀, reader := .describing e }
  have hread : HandOff.Step 1 (.start lookup token [event] c₀) first := by
    refine .reader ?_
    unfold HandOff.readerStep? HandOff.start
    dsimp only
    rw [hevent]
    rfl
  have hlooked : HandOff.Step 1 { first with conversation := c }
      { first with
        conversation := (report lookup token e c).2
        reader := .failing (report lookup token e c).1 } := .reader rfl
  have h := ((HandOff.Runs.refl.step hread).others c).step hlooked
  exact ⟨_, _, (h.step (.reader rfl)).step (.receiver rfl), rfl⟩

/-- The history is in other letters and in another order than most, and its messages are told. In
the background they are told as well, where the service only comes to answer after the error has
been read. -/
theorem error_is_told_after_messages :
    let e : StreamError := { message := "query failed", sqlCode := some (.ofCode "XX000") }
    let history : ResultSet :=
      { statementId := ⟨List.replicate 32 1, rfl⟩
        sqlState := .named .successfulCompletion
        metadata :=
          { columns := [{ name := "Messages", declared := "VARCHAR" },
              { name := "id", declared := "VARCHAR" }, { name := "STATE", declared := "VARCHAR" }] }
        data := some [[some "sink topic missing", none, some "Errored"]] }
    let c := Conversation.withStream [errorFrame] { answer := .ok (.completed history) }
    let x : Runner :=
      { service := .direct, keepsContext := true, sessionId := none, pollInterval := 0 }
    let redirect : Redirect :=
      { uri := "http://a", token := "t", kind := .streaming, queryId := some "q-1" }
    let settings : CursorSettings :=
      { hints := false, sessionId := none, pollInterval := 0, handshakeTimeout := 1,
        maintenance := false }
    let r : StreamCursor :=
      { metadata := { columns := [] }, events := [errorFrame], lookup := some ("q-1", x), token := 0
        hints := false }
    let told : Error := .sql ⟨.ofCode "XX000", "sink topic missing\n\nquery failed", none⟩
    c.isCancelled 0 = false ∧ Signal.rows (Signal.all r.events) = ([], .reported e) ∧
      (r.next [] c).1.more = .error told ∧
      (∃ c', ∀ n, (afterFetches (into fun _ => []) (.streamed r) c n).2 =
        if n ≤ 0 then c else c') ∧
      (Cursor.openStream x redirect 0 settings c).1 = .error told ∧
      ∃ trace s, HandOff.Runs 1 (.start (some ("q-1", x)) 0 [errorFrame] (.withSocket [])) trace s ∧
        s.receiver = .refused told ∧
        ∃ c₁ c₂, HandOff.ChangesOnce trace c₁ c₂ ∧ IsAsked (some ("q-1", x)) 0 c₁ c₂ ∧
          IsTold (some ("q-1", x)) 0 c₁ e told := by
  intro e history c x redirect settings r told
  obtain ⟨hnext, hfetches, hopens, hruns⟩ := errors_are_told
  have hrows : Signal.rows (Signal.all r.events) = ([], .reported e) := by
    show Signal.rows (Signal.all [errorFrame]) = _
    rw [all_errorFrame]
    rfl
  have hholds : History.Holds history "sink topic missing" :=
    (History.messages?_eq_some_iff _ _).mp (by decide +kernel)
  refine ⟨rfl, hrows, ?_, ?_, ?_, ?_⟩
  · obtain ⟨-, -, htold⟩ := hnext r c e [] rfl rfl hrows
    have hgoing : (r.next [] c).2.isCancelled 0 = false := by
      rw [next_of_reported rfl rfl hrows]
      rfl
    obtain ⟨fault, hfault, hmessages⟩ := htold hgoing
    rw [hfault, hmessages.enriched "sink topic missing" ⟨"q-1", x, history, rfl, rfl, hholds⟩]
    rfl
  · obtain ⟨c', -, hlater⟩ := hfetches r c [] e (fun _ => []) rfl rfl hrows
    exact ⟨c', hlater⟩
  · obtain ⟨attempts, dials, hdial⟩ :=
      dial_withStream [errorFrame] { answer := .ok (.completed history) }
    have hhead : (Signal.all [errorFrame]).head? = some (.reported e) := by rw [all_errorFrame]; rfl
    obtain ⟨-, hopens⟩ := hopens x redirect 0 settings c
    obtain ⟨-, -, htold⟩ := hopens _ [errorFrame] e rfl hdial hhead
    have hgoing : (Cursor.openStream x redirect 0 settings c).2.isCancelled 0 = false := by
      have hopened : Cursor.openStream x redirect 0 settings c = _ :=
        openStream_of_reported x rfl hdial hhead
      rw [hopened]
      rfl
    obtain ⟨fault, hfault, hmessages⟩ := htold hgoing
    rw [hfault, hmessages.enriched "sink topic missing" ⟨"q-1", x, history, rfl, rfl, hholds⟩]
    rfl
  · obtain ⟨trace, s, h, hrefused⟩ :=
      runs_of_reported ofEvent?_errorFrame (some ("q-1", x)) 0 (.withSocket []) c
    have htold : (report (some ("q-1", x)) 0 e c).1 = told :=
      (History.isTold_report (some ("q-1", x)) 0 e c).enriched "sink topic missing"
        ⟨"q-1", x, history, rfl, rfl, hholds⟩
    rw [htold] at hrefused
    have hcomes : Signal.ComesTo e none (Signal.all [errorFrame]) := by
      rw [all_errorFrame]
      exact .first []
    have hdone : s.receiver.IsDone := by
      rw [hrefused]
      trivial
    obtain ⟨⟨-, hopening⟩ | ⟨c₁, c₂, fault, honce, hasked, hfault, hknows⟩, -⟩ :=
      hruns 1 _ 0 _ _ e none trace s hcomes h
    · exact absurd hdone hopening
    · have hsame : s.receiver = .refused fault := hknows hdone
      cases hrefused.symm.trans hsame
      exact ⟨trace, s, h, hrefused, c₁, c₂, honce, hasked, hfault⟩

/-- An error whose history is promised while the caller cancels the operation is told neither by
the cursor nor by opening the stream. -/
theorem error_is_not_told_after_cancellation :
    let e : StreamError := { message := "query failed", sqlCode := some (.ofCode "XX000") }
    let promise : StatementStatus := { statementId := ⟨List.replicate 32 1, rfl⟩ }
    let c := Conversation.withStream [errorFrame]
      { answer := .ok (.accepted promise), cancels := [0] }
    let x : Runner :=
      { service := .direct, keepsContext := true, sessionId := none, pollInterval := 0 }
    let redirect : Redirect :=
      { uri := "http://a", token := "t", kind := .streaming, queryId := some "q-1" }
    let settings : CursorSettings :=
      { hints := false, sessionId := none, pollInterval := 0, handshakeTimeout := 1,
        maintenance := false }
    let r : StreamCursor :=
      { metadata := { columns := [] }, events := [errorFrame], lookup := some ("q-1", x), token := 0
        hints := false }
    c.isCancelled 0 = false ∧ Signal.rows (Signal.all r.events) = ([], .reported e) ∧
      (Signal.all [errorFrame]).head? = some (.reported e) ∧
      (∃ c₁, Socket.dial "http://a" "t" none 1 c = (.ok [errorFrame], c₁) ∧
        c₁.isCancelled 0 = false) ∧
      (r.next [] c).1.more = .ok false ∧
      (Cursor.openStream x redirect 0 settings c).1 = .error .cancelled := by
  intro e promise c x redirect settings r
  have hhead : (Signal.all [errorFrame]).head? = some (.reported e) := by
    rw [all_errorFrame]
    rfl
  have hrows : Signal.rows (Signal.all r.events) = ([], .reported e) := by
    show Signal.rows (Signal.all [errorFrame]) = _
    rw [all_errorFrame]
    rfl
  obtain ⟨attempts, dials, hdial⟩ :=
    dial_withStream [errorFrame] { answer := .ok (.accepted promise), cancels := [0] }
  -- The promise is settled, and then the operation is found to be cancelled.
  have hlate (sockets : List (Served SocketAnswer)) (attempts : List Url) (dials : List Dial) :
      (report (some ("q-1", x)) 0 e
        { c with sockets, attempts, dials }).2.isCancelled 0 = true := by
    have hput : x.put (.submit (x.body {} (History.statement "q-1")) [])
        { c with sockets, attempts, dials } = (.ok (.accepted promise), _) := rfl
    have hgoing : ({ c with sockets, attempts, dials } : Conversation).isCancelled 0 = false := rfl
    exact Runner.isCancelled_submit_of_late_promise (r := { statement := History.statement "q-1" })
      hgoing hput rfl
  refine ⟨rfl, hrows, hhead, ⟨_, hdial, rfl⟩, ?_, ?_⟩
  · rw [next_of_reported rfl rfl hrows]
    exact if_pos (hlate _ _ _)
  · have hopened : Cursor.openStream x redirect 0 settings c = _ :=
      openStream_of_reported x rfl hdial hhead
    rw [hopened]
    exact if_pos (hlate _ _ _)

end StreamCursor

end Tributary
