import Tributary.Proofs.Conversation.Exchanges
import Tributary.Proofs.Cursor.Rows

/-!
# Frames of a stream

What a cursor over a stream reports is read off the frames that arrive. A stream has to begin with
its columns. The rows after them are reported in order, up to the first frame that ends the stream;
a fault that ends it is reported once, and after the end there is nothing.
-/

namespace Tributary

/-! ## What frames say -/

namespace Signal

/-- What the events on a socket say, one after the other. -/
def all (events : List SocketEvent) : List Signal := events.filterMap ofEvent?

/-- The rows of a stream up to the first signal that ends it, and that signal. -/
def rows : List Signal → List Row × Signal
  | [] => ([], .ended)
  | .metadata _ :: signals => rows signals
  | .data row :: signals => (row :: (rows signals).1, (rows signals).2)
  | signal :: _ => ([], signal)

/-- The first event that is no ping or pong is a message with the columns of a stream. -/
def BeginsWith (m : StreamMetadata) (events : List SocketEvent) : Prop :=
  ∃ kept isText bytes complaint later, events = kept ++ .message isText bytes complaint :: later ∧
    (∀ event ∈ kept, event = .ping ∨ event = .pong) ∧
    (isText = true → (Text.Utf8.decode? bytes).isSome = true) ∧
    (Json.read? bytes).bind ServerMessage.read? = some (.metadata m)

theorem ofEvent?_eq_none_iff (event : SocketEvent) :
    ofEvent? event = none ↔ event = .ping ∨ event = .pong := by
  cases event with
  | message isText bytes complaint =>
      unfold ofEvent?
      dsimp only
      split <;> simp
  | ping => simp [ofEvent?]
  | pong => simp [ofEvent?]
  | close => simp [ofEvent?]
  | drop => simp [ofEvent?]
  | failed text => simp [ofEvent?]

theorem ofBytes_eq_metadata_iff (bytes : List UInt8) (complaint : String) (m : StreamMetadata) :
    ofBytes bytes complaint = .metadata m ↔
      (Json.read? bytes).bind ServerMessage.read? = some (.metadata m) := by
  unfold ofBytes
  cases (Json.read? bytes).bind ServerMessage.read? with
  | none => simp
  | some message => cases message <;> simp [ofMessage]

theorem ofEvent?_eq_metadata_iff (event : SocketEvent) (m : StreamMetadata) :
    ofEvent? event = some (.metadata m) ↔ ∃ isText bytes complaint,
      event = .message isText bytes complaint ∧
      (isText = true → (Text.Utf8.decode? bytes).isSome = true) ∧
      (Json.read? bytes).bind ServerMessage.read? = some (.metadata m) := by
  constructor
  · intro h
    cases event with
    | message isText bytes complaint =>
        unfold ofEvent? at h
        dsimp only at h
        split at h
        next => cases h
        next htext =>
          have hread := (ofBytes_eq_metadata_iff bytes complaint m).mp (Option.some.inj h)
          refine ⟨isText, bytes, complaint, rfl, ?_, hread⟩
          rintro rfl
          simpa [Option.isSome_iff_ne_none] using htext
    | ping => cases h
    | pong => cases h
    | close => cases h
    | drop => cases h
    | failed text => cases h
  · rintro ⟨isText, bytes, complaint, rfl, htext, hread⟩
    unfold ofEvent?
    dsimp only
    rw [(ofBytes_eq_metadata_iff bytes complaint m).mpr hread, if_neg]
    intro h
    rw [Bool.and_eq_true, Option.isNone_iff_eq_none] at h
    have := htext h.1
    rw [h.2] at this
    cases this

/-- The columns come first just when the first event that says something is their message. -/
theorem head?_all_eq_metadata_iff (events : List SocketEvent) (m : StreamMetadata) :
    (all events).head? = some (.metadata m) ↔ BeginsWith m events := by
  induction events with
  | nil =>
      constructor
      · intro h
        cases h
      · rintro ⟨kept, isText, bytes, complaint, later, h, -⟩
        simp at h
  | cons event events ih =>
      cases hsignal : ofEvent? event with
      | none =>
          -- A ping or pong says nothing, so it may as well be left out.
          have hall : all (event :: events) = all events := List.filterMap_cons_none hsignal
          have hkept := (ofEvent?_eq_none_iff event).mp hsignal
          rw [hall, ih]
          constructor
          · rintro ⟨kept, isText, bytes, complaint, later, rfl, hquiet, hmessage⟩
            refine ⟨event :: kept, isText, bytes, complaint, later, rfl, ?_, hmessage⟩
            intro e he
            rcases List.mem_cons.mp he with rfl | he
            · exact hkept
            · exact hquiet e he
          · rintro ⟨kept, isText, bytes, complaint, later, h, hquiet, hmessage⟩
            cases kept with
            | nil =>
                cases h
                rcases hkept with h | h <;> cases h
            | cons e kept =>
                cases h
                exact ⟨kept, isText, bytes, complaint, later, rfl,
                  fun e he => hquiet e (List.mem_cons_of_mem _ he), hmessage⟩
      | some signal =>
          have hall : all (event :: events) = signal :: all events :=
            List.filterMap_cons_some hsignal
          rw [hall, List.head?_cons, ← hsignal, ofEvent?_eq_metadata_iff]
          constructor
          · rintro ⟨isText, bytes, complaint, rfl, hmessage⟩
            exact ⟨[], isText, bytes, complaint, events, rfl, fun e he => (nomatch he), hmessage⟩
          · rintro ⟨kept, isText, bytes, complaint, later, h, hquiet, hmessage⟩
            cases kept with
            | nil =>
                cases h
                exact ⟨isText, bytes, complaint, rfl, hmessage⟩
            | cons e kept =>
                cases h
                have hnone := (ofEvent?_eq_none_iff event).mpr (hquiet event List.mem_cons_self)
                rw [hnone] at hsignal
                cases hsignal

/-! ## Reading one signal -/

theorem next_cases (events : List SocketEvent) :
    (all events = [] ∧ next events = (.ended, [])) ∨
      ∃ signal later, next events = (signal, later) ∧ all events = signal :: all later := by
  induction events with
  | nil => exact .inl ⟨rfl, rfl⟩
  | cons event events ih =>
      unfold next
      cases hsignal : ofEvent? event with
      | none =>
          rw [show all (event :: events) = all events from List.filterMap_cons_none hsignal]
          exact ih
      | some signal =>
          exact .inr ⟨signal, events, rfl, List.filterMap_cons_some hsignal⟩

/-- A reader of rows finds the next row, or the signal that ends the stream. -/
theorem nextRow_cases (events : List SocketEvent) :
    (∃ row later, nextRow events = (.data row, later) ∧
        rows (all events) = (row :: (rows (all later)).1, (rows (all later)).2)) ∨
      ∃ signal later, nextRow events = (signal, later) ∧ rows (all events) = ([], signal) ∧
        ∀ row, signal ≠ .data row := by
  induction events with
  | nil => exact .inr ⟨.ended, [], rfl, rfl, by simp⟩
  | cons event events ih =>
      unfold nextRow
      cases hsignal : ofEvent? event with
      | none =>
          rw [show all (event :: events) = all events from List.filterMap_cons_none hsignal]
          exact ih
      | some signal =>
          rw [show all (event :: events) = signal :: all events from
            List.filterMap_cons_some hsignal]
          cases signal with
          | metadata m =>
              -- The columns are known already; a repetition is passed over.
              exact ih
          | data row => exact .inl ⟨row, events, rfl, rfl⟩
          | reported e => exact .inr ⟨.reported e, events, rfl, rfl, by simp⟩
          | broken e => exact .inr ⟨.broken e, events, rfl, rfl, by simp⟩
          | ended => exact .inr ⟨.ended, events, rfl, rfl, by simp⟩

end Signal

/-! ## Streams on a single socket -/

/-- A conversation that is about to begin, with a peer that opens one socket. -/
def Conversation.withSocket (events : List SocketEvent) : Conversation :=
  { tokens := .supplied []
    network := { reachable := true, sockets := ['a'] }
    sockets := [{ answer := .opened events }] }

theorem Conversation.spares_withSocket (events : List SocketEvent) (id : CancelId) :
    (withSocket events).Spares id := by
  have hnone : ({} : StatementAnswers (Except Error Reply)).Spares id :=
    ⟨spare_nil id, spare_nil id, spare_nil id⟩
  exact ⟨rfl, DirectAnswers.spares_statements hnone, HttpAnswers.spares_empty id,
    by simp [Spare, withSocket]⟩

theorem dial_withSocket (events : List SocketEvent) :
    ∃ c₁, Socket.dial "http://a" "t" none 1 (Conversation.withSocket events) =
      (.ok events, c₁) := by
  have hfirst : (Socket.dial "http://a" "t" none 1 (Conversation.withSocket events)).1 =
      .ok events := by rfl
  exact ⟨_, Prod.ext hfirst rfl⟩

namespace StreamCursor

open Conversation (Sparing)
open Talk (Moves)

/-! ## One fetch -/

/-- What the end of a stream comes to. -/
def parting (lookup : Option (String × Runner)) (token : CancelId) (c : Conversation) :
    Signal → Except Error (Option (List Value))
  | .reported e => .error (History.report lookup token e c).1
  | .broken e => .error e
  | _ => .ok none

/-- Fetching into destinations, one for each fetch. -/
def into (dest : Nat → List Value) (n : Nat) (r : Cursor) (c : Conversation) :
    ((Except Error Bool × List Value) × Cursor) × Conversation :=
  let (f, c) := r.next (dest n) c
  (((f.more, f.slots), f.cursor), c)

/-- Fetching rows into destinations, one for each fetch. -/
def rowsInto (dest : Nat → List Value) (n : Nat) (r : Cursor) (c : Conversation) :
    (Except Error (Option (List Value)) × Cursor) × Conversation :=
  let (f, c) := r.next (dest n) c
  ((f.more.map fun more => if more then some f.slots else none, f.cursor), c)

/-- Looking up the query of an error cancels nothing by itself. -/
theorem spares_report (lookup : Option (String × Runner)) (token : CancelId) (e : StreamError)
    {id : CancelId} {c : Conversation} (h : c.Spares id) :
    (History.report lookup token e c).2.Spares id := by
  have hspares := Conversation.sparing_allowsExchanges id (fun _ => True) token
  exact History.moves_report hspares (fun _ _ => trivial) e c h

variable {r : StreamCursor} {c : Conversation}

/-- What a cursor gives for a row that arrives. -/
def placed (r : StreamCursor) (row : Row) (dest : List Value) (cursor : StreamCursor) :
    Fetched StreamCursor :=
  let (more, slots) := Cells.place .streamed (r.metadata.columns.map (·.declared)) row dest
  ⟨more, slots, cursor⟩

/-- A row that comes next is placed into the destination, and the cursor goes on behind it. -/
theorem next_of_row (hopen : r.closed = false) (hmore : r.finished = false)
    (hgoing : c.isCancelled r.token = false) {row : Row} {left : List Row} {last : Signal}
    (hrest : Signal.rows (Signal.all r.events) = (row :: left, last)) (dest : List Value) :
    ∃ later, r.next dest c = (r.placed row dest { r with events := later }, c) ∧
      Signal.rows (Signal.all later) = (left, last) := by
  rcases Signal.nextRow_cases r.events with
    ⟨row', later, hnext, hsplit⟩ | ⟨signal, later, hnext, hsplit, hend⟩
  · rw [hrest] at hsplit
    cases hsplit
    refine ⟨later, ?_, rfl⟩
    unfold next placed
    simp only [hopen, hmore, hgoing, hnext, Bool.false_eq_true, if_false]
  · rw [hrest] at hsplit
    cases hsplit

/-- Where no row comes next, the cursor is at its end. -/
theorem cursor_next_of_end (hopen : r.closed = false) (hmore : r.finished = false) {last : Signal}
    (hrest : Signal.rows (Signal.all r.events) = ([], last)) (dest : List Value) :
    (r.next dest c).1.cursor = r.finish := by
  rcases Signal.nextRow_cases r.events with
    ⟨row, later, hnext, hsplit⟩ | ⟨signal, later, hnext, hsplit, hend⟩
  · rw [hrest] at hsplit
    cases hsplit
  · unfold next
    simp only [hopen, hmore, hnext, Bool.false_eq_true, if_false]
    split
    · rfl
    · cases signal with
      | data row => exact absurd rfl (hend row)
      | metadata m => rfl
      | broken e => rfl
      | ended => rfl
      | reported e => rfl

/-- Behind the end there is nothing. -/
theorem next_of_finished (hopen : r.closed = false) (hfinished : r.finished = true)
    (dest : List Value) : r.next dest c = (⟨.ok false, dest, r⟩, c) := by
  unfold next
  rw [hopen, hfinished]
  rfl

/-- Where the operation is cancelled, the cursor is at its end, whatever waits to be told. -/
theorem next_of_cancelled (hopen : r.closed = false) (hc : c.isCancelled r.token = true)
    (dest : List Value) :
    r.next dest c = (⟨.ok false, dest, if r.finished then r else r.finish⟩, c) := by
  unfold next
  rw [hopen, hc]
  cases r.finished <;> rfl

/-- A row that comes next is decoded, and the cursor goes on behind it. -/
theorem rowsInto_of_row (hopen : r.closed = false) (hmore : r.finished = false)
    (hgoing : c.isCancelled r.token = false) {row : Row} {left : List Row} {last : Signal}
    (hrest : Signal.rows (Signal.all r.events) = (row :: left, last)) (dest : Nat → List Value)
    (n : Nat) (hwidth : row.length = (dest n).length) :
    (rowsInto dest n (.streamed r) c).1.1 =
      (decodeRow .streamed (r.metadata.columns.map (·.declared)) row).map some := by
  obtain ⟨later, hnext, -⟩ := next_of_row hopen hmore hgoing hrest (dest n)
  unfold rowsInto Cursor.next
  dsimp only
  rw [hnext]
  unfold placed
  rcases Cells.place_of_length .streamed (r.metadata.columns.map (·.declared)) row (dest n)
    hwidth with ⟨values, hvalues, hplace⟩ | ⟨e, he, hplace⟩
  · rw [hvalues, hplace]
    rfl
  · rw [he]
    dsimp only [Cursor.fetched]
    rw [hplace]
    rfl

/-- Where no row comes next, the end of the stream is told. -/
theorem rowsInto_of_end (hopen : r.closed = false) (hmore : r.finished = false)
    (hc : c.Spares r.token) {last : Signal}
    (hrest : Signal.rows (Signal.all r.events) = ([], last)) (dest : Nat → List Value) (n : Nat) :
    (rowsInto dest n (.streamed r) c).1.1 = parting r.lookup r.token c last := by
  rcases Signal.nextRow_cases r.events with
    ⟨row, later, hnext, hsplit⟩ | ⟨signal, later, hnext, hsplit, hend⟩
  · rw [hrest] at hsplit
    cases hsplit
  · rw [hrest] at hsplit
    cases hsplit
    unfold rowsInto Cursor.next next
    simp only [hopen, hmore, hc.going, hnext, Bool.false_eq_true, if_false]
    cases last with
    | data row => exact absurd rfl (hend row)
    | metadata m => rfl
    | broken e => rfl
    | ended => rfl
    | reported e =>
        -- The query of the error is looked up first, and that does not cancel the stream.
        have hgoing := (spares_report r.lookup r.token e hc).going
        dsimp only [Cursor.fetched]
        rw [hgoing]
        rfl

/-! ## A whole stream -/

/-- What a caller is told by the fetch after `n` others. -/
def toldAt (columns : List StreamColumn) (lookup : Option (String × Runner)) (token : CancelId)
    (c : Conversation) (stream : List Row × Signal) (n : Nat) :
    Except Error (Option (List Value)) :=
  match stream.1[n]? with
  | some row => (decodeRow .streamed (columns.map (·.declared)) row).map some
  | none => if n = stream.1.length then parting lookup token c stream.2 else .ok none

/-- The state of a cursor after any number of fetches: some rows and the end of the stream are
still to come, or the end has been told. -/
theorem afterFetches_cases (hopen : r.closed = false) (hmore : r.finished = false)
    (hgoing : c.isCancelled r.token = false) {stream : List Row × Signal}
    (hstream : Signal.rows (Signal.all r.events) = stream) (dest : Nat → List Value) (n : Nat) :
    (∃ later, afterFetches (into dest) (.streamed r) c n =
        (.streamed { r with events := later }, c) ∧ n ≤ stream.1.length ∧
      Signal.rows (Signal.all later) = (stream.1.drop n, stream.2)) ∨
    ∃ r' c', afterFetches (into dest) (.streamed r) c n = (.streamed r', c') ∧
      stream.1.length < n ∧ r'.closed = false ∧ r'.finished = true := by
  induction n with
  | zero => exact .inl ⟨r.events, rfl, Nat.zero_le _, hstream⟩
  | succ n ih =>
      unfold afterFetches
      rcases ih with ⟨later, hafter, hle, hrest⟩ | ⟨r', c', hafter, hlt, hopen', hfinished⟩
      · rw [hafter]
        dsimp only [into, Cursor.next]
        cases hrow : stream.1[n]? with
        | some row =>
            left
            obtain ⟨hlt, hget⟩ := List.getElem?_eq_some_iff.mp hrow
            rw [List.drop_eq_getElem_cons hlt, hget] at hrest
            obtain ⟨rest, hnext, hleft⟩ := next_of_row (r := { r with events := later }) hopen hmore
              hgoing hrest (dest n)
            rw [hnext]
            exact ⟨rest, rfl, hlt, hleft⟩
        | none =>
            right
            have hlength : stream.1.length ≤ n := List.getElem?_eq_none_iff.mp hrow
            rw [List.drop_eq_nil_of_le hlength] at hrest
            have hcursor := cursor_next_of_end (r := { r with events := later }) (c := c) hopen
              hmore hrest (dest n)
            refine ⟨_, _, rfl, Nat.lt_succ_of_le hlength, ?_, ?_⟩ <;> rw [hcursor]
            · exact hopen
            · rfl
      · right
        rw [hafter]
        dsimp only [into, Cursor.next]
        rw [next_of_finished hopen' hfinished]
        exact ⟨r', c', rfl, Nat.lt_succ_of_lt hlt, hopen', hfinished⟩

/-- It makes no difference to the cursor what is made of a fetch. -/
theorem afterFetches_rowsInto (dest : Nat → List Value) (r : Cursor) (c : Conversation) (n : Nat) :
    afterFetches (rowsInto dest) r c n = afterFetches (into dest) r c n := by
  induction n with
  | zero => rfl
  | succ n ih =>
      unfold afterFetches
      rw [ih]
      rfl

/-- Every fetch from a stream whose operation is cancelled finds the end. -/
theorem fetches_of_cancelled (hopen : r.closed = false) (hc : c.isCancelled r.token = true)
    (dest : Nat → List Value) (n : Nat) :
    ∃ r' : StreamCursor, afterFetches (rowsInto dest) (.streamed r) c n = (.streamed r', c) ∧
      r'.closed = false ∧ r'.token = r.token := by
  induction n with
  | zero => exact ⟨r, rfl, hopen, rfl⟩
  | succ n ih =>
      obtain ⟨r', hafter, hopen', htoken⟩ := ih
      have hnext := next_of_cancelled hopen' (htoken ▸ hc) (dest n)
      unfold afterFetches
      rw [hafter]
      dsimp only [rowsInto, Cursor.next]
      rw [hnext]
      refine ⟨_, rfl, ?_, ?_⟩
      · split <;> exact hopen'
      · split <;> exact htoken

theorem fetchedAt_rowsInto (hopen : r.closed = false) (hmore : r.finished = false)
    (hc : c.Spares r.token) {stream : List Row × Signal}
    (hstream : Signal.rows (Signal.all r.events) = stream) (dest : Nat → List Value)
    (hwidth : ∀ n row, stream.1[n]? = some row → row.length = (dest n).length) (n : Nat) :
    fetchedAt (rowsInto dest) (.streamed r) c n =
      toldAt r.metadata.columns r.lookup r.token c stream n := by
  unfold fetchedAt toldAt
  rw [afterFetches_rowsInto]
  rcases afterFetches_cases hopen hmore hc.going hstream dest n with
    ⟨later, hafter, hle, hrest⟩ | ⟨r', c', hafter, hlt, hopen', hfinished⟩
  · rw [hafter]
    dsimp only
    cases hrow : stream.1[n]? with
    | some row =>
        obtain ⟨hlt, hget⟩ := List.getElem?_eq_some_iff.mp hrow
        rw [List.drop_eq_getElem_cons hlt, hget] at hrest
        exact rowsInto_of_row (r := { r with events := later }) hopen hmore hc.going hrest dest n
          (hwidth n row hrow)
    | none =>
        have hlength : stream.1.length ≤ n := List.getElem?_eq_none_iff.mp hrow
        rw [List.drop_eq_nil_of_le hlength] at hrest
        rw [rowsInto_of_end (r := { r with events := later }) hopen hmore hc hrest dest n]
        exact (if_pos (Nat.le_antisymm hle hlength)).symm
  · rw [hafter]
    dsimp only [rowsInto, Cursor.next]
    rw [next_of_finished hopen' hfinished, List.getElem?_eq_none (Nat.le_of_lt hlt)]
    exact (if_neg (Nat.ne_of_gt hlt)).symm

/-! ## Opening a stream -/

/-- The fault of a stream that does not begin with its columns. -/
def refusal (lookup : Option (String × Runner)) (token : CancelId) (c : Conversation) :
    Option Signal → Error
  | some (.data _) => .protocol "data received before metadata"
  | some (.reported e) => (History.report lookup token e c).1
  | some (.broken e) => e
  | _ => .protocol "stream ended before metadata"

theorem ofEvents_cases (lookup : Option (String × Runner)) (token : CancelId) (hints : Bool)
    (events : List SocketEvent) (c : Conversation) :
    (∃ m later, Signal.all events = .metadata m :: Signal.all later ∧
      ofEvents lookup token hints events c =
        (.ok { metadata := m, events := later, lookup, token, hints }, c)) ∨
      (∀ m, (Signal.all events).head? ≠ some (.metadata m)) ∧
        (ofEvents lookup token hints events c).1 =
          .error (refusal lookup token c (Signal.all events).head?) := by
  unfold ofEvents
  rcases Signal.next_cases events with ⟨hall, hnext⟩ | ⟨signal, later, hnext, hall⟩
  · right
    rw [hnext, hall]
    exact ⟨by simp, rfl⟩
  · rw [hnext, hall]
    cases signal with
    | metadata m => exact .inl ⟨m, later, rfl, rfl⟩
    | data row => exact .inr ⟨by simp, rfl⟩
    | reported e => exact .inr ⟨by simp, rfl⟩
    | broken e => exact .inr ⟨by simp, rfl⟩
    | ended => exact .inr ⟨by simp, rfl⟩

theorem sparing_ofEvents (lookup : Option (String × Runner)) (token : CancelId) (hints : Bool)
    (events : List SocketEvent) (id : CancelId) :
    Moves (Sparing id) (ofEvents lookup token hints events) := by
  have hspares := Conversation.sparing_allowsExchanges id (fun _ => True) token
  exact moves_ofEvents hspares (fun _ _ => trivial) hints events

/-- Opening a stream over a socket that opens is opening it over what arrives there. -/
theorem openStream_of_dial (primary : Runner) {redirect : Redirect} {token : CancelId}
    {settings : CursorSettings} {c₁ : Conversation} {events : List SocketEvent}
    (hc : c.Spares token)
    (hdial : Socket.dial redirect.uri redirect.token settings.sessionId
      settings.handshakeTimeout c = (.ok events, c₁)) :
    c₁.Spares token ∧ Cursor.openStream primary redirect token settings c =
      ((ofEvents (redirect.queryId.map fun id => (id, primary)) token settings.hints events
          c₁).1.map .streamed,
        (ofEvents (redirect.queryId.map fun id => (id, primary)) token settings.hints events
          c₁).2) := by
  have hsocket := Socket.sparing_dial token redirect.uri redirect.token settings.sessionId
    settings.handshakeTimeout
  have hdialled : c₁.Spares token := by
    have := hsocket c hc
    rwa [hdial] at this
  refine ⟨hdialled, ?_⟩
  unfold Cursor.openStream
  refine (Talk.untilCancelled_of_spares ?_ hc).trans ?_
  · exact hsocket.bind fun events =>
      (sparing_ofEvents _ token settings.hints events token).bind fun rows => Talk.moves_pure _
  · simp only [bind, Talk.bind, hdial]
    cases ofEvents (redirect.queryId.map fun id => (id, primary)) token settings.hints events
      c₁ with
    | mk r c₂ => cases r <;> rfl

/-- What a cursor over a stream reports is determined by the frames that arrive. It is opened if
and only if they begin with the columns, and otherwise fails with the fault of the first one. Once
it is open, the fetches give the rows in order, then the end of the stream, once, and then
nothing. -/
theorem reports_follow_frames (primary : Runner) (redirect : Redirect)
    (settings : CursorSettings) {token : CancelId} {c₁ : Conversation} {events : List SocketEvent}
    (hc : c.Spares token)
    (hdial : Socket.dial redirect.uri redirect.token settings.sessionId
      settings.handshakeTimeout c = (.ok events, c₁)) :
    let lookup := redirect.queryId.map fun id => (id, primary)
    let opened := Cursor.openStream primary redirect token settings c
    ((∃ r c', opened = (.ok r, c')) ↔ ∃ m, Signal.BeginsWith m events) ∧
      (∀ e, opened.1 = .error e → e = refusal lookup token c₁ (Signal.all events).head?) ∧
      ∀ r c', opened = (.ok r, c') → ∃ m later, Signal.all events = .metadata m :: later ∧
        ∀ dest : Nat → List Value,
          (∀ n row, (Signal.rows later).1[n]? = some row → row.length = (dest n).length) →
          ∀ n, fetchedAt (rowsInto dest) r c' n =
            toldAt m.columns lookup token c₁ (Signal.rows later) n := by
  intro lookup opened
  obtain ⟨hdialled, hopened⟩ := openStream_of_dial primary hc hdial
  rcases ofEvents_cases lookup token settings.hints events c₁ with
    ⟨m, later, hall, hok⟩ | ⟨hhead, herror⟩
  · have hopen : opened = (.ok (.streamed
        { metadata := m, events := later, lookup, token, hints := settings.hints }), c₁) := by
      show Cursor.openStream primary redirect token settings c = _
      rw [hopened, hok]
      rfl
    rw [hopen]
    refine ⟨⟨fun _ => ⟨m, ?_⟩, fun _ => ⟨_, _, rfl⟩⟩, fun e he => (nomatch he), ?_⟩
    · rw [← Signal.head?_all_eq_metadata_iff, hall]
      rfl
    · rintro r c' ⟨⟩
      refine ⟨m, Signal.all later, hall, fun dest hwidth n => ?_⟩
      exact fetchedAt_rowsInto rfl rfl hdialled rfl dest hwidth n
  · have hfail : opened.1 = .error (refusal lookup token c₁ (Signal.all events).head?) := by
      show (Cursor.openStream primary redirect token settings c).1 = _
      rw [hopened, herror]
      rfl
    refine ⟨⟨?_, ?_⟩, ?_, ?_⟩
    · rintro ⟨r, c', hr⟩
      rw [hr] at hfail
      cases hfail
    · rintro ⟨m, hm⟩
      exact absurd ((Signal.head?_all_eq_metadata_iff events m).mpr hm) (hhead m)
    · intro e he
      rw [hfail] at he
      exact (Except.error.inj he).symm
    · intro r c' hr
      rw [hr] at hfail
      cases hfail

/-- A stream of one row that breaks off: the row is told, then the fault, and then nothing. -/
theorem row_is_told_before_fault :
    let columns := Text.utf8Bytes
      "\x7b\"type\":\"metadata\",\"columns\":[\x7b\"name\":\"v\",\"type\":\"VARCHAR\"\x7d]\x7d"
    let row := Text.utf8Bytes "\x7b\"type\":\"data\",\"data\":[\"a\"]\x7d"
    let events : List SocketEvent :=
      [.ping, .message true columns, .message false row, .failed "lost"]
    let c := Conversation.withSocket events
    let redirect : Redirect := { uri := "http://a", token := "t", kind := .streaming }
    let settings : CursorSettings :=
      { hints := false, sessionId := none, pollInterval := 0, handshakeTimeout := 1,
        maintenance := false }
    let x : Runner :=
      { service := .direct, keepsContext := true, sessionId := none, pollInterval := 0 }
    c.Spares 0 ∧ ∃ r c', Cursor.openStream x redirect 0 settings c = (.ok r, c') ∧
      fetchedAt (rowsInto fun _ => [.null]) r c' 0 = .ok (some [.string "a"]) ∧
      fetchedAt (rowsInto fun _ => [.null]) r c' 1 = .error (.transport (.receive "lost")) ∧
      fetchedAt (rowsInto fun _ => [.null]) r c' 2 = .ok none := by
  intro columns row events c redirect settings x
  have hc : c.Spares 0 := Conversation.spares_withSocket events 0
  have hall : Signal.all events =
      [.metadata { columns := [{ name := "v", declared := "VARCHAR" }] }, .data [some "a"],
        .broken (.transport (.receive "lost"))] := by decide +kernel
  obtain ⟨c₁, hdial⟩ := dial_withSocket events
  obtain ⟨hopens, -, hreports⟩ :=
    reports_follow_frames x redirect settings hc hdial
  have hbegins := (Signal.head?_all_eq_metadata_iff events _).mp (congrArg List.head? hall)
  obtain ⟨r, c', hr⟩ := hopens.mpr ⟨_, hbegins⟩
  obtain ⟨m, later, hsplit, htold⟩ := hreports r c' hr
  rw [hall] at hsplit
  cases hsplit
  have htold := htold (fun _ => [.null]) (by
    intro n row hrow
    cases n with
    | zero =>
        cases hrow
        rfl
    | succ n => cases hrow)
  exact ⟨hc, r, c', hr, (htold 0).trans rfl, (htold 1).trans rfl, (htold 2).trans rfl⟩

end StreamCursor

end Tributary
