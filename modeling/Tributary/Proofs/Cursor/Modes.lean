import Tributary.Proofs.Cursor.Frames
import Tributary.Proofs.Cursor.Paging
import Tributary.Proofs.Number.Decimal

/-!
# Both kinds of cursors agree

The rows of a result may be fetched in partitions or arrive on a socket, and the cells of a stream
are written in a format of their own. Apart from dates, the formats differ only in how big integers
are read. So a caller who goes over the same rows is given the same by either cursor, fetch by
fetch: the values, the fault of a row that does not fit, what stays in the destination, and the end.
-/

namespace Tributary

/-! ## Cells in both formats -/

/-- Cells are read the same in both formats, but for dates and for big integers that are none. -/
theorem Value.decode_streamed {cell : Option String} {type : String}
    (hdate : Family.of? type ≠ some .date)
    (hbig : Family.of? type = some .bigInt → ∀ text, cell = some text →
      ∃ v, Integer.read Integer.int64 text.toList = .ok v) :
    decode cell type .streamed = decode cell type .paged := by
  cases cell with
  | none => rfl
  | some text =>
      unfold decode
      dsimp only
      cases hfamily : Family.of? type with
      | none => rfl
      | some family =>
          rw [hfamily] at hdate hbig
          cases family with
          | date => exact absurd rfl hdate
          | bigInt =>
              obtain ⟨v, hv⟩ := hbig rfl text rfl
              exact readDecimal_of_integer hv type
          | _ => rfl

/-- The cells of a row in columns of big integers are null or integers of 64 bits. -/
def HoldsIntegers (declared : List String) (row : Row) : Prop :=
  ∀ (i : Nat) (type text : String), declared[i]? = some type → Family.of? type = some .bigInt →
    row[i]? = some (some text) → ∃ v, Integer.read Integer.int64 text.toList = .ok v

section

variable {declared : List String} (hdate : ∀ type ∈ declared, Family.of? type ≠ some .date)
include hdate

theorem decodeCell_streamed {row : Row} (hrow : HoldsIntegers declared row) {i : Nat}
    {cell : Option String} (hcell : row[i]? = some cell) :
    decodeCell .streamed declared i cell = decodeCell .paged declared i cell := by
  unfold decodeCell
  cases htype : declared[i]? with
  | none => rfl
  | some type =>
      dsimp only
      rw [Value.decode_streamed (hdate type (List.mem_of_getElem? htype))]
      rintro hbig text rfl
      exact hrow i type text htype hbig hcell

end

namespace Cells

theorem fill_streamed (declared : List String) {row : Row} (index : Nat) (slots : List Value)
    (hcells : ∀ i cell, row[i]? = some cell →
      decodeCell .streamed declared (index + i) cell =
        decodeCell .paged declared (index + i) cell) :
    fill .streamed (declared.drop index) index row slots =
      fill .paged (declared.drop index) index row slots := by
  induction row generalizing index slots with
  | nil => rw [fill_nil, fill_nil]
  | cons cell row ih =>
      cases slots with
      | nil =>
          unfold fill
          rfl
      | cons slot slots =>
          have hcell := hcells 0 cell rfl
          rw [Nat.add_zero] at hcell
          have hrest := ih (index + 1) slots fun i cell hcell => by
            rw [Nat.add_assoc, Nat.add_comm 1 i]
            exact hcells (i + 1) cell hcell
          rw [fill_cons, fill_cons, hcell, hrest]

/-- A row is placed the same in both formats. -/
theorem place_streamed {declared : List String}
    (hdate : ∀ type ∈ declared, Family.of? type ≠ some .date) {row : Row}
    (hrow : HoldsIntegers declared row) (dest : List Value) :
    place .streamed declared row dest = place .paged declared row dest := by
  have hfill := fill_streamed declared 0 dest fun i cell hcell => by
    rw [Nat.zero_add]
    exact decodeCell_streamed hdate hrow hcell
  rw [List.drop_zero] at hfill
  unfold place
  rw [hfill]

end Cells

/-! ## Fetching in partitions -/

/-- What the fetch after `n` others comes to: the row that is next among all rows is placed into the
destination, and behind the last one there is nothing. -/
def placedAt (format : Format) (declared : List String) (rows : List Row)
    (dest : Nat → List Value) (n : Nat) : Except Error Bool × List Value :=
  match rows[n]? with
  | some row => Cells.place format declared row (dest n)
  | none => (.ok false, dest n)

namespace PagedCursor

open StreamCursor (into)

/-- If the next row lies in another partition than the one that is held, that partition arrives
with its rows when it is waited for. -/
def Supplied (parts : List (List Row)) (r : PagedCursor) (c : Conversation) : Prop :=
  ∀ k q, locate r.partitions r.position 0 = some (k, q) → q ≠ r.partition →
    ∃ result c', r.runner.await r.token r.statementId (partNumber q) c = (.ok result, c') ∧
      result.rows = parts.getD q []

variable {parts : List (List Row)} {r : PagedCursor} {c : Conversation}

/-- One fetch, wherever the cursor stands: the row that is next is placed, and passed. -/
theorem next_of_supplied (hopen : r.closed = false)
    (hcounts : r.partitions = parts.map fun rows => (rows.length : Int)) {p m : Nat}
    (hsupplied : (r.standing parts p m).Supplied parts c) (dest : List Value) :
    (∃ row q c', parts.flatten[m]? = some row ∧
        (r.standing parts p m).next dest c =
          (r.placed row dest (r.standing parts q (m + 1)), c')) ∨
      parts.flatten.length ≤ m ∧
        (r.standing parts p m).next dest c = (⟨.ok false, dest, r.standing parts p m⟩, c) := by
  rcases locate_cases parts m 0 with ⟨hle, hlocate⟩ | ⟨q, rows, k, hpart, hk, hsum, hlocate⟩
  · rw [← hcounts] at hlocate
    exact .inr ⟨hle, next_of_none (r := r.standing parts p m) hopen dest c hlocate⟩
  left
  rw [← hcounts, Nat.zero_add] at hlocate
  have hrow : rows[k]? = some rows[k] := List.getElem?_eq_getElem hk
  refine ⟨rows[k], q, ?_⟩
  rw [← hsum, getElem?_flatten hpart hk, hsum]
  by_cases hq : q = p
  · subst hq
    refine ⟨c, hrow, ?_⟩
    rw [← serve_standing hpart hrow dest]
    exact next_of_held (r := r.standing parts q m) hopen dest c hlocate
  · obtain ⟨result, c', hawait, hresult⟩ := hsupplied k q hlocate hq
    refine ⟨c', hrow, ?_⟩
    rw [next_of_other (r := r.standing parts p m) hopen dest c hlocate hq hawait, hresult,
      ← serve_standing hpart hrow dest]
    rfl

/-- The state of a cursor after any number of fetches. -/
theorem afterFetches_into (hopen : r.closed = false)
    (hcounts : r.partitions = parts.map fun rows => (rows.length : Int))
    (hbegin : r = r.standing parts 0 0) (dest : Nat → List Value) (n : Nat)
    (hsupplied : ∀ m < n, ∀ r' c', afterFetches (into dest) (.paged r) c m = (.paged r', c') →
      r'.Supplied parts c') :
    ∃ p c', afterFetches (into dest) (.paged r) c n =
      (.paged (r.standing parts p (min n parts.flatten.length)), c') := by
  induction n with
  | zero =>
      refine ⟨0, c, ?_⟩
      rw [Nat.zero_min, ← hbegin]
      rfl
  | succ n ih =>
      obtain ⟨p, c', hafter⟩ := ih fun m hm => hsupplied m (Nat.lt_succ_of_lt hm)
      have hnext := next_of_supplied hopen hcounts (hsupplied n (Nat.lt_succ_self n) _ c' hafter)
        (dest n)
      unfold afterFetches
      rw [hafter]
      dsimp only [into, Cursor.next]
      rcases hnext with ⟨row, q, c'', hrow, hnext⟩ | ⟨hle, hnext⟩
      · have hlt := (List.getElem?_eq_some_iff.mp hrow).1
        refine ⟨q, c'', ?_⟩
        rw [hnext, show min (n + 1) parts.flatten.length = min n parts.flatten.length + 1 by omega]
        rfl
      · refine ⟨p, c', ?_⟩
        rw [hnext, show min (n + 1) parts.flatten.length = min n parts.flatten.length by omega]
        rfl

/-- Fetching goes through the rows of all partitions. -/
theorem fetchedAt_into (hopen : r.closed = false)
    (hcounts : r.partitions = parts.map fun rows => (rows.length : Int))
    (hbegin : r = r.standing parts 0 0) (dest : Nat → List Value) (n : Nat)
    (hsupplied : ∀ m ≤ n, ∀ r' c', afterFetches (into dest) (.paged r) c m = (.paged r', c') →
      r'.Supplied parts c') :
    fetchedAt (into dest) (.paged r) c n =
      placedAt .paged (r.columns.map (·.declared)) parts.flatten dest n := by
  obtain ⟨p, c', hafter⟩ := afterFetches_into hopen hcounts hbegin dest n
    fun m hm => hsupplied m hm.le
  have hnext := next_of_supplied hopen hcounts (hsupplied n (Nat.le_refl n) _ c' hafter) (dest n)
  unfold fetchedAt placedAt
  rw [hafter]
  dsimp only [into, Cursor.next]
  rcases hnext with ⟨row, q, c'', hrow, hnext⟩ | ⟨hle, hnext⟩
  · have hlt := (List.getElem?_eq_some_iff.mp hrow).1
    rw [show min n parts.flatten.length = n by omega] at hrow hnext ⊢
    rw [hnext, hrow]
    rfl
  · rw [hnext, List.getElem?_eq_none (by omega)]
    rfl

end PagedCursor

/-! ## Fetching from a stream -/

namespace StreamCursor

/-- Where a stream ends, nothing is given. -/
theorem next_of_ended {r : StreamCursor} {c : Conversation} (hopen : r.closed = false)
    (hmore : r.finished = false) (hgoing : c.isCancelled r.token = false)
    (hrest : Signal.rows (Signal.all r.events) = ([], .ended)) (dest : List Value) :
    r.next dest c = (⟨.ok false, dest, r.finish⟩, c) := by
  rcases Signal.nextRow_cases r.events with
    ⟨row, later, hnext, hsplit⟩ | ⟨signal, later, hnext, hsplit, -⟩
  · rw [hrest] at hsplit
    cases hsplit
  · rw [hrest] at hsplit
    cases hsplit
    unfold next
    simp only [hopen, hmore, hgoing, hnext, Bool.false_eq_true, if_false]

/-- Fetching goes through the rows of a stream that ends. -/
theorem fetchedAt_into {r : StreamCursor} {c : Conversation} (hopen : r.closed = false)
    (hmore : r.finished = false) (hgoing : c.isCancelled r.token = false) {rows : List Row}
    (hstream : Signal.rows (Signal.all r.events) = (rows, .ended)) (dest : Nat → List Value)
    (n : Nat) :
    fetchedAt (into dest) (.streamed r) c n =
      placedAt .streamed (r.metadata.columns.map (·.declared)) rows dest n := by
  unfold fetchedAt placedAt
  rcases afterFetches_cases hopen hmore hgoing hstream dest n with
    ⟨later, hafter, -, hrest⟩ | ⟨r', c', hafter, hlt, hopen', hfinished⟩
  · rw [hafter]
    dsimp only [into, Cursor.next]
    cases hrow : rows[n]? with
    | some row =>
        obtain ⟨hlt, hget⟩ := List.getElem?_eq_some_iff.mp hrow
        rw [List.drop_eq_getElem_cons hlt, hget] at hrest
        obtain ⟨rest, hnext, -⟩ := next_of_row (r := { r with events := later }) hopen hmore hgoing
          hrest (dest n)
        rw [hnext]
        rfl
    | none =>
        rw [List.drop_eq_nil_of_le (List.getElem?_eq_none_iff.mp hrow)] at hrest
        rw [next_of_ended (r := { r with events := later }) hopen hmore hgoing hrest (dest n)]
        rfl
  · rw [hafter, List.getElem?_eq_none (Nat.le_of_lt hlt)]
    dsimp only [into, Cursor.next]
    rw [next_of_finished hopen' hfinished]
    rfl

end StreamCursor

/-! ## Both kinds of cursors -/

namespace Cursor

open StreamCursor (into)

/-- Both kinds of cursors over the same rows agree. The rows come in partitions, which arrive when
they are waited for, or in the frames of a stream, which ends behind them; no column holds dates,
and big integers fit. Then every fetch comes to the same with either cursor, whatever the
destinations are: the row that is next among all rows is placed, with the fault that it has and
what is written before the fault, and behind the last row there is nothing. -/
theorem modes_agree (x : Runner) (id : CancelId) {first : ResultSet} (hints : Bool)
    (c : Conversation) {parts : List (List Row)}
    (hcounts : first.metadata.partitions = parts.map fun rows => (rows.length : Int))
    (hfirst : first.rows = parts.headD []) (lookup : Option (String × Runner))
    {id' : CancelId} (hints' : Bool) {events : List SocketEvent} {c' : Conversation}
    (hgoing : c'.isCancelled id' = false) {m : StreamMetadata} {frames : List Signal}
    (hevents : Signal.all events = .metadata m :: frames)
    (hframes : Signal.rows frames = (parts.flatten, .ended)) {declared : List String}
    (hfirstColumns : first.metadata.columns.map (·.declared) = declared)
    (hstreamColumns : m.columns.map (·.declared) = declared)
    (hdate : ∀ type ∈ declared, Family.of? type ≠ some .date)
    (hintegers : ∀ row ∈ parts.flatten, HoldsIntegers declared row) :
    let r := PagedCursor.ofResult x id first hints
    ∃ s, StreamCursor.ofEvents lookup id' hints' events c' = (.ok s, c') ∧
      ∀ (dest : Nat → List Value) (n : Nat),
        (∀ m ≤ n, ∀ r' c₁, afterFetches (into dest) (.paged r) c m = (.paged r', c₁) →
          r'.Supplied parts c₁) →
        fetchedAt (into dest) (.paged r) c n = fetchedAt (into dest) (.streamed s) c' n ∧
          fetchedAt (into dest) (.paged r) c n = placedAt .paged declared parts.flatten dest n := by
  intro r
  have hbegin : r = r.standing parts 0 0 := by
    have hheld : first.rows = parts.getD 0 [] := by
      rw [hfirst]
      cases parts <;> rfl
    unfold PagedCursor.standing
    rw [← hheld]
    rfl
  rcases StreamCursor.ofEvents_cases lookup id' hints' events c' with
    ⟨m', later, hall, hopened⟩ | ⟨hhead, -⟩
  · rw [hevents] at hall
    cases hall
    refine ⟨_, hopened, fun dest n hsupplied => ?_⟩
    have hpaged := PagedCursor.fetchedAt_into (r := r) rfl hcounts hbegin dest n hsupplied
    rw [show r.columns.map (·.declared) = declared from hfirstColumns] at hpaged
    refine ⟨?_, hpaged⟩
    rw [hpaged, StreamCursor.fetchedAt_into rfl rfl hgoing hframes dest n]
    dsimp only
    rw [hstreamColumns]
    unfold placedAt
    cases hrow : parts.flatten[n]? with
    | none => rfl
    | some row =>
        exact (Cells.place_streamed hdate (hintegers row (List.mem_of_getElem? hrow)) (dest n)).symm
  · rw [hevents] at hhead
    exact absurd rfl (hhead m)

/-- Two rows, the second wider than the columns: its first cell is written before the fault. -/
theorem modes_agree_on_wide_row :
    let x : Runner :=
      { service := .direct, keepsContext := true, sessionId := none, pollInterval := 0 }
    let parts : List (List Row) := [[[some "+7"]], [[some "-8", some "b"]]]
    let first : ResultSet :=
      { statementId := ⟨List.replicate 32 1, rfl⟩
        sqlState := .named .successfulCompletion
        metadata := { partitions := [1, 1], columns := [{ name := "n", declared := "BIGINT" }] }
        data := parts[0]? }
    let c := Conversation.withScripts []
      [{ answer := .ok (.completed { first with data := parts[1]? }) }]
    let frame (json : String) := SocketEvent.message true (Text.utf8Bytes json)
    let events : List SocketEvent :=
      [frame ("\x7b\"type\":\"metadata\"," ++
          "\"columns\":[\x7b\"name\":\"n\",\"type\":\"BIGINT\"\x7d]\x7d"),
        frame "\x7b\"type\":\"data\",\"data\":[\"+7\"]\x7d", .ping,
        frame "\x7b\"type\":\"data\",\"data\":[\"-8\",\"b\"]\x7d", .close]
    let dest (n : Nat) : List Value := List.replicate (n + 1) .null
    let r := PagedCursor.ofResult x 0 first true
    ∃ s, StreamCursor.ofEvents none 1 false events c = (.ok s, c) ∧
      fetchedAt (into dest) (.paged r) c 0 = fetchedAt (into dest) (.streamed s) c 0 ∧
      fetchedAt (into dest) (.paged r) c 0 = (.ok true, [.int64 7]) ∧
      fetchedAt (into dest) (.paged r) c 1 = fetchedAt (into dest) (.streamed s) c 1 ∧
      fetchedAt (into dest) (.paged r) c 1 =
        (.error (.protocol "no metadata for column 1"), [.int64 (-8), .null]) ∧
      fetchedAt (into dest) (.paged r) c 2 = fetchedAt (into dest) (.streamed s) c 2 ∧
      fetchedAt (into dest) (.paged r) c 2 = (.ok false, [.null, .null, .null]) := by
  intro x parts first c frame events dest r
  have hevents : Signal.all events =
      [.metadata { columns := [{ name := "n", declared := "BIGINT" }] }, .data [some "+7"],
        .data [some "-8", some "b"], .ended] := by decide +kernel
  have hintegers : ∀ row ∈ parts.flatten, HoldsIntegers ["BIGINT"] row := by
    have hcell {row : Row} {text : String} {v : Int} (htext : row[0]? = some (some text))
        (hv : Integer.read Integer.int64 text.toList = .ok v) : HoldsIntegers ["BIGINT"] row := by
      intro i type text' htype _ hcell
      cases i with
      | zero =>
          rw [htext] at hcell
          cases hcell
          exact ⟨v, hv⟩
      | succ i => cases htype
    intro row hrow
    have hrows : row = [some "+7"] ∨ row = [some "-8", some "b"] := by simpa [parts] using hrow
    rcases hrows with rfl | rfl
    · exact hcell (v := 7) rfl (by decide)
    · exact hcell (v := -8) rfl (by decide)
  have hagrees := @modes_agree x 0 first true c parts rfl rfl none 1 false events c rfl _ _ hevents
    rfl _ rfl rfl (by decide) hintegers
  obtain ⟨s, hopened, hagree⟩ := hagrees
  -- The first row is held; the second one lies in the partition that arrives.
  have hbefore : ∀ m < 2, ∀ r' c₁, afterFetches (into dest) (.paged r) c m = (.paged r', c₁) →
      r'.Supplied parts c₁ := by
    intro m hm r' c₁ hafter k q hplace hother
    obtain rfl | rfl : m = 0 ∨ m = 1 := by omega
    · cases hafter
      have hheld : PagedCursor.locate r.partitions r.position 0 = some (0, 0) := by decide
      rw [hheld] at hplace
      cases hplace
      exact absurd rfl hother
    · have hone : afterFetches (into dest) (.paged r) c 1 =
        (.paged (r.standing parts 0 1), c) := rfl
      rw [hone] at hafter
      cases hafter
      have hnext : PagedCursor.locate (r.standing parts 0 1).partitions
        (r.standing parts 0 1).position 0 = some (0, 1) := by decide
      rw [hnext] at hplace
      cases hplace
      refine ⟨{ first with data := parts[1]? },
        (x.await 0 first.statementId 1 c).2, ?_, rfl⟩
      exact Prod.ext ((congrArg Prod.fst (Runner.await_eq x 0 first.statementId 1 c)).trans rfl) rfl
  have hsupplied : ∀ m ≤ 2, ∀ r' c₁, afterFetches (into dest) (.paged r) c m = (.paged r', c₁) →
      r'.Supplied parts c₁ := by
    intro m hm r' c₁ hafter
    rcases Nat.lt_or_eq_of_le hm with hlt | rfl
    · exact hbefore m hlt r' c₁ hafter
    · obtain ⟨p, c₂, hend⟩ := PagedCursor.afterFetches_into (r := r) rfl rfl rfl dest 2 hbefore
      rw [hend] at hafter
      cases hafter
      intro k q hplace
      have hnone : PagedCursor.locate (r.standing parts p (min 2 parts.flatten.length)).partitions
        (r.standing parts p (min 2 parts.flatten.length)).position 0 = none := rfl
      rw [hnone] at hplace
      cases hplace
  have hat (n : Nat) (hn : n ≤ 2) := hagree dest n fun m hm => hsupplied m (hm.trans hn)
  refine ⟨s, hopened, (hat 0 (by decide)).1, (hat 0 (by decide)).2.trans (by decide),
    (hat 1 (by decide)).1, (hat 1 (by decide)).2.trans (by decide), (hat 2 (by decide)).1,
    (hat 2 (by decide)).2.trans (by decide)⟩

end Cursor

end Tributary
