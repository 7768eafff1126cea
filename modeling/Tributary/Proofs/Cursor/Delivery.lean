import Tributary.Proofs.Cursor.Forward
import Tributary.Proofs.Value.Decoding

/-!
# What cursors deliver

A cursor tells of each column which kind of value its cells decode into. Whatever arrives, a fetch
that gives a row gives one value for each cell of it, which is null where the cell is null and
otherwise of the kind that is told of its column. The columns are those of the result that the
cursor was opened over, whatever comes with later partitions.
-/

namespace Tributary

namespace Cursor

/-! ## The columns of a cursor -/

/-- The wire format of the cells. -/
def format : Cursor → Format
  | .paged _ => .paged
  | .streamed _ => .streamed

/-- The declared types of the columns. -/
def declared : Cursor → List String
  | .paged rows => rows.columns.map (·.declared)
  | .streamed rows => rows.metadata.columns.map (·.declared)

theorem width_eq (r : Cursor) : r.width = r.declared.length := by
  cases r <;> simp [width, describe, PagedCursor.describe, StreamCursor.describe, declared]

/-- What is told of a column is the kind of its declared type. -/
theorem column?_scanType (r : Cursor) (i : Nat) :
    (r.column? i).map Column.scanType =
      r.declared[i]?.map fun type => ScanType.of type r.format := by
  cases r with
  | paged rows =>
      simp only [column?, describe, PagedCursor.describe, declared, format, List.getElem?_map,
        Option.map_map]
      rfl
  | streamed rows =>
      simp only [column?, describe, StreamCursor.describe, declared, format, List.getElem?_map,
        Option.map_map]
      rfl

end Cursor

/-! ## The row of a fetch -/

/-- A row that is held is decoded by the columns of the cursor. -/
theorem PagedCursor.serve_of_held {r : PagedCursor} {k : Nat} {row : Row}
    (h : r.held[k]? = some row) (dest : List Value) :
    r.serve k dest = r.placed row dest { r with position := r.position + 1 } := by
  unfold serve placed
  simp only [h]

/-- A fetch gives a row only if the partition that it lies in is held and has it. -/
theorem PagedCursor.of_next_eq_true {r : PagedCursor} {dest : List Value} {c : Conversation}
    (h : (r.next dest c).1.more = .ok true) :
    ∃ k partition held c' row, locate r.partitions r.position 0 = some (k, partition) ∧
      r.holding partition c = (.ok { r with held, partition }, c') ∧ held[k]? = some row ∧
      ((r.next dest c).1.more, (r.next dest c).1.slots) =
        Cells.place .paged (r.columns.map (·.declared)) row dest := by
  by_cases hclosed : r.closed = true
  · unfold next at h
    rw [if_pos hclosed] at h
    cases h
  · rcases next_cases (Bool.eq_false_iff.mpr hclosed) dest c with
      ⟨-, hnext⟩ | ⟨k, partition, hlocate, ⟨e, -, hnext⟩ | ⟨held, hheld, hnext⟩⟩
    · rw [hnext] at h
      cases h
    · rw [hnext] at h
      cases h
    · rw [hnext] at h ⊢
      cases hrow : held[k]? with
      | none =>
          unfold serve at h
          rw [show ({ r with held, partition } : PagedCursor).held[k]? = none from hrow] at h
          cases h
      | some row =>
          refine ⟨k, partition, held, (r.holding partition c).2, row, hlocate, ?_, hrow, ?_⟩
          · rw [← hheld]
          · rw [serve_of_held (r := { r with held, partition }) hrow]
            rfl

/-- A fetch from a stream gives a row only if one comes next. -/
theorem StreamCursor.of_next_eq_true {r : StreamCursor} {dest : List Value} {c : Conversation}
    (h : (r.next dest c).1.more = .ok true) :
    ∃ row later, Signal.nextRow r.events = (.data row, later) ∧
      ((r.next dest c).1.more, (r.next dest c).1.slots) =
        Cells.place .streamed (r.metadata.columns.map (·.declared)) row dest := by
  unfold next at h ⊢
  split at h
  · cases h
  next hopen =>
  split at h
  · cases h
  next hmore =>
  split at h
  · cases h
  next hgoing =>
  rw [if_neg hopen, if_neg hmore, if_neg hgoing]
  split at h
  next row later hrow =>
    exact ⟨row, later, hrow, rfl⟩
  next => cases h
  next e later hlast =>
    dsimp only at h
    split at h <;> cases h
  next => cases h

namespace Cursor

/-- A row is there for a fetch: in the partition that the next row lies in, or next on the
socket. -/
def Offers (r : Cursor) (c : Conversation) (row : Row) : Prop :=
  match r with
  | .paged r => ∃ k partition held c',
      PagedCursor.locate r.partitions r.position 0 = some (k, partition) ∧
        r.holding partition c = (.ok { r with held, partition }, c') ∧ held[k]? = some row
  | .streamed r => ∃ later, Signal.nextRow r.events = (.data row, later)

/-- A fetch gives a row only if one is there, and gives what that decodes into. -/
theorem of_next_eq_true {r : Cursor} {dest : List Value} {c : Conversation}
    (h : (r.next dest c).1.more = .ok true) :
    ∃ row, r.Offers c row ∧ row.length = dest.length ∧
      decodeRow r.format r.declared row = .ok (r.next dest c).1.slots := by
  have hplaced : ∃ row, r.Offers c row ∧
      ((r.next dest c).1.more, (r.next dest c).1.slots) =
        Cells.place r.format r.declared row dest := by
    cases r with
    | paged r =>
        obtain ⟨k, partition, held, c', row, hlocate, hheld, hrow, hplace⟩ :=
          PagedCursor.of_next_eq_true h
        exact ⟨row, ⟨k, partition, held, c', hlocate, hheld, hrow⟩, hplace⟩
    | streamed r =>
        obtain ⟨row, later, hrow, hplace⟩ := StreamCursor.of_next_eq_true h
        exact ⟨row, ⟨later, hrow⟩, hplace⟩
  obtain ⟨row, hoffers, hplace⟩ := hplaced
  obtain ⟨hmore, hslots⟩ := Prod.mk.inj hplace
  rw [hmore] at h
  obtain ⟨hwidth, -, hdecode⟩ := Cells.of_place_eq_ok h
  exact ⟨row, hoffers, hwidth, hslots ▸ hdecode⟩

/-! ## Values and columns -/

/-- A value matches a cell and its column: it is null just when the cell is, and otherwise of the
kind that is told of the column. -/
def Matches (column : Column) (cell : Option String) (v : Value) : Prop :=
  (v = .null ↔ cell = none) ∧ (v ≠ .null → v.scanType? = some column.scanType)

/-- Each value of a decoded row matches its cell and its column. -/
theorem matches_of_decodeRow {r : Cursor} {row : Row} {values : List Value}
    (h : decodeRow r.format r.declared row = .ok values) {i : Nat} {cell : Option String}
    (hcell : row[i]? = some cell) :
    ∃ column v, r.column? i = some column ∧ values[i]? = some v ∧ Matches column cell v := by
  have hvalue := getElem?_of_decodeRow h i
  rw [hcell, Option.map_some] at hvalue
  obtain ⟨v, hv, hdecoded⟩ := Option.map_eq_some_iff.mp hvalue.symm
  obtain ⟨type, htype, hdecode⟩ := of_decodeCell_eq_ok hdecoded.symm
  have hkind := Value.scanType?_decode hdecode
  have hcolumn := r.column?_scanType i
  rw [htype, Option.map_some] at hcolumn
  obtain ⟨column, hfound, hscan⟩ := Option.map_eq_some_iff.mp hcolumn
  refine ⟨column, v, hfound, hv, ?_, ?_⟩
  · rw [← Value.scanType?_eq_none_iff, hkind, Option.map_eq_none_iff]
  · intro hnull
    cases cell with
    | none => exact absurd ((Value.scanType?_eq_none_iff v).mp hkind) hnull
    | some text =>
        rw [hkind, hscan]
        rfl

theorem of_nextRow_eq_some {r r' : Cursor} {row : List Value} {c c' : Conversation}
    (h : r.nextRow c = ((.ok (some row), r'), c')) :
    (r.next (List.replicate r.width .null) c).1.more = .ok true ∧
      (r.next (List.replicate r.width .null) c).1.slots = row := by
  have hrow := congrArg (fun p => p.1.1) h
  unfold nextRow at hrow
  dsimp only at hrow
  cases hmore : (r.next (List.replicate r.width .null) c).1.more with
  | error e =>
      rw [hmore] at hrow
      cases hrow
  | ok more =>
      rw [hmore] at hrow
      cases more with
      | false => cases hrow
      | true => exact ⟨rfl, Option.some.inj (Except.ok.inj hrow)⟩

/-- Delivered values match the columns that are told of. Whenever a fetch gives a row, it is a row
that was there, as wide as the destination and no wider than the columns, and each slot matches
its cell and its column. A row that is fetched without a destination is as wide as the columns.
Later partitions are decoded by the columns of the first result, and these stay the columns that
are told of. -/
theorem values_match_columns :
    (∀ (r : Cursor) (dest : List Value) (c : Conversation), (r.next dest c).1.more = .ok true →
        ∃ row, r.Offers c row ∧ row.length = dest.length ∧ row.length ≤ r.width ∧
          (r.next dest c).1.slots.length = row.length ∧
          ∀ i cell, row[i]? = some cell → ∃ column v, r.column? i = some column ∧
            (r.next dest c).1.slots[i]? = some v ∧ Matches column cell v) ∧
      (∀ (r r' : Cursor) (row : List Value) (c c' : Conversation),
        r.nextRow c = ((.ok (some row), r'), c') → row.length = r.width) ∧
      ∀ (x : Runner) (id : CancelId) (first : ResultSet) (hints : Bool)
        (attempts : List PagedCursor.Attempt),
        let r := (PagedCursor.ofResult x id first hints).after attempts
        (∀ i, (Cursor.paged r).column? i = first.metadata.columns[i]?.map fun column =>
            .describe column.name column.declared column.nullable hints .paged) ∧
          ∀ (dest : List Value) (c c' : Conversation) (k partition : Nat) (result : ResultSet)
            (row : Row), PagedCursor.locate r.partitions r.position 0 = some (k, partition) →
            partition ≠ r.partition →
            r.runner.await r.token r.statementId (PagedCursor.partNumber partition) c =
              (.ok result, c') →
            result.rows[k]? = some row →
            ((r.next dest c).1.more, (r.next dest c).1.slots) =
              Cells.place .paged (first.metadata.columns.map (·.declared)) row dest := by
  have hrows (r : Cursor) (dest : List Value) (c : Conversation)
      (h : (r.next dest c).1.more = .ok true) :
      ∃ row, r.Offers c row ∧ row.length = dest.length ∧ row.length ≤ r.width ∧
        (r.next dest c).1.slots.length = row.length ∧
        ∀ i cell, row[i]? = some cell → ∃ column v, r.column? i = some column ∧
          (r.next dest c).1.slots[i]? = some v ∧ Matches column cell v := by
    obtain ⟨row, hoffers, hwidth, hdecode⟩ := of_next_eq_true h
    refine ⟨row, hoffers, hwidth, ?_, length_of_decodeRow hdecode, ?_⟩
    · rw [width_eq]
      exact length_le_of_decodeRow hdecode
    · intro i cell hcell
      exact matches_of_decodeRow hdecode hcell
  refine ⟨hrows, ?_, ?_⟩
  · intro r r' row c c' h
    obtain ⟨hmore, hslots⟩ := of_nextRow_eq_some h
    obtain ⟨cells, -, hwidth, -, hlength, -⟩ := hrows r _ c hmore
    rw [← hslots, hlength, hwidth, List.length_replicate]
  · intro x id first hints attempts r
    obtain ⟨held, p, position, hkeeps⟩ :=
      PagedCursor.after_keeps (PagedCursor.ahead_ofResult x id first hints) attempts
    have hcolumns : r.columns = first.metadata.columns := congrArg PagedCursor.columns hkeeps
    have hhints : r.hints = hints := congrArg PagedCursor.hints hkeeps
    have hopen : r.closed = false := congrArg PagedCursor.closed hkeeps
    constructor
    · intro i
      rw [← hcolumns, ← hhints]
      exact List.getElem?_map
    · intro dest c c' k partition result row hlocate hother hawait hrow
      rw [PagedCursor.next_of_other hopen dest c hlocate hother hawait, ← hcolumns,
        PagedCursor.serve_of_held (r := { r with held := result.rows, partition }) hrow]
      rfl

/-- The second partition comes with columns of its own, and is decoded by those of the first. -/
theorem first_columns_decode_second_partition :
    let x : Runner :=
      { service := .direct, keepsContext := true, sessionId := none, pollInterval := 0 }
    let first : ResultSet :=
      { statementId := ⟨List.replicate 32 1, rfl⟩
        sqlState := .named .successfulCompletion
        metadata :=
          { partitions := [1, 1]
            columns :=
              [{ name := "n", declared := "BIGINT;wide" }, { name := "s", declared := "X" }] }
        data := some [[some "7", none]] }
    let second : ResultSet :=
      { first with
        metadata := { columns := [{ name := "s", declared := "VARCHAR" }] }
        data := some [[some "8", some "b"]] }
    let c := Conversation.withScripts [] [{ answer := .ok (.completed second) }]
    let r := PagedCursor.ofResult x 0 first true
    let r' := r.after [⟨[.null, .null], c⟩]
    (r.next [.null, .null] c).1.more = .ok true ∧
      (∃ column, (Cursor.paged r).column? 0 = some column ∧ column.scanType = .int64 ∧
        Matches column (some "7") (.int64 7)) ∧
      ((Cursor.paged r).nextRow c).1.1 = .ok (some [.int64 7, .null]) ∧
      (Cursor.paged r).width = 2 ∧
      (r'.next [.null, .null] c).1.slots = [.int64 8, .string "b"] := by
  intro x first second c r r'
  obtain ⟨hrows, hwidths, hlater⟩ := values_match_columns
  have hmore : (r.next [.null, .null] c).1.more = .ok true := by decide
  have hslots : (r.next [.null, .null] c).1.slots = [.int64 7, .null] := by decide
  obtain ⟨row, ⟨k, partition, held, c', hlocate, hheld, hrow⟩, -, -, -, hcells⟩ :=
    hrows (.paged r) [.null, .null] c hmore
  -- The row that is there is the one that is held.
  have hfirst : PagedCursor.locate r.partitions r.position 0 = some (0, 0) := by decide
  rw [hfirst] at hlocate
  cases hlocate
  have hsame : r.holding 0 c = (.ok r, c) := rfl
  rw [hsame] at hheld
  obtain rfl : r.held = held :=
    congrArg PagedCursor.held (Except.ok.inj (congrArg Prod.fst hheld))
  cases hrow
  obtain ⟨column, v, hcolumn, hv, hmatches⟩ := hcells 0 (some "7") rfl
  rw [show ((Cursor.paged r).next [.null, .null] c).1.slots = [.int64 7, .null] from hslots] at hv
  cases hv
  have hrow : ((Cursor.paged r).nextRow c).1.1 = .ok (some [.int64 7, .null]) := by decide
  have hwidth := hwidths (.paged r) _ [.int64 7, .null] c _ (Prod.ext (Prod.ext hrow rfl) rfl)
  refine ⟨hmore, ⟨column, hcolumn, ?_, hmatches⟩, hrow, hwidth.symm, ?_⟩
  · exact (Option.some.inj (hmatches.2 (by simp))).symm
  · have hplace : PagedCursor.locate r'.partitions r'.position 0 = some (0, 1) := by decide
    have hawait : x.await 0 first.statementId (PagedCursor.partNumber 1) c =
        (.ok second, (x.await 0 first.statementId (PagedCursor.partNumber 1) c).2) := by
      rw [Runner.await_eq]
      rfl
    have hdecoded := (hlater x 0 first true [⟨[.null, .null], c⟩]).2 [.null, .null] c _ 0 1 second
      [some "8", some "b"] hplace (by decide) hawait rfl
    exact (congrArg Prod.snd hdecoded).trans (by decide)

end Cursor

end Tributary
