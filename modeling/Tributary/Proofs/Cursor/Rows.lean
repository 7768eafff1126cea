import Tributary.Cursor.Cells
import Tributary.Service.Conversation

/-!
# Rows, one after the other

What the decoding of a row is, said without a destination: every cell is read by the declared type
of its column, and the first cell that cannot be read is the fault of the row. A cursor that is
fetched from again and again goes through a sequence of states, one for each number of fetches.
-/

namespace Tributary

/-! ## Decoding a row -/

/-- The value of a cell in a column with an index, if there is such a column. -/
def decodeCell (format : Format) (declared : List String) (index : Nat)
    (cell : Option String) : Except Error Value :=
  match declared[index]? with
  | none => .error (.protocol s!"no metadata for column {index}")
  | some type => (Value.decode cell type format).mapError .conversion

/-- The values of a row. -/
def decodeRow (format : Format) (declared : List String) (row : Row) :
    Except Error (List Value) :=
  (row.mapIdx (decodeCell format declared)).mapM id

namespace Cells

theorem fill_nil (format : Format) (declared : List String) (index : Nat) (slots : List Value) :
    fill format declared index [] slots = (.ok (), slots) := by
  unfold fill
  rfl

theorem fill_cons (format : Format) (declared : List String) (index : Nat)
    (cell : Option String) (row : Row) (slot : Value) (slots : List Value) :
    fill format (declared.drop index) index (cell :: row) (slot :: slots) =
      match decodeCell format declared index cell with
      | .error e => (.error e, slot :: slots)
      | .ok v =>
        let (r, slots) := fill format (declared.drop (index + 1)) (index + 1) row slots
        (r, v :: slots) := by
  cases htype : declared[index]? with
  | none =>
      have hdrop : declared.drop index = [] :=
        List.drop_eq_nil_of_le (List.getElem?_eq_none_iff.mp htype)
      rw [hdrop]
      simp only [fill, decodeCell, htype]
  | some type =>
      obtain ⟨hlt, rfl⟩ := List.getElem?_eq_some_iff.mp htype
      rw [List.drop_eq_getElem_cons hlt]
      simp only [fill, decodeCell, htype]
      cases Value.decode cell declared[index] format <;> rfl

/-- Cells fill as many slots with their values, from any column on. -/
theorem fill_of_length (format : Format) (declared : List String) (index : Nat) (row : Row)
    (slots : List Value) (h : row.length = slots.length) :
    (∃ values, (row.mapIdx fun i => decodeCell format declared (index + i)).mapM id = .ok values ∧
      fill format (declared.drop index) index row slots = (.ok (), values)) ∨
    ∃ e, (row.mapIdx fun i => decodeCell format declared (index + i)).mapM id = .error e ∧
      (fill format (declared.drop index) index row slots).1 = .error e := by
  induction row generalizing index slots with
  | nil =>
      left
      rw [List.length_eq_zero_iff.mp h.symm, fill_nil]
      exact ⟨[], rfl, rfl⟩
  | cons cell row ih =>
      cases slots with
      | nil => cases h
      | cons slot slots =>
          have hrest := ih (index + 1) slots (Nat.succ.inj h)
          have hshift : (fun i => decodeCell format declared (index + (i + 1))) =
              fun i => decodeCell format declared (index + 1 + i) := by
            funext i
            rw [Nat.add_assoc, Nat.add_comm 1 i]
          rw [List.mapIdx_cons, List.mapM_cons, hshift, Nat.add_zero, fill_cons]
          cases hcell : decodeCell format declared index cell with
          | error e => exact .inr ⟨e, rfl, rfl⟩
          | ok v =>
              -- The cell is read, and what comes of the row is decided by the cells after it.
              rcases hrest with ⟨values, hvalues, hfill⟩ | ⟨e, he, hfill⟩
              · left
                refine ⟨v :: values, ?_, ?_⟩
                · rw [hvalues]
                  rfl
                · rw [hfill]
              · right
                refine ⟨e, ?_, ?_⟩
                · rw [he]
                  rfl
                · exact hfill

/-- A row that is placed into a destination of its own width is decoded. -/
theorem place_of_length (format : Format) (declared : List String) (row : Row)
    (dest : List Value) (h : row.length = dest.length) :
    (∃ values, decodeRow format declared row = .ok values ∧
      place format declared row dest = (.ok true, values)) ∨
    ∃ e, decodeRow format declared row = .error e ∧
      (place format declared row dest).1 = .error e := by
  have hzero : (fun i => decodeCell format declared (0 + i)) = decodeCell format declared := by
    funext i
    rw [Nat.zero_add]
  have hfill := fill_of_length format declared 0 row dest h
  rw [hzero, List.drop_zero] at hfill
  unfold place decodeRow
  rw [if_pos h]
  dsimp only
  rcases hfill with ⟨values, hvalues, hfill⟩ | ⟨e, he, hfill⟩
  · left
    refine ⟨values, hvalues, ?_⟩
    rw [hfill]
    rfl
  · right
    refine ⟨e, he, ?_⟩
    rw [hfill]
    rfl

end Cells

/-! ## Fetching again and again -/

/-- A cursor and its conversation after some fetches. -/
def afterFetches (fetch : Nat → κ → Conversation → (α × κ) × Conversation) (r : κ)
    (c : Conversation) : Nat → κ × Conversation
  | 0 => (r, c)
  | n + 1 =>
    let (r, c) := afterFetches fetch r c n
    let ((_, r), c) := fetch n r c
    (r, c)

/-- What the fetch after `n` others comes to. -/
def fetchedAt (fetch : Nat → κ → Conversation → (α × κ) × Conversation) (r : κ)
    (c : Conversation) (n : Nat) : α :=
  let (r, c) := afterFetches fetch r c n
  (fetch n r c).1.1

end Tributary
