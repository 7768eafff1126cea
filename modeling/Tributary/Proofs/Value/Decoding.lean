import Tributary.Proofs.Cursor.Rows
import Tributary.Proofs.Text.Splitting

/-!
# What cells decode into

A cell that decodes gives null if it is null, and otherwise a value of the kind that is named for
its declared type. The kind is named by one table and the value read by another, so the two are
compared family by family.
-/

namespace Tributary

open Text (exists_of_map_eq_ok)

namespace Value

/-! ## Kinds of values -/

theorem scanType?_eq_none_iff (v : Value) : v.scanType? = none ↔ v = .null := by
  cases v <;> simp [scanType?]

theorem scanType?_readDecimal {declared cell : String} {v : Value}
    (h : readDecimal declared cell = .ok v) : v.scanType? = some .int64 := by
  unfold readDecimal at h
  split at h
  · cases h
  · split at h
    · cases h
      rfl
    · cases h

/-- A text that is read as a value of a family is of the kind of the family. -/
theorem scanType?_readAs {family : Family} {declared cell : String} {format : Format} {v : Value}
    (h : readAs family declared format cell = .ok v) :
    v.scanType? = some (family.scanType format) := by
  cases family with
  | text =>
      cases h
      rfl
  | date =>
      cases format with
      | paged =>
          obtain ⟨d, -, rfl⟩ := exists_of_map_eq_ok h
          rfl
      | streamed =>
          cases h
          rfl
  | integer =>
      obtain ⟨n, -, rfl⟩ := exists_of_map_eq_ok h
      rfl
  | bigInt =>
      cases format with
      | paged =>
          obtain ⟨n, -, rfl⟩ := exists_of_map_eq_ok h
          rfl
      | streamed => exact scanType?_readDecimal h
  | float =>
      obtain ⟨x, -, rfl⟩ := exists_of_map_eq_ok h
      rfl
  | timestamp =>
      obtain ⟨t, -, rfl⟩ := exists_of_map_eq_ok h
      rfl
  | time =>
      obtain ⟨t, -, rfl⟩ := exists_of_map_eq_ok h
      rfl
  | binary =>
      obtain ⟨b, -, rfl⟩ := exists_of_map_eq_ok h
      rfl
  | boolean =>
      cases h
      rfl

/-- A cell decodes into null if it is null, and else into the kind of its declared type. -/
theorem scanType?_decode {cell : Option String} {declared : String} {format : Format} {v : Value}
    (h : decode cell declared format = .ok v) :
    v.scanType? = cell.map fun _ => ScanType.of declared format := by
  cases cell with
  | none =>
      cases h
      rfl
  | some cell =>
      unfold decode at h
      dsimp only at h
      unfold ScanType.of
      cases hfamily : Family.of? declared with
      | none =>
          rw [hfamily] at h
          cases h
          rfl
      | some family =>
          rw [hfamily] at h
          exact scanType?_readAs h

end Value

/-! ## Rows -/

theorem mapM_id_eq_ok {xs : List (Except ε α)} {ys : List α} (h : xs.mapM id = .ok ys) :
    xs = ys.map .ok := by
  induction xs generalizing ys with
  | nil =>
      cases h
      rfl
  | cons x xs ih =>
      rw [List.mapM_cons] at h
      cases x with
      | error e => cases h
      | ok y =>
          cases hrest : xs.mapM id with
          | error e =>
              rw [hrest] at h
              cases h
          | ok rest =>
              rw [hrest] at h
              cases h
              rw [ih hrest]
              rfl

/-- A row that decodes is decoded cell by cell. -/
theorem getElem?_of_decodeRow {format : Format} {declared : List String} {row : Row}
    {values : List Value} (h : decodeRow format declared row = .ok values) (i : Nat) :
    row[i]?.map (decodeCell format declared i) = values[i]?.map .ok := by
  have hall := congrArg (fun xs : List (Except Error Value) => xs[i]?) (mapM_id_eq_ok h)
  simpa using hall

theorem length_of_decodeRow {format : Format} {declared : List String} {row : Row}
    {values : List Value} (h : decodeRow format declared row = .ok values) :
    values.length = row.length := by
  have hlength := congrArg List.length (mapM_id_eq_ok h)
  simpa using hlength.symm

theorem of_decodeCell_eq_ok {format : Format} {declared : List String} {index : Nat}
    {cell : Option String} {v : Value} (h : decodeCell format declared index cell = .ok v) :
    ∃ type, declared[index]? = some type ∧ Value.decode cell type format = .ok v := by
  unfold decodeCell at h
  split at h
  · cases h
  next type htype =>
    cases hdecode : Value.decode cell type format with
    | error e =>
        rw [hdecode] at h
        cases h
    | ok v' =>
        rw [hdecode] at h
        cases h
        exact ⟨type, htype, hdecode⟩

/-- A row that decodes has a column for each of its cells. -/
theorem length_le_of_decodeRow {format : Format} {declared : List String} {row : Row}
    {values : List Value} (h : decodeRow format declared row = .ok values) :
    row.length ≤ declared.length := by
  apply Nat.le_of_not_lt
  intro hlt
  -- The first cell without a column would have to be decoded as well.
  have hcell := getElem?_of_decodeRow h declared.length
  rw [List.getElem?_eq_getElem hlt, Option.map_some] at hcell
  obtain ⟨v, -, hv⟩ := Option.map_eq_some_iff.mp hcell.symm
  obtain ⟨type, htype, -⟩ := of_decodeCell_eq_ok hv.symm
  rw [List.getElem?_eq_none (Nat.le_refl _)] at htype
  cases htype

/-- Decoding a row into a destination succeeds just as decoding the row does, if the destination is
as wide as the row. -/
theorem Cells.of_place_eq_ok {format : Format} {declared : List String} {row : Row}
    {dest : List Value} {more : Bool} (h : (place format declared row dest).1 = .ok more) :
    row.length = dest.length ∧ more = true ∧
      decodeRow format declared row = .ok (place format declared row dest).2 := by
  by_cases hwidth : row.length = dest.length
  · rcases place_of_length format declared row dest hwidth with
      ⟨values, hvalues, hplace⟩ | ⟨e, -, hplace⟩
    · rw [hplace] at h ⊢
      cases h
      exact ⟨hwidth, rfl, hvalues⟩
    · rw [hplace] at h
      cases h
  · unfold place at h
    rw [if_neg hwidth] at h
    cases h

end Tributary
