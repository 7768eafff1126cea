import Mathlib.Order.Monotone.Basic
import Tributary.Cursor.Paged

/-!
# Partitions of a result

The rows of a bounded result are the rows of its partitions, one partition after the other. Where a
partition starts among all rows says which row of which partition comes next, and which partitions
have been passed once a number of rows has been passed.
-/

namespace Tributary

namespace PagedCursor

/-! ## Where partitions start -/

/-- How many rows stand before a partition. -/
def start (parts : List (List Row)) (p : Nat) : Nat := (parts.take p).flatten.length

theorem start_succ (parts : List (List Row)) (p : Nat) :
    start parts (p + 1) = start parts p + (parts.getD p []).length := by
  unfold start
  rw [List.take_add_one, List.getD_eq_getElem?_getD]
  cases parts[p]? <;> simp

theorem start_succ_of_some {parts : List (List Row)} {p : Nat} {rows : List Row}
    (h : parts[p]? = some rows) : start parts (p + 1) = start parts p + rows.length := by
  rw [start_succ, List.getD_eq_getElem?_getD, h]
  rfl

/-- A partition has rows just when the next one starts behind it. -/
theorem start_lt_succ_iff (parts : List (List Row)) (p : Nat) :
    start parts p < start parts (p + 1) ↔ parts.getD p [] ≠ [] := by
  rw [start_succ, ← List.length_pos_iff]
  omega

theorem start_mono (parts : List (List Row)) : Monotone (start parts) := by
  apply monotone_nat_of_le_succ
  intro p
  rw [start_succ]
  exact Nat.le_add_right _ _

theorem start_length (parts : List (List Row)) :
    start parts parts.length = parts.flatten.length := by
  unfold start
  rw [List.take_length]

/-- A row of a partition is a row of the concatenation, after those of the partitions before. -/
theorem getElem?_flatten {parts : List (List Row)} {p row : Nat} {rows : List Row}
    (h : parts[p]? = some rows) (hrow : row < rows.length) :
    parts.flatten[start parts p + row]? = rows[row]? := by
  obtain ⟨hlt, rfl⟩ := List.getElem?_eq_some_iff.mp h
  have hsplit : parts.flatten =
      (parts.take p).flatten ++ (parts[p] ++ (parts.drop (p + 1)).flatten) := by
    rw [← List.flatten_cons, ← List.drop_eq_getElem_cons hlt, ← List.flatten_append,
      List.take_append_drop]
  rw [hsplit, start, List.getElem?_append_right (Nat.le_add_right _ _), Nat.add_sub_cancel_left,
    List.getElem?_append_left hrow]

/-- A partition holds the rows from where it starts to where the next one starts. -/
theorem locate_cases (parts : List (List Row)) (row p : Nat) :
    (parts.flatten.length ≤ row ∧
        locate (parts.map fun rows => (rows.length : Int)) row p = none) ∨
      ∃ i rows k, parts[i]? = some rows ∧ k < rows.length ∧ start parts i + k = row ∧
        locate (parts.map fun rows => (rows.length : Int)) row p = some (k, p + i) := by
  induction parts generalizing row p with
  | nil => exact .inl ⟨Nat.zero_le row, rfl⟩
  | cons rows parts ih =>
      rw [List.map_cons]
      unfold locate
      by_cases hrow : row < rows.length
      · right
        refine ⟨0, rows, row, rfl, hrow, ?_, ?_⟩
        · simp [start]
        · rw [if_pos (Int.ofNat_lt.mpr hrow)]
          rfl
      · have hsub : ((row : Int) - rows.length).toNat = row - rows.length := by omega
        rw [if_neg (fun h => hrow (Int.ofNat_lt.mp h)), hsub]
        rcases ih (row - rows.length) (p + 1) with ⟨hle, hl⟩ | ⟨i, part, k, hi, hk, hsum, hl⟩
        · left
          refine ⟨?_, hl⟩
          rw [List.flatten_cons, List.length_append]
          omega
        · right
          refine ⟨i + 1, part, k, hi, hk, ?_, ?_⟩
          · have hstart : start (rows :: parts) (i + 1) = rows.length + start parts i := by
              simp [start]
            omega
          · rw [hl]
            simp only [Option.some.injEq, Prod.mk.injEq, true_and]
            omega

theorem partNumber_of_lt {p : Nat} (h : p < 0x80000000) : partNumber p = p := by
  unfold partNumber
  rw [Int.bmod_def]
  omega

/-- The rows of a result are counted by the partitions. -/
theorem sum_lengths (parts : List (List Row)) :
    (parts.map fun rows => (rows.length : Int)).foldr (· + ·) (0 : Int) =
      (parts.flatten.length : Int) := by
  induction parts with
  | nil => rfl
  | cons rows parts ih =>
      rw [List.map_cons, List.foldr_cons, ih, List.flatten_cons, List.length_append]
      rw [Int.natCast_add]

/-! ## Which partitions are asked for -/

/-- The partitions that are asked for until a number of rows is passed: those that have rows and
start before, except the first, which is there from the beginning. -/
def requested (parts : List (List Row)) (passed : Nat) : List Nat :=
  (List.range parts.length).filter fun p =>
    p ≠ 0 ∧ parts.getD p [] ≠ [] ∧ start parts p < passed

theorem filter_range_append {P P' : Nat → Bool} {q n : Nat} (hq : q < n)
    (hbelow : ∀ p < q, P' p = P p) (hnew : P' q = true) (hold : P q = false)
    (habove : ∀ p, q < p → P p = false ∧ P' p = false) :
    (List.range n).filter P' = (List.range n).filter P ++ [q] := by
  induction n with
  | zero => exact absurd hq (Nat.not_lt_zero q)
  | succ n ih =>
      rw [List.range_succ, List.filter_append, List.filter_append]
      rcases Nat.lt_succ_iff_lt_or_eq.mp hq with hlt | rfl
      · rw [ih hlt]
        simp [(habove n hlt).1, (habove n hlt).2]
      · have hsame : (List.range q).filter P' = (List.range q).filter P :=
          List.filter_congr fun p hp => hbelow p (List.mem_range.mp hp)
        rw [hsame]
        simp [hnew, hold]

variable {parts : List (List Row)}

/-- A partition with rows starts where no other partition with rows does. -/
theorem eq_of_start {p q row : Nat} (hp : parts.getD p [] ≠ [])
    (hlt : row < start parts (q + 1)) (hq : start parts q ≤ row)
    (hrow : start parts p = row) : p = q := by
  have hsucc := (start_lt_succ_iff parts p).mpr hp
  rcases Nat.lt_trichotomy p q with h | h | h
  · have hmono : start parts (p + 1) ≤ start parts q := start_mono parts h
    omega
  · exact h
  · have hmono : start parts (q + 1) ≤ start parts p := start_mono parts h
    omega

/-- Passing a row within a partition asks for none. -/
theorem requested_same {m q : Nat} (hq : start parts q ≤ m) (hlt : m < start parts (q + 1))
    (hheld : q = 0 ∨ start parts q < m) : requested parts (m + 1) = requested parts m := by
  unfold requested
  apply List.filter_congr
  intro p _
  rw [decide_eq_decide]
  refine and_congr_right fun hp => and_congr_right fun hrows => ?_
  rw [Nat.lt_succ_iff_lt_or_eq]
  apply or_iff_left
  intro heq
  -- A partition that starts with this row is the one that is held.
  obtain rfl : p = q := eq_of_start hrows hlt hq heq
  rcases hheld with h | h
  · exact hp h
  · omega

/-- Passing the first row of a partition asks for it. -/
theorem requested_next {m q : Nat} (hq : start parts q = m) (hlt : m < start parts (q + 1))
    (hpos : q ≠ 0) : requested parts (m + 1) = requested parts m ++ [q] := by
  have hrows : parts.getD q [] ≠ [] := (start_lt_succ_iff parts q).mp (by omega)
  have hbound : q < parts.length := by
    by_contra hle
    rw [List.getD_eq_getElem?_getD, List.getElem?_eq_none (not_lt.mp hle)] at hrows
    exact hrows rfl
  apply filter_range_append hbound
  · intro p hp
    rw [decide_eq_decide]
    refine and_congr_right fun _ => and_congr_right fun hprows => ?_
    rw [Nat.lt_succ_iff_lt_or_eq]
    apply or_iff_left
    intro heq
    exact absurd (eq_of_start hprows hlt hq.le heq) hp.ne
  · exact decide_eq_true ⟨hpos, hrows, by omega⟩
  · exact decide_eq_false fun h => absurd h.2.2 (by omega)
  · -- Later partitions start behind this row.
    intro p hp
    have hmono : start parts (q + 1) ≤ start parts p := start_mono parts hp
    exact ⟨decide_eq_false fun h => absurd h.2.2 (by omega),
      decide_eq_false fun h => absurd h.2.2 (by omega)⟩

/-- Once all rows are passed, every partition with rows has been asked for, except the first. -/
theorem requested_of_le {n : Nat} (h : parts.flatten.length ≤ n) :
    requested parts n =
      (List.range parts.length).filter fun p => p ≠ 0 ∧ parts.getD p [] ≠ [] := by
  unfold requested
  apply List.filter_congr
  intro p hp
  rw [decide_eq_decide]
  refine and_congr_right fun _ => and_iff_left_of_imp fun hrows => ?_
  have hsucc := (start_lt_succ_iff parts p).mpr hrows
  have hle : start parts (p + 1) ≤ start parts parts.length :=
    start_mono parts (List.mem_range.mp hp)
  rw [start_length] at hle
  omega

end PagedCursor

end Tributary
