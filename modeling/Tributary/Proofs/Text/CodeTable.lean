import Mathlib.Data.List.Forall2
import Mathlib.Data.Nat.Bitwise
import Tributary.Text.CodeTable

/-!
# Tables as sets

The code points of a table are a set, and a natural number holds a set bit by bit. What has to hold
of thousands of code points at once then is one operation on numbers. `mask` is the set of a table,
and `row?` finds a row exactly for its elements.

The lines of a table are string literals. Evaluation that goes through the bytes of a literal looks
at all of them for each character, so facts about tables are evaluated over the characters instead,
which unification reads off the literal: `read_eq_rows`.
-/

namespace Tributary.Text

namespace CodeRow

/-- Whether a row has a code point. -/
def has (r : CodeRow) (n : Nat) : Bool :=
  r.first ≤ n && n ≤ r.last && (n - r.first) % r.distance == 0

/-- The places of the code points of a row, counted from the first one. -/
def places (r : CodeRow) : List Nat :=
  (List.range (r.last + 1 - r.first)).filter fun i => i % r.distance == 0

/-- The code points of a row, bit by bit. -/
def mask (r : CodeRow) : Nat :=
  if r.distance = 1 then (2 ^ (r.last + 1 - r.first) - 1) <<< r.first
  else r.places.foldl (fun m i => m ||| 1 <<< (r.first + i)) 0

theorem testBit_foldl (first : Nat) (is : List Nat) (m n : Nat) :
    (is.foldl (fun m i => m ||| 1 <<< (first + i)) m).testBit n =
      (m.testBit n || is.any fun i => n == first + i) := by
  induction is generalizing m with
  | nil => rw [List.foldl_nil, List.any_nil, Bool.or_false]
  | cons i is ih =>
      have hbit : (1 <<< (first + i)).testBit n = (n == first + i) := by
        rw [Nat.one_shiftLeft, Nat.testBit_two_pow, Bool.beq_eq_decide_eq]
        exact decide_eq_decide.mpr eq_comm
      rw [List.foldl_cons, ih, Nat.testBit_or, hbit, List.any_cons, Bool.or_assoc]

theorem testBit_mask (r : CodeRow) (n : Nat) : r.mask.testBit n = r.has n := by
  rw [Bool.eq_iff_iff]
  unfold mask has
  split
  next hone =>
    simp only [Nat.testBit_shiftLeft, Nat.testBit_two_pow_sub_one, hone, Nat.mod_one,
      Bool.and_eq_true, decide_eq_true_eq, beq_self_eq_true, and_true]
    omega
  next =>
    rw [testBit_foldl, Nat.zero_testBit, Bool.false_or, List.any_eq_true]
    simp only [places, List.mem_filter, List.mem_range, Bool.and_eq_true, decide_eq_true_eq,
      beq_iff_eq]
    constructor
    · rintro ⟨i, ⟨hlt, hmod⟩, rfl⟩
      rw [Nat.add_sub_cancel_left]
      omega
    · rintro ⟨⟨hfirst, hlast⟩, hmod⟩
      exact ⟨n - r.first, ⟨by omega, hmod⟩, by omega⟩

end CodeRow

namespace CodeTable

/-- The code points of a table, bit by bit. -/
def mask (t : CodeTable) : Nat :=
  t.foldl (fun m r => m ||| r.mask) 0

theorem testBit_mask (t : CodeTable) (n : Nat) : (mask t).testBit n = t.any fun r => r.has n := by
  have hfold (m : Nat) : (t.foldl (fun m r => m ||| r.mask) m).testBit n =
      (m.testBit n || t.any fun r => r.has n) := by
    induction t generalizing m with
    | nil => rw [List.foldl_nil, List.any_nil, Bool.or_false]
    | cons r t ih =>
        rw [List.foldl_cons, ih, Nat.testBit_or, CodeRow.testBit_mask, List.any_cons,
          Bool.or_assoc]
  rw [mask, hfold, Nat.zero_testBit, Bool.false_or]

theorem testBit_mask_append (t u : CodeTable) (n : Nat) :
    (mask (t ++ u)).testBit n = ((mask t).testBit n || (mask u).testBit n) := by
  rw [testBit_mask, testBit_mask, testBit_mask, List.any_append]

/-- A row is found exactly for the elements of a table. -/
theorem isSome_row? (t : CodeTable) (n : Nat) : (t.row? n).isSome = (mask t).testBit n := by
  rw [testBit_mask, Bool.eq_iff_iff, List.any_eq_true]
  exact List.find?_isSome

theorem testBit_of_row? {t : CodeTable} {n : Nat} {r : CodeRow} (h : t.row? n = some r) :
    (mask t).testBit n = true := by
  rw [← isSome_row?, h]
  rfl

theorem row?_eq_none {t : CodeTable} {n : Nat} :
    t.row? n = none ↔ (mask t).testBit n = false := by
  rw [← isSome_row?, Option.isSome_eq_false_iff, Option.isNone_iff_eq_none]

/-- The row that is found has the code point. -/
theorem of_row? {t : CodeTable} {n : Nat} {r : CodeRow} (h : t.row? n = some r) :
    r ∈ t ∧ r.has n = true :=
  ⟨List.mem_of_find?_eq_some h, List.find?_some (p := fun (r : CodeRow) => r.has n) h⟩

/-! ## Sets within sets -/

/-- Whether all elements of a set are elements of another. -/
def isWithin (m s : Nat) : Bool := m &&& s == m

theorem testBit_of_isWithin {m s n : Nat} (h : isWithin m s = true) (hm : m.testBit n = true) :
    s.testBit n = true := by
  have hbit : (m.testBit n && s.testBit n) = m.testBit n := by
    rw [← Nat.testBit_and, beq_iff_eq.mp h]
  rw [hm, Bool.true_and] at hbit
  exact hbit

/-- Whether two sets have no element in common. -/
def isApart (m s : Nat) : Bool := m &&& s == 0

theorem testBit_of_isApart {m s n : Nat} (h : isApart m s = true) (hm : m.testBit n = true) :
    s.testBit n = false := by
  have hbit : (m.testBit n && s.testBit n) = false := by
    rw [← Nat.testBit_and, beq_iff_eq.mp h, Nat.zero_testBit]
  rw [hm, Bool.true_and] at hbit
  exact hbit

/-- The elements of a set that are not elements of another. -/
def without (m s : Nat) : Nat := m ^^^ (m &&& s)

theorem testBit_without (m s n : Nat) :
    (without m s).testBit n = (m.testBit n && !s.testBit n) := by
  rw [without, Nat.testBit_xor, Nat.testBit_and]
  cases m.testBit n <;> cases s.testBit n <;> rfl

/-- A row of the code points between two. -/
def span (first last : Nat) : CodeRow := ⟨first, last, 1, []⟩

theorem has_span {first last n : Nat} :
    (span first last).has n = true ↔ first ≤ n ∧ n ≤ last := by
  show (decide (first ≤ n) && decide (n ≤ last) && (n - first) % 1 == 0) = true ↔ _
  simp [Nat.mod_one]

theorem testBit_mask_spans (spans : List (Nat × Nat)) (n : Nat) :
    (mask (spans.map fun s => span s.1 s.2)).testBit n = true ↔
      ∃ s ∈ spans, s.1 ≤ n ∧ n ≤ s.2 := by
  rw [testBit_mask, List.any_map, List.any_eq_true]
  simp [has_span]

/-! ## Values -/

/-- The sets of the values of a row: of one value counted on from the first code point, of any
other number of values each for itself. -/
def images (r : CodeRow) : CodeTable :=
  match r.values with
  | [v] => [⟨v, v + (r.last - r.first), r.distance, []⟩]
  | vs => vs.map fun v => span v v

theorem testBit_images_of_mem {t : CodeTable} {r : CodeRow} (hr : r ∈ t) {n : Nat}
    (h : (images r).any (fun r => r.has n) = true) :
    (mask (t.flatMap images)).testBit n = true := by
  obtain ⟨s, hs, hn⟩ := List.any_eq_true.mp h
  rw [testBit_mask, List.any_eq_true]
  exact ⟨s, List.mem_flatMap.mpr ⟨r, hr, hs⟩, hn⟩

/-! ## Evaluation -/

/-- Lines and their characters. -/
def Spelled (lines : List String) (chars : List (List Char)) : Prop :=
  List.Forall₂ (fun line cs => line = String.ofList cs) lines chars

theorem Spelled.nil : Spelled [] [] := List.Forall₂.nil

theorem Spelled.cons {line : String} {cs : List Char} {lines : List String}
    {chars : List (List Char)} (h : line = String.ofList cs) (hs : Spelled lines chars) :
    Spelled (line :: lines) (cs :: chars) :=
  List.Forall₂.cons h hs

/-- Folds a list by its recursor, which evaluation unfolds in one step for each element. -/
def fold {α β : Type} (f : α → β → β) (init : β) (l : List α) : β :=
  List.rec (motive := fun _ => β) init (fun a _ b => f a b) l

theorem fold_eq_foldr {α β : Type} (f : α → β → β) (init : β) (l : List α) :
    fold f init l = l.foldr f init := by
  induction l with
  | nil => rfl
  | cons a l ih =>
      show f a (fold f init l) = f a (l.foldr f init)
      rw [ih]

/-- `parts` by recursors. -/
def spelledParts (mark : Char) (cs : List Char) : List (List Char) :=
  fold (fun part parts => match part with | [] => parts | _ :: _ => part :: parts) []
    (fold (fun c found => bif c == mark then [] :: found
      else match found with
        | part :: found => (c :: part) :: found
        | [] => [[c]]) [[]] cs)

theorem spelledParts_eq (mark : Char) (cs : List Char) : spelledParts mark cs = parts mark cs := by
  have hfilter (l : List (List Char)) :
      fold (fun part parts => match part with | [] => parts | _ :: _ => part :: parts) [] l =
        l.filter (!·.isEmpty) := by
    rw [fold_eq_foldr]
    induction l with
    | nil => rfl
    | cons part l ih =>
        rw [List.foldr_cons, ih, List.filter_cons]
        cases part <;> rfl
  unfold spelledParts parts
  rw [hfilter, fold_eq_foldr]
  congr 2
  funext c found
  by_cases hc : c = mark
  · simp [hc]
  · have hbeq : (c == mark) = false := beq_eq_false_iff_ne.mpr hc
    cases found <;> simp only [hbeq, cond_false, if_neg hc]

/-- `cut` by the recursor. -/
def spelledCut (mark : Char) (cs : List Char) : List Char × List Char :=
  List.rec (motive := fun _ => List Char × List Char) ([], [])
    (fun c cs found => bif c == mark then ([], cs) else (c :: found.1, found.2)) cs

theorem spelledCut_eq (mark : Char) (cs : List Char) : spelledCut mark cs = cut mark cs := by
  induction cs with
  | nil => rfl
  | cons c cs ih =>
      show (bif c == mark then ([], cs)
        else (c :: (spelledCut mark cs).1, (spelledCut mark cs).2)) = _
      rw [ih]
      unfold cut
      by_cases hc : c = mark
      · simp [hc]
      · rw [beq_eq_false_iff_ne.mpr hc, cond_false]
        simp [hc]

/-- `value` by the recursor. -/
def spelledValue (cs : List Char) : Nat :=
  List.rec (motive := fun _ => Nat → Nat) (fun n => n)
    (fun c _ next n => next (16 * n + ((hexDigit? c).map Fin.val).getD 0)) cs 0

theorem spelledValue_eq (cs : List Char) : spelledValue cs = value cs := by
  have hfold (n : Nat) : List.rec (motive := fun _ => Nat → Nat) (fun n => n)
      (fun c _ next n => next (16 * n + ((hexDigit? c).map Fin.val).getD 0)) cs n =
        cs.foldl (fun n c => 16 * n + ((hexDigit? c).map Fin.val).getD 0) n := by
    induction cs generalizing n with
    | nil => rfl
    | cons c cs ih => exact ih _
  exact hfold 0

/-- `readRow` by recursors. -/
def spelledRow (cs : List Char) : CodeRow :=
  let (source, values) := spelledCut '>' cs
  let (span, distance) := spelledCut '/' source
  let (first, last) := spelledCut '-' span
  { first := spelledValue first
    last := if last.isEmpty then spelledValue first else spelledValue last
    distance := if distance.isEmpty then 1 else spelledValue distance
    values := fold (fun cs values => spelledValue cs :: values) [] (spelledParts '.' values) }

/-- The rows that characters spell. -/
def rows (chars : List (List Char)) : CodeTable :=
  fold (fun cs t => fold (fun part t => spelledRow part :: t) t (spelledParts ' ' cs)) [] chars

theorem fold_map {α β : Type} (f : α → β) (init : List β) (l : List α) :
    fold (fun a bs => f a :: bs) init l = l.map f ++ init := by
  rw [fold_eq_foldr]
  induction l with
  | nil => rfl
  | cons a l ih => rw [List.foldr_cons, ih, List.map_cons, List.cons_append]

theorem spelledRow_eq (cs : List Char) : spelledRow cs = readRow cs := by
  unfold spelledRow readRow
  simp only [spelledCut_eq, spelledValue_eq, spelledParts_eq, fold_map, List.append_nil]

theorem read_eq_rows {lines : List String} {chars : List (List Char)} (h : Spelled lines chars) :
    read lines = rows chars := by
  induction h with
  | nil => rfl
  | @cons line cs lines chars hline _ ih =>
      show _ = fold _ (rows chars) (spelledParts ' ' cs)
      rw [fold_map, ← ih, spelledParts_eq, funext spelledRow_eq, hline]
      unfold read
      rw [List.flatMap_cons, String.toList_ofList]

end CodeTable

end Tributary.Text
