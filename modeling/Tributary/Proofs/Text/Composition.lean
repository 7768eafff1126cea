import Mathlib.Data.List.Chain
import Mathlib.Data.List.Nodup
import Tributary.Proofs.Text.CodeTable
import Tributary.Proofs.Text.Form
import Tributary.Text.Composition

/-!
# The normal form is a normal form

Bringing a text into normal form twice is the same as doing it once. The first half of the work,
splitting characters and ordering marks, undoes what the second half, composing, has done: a
composed character splits into the parts that it was composed of, and moving a mark to the letter
that it is composed with passes only marks of lower classes, which `ordered` moves back.

A full stop neither splits nor composes, so a text in normal form is so part by part between full
stops.
-/

namespace Tributary.Text.Composition

open CodeTable

/-! ## What the tables say -/

/-- The parts that come first in the rows of a table. -/
def heads (t : CodeTable) : CodeTable :=
  t.flatMap fun r => (r.values.take 1).map fun v => span v v

/-- The parts that come second. -/
def seconds (t : CodeTable) : CodeTable :=
  t.flatMap fun r => (r.values.drop 1).map fun v => span v v

/-- The rows whose first part is composed itself. -/
def twice (t : CodeTable) : CodeTable :=
  t.filter fun r => (mask t).testBit (r.values.headD 0)

/-- The syllables of Hangul. -/
def syllables : CodeTable := [span 0xAC00 0xD7A3]

/-- The consonants and vowels of Hangul. -/
def letters : CodeTable := [span 0x1100 0x1112, span 0x1161 0x1175, span 0x11A7 0x11C2]

/-- Whether a number is a code point of a character. -/
def isScalar (n : Nat) : Bool := n < 0xD800 || (0xDFFF < n && n < 0x110000)

/-- What has to hold of the characters that are composed of others, and of the classes of marks. -/
structure IsCoherent (t classes : CodeTable) : Prop where
  /-- Each row composes one character of two parts. -/
  pairs : (t.all fun r => r.first == r.last && r.values.length == 2 && isScalar r.first &&
    r.values.all isScalar) = true
  ascending : (t.map CodeRow.first).IsChain (· < ·)
  /-- The second part is not composed itself. -/
  seconds_whole : isApart (mask (seconds t)) (mask t) = true
  /-- The first part is composed once at most. -/
  heads_once : isApart (mask (heads t)) (mask (twice t)) = true
  /-- The first part is no mark. -/
  heads_unmarked : isApart (mask (heads t)) (mask classes) = true
  hangul_unmarked : isApart (mask (syllables ++ letters)) (mask classes) = true
  hangul_whole : isApart (mask (syllables ++ letters)) (mask t) = true
  syllables_apart : isApart (mask syllables) (mask (t.flatMap images)) = true
  stop_apart : isApart (mask [span 0x2E 0x2E]) (mask (t ++ t.flatMap images ++ classes)) = true

instance (t classes : CodeTable) : Decidable (IsCoherent t classes) :=
  decidable_of_iff
    (((t.all fun r => r.first == r.last && r.values.length == 2 && isScalar r.first &&
        r.values.all isScalar) = true ∧ (t.map CodeRow.first).IsChain (· < ·)) ∧
      isApart (mask (seconds t)) (mask t) = true ∧
      isApart (mask (heads t)) (mask (twice t)) = true ∧
      isApart (mask (heads t)) (mask classes) = true ∧
      isApart (mask (syllables ++ letters)) (mask classes) = true ∧
      isApart (mask (syllables ++ letters)) (mask t) = true ∧
      isApart (mask syllables) (mask (t.flatMap images)) = true ∧
      isApart (mask [span 0x2E 0x2E]) (mask (t ++ t.flatMap images ++ classes)) = true)
    ⟨fun ⟨⟨h₁, h₂⟩, h₃, h₄, h₅, h₆, h₇, h₈, h₉⟩ => ⟨h₁, h₂, h₃, h₄, h₅, h₆, h₇, h₈, h₉⟩,
      fun ⟨h₁, h₂, h₃, h₄, h₅, h₆, h₇, h₈, h₉⟩ => ⟨⟨h₁, h₂⟩, h₃, h₄, h₅, h₆, h₇, h₈, h₉⟩⟩

theorem isCoherent_of_spelled {ts cs : List String} {ts' cs' : List (List Char)}
    (ht : Spelled ts ts') (hc : Spelled cs cs') (h : IsCoherent (rows ts') (rows cs')) :
    IsCoherent (.read ts) (.read cs) := by
  rw [read_eq_rows ht, read_eq_rows hc]
  exact h

theorem isCoherent_composed : IsCoherent composed classes := by
  unfold composed classes
  apply isCoherent_of_spelled
  iterate 2
    · dsimp only
      repeat (apply Spelled.cons; rfl)
      exact Spelled.nil
  decide +kernel

/-! ## Rows -/

theorem pair_of_mem {r : CodeRow} (hr : r ∈ composed) :
    r.last = r.first ∧ isScalar r.first = true ∧
      ∃ a b, r.values = [a, b] ∧ isScalar a = true ∧ isScalar b = true := by
  have hall := List.all_eq_true.mp (IsCoherent.pairs isCoherent_composed) r hr
  simp only [Bool.and_eq_true, beq_iff_eq] at hall
  obtain ⟨⟨⟨hlast, hlength⟩, hfirst⟩, hvalues⟩ := hall
  obtain ⟨a, b, hab⟩ := List.length_eq_two.mp hlength
  rw [hab] at hvalues
  rw [List.all_cons, List.all_cons, List.all_nil, Bool.and_true, Bool.and_eq_true] at hvalues
  exact ⟨hlast.symm, hfirst, a, b, hab, hvalues.1, hvalues.2⟩

theorem row?_first {r : CodeRow} (hr : r ∈ composed) : composed.row? r.first = some r := by
  have hnodup : (composed.map CodeRow.first).Nodup :=
    (List.isChain_iff_pairwise.mp (IsCoherent.ascending isCoherent_composed)).imp fun hlt =>
      Nat.ne_of_lt hlt
  obtain ⟨hlast, -⟩ := pair_of_mem hr
  have hhas : r.has r.first = true := by simp [CodeRow.has, hlast]
  cases hrow : composed.row? r.first with
  | none =>
      have hnone := List.find?_eq_none.mp hrow r hr
      exact absurd hhas hnone
  | some s =>
      obtain ⟨hs, hfirst⟩ := of_row? hrow
      obtain ⟨hslast, -⟩ := pair_of_mem hs
      have heq : s.first = r.first := by
        simp only [CodeRow.has, Bool.and_eq_true, decide_eq_true_eq] at hfirst
        omega
      rw [List.inj_on_of_nodup_map hnodup hs hr heq]

/-- A row stands for one character. -/
theorem first_of_row? {n : Nat} {r : CodeRow} (h : composed.row? n = some r) : n = r.first := by
  obtain ⟨hr, hhas⟩ := of_row? h
  obtain ⟨hlast, -⟩ := pair_of_mem hr
  simp only [CodeRow.has, Bool.and_eq_true, decide_eq_true_eq] at hhas
  omega

section

variable {r : CodeRow} {a b : Nat}

theorem testBit_heads (hr : r ∈ composed) (hv : r.values = [a, b]) :
    (mask (heads composed)).testBit a = true := by
  rw [testBit_mask, List.any_eq_true]
  refine ⟨span a a, List.mem_flatMap.mpr ⟨r, hr, ?_⟩, has_span.mpr ⟨Nat.le_refl a, Nat.le_refl a⟩⟩
  rw [hv]
  exact List.mem_cons_self

theorem testBit_seconds (hr : r ∈ composed) (hv : r.values = [a, b]) :
    (mask (seconds composed)).testBit b = true := by
  rw [testBit_mask, List.any_eq_true]
  refine ⟨span b b, List.mem_flatMap.mpr ⟨r, hr, ?_⟩, has_span.mpr ⟨Nat.le_refl b, Nat.le_refl b⟩⟩
  rw [hv]
  exact List.mem_cons_self

theorem testBit_images (hr : r ∈ composed) (hv : r.values = [a, b]) :
    (mask (composed.flatMap images)).testBit a = true ∧
      (mask (composed.flatMap images)).testBit b = true := by
  have himages : images r = [span a a, span b b] := by
    unfold images
    rw [hv]
    rfl
  constructor
  all_goals
    refine testBit_images_of_mem hr ?_
    rw [himages]
    simp [has_span]

/-- The second part of a character is not composed. -/
theorem row?_second (hr : r ∈ composed) (hv : r.values = [a, b]) : composed.row? b = none := by
  exact row?_eq_none.mpr
    (testBit_of_isApart (IsCoherent.seconds_whole isCoherent_composed) (testBit_seconds hr hv))

/-- The first part of the first part is not composed. -/
theorem row?_head_head (hr : r ∈ composed) (hv : r.values = [a, b]) {s : CodeRow} {c d : Nat}
    (hs : composed.row? a = some s) (hsv : s.values = [c, d]) : composed.row? c = none := by
  have htwice :=
    testBit_of_isApart (IsCoherent.heads_once isCoherent_composed) (testBit_heads hr hv)
  rw [row?_eq_none, ← Bool.not_eq_true]
  intro hc
  have hmem : s ∈ twice composed := by
    refine List.mem_filter.mpr ⟨(of_row? hs).1, ?_⟩
    rw [hsv]
    exact hc
  have hbit : (mask (twice composed)).testBit a = true := by
    rw [testBit_mask, List.any_eq_true]
    exact ⟨s, hmem, (of_row? hs).2⟩
  rw [hbit] at htwice
  cases htwice

end

/-! ## Syllables -/

theorem testBit_syllables {n : Nat} :
    (mask syllables).testBit n = true ↔ firstSyllable ≤ n ∧ n < firstSyllable + 11172 := by
  have h := testBit_mask_spans [(0xAC00, 0xD7A3)] n
  simp only [List.map_cons, List.map_nil, List.mem_singleton, exists_eq_left] at h
  unfold firstSyllable syllables
  rw [h]
  omega

theorem testBit_letters {n : Nat} :
    (mask letters).testBit n = true ↔
      (leads ≤ n ∧ n < leads + 19) ∨ (vowels ≤ n ∧ n < vowels + 21) ∨
        (tails ≤ n ∧ n < tails + 28) := by
  have h := testBit_mask_spans [(0x1100, 0x1112), (0x1161, 0x1175), (0x11A7, 0x11C2)] n
  simp only [List.map_cons, List.map_nil, List.mem_cons, List.not_mem_nil, or_false,
    exists_eq_or_imp, exists_eq_left] at h
  unfold leads vowels tails letters
  rw [h]
  omega

theorem splitSyllable?_eq_none {n : Nat} :
    splitSyllable? n = none ↔ (mask syllables).testBit n = false := by
  rw [← Bool.not_eq_true, testBit_syllables]
  unfold splitSyllable?
  split
  next h =>
    refine ⟨fun h' => ?_, fun h' => absurd h h'⟩
    cases h'
  next h => exact ⟨fun _ => h, fun _ => rfl⟩

/-- The letters of a syllable, which is given by its number. -/
theorem splitSyllable?_add {i : Nat} (hi : i < 11172) :
    splitSyllable? (firstSyllable + i) =
      some ([leads + i / 588, vowels + i % 588 / 28] ++
        if i % 28 = 0 then [] else [tails + i % 28]) := by
  unfold splitSyllable?
  rw [if_pos ⟨Nat.le_add_right .., Nat.add_lt_add_left hi _⟩]
  dsimp only
  rw [Nat.add_sub_cancel_left]

theorem exists_of_splitSyllable? {n : Nat} {ns : List Nat} (h : splitSyllable? n = some ns) :
    ∃ i, i < 11172 ∧ n = firstSyllable + i := by
  have hbit : (mask syllables).testBit n = true := by
    rw [← Bool.not_eq_false, ← splitSyllable?_eq_none, h]
    exact nofun
  rw [testBit_syllables] at hbit
  exact ⟨n - firstSyllable, by omega, by omega⟩

/-- The letters of a syllable are letters. -/
theorem of_splitSyllable? {n : Nat} {ns : List Nat} (h : splitSyllable? n = some ns) :
    ∀ m ∈ ns, (mask letters).testBit m = true := by
  obtain ⟨i, hi, rfl⟩ := exists_of_splitSyllable? h
  rw [splitSyllable?_add hi] at h
  intro m hm
  rw [testBit_letters]
  rw [← Option.some.inj h] at hm
  unfold leads vowels tails at hm ⊢
  rcases List.mem_append.mp hm with hm | hm
  · simp only [List.mem_cons, List.not_mem_nil, or_false] at hm
    omega
  · split at hm
    · cases hm
    · rw [List.mem_singleton] at hm
      omega

theorem row?_hangul {n : Nat}
    (h : (mask syllables).testBit n = true ∨ (mask letters).testBit n = true) :
    composed.row? n = none ∧ classes.row? n = none := by
  have hbit : (mask (syllables ++ letters)).testBit n = true := by
    rw [testBit_mask_append, Bool.or_eq_true]
    exact h
  exact ⟨row?_eq_none.mpr (testBit_of_isApart (IsCoherent.hangul_whole isCoherent_composed) hbit),
    row?_eq_none.mpr (testBit_of_isApart (IsCoherent.hangul_unmarked isCoherent_composed) hbit)⟩

theorem splitSyllable?_letter {n : Nat} (h : (mask letters).testBit n = true) :
    splitSyllable? n = none := by
  rw [splitSyllable?_eq_none, ← Bool.not_eq_true, testBit_syllables]
  rw [testBit_letters] at h
  simp only [leads, vowels, tails, firstSyllable] at h ⊢
  omega

theorem splitSyllable?_first {r : CodeRow} (hr : r ∈ composed) :
    splitSyllable? r.first = none := by
  rw [splitSyllable?_eq_none, ← Bool.not_eq_true]
  intro hbit
  have hrow := (row?_hangul (.inl hbit)).1
  rw [row?_first hr] at hrow
  cases hrow

theorem splitSyllable?_part {r : CodeRow} {a b : Nat} (hr : r ∈ composed)
    (hv : r.values = [a, b]) : splitSyllable? a = none ∧ splitSyllable? b = none := by
  have hapart {n : Nat} (hn : (mask (composed.flatMap images)).testBit n = true) :
      splitSyllable? n = none := by
    rw [splitSyllable?_eq_none, ← Bool.not_eq_true]
    intro hbit
    rw [testBit_of_isApart (IsCoherent.syllables_apart isCoherent_composed) hbit] at hn
    cases hn
  exact ⟨hapart (testBit_images hr hv).1, hapart (testBit_images hr hv).2⟩

/-! ## Splitting -/

theorem pair?_of_row {r : CodeRow} {a b : Nat} (hr : r ∈ composed) (hv : r.values = [a, b]) :
    pair? r.first = some (a, b) := by
  unfold pair?
  rw [row?_first hr]
  obtain ⟨first, last, distance, values⟩ := r
  cases hv
  rfl

/-- A pair is a row. -/
theorem of_pair? {n a b : Nat} (h : pair? n = some (a, b)) :
    ∃ r ∈ composed, r.first = n ∧ r.values = [a, b] := by
  unfold pair? at h
  split at h
  next first last distance a' b' hrow =>
    cases h
    exact ⟨_, (of_row? hrow).1, (first_of_row? hrow).symm, rfl⟩
  next => cases h

theorem pair?_of_row?_eq_none {n : Nat} (h : composed.row? n = none) : pair? n = none := by
  unfold pair?
  rw [h]

section

variable {n a b : Nat}

theorem split_of_none (hs : splitSyllable? n = none) (hp : pair? n = none) (fuel : Nat) :
    split fuel n = [n] := by
  cases fuel with
  | zero =>
      rw [split, hs]
      rfl
  | succ fuel =>
      rw [split, hs, hp]
      rfl

theorem split_of_syllable {ns : List Nat} (hs : splitSyllable? n = some ns) (fuel : Nat) :
    split fuel n = ns := by
  cases fuel with
  | zero =>
      rw [split, hs]
      rfl
  | succ fuel =>
      rw [split, hs]
      rfl

theorem split_of_pair (h : pair? n = some (a, b)) (fuel : Nat) :
    split (fuel + 1) n = split fuel a ++ [b] := by
  obtain ⟨r, hr, rfl, hv⟩ := of_pair? h
  rw [split, splitSyllable?_first hr, h]
  rfl

/-- What a pair hands down to its parts, and what letters have, all parts have. -/
theorem forall_mem_split {P : Nat → Prop}
    (hpair : ∀ {n a b}, pair? n = some (a, b) → P n → P a ∧ P b)
    (hletter : ∀ {n}, (mask letters).testBit n = true → P n) (fuel : Nat) {n : Nat} (hn : P n) :
    ∀ m ∈ split fuel n, P m := by
  induction fuel generalizing n with
  | zero =>
      cases hs : splitSyllable? n with
      | none =>
          rw [split, hs]
          exact List.forall_mem_singleton.mpr hn
      | some ns =>
          rw [split_of_syllable hs]
          exact fun m hm => hletter (of_splitSyllable? hs m hm)
  | succ fuel ih =>
      cases hs : splitSyllable? n with
      | none =>
          cases hp : pair? n with
          | none =>
              rw [split_of_none hs hp]
              exact List.forall_mem_singleton.mpr hn
          | some pair =>
              obtain ⟨a, b⟩ := pair
              obtain ⟨ha, hb⟩ := hpair hp hn
              rw [split_of_pair hp]
              exact List.forall_mem_append.mpr ⟨ih ha, List.forall_mem_singleton.mpr hb⟩
      | some ns =>
          rw [split_of_syllable hs]
          exact fun m hm => hletter (of_splitSyllable? hs m hm)

/-- The second part of a pair is whole. -/
theorem split_second (h : pair? n = some (a, b)) (fuel : Nat) : split fuel b = [b] := by
  obtain ⟨r, hr, rfl, hv⟩ := of_pair? h
  exact split_of_none (splitSyllable?_part hr hv).2
    (pair?_of_row?_eq_none (row?_second hr hv)) fuel

/-- The first part is whole, or is a pair of whole parts. -/
theorem split_head (h : pair? n = some (a, b)) :
    (∀ fuel, split fuel a = [a]) ∨
      ∃ c d, pair? a = some (c, d) ∧ (∀ fuel, split fuel c = [c]) ∧ ∀ fuel, split fuel d = [d] := by
  obtain ⟨r, hr, rfl, hv⟩ := of_pair? h
  cases ha : pair? a with
  | none => exact .inl (split_of_none (splitSyllable?_part hr hv).1 ha)
  | some pair =>
      obtain ⟨c, d⟩ := pair
      right
      obtain ⟨s, hs, rfl, hsv⟩ := of_pair? ha
      have hc := row?_head_head hr hv (row?_first hs) hsv
      exact ⟨c, d, rfl, split_of_none (splitSyllable?_part hs hsv).1 (pair?_of_row?_eq_none hc),
        split_second ha⟩

/-- Less fuel splits the first part as well. -/
theorem split_head_succ (h : pair? n = some (a, b)) (fuel : Nat) :
    split (fuel + 2) a = split (fuel + 1) a := by
  rcases split_head h with hwhole | ⟨c, d, hpair, hc, -⟩
  · rw [hwhole, hwhole]
  · rw [split_of_pair hpair, split_of_pair hpair, hc, hc]

end

theorem isValidChar_of_isScalar {n : Nat} (h : isScalar n = true) : n.isValidChar := by
  simp only [isScalar, Bool.or_eq_true, Bool.and_eq_true, decide_eq_true_eq] at h
  exact h

theorem toNat_ofNat {n : Nat} (h : n.isValidChar) : (Char.ofNat n).toNat = n := by
  unfold Char.ofNat
  rw [dif_pos h]
  rfl

/-- The parts of a character. -/
def parts (c : Char) : List Char :=
  (split depth c.toNat).map Char.ofNat

/-- Whether a character has only itself for a part. -/
def IsWhole (c : Char) : Prop := parts c = [c]

theorem isWhole_of_none {c : Char} (hs : splitSyllable? c.toNat = none)
    (hp : pair? c.toNat = none) : IsWhole c := by
  unfold IsWhole parts
  rw [split_of_none hs hp, List.map_singleton, Char.ofNat_toNat]

theorem isWhole_ofNat {n : Nat} (hn : n.isValidChar) (h : split depth n = [n]) :
    IsWhole (Char.ofNat n) := by
  unfold IsWhole parts
  rw [toNat_ofNat hn, h, List.map_singleton]

theorem isWhole_letter {n : Nat} (h : (mask letters).testBit n = true) :
    IsWhole (Char.ofNat n) := by
  have hvalid : n.isValidChar := by
    rw [testBit_letters] at h
    unfold leads vowels tails at h
    exact .inl (by omega)
  exact isWhole_ofNat hvalid
    (split_of_none (splitSyllable?_letter h) (pair?_of_row?_eq_none (row?_hangul (.inr h)).1) _)

section

variable {c d e : Char} {a b : Nat}

theorem isValidChar_of_pair? {n : Nat} (h : pair? n = some (a, b)) :
    n.isValidChar ∧ a.isValidChar ∧ b.isValidChar := by
  obtain ⟨r, hr, rfl, hv⟩ := of_pair? h
  obtain ⟨-, hfirst, a', b', hv', ha, hb⟩ := pair_of_mem hr
  rw [hv] at hv'
  cases hv'
  exact ⟨isValidChar_of_isScalar hfirst, isValidChar_of_isScalar ha, isValidChar_of_isScalar hb⟩

theorem parts_of_pair (h : pair? c.toNat = some (a, b)) :
    parts c = parts (Char.ofNat a) ++ [Char.ofNat b] := by
  have hsplit : split depth c.toNat = split depth a ++ [b] :=
    (split_of_pair h 3).trans (congrArg (· ++ [b]) (split_head_succ h 2).symm)
  unfold parts
  rw [toNat_ofNat (isValidChar_of_pair? h).2.1, hsplit, List.map_append, List.map_singleton]

theorem parts_of_syllable {ns : List Nat} (h : splitSyllable? c.toNat = some ns) :
    parts c = ns.map Char.ofNat := by
  unfold parts
  rw [split_of_syllable h]

/-- Parts are not split any further. -/
theorem isWhole_of_mem_parts (h : d ∈ parts c) : IsWhole d := by
  cases hs : splitSyllable? c.toNat with
  | some ns =>
      rw [parts_of_syllable hs] at h
      obtain ⟨n, hn, rfl⟩ := List.mem_map.mp h
      exact isWhole_letter (of_splitSyllable? hs n hn)
  | none =>
      cases hp : pair? c.toNat with
      | none =>
          have hwhole := isWhole_of_none hs hp
          rw [show parts c = [c] from hwhole, List.mem_singleton] at h
          exact h ▸ hwhole
      | some pair =>
          obtain ⟨a, b⟩ := pair
          obtain ⟨-, ha, hb⟩ := isValidChar_of_pair? hp
          rw [parts_of_pair hp] at h
          rcases List.mem_append.mp h with h | h
          · rcases split_head hp with hwhole | ⟨c', d', hpair, hc', hd'⟩
            · have hwhole := isWhole_ofNat ha (hwhole depth)
              rw [show parts (Char.ofNat a) = [Char.ofNat a] from hwhole, List.mem_singleton] at h
              exact h ▸ hwhole
            · obtain ⟨-, hvc', hvd'⟩ := isValidChar_of_pair? hpair
              have hwhole := isWhole_ofNat hvc' (hc' depth)
              rw [← toNat_ofNat ha] at hpair
              rw [parts_of_pair hpair, show parts (Char.ofNat c') = _ from hwhole] at h
              rcases List.mem_cons.mp h with rfl | h
              · exact hwhole
              · rw [List.mem_singleton.mp h]
                exact isWhole_ofNat hvd' (hd' depth)
          · rw [List.mem_singleton.mp h]
            exact isWhole_ofNat hb (split_second hp depth)

/-! ## Joining undoes splitting -/

theorem joinSyllable?_cases {m n k : Nat} (h : joinSyllable? m n = some k) :
    (∃ i j, i < 19 ∧ j < 21 ∧ m = leads + i ∧ n = vowels + j ∧
        k = firstSyllable + (i * 21 + j) * 28) ∨
      ∃ i j, i < 399 ∧ 0 < j ∧ j < 28 ∧ m = firstSyllable + i * 28 ∧ n = tails + j ∧
        k = firstSyllable + (i * 28 + j) := by
  unfold joinSyllable? at h
  split at h
  next hlv =>
    left
    refine ⟨m - leads, n - vowels, by omega, by omega, by omega, by omega, ?_⟩
    exact (Option.some.inj h).symm
  next =>
    split at h
    next hlvt =>
      right
      refine ⟨(m - firstSyllable) / 28, n - tails, by omega, by omega, by omega, by omega, by omega,
        ?_⟩
      rw [← Option.some.inj h]
      omega
    next => cases h

/-- A syllable is composed of the letters that it splits into. -/
theorem parts_of_joinSyllable? (h : joinSyllable? c.toNat d.toNat = some e.toNat) :
    parts e = parts c ++ [d] := by
  rcases joinSyllable?_cases h with ⟨i, j, hi, hj, hc, hd, he⟩ | ⟨i, j, hi, hj, hj', hc, hd, he⟩
  · have hletter : (mask letters).testBit c.toNat = true := by
      rw [testBit_letters]
      exact .inl (by omega)
    have hwhole : parts c = [c] := by
      have := isWhole_letter hletter
      rwa [Char.ofNat_toNat] at this
    have hsplit := splitSyllable?_add (i := (i * 21 + j) * 28) (by omega)
    rw [← he] at hsplit
    rw [parts_of_syllable hsplit, hwhole, if_pos (by omega),
      show (i * 21 + j) * 28 / 588 = i by omega,
      show (i * 21 + j) * 28 % 588 / 28 = j by omega, ← hc, ← hd]
    simp
  · have hsyllable := splitSyllable?_add (i := i * 28) (by omega)
    have hsplit := splitSyllable?_add (i := i * 28 + j) (by omega)
    rw [← hc, if_pos (by omega)] at hsyllable
    rw [← he, if_neg (by omega), show (i * 28 + j) / 588 = i * 28 / 588 by omega,
      show (i * 28 + j) % 588 / 28 = i * 28 % 588 / 28 by omega,
      show (i * 28 + j) % 28 = j by omega, ← hd] at hsplit
    rw [parts_of_syllable hsplit, parts_of_syllable hsyllable]
    simp

/-- A character is composed of a syllable of Hangul by rule, or is a pair. -/
theorem join?_cases (h : join? c d = some e) :
    joinSyllable? c.toNat d.toNat = some e.toNat ∨ pair? e.toNat = some (c.toNat, d.toNat) := by
  unfold join? at h
  split at h
  next n hn =>
    left
    have hvalid : n.isValidChar := by
      rcases joinSyllable?_cases hn with ⟨i, j, hi, hj, -, -, rfl⟩ | ⟨i, j, hi, hj, hj', -, -, rfl⟩
      all_goals
        unfold firstSyllable
        exact .inl (by omega)
    rw [← Option.some.inj h, toNat_ofNat hvalid]
    exact hn
  next =>
    right
    obtain ⟨r, hr, rfl⟩ := Option.map_eq_some_iff.mp h
    have hv : r.values = [c.toNat, d.toNat] :=
      beq_iff_eq.mp (List.find?_some (p := fun (r : CodeRow) => r.values == [c.toNat, d.toNat]) hr)
    have hpair := pair?_of_row (List.mem_of_find?_eq_some hr) hv
    rwa [toNat_ofNat (isValidChar_of_pair? hpair).1]

/-- A composed character splits into the parts of the first character and the second one. -/
theorem parts_of_join? (h : join? c d = some e) : parts e = parts c ++ [d] := by
  rcases join?_cases h with hsyllable | hpair
  · exact parts_of_joinSyllable? hsyllable
  · rw [parts_of_pair hpair, Char.ofNat_toNat, Char.ofNat_toNat]

theorem classOf_of_none (h : classes.row? c.toNat = none) : classOf c = 0 := by
  unfold classOf
  rw [h]

/-- Marks are not composed with what follows them. -/
theorem classOf_of_join? (h : join? c d = some e) : classOf c = 0 := by
  rcases join?_cases h with hsyllable | hpair
  · refine classOf_of_none (row?_hangul ?_).2
    rcases joinSyllable?_cases hsyllable with ⟨i, j, hi, hj, hc, -⟩ | ⟨i, j, hi, hj, hj', hc, -⟩
    · exact .inr (testBit_letters.mpr (.inl (by omega)))
    · exact .inl (testBit_syllables.mpr (by omega))
  · obtain ⟨r, hr, -, hv⟩ := of_pair? hpair
    exact classOf_of_none (row?_eq_none.mpr
      (testBit_of_isApart (IsCoherent.heads_unmarked isCoherent_composed) (testBit_heads hr hv)))

end

/-! ## Full stops -/

theorem stop_apart : composed.row? 0x2E = none ∧
    (mask (composed.flatMap images)).testBit 0x2E = false ∧ classes.row? 0x2E = none := by
  have hstop : (mask [span 0x2E 0x2E]).testBit 0x2E = true := by decide
  have h := testBit_of_isApart (IsCoherent.stop_apart isCoherent_composed) hstop
  rw [testBit_mask_append, testBit_mask_append, Bool.or_eq_false_iff, Bool.or_eq_false_iff] at h
  exact ⟨row?_eq_none.mpr h.1.1, h.1.2, row?_eq_none.mpr h.2⟩

theorem isWhole_stop : IsWhole '.' :=
  isWhole_of_none (by decide) (pair?_of_row?_eq_none stop_apart.1)

theorem classOf_stop : classOf '.' = 0 := classOf_of_none stop_apart.2.2

section

variable {c d e : Char}

theorem ne_stop_of_pair? {n a b : Nat} (h : pair? n = some (a, b)) : a ≠ 0x2E ∧ b ≠ 0x2E := by
  obtain ⟨r, hr, -, hv⟩ := of_pair? h
  obtain ⟨ha, hb⟩ := testBit_images hr hv
  have hapart := stop_apart.2.1
  constructor
  · rintro rfl
    rw [hapart] at ha
    cases ha
  · rintro rfl
    rw [hapart] at hb
    cases hb

theorem ne_stop_of_join? (h : join? c d = some e) : c ≠ '.' ∧ d ≠ '.' := by
  have hne : c.toNat ≠ 0x2E ∧ d.toNat ≠ 0x2E := by
    rcases join?_cases h with hsyllable | hpair
    · rcases joinSyllable?_cases hsyllable with ⟨i, j, -, -, hc, hd, -⟩ | ⟨i, j, -, -, -, hc, hd, -⟩
      · unfold leads at hc
        unfold vowels at hd
        omega
      · unfold firstSyllable at hc
        unfold tails at hd
        omega
    · exact ne_stop_of_pair? hpair
  exact ⟨fun hc => hne.1 (hc ▸ rfl), fun hd => hne.2 (hd ▸ rfl)⟩

theorem join?_stop : join? '.' d = none := by
  rw [Option.eq_none_iff_forall_not_mem]
  exact fun e h => (ne_stop_of_join? h).1 rfl

theorem join?_stop_right : join? c '.' = none := by
  rw [Option.eq_none_iff_forall_not_mem]
  exact fun e h => (ne_stop_of_join? h).2 rfl

theorem join?_ne_stop : join? c d ≠ some '.' := by
  intro h
  have hparts := parts_of_join? h
  rw [show parts '.' = ['.'] from isWhole_stop] at hparts
  have hlast := congrArg List.getLast? hparts
  rw [List.getLast?_append, List.getLast?_singleton] at hlast
  exact (ne_stop_of_join? h).2 (Option.some.inj hlast).symm

/-- Only a full stop has a full stop for a part. -/
theorem eq_stop_of_mem_parts (h : '.' ∈ parts c) : c = '.' := by
  by_contra hc
  obtain ⟨n, hn, hstop⟩ := List.mem_map.mp h
  refine forall_mem_split (P := fun n => Char.ofNat n ≠ '.') ?_ ?_ depth ?_ n hn hstop
  · intro n a b hp _
    obtain ⟨-, hva, hvb⟩ := isValidChar_of_pair? hp
    obtain ⟨ha, hb⟩ := ne_stop_of_pair? hp
    constructor
    · intro hdot
      exact ha ((toNat_ofNat hva).symm.trans (congrArg Char.toNat hdot))
    · intro hdot
      exact hb ((toNat_ofNat hvb).symm.trans (congrArg Char.toNat hdot))
  · intro n hletter hdot
    rw [testBit_letters] at hletter
    unfold leads vowels tails at hletter
    have htoNat := (toNat_ofNat (n := n) (.inl (by omega))).symm.trans (congrArg Char.toNat hdot)
    rw [show '.'.toNat = 46 from rfl] at htoNat
    omega
  · rwa [Char.ofNat_toNat]

end

/-! ## The order of marks -/

/-- Whether a character may follow another in a text whose marks are in order. -/
def Follows (d c : Char) : Prop := classOf d = 0 ∨ classOf c ≤ classOf d

/-- Whether the marks of a text are in order. -/
def IsOrdered (cs : List Char) : Prop := cs.IsChain fun c d => Follows d c

theorem putBehind_cons_of_lt {c d : Char} (hc : 0 < classOf c) (hd : classOf c < classOf d)
    (done : List Char) : putBehind c (d :: done) = d :: putBehind c done := by
  rw [putBehind, if_pos ⟨hc, hd⟩]

theorem putBehind_cons_of_follows {c d : Char} (h : Follows c d) (done : List Char) :
    putBehind c (d :: done) = c :: d :: done := by
  rw [putBehind, if_neg]
  unfold Follows at h
  omega

theorem lt_or_follows (c d : Char) : (0 < classOf c ∧ classOf c < classOf d) ∨ Follows c d := by
  unfold Follows
  omega

theorem isChain_putBehind (c : Char) {done : List Char} (h : done.IsChain Follows) :
    (putBehind c done).IsChain Follows := by
  induction done with
  | nil => exact List.isChain_singleton c
  | cons d done ih =>
      rcases lt_or_follows c d with ⟨hc, hd⟩ | hfollows
      · have hdc : Follows d c := .inr (Nat.le_of_lt hd)
        rw [putBehind_cons_of_lt hc hd]
        refine List.isChain_cons.mpr ⟨?_, ih h.tail⟩
        intro e he
        cases done with
        | nil =>
            cases he
            exact hdc
        | cons f done =>
            rcases lt_or_follows c f with ⟨-, hf⟩ | hfollows
            · rw [putBehind_cons_of_lt hc hf] at he
              cases he
              exact (List.isChain_cons_cons.mp h).1
            · rw [putBehind_cons_of_follows hfollows] at he
              cases he
              exact hdc
      · rw [putBehind_cons_of_follows hfollows]
        exact List.isChain_cons_cons.mpr ⟨hfollows, h⟩

/-- Marks of different classes may come in either order. -/
theorem putBehind_comm {c d : Char} (hc : 0 < classOf c) (hd : classOf c < classOf d)
    (done : List Char) : putBehind c (putBehind d done) = putBehind d (putBehind c done) := by
  have hdc : Follows d c := .inr (Nat.le_of_lt hd)
  induction done with
  | nil =>
      show putBehind c [d] = putBehind d [c]
      rw [putBehind_cons_of_lt hc hd, putBehind_cons_of_follows hdc]
      rfl
  | cons e done ih =>
      rcases lt_or_follows d e with ⟨hd', he⟩ | hde
      · have hce : classOf c < classOf e := Nat.lt_trans hd he
        rw [putBehind_cons_of_lt hd' he, putBehind_cons_of_lt hc hce, putBehind_cons_of_lt hc hce,
          putBehind_cons_of_lt hd' he, ih]
      · rw [putBehind_cons_of_follows hde, putBehind_cons_of_lt hc hd]
        rcases lt_or_follows c e with ⟨-, hce⟩ | hce
        · rw [putBehind_cons_of_lt hc hce, putBehind_cons_of_follows hde]
        · rw [putBehind_cons_of_follows hce, putBehind_cons_of_follows hdc]

/-- Puts the characters of a text behind others. -/
def arrange (done cs : List Char) : List Char :=
  cs.foldl (fun done c => putBehind c done) done

theorem arrange_append (done cs ds : List Char) :
    arrange done (cs ++ ds) = arrange (arrange done cs) ds := List.foldl_append

/-- A mark may be moved in front of marks of lower classes. -/
theorem arrange_swap {d : Char} {ss : List Char}
    (h : ∀ s ∈ ss, 0 < classOf s ∧ classOf s < classOf d) (done : List Char) :
    arrange done (ss ++ [d]) = arrange done (d :: ss) := by
  induction ss generalizing done with
  | nil => rfl
  | cons s ss ih =>
      obtain ⟨⟨hs, hsd⟩, hss⟩ := List.forall_mem_cons.mp h
      calc arrange done (s :: ss ++ [d]) = arrange (putBehind s done) (d :: ss) := ih hss _
        _ = arrange (putBehind s (putBehind d done)) ss := by
            rw [putBehind_comm hs hsd]
            rfl

theorem isChain_arrange {done : List Char} (h : done.IsChain Follows) (cs : List Char) :
    (arrange done cs).IsChain Follows := by
  induction cs generalizing done with
  | nil => exact h
  | cons c cs ih => exact ih (isChain_putBehind c h)

theorem arrange_of_isChain {done cs : List Char} (h : (cs.reverse ++ done).IsChain Follows) :
    arrange done cs = cs.reverse ++ done := by
  induction cs generalizing done with
  | nil => rfl
  | cons c cs ih =>
      rw [List.reverse_cons, List.append_assoc, List.singleton_append] at h ⊢
      have hbehind : putBehind c done = c :: done := by
        cases done with
        | nil => rfl
        | cons d done =>
            exact putBehind_cons_of_follows
              (List.isChain_cons_cons.mp (List.isChain_append.mp h).2.1).1 done
      show arrange (putBehind c done) cs = _
      rw [hbehind]
      exact ih h

theorem isOrdered_ordered (cs : List Char) : IsOrdered (ordered cs) := by
  have hchain : (arrange [] cs).IsChain Follows := isChain_arrange List.isChain_nil cs
  exact List.isChain_reverse.mpr hchain

theorem ordered_of_isOrdered {cs : List Char} (h : IsOrdered cs) : ordered cs = cs := by
  have hchain : (cs.reverse ++ []).IsChain Follows := by
    rw [List.append_nil]
    exact List.isChain_reverse.mpr h
  show (arrange [] cs).reverse = cs
  rw [arrange_of_isChain hchain, List.append_nil, List.reverse_reverse]

/-! ## Composing -/

theorem joined_cons (c : Char) (skipped : List Char) (d : Char) (ds : List Char) :
    joined c skipped (d :: ds) =
      match if (match skipped with
          | [] => false
          | s :: _ => decide (classOf d ≤ classOf s)) then none else join? c d with
      | some e => joined e skipped ds
      | none =>
        if classOf d = 0 then c :: skipped.reverse ++ joined d [] ds
        else joined c (d :: skipped) ds := rfl

/-- What composing does with the next character: it is composed, unless marks of its class or
higher ones stand in between; or it begins another letter; or it is skipped. -/
theorem joined_cases (c : Char) (skipped : List Char) (d : Char) (ds : List Char) :
    (∃ e, join? c d = some e ∧ (∀ s ∈ skipped.head?, classOf s < classOf d) ∧
        joined c skipped (d :: ds) = joined e skipped ds) ∨
      (classOf d = 0 ∧ joined c skipped (d :: ds) = c :: skipped.reverse ++ joined d [] ds) ∨
        (0 < classOf d ∧ joined c skipped (d :: ds) = joined c (d :: skipped) ds) := by
  rw [joined_cons]
  split
  next e he =>
    left
    cases skipped with
    | nil => exact ⟨e, he, nofun, rfl⟩
    | cons s skipped =>
        by_cases hle : classOf d ≤ classOf s
        · rw [if_pos (decide_eq_true hle)] at he
          cases he
        · rw [if_neg (by simpa using hle)] at he
          refine ⟨e, he, ?_, rfl⟩
          intro t ht
          cases ht
          exact Nat.not_le.mp hle
  next =>
    right
    by_cases hd : classOf d = 0
    · exact .inl ⟨hd, if_pos hd⟩
    · exact .inr ⟨Nat.pos_of_ne_zero hd, if_neg hd⟩

/-- What the characters are that have been skipped when `ds` is next: marks in order, which what
comes next may follow. -/
structure Skipped (skipped ds : List Char) : Prop where
  marks : ∀ s ∈ skipped, IsWhole s ∧ 0 < classOf s
  sorted : skipped.Pairwise fun s t => classOf t ≤ classOf s
  next : ∀ s ∈ skipped, ∀ d ∈ ds.head?, Follows d s

theorem Follows.of_le {c d s : Char} (h : Follows c d) (hle : classOf s ≤ classOf d) :
    Follows c s :=
  h.imp_right (Nat.le_trans hle)

theorem IsOrdered.follows {d : Char} {ds : List Char} (h : IsOrdered (d :: ds)) :
    ∀ c ∈ ds.head?, Follows c d := by
  intro c hc
  cases ds with
  | nil => cases hc
  | cons f ds =>
      cases hc
      exact (List.isChain_cons_cons.mp h).1

theorem flatMap_parts_of_isWhole {cs : List Char} (h : ∀ c ∈ cs, IsWhole c) :
    cs.flatMap parts = cs := by
  induction cs with
  | nil => rfl
  | cons c cs ih =>
      obtain ⟨hc, hcs⟩ := List.forall_mem_cons.mp h
      rw [List.flatMap_cons, show parts c = [c] from hc, ih hcs, List.singleton_append]

theorem Skipped.nil (ds : List Char) : Skipped [] ds := ⟨nofun, List.Pairwise.nil, nofun⟩

namespace Skipped

variable {skipped ds : List Char} {d : Char}

theorem flatMap_parts (h : Skipped skipped ds) : skipped.reverse.flatMap parts = skipped.reverse :=
  flatMap_parts_of_isWhole fun s hs => (h.marks s (List.mem_reverse.mp hs)).1

section

variable (h : Skipped skipped (d :: ds)) (hordered : IsOrdered (d :: ds))

include h

/-- A mark of a class above that of the last one that was skipped is of a class above all. -/
theorem lt_of_head (hlower : ∀ s ∈ skipped.head?, classOf s < classOf d) :
    ∀ s ∈ skipped, classOf s < classOf d := by
  cases skipped with
  | nil => exact nofun
  | cons t skipped =>
      have ht := hlower t rfl
      refine List.forall_mem_cons.mpr ⟨ht, fun s hs => ?_⟩
      exact Nat.lt_of_le_of_lt ((List.pairwise_cons.mp h.sorted).1 s hs) ht

include hordered

/-- A character that is composed leaves the skipped ones as they are. -/
theorem of_lt (hlower : ∀ s ∈ skipped, classOf s < classOf d) : Skipped skipped ds where
  marks := h.marks
  sorted := h.sorted
  next s hs c hc := (hordered.follows c hc).of_le (Nat.le_of_lt (hlower s hs))

/-- A mark is skipped. -/
theorem cons (hwhole : IsWhole d) (hd : 0 < classOf d) : Skipped (d :: skipped) ds := by
  have hle : ∀ s ∈ skipped, classOf s ≤ classOf d := by
    intro s hs
    rcases h.next s hs d rfl with hzero | hle
    · omega
    · exact hle
  refine ⟨List.forall_mem_cons.mpr ⟨⟨hwhole, hd⟩, h.marks⟩, List.pairwise_cons.mpr ⟨hle, h.sorted⟩,
    List.forall_mem_cons.mpr ⟨hordered.follows, fun s hs c hc => ?_⟩⟩
  exact (hordered.follows c hc).of_le (hle s hs)

end

end Skipped

/-- A mark may be moved back from the letter behind the marks of lower classes. -/
theorem arrange_behind {cs ss : List Char} {d : Char}
    (h : ∀ s ∈ ss, 0 < classOf s ∧ classOf s < classOf d) (done ds : List Char) :
    arrange done (cs ++ [d] ++ (ss ++ ds)) = arrange done (cs ++ (ss ++ d :: ds)) := by
  calc arrange done (cs ++ [d] ++ (ss ++ ds))
      = arrange (arrange (arrange done cs) (d :: ss)) ds := by
        rw [← arrange_append, ← arrange_append]
        simp
    _ = arrange (arrange (arrange done cs) (ss ++ [d])) ds := by rw [arrange_swap h]
    _ = arrange done (cs ++ (ss ++ d :: ds)) := by
        rw [← arrange_append, ← arrange_append]
        simp

/-- Splitting and ordering undoes composing, whatever stands in front. -/
theorem arrange_joined (ds : List Char) {c : Char} {skipped : List Char} (h : Skipped skipped ds)
    (hwhole : ∀ d ∈ ds, IsWhole d) (hordered : IsOrdered ds) (done : List Char) :
    arrange done ((joined c skipped ds).flatMap parts) =
      arrange done (parts c ++ (skipped.reverse ++ ds)) := by
  induction ds generalizing c skipped done with
  | nil =>
      show arrange done ((c :: skipped.reverse).flatMap parts) = _
      rw [List.flatMap_cons, h.flatMap_parts, List.append_nil]
  | cons d ds ih =>
      obtain ⟨hd, hds⟩ := List.forall_mem_cons.mp hwhole
      rcases joined_cases c skipped d ds with
        ⟨e, he, hhead, hjoined⟩ | ⟨hd0, hjoined⟩ | ⟨hd0, hjoined⟩
      · have hlower := h.lt_of_head hhead
        have hmarks : ∀ s ∈ skipped.reverse, 0 < classOf s ∧ classOf s < classOf d := by
          intro s hs
          have hmem := List.mem_reverse.mp hs
          exact ⟨(h.marks s hmem).2, hlower s hmem⟩
        rw [hjoined, ih (h.of_lt hordered hlower) hds hordered.tail, parts_of_join? he,
          arrange_behind hmarks]
      · have hstart := ih (c := d) (Skipped.nil ds) hds hordered.tail
          (arrange done (parts c ++ skipped.reverse))
        rw [hjoined, List.cons_append, List.flatMap_cons, List.flatMap_append, h.flatMap_parts,
          ← List.append_assoc, arrange_append, hstart, show parts d = [d] from hd, ← arrange_append]
        simp
      · rw [hjoined, ih (h.cons hordered hd hd0) hds hordered.tail]
        simp

/-! ## The normal form -/

/-- Composes the letters of a text. -/
def compose : List Char → List Char
  | [] => []
  | c :: cs => joined c [] cs

/-- Splits the characters of a text and puts its marks in order. -/
def decompose (cs : List Char) : List Char :=
  ordered (cs.flatMap parts)

theorem mem_putBehind {c d : Char} {done : List Char} :
    d ∈ putBehind c done ↔ d = c ∨ d ∈ done := by
  induction done with
  | nil => exact List.mem_cons
  | cons e done ih =>
      rcases lt_or_follows c e with ⟨hc, he⟩ | hfollows
      · rw [putBehind_cons_of_lt hc he, List.mem_cons, ih, List.mem_cons]
        exact or_left_comm
      · rw [putBehind_cons_of_follows hfollows, List.mem_cons]

theorem mem_ordered {d : Char} {cs : List Char} : d ∈ ordered cs ↔ d ∈ cs := by
  have harrange (done : List Char) : d ∈ arrange done cs ↔ d ∈ done ∨ d ∈ cs := by
    induction cs generalizing done with
    | nil => simp [arrange]
    | cons c cs ih =>
        show d ∈ arrange (putBehind c done) cs ↔ _
        rw [ih, mem_putBehind, List.mem_cons]
        tauto
  show d ∈ (arrange [] cs).reverse ↔ _
  rw [List.mem_reverse, harrange]
  simp

theorem mem_decompose {d : Char} {cs : List Char} :
    d ∈ decompose cs ↔ ∃ c ∈ cs, d ∈ parts c := by
  rw [decompose, mem_ordered, List.mem_flatMap]

theorem isWhole_of_mem_decompose {cs : List Char} : ∀ d ∈ decompose cs, IsWhole d := by
  intro d hd
  obtain ⟨c, -, hd⟩ := mem_decompose.mp hd
  exact isWhole_of_mem_parts hd

/-- Splitting undoes composing. -/
theorem decompose_compose {cs : List Char} (hwhole : ∀ c ∈ cs, IsWhole c) (h : IsOrdered cs) :
    decompose (compose cs) = cs := by
  cases cs with
  | nil => rfl
  | cons c cs =>
      obtain ⟨hc, hcs⟩ := List.forall_mem_cons.mp hwhole
      have harrange := arrange_joined cs (c := c) (Skipped.nil cs) hcs h.tail []
      rw [show parts c = [c] from hc] at harrange
      show (arrange [] ((joined c [] cs).flatMap parts)).reverse = c :: cs
      rw [harrange]
      exact ordered_of_isOrdered h

theorem compose_decompose_compose (cs : List Char) :
    compose (decompose (compose (decompose cs))) = compose (decompose cs) := by
  rw [decompose_compose isWhole_of_mem_decompose (isOrdered_ordered _)]

theorem normalForm_eq (cs : List Char) :
    normalForm cs = if cs.all fun c => c.toNat < 0x80 then cs else compose (decompose cs) := by
  unfold normalForm
  split
  · rfl
  · show (match decompose cs with
      | [] => []
      | c :: cs => joined c [] cs) = compose (decompose cs)
    cases decompose cs <;> rfl

/-- A text in normal form is its own normal form. -/
theorem normalForm_normalForm (cs : List Char) :
    normalForm (normalForm cs) = normalForm cs := by
  by_cases hascii : (cs.all fun c => c.toNat < 0x80) = true
  · rw [normalForm_eq cs, if_pos hascii, normalForm_eq, if_pos hascii]
  · rw [normalForm_eq cs, if_neg hascii, normalForm_eq]
    split
    · rfl
    · exact compose_decompose_compose cs

/-! ## Characters of the normal form -/

/-- What composed characters have, and what the letters that they are composed of had, the letters
of a composed text have. -/
theorem forall_mem_joined {P : Char → Prop} (hjoin : ∀ {c d e}, join? c d = some e → P e)
    {ds : List Char} (hds : ∀ d ∈ ds, P d) {c : Char} (hc : P c) {skipped : List Char}
    (hskipped : ∀ s ∈ skipped, P s) : ∀ x ∈ joined c skipped ds, P x := by
  have hreverse {skipped : List Char} (h : ∀ s ∈ skipped, P s) : ∀ s ∈ skipped.reverse, P s :=
    fun s hs => h s (List.mem_reverse.mp hs)
  induction ds generalizing c skipped with
  | nil => exact List.forall_mem_cons.mpr ⟨hc, hreverse hskipped⟩
  | cons d ds ih =>
      obtain ⟨hd, hds⟩ := List.forall_mem_cons.mp hds
      rcases joined_cases c skipped d ds with ⟨e, he, -, hjoined⟩ | ⟨-, hjoined⟩ | ⟨-, hjoined⟩
      · rw [hjoined]
        exact ih hds (hjoin he) hskipped
      · rw [hjoined]
        exact List.forall_mem_append.mpr
          ⟨List.forall_mem_cons.mpr ⟨hc, hreverse hskipped⟩, ih hds hd nofun⟩
      · rw [hjoined]
        exact ih hds hc (List.forall_mem_cons.mpr ⟨hd, hskipped⟩)

theorem forall_mem_compose {P : Char → Prop}
    (hparts : ∀ {c}, P c → ∀ d ∈ parts c, P d) (hjoin : ∀ {c d e}, join? c d = some e → P e)
    {cs : List Char} (h : ∀ c ∈ cs, P c) : ∀ c ∈ compose (decompose cs), P c := by
  have hdecompose : ∀ d ∈ decompose cs, P d := by
    intro d hd
    obtain ⟨c, hc, hd⟩ := mem_decompose.mp hd
    exact hparts (h c hc) d hd
  cases hcs : decompose cs with
  | nil => exact nofun
  | cons d ds =>
      rw [hcs] at hdecompose
      obtain ⟨hd, hds⟩ := List.forall_mem_cons.mp hdecompose
      exact forall_mem_joined hjoin hds hd nofun

theorem forall_mem_normalForm {P : Char → Prop}
    (hparts : ∀ {c}, P c → ∀ d ∈ parts c, P d) (hjoin : ∀ {c d e}, join? c d = some e → P e)
    {cs : List Char} (h : ∀ c ∈ cs, P c) : ∀ c ∈ normalForm cs, P c := by
  rw [normalForm_eq]
  split
  · exact h
  · exact forall_mem_compose hparts hjoin h

/-! ## The normal form between full stops -/

theorem arrange_stop (done front cs : List Char) :
    arrange (front ++ '.' :: done) cs = arrange front cs ++ '.' :: done := by
  have hbehind (c : Char) (front : List Char) :
      putBehind c (front ++ '.' :: done) = putBehind c front ++ '.' :: done := by
    have hstop : Follows c '.' := by
      unfold Follows
      rw [classOf_stop]
      exact .inr (Nat.zero_le _)
    induction front with
    | nil => exact putBehind_cons_of_follows hstop done
    | cons d front ih =>
        rcases lt_or_follows c d with ⟨hc, hd⟩ | hfollows
        · rw [List.cons_append, putBehind_cons_of_lt hc hd, putBehind_cons_of_lt hc hd, ih,
            List.cons_append]
        · rw [List.cons_append, putBehind_cons_of_follows hfollows,
            putBehind_cons_of_follows hfollows]
          rfl
  induction cs generalizing front with
  | nil => rfl
  | cons c cs ih =>
      show arrange (putBehind c (front ++ '.' :: done)) cs = arrange (putBehind c front) cs ++ _
      rw [hbehind, ih]

theorem putBehind_stop (done : List Char) : putBehind '.' done = '.' :: done := by
  cases done with
  | nil => rfl
  | cons d done => exact putBehind_cons_of_follows (.inl classOf_stop) done

theorem decompose_stop (cs ds : List Char) :
    decompose (cs ++ '.' :: ds) = decompose cs ++ '.' :: decompose ds := by
  have hparts : parts '.' = ['.'] := isWhole_stop
  show (arrange [] ((cs ++ '.' :: ds).flatMap parts)).reverse = _
  rw [List.flatMap_append, List.flatMap_cons, hparts, arrange_append]
  show (arrange (putBehind '.' (arrange [] (cs.flatMap parts))) (ds.flatMap parts)).reverse = _
  rw [putBehind_stop, show '.' :: arrange [] (cs.flatMap parts) =
    [] ++ '.' :: arrange [] (cs.flatMap parts) from rfl, arrange_stop, List.reverse_append,
    List.reverse_cons, List.append_assoc]
  rfl

/-- Nothing is composed with a character that composes with nothing. -/
theorem joined_inert (ds : List Char) {c : Char} (hc : ∀ d, join? c d = none)
    (skipped : List Char) : joined c skipped ds = c :: skipped.reverse ++ compose ds := by
  induction ds generalizing c skipped with
  | nil => exact (List.append_nil _).symm
  | cons d ds ih =>
      rcases joined_cases c skipped d ds with ⟨e, he, -⟩ | ⟨-, hjoined⟩ | ⟨hd, hjoined⟩
      · rw [hc d] at he
        cases he
      · exact hjoined
      · have hinert : ∀ e, join? d e = none := by
          intro e
          rw [Option.eq_none_iff_forall_not_mem]
          intro f hf
          exact Nat.ne_of_gt hd (classOf_of_join? hf)
        rw [hjoined, ih hc]
        show _ = c :: skipped.reverse ++ joined d [] ds
        rw [ih hinert]
        simp

theorem joined_stop (ds es : List Char) (c : Char) (skipped : List Char) :
    joined c skipped (ds ++ '.' :: es) = joined c skipped ds ++ '.' :: compose es := by
  induction ds generalizing c skipped with
  | nil =>
      rcases joined_cases c skipped '.' es with ⟨e, he, -⟩ | ⟨-, hjoined⟩ | ⟨hd, -⟩
      · rw [join?_stop_right] at he
        cases he
      · rw [List.nil_append, hjoined, joined_inert es (fun _ => join?_stop)]
        rfl
      · rw [classOf_stop] at hd
        cases hd
  | cons d ds ih =>
      rw [List.cons_append, joined_cons, joined_cons]
      split
      · exact ih _ _
      · split
        · rw [ih, List.append_assoc]
        · exact ih _ _

theorem compose_stop (cs ds : List Char) :
    compose (cs ++ '.' :: ds) = compose cs ++ '.' :: compose ds := by
  cases cs with
  | nil => exact joined_inert ds (fun _ => join?_stop) []
  | cons c cs => exact joined_stop cs ds c []

theorem not_mem_stop {cs : List Char} (h : '.' ∉ cs) : '.' ∉ compose (decompose cs) := by
  have hall : ∀ c ∈ compose (decompose cs), c ≠ '.' := by
    refine forall_mem_compose (P := fun c => c ≠ '.') ?_ ?_ ?_
    · intro c hc d hd
      rintro rfl
      exact hc (eq_stop_of_mem_parts hd)
    · intro c d e he
      rintro rfl
      exact join?_ne_stop he
    · rintro c hc rfl
      exact h hc
  exact fun hmem => hall '.' hmem rfl

/-- The parts of a normal form between full stops are the normal forms of the parts. -/
theorem splitOn_compose_decompose (cs : List Char) :
    Form.splitOn '.' (compose (decompose cs)) =
      (Form.splitOn '.' cs).map fun part => compose (decompose part) := by
  induction h : cs.length using Nat.strong_induction_on generalizing cs with
  | _ n ih =>
      by_cases hmem : '.' ∈ cs
      · obtain ⟨front, rest, rfl, hfront⟩ := List.eq_append_cons_of_mem hmem
        have hshorter : rest.length < n := by
          rw [← h, List.length_append, List.length_cons]
          omega
        rw [decompose_stop, compose_stop, Form.splitOn_append (not_mem_stop hfront),
          Form.splitOn_append hfront, ih _ hshorter rest rfl, List.map_cons]
      · rw [Form.splitOn_of_not_mem hmem, Form.splitOn_of_not_mem (not_mem_stop hmem),
          List.map_singleton]

/-- The parts of a text in normal form are in normal form. -/
theorem normalForm_part {cs part : List Char} (h : normalForm cs = cs)
    (hpart : part ∈ Form.splitOn '.' cs) : normalForm part = part := by
  rw [normalForm_eq]
  split
  · rfl
  next hascii =>
    have hcs : compose (decompose cs) = cs := by
      rw [normalForm_eq, if_neg] at h
      · exact h
      · intro hall
        refine hascii (List.all_eq_true.mpr fun c hc => ?_)
        exact List.all_eq_true.mp hall c ((Form.of_mem_splitOn hpart).2 c hc)
    have hmap := splitOn_compose_decompose cs
    rw [hcs] at hmap
    exact (List.map_inj_left.mp ((List.map_id _).trans hmap) part hpart).symm

end Tributary.Text.Composition
