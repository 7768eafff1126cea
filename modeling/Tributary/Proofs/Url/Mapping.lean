import Tributary.Proofs.Url.Tables
import Tributary.Url.Domain.Basic

/-!
# What is meant by a domain is meant once

A character is settled if it stands for itself in a domain. All characters that a character stands
for are settled, so are the parts of settled characters and the characters that are composed of
them. A text that is brought into the form of a domain therefore stays as it is when this is done
again: its characters are settled, and it is in normal form.
-/

namespace Tributary.Url.Domain

open Text CodeTable
open Text.Composition (composed syllables letters pair? join? normalForm)

/-! ## Settled characters -/

/-- The characters that stand for others, ASCII apart. -/
def sources : CodeTable :=
  letterMapping ++ symbolMapping ++ compatibilityMapping ++ supplementaryMapping

/-- Whether a code point is that of a character that stands for itself. -/
def IsSettled (n : Nat) : Prop := (settled allowed sources).testBit n = true

theorem isSettled_iff {n : Nat} :
    IsSettled n ↔ (n < 0x80 ∧ ¬ (0x41 ≤ n ∧ n ≤ 0x5A)) ∨
      (0x80 ≤ n ∧ (allowed.row? n).isSome = true ∧ sources.row? n = none) :=
  testBit_settled

theorem isValidChar_of_isSettled {n : Nat} (h : IsSettled n) : n.isValidChar := by
  have hscalar := testBit_of_isWithin (IsClosed.scalars isClosed_mapping) h
  have hspans := (testBit_mask_spans [(0, 0xD7FF), (0xE000, 0x10FFFF)] n).mp hscalar
  simp only [List.mem_cons, List.not_mem_nil, or_false, exists_eq_or_imp, exists_eq_left] at hspans
  unfold Nat.isValidChar
  omega

/-- The table that a code point is looked up in has it, if any has. -/
theorem row?_mapping {n : Nat} : (mapping n).row? n = none ↔ sources.row? n = none := by
  have hranges := IsClosed.ranges isClosed_mapping
  rw [Bool.and_eq_true, Bool.and_eq_true, Bool.and_eq_true] at hranges
  obtain ⟨⟨⟨h₁, h₂⟩, h₃⟩, h₄⟩ := hranges
  have hrange {t : CodeTable} {first last : Nat}
      (h : isWithin (mask t) (span first last).mask = true) (hn : ¬ (first ≤ n ∧ n ≤ last)) :
      (mask t).testBit n = false := by
    rw [← Bool.not_eq_true]
    intro hbit
    have hspan := testBit_of_isWithin h hbit
    rw [CodeRow.testBit_mask, has_span] at hspan
    exact hn hspan
  have hsources : (mask sources).testBit n = (mask (mapping n)).testBit n := by
    unfold sources mapping
    rw [testBit_mask_append, testBit_mask_append, testBit_mask_append]
    split
    next hn =>
      rw [hrange h₂ (by omega), hrange h₃ (by omega), hrange h₄ (by omega)]
      simp
    split
    next hn =>
      rw [hrange h₁ (by omega), hrange h₃ (by omega), hrange h₄ (by omega)]
      simp
    split
    next hn =>
      rw [hrange h₁ (by omega), hrange h₂ (by omega), hrange h₄ (by omega)]
      simp
    next hn =>
      rw [hrange h₁ (by omega), hrange h₂ (by omega), hrange h₃ (by omega)]
      simp
  rw [row?_eq_none, row?_eq_none, hsources]

theorem toLower_eq {c : Char} (h : ¬ (0x41 ≤ c.toNat ∧ c.toNat ≤ 0x5A)) : c.toLower = c := by
  unfold Char.toLower
  exact dif_neg h

theorem toLower_lt {c : Char} (h : c.toNat < 0x80) :
    c.toLower.toNat < 0x80 ∧ ¬ (0x41 ≤ c.toLower.toNat ∧ c.toLower.toNat ≤ 0x5A) := by
  have hall : ∀ n : Fin 0x80, (Char.ofNat n).toLower.toNat < 0x80 ∧
      ¬ (0x41 ≤ (Char.ofNat n).toLower.toNat ∧ (Char.ofNat n).toLower.toNat ≤ 0x5A) := by
    decide
  have hc := hall ⟨c.toNat, h⟩
  rwa [Char.ofNat_toNat] at hc

/-- A settled character stands for itself. -/
theorem mapped?_of_isSettled {c : Char} (h : IsSettled c.toNat) : mapped? c = some [c] := by
  unfold mapped?
  rcases isSettled_iff.mp h with ⟨hlow, hcapital⟩ | ⟨hhigh, hallowed, hsource⟩
  · rw [if_pos hlow, toLower_eq hcapital]
  · have hcontains : allowed.contains c = true := hallowed
    rw [if_neg (Nat.not_lt.mpr hhigh), if_pos hcontains, row?_mapping.mpr hsource]

theorem isSettled_value {n : Nat} (h : (mask (sources.flatMap images)).testBit n = true) :
    IsSettled (Char.ofNat n).toNat := by
  have hsettled : IsSettled n := testBit_of_isWithin (IsClosed.values isClosed_mapping) h
  rwa [Composition.toNat_ofNat (isValidChar_of_isSettled hsettled)]

theorem mem_sources {n : Nat} {r : CodeRow} (h : r ∈ mapping n) : r ∈ sources := by
  unfold mapping at h
  unfold sources
  simp only [List.mem_append]
  split at h
  · exact .inl (.inl (.inl h))
  split at h
  · exact .inl (.inl (.inr h))
  split at h
  · exact .inl (.inr h)
  · exact .inr h

/-- The characters that a character stands for are settled. -/
theorem isSettled_of_mapped? {c : Char} {ds : List Char} (h : mapped? c = some ds) :
    ∀ d ∈ ds, IsSettled d.toNat := by
  unfold mapped? at h
  split at h
  next hlow =>
    rw [← Option.some.inj h]
    exact List.forall_mem_singleton.mpr (isSettled_iff.mpr (.inl (toLower_lt hlow)))
  next hhigh =>
    split at h
    next hallowed =>
      split at h
      next hrow =>
        rw [← Option.some.inj h]
        refine List.forall_mem_singleton.mpr (isSettled_iff.mpr (.inr ?_))
        exact ⟨Nat.not_lt.mp hhigh, hallowed, row?_mapping.mp hrow⟩
      next r hrow =>
        obtain ⟨hmem, hhas⟩ := of_row? hrow
        have hr := mem_sources hmem
        split at h
        next value hvalues =>
          rw [← Option.some.inj h]
          refine List.forall_mem_singleton.mpr (isSettled_value (testBit_images_of_mem hr ?_))
          unfold images
          rw [hvalues]
          simp only [CodeRow.has, Bool.and_eq_true, decide_eq_true_eq, beq_iff_eq] at hhas
          simp only [List.any_cons, List.any_nil, Bool.or_false, CodeRow.has, Bool.and_eq_true,
            decide_eq_true_eq, beq_iff_eq, Nat.add_sub_cancel_left]
          exact ⟨⟨Nat.le_add_right .., by omega⟩, hhas.2⟩
        next values hnot =>
          rw [← Option.some.inj h]
          intro d hd
          obtain ⟨v, hv, rfl⟩ := List.mem_map.mp hd
          refine isSettled_value (testBit_images_of_mem hr ?_)
          unfold images
          split
          next value hvalues => exact absurd hvalues (hnot value)
          next =>
            rw [List.any_map, List.any_eq_true]
            exact ⟨v, hv, has_span.mpr ⟨Nat.le_refl v, Nat.le_refl v⟩⟩
    next => cases h

theorem isSettled_letter {n : Nat}
    (h : (mask syllables).testBit n = true ∨ (mask letters).testBit n = true) : IsSettled n := by
  refine testBit_of_isWithin (IsClosed.hangul isClosed_mapping) ?_
  rw [testBit_mask_append, Bool.or_eq_true]
  exact h

/-- The parts of a settled character are settled. -/
theorem isSettled_of_mem_parts {c : Char} (h : IsSettled c.toNat) :
    ∀ d ∈ Composition.parts c, IsSettled d.toNat := by
  intro d hd
  obtain ⟨n, hn, rfl⟩ := List.mem_map.mp hd
  have hsettled : IsSettled n := by
    refine Composition.forall_mem_split (P := IsSettled) ?_ (fun hl => isSettled_letter (.inr hl))
      _ h n hn
    intro n a b hpair _
    obtain ⟨r, hr, rfl, hv⟩ := Composition.of_pair? hpair
    obtain ⟨ha, hb⟩ := Composition.testBit_images hr hv
    exact ⟨testBit_of_isWithin (IsClosed.pair_parts isClosed_mapping) ha,
      testBit_of_isWithin (IsClosed.pair_parts isClosed_mapping) hb⟩
  rwa [Composition.toNat_ofNat (isValidChar_of_isSettled hsettled)]

/-- Composed characters are settled. -/
theorem isSettled_of_join? {c d e : Char} (h : join? c d = some e) : IsSettled e.toNat := by
  rcases Composition.join?_cases h with hsyllable | hpair
  · refine isSettled_letter (.inl (Composition.testBit_syllables.mpr ?_))
    rcases Composition.joinSyllable?_cases hsyllable with
      ⟨i, j, hi, hj, -, -, he⟩ | ⟨i, j, hi, hj, hj', -, -, he⟩
    all_goals omega
  · obtain ⟨r, hr, hfirst, -⟩ := Composition.of_pair? hpair
    rw [← hfirst]
    exact testBit_of_isWithin (IsClosed.pairs isClosed_mapping)
      (testBit_of_row? (Composition.row?_first hr))

/-! ## What is meant is meant once -/

theorem isSettled_of_mapM {cs : List Char} {ds : List (List Char)}
    (h : cs.mapM mapped? = some ds) : ∀ d ∈ ds.flatten, IsSettled d.toNat := by
  have hforall := mapM_eq_some.mp h
  clear h
  induction hforall with
  | nil => exact nofun
  | cons hc _ ih => exact List.forall_mem_append.mpr ⟨isSettled_of_mapped? hc, ih⟩

theorem mapM_of_isSettled {cs : List Char} (h : ∀ c ∈ cs, IsSettled c.toNat) :
    cs.mapM mapped? = some (cs.map fun c => [c]) := by
  rw [mapM_eq_some, List.forall₂_map_right_iff, List.forall₂_same]
  exact fun c hc => mapped?_of_isSettled (h c hc)

/-- The characters of what is meant are settled, and it is in normal form. -/
theorem of_normalized? {cs text : List Char} (h : normalized? cs = some text) :
    (∀ c ∈ text, IsSettled c.toNat) ∧ normalForm text = text := by
  unfold normalized? at h
  split at h
  next hascii =>
    rw [← Option.some.inj h]
    have hlower : ∀ c ∈ cs.map Char.toLower,
        c.toNat < 0x80 ∧ ¬ (0x41 ≤ c.toNat ∧ c.toNat ≤ 0x5A) := by
      intro c hc
      obtain ⟨d, hd, rfl⟩ := List.mem_map.mp hc
      exact toLower_lt (of_decide_eq_true (List.all_eq_true.mp hascii d hd))
    refine ⟨fun c hc => isSettled_iff.mpr (.inl (hlower c hc)), ?_⟩
    unfold normalForm
    exact if_pos (List.all_eq_true.mpr fun c hc => decide_eq_true (hlower c hc).1)
  next =>
    obtain ⟨ds, hds, rfl⟩ := Option.map_eq_some_iff.mp h
    exact ⟨Composition.forall_mem_normalForm (fun h => isSettled_of_mem_parts h)
      (fun h => isSettled_of_join? h) (isSettled_of_mapM hds),
      Composition.normalForm_normalForm _⟩

/-- Settled characters in normal form are what is meant by them. -/
theorem normalized?_of_isSettled {cs : List Char} (h : ∀ c ∈ cs, IsSettled c.toNat)
    (hnormal : normalForm cs = cs) : normalized? cs = some cs := by
  unfold normalized?
  split
  next hascii =>
    have hlower : ∀ c ∈ cs, c.toLower = c := by
      intro c hc
      have hlow : c.toNat < 0x80 := of_decide_eq_true (List.all_eq_true.mp hascii c hc)
      rcases isSettled_iff.mp (h c hc) with hcapital | ⟨hhigh, -⟩
      · exact toLower_eq hcapital.2
      · omega
    rw [List.map_congr_left hlower, List.map_id']
  next =>
    rw [mapM_of_isSettled h, Option.map_some, ← List.flatMap_def, List.flatMap_singleton',
      hnormal]

/-- So are their labels. -/
theorem normalized?_label {cs text label : List Char} (h : normalized? cs = some text)
    (hlabel : label ∈ Form.splitOn '.' text) : normalized? label = some label := by
  obtain ⟨hsettled, hnormal⟩ := of_normalized? h
  refine normalized?_of_isSettled (fun c hc => ?_) (Composition.normalForm_part hnormal hlabel)
  exact hsettled c ((Form.of_mem_splitOn hlabel).2 c hc)

end Tributary.Url.Domain
