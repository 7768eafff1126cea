import Tributary.Proofs.Text.Composition
import Tributary.Url.Domain.Mapping

/-!
# Tables of domains

What the tables of characters say when they are taken together: the characters that a character
stands for stand for themselves, and so do the characters that are composed of others, and the
parts of these. The tables are evaluated here once, as sets.
-/

namespace Tributary.Url.Domain

open Text CodeTable
open Text.Composition (composed syllables letters)

/-- The ASCII characters that are no capital letters. -/
def lowAscii : Nat := without (2 ^ 0x80 - 1) (span 0x41 0x5A).mask

/-- The characters that are allowed and stand for themselves, bit by bit. -/
def settled (allowed sources : CodeTable) : Nat :=
  without (mask allowed) (mask sources) >>> 0x80 <<< 0x80 ||| lowAscii

theorem testBit_lowAscii {n : Nat} :
    lowAscii.testBit n = true ↔ n < 0x80 ∧ ¬ (0x41 ≤ n ∧ n ≤ 0x5A) := by
  unfold lowAscii
  rw [testBit_without, CodeRow.testBit_mask, Nat.testBit_two_pow_sub_one, Bool.and_eq_true,
    decide_eq_true_eq, Bool.not_eq_true', ← Bool.not_eq_true, has_span]

theorem testBit_settled {allowed sources : CodeTable} {n : Nat} :
    (settled allowed sources).testBit n = true ↔
      (n < 0x80 ∧ ¬ (0x41 ≤ n ∧ n ≤ 0x5A)) ∨
        (0x80 ≤ n ∧ (allowed.row? n).isSome = true ∧ sources.row? n = none) := by
  unfold settled
  rw [Nat.testBit_or, Bool.or_eq_true, testBit_lowAscii, Nat.testBit_shiftLeft, isSome_row?,
    row?_eq_none, or_comm]
  refine or_congr_right ?_
  by_cases hn : 0x80 ≤ n
  · rw [Nat.testBit_shiftRight, Nat.add_sub_cancel' hn, testBit_without]
    simp [hn]
  · simp [hn]

/-- What has to hold of the characters that are allowed, of those that stand for others, which are
in four tables, and of those that are composed. -/
structure IsClosed (allowed t₁ t₂ t₃ t₄ composed : CodeTable) : Prop where
  values : isWithin (mask ((t₁ ++ t₂ ++ t₃ ++ t₄).flatMap images))
    (settled allowed (t₁ ++ t₂ ++ t₃ ++ t₄)) = true
  pairs : isWithin (mask composed) (settled allowed (t₁ ++ t₂ ++ t₃ ++ t₄)) = true
  pair_parts : isWithin (mask (composed.flatMap images))
    (settled allowed (t₁ ++ t₂ ++ t₃ ++ t₄)) = true
  hangul : isWithin (mask (syllables ++ letters))
    (settled allowed (t₁ ++ t₂ ++ t₃ ++ t₄)) = true
  scalars : isWithin (settled allowed (t₁ ++ t₂ ++ t₃ ++ t₄))
    (mask [span 0 0xD7FF, span 0xE000 0x10FFFF]) = true
  /-- Each table has the characters that are looked up in it. -/
  ranges : (isWithin (mask t₁) (span 0 0x1FFF).mask &&
    isWithin (mask t₂) (span 0x2000 0xF8FF).mask && isWithin (mask t₃) (span 0xF900 0xFFFF).mask &&
    isWithin (mask t₄) (span 0x10000 0x10FFFF).mask) = true

instance (allowed t₁ t₂ t₃ t₄ composed : CodeTable) :
    Decidable (IsClosed allowed t₁ t₂ t₃ t₄ composed) :=
  decidable_of_iff
    (isWithin (mask ((t₁ ++ t₂ ++ t₃ ++ t₄).flatMap images))
        (settled allowed (t₁ ++ t₂ ++ t₃ ++ t₄)) = true ∧
      isWithin (mask composed) (settled allowed (t₁ ++ t₂ ++ t₃ ++ t₄)) = true ∧
      isWithin (mask (composed.flatMap images))
        (settled allowed (t₁ ++ t₂ ++ t₃ ++ t₄)) = true ∧
      isWithin (mask (syllables ++ letters)) (settled allowed (t₁ ++ t₂ ++ t₃ ++ t₄)) = true ∧
      isWithin (settled allowed (t₁ ++ t₂ ++ t₃ ++ t₄))
        (mask [span 0 0xD7FF, span 0xE000 0x10FFFF]) = true ∧
      (isWithin (mask t₁) (span 0 0x1FFF).mask && isWithin (mask t₂) (span 0x2000 0xF8FF).mask &&
        isWithin (mask t₃) (span 0xF900 0xFFFF).mask &&
        isWithin (mask t₄) (span 0x10000 0x10FFFF).mask) = true)
    ⟨fun ⟨h₁, h₂, h₃, h₄, h₅, h₆⟩ => ⟨h₁, h₂, h₃, h₄, h₅, h₆⟩,
      fun ⟨h₁, h₂, h₃, h₄, h₅, h₆⟩ => ⟨h₁, h₂, h₃, h₄, h₅, h₆⟩⟩

theorem isClosed_of_spelled {a b c d e f : List String} {a' b' c' d' e' f' : List (List Char)}
    (ha : Spelled a a') (hb : Spelled b b') (hc : Spelled c c') (hd : Spelled d d')
    (he : Spelled e e') (hf : Spelled f f')
    (h : IsClosed (rows a') (rows b') (rows c') (rows d') (rows e') (rows f')) :
    IsClosed (.read a) (.read b) (.read c) (.read d) (.read e) (.read f) := by
  rw [read_eq_rows ha, read_eq_rows hb, read_eq_rows hc, read_eq_rows hd, read_eq_rows he,
    read_eq_rows hf]
  exact h

theorem isClosed_mapping : IsClosed allowed letterMapping symbolMapping compatibilityMapping
    supplementaryMapping composed := by
  unfold allowed letterMapping symbolMapping compatibilityMapping supplementaryMapping composed
  apply isClosed_of_spelled
  iterate 6
    · dsimp only
      repeat (apply Spelled.cons; rfl)
      exact Spelled.nil
  decide +kernel

end Tributary.Url.Domain
