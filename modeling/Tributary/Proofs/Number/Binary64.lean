import Tributary.Number.Binary64
import Tributary.Number.Integer

/-!
# Integers as floating-point numbers

Every integer of 64 bits has a finite floating-point number nearest to it: the greatest are rounded
in steps of 2048, far below the greatest number there is.
-/

namespace Tributary.Binary64

theorem roundEven_le (num den : Nat) : roundEven num den ≤ num / den + 1 := by
  unfold roundEven
  dsimp only
  split
  · omega
  split
  · omega
  split <;> omega

theorem floorLog2_one {num : Nat} (hpos : num ≠ 0) : floorLog2 num 1 = num.log2 := by
  have hlow : 2 ^ num.log2 ≤ num := Nat.log2_self_le hpos
  have hk : (num.log2 : Int) - ((1 : Nat).log2 : Int) = num.log2 := by
    have : (1 : Nat).log2 = 0 := by decide
    omega
  unfold floorLog2
  dsimp only
  rw [hk]
  simp [hlow]

/-- The last place of a number below `2 ^ 64` is worth 2048 at most. -/
theorem nearestBits_one_le {num : Nat} (hpos : num ≠ 0) (hnum : num < 0x10000000000000000) :
    nearestBits num 1 ≤ 1087 * fractionRange := by
  have hlog : num.log2 ≤ 63 := Nat.le_of_lt_succ ((Nat.log2_lt hpos).mpr hnum)
  have hhigh : num < 2 ^ (num.log2 + 1) := Nat.lt_log2_self
  unfold nearestBits
  dsimp only
  rw [floorLog2_one hpos]
  refine Nat.le_trans (Nat.min_le_right _ _) ?_
  have hmax : max ((num.log2 : Int) - 52) (-1074) = (num.log2 : Int) - 52 := by omega
  rw [hmax, Nat.one_mul]
  have hsignificand : (if 0 ≤ (num.log2 : Int) - 52 then
      roundEven num (Nat.pow 2 ((num.log2 : Int) - 52).toNat)
      else roundEven (num * Nat.pow 2 (-((num.log2 : Int) - 52)).toNat) 1) ≤ 2 * fractionRange := by
    split
    next hge =>
      obtain ⟨k, hk⟩ : ∃ k, num.log2 = k + 52 := ⟨num.log2 - 52, by omega⟩
      have htoNat : ((num.log2 : Int) - 52).toNat = k := by omega
      have hdiv : num / 2 ^ k < 2 ^ 53 :=
        Nat.div_lt_of_lt_mul (by rw [← Nat.pow_add]; rwa [hk] at hhigh)
      rw [htoNat]
      exact Nat.le_trans (roundEven_le _ _) hdiv
    next hlt =>
      obtain ⟨k, hk⟩ : ∃ k, num.log2 + k = 52 := ⟨52 - num.log2, by omega⟩
      have htoNat : (-((num.log2 : Int) - 52)).toNat = k := by omega
      have hmul : num * 2 ^ k < 2 ^ 53 := by
        calc num * 2 ^ k < 2 ^ (num.log2 + 1) * 2 ^ k :=
              Nat.mul_lt_mul_of_pos_right hhigh (Nat.two_pow_pos k)
          _ = 2 ^ 53 := by rw [← Nat.pow_add]; congr 1; omega
      rw [htoNat]
      refine Nat.le_trans (roundEven_le _ _) ?_
      rw [Nat.div_one]
      exact hmul
  have hexponent : ((num.log2 : Int) - 52 + 1074).toNat ≤ 1085 := by omega
  have := Nat.mul_le_mul_right fractionRange hexponent
  omega

theorem isInfinite_signed {negative : Bool} {bits : Nat} (h : bits ≤ 1087 * fractionRange) :
    (signed negative bits).isInfinite = false := by
  -- The sign is the bit above the field of the exponent, and does not reach into it.
  have hexponent : (signed negative bits).exponentField = bits / fractionRange := by
    unfold signed exponentField fractionRange at *
    cases negative
    · rw [if_neg Bool.false_ne_true, UInt64.toNat_ofNat_of_lt' (show _ < 2 ^ 64 by omega)]
      omega
    · rw [if_pos rfl, UInt64.toNat_ofNat_of_lt' (show _ < 2 ^ 64 by omega)]
      omega
  have : bits / fractionRange ≠ 2047 := by
    unfold fractionRange at *
    omega
  rw [isInfinite, hexponent, beq_eq_false_iff_ne.mpr this, Bool.false_and]

/-- An integer of 64 bits is not too large for a floating-point number. -/
theorem isInfinite_nearest {v : Int} (h : Integer.int64.contains v = true) :
    (nearest (v < 0) v.natAbs 1).isInfinite = false := by
  obtain ⟨hlow, hhigh⟩ : -0x8000000000000000 ≤ v ∧ v ≤ 0x7FFFFFFFFFFFFFFF :=
    Integer.Bounds.contains_iff.mp h
  unfold nearest
  apply isInfinite_signed
  split
  · exact Nat.zero_le _
  next hpos => exact nearestBits_one_le hpos (by omega)

end Tributary.Binary64
