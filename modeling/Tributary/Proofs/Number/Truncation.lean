import Mathlib.Data.List.Induction
import Mathlib.Data.Nat.Digits.Defs
import Mathlib.Data.Rat.Floor
import Mathlib.Tactic.FieldSimp
import Tributary.Proofs.Number.Numeral

/-!
# Truncation

The number that a decimal stands for is a rational, and dropping its fraction rounds towards zero.
`Decimal.truncate?` never computes that rational. It moves the point along the digits, and gives up
early where the result is known to be too large; this module proves that it finds the truncated
rational whenever that is a signed word, however many digits there are and whatever the exponent.
-/

namespace Tributary

/-- The integer next to a rational on the side of zero. -/
def towardZero (q : ℚ) : ℤ :=
  if 0 ≤ q then ⌊q⌋ else ⌈q⌉

theorem towardZero_natCast_div (m n : Nat) : towardZero ((m : ℚ) / n) = (m / n : Nat) := by
  have hnonneg : (0 : ℚ) ≤ (m : ℚ) / n := by positivity
  rw [towardZero, if_pos hnonneg, Rat.floor_natCast_div_natCast]
  rfl

theorem towardZero_neg (q : ℚ) : towardZero (-q) = -towardZero q := by
  unfold towardZero
  rcases lt_trichotomy q 0 with hneg | rfl | hpos
  · rw [if_pos (by linarith), if_neg (by linarith), Int.floor_neg]
  · simp
  · rw [if_neg (by linarith), if_pos (by linarith), Int.ceil_neg]

/-! ## Digits -/

theorem digitsValue_eq_ofDigits (ds : List Nat) : digitsValue ds = Nat.ofDigits 10 ds.reverse := by
  induction ds using List.reverseRecOn with
  | nil => rfl
  | append_singleton ds d ih =>
      rw [List.reverse_append, List.reverse_singleton, List.singleton_append, Nat.ofDigits_cons,
        ← ih]
      unfold digitsValue
      rw [List.foldl_append]
      show 10 * _ + d = d + 10 * _
      omega

theorem digitsValue_append (ds es : List Nat) :
    digitsValue (ds ++ es) = digitsValue ds * 10 ^ es.length + digitsValue es := by
  rw [digitsValue_eq_ofDigits, digitsValue_eq_ofDigits, digitsValue_eq_ofDigits,
    List.reverse_append, Nat.ofDigits_append, List.length_reverse]
  ring

/-- Leaving out the last digits divides by a power of ten. -/
theorem digitsValue_take {ds : List Nat} (h : ∀ d ∈ ds, d < 10) (k : Nat) :
    digitsValue (ds.take (ds.length - k)) = digitsValue ds / 10 ^ k := by
  have hreverse : ∀ d ∈ ds.reverse, d < 10 := fun d hd => h d (List.mem_reverse.mp hd)
  have hdrop : (ds.take (ds.length - k)).reverse = ds.reverse.drop k := by
    rw [List.drop_reverse]
  rw [digitsValue_eq_ofDigits, digitsValue_eq_ofDigits, hdrop,
    Nat.ofDigits_div_pow_eq_ofDigits_drop k (by decide) _ hreverse]

namespace Decimal

/-- The number that a decimal stands for. -/
def value (d : Decimal) : ℚ :=
  (if d.negative then -1 else 1) *
    (digitsValue d.integral + digitsValue d.fraction / 10 ^ d.fraction.length) * 10 ^ d.exponent

/-- The absolute value of a decimal, without its fraction. -/
def whole (d : Decimal) : Nat :=
  if 0 ≤ d.scale then digitsValue d.digits * 10 ^ d.scale.toNat
  else digitsValue d.digits / 10 ^ (-d.scale).toNat

/-- The point may as well stand behind the last digit. -/
theorem value_eq (d : Decimal) :
    d.value = (if d.negative then -1 else 1) * (digitsValue d.digits * (10 : ℚ) ^ d.scale) := by
  have hten : (10 : ℚ) ≠ 0 := by norm_num
  unfold value digits scale
  rw [digitsValue_append, zpow_sub₀ hten, zpow_natCast]
  push_cast
  field_simp

theorem towardZero_shift (d : Decimal) :
    towardZero (digitsValue d.digits * (10 : ℚ) ^ d.scale) = d.whole := by
  unfold whole
  by_cases hscale : 0 ≤ d.scale
  · obtain ⟨n, hn⟩ := Int.eq_ofNat_of_zero_le hscale
    have hleft : (digitsValue d.digits : ℚ) * 10 ^ d.scale =
        ((digitsValue d.digits * 10 ^ n : Nat) : ℚ) / (1 : Nat) := by
      rw [hn, zpow_natCast]
      push_cast
      ring
    rw [if_pos hscale, hleft, towardZero_natCast_div, Nat.div_one, hn, Int.toNat_natCast]
  · obtain ⟨n, hn⟩ := Int.eq_ofNat_of_zero_le (show 0 ≤ -d.scale by omega)
    have hright : (digitsValue d.digits : ℚ) * 10 ^ d.scale =
        (digitsValue d.digits : ℚ) / (10 ^ n : Nat) := by
      rw [← neg_neg d.scale, hn, zpow_neg, zpow_natCast]
      push_cast
      rfl
    rw [if_neg hscale, hright, towardZero_natCast_div, hn, Int.toNat_natCast]

theorem towardZero_value (d : Decimal) :
    towardZero d.value = if d.negative then -(d.whole : ℤ) else d.whole := by
  rw [value_eq]
  cases d.negative with
  | false => rw [if_neg Bool.false_ne_true, if_neg Bool.false_ne_true, one_mul, towardZero_shift]
  | true => rw [if_pos rfl, if_pos rfl, neg_one_mul, towardZero_neg, towardZero_shift]

/-- The digits are moved only where the result may fit, and then as far as they have to be. -/
theorem magnitude?_eq {d : Decimal} (h : ∀ x ∈ d.digits, x < 10) :
    d.magnitude? = if d.whole < 10000000000000000000 then some d.whole else none := by
  unfold magnitude?
  by_cases hzero : digitsValue d.digits = 0
  · have hwhole : d.whole = 0 := by
      unfold whole
      rw [hzero]
      simp
    rw [if_pos hzero, hwhole]
    rfl
  · rw [if_neg hzero]
    by_cases hlarge : 19 < d.scale
    · have hwhole : 10000000000000000000 ≤ d.whole := by
        unfold whole
        rw [if_pos (by omega)]
        calc 10000000000000000000 = 1 * 10 ^ 19 := by norm_num
          _ ≤ digitsValue d.digits * 10 ^ d.scale.toNat :=
              Nat.mul_le_mul (Nat.pos_of_ne_zero hzero)
                (Nat.pow_le_pow_right (by decide) (by omega))
      rw [if_pos hlarge, if_neg (Nat.not_lt.mpr hwhole)]
    · have hwhole : (if 0 ≤ d.scale then digitsValue d.digits * Nat.pow 10 d.scale.toNat
          else digitsValue (d.digits.take (d.digits.length - (-d.scale).toNat))) = d.whole := by
        rw [digitsValue_take h]
        rfl
      rw [if_neg hlarge]
      dsimp only
      rw [hwhole]

/-- A decimal without its fraction is its number rounded towards zero, if that fits. -/
theorem truncate?_eq {d : Decimal} (h : ∀ x ∈ d.digits, x < 10) :
    d.truncate? =
      if Integer.int64.contains (towardZero d.value) then some (towardZero d.value) else none := by
  unfold truncate?
  rw [magnitude?_eq h, towardZero_value]
  by_cases hwhole : d.whole < 10000000000000000000
  · rw [if_pos hwhole]
  · have hout :
        ¬ Integer.int64.contains (if d.negative then -(d.whole : ℤ) else d.whole) = true := by
      rw [Integer.Bounds.contains_iff]
      dsimp only [Integer.int64]
      split <;> omega
    rw [if_neg hwhole, if_neg hout]

end Decimal

/-! ## Cells of big integers -/

namespace Numeral

theorem lt_ten_of_mem_digits {n : Numeral} : ∀ x ∈ n.decimal.digits, x < 10 := by
  intro x hx
  rcases List.mem_append.mp hx with hx | hx
  all_goals
    obtain ⟨d, -, rfl⟩ := List.mem_map.mp hx
    exact d.isLt

end Numeral

/-- A streamed big integer is the number that the cell writes, rounded towards zero, wherever that
is a signed word, and an overflow wherever it is not. A cell that is no numeral, or whose exponent
is no signed word, is invalid. -/
theorem Value.decode_bigInt_streamed {declared : String}
    (hdeclared : Family.of? declared = some .bigInt) (raw : String) :
    (∀ n : Numeral, Text.trim raw.toList = n.text → Integer.int64.contains n.scale = true →
        decode (some raw) declared .streamed =
          if Integer.int64.contains (towardZero n.decimal.value) then
            .ok (.int64 (towardZero n.decimal.value))
          else .error (.numericOverflow raw)) ∧
      ((∀ n : Numeral, Text.trim raw.toList = n.text → ¬ Integer.int64.contains n.scale = true) →
        ∃ fault : Decimal.Fault,
          decode (some raw) declared .streamed = .error (invalid declared raw fault.message)) := by
  have hdecode : decode (some raw) declared .streamed = readDecimal declared raw := by
    unfold decode
    dsimp only
    rw [hdeclared]
    rfl
  rw [hdecode]
  unfold readDecimal
  constructor
  · intro n htext hscale
    rw [htext, n.read_text, if_pos hscale]
    dsimp only
    rw [Decimal.truncate?_eq n.lt_ten_of_mem_digits]
    by_cases hfits : Integer.int64.contains (towardZero n.decimal.value) = true
    · rw [if_pos hfits, if_pos hfits]
    · rw [if_neg hfits, if_neg hfits]
  · intro hnone
    cases hread : Decimal.read (Text.trim raw.toList) with
    | error fault => exact ⟨fault, rfl⟩
    | ok d =>
        obtain ⟨n, htext, hscale⟩ := Numeral.exists_of_read hread
        exact absurd hscale (hnone n htext)

/-- Five tenths above the least word are dropped towards zero, and the word below it is an
overflow. -/
theorem Value.decode_bigInt_least_word :
    decode (some " -922337203685477580.85e1 ") "BIGINT" .streamed =
        .ok (.int64 (-9223372036854775808)) ∧
      decode (some "-9223372036854775809") "BIGINT" .streamed =
        .error (.numericOverflow "-9223372036854775809") := by
  have hdeclared : Family.of? "BIGINT" = some .bigInt := by decide
  let least : Numeral :=
    ⟨some .minus, [9, 2, 2, 3, 3, 7, 2, 0, 3, 6, 8, 5, 4, 7, 7, 5, 8, 0], some [8, 5],
      some ⟨false, none, [1], by decide⟩, by decide⟩
  let below : Numeral :=
    ⟨some .minus, [9, 2, 2, 3, 3, 7, 2, 0, 3, 6, 8, 5, 4, 7, 7, 5, 8, 0, 9], none, none, by decide⟩
  have hleast : towardZero least.decimal.value = -9223372036854775808 := by
    rw [Decimal.towardZero_value]
    decide +kernel
  have hbelow : towardZero below.decimal.value = -9223372036854775809 := by
    rw [Decimal.towardZero_value]
    decide +kernel
  have hfits := (decode_bigInt_streamed hdeclared " -922337203685477580.85e1 ").1 least
    (by decide +kernel) (by decide)
  have hover := (decode_bigInt_streamed hdeclared "-9223372036854775809").1 below
    (by decide +kernel) (by decide)
  rw [hleast, if_pos (by decide)] at hfits
  rw [hbelow, if_neg (by decide)] at hover
  exact ⟨hfits, hover⟩

end Tributary
