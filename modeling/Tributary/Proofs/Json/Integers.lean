import Tributary.Json.Printer
import Tributary.Json.Reader
import Tributary.Proofs.Text.Utf8

/-!
# Integers are read as they are written

The digits of a natural number do not begin with a zero, unless it is zero, and their value is the
number. What may follow a value, the end of the text, a comma or a closing bracket, does not go on
with it.
-/

namespace Tributary.Json

open Text

/-- What may follow a value: nothing, a comma, or a bracket that closes. -/
inductive Closes : List UInt8 → Prop where
  | nothing : Closes []
  | comma (rest : List UInt8) : Closes (0x2C :: rest)
  | bracket (rest : List UInt8) : Closes (0x5D :: rest)
  | brace (rest : List UInt8) : Closes (0x7D :: rest)

/-! ## Digits -/

theorem spanDigits_of_closes {rest : List UInt8} (h : Closes rest) :
    spanDigits rest = ([], rest) := by
  cases h with
  | nothing => rfl
  | comma rest => rfl
  | bracket rest => rfl
  | brace rest => rfl

theorem spanDigits_digitChar {d : Nat} (hd : d < 10) (tail : List UInt8) :
    spanDigits (String.utf8EncodeChar (Nat.digitChar d) ++ tail) =
      (d :: (spanDigits tail).1, (spanDigits tail).2) := by
  have hascii : (Nat.digitChar d).toNat < 0x80 := by
    revert d
    decide
  have hdigit : byteDigit? (UInt8.ofNat (Nat.digitChar d).toNat) = some d := by
    revert d
    decide
  rw [Utf8.utf8EncodeChar_of_lt hascii, List.singleton_append, spanDigits, hdigit]

/-- Digits that are read from the text of a number. -/
structure DigitsOf (n : Nat) (ds : List Nat) : Prop where
  read : ∀ tail, spanDigits (utf8 (Nat.toDigits 10 n) ++ tail) =
    (ds ++ (spanDigits tail).1, (spanDigits tail).2)
  value : digitsValue ds = n
  /-- They do not begin with a zero, unless it is the only one. -/
  first : ∃ d more, ds = d :: more ∧ (d = 0 → n = 0 ∧ more = [])

theorem exists_digitsOf (n : Nat) : ∃ ds, DigitsOf n ds := by
  induction n using Nat.strongRecOn with
  | _ n ih =>
      by_cases hn : n < 10
      · refine ⟨[n], ?_, ?_, n, [], rfl, fun h => ⟨h, rfl⟩⟩
        · intro tail
          rw [Nat.toDigits_of_lt_base hn, utf8_cons, utf8_nil, List.append_nil]
          exact spanDigits_digitChar hn tail
        · exact Nat.zero_add n
      · obtain ⟨ds, hread, hvalue, d, more, rfl, hfirst⟩ := ih (n / 10) (by omega)
        have hdigit : n % 10 < 10 := Nat.mod_lt n (by decide)
        refine ⟨d :: more ++ [n % 10], ?_, ?_, d, more ++ [n % 10], rfl, ?_⟩
        · intro tail
          rw [Nat.toDigits_eq_if (by decide), if_neg hn, utf8_append, List.append_assoc, hread,
            utf8_cons, utf8_nil, List.append_nil, spanDigits_digitChar hdigit, List.append_assoc]
          rfl
        · unfold digitsValue at hvalue ⊢
          rw [List.foldl_append, hvalue]
          simp only [List.foldl_cons, List.foldl_nil]
          omega
        · intro hzero
          have := (hfirst hzero).1
          omega

/-! ## Numbers -/

theorem readFraction_of_closes {rest : List UInt8} (h : Closes rest) :
    readFraction rest = some ([], rest) := by
  cases h with
  | nothing => rfl
  | comma rest => rfl
  | bracket rest => rfl
  | brace rest => rfl

theorem readExponent_of_closes {rest : List UInt8} (h : Closes rest) :
    readExponent rest = some (none, rest) := by
  cases h with
  | nothing => rfl
  | comma rest => rfl
  | bracket rest => rfl
  | brace rest => rfl

/-- A number without a fraction and an exponent is an integer, unless it is a negative zero. -/
theorem readUnsigned_toDigits {negative : Bool} {n : Nat} (hzero : negative = true → n ≠ 0)
    {rest : List UInt8} (h : Closes rest) :
    readUnsigned negative (utf8 (Nat.toDigits 10 n) ++ rest) =
      some (.integer (if negative then -(n : Int) else n), rest) := by
  obtain ⟨ds, hread, hvalue, d, more, rfl, hfirst⟩ := exists_digitsOf n
  have hspan : spanDigits (utf8 (Nat.toDigits 10 n) ++ rest) = (d :: more, rest) := by
    rw [hread, spanDigits_of_closes h, List.append_nil]
  have hplus : (!(negative && n == 0)) = true := by
    cases negative with
    | false => rfl
    | true => simpa using hzero rfl
  unfold readUnsigned
  rw [hspan]
  dsimp only
  split
  next hnil => cases hnil
  next hleading =>
    cases hleading
    cases (hfirst rfl).2
  next =>
    rw [readFraction_of_closes h]
    simp [readExponent_of_closes h, hvalue, hplus]

end Tributary.Json
