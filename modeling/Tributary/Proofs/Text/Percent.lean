import Mathlib.Data.List.Basic
import Tributary.Proofs.Text.Utf8
import Tributary.Text.Percent

/-!
# Percent-encoding is read as it is written

Decoding finds the bytes of a text that has been percent-encoded, whichever characters were kept as
they are, as long as the percent sign is not among them. Encoding a text again that consists of
kept characters only changes nothing.
-/

namespace Tributary.Text

open Utf8

/-! ## Bytes -/

theorem ofNibbles_nibbles (b : UInt8) : ofNibbles (nibbles b).1 (nibbles b).2 = b := by
  have hb := b.toNat_lt
  have hvalue : 16 * (b.toNat / 16 % 16) + b.toNat % 16 = b.toNat := by omega
  show UInt8.ofNat (16 * (b.toNat / 16 % 16) + b.toNat % 16) = b
  rw [hvalue, UInt8.ofNat_toNat]

theorem hexByte?_upperHexChar (high low : Fin 16) :
    hexByte? (UInt8.ofNat (upperHexChar high).toNat) (UInt8.ofNat (upperHexChar low).toNat) =
      some (ofNibbles high low) := by
  have hdigit (d : Fin 16) :
      hexDigit? (Char.ofNat (UInt8.ofNat (upperHexChar d).toNat).toNat) = some d := by
    revert d
    decide
  unfold hexByte?
  rw [hdigit, hdigit]
  rfl

theorem upperHexChar_lt (d : Fin 16) : (upperHexChar d).toNat < 0x80 := by
  revert d
  decide

theorem utf8_ascii {c : Char} (h : c.toNat < 0x80) (cs : List Char) :
    utf8 (c :: cs) = UInt8.ofNat c.toNat :: utf8 cs := by
  rw [utf8_cons, utf8EncodeChar_of_lt h, List.singleton_append]

theorem percentDecodeBytes_cons {b : UInt8} (hb : b ≠ 0x25) (bs : List UInt8) :
    percentDecodeBytes (b :: bs) = b :: percentDecodeBytes bs := by
  rw [percentDecodeBytes]
  intro a b' rest h
  exact absurd h hb

/-- An encoded byte is found again. -/
theorem percentDecodeBytes_percentByte (b : UInt8) (cs : List Char) :
    percentDecodeBytes (utf8 (percentByte b ++ cs)) = b :: percentDecodeBytes (utf8 cs) := by
  show percentDecodeBytes (utf8 ('%' :: upperHexChar (nibbles b).1 ::
    upperHexChar (nibbles b).2 :: cs)) = _
  rw [utf8_ascii (by decide), utf8_ascii (upperHexChar_lt _), utf8_ascii (upperHexChar_lt _)]
  show percentDecodeBytes (0x25 :: _ :: _ :: _) = _
  rw [percentDecodeBytes, hexByte?_upperHexChar, ofNibbles_nibbles]

theorem percentDecodeBytes_flatMap (bs : List UInt8) (cs : List Char) :
    percentDecodeBytes (utf8 (bs.flatMap percentByte ++ cs)) =
      bs ++ percentDecodeBytes (utf8 cs) := by
  induction bs with
  | nil => rfl
  | cons b bs ih =>
      rw [List.flatMap_cons, List.append_assoc, percentDecodeBytes_percentByte, ih,
        List.cons_append]

/-- Characters other than the percent sign stand for their own bytes. -/
theorem percentDecodeBytes_char {c : Char} (hc : c ≠ '%') (cs : List Char) :
    percentDecodeBytes (utf8 (c :: cs)) =
      String.utf8EncodeChar c ++ percentDecodeBytes (utf8 cs) := by
  have hbytes : ∀ b ∈ String.utf8EncodeChar c, b ≠ 0x25 := by
    intro b hb hpercent
    by_cases hascii : c.toNat < 0x80
    · rw [utf8EncodeChar_of_lt hascii, List.mem_singleton] at hb
      have hval : c.toNat = 0x25 := by
        rw [← toNat_byte (n := c.toNat) (by omega), ← hb, hpercent]
        rfl
      exact hc (Char.toNat_inj.mp hval)
    · have hle := le_of_mem_utf8EncodeChar (Nat.not_lt.mp hascii) hb
      rw [hpercent] at hle
      exact absurd hle (by decide)
  rw [utf8_cons]
  generalize String.utf8EncodeChar c = bytes at hbytes
  induction bytes with
  | nil => rfl
  | cons b bs ih =>
      obtain ⟨hb, hbs⟩ := List.forall_mem_cons.mp hbytes
      rw [List.cons_append, percentDecodeBytes_cons hb, ih hbs, List.cons_append]

/-! ## Texts -/

/-- What is decided for each character of a text holds of all of them. -/
theorem forall_mem_of_all {P : Char → Prop} [DecidablePred P] {cs : List Char}
    (h : (cs.all fun c => decide (P c)) = true) : ∀ c ∈ cs, P c :=
  fun c hc => of_decide_eq_true (List.all_eq_true.mp h c hc)

variable {keep : Char → Bool}

theorem percentEncode_cons (c : Char) (cs : List Char) :
    percentEncode keep (c :: cs) = percentChar keep c ++ percentEncode keep cs :=
  List.flatMap_cons

theorem percentChar_ne_nil (c : Char) : percentChar keep c ≠ [] := by
  unfold percentChar
  split
  · exact List.cons_ne_nil c []
  · intro h
    have hlength := Char.utf8Size_pos c
    rw [← String.length_utf8EncodeChar] at hlength
    obtain ⟨b, bs, hbytes⟩ := List.exists_cons_of_ne_nil (List.length_pos_iff.mp hlength)
    rw [hbytes] at h
    cases h

theorem percentEncode_ne_nil {cs : List Char} (h : cs ≠ []) : percentEncode keep cs ≠ [] := by
  obtain ⟨c, cs, rfl⟩ := List.exists_cons_of_ne_nil h
  exact List.append_ne_nil_of_left_ne_nil (percentChar_ne_nil c) _

/-- Decoding finds the bytes of the text that was encoded. -/
theorem percentDecode_percentEncode (hkeep : keep '%' = false) (cs : List Char) :
    percentDecode (percentEncode keep cs) = utf8 cs := by
  unfold percentDecode
  induction cs with
  | nil => rfl
  | cons c cs ih =>
      rw [percentEncode_cons, utf8_cons, ← ih]
      unfold percentChar
      split
      next h =>
        have hc : c ≠ '%' := by
          rintro rfl
          rw [hkeep, Bool.and_false] at h
          cases h
        exact percentDecodeBytes_char hc _
      next => exact percentDecodeBytes_flatMap _ _

/-- A text without percent signs stands for itself. -/
theorem percentDecode_of_not_mem {cs : List Char} (h : '%' ∉ cs) : percentDecode cs = utf8 cs := by
  unfold percentDecode
  induction cs with
  | nil => rfl
  | cons c cs ih =>
      rw [List.mem_cons, not_or] at h
      rw [percentDecodeBytes_char (Ne.symm h.1), ih h.2, utf8_cons]

/-- What the percent sign and the digits have, and the character if it is kept, the characters that
it is written with have. -/
theorem forall_mem_percentChar {P : Char → Prop} {c : Char}
    (hkept : c.toNat < 0x80 → keep c = true → P c) (hpercent : P '%')
    (hdigit : ∀ d, P (upperHexChar d)) : ∀ d ∈ percentChar keep c, P d := by
  intro d hd
  unfold percentChar at hd
  split at hd
  next h =>
    rw [List.mem_singleton] at hd
    rw [Bool.and_eq_true, decide_eq_true_eq] at h
    exact hd ▸ hkept h.1 h.2
  next =>
    obtain ⟨b, -, hd⟩ := List.mem_flatMap.mp hd
    unfold percentByte at hd
    simp only [List.mem_cons, List.not_mem_nil, or_false] at hd
    rcases hd with rfl | rfl | rfl
    · exact hpercent
    · exact hdigit _
    · exact hdigit _

theorem forall_mem_percentEncode {P : Char → Prop} {cs : List Char}
    (hkept : ∀ c ∈ cs, c.toNat < 0x80 → keep c = true → P c) (hpercent : P '%')
    (hdigit : ∀ d, P (upperHexChar d)) : ∀ c ∈ percentEncode keep cs, P c := by
  intro c hc
  obtain ⟨d, hd, hc⟩ := List.mem_flatMap.mp hc
  exact forall_mem_percentChar (hkept d hd) hpercent hdigit c hc

/-- The characters that encoding leaves as they are. -/
def isKept (keep : Char → Bool) (c : Char) : Bool := c.toNat < 0x80 && keep c

theorem percentEncode_of_forall {cs : List Char} (h : ∀ c ∈ cs, isKept keep c = true) :
    percentEncode keep cs = cs := by
  induction cs with
  | nil => rfl
  | cons c cs ih =>
      obtain ⟨hc, hcs⟩ := List.forall_mem_cons.mp h
      unfold isKept at hc
      rw [percentEncode_cons, ih hcs, percentChar, if_pos hc, List.singleton_append]

/-- The characters of an encoded text are kept when it is encoded again. -/
theorem isKept_of_mem_percentEncode (hpercent : keep '%' = true)
    (hdigit : ∀ d, keep (upperHexChar d) = true) {cs : List Char} :
    ∀ c ∈ percentEncode keep cs, isKept keep c = true := by
  have hkept {c : Char} (hc : c.toNat < 0x80) (h : keep c = true) : isKept keep c = true := by
    rw [isKept, Bool.and_eq_true]
    exact ⟨decide_eq_true hc, h⟩
  exact forall_mem_percentEncode (fun c _ hc h => hkept hc h) (hkept (by decide) hpercent)
    fun d => hkept (upperHexChar_lt d) (hdigit d)

/-- What unreserved characters and the percent sign have, the characters of a text have that is
encoded to stand for itself in a URL. -/
theorem forall_mem_component {P : Char → Prop}
    (h : ∀ n : Fin 0x80, isUnreserved (Char.ofNat n) = true → P (Char.ofNat n))
    (hpercent : P '%') (cs : List Char) : ∀ c ∈ percentEncode isUnreserved cs, P c := by
  have hascii {c : Char} (hc : c.toNat < 0x80) (hkept : isUnreserved c = true) : P c := by
    have hP := h ⟨c.toNat, hc⟩
    rw [Char.ofNat_toNat] at hP
    exact hP hkept
  refine forall_mem_percentEncode (fun c _ hc hkept => hascii hc hkept) hpercent fun d => ?_
  have hdigit : ∀ d, isUnreserved (upperHexChar d) = true := by decide
  exact hascii (upperHexChar_lt d) (hdigit d)

end Tributary.Text
