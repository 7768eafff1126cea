import Tributary.Json.Printer
import Tributary.Json.Reader
import Tributary.Proofs.Text.Utf8

/-!
# Strings are read as they are written

A written string is read part by part: each character comes back as bytes of its own or as one code
unit that is no surrogate, and either way as the bytes of the character.
-/

namespace Tributary.Json

open Text

/-! ## Parts -/

theorem readParts_byte {b : UInt8} {tail rest : List UInt8} {parts : List StringPart}
    (hspace : 0x20 ≤ b.toNat) (hquote : b ≠ 0x22) (hslash : b ≠ 0x5C)
    (hread : readParts tail = some (parts, rest)) :
    readParts (b :: tail) = some (.byte b :: parts, rest) := by
  have hnot : ¬ b < 0x20 := by
    rw [UInt8.lt_iff_toNat_lt]
    exact Nat.not_lt.mpr hspace
  rw [readParts, if_neg hnot, hread]
  · rfl
  · exact hquote
  · exact fun _ _ _ _ _ h _ => hslash h
  · exact fun _ _ h _ => hslash h

theorem readParts_escaped {e b : UInt8} {tail rest : List UInt8} {parts : List StringPart}
    (he : escaped? e = some b) (hread : readParts tail = some (parts, rest)) :
    readParts (0x5C :: e :: tail) = some (.byte b :: parts, rest) := by
  rw [readParts, he, hread]
  · rfl
  · rintro a b' c d tail' rfl -
    cases he

theorem readParts_unit {a b c d : UInt8} {n : Nat} {tail rest : List UInt8}
    {parts : List StringPart} (hunit : codeUnit? a b c d = some n)
    (hread : readParts tail = some (parts, rest)) :
    readParts (0x5C :: 0x75 :: a :: b :: c :: d :: tail) = some (.unit n :: parts, rest) := by
  rw [readParts, hunit, hread]
  rfl

theorem joinParts_byte {b : UInt8} {parts : List StringPart} {bytes : List UInt8}
    (h : joinParts parts = some bytes) : joinParts (.byte b :: parts) = some (b :: bytes) := by
  rw [joinParts, h]
  rfl

theorem joinParts_unit {n : Nat} {parts : List StringPart} {bytes : List UInt8} (hn : n < 0xD800)
    (h : joinParts parts = some bytes) :
    joinParts (.unit n :: parts) = some (String.utf8EncodeChar (Char.ofNat n) ++ bytes) := by
  unfold joinParts
  rw [if_neg (by omega), if_neg (by omega), h]
  rfl

/-! ## Characters -/

/-- Bytes are read as parts of a string that stand for a character, whatever follows. -/
def Spells (bytes : List UInt8) (c : Char) : Prop :=
  ∀ (tail rest : List UInt8) (more : List StringPart) (text : List UInt8),
    readParts tail = some (more, rest) → joinParts more = some text →
    ∃ parts, readParts (bytes ++ tail) = some (parts, rest) ∧
      joinParts parts = some (String.utf8EncodeChar c ++ text)

/-- Bytes that need no escape stand for themselves. -/
theorem readParts_bytes {bytes : List UInt8}
    (h : ∀ b ∈ bytes, 0x20 ≤ b.toNat ∧ b ≠ 0x22 ∧ b ≠ 0x5C) {tail rest : List UInt8}
    {more : List StringPart} {text : List UInt8} (hread : readParts tail = some (more, rest))
    (hjoin : joinParts more = some text) :
    ∃ parts, readParts (bytes ++ tail) = some (parts, rest) ∧
      joinParts parts = some (bytes ++ text) := by
  induction bytes with
  | nil => exact ⟨more, hread, hjoin⟩
  | cons b bytes ih =>
      obtain ⟨hspace, hquote, hslash⟩ := h b List.mem_cons_self
      obtain ⟨parts, hparts, htext⟩ := ih fun b' hb' => h b' (List.mem_cons_of_mem b hb')
      exact ⟨.byte b :: parts, readParts_byte hspace hquote hslash hparts, joinParts_byte htext⟩

theorem spells_escaped {e b : UInt8} {c : Char} (he : escaped? e = some b)
    (hc : String.utf8EncodeChar c = [b]) : Spells [0x5C, e] c := by
  intro tail rest more text hread hjoin
  refine ⟨.byte b :: more, readParts_escaped he hread, ?_⟩
  rw [hc]
  exact joinParts_byte hjoin

/-- The byte of a hexadecimal digit. -/
def hexByte (d : Fin 16) : UInt8 := UInt8.ofNat (hexChar d).toNat

theorem utf8_hexChar (d : Fin 16) : String.utf8EncodeChar (hexChar d) = [hexByte d] :=
  Utf8.utf8EncodeChar_of_lt (by revert d; decide)

theorem codeUnit?_hexByte (a b c d : Fin 16) :
    codeUnit? (hexByte a) (hexByte b) (hexByte c) (hexByte d) =
      some (4096 * a.val + 256 * b.val + 16 * c.val + d.val) := by
  have hdigit (x : Fin 16) : hexDigit? (Char.ofNat (hexByte x).toNat) = some x := by
    revert x
    decide
  unfold codeUnit?
  simp only [hdigit]
  rfl

/-- A control character is written as a code unit. -/
theorem spells_control {c : Char} (hc : c.toNat < 0x20) :
    Spells
      (utf8
        ['\\', 'u', '0', '0', hexChar (hexValue (c.toNat / 16)), hexChar (hexValue c.toNat)])
      c := by
  intro tail rest more text hread hjoin
  have hunit : codeUnit? (hexByte 0) (hexByte 0) (hexByte (hexValue (c.toNat / 16)))
      (hexByte (hexValue c.toNat)) = some c.toNat := by
    rw [codeUnit?_hexByte]
    simp only [hexValue, Option.some.injEq]
    show 4096 * 0 + 256 * 0 + 16 * (c.toNat / 16 % 16) + c.toNat % 16 = c.toNat
    omega
  refine ⟨.unit c.toNat :: more, ?_, ?_⟩
  · simp only [utf8_cons, utf8_nil, utf8_hexChar]
    exact readParts_unit hunit hread
  · rw [joinParts_unit (by omega) hjoin, Char.ofNat_toNat]

theorem spells_plain {c : Char} (hspace : 0x20 ≤ c.toNat) (hquote : c ≠ '"') (hslash : c ≠ '\\') :
    Spells (String.utf8EncodeChar c) c := by
  intro tail rest more text hread hjoin
  refine readParts_bytes ?_ hread hjoin
  intro b hb
  by_cases hascii : c.toNat < 0x80
  · rw [Utf8.utf8EncodeChar_of_lt hascii, List.mem_singleton] at hb
    have hbyte : b.toNat = c.toNat := by rw [hb, Utf8.toNat_byte (by omega)]
    refine ⟨by omega, ?_, ?_⟩
    · rintro rfl
      exact hquote (Char.toNat_inj.mp hbyte.symm)
    · rintro rfl
      exact hslash (Char.toNat_inj.mp hbyte.symm)
  · have hle := Utf8.le_of_mem_utf8EncodeChar (Nat.not_lt.mp hascii) hb
    refine ⟨by omega, ?_, ?_⟩
    · rintro rfl
      exact absurd hle (by decide)
    · rintro rfl
      exact absurd hle (by decide)

/-- However a string holds a character, it is read as that character. -/
theorem spells_escapeChar (c : Char) : Spells (utf8 (escapeChar c)) c := by
  have hshort {e d : Char}
      (he : escaped? (UInt8.ofNat e.toNat) = some (UInt8.ofNat d.toNat))
      (hascii : e.toNat < 0x80 ∧ d.toNat < 0x80) (hc : c = d) : Spells (utf8 ['\\', e]) c := by
    rw [hc, utf8_cons, utf8_cons, utf8_nil, Utf8.utf8EncodeChar_of_lt hascii.1, List.append_nil]
    exact spells_escaped he (Utf8.utf8EncodeChar_of_lt hascii.2)
  unfold escapeChar
  split
  next hc => exact hshort rfl (by decide) hc
  split
  next hc => exact hshort rfl (by decide) hc
  split
  next hc => exact hshort rfl (by decide) hc
  split
  next hc => exact hshort rfl (by decide) hc
  split
  next hc => exact hshort rfl (by decide) hc
  split
  next hc => exact hshort rfl (by decide) hc
  split
  next hc => exact hshort rfl (by decide) hc
  split
  next hcontrol => exact spells_control hcontrol
  next hquote hslash _ _ _ _ _ hspace =>
    rw [utf8_cons, utf8_nil, List.append_nil]
    exact spells_plain (Nat.not_lt.mp hspace) hquote hslash

/-! ## Strings -/

theorem readParts_escaped_chars (cs : List Char) (rest : List UInt8) :
    ∃ parts, readParts (utf8 (cs.flatMap escapeChar) ++ 0x22 :: rest) = some (parts, rest) ∧
      joinParts parts = some (utf8 cs) := by
  induction cs with
  | nil => exact ⟨[], rfl, rfl⟩
  | cons c cs ih =>
      obtain ⟨parts, hread, hjoin⟩ := ih
      obtain ⟨parts', hread', hjoin'⟩ := spells_escapeChar c _ _ _ _ hread hjoin
      refine ⟨parts', ?_, hjoin'⟩
      rw [List.flatMap_cons, utf8_append, List.append_assoc]
      exact hread'

/-- A written string is read as it was, whatever follows it. -/
theorem readString_writeString (s : String) (rest : List UInt8) :
    ∃ bytes, utf8 (writeString s) ++ rest = 0x22 :: bytes ∧
      readString bytes = some (some s, rest) := by
  obtain ⟨parts, hread, hjoin⟩ := readParts_escaped_chars s.toList rest
  refine ⟨utf8 (s.toList.flatMap escapeChar) ++ 0x22 :: rest, ?_, ?_⟩
  · unfold writeString
    rw [List.cons_append, utf8_cons, utf8_append, List.append_assoc, List.append_assoc]
    rfl
  · unfold readString partsText?
    rw [hread]
    simp [hjoin, Utf8.decode?_utf8]

end Tributary.Json
