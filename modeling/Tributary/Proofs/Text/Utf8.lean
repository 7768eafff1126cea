import Tributary.Text.Utf8

/-!
# UTF-8 is read as it is written

The bytes of a character are a piece of their own, whatever follows them, so the bytes of a text are
read as that text.
-/

namespace Tributary.Text.Utf8

theorem toNat_byte {n : Nat} (h : n < 256) : (UInt8.ofNat n).toNat = n :=
  UInt8.toNat_ofNat_of_lt' h

/-! ## First bytes -/

theorem lead_one {v : Nat} (h : v < 0x80) :
    lead (UInt8.ofNat v) = .error (.character (Char.ofNat v)) := by
  unfold lead
  rw [toNat_byte (by omega)]
  exact if_pos h

theorem lead_two {a : Nat} (hlow : 2 ≤ a) (hhigh : a < 32) :
    lead (UInt8.ofNat (a + 0xC0)) = .ok ⟨a, 1, 1, 0x80, 0xBF⟩ := by
  unfold lead
  rw [toNat_byte (by omega)]
  dsimp only
  rw [if_neg (by omega), if_neg (by omega), if_pos (by omega), Nat.add_sub_cancel]

/-- The second of three bytes lies where the first one wants it, unless the character is a
surrogate. -/
theorem lead_three {a b : Nat} (ha : a < 16) (hb : b < 64) (hlong : a = 0 → 32 ≤ b)
    (hsurrogate : a = 13 → b < 32) :
    ∃ low high, lead (UInt8.ofNat (a + 0xE0)) = .ok ⟨a, 1, 2, low, high⟩ ∧
      low ≤ b + 0x80 ∧ b + 0x80 ≤ high := by
  unfold lead
  rw [toNat_byte (by omega)]
  dsimp only
  rw [if_neg (by omega), if_neg (by omega), if_neg (by omega)]
  by_cases hzero : a = 0
  · subst hzero
    have := hlong rfl
    exact ⟨0xA0, 0xBF, rfl, by omega, by omega⟩
  rw [if_neg (by omega)]
  by_cases hmiddle : a = 13
  · subst hmiddle
    have := hsurrogate rfl
    exact ⟨0x80, 0x9F, rfl, by omega, by omega⟩
  rw [if_neg (by omega), if_pos (by omega), Nat.add_sub_cancel]
  exact ⟨0x80, 0xBF, rfl, by omega, by omega⟩

/-- The second of four bytes lies where the first one wants it, as long as there are characters. -/
theorem lead_four {a b : Nat} (ha : a ≤ 4) (hb : b < 64) (hlong : a = 0 → 16 ≤ b)
    (hlast : a = 4 → b < 16) :
    ∃ low high, lead (UInt8.ofNat (a + 0xF0)) = .ok ⟨a, 1, 3, low, high⟩ ∧
      low ≤ b + 0x80 ∧ b + 0x80 ≤ high := by
  unfold lead
  rw [toNat_byte (by omega)]
  dsimp only
  rw [if_neg (by omega), if_neg (by omega), if_neg (by omega), if_neg (by omega),
    if_neg (by omega), if_neg (by omega)]
  by_cases hzero : a = 0
  · subst hzero
    have := hlong rfl
    exact ⟨0x90, 0xBF, rfl, by omega, by omega⟩
  rw [if_neg (by omega)]
  by_cases hmost : a = 4
  · subst hmost
    have := hlast rfl
    exact ⟨0x80, 0x8F, rfl, by omega, by omega⟩
  rw [if_pos (by omega), Nat.add_sub_cancel]
  exact ⟨0x80, 0xBF, rfl, by omega, by omega⟩

/-! ## Further bytes -/

theorem pieces_of_lead {byte : UInt8} {p : Pending} (h : lead byte = .ok p) (bs : List UInt8) :
    pieces none (byte :: bs) = pieces (some p) bs := by
  rw [pieces, h]

theorem pieces_more {bits taken owed low high b : Nat} (hlow : low ≤ b + 0x80)
    (hhigh : b + 0x80 ≤ high) (hb : b < 64) (howed : owed ≠ 0) (bs : List UInt8) :
    pieces (some ⟨bits, taken, owed + 1, low, high⟩) (UInt8.ofNat (b + 0x80) :: bs) =
      pieces (some ⟨64 * bits + b, taken + 1, owed, 0x80, 0xBF⟩) bs := by
  have hbits : (b + 0x80) % 64 = b := by omega
  rw [pieces, toNat_byte (by omega), if_pos ⟨hlow, hhigh⟩]
  dsimp only
  rw [if_neg (by omega), hbits, Nat.add_sub_cancel]

theorem pieces_last {bits taken low high b : Nat} (hlow : low ≤ b + 0x80)
    (hhigh : b + 0x80 ≤ high) (hb : b < 64) (bs : List UInt8) :
    pieces (some ⟨bits, taken, 1, low, high⟩) (UInt8.ofNat (b + 0x80) :: bs) =
      .character (Char.ofNat (64 * bits + b)) :: pieces none bs := by
  have hbits : (b + 0x80) % 64 = b := by omega
  rw [pieces, toNat_byte (by omega), if_pos ⟨hlow, hhigh⟩]
  dsimp only
  rw [if_pos rfl, hbits]

/-! ## Characters -/

/-- The bytes of a character are a piece of their own. -/
theorem pieces_char (c : Char) (bs : List UInt8) :
    pieces none (String.utf8EncodeChar c ++ bs) = .character c :: pieces none bs := by
  have hvalid := c.valid
  have hval : c.val.toNat = c.toNat := rfl
  have hchar : Char.ofNat c.toNat = c := Char.ofNat_toNat c
  have hrange : c.toNat < 0xD800 ∨ 0xDFFF < c.toNat ∧ c.toNat < 0x110000 := hvalid
  generalize hv : c.toNat = v at *
  unfold String.utf8EncodeChar
  rw [hval]
  dsimp only
  by_cases hone : v ≤ 127
  · rw [if_pos hone, List.singleton_append, pieces, lead_one (by omega), hchar]
  rw [if_neg hone]
  by_cases htwo : v ≤ 2047
  · have hsum : 64 * (v / 64 % 32) + v % 64 = v := by omega
    rw [if_pos htwo, List.cons_append, List.singleton_append,
      pieces_of_lead (lead_two (by omega) (by omega)),
      pieces_last (by omega) (by omega) (by omega), hsum, hchar]
  rw [if_neg htwo]
  by_cases hthree : v ≤ 65535
  · have hsum : 64 * (64 * (v / 4096 % 16) + v / 64 % 64) + v % 64 = v := by omega
    obtain ⟨low, high, hlead, hlow, hhigh⟩ := lead_three (a := v / 4096 % 16) (b := v / 64 % 64)
      (by omega) (by omega) (by omega) (by omega)
    rw [if_pos hthree, List.cons_append, List.cons_append, List.singleton_append,
      pieces_of_lead hlead, pieces_more hlow hhigh (by omega) (by omega),
      pieces_last (by omega) (by omega) (by omega), hsum, hchar]
  rw [if_neg hthree]
  have hsum : 64 * (64 * (64 * (v / 262144 % 8) + v / 4096 % 64) + v / 64 % 64) + v % 64 = v := by
    omega
  obtain ⟨low, high, hlead, hlow, hhigh⟩ := lead_four (a := v / 262144 % 8) (b := v / 4096 % 64)
    (by omega) (by omega) (by omega) (by omega)
  rw [List.cons_append, List.cons_append, List.cons_append, List.singleton_append,
    pieces_of_lead hlead, pieces_more hlow hhigh (by omega) (by omega),
    pieces_more (by omega) (by omega) (by omega) (by omega),
    pieces_last (by omega) (by omega) (by omega), hsum, hchar]

theorem pieces_utf8 (cs : List Char) : pieces none (utf8 cs) = cs.map .character := by
  induction cs with
  | nil => rfl
  | cons c cs ih => rw [utf8_cons, pieces_char, ih, List.map_cons]

theorem assemble_characters (index : Nat) (cs : List Char) :
    assemble index (cs.map .character) = .ok cs := by
  induction cs generalizing index with
  | nil => rfl
  | cons c cs ih =>
      rw [List.map_cons, assemble, ih]
      rfl

/-- The bytes of a text are read as that text. -/
theorem decode_utf8 (cs : List Char) : decode (utf8 cs) = .ok cs := by
  unfold decode
  rw [pieces_utf8, assemble_characters]

theorem decode?_utf8 (cs : List Char) : decode? (utf8 cs) = some cs := by
  unfold decode?
  rw [decode_utf8]
  rfl

/-- A character outside ASCII has no byte in ASCII. -/
theorem le_of_mem_utf8EncodeChar {c : Char} {b : UInt8} (hc : 0x80 ≤ c.toNat)
    (h : b ∈ String.utf8EncodeChar c) : 0x80 ≤ b.toNat := by
  have hval : c.val.toNat = c.toNat := rfl
  unfold String.utf8EncodeChar at h
  rw [hval] at h
  generalize c.toNat = v at *
  dsimp only at h
  rw [if_neg (by omega)] at h
  have hbyte {n : Nat} (hlow : 0x80 ≤ n) (hhigh : n < 256) (hb : b = UInt8.ofNat n) :
      0x80 ≤ b.toNat := by
    rw [hb, toNat_byte hhigh]
    exact hlow
  split at h
  · simp only [List.mem_cons, List.not_mem_nil, or_false] at h
    rcases h with h | h
    · exact hbyte (by omega) (by omega) h
    · exact hbyte (by omega) (by omega) h
  split at h
  · simp only [List.mem_cons, List.not_mem_nil, or_false] at h
    rcases h with h | h | h
    · exact hbyte (by omega) (by omega) h
    · exact hbyte (by omega) (by omega) h
    · exact hbyte (by omega) (by omega) h
  · simp only [List.mem_cons, List.not_mem_nil, or_false] at h
    rcases h with h | h | h | h
    · exact hbyte (by omega) (by omega) h
    · exact hbyte (by omega) (by omega) h
    · exact hbyte (by omega) (by omega) h
    · exact hbyte (by omega) (by omega) h

/-- A character of ASCII is one byte. -/
theorem utf8EncodeChar_of_lt {c : Char} (h : c.toNat < 0x80) :
    String.utf8EncodeChar c = [UInt8.ofNat c.toNat] := by
  unfold String.utf8EncodeChar
  exact if_pos (Nat.le_of_lt_succ h)

end Tributary.Text.Utf8
