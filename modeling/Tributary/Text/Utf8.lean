/-!
# UTF-8

Text as bytes. Bytes fall into pieces: a character, or the longest run of bytes that begins one
and does not end it. Strict reading stops at the first piece that is no character and says where
it is and how long; lenient reading puts U+FFFD in its place.
-/

namespace Tributary.Text

def utf8 (cs : List Char) : List UInt8 :=
  cs.flatMap String.utf8EncodeChar

def utf8Bytes (s : String) : List UInt8 :=
  utf8 s.toList

@[simp] theorem utf8_nil : utf8 [] = [] := rfl

@[simp] theorem utf8_cons (c : Char) (cs : List Char) :
    utf8 (c :: cs) = String.utf8EncodeChar c ++ utf8 cs := rfl

theorem utf8_append (cs ds : List Char) : utf8 (cs ++ ds) = utf8 cs ++ utf8 ds := by
  simp [utf8]

namespace Utf8

/-- A maximal piece of a byte sequence. -/
inductive Piece where
  /-- A whole character. -/
  | character (c : Char)
  /-- Bytes that another byte, or no byte at all, keeps from being a character. -/
  | broken (length : Nat)
  /-- Bytes that the end of the input cuts short. -/
  | cut
  deriving DecidableEq, Repr

/-- A character under way: `taken` bytes are read with the bits `bits`, `owed` are still to come,
and the next lies between `low` and `high`. -/
structure Pending where
  bits : Nat
  taken : Nat
  owed : Nat
  low : Nat
  high : Nat
  deriving DecidableEq, Repr

/-- What a first byte begins: a character of its own, a longer one, or nothing. -/
def lead (b : UInt8) : Except Piece Pending :=
  let n := b.toNat
  if n < 0x80 then .error (.character (Char.ofNat n))
  else if n < 0xC2 then .error (.broken 1)
  else if n < 0xE0 then .ok ⟨n - 0xC0, 1, 1, 0x80, 0xBF⟩
  else if n = 0xE0 then .ok ⟨0, 1, 2, 0xA0, 0xBF⟩
  else if n = 0xED then .ok ⟨0xD, 1, 2, 0x80, 0x9F⟩
  else if n < 0xF0 then .ok ⟨n - 0xE0, 1, 2, 0x80, 0xBF⟩
  else if n = 0xF0 then .ok ⟨0, 1, 3, 0x90, 0xBF⟩
  else if n < 0xF4 then .ok ⟨n - 0xF0, 1, 3, 0x80, 0xBF⟩
  else if n = 0xF4 then .ok ⟨4, 1, 3, 0x80, 0x8F⟩
  else .error (.broken 1)

/-- The pieces of the bytes that follow a character under way. -/
def pieces : Option Pending → List UInt8 → List Piece
  | none, [] => []
  | some _, [] => [.cut]
  | none, b :: bs =>
    match lead b with
    | .error piece => piece :: pieces none bs
    | .ok p => pieces (some p) bs
  | some p, b :: bs =>
    if p.low ≤ b.toNat ∧ b.toNat ≤ p.high then
      let bits := 64 * p.bits + b.toNat % 64
      if p.owed = 1 then .character (Char.ofNat bits) :: pieces none bs
      else pieces (some ⟨bits, p.taken + 1, p.owed - 1, 0x80, 0xBF⟩) bs
    else
      .broken p.taken ::
        match lead b with
        | .error piece => piece :: pieces none bs
        | .ok q => pieces (some q) bs

/-- Why bytes are not UTF-8, and from which byte on. -/
inductive Fault where
  | invalid (length index : Nat)
  | incomplete (index : Nat)
  deriving DecidableEq, Repr

def Fault.message : Fault → String
  | .invalid length index => s!"invalid utf-8 sequence of {length} bytes from index {index}"
  | .incomplete index => s!"incomplete utf-8 byte sequence from index {index}"

/-- The characters of pieces that start at byte `index`, up to the first fault. -/
def assemble (index : Nat) : List Piece → Except Fault (List Char)
  | [] => .ok []
  | .character c :: ps => (assemble (index + (String.utf8EncodeChar c).length) ps).map (c :: ·)
  | .broken length :: _ => .error (.invalid length index)
  | .cut :: _ => .error (.incomplete index)

def decode (bytes : List UInt8) : Except Fault (List Char) :=
  assemble 0 (pieces none bytes)

/-- Reads bytes as text, with U+FFFD for each piece that is no character. -/
def decodeLossy (bytes : List UInt8) : List Char :=
  (pieces none bytes).map fun
    | .character c => c
    | .broken _ | .cut => Char.ofNat 0xFFFD

def decode? (bytes : List UInt8) : Option (List Char) :=
  (decode bytes).toOption

end Utf8

end Tributary.Text
