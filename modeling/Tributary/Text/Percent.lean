import Tributary.Text.Ascii
import Tributary.Text.Utf8

/-!
# Percent-encoding

A byte may be written as a percent sign and two hexadecimal digits. Which characters are written
as they are depends on where the text stands; only ASCII characters ever are.
-/

namespace Tributary.Text

def percentByte (b : UInt8) : List Char :=
  ['%', upperHexChar (nibbles b).1, upperHexChar (nibbles b).2]

/-- Writes a character as it is if it is an ASCII character to keep, and byte by byte if not. -/
def percentChar (keep : Char → Bool) (c : Char) : List Char :=
  if c.toNat < 0x80 && keep c then [c] else (String.utf8EncodeChar c).flatMap percentByte

def percentEncode (keep : Char → Bool) (cs : List Char) : List Char :=
  cs.flatMap (percentChar keep)

def hexByte? (a b : UInt8) : Option UInt8 := do
  let high ← hexDigit? (Char.ofNat a.toNat)
  let low ← hexDigit? (Char.ofNat b.toNat)
  some (ofNibbles high low)

/-- The bytes that bytes stand for. A percent sign without two digits stands for itself. -/
def percentDecodeBytes : List UInt8 → List UInt8
  | [] => []
  | 0x25 :: a :: b :: rest =>
    match hexByte? a b with
    | some byte => byte :: percentDecodeBytes rest
    | none => 0x25 :: percentDecodeBytes (a :: b :: rest)
  | b :: rest => b :: percentDecodeBytes rest

def percentDecode (cs : List Char) : List UInt8 :=
  percentDecodeBytes (utf8 cs)

/-- The characters that are never reserved: letters, digits and four signs. -/
def isUnreserved (c : Char) : Bool :=
  c.isAlphanum || c == '-' || c == '_' || c == '.' || c == '~'

/-- A text that stands for itself wherever it is put in a URL. -/
def percentComponent (s : String) : String :=
  String.ofList (percentEncode isUnreserved s.toList)

end Tributary.Text
