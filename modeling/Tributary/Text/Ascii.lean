/-!
# ASCII characters

The digits and the case map of the ASCII letters, in which every wire format here is written.
Characters outside ASCII are no digit and have no other case.
-/

namespace Tributary.Text

def digit? (c : Char) : Option Nat :=
  if '0' ≤ c ∧ c ≤ '9' then some (c.toNat - '0'.toNat) else none

def allDigits (cs : List Char) : Bool :=
  cs.all fun c => (digit? c).isSome

/-- The last hexadecimal digit of a number. -/
def hexValue (n : Nat) : Fin 16 := ⟨n % 16, Nat.mod_lt n (by decide)⟩

def hexDigit? (c : Char) : Option (Fin 16) :=
  if '0' ≤ c ∧ c ≤ '9' then some (hexValue (c.toNat - '0'.toNat))
  else if 'a' ≤ c ∧ c ≤ 'f' then some (hexValue (c.toNat - 'a'.toNat + 10))
  else if 'A' ≤ c ∧ c ≤ 'F' then some (hexValue (c.toNat - 'A'.toNat + 10))
  else none

def hexChar (d : Fin 16) : Char :=
  if d.val < 10 then Char.ofNat ('0'.toNat + d.val) else Char.ofNat ('a'.toNat + d.val - 10)

def upperHexChar (d : Fin 16) : Char :=
  if d.val < 10 then Char.ofNat ('0'.toNat + d.val) else Char.ofNat ('A'.toNat + d.val - 10)

theorem hexDigit?_hexChar (d : Fin 16) : hexDigit? (hexChar d) = some d := by
  revert d; decide

/-- The two halves of a byte, the high one first. -/
def nibbles (b : UInt8) : Fin 16 × Fin 16 :=
  (hexValue (b.toNat / 16), hexValue b.toNat)

def ofNibbles (high low : Fin 16) : UInt8 :=
  UInt8.ofNat (16 * high.val + low.val)

def hexText (bytes : List UInt8) : String :=
  String.ofList (bytes.flatMap fun b => [hexChar (nibbles b).1, hexChar (nibbles b).2])

/-- Two texts agree up to the case of ASCII letters. -/
def eqIgnoringCase (s t : String) : Bool :=
  s.toList.map Char.toLower == t.toList.map Char.toLower

/-- A number in at least `width` decimal digits, filled with zeros on the left. -/
def padded (width n : Nat) : List Char :=
  let digits := Nat.toDigits 10 n
  List.replicate (width - digits.length) '0' ++ digits

end Tributary.Text
