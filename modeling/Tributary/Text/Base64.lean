import Tributary.Text.Utf8

/-!
# Base 64

Bytes as text of 64 symbols, four for three bytes. Reading accepts canonical text only: padding
fills the last group up and stands nowhere else, and the bits that a short last group leaves over
are zero. Faults name bytes of the text and their places in it.
-/

namespace Tributary.Base64

inductive Fault where
  | symbol (byte : UInt8) (offset : Nat)
  | length (n : Nat)
  | lastSymbol (byte : UInt8) (offset : Nat)
  | padding
  deriving DecidableEq, Repr

def Fault.message : Fault → String
  | .symbol byte offset => s!"Invalid symbol {byte}, offset {offset}."
  | .length n => s!"Invalid input length: {n}"
  | .lastSymbol byte offset => s!"Invalid last symbol {byte}, offset {offset}."
  | .padding => "Invalid padding"

def sextet? (b : UInt8) : Option Nat :=
  let n := b.toNat
  if 65 ≤ n ∧ n ≤ 90 then some (n - 65)
  else if 97 ≤ n ∧ n ≤ 122 then some (n - 71)
  else if 48 ≤ n ∧ n ≤ 57 then some (n + 4)
  else if n = 43 then some 62
  else if n = 47 then some 63
  else none

def pad : UInt8 := 61

def sextetAt (offset : Nat) (b : UInt8) : Except Fault Nat :=
  match sextet? b with
  | some s => .ok s
  | none => .error (.symbol b offset)

def sextetsAt (offset : Nat) : List UInt8 → Except Fault (List Nat)
  | [] => .ok []
  | b :: bs => do
    let s ← sextetAt offset b
    let ss ← sextetsAt (offset + 1) bs
    .ok (s :: ss)

/-- The bytes of four groups of six bits. -/
def joined (a b c d : Nat) : List UInt8 :=
  let n := 262144 * a + 4096 * b + 64 * c + d
  [UInt8.ofNat (n / 65536), UInt8.ofNat (n / 256), UInt8.ofNat n]

/-- The bytes of the symbols of the last group, which must leave no bit over. -/
def lastBytes (offset : Nat) (symbols : List UInt8) : List Nat → Except Fault (List UInt8)
  | [a, b, c, d] => .ok (joined a b c d)
  | [a, b, c] =>
    if c % 4 = 0 then .ok ((joined a b c 0).take 2)
    else .error (.lastSymbol (symbols.getLastD pad) (offset + 2))
  | [a, b] =>
    if b % 16 = 0 then .ok ((joined a b 0 0).take 1)
    else .error (.lastSymbol (symbols.getLastD pad) (offset + 1))
  | _ => .ok []

/-- Reads the last group: at most four bytes, symbols first and then padding. -/
def readLast (offset : Nat) (bytes : List UInt8) : Except Fault (List UInt8) := do
  let symbols := bytes.takeWhile (· != pad)
  let tail := bytes.dropWhile (· != pad)
  let sextets ← sextetsAt offset symbols
  if !tail.isEmpty && (symbols.length < 2 || tail.any (· != pad)) then
    .error (.symbol pad (offset + symbols.length))
  else if symbols.length = 1 then .error (.length (offset + 1))
  else if bytes.length % 4 ≠ 0 then .error .padding
  else lastBytes offset symbols sextets

/-- Reads groups of four symbols from a place on; the last group may be padded. -/
def readGroups (offset : Nat) : List UInt8 → Except Fault (List UInt8)
  | a :: b :: c :: d :: e :: rest => do
    let p ← sextetAt offset a
    let q ← sextetAt (offset + 1) b
    let r ← sextetAt (offset + 2) c
    let s ← sextetAt (offset + 3) d
    let more ← readGroups (offset + 4) (e :: rest)
    .ok (joined p q r s ++ more)
  | bytes => readLast offset bytes

/-- The fault of a text with one byte too many that is no symbol either. It is reported before
all others. -/
def strayLast? (bytes : List UInt8) : Option Fault :=
  if bytes.length % 4 = 1 then
    match bytes.getLast? with
    | some b => if b ≠ pad ∧ (sextet? b).isNone then some (.symbol b (bytes.length - 1)) else none
    | none => none
  else none

def read (text : List Char) : Except Fault (List UInt8) :=
  let bytes := Text.utf8 text
  match strayLast? bytes with
  | some fault => .error fault
  | none => readGroups 0 bytes

end Tributary.Base64
