import Tributary.Text.Ascii
import Tributary.Text.Form

/-!
# Internet addresses of 32 bits

An address is written as up to four numbers with dots between them, each decimal, octal or
hexadecimal; the last number fills the bytes that are left. A host whose last label looks like a
number has to be such an address.
-/

namespace Tributary.Url

open Text

/-- An address of 32 bits. -/
abbrev Ipv4 := Fin 0x100000000

namespace Ipv4

def ofNat (n : Nat) : Ipv4 := ⟨n % 0x100000000, Nat.mod_lt n (by decide)⟩

/-- The base of a number and its digits: `0x` begins a hexadecimal number, `0` an octal one. -/
def baseAndDigits : List Char → Nat × List Char
  | '0' :: 'x' :: rest => (16, rest)
  | '0' :: 'X' :: rest => (16, rest)
  | '0' :: c :: rest => (8, c :: rest)
  | cs => (10, cs)

def valueIn? (base : Nat) (digits : List Char) : Option Nat :=
  digits.foldl
    (fun value c => do
      let v ← value
      let d ← hexDigit? c
      if d.val < base then some (base * v + d.val) else none)
    (some 0)

def number? (cs : List Char) : Option Nat :=
  if cs.isEmpty then none
  else valueIn? (baseAndDigits cs).1 (baseAndDigits cs).2

/-- The labels of a host; an empty one at the end does not count. -/
def labels (host : List Char) : List (List Char) :=
  let parts := Form.splitOn '.' host
  if parts.getLast? = some [] ∧ 1 < parts.length then parts.dropLast else parts

/-- Whether the last label of a host looks like a number. -/
def endsInNumber (host : List Char) : Bool :=
  match (labels host).getLast? with
  | none => false
  | some last => (!last.isEmpty && allDigits last) || (number? last).isSome

/-- The address of numbers, the last of which fills the bytes that are left. -/
def ofNumbers? (numbers : List Nat) : Option Ipv4 :=
  match numbers.reverse with
  | [] => none
  | last :: firsts =>
    if firsts.length ≤ 3 ∧ firsts.all (· ≤ 255) = true ∧ last < Nat.pow 256 (4 - firsts.length) then
      let front := firsts.reverse.foldl (fun value n => 256 * value + n) 0
      some (.ofNat (front * Nat.pow 256 (4 - firsts.length) + last))
    else none

def read? (host : List Char) : Option Ipv4 :=
  ((labels host).mapM number?).bind ofNumbers?

def text (a : Ipv4) : List Char :=
  let byte (place : Nat) := Nat.toDigits 10 (a.val / Nat.pow 256 place % 256)
  byte 3 ++ '.' :: byte 2 ++ '.' :: byte 1 ++ '.' :: byte 0

end Ipv4

end Tributary.Url
