import Tributary.Number.Integer
import Tributary.Text.Blank

/-!
# Decimal numbers in scientific form

An optional sign, digits with an optional fraction, and an optional exponent. `Decimal.read` reads
one, and `Decimal.truncate?` is the integer it has after the fraction is dropped, if that fits into
a signed word of 64 bits. The exponent may be any such word, so the digits are shifted only as far
as a fitting result allows.
-/

namespace Tributary

open Text

def digitsValue (digits : List Nat) : Nat :=
  digits.foldl (fun value d => 10 * value + d) 0

/-- A number `± integral.fraction × 10 ^ exponent`, digit by digit. -/
structure Decimal where
  negative : Bool
  integral : List Nat
  fraction : List Nat
  exponent : Int
  deriving DecidableEq, Repr

namespace Decimal

inductive Fault where
  | exponent
  | digits
  deriving DecidableEq, Repr

def Fault.message : Fault → String
  | .exponent => "invalid exponent"
  | .digits => "invalid decimal"

def sign : List Char → Bool × List Char
  | '-' :: cs => (true, cs)
  | '+' :: cs => (false, cs)
  | cs => (false, cs)

/-- The text before the first character that satisfies `p`, and the text after it if there is
one. -/
def cut (p : Char → Bool) (cs : List Char) : List Char × Option (List Char) :=
  match cs.dropWhile fun c => !p c with
  | [] => (cs, none)
  | _ :: rest => (cs.takeWhile fun c => !p c, some rest)

def digits? (cs : List Char) : Option (List Nat) :=
  cs.mapM digit?

/-- Reads the exponent that follows the letter, or takes zero where there is none. -/
def readExponent : Option (List Char) → Except Fault Int
  | none => .ok 0
  | some cs => (Integer.read Integer.int64 cs).mapError fun _ => .exponent

/-- Reads a decimal number. The exponent is looked at before the digits. -/
def read (text : List Char) : Except Fault Decimal := do
  let (negative, unsigned) := sign text
  let (mantissa, tail) := cut (fun c => c == 'e' || c == 'E') unsigned
  let exponent ← readExponent tail
  let (integral, fraction) := cut (· == '.') mantissa
  match digits? integral, digits? (fraction.getD []) with
  | some [], some [] => .error .digits
  | some is, some fs => .ok ⟨negative, is, fs, exponent⟩
  | _, _ => .error .digits

/-- All digits, those of the fraction last. -/
def digits (d : Decimal) : List Nat :=
  d.integral ++ d.fraction

/-- The power of ten by which the last digit counts. -/
def scale (d : Decimal) : Int :=
  d.exponent - d.fraction.length

/-- The integer part of the absolute value, given that it is below `10 ^ 19` or that the digits
are not shifted left by more than 19 places; `none` says that it is at least `10 ^ 19`. -/
def magnitude? (d : Decimal) : Option Nat :=
  if digitsValue d.digits = 0 then some 0
  else if 19 < d.scale then none
  else
    let value :=
      if 0 ≤ d.scale then digitsValue d.digits * Nat.pow 10 d.scale.toNat
      else digitsValue (d.digits.take (d.digits.length - (-d.scale).toNat))
    if value < 10000000000000000000 then some value else none

/-- The number without its fraction, if it fits into a signed word of 64 bits. -/
def truncate? (d : Decimal) : Option Int :=
  match d.magnitude? with
  | none => none
  | some m =>
    let v : Int := if d.negative then -m else m
    if Integer.int64.contains v then some v else none

end Decimal

end Tributary
