import Tributary.Number.Decimal

/-!
# Floating-point numbers of 64 bits

A number is its word of the binary interchange format. `Binary64.nearest` rounds a quotient of
natural numbers to the nearest such number, halfway cases going to the even neighbour, in exact
arithmetic; `Binary64.read` reads decimal text.
-/

namespace Tributary

open Text

/-- A number in the binary interchange format of 64 bits. -/
structure Binary64 where
  bits : UInt64
  deriving DecidableEq, Repr

namespace Binary64

/-- Of the words that stand for no number, the one that reading yields. -/
def nan : Binary64 := ⟨0x7FF8000000000000⟩

/-- The weight of the exponent field: the fraction field has 52 bits. -/
def fractionRange : Nat := 0x10000000000000

def fractionField (x : Binary64) : Nat := x.bits.toNat % fractionRange

def exponentField (x : Binary64) : Nat := x.bits.toNat / fractionRange % 0x800

def negative (x : Binary64) : Bool := 0x8000000000000000 ≤ x.bits.toNat

def isNaN (x : Binary64) : Bool := x.exponentField == 2047 && x.fractionField != 0

def isInfinite (x : Binary64) : Bool := x.exponentField == 2047 && x.fractionField == 0

/-- The integer `m` of a finite number `± m × 2 ^ q`. -/
def significand (x : Binary64) : Nat :=
  if x.exponentField = 0 then x.fractionField else fractionRange + x.fractionField

/-- The exponent `q` of a finite number `± m × 2 ^ q`. -/
def power (x : Binary64) : Int :=
  if x.exponentField = 0 then -1074 else (x.exponentField : Int) - 1075

def infinityBits : Nat := 2047 * fractionRange

def signed (negative : Bool) (bits : Nat) : Binary64 :=
  ⟨UInt64.ofNat (if negative then 0x8000000000000000 + bits else bits)⟩

/-- The integer nearest to `num / den`, the even one of two. -/
def roundEven (num den : Nat) : Nat :=
  let q := num / den
  let r := num % den
  if 2 * r < den then q
  else if den < 2 * r then q + 1
  else if q % 2 = 0 then q else q + 1

/-- The greatest `k` with `2 ^ k ≤ num / den`, for positive `num` and `den`. -/
def floorLog2 (num den : Nat) : Int :=
  let k : Int := (num.log2 : Int) - den.log2
  let reached :=
    if 0 ≤ k then den * Nat.pow 2 k.toNat ≤ num else den ≤ num * Nat.pow 2 (-k).toNat
  if reached then k else k - 1

/-- The bits of the number nearest to `num / den`, for positive `num` and `den`. The last place
of the significand is worth `2 ^ q`, and a carry out of it runs on into the exponent. -/
def nearestBits (num den : Nat) : Nat :=
  let q := max (floorLog2 num den - 52) (-1074)
  let significand :=
    if 0 ≤ q then roundEven num (den * Nat.pow 2 q.toNat)
    else roundEven (num * Nat.pow 2 (-q).toNat) den
  min infinityBits ((q + 1074).toNat * fractionRange + significand)

def nearest (negative : Bool) (num den : Nat) : Binary64 :=
  signed negative (if num = 0 then 0 else nearestBits num den)

/-- The number nearest to a decimal. Powers of ten far outside the range of the format are not
worked out: such a decimal is infinite or zero. -/
def ofDecimal (d : Decimal) : Binary64 :=
  let value := digitsValue d.digits
  let places : Int := d.digits.length + d.scale
  if value = 0 ∨ places < -400 then signed d.negative 0
  else if 400 < d.scale then signed d.negative infinityBits
  else if 0 ≤ d.scale then nearest d.negative (value * Nat.pow 10 d.scale.toNat) 1
  else nearest d.negative value (Nat.pow 10 (-d.scale).toNat)

inductive Fault where
  | empty
  | invalid
  deriving DecidableEq, Repr

def Fault.message : Fault → String
  | .empty => "cannot parse float from empty string"
  | .invalid => "invalid float literal"

def exponent? (cs : List Char) : Option Int :=
  let (negative, rest) := Decimal.sign cs
  match rest, Decimal.digits? rest with
  | _ :: _, some ds => some (if negative then -(digitsValue ds : Int) else digitsValue ds)
  | _, _ => none

/-- Reads `digits[.digits][e[sign]digits]` with at least one digit before the exponent. -/
def decimal? (negative : Bool) (cs : List Char) : Option Decimal := do
  let (mantissa, tail) := Decimal.cut (fun c => c == 'e' || c == 'E') cs
  let exponent ← match tail with
    | none => some 0
    | some t => exponent? t
  let (integral, fraction) := Decimal.cut (· == '.') mantissa
  let is ← Decimal.digits? integral
  let fs ← Decimal.digits? (fraction.getD [])
  if is.isEmpty && fs.isEmpty then none else some ⟨negative, is, fs, exponent⟩

def word? (negative : Bool) (cs : List Char) : Option Binary64 :=
  let w := String.ofList (cs.map Char.toLower)
  if w = "inf" ∨ w = "infinity" then some (signed negative infinityBits)
  else if w = "nan" then some ⟨if negative then nan.bits ||| 0x8000000000000000 else nan.bits⟩
  else none

def read (cs : List Char) : Except Fault Binary64 :=
  if cs.isEmpty then .error .empty
  else
    let (negative, unsigned) := Decimal.sign cs
    match decimal? negative unsigned with
    | some d => .ok (ofDecimal d)
    | none =>
      match word? negative unsigned with
      | some x => .ok x
      | none => .error .invalid

end Binary64

end Tributary
