import Tributary.Number.Binary64

/-!
# The shortest decimal text of a floating-point number

The text has the fewest significant digits with which the number reads back, and of these the
digits nearest to it. They are found on the decimal grids of 1, 2, … 17 digits: on each, the two
neighbours of the number are tried, in exact arithmetic. The text is positional, never with an
exponent.
-/

namespace Tributary

namespace Binary64

/-- The interval of numbers that round to a finite positive number, and the number itself, all as
numerators over the common denominator `den`. Its ends belong to it when `closed`. -/
structure Neighbourhood where
  low : Nat
  value : Nat
  high : Nat
  den : Nat
  closed : Bool

/-- The neighbourhood of a finite positive number. Below a power of two the next number is only
half as far away. -/
def neighbourhood (x : Binary64) : Neighbourhood :=
  let m := x.significand
  let low := if x.fractionField = 0 ∧ 1 < x.exponentField then 4 * m - 1 else 4 * m - 2
  let up := Nat.pow 2 x.power.toNat
  ⟨low * up, 4 * m * up, (4 * m + 2) * up, 4 * Nat.pow 2 (-x.power).toNat, m % 2 == 0⟩

def Neighbourhood.contains (h : Neighbourhood) (num den : Nat) : Bool :=
  let n := num * h.den
  if h.closed then h.low * den ≤ n && n ≤ h.high * den
  else h.low * den < n && n < h.high * den

/-- Digits `d` and a power `e` of ten with `d × 10 ^ e` in the neighbourhood, on the grid of the
given power: the nearer of the two neighbours, the upper one of two equally near. -/
def Neighbourhood.onGrid? (h : Neighbourhood) (e : Int) : Option Nat :=
  let up := Nat.pow 10 e.toNat
  let down := Nat.pow 10 (-e).toNat
  let num := h.value * down
  let unit := h.den * up
  let floor := num / unit
  let lowFits := h.contains (floor * up) down
  let highFits := h.contains ((floor + 1) * up) down
  let upper := unit ≤ 2 * (num % unit)
  if lowFits && !(highFits && upper) then some floor
  else if highFits then some (floor + 1)
  else none

/-- The number of digits before the point of a positive quotient, negative if zeros follow the
point; found by stepping from an estimate. -/
def decimalPlaces (num den : Nat) : Int :=
  let estimate : Int := ((Nat.toDigits 10 num).length : Int) - (Nat.toDigits 10 den).length
  let reached := den * Nat.pow 10 estimate.toNat ≤ num * Nat.pow 10 (-estimate).toNat
  if reached then estimate + 1 else estimate

/-- The first grid, from `n` digits on and trying `fuel` grids, that has a point in the
neighbourhood. -/
def Neighbourhood.search (h : Neighbourhood) (places : Int) : Nat → Nat → Option (Nat × Int)
  | 0, _ => none
  | fuel + 1, n =>
    match h.onGrid? (places - n) with
    | some d => some (d, places - n)
    | none => h.search places fuel (n + 1)

def shortest (x : Binary64) : Nat × Int :=
  let h := x.neighbourhood
  (h.search (decimalPlaces h.value h.den) 17 1).getD (0, 0)

def positional (d : Nat) (e : Int) : List Char :=
  if 0 ≤ e then Nat.toDigits 10 d ++ List.replicate e.toNat '0'
  else
    let digits := Text.padded ((-e).toNat + 1) d
    let n := digits.length - (-e).toNat
    let fraction := (digits.drop n).reverse.dropWhile (· == '0') |>.reverse
    if fraction.isEmpty then digits.take n else digits.take n ++ '.' :: fraction

def text (x : Binary64) : List Char :=
  if x.isNaN then ['N', 'a', 'N']
  else
    let magnitude :=
      if x.isInfinite then ['i', 'n', 'f']
      else if x.significand = 0 then ['0']
      else positional x.shortest.1 x.shortest.2
    if x.negative then '-' :: magnitude else magnitude

end Binary64

end Tributary
