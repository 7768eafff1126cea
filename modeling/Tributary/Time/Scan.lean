import Tributary.Text.Ascii
import Tributary.Text.Blank

/-!
# Scanning dates and times

A layout is read field by field. White space may stand before a number, a number takes at most as
many digits as its field is wide, and a field out of its range is a fault as soon as it is read.
Each reader returns the rest of the text.
-/

namespace Tributary.Time

open Text

inductive Fault where
  | invalid
  | outOfRange
  | tooShort
  | trailing
  deriving DecidableEq, Repr

def Fault.message : Fault → String
  | .invalid => "input contains invalid characters"
  | .outOfRange => "input is out of range"
  | .tooShort => "premature end of input"
  | .trailing => "trailing input"

/-- Reads up to `places` more digits of a number below `2 ^ 63`. -/
def moreDigits : Nat → Nat → List Char → Except Fault (Nat × List Char)
  | _, value, [] => .ok (value, [])
  | 0, value, cs => .ok (value, cs)
  | places + 1, value, c :: cs =>
    match digit? c with
    | none => .ok (value, c :: cs)
    | some d =>
      if 10 * value + d < 0x8000000000000000 then moreDigits places (10 * value + d) cs
      else .error .outOfRange

/-- Reads a number of at least one digit and at most `places` of them. -/
def number (places : Nat) : List Char → Except Fault (Nat × List Char)
  | [] => .error .tooShort
  | c :: cs =>
    match digit? c with
    | none => .error .invalid
    | some d => moreDigits (places - 1) d cs

/-- Reads a number of one or two digits between two bounds, after white space. -/
def field (least greatest : Nat) (cs : List Char) : Except Fault (Nat × List Char) := do
  let (value, rest) ← number 2 (trimStart cs)
  if least ≤ value ∧ value ≤ greatest then .ok (value, rest) else .error .outOfRange

def literal (l : Char) : List Char → Except Fault (List Char)
  | [] => .error .tooShort
  | c :: cs => if c = l then .ok cs else .error .invalid

/-- Reads a year, after white space: up to four digits, or any number of them after a sign. -/
def year (cs : List Char) : Except Fault (Int × List Char) := do
  let (value, rest) ← match trimStart cs with
    | '-' :: ds => (number ds.length ds).map fun r => (-(r.1 : Int), r.2)
    | '+' :: ds => (number ds.length ds).map fun r => ((r.1 : Int), r.2)
    | ds => (number 4 ds).map fun r => ((r.1 : Int), r.2)
  if -0x80000000 ≤ value ∧ value < 0x80000000 then .ok (value, rest) else .error .outOfRange

/-- Reads the fraction of a second in nanoseconds, if a point begins one. Digits after the ninth
are passed over. -/
def fraction : List Char → Except Fault (Nat × List Char)
  | '.' :: cs => do
    let (value, rest) ← number 9 cs
    let places := cs.length - rest.length
    .ok (value * Nat.pow 10 (9 - places), rest.dropWhile fun c => (digit? c).isSome)
  | cs => .ok (0, cs)

def finish : List Char → Except Fault Unit
  | [] => .ok ()
  | _ :: _ => .error .trailing

end Tributary.Time
