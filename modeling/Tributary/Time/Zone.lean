import Tributary.Number.Integer

/-!
# Offsets from universal time

A zone is written `Z`, or as a sign with hours and minutes. A colon may separate these, and is
passed over wherever it stands.
-/

namespace Tributary

open Text

/-- An offset from universal time of less than a day, in minutes to the east. -/
structure Offset where
  minutes : Int
  minutes_mem : -1440 < minutes ∧ minutes < 1440 := by decide
  deriving DecidableEq, Repr

namespace Offset

def utc : Offset := { minutes := 0 }

def seconds (o : Offset) : Int := 60 * o.minutes

def ofMinutes? (minutes : Int) : Option Offset :=
  if h : -1440 < minutes ∧ minutes < 1440 then some ⟨minutes, h⟩ else none

/-- Why a text is no zone; both faults name it. -/
inductive Fault where
  | invalid (zone : List Char)
  | outOfRange (zone : List Char)
  deriving DecidableEq, Repr

def Fault.message : Fault → String
  | .invalid zone => "invalid offset '" ++ String.ofList zone ++ "'"
  | .outOfRange zone => "offset out of range '" ++ String.ofList zone ++ "'"

/-- Minutes that two or four digits write. -/
def digitMinutes? (digits : List Char) : Option Nat :=
  match digits.mapM digit? with
  | some [h, i] => some (60 * (10 * h + i))
  | some [h, i, m, n] => some (60 * (10 * h + i) + (10 * m + n))
  | _ => none

def readSigned (zone : List Char) (sign : Int) (rest : List Char) : Except Fault Offset :=
  match digitMinutes? (rest.filter (· != ':')) with
  | none => .error (.invalid zone)
  | some minutes =>
    match ofMinutes? (sign * minutes) with
    | some offset => .ok offset
    | none => .error (.outOfRange zone)

def read (zone : List Char) : Except Fault Offset :=
  match zone with
  | ['Z'] => .ok utc
  | '+' :: rest => readSigned zone 1 rest
  | '-' :: rest => readSigned zone (-1) rest
  | _ => .error (.invalid zone)

/-- Writes `±HH:MM`. -/
def text (o : Offset) : List Char :=
  let m := o.minutes.natAbs
  (if o.minutes < 0 then '-' else '+') :: padded 2 (m / 60) ++ ':' :: padded 2 (m % 60)

def begins (c : Char) : Bool :=
  c == 'Z' || c == '+' || c == '-'

/-- A time of day without its zone, and the zone if one is written. -/
def split (text : List Char) : Except Fault (List Char × Option Offset) :=
  let clock := text.takeWhile fun c => !begins c
  match text.dropWhile fun c => !begins c with
  | [] => .ok (clock, none)
  | zone => (read zone).map fun offset => (clock, some offset)

end Offset

end Tributary
