import Tributary.Time.Scan

/-!
# Times of day

A time of day to the nanosecond. Second 60 is a leap second, which any minute may have.
-/

namespace Tributary

structure Clock where
  hour : Nat
  minute : Nat
  second : Nat
  nano : Nat
  hour_lt : hour < 24 := by decide
  minute_lt : minute < 60 := by decide
  second_le : second ≤ 60 := by decide
  nano_lt : nano < 1000000000 := by decide
  deriving DecidableEq, Repr

namespace Clock

open Time Text

def ofFields? (hour minute second nano : Nat) : Option Clock :=
  if hh : hour < 24 then
    if hm : minute < 60 then
      if hs : second ≤ 60 then
        if hn : nano < 1000000000 then some ⟨hour, minute, second, nano, hh, hm, hs, hn⟩
        else none
      else none
    else none
  else none

/-- Reads `HH:MM:SS` with an optional fraction. -/
def read (text : List Char) : Except Fault Clock := do
  let (hour, rest) ← field 0 23 text
  let rest ← literal ':' rest
  let (minute, rest) ← field 0 59 rest
  let rest ← literal ':' rest
  let (second, rest) ← field 0 60 rest
  let (nano, rest) ← fraction rest
  finish rest
  match ofFields? hour minute second nano with
  | some clock => .ok clock
  | none => .error .outOfRange

/-- The fraction of a second in 0, 3, 6 or 9 digits, as few as hold it. -/
def fractionText (nano : Nat) : List Char :=
  if nano = 0 then []
  else if nano % 1000000 = 0 then '.' :: padded 3 (nano / 1000000)
  else if nano % 1000 = 0 then '.' :: padded 6 (nano / 1000)
  else '.' :: padded 9 nano

def text (c : Clock) : List Char :=
  padded 2 c.hour ++ ':' :: padded 2 c.minute ++ ':' :: padded 2 c.second ++ fractionText c.nano

def isLeap (c : Clock) : Bool := c.second == 60

/-- Seconds from midnight; a leap second has those of the second before it. -/
def secondOfDay (c : Clock) : Nat :=
  3600 * c.hour + 60 * c.minute + min c.second 59

/-- Nanoseconds from the second of `secondOfDay`. -/
def nanoOfSecond (c : Clock) : Nat :=
  if c.isLeap then 1000000000 + c.nano else c.nano

end Clock

end Tributary
