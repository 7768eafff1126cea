import Tributary.Time.Clock
import Tributary.Time.Date
import Tributary.Time.Zone

/-!
# Points in time

A timestamp is a local date and time of day with the offset they are local to. Its instant is the
number of seconds from the beginning of 1970 in universal time, which has to fall on a supported
date there too.
-/

namespace Tributary

open Text

/-- Seconds from the beginning of 1970 in universal time. -/
def unixSeconds (date : Date) (clock : Clock) (offset : Offset) : Int :=
  86400 * date.epochDay + clock.secondOfDay - offset.seconds

/-- Whether an instant falls on a supported date in universal time. -/
def isSupported (seconds : Int) : Bool :=
  86400 * Date.first.epochDay ≤ seconds && seconds < 86400 * (Date.last.epochDay + 1)

/-- A point in time as it is written in some zone. -/
structure Timestamp where
  date : Date
  clock : Clock
  offset : Offset
  supported : isSupported (unixSeconds date clock offset) = true
  deriving DecidableEq

namespace Timestamp

def seconds (t : Timestamp) : Int :=
  unixSeconds t.date t.clock t.offset

def ofParts? (date : Date) (clock : Clock) (offset : Offset) : Option Timestamp :=
  if h : isSupported (unixSeconds date clock offset) = true then some ⟨date, clock, offset, h⟩
  else none

inductive Fault where
  | shape
  | field (fault : Time.Fault)
  | zone (fault : Offset.Fault)
  | unsupported
  deriving DecidableEq, Repr

def Fault.message : Fault → String
  | .shape => "invalid timestamp"
  | .field fault => fault.message
  | .zone fault => fault.message
  | .unsupported => "ambiguous local time"

/-- The two parts of a text with exactly one space. -/
def spaced? (text : List Char) : Option (List Char × List Char) :=
  match text.dropWhile (· != ' ') with
  | _ :: rest => if rest.contains ' ' then none else some (text.takeWhile (· != ' '), rest)
  | [] => none

/-- Reads a time of day with its zone, if one is written. -/
def readTime (text : List Char) : Except Fault (Clock × Option Offset) := do
  let (clock, offset) ← (Offset.split text).mapError .zone
  let clock ← (Clock.read clock).mapError .field
  .ok (clock, offset)

/-- Reads a date and a time of day with one space between them. Without a zone it is universal
time. -/
def read (text : List Char) : Except Fault Timestamp :=
  match spaced? text with
  | none => .error .shape
  | some (datePart, timePart) => do
    let date ← (Date.read datePart).mapError .field
    let (clock, offset) ← readTime timePart
    match ofParts? date clock (offset.getD .utc) with
    | some timestamp => .ok timestamp
    | none => .error .unsupported

/-- Writes `YYYY-MM-DDTHH:MM:SS±HH:MM`, with the fraction of the second if there is one. -/
def text (t : Timestamp) : List Char :=
  t.date.text ++ 'T' :: t.clock.text ++ t.offset.text

end Timestamp

end Tributary
