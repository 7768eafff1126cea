import Tributary.Text.Ascii

/-!
# Durations

Durations are counted in nanoseconds. They are shown in the largest of the units second,
millisecond, microsecond and nanosecond that they reach, without trailing zeros.
-/

namespace Tributary

structure Duration where
  nanos : Nat
  deriving DecidableEq, Repr

namespace Duration

instance : LT Duration := ⟨fun d e => d.nanos < e.nanos⟩

instance : LE Duration := ⟨fun d e => d.nanos ≤ e.nanos⟩

instance (d e : Duration) : Decidable (d < e) := Nat.decLt d.nanos e.nanos

instance (d e : Duration) : Decidable (d ≤ e) := Nat.decLe d.nanos e.nanos

def ofSeconds (n : Nat) : Duration := ⟨1000000000 * n⟩

def ofMillis (n : Nat) : Duration := ⟨1000000 * n⟩

def seconds (d : Duration) : Nat := d.nanos / 1000000000

def millis (d : Duration) : Nat := d.nanos / 1000000

/-! Where a number stands for a duration, or a duration for a number, milliseconds are counted. -/

instance (n : Nat) : OfNat Duration n := ⟨ofMillis n⟩

instance : Coe Nat Duration := ⟨ofMillis⟩

instance : Coe Duration Nat := ⟨millis⟩

/-- Shows a duration in units of `10 ^ places` nanoseconds. -/
def shownIn (places : Nat) (unit : List Char) (d : Duration) : List Char :=
  let size := Nat.pow 10 places
  let fraction := ((Text.padded places (d.nanos % size)).reverse.dropWhile (· == '0')).reverse
  Nat.toDigits 10 (d.nanos / size) ++ (if fraction.isEmpty then [] else '.' :: fraction) ++ unit

def shown (d : Duration) : String :=
  String.ofList <|
    if 1000000000 ≤ d.nanos then d.shownIn 9 ['s']
    else if 1000000 ≤ d.nanos then d.shownIn 6 ['m', 's']
    else if 1000 ≤ d.nanos then d.shownIn 3 ['µ', 's']
    else d.shownIn 0 ['n', 's']

example : (ofMillis 61001).shown = "61.001s" := by decide

end Duration

end Tributary
