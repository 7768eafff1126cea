import Tributary.Number.Shortest
import Tributary.Text.Quoted
import Tributary.Time.Timestamp
import Tributary.Value.Family

/-!
# Values

What a cell decodes into, and the text that shows it.
-/

namespace Tributary

/-- A decoded cell. A time of day keeps the offset that it was written with, if any. -/
inductive Value where
  | null
  | string (s : String)
  | int64 (v : Int)
  | float64 (x : Binary64)
  | date (d : Date)
  | timestamp (t : Timestamp)
  | time (clock : Clock) (offset : Option Offset)
  | bytes (b : List UInt8)
  | bool (b : Bool)
  deriving DecidableEq

namespace Value

/-- The kind of a value; null has none. -/
def scanType? : Value → Option ScanType
  | .null => none
  | .string _ => some .string
  | .int64 _ => some .int64
  | .float64 _ => some .float64
  | .date _ => some .date
  | .timestamp _ => some .timestamp
  | .time _ _ => some .time
  | .bytes _ => some .bytes
  | .bool _ => some .bool

def text : Value → String
  | .null => "NULL"
  | .string s => s
  | .int64 v => String.ofList (Integer.text v)
  | .float64 x => String.ofList x.text
  | .date d => String.ofList d.text
  | .timestamp t => String.ofList t.text
  | .time clock none => String.ofList clock.text
  | .time clock (some offset) => String.ofList (clock.text ++ offset.text)
  | .bytes b => s!"<{b.length} bytes>"
  | .bool b => Text.truth b

end Value

end Tributary
