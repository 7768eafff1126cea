import Tributary.Error
import Tributary.Text.Base64
import Tributary.Value.Basic

/-!
# Decoding cells

A cell is null or a text; its column says how to read the text. A column of unknown type keeps the
text.
-/

namespace Tributary

namespace Value

def invalid (declared cell message : String) : ConversionError :=
  .invalidValue declared cell message

/-- Reads a date. Its faults call the type `DATE`, however the column declares it. -/
def readDate (cell : String) : Except ConversionError Value :=
  ((Date.read cell.toList).mapError fun e => invalid "DATE" cell e.message).map .date

def readTimestamp (declared cell : String) : Except ConversionError Value :=
  ((Timestamp.read cell.toList).mapError fun e => invalid declared cell e.message).map .timestamp

def readTime (declared cell : String) : Except ConversionError Value :=
  ((Timestamp.readTime cell.toList).mapError fun e => invalid declared cell e.message).map
    fun t => .time t.1 t.2

def readInteger (declared cell : String) : Except ConversionError Value :=
  ((Integer.read Integer.int64 cell.toList).mapError fun e =>
    invalid declared cell e.message).map .int64

/-- Reads a decimal, dropping its fraction. -/
def readDecimal (declared cell : String) : Except ConversionError Value :=
  match Decimal.read (Text.trim cell.toList) with
  | .error e => .error (invalid declared cell e.message)
  | .ok d =>
    match d.truncate? with
    | some v => .ok (.int64 v)
    | none => .error (.numericOverflow cell)

def readFloat (declared cell : String) : Except ConversionError Value :=
  ((Binary64.read cell.toList).mapError fun e => invalid declared cell e.message).map .float64

def readBytes (declared cell : String) : Except ConversionError Value :=
  ((Base64.read cell.toList).mapError fun e => invalid declared cell e.message).map .bytes

/-- Reads a text as a value of a family. -/
def readAs (family : Family) (declared : String) (format : Format) (cell : String) :
    Except ConversionError Value :=
  match family with
  | .text => .ok (.string cell)
  | .date => match format with
    | .paged => readDate cell
    | .streamed => .ok (.string cell)
  | .integer => readInteger declared cell
  | .bigInt => match format with
    | .paged => readInteger declared cell
    | .streamed => readDecimal declared cell
  | .float => readFloat declared cell
  | .timestamp => readTimestamp declared cell
  | .time => readTime declared cell
  | .binary => readBytes declared cell
  | .boolean => .ok (.bool (Text.eqIgnoringCase cell "true"))

def decode (cell : Option String) (declared : String) (format : Format) :
    Except ConversionError Value :=
  match cell with
  | none => .ok .null
  | some cell =>
    match Family.of? declared with
    | none => .ok (.string cell)
    | some family => readAs family declared format cell

end Value

end Tributary
