/-!
# Families of declared types

A declared type is a text such as `DECIMAL(10,2)` or `VARCHAR;nowrap`. Its family is found by what
it starts with. The text after the first semicolon holds display hints, which never change the
family.
-/

namespace Tributary

/-- The families of types that cells are decoded by. -/
inductive Family where
  | text
  | date
  | integer
  | bigInt
  | float
  | timestamp
  | time
  | binary
  | boolean
  deriving DecidableEq, Repr

/-- Which of the two wire formats a cell comes in. They differ in dates, which a stream leaves as
text, and in big integers, which a stream writes as decimals. -/
inductive Format where
  | paged
  | streamed
  deriving DecidableEq, Repr

inductive ScanType where
  | string
  | int64
  | float64
  | date
  | timestamp
  | time
  | bytes
  | bool
  deriving DecidableEq, Repr

namespace Family

/-- What declared types start with, in the order in which they are tried. -/
def stems : List (String × Family) :=
  [("VARCHAR", .text), ("ARRAY", .text), ("MAP", .text), ("STRUCT", .text), ("DATE", .date),
   ("TINYINT", .integer), ("SMALLINT", .integer), ("INTEGER", .integer), ("BIGINT", .bigInt),
   ("FLOAT", .float), ("DOUBLE", .float), ("DECIMAL", .float), ("TIMESTAMP", .timestamp),
   ("TIME", .time), ("VARBINARY", .binary), ("BYTES", .binary), ("BOOLEAN", .boolean)]

def of? (declared : String) : Option Family :=
  (stems.find? fun stem => stem.1.toList.isPrefixOf declared.toList).map (·.2)

def name : Family → String
  | .text => "Text"
  | .date => "Date"
  | .integer => "Integer"
  | .bigInt => "BigInt"
  | .float => "Float"
  | .timestamp => "Timestamp"
  | .time => "Time"
  | .binary => "Binary"
  | .boolean => "Boolean"

def scanType (format : Format) : Family → ScanType
  | .text => .string
  | .date => match format with
    | .paged => .date
    | .streamed => .string
  | .integer | .bigInt => .int64
  | .float => .float64
  | .timestamp => .timestamp
  | .time => .time
  | .binary => .bytes
  | .boolean => .bool

end Family

namespace ScanType

/-- The kind of value that cells of a declared type decode into: text, where the type is not
known. -/
def of (declared : String) (format : Format) : ScanType :=
  match Family.of? declared with
  | some family => family.scanType format
  | none => .string

def name : ScanType → String
  | .string => "String"
  | .int64 => "Int64"
  | .float64 => "Float64"
  | .date => "Date"
  | .timestamp => "Timestamp"
  | .time => "Time"
  | .bytes => "Bytes"
  | .bool => "Bool"

end ScanType

/-- A declared type without its hints, and the hints if there are any. -/
def splitHints (declared : String) : String × Option String :=
  let cs := declared.toList
  match cs.dropWhile (· != ';') with
  | [] => (declared, none)
  | _ :: hints => (String.ofList (cs.takeWhile (· != ';')), some (String.ofList hints))

/-- The type name reported for a column: without hints, or with all of them; a streamed column
gains a hint of its own in front. -/
def reportedType (declared : String) (hints : Bool) (format : Format) : String :=
  match hints, format, splitHints declared with
  | false, _, (base, _) => base
  | true, .paged, _ => declared
  | true, .streamed, (base, some rest) => base ++ ";streaming=true," ++ rest
  | true, .streamed, (base, none) => base ++ ";streaming=true"

end Tributary
