import Tributary.Value.Family

/-!
# Column descriptions

What a caller is told about a column of a result.
-/

namespace Tributary

structure Column where
  name : String
  nullable : Bool
  reported : String
  scanType : ScanType
  length : Option Int := none
  precision : Option Int := none
  scale : Option Int := none
  deriving DecidableEq, Repr

namespace Column

def describe (name declared : String) (nullable hints : Bool) (format : Format) : Column :=
  { name, nullable, reported := reportedType declared hints format,
    scanType := .of declared format }

/-- The column with the dimensions that the server gives. -/
def withDimensions (c : Column) (length precision scale : Option Int) : Column :=
  { c with length, precision, scale }

end Column

end Tributary
