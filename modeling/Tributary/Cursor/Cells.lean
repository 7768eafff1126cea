import Tributary.Error
import Tributary.Value.Decode
import Tributary.Wire.ResultSet

/-!
# Cells of a row

A row is decoded into a destination of its own width, cell by cell and by the declared types of the
columns. What is decoded before a fault stays in the destination.
-/

namespace Tributary

/-- What an attempt to fetch a row comes to: whether there was one, the destination, and the
cursor afterwards. -/
structure Fetched (κ : Type) where
  more : Except Error Bool
  slots : List Value
  cursor : κ

namespace Cells

/-- Decodes cells into slots, the first of them in column `index`. -/
def fill (format : Format) (declared : List String) (index : Nat) :
    Row → List Value → Except Error Unit × List Value
  | [], slots => (.ok (), slots)
  | _ :: _, [] => (.ok (), [])
  | cell :: cells, slot :: slots =>
    match declared with
    | [] => (.error (.protocol s!"no metadata for column {index}"), slot :: slots)
    | type :: declared =>
      match Value.decode cell type format with
      | .error e => (.error (.conversion e), slot :: slots)
      | .ok v =>
        let (r, slots) := fill format declared (index + 1) cells slots
        (r, v :: slots)

/-- Decodes a row into a destination, which has to be as wide as the row. -/
def place (format : Format) (declared : List String) (row : Row) (dest : List Value) :
    Except Error Bool × List Value :=
  if row.length = dest.length then
    let (r, slots) := fill format declared 0 row dest
    (r.map fun _ => true, slots)
  else (.error (.conversion (.columnCountMismatch row.length dest.length)), dest)

end Cells

end Tributary
