import Tributary.Number.Binary64

/-!
# JSON values

Objects keep their fields in order, repeated names included. A string may hold what is no text (a
lone surrogate, or bytes that are no UTF-8): such a string can be passed over and not be read.
-/

namespace Tributary

/-- A JSON value. Integers are numbers without fraction and exponent, except a negative zero; a
string that is no text is `none`. -/
inductive Json where
  | null
  | bool (b : Bool)
  | integer (v : Int)
  | real (d : Decimal)
  | string (s : Option String)
  | array (items : List Json)
  | object (fields : List (Option String × Json))

namespace Json

instance : Inhabited Json := ⟨.null⟩

def text (s : String) : Json :=
  .string (some s)

def record (fields : List (String × Json)) : Json :=
  .object (fields.map fun f => (some f.1, f.2))

mutual

/-- How deep arrays and objects are nested. -/
def depth : Json → Nat
  | .array items => depthOfItems items + 1
  | .object fields => depthOfFields fields + 1
  | _ => 0

def depthOfItems : List Json → Nat
  | [] => 0
  | j :: js => max j.depth (depthOfItems js)

def depthOfFields : List (Option String × Json) → Nat
  | [] => 0
  | (_, j) :: js => max j.depth (depthOfFields js)

end

mutual

/-- Whether every string is a text and every number has a finite nearest floating-point number. -/
def isReadable : Json → Bool
  | .integer v => !(Binary64.nearest (v < 0) v.natAbs 1).isInfinite
  | .real d => !(Binary64.ofDecimal d).isInfinite
  | .string s => s.isSome
  | .array items => areReadable items
  | .object fields => areReadableFields fields
  | _ => true

def areReadable : List Json → Bool
  | [] => true
  | j :: js => j.isReadable && areReadable js

def areReadableFields : List (Option String × Json) → Bool
  | [] => true
  | (name, j) :: js => name.isSome && j.isReadable && areReadableFields js

end

end Json

end Tributary
