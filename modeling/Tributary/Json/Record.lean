import Tributary.Json.Basic
import Tributary.Uuid

/-!
# Reading records

A record is read from an object by the names of its fields, or from an array by their order. Of an
object, fields with other names are passed over, and a name given twice is a fault; an array may
be shorter than the record and not longer. A field that is left out may have a default.
-/

namespace Tributary.Json

def valuesOf (name : String) (fields : List (Option String × Json)) : List Json :=
  (fields.filter (·.1 == some name)).map (·.2)

/-- The value of a field that is given at most once: `none` is a field given twice, `some none`
one that is left out. -/
def valueOf? (name : String) (fields : List (Option String × Json)) : Option (Option Json) :=
  match valuesOf name fields with
  | [] => some none
  | [j] => some (some j)
  | _ => none

def fields? (names : List String) : Json → Option (List (Option Json))
  | .object fields =>
    if fields.all (·.1.isSome) then names.mapM fun name => valueOf? name fields else none
  | .array items =>
    if items.length ≤ names.length then
      some (items.map some ++ List.replicate (names.length - items.length) none)
    else none
  | _ => none

def required (item : Json → Option α) : Option Json → Option α
  | none => none
  | some j => item j

def defaulted (default : α) (item : Json → Option α) : Option Json → Option α
  | none => some default
  | some j => item j

/-- A field that may be left out or null. -/
def optional (item : Json → Option α) : Option Json → Option (Option α)
  | none => some none
  | some .null => some none
  | some j => (item j).map some

/-- A value that may be null. -/
def nullable (item : Json → Option α) : Json → Option (Option α)
  | .null => some none
  | j => (item j).map some

def string? : Json → Option String
  | .string s => s
  | _ => none

def bool? : Json → Option Bool
  | .bool b => some b
  | _ => none

def integer? (bounds : Integer.Bounds) : Json → Option Int
  | .integer v => if bounds.contains v then some v else none
  | _ => none

def uuid? (j : Json) : Option Uuid :=
  j.string?.bind fun s => Uuid.read? s.toList

def list? (item : Json → Option α) : Json → Option (List α)
  | .array items => items.mapM item
  | _ => none

/-- Sets the value of a name in a list of entries, in place if it has one. -/
def setEntry (entries : List (String × α)) (name : String) (value : α) : List (String × α) :=
  if entries.any (·.1 == name) then
    entries.map fun e => if e.1 == name then (name, value) else e
  else entries ++ [(name, value)]

/-- Reads fields into entries; of a name given twice the last value counts. -/
def readEntries (item : Json → Option α) (entries : List (String × α)) :
    List (Option String × Json) → Option (List (String × α))
  | [] => some entries
  | (none, _) :: _ => none
  | (some name, j) :: fields => do
    let value ← item j
    readEntries item (setEntry entries name value) fields

def map? (item : Json → Option α) : Json → Option (List (String × α))
  | .object fields => readEntries item [] fields
  | _ => none

/-- A field that is written only where it has a value. -/
def optionalField (name : String) (item : α → Json) : Option α → List (String × Json)
  | none => []
  | some a => [(name, item a)]

end Tributary.Json
