import Tributary.Text.Ascii

/-!
# Tables of code points

Properties of characters, as a standard lists them. A table is written as lines of rows: a code
point, or a range of them by its ends, in hexadecimal; after a slash the distance from one code
point of the range to the next, if it is not one; and after `>` the values of the row, with points
between them.
-/

namespace Tributary.Text

/-- A row of a table. -/
structure CodeRow where
  first : Nat
  last : Nat
  distance : Nat
  values : List Nat
  deriving DecidableEq, Repr

abbrev CodeTable := List CodeRow

namespace CodeTable

def cut (mark : Char) (cs : List Char) : List Char × List Char :=
  (cs.takeWhile (· != mark), (cs.dropWhile (· != mark)).drop 1)

def value (cs : List Char) : Nat :=
  cs.foldl (fun n c => 16 * n + ((hexDigit? c).map Fin.val).getD 0) 0

/-- The parts of a text between occurrences of a character, without empty parts. -/
def parts (mark : Char) (cs : List Char) : List (List Char) :=
  let step (c : Char) (found : List (List Char)) : List (List Char) :=
    if c = mark then [] :: found
    else match found with
      | part :: found => (c :: part) :: found
      | [] => [[c]]
  (cs.foldr step [[]]).filter (!·.isEmpty)

def readRow (cs : List Char) : CodeRow :=
  let (source, values) := cut '>' cs
  let (span, distance) := cut '/' source
  let (first, last) := cut '-' span
  { first := value first
    last := if last.isEmpty then value first else value last
    distance := if distance.isEmpty then 1 else value distance
    values := (parts '.' values).map value }

def read (lines : List String) : CodeTable :=
  lines.flatMap fun line => (parts ' ' line.toList).map readRow

def row? (t : CodeTable) (n : Nat) : Option CodeRow :=
  t.find? fun r => r.first ≤ n && n ≤ r.last && (n - r.first) % r.distance == 0

def contains (t : CodeTable) (c : Char) : Bool :=
  (t.row? c.toNat).isSome

example : read ["41-5a>61", "c4/2>61.308"] =
    [⟨0x41, 0x5A, 1, [0x61]⟩, ⟨0xC4, 0xC4, 2, [0x61, 0x308]⟩] := by
  decide +kernel

end CodeTable

end Tributary.Text
