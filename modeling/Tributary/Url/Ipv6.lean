import Tributary.Number.Integer
import Tributary.Text.Form

/-!
# Internet addresses of 128 bits

An address is eight groups of up to four hexadecimal digits. Two colons stand for one or more zero
groups, at most once; the last two groups may be written as an address of 32 bits. Writing uses
two colons for the first of the longest runs of at least two zero groups.
-/

namespace Tributary.Url

open Text

/-- An address, group by group. -/
structure Ipv6 where
  groups : List Nat
  length_groups : groups.length = 8
  deriving DecidableEq

namespace Ipv6

def ofGroups? (groups : List Nat) : Option Ipv6 :=
  if h : groups.length = 8 then some ⟨groups, h⟩ else none

def group? (cs : List Char) : Option Nat :=
  if cs.isEmpty || 4 < cs.length then none
  else (cs.mapM hexDigit?).map fun ds => ds.foldl (fun value d => 16 * value + d.val) 0

/-- A decimal number of one byte without leading zeros. -/
def byte? (cs : List Char) : Option Nat :=
  match cs.mapM digit? with
  | none | some [] => none
  | some (0 :: _ :: _) => none
  | some ds =>
    let value := ds.foldl (fun value d => 10 * value + d) 0
    if value ≤ 255 then some value else none

def dotted? (cs : List Char) : Option (List Nat) :=
  match (Form.splitOn '.' cs).mapM byte? with
  | some [a, b, c, d] => some [256 * a + b, 256 * c + d]
  | _ => none

/-- Groups with colons between them, where the last may be an address of 32 bits. -/
def groups? (dottedLast : Bool) (cs : List Char) : Option (List Nat) :=
  if cs.isEmpty then some []
  else
    let parts := Form.splitOn ':' cs
    let last := parts.getLastD []
    if dottedLast && last.contains '.' then do
      let front ← parts.dropLast.mapM group?
      let back ← dotted? last
      some (front ++ back)
    else parts.mapM group?

/-- The text before and after the first two colons in a row. -/
def splitZeros? : List Char → Option (List Char × List Char)
  | [] => none
  | ':' :: ':' :: rest => some ([], rest)
  | c :: rest => (splitZeros? rest).map fun (front, back) => (c :: front, back)

def read? (cs : List Char) : Option Ipv6 :=
  match splitZeros? cs with
  | none => if cs.isEmpty then none else (groups? true cs).bind ofGroups?
  | some (front, back) => do
    let left ← groups? false front
    let right ← groups? true back
    if left.length + right.length ≤ 7 then
      ofGroups? (left ++ List.replicate (8 - left.length - right.length) 0 ++ right)
    else none

def zeros (groups : List Nat) : Nat :=
  (groups.takeWhile (· == 0)).length

/-- Where the first of the longest runs of zero groups starts, and its length, at least that of a
run found before. -/
def longestRun (best : Nat × Nat) (index : Nat) : List Nat → Nat × Nat
  | [] => best
  | g :: gs =>
    let run := zeros (g :: gs)
    longestRun (if best.2 < run then (index, run) else best) (index + 1) gs

def joined : List Nat → List Char
  | [] => []
  | [g] => Nat.toDigits 16 g
  | g :: h :: gs => Nat.toDigits 16 g ++ ':' :: joined (h :: gs)

def text (a : Ipv6) : List Char :=
  let (start, length) := longestRun (0, 0) 0 a.groups
  if length < 2 then joined a.groups
  else joined (a.groups.take start) ++ ':' :: ':' :: joined (a.groups.drop (start + length))

end Ipv6

end Tributary.Url
