import Tributary.Text.Ascii

/-!
# Punycode

Any text as lower-case letters, digits and hyphens. The ASCII characters stand first; the others
are inserted one by one, in ascending order and from left to right, and each is given by how many
places were passed over since the one before. These numbers are written to base 36 with thresholds
that follow the numbers before.
-/

namespace Tributary.Url.Punycode

def isBasic (c : Char) : Bool := c.toNat < 0x80

def digitChar (v : Nat) : Char :=
  if v < 26 then Char.ofNat ('a'.toNat + v) else Char.ofNat ('0'.toNat + (v - 26))

def digit? (c : Char) : Option Nat :=
  if 'a' ≤ c ∧ c ≤ 'z' then some (c.toNat - 'a'.toNat)
  else if 'A' ≤ c ∧ c ≤ 'Z' then some (c.toNat - 'A'.toNat)
  else if '0' ≤ c ∧ c ≤ '9' then some (c.toNat - '0'.toNat + 26)
  else none

/-- The threshold of the digit at a place, counted in steps of 36. -/
def threshold (place bias : Nat) : Nat :=
  max 1 (min 26 (place - bias))

def scale (delta place : Nat) : Nat :=
  if h : 455 < delta then scale (delta / 35) (place + 36)
  else place + 36 * delta / (delta + 38)
termination_by delta
decreasing_by omega

def adapt (delta count : Nat) (isFirst : Bool) : Nat :=
  let delta := if isFirst then delta / 700 else delta / 2
  scale (delta + delta / count) 0

/-- Where a text stands while its characters are inserted: how many there are, the bias, and
whether none has been inserted so far. -/
structure State where
  count : Nat
  bias : Nat := 72
  isFirst : Bool := true

def State.next (s : State) (delta : Nat) : State :=
  { count := s.count + 1, bias := adapt delta (s.count + 1) s.isFirst, isFirst := false }

/-! ## Writing -/

/-- Writes a number, beginning at a place. -/
def digits (bias place q : Nat) : List Char :=
  let t := threshold place bias
  if h : q < t then [digitChar q]
  else digitChar (t + (q - t) % (36 - t)) :: digits bias (place + 36) ((q - t) / (36 - t))
termination_by q
decreasing_by
  have ht : 1 ≤ threshold place bias := Nat.le_max_left ..
  exact Nat.lt_of_le_of_lt (Nat.div_le_self ..) (by omega)

/-- Writes the places of one character in a text; `delta` places have been passed over. -/
def placesOf (m : Nat) : State → Nat → List Char → List Char × State × Nat
  | s, delta, [] => ([], s, delta)
  | s, delta, c :: cs =>
    if c.toNat < m then placesOf m s (delta + 1) cs
    else if c.toNat = m then
      let (rest, s', delta') := placesOf m (s.next delta) 0 cs
      (digits s.bias 36 delta ++ rest, s', delta')
    else placesOf m s delta cs

/-- Writes the places of characters in a text, in ascending order from `n` on. -/
def places (cs : List Char) : State → Nat → Nat → List Nat → List Char
  | _, _, _, [] => []
  | s, n, delta, m :: ms =>
    let (written, s, delta) := placesOf m s (delta + (m - n) * (s.count + 1)) cs
    written ++ places cs s (m + 1) (delta + 1) ms

def insertPoint (n : Nat) : List Nat → List Nat
  | [] => [n]
  | m :: ms => if n < m then n :: m :: ms else if n = m then m :: ms else m :: insertPoint n ms

/-- The code points that have to be inserted. -/
def points (cs : List Char) : List Nat :=
  ((cs.filter (!isBasic ·)).map Char.toNat).foldr insertPoint []

def encode (cs : List Char) : List Char :=
  let basic := cs.filter isBasic
  (if basic.isEmpty then [] else basic ++ ['-']) ++
    places cs { count := basic.length } 0x80 0 (points cs)

/-! ## Reading -/

def number? (bias : Nat) : (place weight sum : Nat) → List Char → Option (Nat × List Char)
  | _, _, _, [] => none
  | place, weight, sum, c :: cs => do
    let d ← digit? c
    let t := threshold place bias
    let sum := sum + d * weight
    if d < t then some (sum, cs) else number? bias (place + 36) (weight * (36 - t)) sum cs

theorem number?_shorter {bias place weight sum n : Nat} {cs rest : List Char}
    (h : number? bias place weight sum cs = some (n, rest)) : rest.length < cs.length := by
  induction cs generalizing place weight sum with
  | nil => cases h
  | cons c cs ih =>
    simp only [number?, Option.bind_eq_bind, Option.bind_eq_some_iff] at h
    obtain ⟨d, -, h⟩ := h
    split at h
    · cases h; exact Nat.lt_succ_self _
    · exact Nat.lt_succ_of_lt (ih h)

/-- Inserts the characters that are written, into the text so far; `i` places from its beginning
on and from code point `n` on. -/
def insertAll (s : State) (n i : Nat) (text : List Char) (cs : List Char) : Option (List Char) :=
  if cs.isEmpty then some text
  else
    match _h : number? s.bias 36 1 0 cs with
    | none => none
    | some (delta, rest) =>
      let i := i + delta
      let n := n + i / (s.count + 1)
      let i := i % (s.count + 1)
      if n.isValidChar then
        insertAll (s.next delta) n (i + 1) (text.take i ++ Char.ofNat n :: text.drop i) rest
      else none
termination_by cs.length
decreasing_by exact number?_shorter _h

def splitBasic (cs : List Char) : List Char × List Char :=
  match cs.reverse.dropWhile (· != '-') with
  | [] => ([], cs)
  | _ :: front => (front.reverse, (cs.reverse.takeWhile (· != '-')).reverse)

def decode? (cs : List Char) : Option (List Char) :=
  let (basic, rest) := splitBasic cs
  if basic.all isBasic then insertAll { count := basic.length } 0x80 0 basic rest else none

example : encode "bücher".toList = "bcher-kva".toList := by decide +kernel

example : decode? "bcher-kva".toList = some "bücher".toList := by decide +kernel

end Tributary.Url.Punycode
