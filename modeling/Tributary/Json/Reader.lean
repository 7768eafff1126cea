import Tributary.Json.Basic
import Tributary.Text.Utf8

/-!
# Reading JSON

Text is read from bytes, since a peer may send what is no text. Outside of strings only ASCII has
a meaning; the bytes of a string are looked at when it is put together. Each reader returns the
bytes that follow.
-/

namespace Tributary.Json

open Text

def isSpace (b : UInt8) : Bool :=
  b == 0x20 || b == 0x0A || b == 0x0D || b == 0x09

def skipSpace (bytes : List UInt8) : List UInt8 :=
  bytes.dropWhile isSpace

/-! ## Strings -/

/-- What a string is written with: bytes, and escaped code units. -/
inductive StringPart where
  | byte (b : UInt8)
  | unit (n : Nat)
  deriving DecidableEq, Repr

/-- The byte that a letter after a backslash stands for. -/
def escaped? (b : UInt8) : Option UInt8 :=
  if b == 0x22 || b == 0x5C || b == 0x2F then some b
  else if b == 0x62 then some 8
  else if b == 0x66 then some 12
  else if b == 0x6E then some 10
  else if b == 0x72 then some 13
  else if b == 0x74 then some 9
  else none

def codeUnit? (a b c d : UInt8) : Option Nat := do
  let digit (x : UInt8) := hexDigit? (Char.ofNat x.toNat)
  some (4096 * (← digit a).val + 256 * (← digit b).val + 16 * (← digit c).val + (← digit d).val)

/-- The parts of a string up to its closing quote. -/
def readParts : List UInt8 → Option (List StringPart × List UInt8)
  | [] => none
  | 0x22 :: rest => some ([], rest)
  | 0x5C :: 0x75 :: a :: b :: c :: d :: rest => do
    let n ← codeUnit? a b c d
    let (parts, rest) ← readParts rest
    some (.unit n :: parts, rest)
  | 0x5C :: e :: rest => do
    let b ← escaped? e
    let (parts, rest) ← readParts rest
    some (.byte b :: parts, rest)
  | b :: rest =>
    if b < 0x20 then none
    else do
      let (parts, rest) ← readParts rest
      some (.byte b :: parts, rest)

/-- The bytes of a string, unless it holds a lone surrogate. -/
def joinParts : List StringPart → Option (List UInt8)
  | [] => some []
  | .byte b :: parts => (joinParts parts).map (b :: ·)
  | .unit n :: parts =>
    if 0xD800 ≤ n ∧ n < 0xDC00 then
      match parts with
      | .unit m :: parts =>
        if 0xDC00 ≤ m ∧ m < 0xE000 then
          let c := Char.ofNat (0x10000 + 1024 * (n - 0xD800) + (m - 0xDC00))
          (joinParts parts).map (String.utf8EncodeChar c ++ ·)
        else none
      | _ => none
    else if 0xDC00 ≤ n ∧ n < 0xE000 then none
    else (joinParts parts).map (String.utf8EncodeChar (Char.ofNat n) ++ ·)

def partsText? (parts : List StringPart) : Option String := do
  let bytes ← joinParts parts
  let cs ← Utf8.decode? bytes
  some (String.ofList cs)

/-- Reads a string after its opening quote. -/
def readString (bytes : List UInt8) : Option (Option String × List UInt8) :=
  (readParts bytes).map fun (parts, rest) => (partsText? parts, rest)

/-! ## Numbers -/

def byteDigit? (b : UInt8) : Option Nat :=
  digit? (Char.ofNat b.toNat)

def spanDigits : List UInt8 → List Nat × List UInt8
  | [] => ([], [])
  | b :: bs =>
    match byteDigit? b with
    | some d => ((d :: (spanDigits bs).1), (spanDigits bs).2)
    | none => ([], b :: bs)

/-- Reads a fraction, if a point begins one. -/
def readFraction : List UInt8 → Option (List Nat × List UInt8)
  | 0x2E :: rest =>
    match spanDigits rest with
    | ([], _) => none
    | r => some r
  | bytes => some ([], bytes)

def readPower (negative : Bool) (bytes : List UInt8) : Option (Option Int × List UInt8) :=
  match spanDigits bytes with
  | ([], _) => none
  | (ds, rest) => some (some (if negative then -(digitsValue ds : Int) else digitsValue ds), rest)

def readExponent : List UInt8 → Option (Option Int × List UInt8)
  | e :: rest =>
    if e == 0x65 || e == 0x45 then
      match rest with
      | 0x2B :: rest => readPower false rest
      | 0x2D :: rest => readPower true rest
      | rest => readPower false rest
    else some (none, e :: rest)
  | [] => some (none, [])

/-- Reads a number after its sign. -/
def readUnsigned (negative : Bool) (bytes : List UInt8) : Option (Json × List UInt8) := do
  let (integral, rest) := spanDigits bytes
  match integral with
  | [] => none
  | 0 :: _ :: _ => none
  | _ =>
    let (fraction, rest) ← readFraction rest
    let (exponent, rest) ← readExponent rest
    let value := digitsValue integral
    if fraction.isEmpty && exponent.isNone && !(negative && value == 0) then
      some (.integer (if negative then -(value : Int) else value), rest)
    else some (.real ⟨negative, integral, fraction, exponent.getD 0⟩, rest)

/-! ## Values -/

mutual

/-- Reads a value whose first byte comes next. -/
def readValue : Nat → List UInt8 → Option (Json × List UInt8)
  | 0, _ => none
  | fuel + 1, bytes =>
    match bytes with
    | 0x6E :: 0x75 :: 0x6C :: 0x6C :: rest => some (.null, rest)
    | 0x74 :: 0x72 :: 0x75 :: 0x65 :: rest => some (.bool true, rest)
    | 0x66 :: 0x61 :: 0x6C :: 0x73 :: 0x65 :: rest => some (.bool false, rest)
    | 0x22 :: rest => (readString rest).map fun (s, rest) => (.string s, rest)
    | 0x5B :: rest =>
      match skipSpace rest with
      | 0x5D :: rest => some (.array [], rest)
      | rest => (readItems fuel rest).map fun (items, rest) => (.array items, rest)
    | 0x7B :: rest =>
      match skipSpace rest with
      | 0x7D :: rest => some (.object [], rest)
      | rest => (readFields fuel rest).map fun (fields, rest) => (.object fields, rest)
    | 0x2D :: rest => readUnsigned true rest
    | bytes => readUnsigned false bytes

/-- Reads the items of an array up to its closing bracket; at least one comes next. -/
def readItems : Nat → List UInt8 → Option (List Json × List UInt8)
  | 0, _ => none
  | fuel + 1, bytes => do
    let (item, rest) ← readValue fuel bytes
    match skipSpace rest with
    | 0x5D :: rest => some ([item], rest)
    | 0x2C :: rest =>
      let (items, rest) ← readItems fuel (skipSpace rest)
      some (item :: items, rest)
    | _ => none

/-- Reads the fields of an object up to its closing brace; at least one comes next. -/
def readFields : Nat → List UInt8 → Option (List (Option String × Json) × List UInt8)
  | 0, _ => none
  | fuel + 1, bytes =>
    match bytes with
    | 0x22 :: rest => do
      let (name, rest) ← readString rest
      match skipSpace rest with
      | 0x3A :: rest =>
        let (value, rest) ← readValue fuel (skipSpace rest)
        match skipSpace rest with
        | 0x7D :: rest => some ([(name, value)], rest)
        | 0x2C :: rest =>
          let (fields, rest) ← readFields fuel (skipSpace rest)
          some ((name, value) :: fields, rest)
        | _ => none
      | _ => none
    | _ => none

end

/-- Reads one value with white space around it. Each level of recursion but every other one takes
a byte, so twice the length of the input bounds it. -/
def read? (bytes : List UInt8) : Option Json := do
  let (value, rest) ← readValue (2 * bytes.length + 2) (skipSpace bytes)
  if (skipSpace rest).isEmpty then some value else none

def ofString? (s : String) : Option Json :=
  read? (utf8Bytes s)

end Tributary.Json
