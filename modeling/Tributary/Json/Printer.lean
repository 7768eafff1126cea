import Tributary.Json.Basic
import Tributary.Text.Ascii

/-!
# Writing JSON

Compact text: no white space, and in strings only the quote, the backslash and control characters
below the space are escaped.
-/

namespace Tributary.Json

open Text

def escapeChar (c : Char) : List Char :=
  if c = '"' then ['\\', '"']
  else if c = '\\' then ['\\', '\\']
  else if c = Char.ofNat 8 then ['\\', 'b']
  else if c = Char.ofNat 12 then ['\\', 'f']
  else if c = '\n' then ['\\', 'n']
  else if c = '\r' then ['\\', 'r']
  else if c = '\t' then ['\\', 't']
  else if c.toNat < 0x20 then
    ['\\', 'u', '0', '0', hexChar (hexValue (c.toNat / 16)), hexChar (hexValue c.toNat)]
  else [c]

def writeString (s : String) : List Char :=
  '"' :: s.toList.flatMap escapeChar ++ ['"']

def writeReal (d : Decimal) : List Char :=
  let digits (ds : List Nat) := ds.flatMap (Nat.toDigits 10)
  (if d.negative then ['-'] else []) ++ digits d.integral ++
    (if d.fraction.isEmpty then [] else '.' :: digits d.fraction) ++ 'e' :: Integer.text d.exponent

def commaSeparated : List (List Char) → List Char
  | [] => []
  | [cs] => cs
  | cs :: ds :: rest => cs ++ ',' :: commaSeparated (ds :: rest)

mutual

/-- The text of a value. A string that is no text is written as an empty one. -/
def write : Json → List Char
  | .null => ['n', 'u', 'l', 'l']
  | .bool true => ['t', 'r', 'u', 'e']
  | .bool false => ['f', 'a', 'l', 's', 'e']
  | .integer v => Integer.text v
  | .real d => writeReal d
  | .string s => writeString (s.getD "")
  | .array items => '[' :: commaSeparated (writeItems items) ++ [']']
  | .object fields => '\x7b' :: commaSeparated (writeFields fields) ++ ['\x7d']

def writeItems : List Json → List (List Char)
  | [] => []
  | j :: js => j.write :: writeItems js

def writeFields : List (Option String × Json) → List (List Char)
  | [] => []
  | (name, j) :: js => (writeString (name.getD "") ++ ':' :: j.write) :: writeFields js

end

def toString (j : Json) : String :=
  String.ofList j.write

end Tributary.Json
