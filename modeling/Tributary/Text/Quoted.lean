import Tributary.Text.Ascii
import Tributary.Text.Printable

/-!
# Quoted text and record layouts

How values are shown to a developer. A text stands between double quotes, with the quote and the
backslash escaped by a backslash, four control characters by a letter, and every character that is
not printable by its code. A record shows its fields by name.
-/

namespace Tributary.Text

def escapeChar (c : Char) : List Char :=
  if c = Char.ofNat 0 then ['\\', '0']
  else if c = '\t' then ['\\', 't']
  else if c = '\r' then ['\\', 'r']
  else if c = '\n' then ['\\', 'n']
  else if c = '"' then ['\\', '"']
  else if c = '\\' then ['\\', '\\']
  else if isPrintable c then [c]
  else ['\\', 'u', '\x7b'] ++ Nat.toDigits 16 c.toNat ++ ['\x7d']

def quoted (s : String) : String :=
  String.ofList ('"' :: s.toList.flatMap escapeChar ++ ['"'])

/-- An optional value, shown with `Some` around it or as `None`. -/
def optional (item : α → String) : Option α → String
  | none => "None"
  | some a => "Some(" ++ item a ++ ")"

def bracketed (items : List String) : String :=
  "[" ++ String.intercalate ", " items ++ "]"

/-- A record: its name, then each field with its shown value. -/
def record (name : String) (fields : List (String × String)) : String :=
  name ++ " \x7b " ++ String.intercalate ", " (fields.map fun f => f.1 ++ ": " ++ f.2) ++ " \x7d"

/-- A record around a single unnamed value. -/
def wrapped (name value : String) : String :=
  name ++ "(" ++ value ++ ")"

def truth (b : Bool) : String :=
  if b then "true" else "false"

end Tributary.Text
