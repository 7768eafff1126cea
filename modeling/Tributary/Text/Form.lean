import Tributary.Text.Percent

/-!
# Form encoding

Names and values as they stand in a query: pairs are joined by `&`, a name and its value by `=`, a
space is written as a plus sign, and all but letters, digits and four signs by percent-encoding.
-/

namespace Tributary.Text.Form

/-- The characters that are written as they are. -/
def isPlain (c : Char) : Bool :=
  c.isAlphanum || c == '*' || c == '-' || c == '.' || c == '_'

def encode (s : String) : List Char :=
  s.toList.flatMap fun c => if c = ' ' then ['+'] else percentChar isPlain c

/-- Reads a name or a value. Bytes that are no text are replaced. -/
def decode (cs : List Char) : String :=
  String.ofList (Utf8.decodeLossy (percentDecode (cs.map fun c => if c = '+' then ' ' else c)))

def encodePair (pair : String × String) : List Char :=
  encode pair.1 ++ '=' :: encode pair.2

def append (query : List Char) : List (String × String) → List Char
  | [] => query
  | pair :: pairs =>
    append (if query.isEmpty then encodePair pair else query ++ '&' :: encodePair pair) pairs

def splitOn (separator : Char) : List Char → List (List Char)
  | [] => [[]]
  | c :: cs =>
    if c = separator then [] :: splitOn separator cs
    else match splitOn separator cs with
      | part :: parts => (c :: part) :: parts
      | [] => [[c]]

/-- Reads a pair; without `=` the value is empty. -/
def decodePair (cs : List Char) : String × String :=
  (decode (cs.takeWhile (· != '=')), decode ((cs.dropWhile (· != '=')).drop 1))

/-- The pairs of a query, empty parts apart. -/
def pairs (query : List Char) : List (String × String) :=
  ((splitOn '&' query).filter (!·.isEmpty)).map decodePair

end Tributary.Text.Form
