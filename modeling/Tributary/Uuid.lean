import Tributary.Text.Ascii

/-!
# Identifiers of 128 bits

An identifier is 32 hexadecimal digits. It is written in five groups joined by hyphens, and read
in that form, without hyphens, in braces, or as a URN.
-/

namespace Tributary

open Text

/-- An identifier, digit by digit. -/
structure Uuid where
  digits : List (Fin 16)
  length_digits : digits.length = 32
  deriving DecidableEq

namespace Uuid

def ofDigits? (digits : List (Fin 16)) : Option Uuid :=
  if h : digits.length = 32 then some ⟨digits, h⟩ else none

/-- Digits joined into the groups of 8, 4, 4, 4 and 12. -/
def hyphenate (cs : List Char) : List Char :=
  cs.take 8 ++ '-' :: (cs.drop 8).take 4 ++ '-' :: (cs.drop 12).take 4 ++
    '-' :: (cs.drop 16).take 4 ++ '-' :: cs.drop 20

def text (u : Uuid) : List Char :=
  hyphenate (u.digits.map hexChar)

def toString (u : Uuid) : String :=
  String.ofList u.text

def readSimple? (cs : List Char) : Option Uuid :=
  (cs.mapM hexDigit?).bind ofDigits?

/-- Reads five groups of digits joined by hyphens. -/
def readHyphenated? (cs : List Char) : Option Uuid :=
  if cs.length = 36 ∧ cs = hyphenate (cs.filter (· != '-')) then
    readSimple? (cs.filter (· != '-'))
  else none

/-- Reads an identifier in any of its forms. -/
def read? (cs : List Char) : Option Uuid :=
  match cs with
  | '\x7b' :: rest => if cs.getLast? = some '\x7d' then readHyphenated? rest.dropLast else none
  | 'u' :: 'r' :: 'n' :: ':' :: 'u' :: 'u' :: 'i' :: 'd' :: ':' :: rest => readHyphenated? rest
  | _ => if cs.length = 32 then readSimple? cs else readHyphenated? cs

end Uuid

end Tributary
