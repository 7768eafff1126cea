import Tributary.Text.Form
import Tributary.Url.Domain.Joining
import Tributary.Url.Domain.Mapping
import Tributary.Url.Punycode

/-!
# Domain names

A domain goes on the wire in lower-case ASCII characters. What a user types is mapped and brought
into normal form first; a label that is no ASCII text then is written in Punycode behind `xn--`. A
label that comes in this form has to stand for one that would be written so.
-/

namespace Tributary.Url.Domain

open Text

def isAscii (cs : List Char) : Bool :=
  cs.all fun c => c.toNat < 0x80

/-- The characters that no domain holds: controls, the space, delimiters and the percent sign. -/
def isForbidden (c : Char) : Bool :=
  c.toNat ≤ 0x20 || c.toNat == 0x7F ||
    ['#', '%', '/', ':', '<', '>', '?', '@', '[', '\\', ']', '^', '|'].contains c

/-- What is meant by a text that is typed as a domain, if all of its characters are allowed. -/
def normalized? (cs : List Char) : Option (List Char) :=
  if isAscii cs then some (cs.map Char.toLower)
  else (cs.mapM mapped?).map fun parts => Composition.normalForm parts.flatten

/-- Whether a label can stand in a domain: it does not begin with a mark, and has joiners only
where they have an effect. -/
def isLabel (label : List Char) : Bool :=
  isAscii label || (!(label.head?.map isMark).getD false && joinsWell [] label)

def code? : List Char → Option (List Char)
  | 'x' :: 'n' :: '-' :: '-' :: code => some code
  | _ => none

def written (label : List Char) : List Char :=
  if isAscii label then label else "xn--".toList ++ Punycode.encode label

/-- The label that a label stands for. A code has to stand for a label in normal form that is no
ASCII text, and to be the one that this label is written with. -/
def meant? (label : List Char) : Option (List Char) :=
  match code? label with
  | none => some label
  | some code => do
    let text ← Punycode.decode? code
    if isAscii text = false ∧ normalized? text = some text ∧ written text = label then some text
    else none

def joined : List (List Char) → List Char
  | [] => []
  | [label] => label
  | label :: labels => label ++ '.' :: joined labels

/-- Whether labels keep to one direction each, which counts as soon as one of them has a letter
that runs from right to left. -/
def keepDirections (labels : List (List Char)) : Bool :=
  !labels.any isDirected || labels.all keepsDirection

/-- The form of a domain that goes on the wire. -/
def toAscii? (cs : List Char) : Option (List Char) := do
  let text ← normalized? cs
  let labels ← (Form.splitOn '.' text).mapM meant?
  if !text.any isForbidden && labels.all isLabel && keepDirections labels then
    some (joined (labels.map written))
  else none

end Tributary.Url.Domain
