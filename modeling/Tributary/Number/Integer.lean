import Tributary.Text.Ascii

/-!
# Bounded integers

Reading an integer that has to lie between two bounds. The text is read from the left, and the
first character that cannot go on decides: a character that is no digit, or a digit that takes the
value out of bounds.
-/

namespace Tributary

open Text (digit?)

namespace Integer

inductive Fault where
  | empty
  | invalidDigit
  | tooLarge
  | tooSmall
  deriving DecidableEq, Repr

def Fault.message : Fault → String
  | .empty => "cannot parse integer from empty string"
  | .invalidDigit => "invalid digit found in string"
  | .tooLarge => "number too large to fit in target type"
  | .tooSmall => "number too small to fit in target type"

structure Bounds where
  least : Int
  greatest : Int
  deriving DecidableEq, Repr

def int64 : Bounds := ⟨-0x8000000000000000, 0x7FFFFFFFFFFFFFFF⟩

def int32 : Bounds := ⟨-0x80000000, 0x7FFFFFFF⟩

def nat64 : Bounds := ⟨0, 0xFFFFFFFFFFFFFFFF⟩

def nat32 : Bounds := ⟨0, 0xFFFFFFFF⟩

def Bounds.contains (b : Bounds) (v : Int) : Bool :=
  b.least ≤ v && v ≤ b.greatest

theorem Bounds.contains_iff {b : Bounds} {v : Int} :
    b.contains v = true ↔ b.least ≤ v ∧ v ≤ b.greatest := by
  rw [contains, Bool.and_eq_true, decide_eq_true_eq, decide_eq_true_eq]

/-- Reads more digits of a non-negative value. -/
def readUp (greatest : Int) (value : Int) : List Char → Except Fault Int
  | [] => .ok value
  | c :: cs =>
    match digit? c with
    | none => .error .invalidDigit
    | some d =>
      if 10 * value + d ≤ greatest then readUp greatest (10 * value + d) cs
      else .error .tooLarge

/-- Reads more digits of a negative value. -/
def readDown (least : Int) (value : Int) : List Char → Except Fault Int
  | [] => .ok value
  | c :: cs =>
    match digit? c with
    | none => .error .invalidDigit
    | some d =>
      if least ≤ 10 * value - d then readDown least (10 * value - d) cs
      else .error .tooSmall

def afterSign (read : List Char → Except Fault Int) (cs : List Char) : Except Fault Int :=
  if cs.isEmpty then .error .invalidDigit else read cs

/-- Reads an integer within bounds: digits, after a plus sign or, where the bounds admit negative
values, after a minus sign. -/
def read (b : Bounds) : List Char → Except Fault Int
  | [] => .error .empty
  | '+' :: cs => afterSign (readUp b.greatest 0) cs
  | '-' :: cs =>
    if b.least < 0 then afterSign (readDown b.least 0) cs else .error .invalidDigit
  | cs => readUp b.greatest 0 cs

def text : Int → List Char
  | .ofNat n => Nat.toDigits 10 n
  | .negSucc n => '-' :: Nat.toDigits 10 (n + 1)

end Integer

end Tributary
