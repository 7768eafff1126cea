import Tributary.Proofs.Number.Decimal

/-!
# Numerals

How a decimal number is written: a sign, digits before and after a point, and an exponent, where
only some digit is required. Reading accepts exactly the texts of numerals whose exponent is a
signed word of 64 bits, and finds the parts that the text was put together from.
-/

namespace Tributary

open Text

/-! ## Texts of numerals -/

/-- A sign that is written. -/
inductive Sign where
  | plus
  | minus
  deriving DecidableEq, Repr

namespace Sign

/-- Writes a sign, if there is one. -/
def text : Option Sign → List Char
  | none => []
  | some .plus => ['+']
  | some .minus => ['-']

/-- Whether a number is negative. -/
def isMinus (s : Option Sign) : Bool := s == some .minus

end Sign

/-- Writes digits. -/
def digitsText (ds : List (Fin 10)) : List Char :=
  ds.map fun (d : Fin 10) => Char.ofNat ('0'.toNat + d.val)

/-- An exponent that is written: its letter, which may be a capital, a sign and some digits. -/
structure Exponent where
  isCapital : Bool
  sign : Option Sign
  digits : List (Fin 10)
  digits_ne_nil : digits ≠ []
  deriving DecidableEq, Repr

namespace Exponent

/-- Writes what follows the letter of an exponent. -/
def afterLetter (e : Exponent) : List Char :=
  Sign.text e.sign ++ digitsText e.digits

/-- Writes an exponent, if there is one. -/
def text : Option Exponent → List Char
  | none => []
  | some e => (if e.isCapital then 'E' else 'e') :: e.afterLetter

/-- The value of an exponent. -/
def value (e : Exponent) : Int :=
  if Sign.isMinus e.sign then -(digitsValue (e.digits.map Fin.val) : Int)
  else digitsValue (e.digits.map Fin.val)

end Exponent

/-- A decimal number that is written: digits with or without a point, of which there is at least
one, with or without a sign in front and an exponent behind. -/
structure Numeral where
  sign : Option Sign
  integral : List (Fin 10)
  /-- The digits after the point, if there is a point. -/
  fraction : Option (List (Fin 10))
  exponent : Option Exponent
  has_digit : integral ≠ [] ∨ fraction.getD [] ≠ []
  deriving DecidableEq, Repr

namespace Numeral

/-- Writes the digits and the point. -/
def mantissa (n : Numeral) : List Char :=
  digitsText n.integral ++
    match n.fraction with
    | none => []
    | some ds => '.' :: digitsText ds

/-- Writes a numeral. -/
def text (n : Numeral) : List Char :=
  Sign.text n.sign ++ n.mantissa ++ Exponent.text n.exponent

/-- The value of the exponent, zero where there is none. -/
def scale (n : Numeral) : Int :=
  (n.exponent.map Exponent.value).getD 0

/-- The number of a numeral. -/
def decimal (n : Numeral) : Decimal :=
  { negative := Sign.isMinus n.sign
    integral := n.integral.map Fin.val
    fraction := (n.fraction.getD []).map Fin.val
    exponent := n.scale }

end Numeral

/-! ## Digits -/

namespace Text

theorem digit?_digit (d : Fin 10) : digit? (Char.ofNat ('0'.toNat + d.val)) = some d.val := by
  revert d
  decide

/-- A digit is the character of its value. -/
theorem eq_digit_of_digit? {c : Char} {v : Nat} (h : digit? c = some v) :
    ∃ d : Fin 10, d.val = v ∧ c = Char.ofNat ('0'.toNat + d.val) := by
  obtain ⟨hlow, hhigh⟩ := bounds_of_digit? h
  unfold digit? at h
  split at h
  · cases h
    refine ⟨⟨c.toNat - '0'.toNat, ?_⟩, rfl, ?_⟩
    · show c.toNat - 48 < 10
      omega
    · show c = Char.ofNat (48 + (c.toNat - 48))
      rw [Nat.add_sub_cancel' hlow, Char.ofNat_toNat]
  · cases h

end Text

namespace Decimal

theorem digits?_digitsText (ds : List (Fin 10)) :
    digits? (digitsText ds) = some (ds.map Fin.val) := by
  induction ds with
  | nil => rfl
  | cons d ds ih => exact digits?_cons (digit?_digit d) ih

theorem eq_digitsText_of_digits? {cs : List Char} {vs : List Nat} (h : digits? cs = some vs) :
    ∃ ds, cs = digitsText ds ∧ vs = ds.map Fin.val := by
  induction cs generalizing vs with
  | nil =>
      cases h
      exact ⟨[], rfl, rfl⟩
  | cons c cs ih =>
      have hmap := map_digit?_of_digits? h
      cases vs with
      | nil => cases hmap
      | cons v vs =>
          rw [List.map_cons, List.map_cons, List.cons.injEq] at hmap
          obtain ⟨d, rfl, rfl⟩ := eq_digit_of_digit? hmap.1
          have hrest : digits? cs = some vs := by
            unfold digits? at h ⊢
            rw [List.mapM_cons, hmap.1] at h
            cases hcs : cs.mapM digit? with
            | none =>
                rw [hcs] at h
                cases h
            | some vs' =>
                rw [hcs] at h
                cases h
                rfl
          obtain ⟨ds, rfl, rfl⟩ := ih hrest
          exact ⟨d :: ds, rfl, rfl⟩

theorem digit?_of_mem_digitsText {ds : List (Fin 10)} {c : Char} (h : c ∈ digitsText ds) :
    ∃ v, digit? c = some v :=
  exists_digit?_of_digits? (digits?_digitsText ds) h

theorem digitsText_eq_nil {ds : List (Fin 10)} : digitsText ds = [] ↔ ds = [] :=
  List.map_eq_nil_iff

/-! ## Signs and cuts -/

/-- What is no sign is left where no sign is written. -/
theorem sign_text (s : Option Sign) {cs : List Char}
    (h : ∀ c ∈ cs.head?, c ≠ '-' ∧ c ≠ '+') :
    sign (Sign.text s ++ cs) = (Sign.isMinus s, cs) := by
  cases s with
  | some s => cases s <;> rfl
  | none =>
      cases cs with
      | nil => rfl
      | cons c cs =>
          obtain ⟨hminus, hplus⟩ := h c rfl
          show sign (c :: cs) = (false, c :: cs)
          unfold sign
          split
          next heq => exact absurd (List.cons.inj heq).1 hminus
          next heq => exact absurd (List.cons.inj heq).1 hplus
          next => rfl

theorem exists_sign (cs : List Char) :
    ∃ s, cs = Sign.text s ++ (sign cs).2 ∧ Sign.isMinus s = (sign cs).1 := by
  unfold sign
  split
  · exact ⟨some .minus, rfl, rfl⟩
  · exact ⟨some .plus, rfl, rfl⟩
  · exact ⟨none, rfl, rfl⟩

variable {p : Char → Bool}

theorem cut_of_forall {cs : List Char} (h : ∀ c ∈ cs, p c = false) : cut p cs = (cs, none) := by
  have hall : cs.dropWhile (fun c => !p c) = [] := by
    rw [List.dropWhile_eq_nil_iff]
    intro c hc
    rw [h c hc]
    rfl
  unfold cut
  rw [hall]

theorem cut_append {front rest : List Char} {c : Char} (h : ∀ c ∈ front, p c = false)
    (hc : p c = true) : cut p (front ++ c :: rest) = (front, some rest) := by
  have hfront : ∀ c ∈ front, (fun c => !p c) c = true := fun c hmem => by simp [h c hmem]
  have hdrop : (front ++ c :: rest).dropWhile (fun c => !p c) = c :: rest := by
    rw [List.dropWhile_append_of_pos hfront]
    simp [hc]
  have htake : (front ++ c :: rest).takeWhile (fun c => !p c) = front := by
    rw [List.takeWhile_append_of_pos hfront]
    simp [hc]
  unfold cut
  rw [hdrop, htake]

/-- A text is cut where the mark stands first, or not at all. -/
theorem cut_cases (p : Char → Bool) (cs : List Char) :
    cut p cs = (cs, none) ∨
      ∃ front c rest, cs = front ++ c :: rest ∧ p c = true ∧ cut p cs = (front, some rest) := by
  unfold cut
  cases hrest : cs.dropWhile fun c => !p c with
  | nil => exact .inl rfl
  | cons c rest =>
      right
      refine ⟨_, c, rest, ?_, ?_, rfl⟩
      · rw [← hrest, List.takeWhile_append_dropWhile]
      · have hhead := List.head?_dropWhile_not (fun c => !p c) cs
        rw [hrest] at hhead
        simpa using hhead

end Decimal

/-! ## Exponents -/

namespace Integer

theorem le_foldl_digits (ds : List Nat) (value : Nat) :
    value ≤ ds.foldl (fun value d => 10 * value + d) value := by
  induction ds generalizing value with
  | nil => exact Nat.le_refl value
  | cons d ds ih =>
      have hstep : value ≤ 10 * value + d := by omega
      exact Nat.le_trans hstep (ih _)

/-- Digits are read up to the greatest value, and no further. -/
theorem readUp_digitsText {greatest : Int} (ds : List (Fin 10)) {value : Nat}
    (hvalue : (value : Int) ≤ greatest) :
    readUp greatest value (digitsText ds) =
      let v : Int := ((ds.map Fin.val).foldl (fun value d => 10 * value + d) value : Nat)
      if v ≤ greatest then .ok v else .error .tooLarge := by
  induction ds generalizing value with
  | nil => exact (if_pos hvalue).symm
  | cons d ds ih =>
      have hnext : (10 * (value : Int) + d.val) = ((10 * value + d.val : Nat) : Int) := by omega
      show readUp greatest value (Char.ofNat ('0'.toNat + d.val) :: digitsText ds) = _
      unfold readUp
      rw [digit?_digit d]
      dsimp only
      rw [hnext]
      by_cases hle : ((10 * value + d.val : Nat) : Int) ≤ greatest
      · rw [if_pos hle]
        exact ih hle
      · have hfold := le_foldl_digits (ds.map Fin.val) (10 * value + d.val)
        rw [if_neg hle, List.map_cons, List.foldl_cons, if_neg (by omega)]

theorem readDown_digitsText {least : Int} (ds : List (Fin 10)) {value : Nat}
    (hvalue : least ≤ -(value : Int)) :
    readDown least (-(value : Int)) (digitsText ds) =
      let v : Int := -((ds.map Fin.val).foldl (fun value d => 10 * value + d) value : Nat)
      if least ≤ v then .ok v else .error .tooSmall := by
  induction ds generalizing value with
  | nil => exact (if_pos hvalue).symm
  | cons d ds ih =>
      have hnext : (10 * -(value : Int) - d.val) = -((10 * value + d.val : Nat) : Int) := by omega
      show readDown least (-(value : Int)) (Char.ofNat ('0'.toNat + d.val) :: digitsText ds) = _
      unfold readDown
      rw [digit?_digit d]
      dsimp only
      rw [hnext]
      by_cases hle : least ≤ -((10 * value + d.val : Nat) : Int)
      · rw [if_pos hle]
        exact ih hle
      · have hfold := le_foldl_digits (ds.map Fin.val) (10 * value + d.val)
        rw [if_neg hle, List.map_cons, List.foldl_cons, if_neg (by omega)]

end Integer

namespace Integer

theorem read_unsigned {b : Bounds} {ds : List (Fin 10)} (hds : ds ≠ []) :
    read b (digitsText ds) = readUp b.greatest 0 (digitsText ds) := by
  cases ds with
  | nil => exact absurd rfl hds
  | cons d ds =>
      have hd := digit?_digit d
      show read b (Char.ofNat ('0'.toNat + d.val) :: digitsText ds) = _
      unfold read
      split
      next h => cases h
      next h =>
        rw [(List.cons.inj h).1] at hd
        cases hd
      next h =>
        rw [(List.cons.inj h).1] at hd
        cases hd
      next => rfl

theorem readUp_int64 (ds : List (Fin 10)) :
    readUp int64.greatest 0 (digitsText ds) =
      if int64.contains (digitsValue (ds.map Fin.val)) then .ok ↑(digitsValue (ds.map Fin.val))
      else .error .tooLarge := by
  have hleast : int64.least ≤ 0 := by decide
  have hcontains : int64.contains (digitsValue (ds.map Fin.val)) = true ↔
      (digitsValue (ds.map Fin.val) : Int) ≤ int64.greatest := by
    rw [Bounds.contains_iff]
    omega
  rw [if_congr hcontains rfl rfl]
  have hzero : ((0 : Nat) : Int) ≤ int64.greatest := by decide
  exact readUp_digitsText ds hzero

theorem readDown_int64 (ds : List (Fin 10)) :
    readDown int64.least 0 (digitsText ds) =
      if int64.contains (-(digitsValue (ds.map Fin.val) : Int)) then
        .ok (-(digitsValue (ds.map Fin.val) : Int))
      else .error .tooSmall := by
  have hgreatest : 0 ≤ int64.greatest := by decide
  have hcontains : int64.contains (-(digitsValue (ds.map Fin.val) : Int)) = true ↔
      int64.least ≤ -(digitsValue (ds.map Fin.val) : Int) := by
    rw [Bounds.contains_iff]
    omega
  rw [if_congr hcontains rfl rfl]
  have hzero : int64.least ≤ -((0 : Nat) : Int) := by decide
  exact readDown_digitsText ds hzero

end Integer

namespace Exponent

open Integer (int64)

/-- What follows the letter of an exponent is read as its value, if that is a signed word. -/
theorem readExponent_afterLetter (e : Exponent) :
    Decimal.readExponent (some e.afterLetter) =
      if int64.contains e.value then .ok e.value else .error .exponent := by
  obtain ⟨isCapital, s, ds, hds⟩ := e
  have hafter (read : List Char → Except Integer.Fault Int) :
      Integer.afterSign read (digitsText ds) = read (digitsText ds) := by
    unfold Integer.afterSign
    rw [if_neg]
    intro h
    exact hds (Decimal.digitsText_eq_nil.mp (List.isEmpty_iff.mp h))
  cases s with
  | none =>
      show (Integer.read int64 (digitsText ds)).mapError _ =
        if int64.contains (digitsValue (ds.map Fin.val)) then _ else _
      rw [Integer.read_unsigned hds, Integer.readUp_int64]
      split <;> rfl
  | some s =>
      cases s with
      | plus =>
          show (Integer.afterSign (Integer.readUp _ _) (digitsText ds)).mapError _ =
            if int64.contains (digitsValue (ds.map Fin.val)) then _ else _
          rw [hafter, Integer.readUp_int64]
          split <;> rfl
      | minus =>
          show (Integer.afterSign (Integer.readDown _ _) (digitsText ds)).mapError _ =
            if int64.contains (-(digitsValue (ds.map Fin.val) : Int)) then _ else _
          rw [hafter, Integer.readDown_int64]
          split <;> rfl

/-- A text that is read as an exponent is what follows the letter of one. -/
theorem exists_of_readExponent {cs : List Char} {v : Int}
    (h : Decimal.readExponent (some cs) = .ok v) (isCapital : Bool) :
    ∃ e : Exponent, e.isCapital = isCapital ∧ e.afterLetter = cs := by
  have hread : Integer.read int64 cs = .ok v := by
    change (Integer.read int64 cs).mapError _ = .ok v at h
    cases hcs : Integer.read int64 cs with
    | error e =>
        rw [hcs] at h
        cases h
    | ok w =>
        rw [hcs] at h
        cases h
        rfl
  obtain ⟨vs, hdigits, hvs, -, -⟩ := Integer.of_read_eq_ok hread
  obtain ⟨s, hs, -⟩ := Decimal.exists_sign cs
  obtain ⟨ds, hds, rfl⟩ := Decimal.eq_digitsText_of_digits? hdigits
  have hne : ds ≠ [] := by
    rintro rfl
    exact hvs rfl
  refine ⟨⟨isCapital, s, ds, hne⟩, rfl, ?_⟩
  show Sign.text s ++ digitsText ds = cs
  rw [← hds]
  exact hs.symm

end Exponent

/-! ## Numerals are what is read -/

namespace Numeral

open Integer (int64)

theorem readExponent_exponent (n : Numeral) :
    Decimal.readExponent (n.exponent.map Exponent.afterLetter) =
      if int64.contains n.scale then .ok n.scale else .error .exponent := by
  unfold scale
  cases n.exponent with
  | none => rfl
  | some e => exact e.readExponent_afterLetter

/-- A character of the mantissa is a digit or the point. -/
theorem of_mem_mantissa {n : Numeral} {c : Char} (h : c ∈ n.mantissa) :
    (∃ v, digit? c = some v) ∨ c = '.' := by
  unfold mantissa at h
  rcases List.mem_append.mp h with h | h
  · exact .inl (Decimal.digit?_of_mem_digitsText h)
  · cases hfraction : n.fraction with
    | none =>
        rw [hfraction] at h
        cases h
    | some ds =>
        rw [hfraction] at h
        rcases List.mem_cons.mp h with rfl | h
        · exact .inr rfl
        · exact .inl (Decimal.digit?_of_mem_digitsText h)

/-- A mantissa has no character of a kind that neither digits nor the point are of. -/
theorem not_of_mem_mantissa {n : Numeral} {p : Char → Bool} (hpoint : p '.' = false)
    (hdigit : ∀ c, p c = true → digit? c = none) : ∀ c ∈ n.mantissa, p c = false := by
  intro c hc
  rcases of_mem_mantissa hc with ⟨v, hv⟩ | rfl
  · rw [Bool.eq_false_iff]
    intro hpc
    rw [hdigit c hpc] at hv
    cases hv
  · exact hpoint

theorem mantissa_ne_nil (n : Numeral) : n.mantissa ≠ [] := by
  intro h
  obtain ⟨hintegral, hrest⟩ := List.append_eq_nil_iff.mp h
  rcases n.has_digit with hdigit | hdigit
  · exact hdigit (Decimal.digitsText_eq_nil.mp hintegral)
  · cases hfraction : n.fraction with
    | none => exact hdigit (by rw [hfraction]; rfl)
    | some ds =>
        rw [hfraction] at hrest
        cases hrest

/-- The mantissa is not mistaken for a sign. -/
theorem sign_text (n : Numeral) :
    Decimal.sign n.text = (Sign.isMinus n.sign, n.mantissa ++ Exponent.text n.exponent) := by
  unfold text
  rw [List.append_assoc]
  refine Decimal.sign_text n.sign fun c hc => ?_
  have hmem : c ∈ n.mantissa := by
    obtain ⟨c', cs, hcons⟩ := List.exists_cons_of_ne_nil n.mantissa_ne_nil
    rw [hcons] at hc ⊢
    cases hc
    exact List.mem_cons_self
  rcases of_mem_mantissa hmem with ⟨v, hv⟩ | rfl
  · constructor
    all_goals
      rintro rfl
      cases hv
  · decide

/-- The exponent is cut off at its letter. -/
theorem cut_exponent (n : Numeral) :
    Decimal.cut (fun c => c == 'e' || c == 'E') (n.mantissa ++ Exponent.text n.exponent) =
      (n.mantissa, n.exponent.map Exponent.afterLetter) := by
  have hmantissa := n.not_of_mem_mantissa (p := fun c => c == 'e' || c == 'E') rfl <| by
    intro c hc
    rcases Bool.or_eq_true_iff.mp hc with hc | hc
    all_goals
      rw [beq_iff_eq.mp hc]
      rfl
  cases n.exponent with
  | none =>
      show Decimal.cut _ (n.mantissa ++ []) = (n.mantissa, none)
      rw [List.append_nil]
      exact Decimal.cut_of_forall hmantissa
  | some e =>
      refine Decimal.cut_append hmantissa ?_
      cases e.isCapital <;> rfl

/-- The fraction is cut off at the point. -/
theorem cut_mantissa (n : Numeral) :
    Decimal.cut (· == '.') n.mantissa = (digitsText n.integral, n.fraction.map digitsText) := by
  have hintegral : ∀ c ∈ digitsText n.integral, (c == '.') = false := by
    intro c hc
    obtain ⟨v, hv⟩ := Decimal.digit?_of_mem_digitsText hc
    rw [beq_eq_false_iff_ne]
    rintro rfl
    cases hv
  unfold mantissa
  cases n.fraction with
  | none =>
      show Decimal.cut _ (digitsText n.integral ++ []) = (digitsText n.integral, none)
      rw [List.append_nil]
      exact Decimal.cut_of_forall hintegral
  | some ds => exact Decimal.cut_append hintegral rfl

/-- The text of a numeral is read as its number, unless its exponent is no signed word. -/
theorem read_text (n : Numeral) :
    Decimal.read n.text = if int64.contains n.scale then .ok n.decimal else .error .exponent := by
  unfold Decimal.read
  rw [n.sign_text]
  dsimp only
  rw [n.cut_exponent]
  dsimp only
  rw [n.readExponent_exponent]
  by_cases hfits : int64.contains n.scale = true
  · have hfraction : Decimal.digits? ((n.fraction.map digitsText).getD []) =
        some ((n.fraction.getD []).map Fin.val) := by
      cases n.fraction with
      | none => rfl
      | some ds => exact Decimal.digits?_digitsText ds
    rw [if_pos hfits, if_pos hfits]
    dsimp only [bind, Except.bind]
    rw [n.cut_mantissa]
    dsimp only
    rw [Decimal.digits?_digitsText, hfraction]
    split
    next hno hnone =>
      rcases n.has_digit with hdigit | hdigit
      · exact absurd (List.map_eq_nil_iff.mp (Option.some.inj hno)) hdigit
      · exact absurd (List.map_eq_nil_iff.mp (Option.some.inj hnone)) hdigit
    next his hfs =>
      cases his
      cases hfs
      rfl
    next hnone => exact absurd rfl (hnone _ _ rfl)
  · rw [if_neg hfits, if_neg hfits]
    rfl

/-- What is cut off as an exponent, and is read as one, is its text. -/
theorem exists_exponent {cs : List Char} {v : Int}
    (h : Decimal.readExponent (Decimal.cut (fun c => c == 'e' || c == 'E') cs).2 = .ok v) :
    ∃ e, cs = (Decimal.cut (fun c => c == 'e' || c == 'E') cs).1 ++ Exponent.text e := by
  rcases Decimal.cut_cases (fun c => c == 'e' || c == 'E') cs with
    hcut | ⟨front, c, rest, hcs, hc, hcut⟩
  · refine ⟨none, ?_⟩
    rw [hcut]
    exact (List.append_nil cs).symm
  · rw [hcut] at h ⊢
    obtain ⟨e, hcapital, rfl⟩ := Exponent.exists_of_readExponent h (c == 'E')
    refine ⟨some e, ?_⟩
    have hletter : c = if e.isCapital then 'E' else 'e' := by
      rw [hcapital]
      rcases Bool.or_eq_true_iff.mp hc with hc | hc
      all_goals
        rw [beq_iff_eq.mp hc]
        rfl
    rw [hcs, hletter]
    rfl

/-- What is read as digits around a point is the text of those digits. -/
theorem exists_mantissa {cs : List Char} {is fs : List Nat}
    (his : Decimal.digits? (Decimal.cut (· == '.') cs).1 = some is)
    (hfs : Decimal.digits? ((Decimal.cut (· == '.') cs).2.getD []) = some fs) :
    ∃ (integral : List (Fin 10)) (fraction : Option (List (Fin 10))),
      cs = digitsText integral ++
        (match fraction with
          | none => []
          | some ds => '.' :: digitsText ds) ∧
      is = integral.map Fin.val ∧ fs = (fraction.getD []).map Fin.val := by
  obtain ⟨integral, hintegral, rfl⟩ := Decimal.eq_digitsText_of_digits? his
  rcases Decimal.cut_cases (· == '.') cs with hcut | ⟨front, c, rest, hcs, hc, hcut⟩
  · rw [hcut] at hintegral hfs
    cases hfs
    refine ⟨integral, none, ?_, rfl, rfl⟩
    rw [List.append_nil]
    exact hintegral
  · rw [hcut] at hintegral hfs
    obtain ⟨ds, hds, rfl⟩ := Decimal.eq_digitsText_of_digits? hfs
    refine ⟨integral, some ds, ?_, rfl, rfl⟩
    show cs = digitsText integral ++ '.' :: digitsText ds
    rw [hcs, beq_iff_eq.mp hc, ← hintegral, ← hds]
    rfl

/-- A text that is read as a number is the text of a numeral. -/
theorem exists_of_read {cs : List Char} {d : Decimal} (h : Decimal.read cs = .ok d) :
    ∃ n : Numeral, cs = n.text ∧ int64.contains n.scale = true := by
  obtain ⟨s, hsign, -⟩ := Decimal.exists_sign cs
  have hread := h
  unfold Decimal.read at h
  dsimp only at h
  cases hexponent : Decimal.readExponent
      (Decimal.cut (fun c => c == 'e' || c == 'E') (Decimal.sign cs).2).2 with
  | error fault =>
      rw [hexponent] at h
      cases h
  | ok v =>
      obtain ⟨e, he⟩ := exists_exponent hexponent
      rw [hexponent] at h
      dsimp only [bind, Except.bind] at h
      split at h
      next => cases h
      next is fs hdigits his hfs =>
        obtain ⟨integral, fraction, hmantissa, rfl, rfl⟩ := exists_mantissa his hfs
        have hdigit : integral ≠ [] ∨ fraction.getD [] ≠ [] := by
          by_contra hnone
          rw [not_or, not_not, not_not] at hnone
          exact hdigits (List.map_eq_nil_iff.mpr hnone.1) (List.map_eq_nil_iff.mpr hnone.2)
        let n : Numeral := ⟨s, integral, fraction, e, hdigit⟩
        have htext : cs = n.text := by
          show cs = Sign.text s ++ n.mantissa ++ Exponent.text e
          rw [List.append_assoc, show n.mantissa = _ from hmantissa.symm, ← he]
          exact hsign
        refine ⟨n, htext, ?_⟩
        by_contra hfits
        rw [htext, n.read_text, if_neg hfits] at hread
        cases hread
      next => cases h

end Numeral

end Tributary
