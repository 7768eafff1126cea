import Mathlib.Data.List.TakeWhile
import Tributary.Value.Decode

/-!
# Integers as decimals

A text that is read as a signed word is a sign and digits, so it can be read as a decimal as well.
That has neither fraction nor exponent, and nothing of it is dropped: both readers find the same
integer.
-/

namespace Tributary

open Text

namespace Decimal

/-! ## Digits -/

theorem digits?_cons {c : Char} {d : Nat} {cs : List Char} {ds : List Nat}
    (hd : digit? c = some d) (hds : digits? cs = some ds) : digits? (c :: cs) = some (d :: ds) := by
  unfold digits? at hds ⊢
  rw [List.mapM_cons, hd, hds]
  rfl

/-- Digits are read character by character. -/
theorem map_digit?_of_digits? {cs : List Char} {ds : List Nat} (h : digits? cs = some ds) :
    cs.map digit? = ds.map some := by
  induction cs generalizing ds with
  | nil =>
      cases h
      rfl
  | cons c cs ih =>
      unfold digits? at h
      rw [List.mapM_cons] at h
      cases hd : digit? c with
      | none =>
          rw [hd] at h
          cases h
      | some d =>
          cases hrest : cs.mapM digit? with
          | none =>
              rw [hd, hrest] at h
              cases h
          | some rest =>
              rw [hd, hrest] at h
              cases h
              rw [List.map_cons, hd, ih hrest]
              rfl

theorem digits?_ne_nil {cs : List Char} {ds : List Nat} (hcs : cs ≠ [])
    (h : digits? cs = some ds) : ds ≠ [] := by
  rintro rfl
  exact hcs (List.map_eq_nil_iff.mp (map_digit?_of_digits? h))

end Decimal

namespace Integer

/-! ## Signed words -/

/-- The characters of a text that is read as an integer after its sign are digits. -/
theorem of_readUp_eq_ok {greatest v : Int} (value : Nat) {cs : List Char}
    (h : readUp greatest value cs = .ok v) :
    ∃ ds, Decimal.digits? cs = some ds ∧
      v = (ds.foldl (fun value d => 10 * value + d) value : Nat) ∧
      ((value : Int) ≤ greatest → v ≤ greatest) := by
  induction cs generalizing value with
  | nil =>
      cases h
      exact ⟨[], rfl, rfl, id⟩
  | cons c cs ih =>
      unfold readUp at h
      split at h
      · cases h
      next d hd =>
        split at h
        next hle =>
          have hnext : (10 * (value : Int) + d) = ((10 * value + d : Nat) : Int) := by omega
          rw [hnext] at h hle
          obtain ⟨ds, hds, hv, hbound⟩ := ih _ h
          exact ⟨d :: ds, Decimal.digits?_cons hd hds, hv, fun _ => hbound hle⟩
        next => cases h

/-- So are those of a negative one. -/
theorem of_readDown_eq_ok {least v : Int} (value : Nat) {cs : List Char}
    (h : readDown least (-(value : Int)) cs = .ok v) :
    ∃ ds, Decimal.digits? cs = some ds ∧
      v = -((ds.foldl (fun value d => 10 * value + d) value : Nat) : Int) ∧
      (least ≤ -(value : Int) → least ≤ v) := by
  induction cs generalizing value with
  | nil =>
      cases h
      exact ⟨[], rfl, rfl, id⟩
  | cons c cs ih =>
      unfold readDown at h
      split at h
      · cases h
      next d hd =>
        split at h
        next hle =>
          have hnext : (10 * -(value : Int) - d) = -((10 * value + d : Nat) : Int) := by omega
          rw [hnext] at h hle
          obtain ⟨ds, hds, hv, hbound⟩ := ih _ h
          exact ⟨d :: ds, Decimal.digits?_cons hd hds, hv, fun _ => hbound hle⟩
        next => cases h

/-- Digits that follow a sign are not missing. -/
theorem of_afterSign_eq_ok {read : List Char → Except Fault Int} {cs : List Char} {v : Int}
    (h : afterSign read cs = .ok v) : cs ≠ [] ∧ read cs = .ok v := by
  unfold afterSign at h
  split at h
  · cases h
  next hsome =>
    refine ⟨?_, h⟩
    rintro rfl
    exact hsome rfl

/-- A text that is read as an integer of 64 bits is a sign and digits of that value. -/
theorem of_read_eq_ok {cs : List Char} {v : Int} (h : read int64 cs = .ok v) :
    ∃ ds, Decimal.digits? (Decimal.sign cs).2 = some ds ∧ ds ≠ [] ∧
      v = (if (Decimal.sign cs).1 then -(digitsValue ds : Int) else digitsValue ds) ∧
      int64.contains v = true := by
  have hup {cs : List Char} (hcs : cs ≠ []) (h : readUp int64.greatest 0 cs = .ok v) :
      ∃ ds, Decimal.digits? cs = some ds ∧ ds ≠ [] ∧ v = digitsValue ds ∧
        int64.contains v = true := by
    obtain ⟨ds, hds, hv, hbound⟩ := of_readUp_eq_ok 0 h
    refine ⟨ds, hds, Decimal.digits?_ne_nil hcs hds, hv,
      Bounds.contains_iff.mpr ⟨?_, hbound (by decide)⟩⟩
    have hleast : int64.least ≤ 0 := by decide
    have hsign : 0 ≤ v := hv ▸ Int.natCast_nonneg _
    omega
  unfold read at h
  split at h
  · cases h
  next cs =>
    obtain ⟨hcs, hread⟩ := of_afterSign_eq_ok h
    exact hup hcs hread
  next cs =>
    rw [if_pos (by decide)] at h
    obtain ⟨hcs, hread⟩ := of_afterSign_eq_ok h
    obtain ⟨ds, hds, hv, hbound⟩ := of_readDown_eq_ok 0 hread
    refine ⟨ds, hds, Decimal.digits?_ne_nil hcs hds, hv,
      Bounds.contains_iff.mpr ⟨hbound (by decide), ?_⟩⟩
    have hgreatest : 0 ≤ int64.greatest := by decide
    omega
  next hempty hplus hminus =>
    have hsign : Decimal.sign cs = (false, cs) := by
      unfold Decimal.sign
      split
      · exact absurd rfl (hminus _)
      · exact absurd rfl (hplus _)
      · rfl
    rw [hsign]
    exact hup hempty h

end Integer

namespace Text

/-! ## Characters of an integer -/

theorem bounds_of_digit? {c : Char} {d : Nat} (h : digit? c = some d) :
    48 ≤ c.toNat ∧ c.toNat ≤ 57 := by
  unfold digit? at h
  split at h
  next hrange => exact hrange
  next => cases h

theorem isBlank_of_digit? {c : Char} {d : Nat} (h : digit? c = some d) : isBlank c = false := by
  obtain ⟨hlow, hhigh⟩ := bounds_of_digit? h
  unfold isBlank
  simp only [Bool.or_eq_false_iff, Bool.and_eq_false_iff, decide_eq_false_iff_not,
    beq_eq_false_iff_ne]
  omega

/-- A text without white space has none at its ends. -/
theorem trim_of_forall {cs : List Char} (h : ∀ c ∈ cs, isBlank c = false) : trim cs = cs := by
  have hkeeps {cs : List Char} (h : ∀ c ∈ cs, isBlank c = false) : cs.dropWhile isBlank = cs := by
    cases cs with
    | nil => rfl
    | cons c cs => exact List.dropWhile_cons_of_neg (by simp [h c List.mem_cons_self])
  unfold trim dropEndWhile trimStart
  rw [hkeeps h, hkeeps fun c hc => h c (List.mem_reverse.mp hc), List.reverse_reverse]

end Text

namespace Decimal

/-! ## Integers as decimals -/

theorem exists_digit?_of_digits? {cs : List Char} {ds : List Nat} (h : digits? cs = some ds)
    {c : Char} (hc : c ∈ cs) : ∃ d, digit? c = some d := by
  have hmem : digit? c ∈ ds.map some := map_digit?_of_digits? h ▸ List.mem_map_of_mem hc
  obtain ⟨d, -, hd⟩ := List.mem_map.mp hmem
  exact ⟨d, hd.symm⟩

theorem sign_cases (cs : List Char) :
    cs = (sign cs).2 ∨ cs = '+' :: (sign cs).2 ∨ cs = '-' :: (sign cs).2 := by
  unfold sign
  split
  · exact .inr (.inr rfl)
  · exact .inr (.inl rfl)
  · exact .inl rfl

/-- A text of a sign and digits has no white space. -/
theorem isBlank_of_sign {cs : List Char} {ds : List Nat} (h : digits? (sign cs).2 = some ds) :
    ∀ c ∈ cs, isBlank c = false := by
  have hdigits : ∀ c ∈ (sign cs).2, isBlank c = false := by
    intro c hc
    obtain ⟨d, hd⟩ := exists_digit?_of_digits? h hc
    exact isBlank_of_digit? hd
  intro c hc
  rcases sign_cases cs with hcs | hcs | hcs
  · rw [hcs] at hc
    exact hdigits c hc
  all_goals
    rw [hcs] at hc
    rcases List.mem_cons.mp hc with rfl | hc
    · rfl
    · exact hdigits c hc

/-- Digits are not cut. -/
theorem cut_of_digits? {cs : List Char} {ds : List Nat} (h : digits? cs = some ds)
    {p : Char → Bool} (hp : ∀ c, p c = true → digit? c = none) : cut p cs = (cs, none) := by
  have hall : cs.dropWhile (fun c => !p c) = [] := by
    rw [List.dropWhile_eq_nil_iff]
    intro c hc
    obtain ⟨d, hd⟩ := exists_digit?_of_digits? h hc
    rw [Bool.not_eq_true', Bool.eq_false_iff]
    intro hpc
    rw [hp c hpc] at hd
    cases hd
  unfold cut
  rw [hall]

/-- A sign and digits are read as a decimal without fraction and exponent. -/
theorem read_of_digits? {cs : List Char} {ds : List Nat} (h : digits? (sign cs).2 = some ds)
    (hds : ds ≠ []) : read cs = .ok ⟨(sign cs).1, ds, [], 0⟩ := by
  have hexponent : cut (fun c => c == 'e' || c == 'E') (sign cs).2 = ((sign cs).2, none) := by
    refine cut_of_digits? h fun c hc => ?_
    rcases Bool.or_eq_true_iff.mp hc with hc | hc
    all_goals
      rw [beq_iff_eq.mp hc]
      rfl
  have hfraction : cut (· == '.') (sign cs).2 = ((sign cs).2, none) := by
    refine cut_of_digits? h fun c hc => ?_
    rw [beq_iff_eq.mp hc]
    rfl
  unfold read
  dsimp only
  rw [hexponent]
  dsimp only [readExponent, bind, Except.bind]
  rw [hfraction]
  dsimp only [Option.getD]
  rw [h]
  cases ds with
  | nil => exact absurd rfl hds
  | cons d ds => rfl

/-- Nothing is dropped from an integer that fits. -/
theorem truncate?_of_integral {negative : Bool} {ds : List Nat} {v : Int}
    (hv : v = if negative then -(digitsValue ds : Int) else digitsValue ds)
    (hfits : Integer.int64.contains v = true) :
    (Decimal.mk negative ds [] 0).truncate? = some v := by
  have hdigits : (Decimal.mk negative ds [] 0).digits = ds := List.append_nil ds
  have hscale : (Decimal.mk negative ds [] 0).scale = 0 := rfl
  have hmagnitude : (Decimal.mk negative ds [] 0).magnitude? = some (digitsValue ds) := by
    have hbound : digitsValue ds < 10000000000000000000 := by
      obtain ⟨hleast, hgreatest⟩ := Integer.Bounds.contains_iff.mp hfits
      dsimp only [Integer.int64] at hleast hgreatest
      cases negative <;> simp at hv <;> omega
    unfold magnitude?
    rw [hdigits, hscale]
    by_cases hzero : digitsValue ds = 0
    · rw [if_pos hzero, hzero]
    · rw [if_neg hzero, if_neg (by decide), if_pos (Int.le_refl 0)]
      dsimp only
      rw [show digitsValue ds * Nat.pow 10 (0 : Int).toNat = digitsValue ds from Nat.mul_one _,
        if_pos hbound]
  unfold truncate?
  rw [hmagnitude]
  dsimp only
  rw [← hv, if_pos hfits]

end Decimal

/-- An integer of 64 bits is read the same as a decimal. -/
theorem Value.readDecimal_of_integer {cell : String} {v : Int}
    (h : Integer.read Integer.int64 cell.toList = .ok v) (declared : String) :
    readDecimal declared cell = readInteger declared cell := by
  obtain ⟨ds, hdigits, hds, hv, hfits⟩ := Integer.of_read_eq_ok h
  unfold readDecimal readInteger
  rw [Text.trim_of_forall (Decimal.isBlank_of_sign hdigits), Decimal.read_of_digits? hdigits hds, h]
  dsimp only
  rw [Decimal.truncate?_of_integral hv hfits]
  rfl

end Tributary
