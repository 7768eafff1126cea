import Tributary.Proofs.Number.Truncation
import Tributary.Time.Scan

/-!
# Fields are read as they are written

A number that is written in as many digits as its field is wide is read as that number, whatever
follows. The fraction of a second is read in nanoseconds: its first nine digits count, with zeros
for those that are missing.
-/

namespace Tributary

open Text

/-! ## Numbers of a given width -/

namespace Text

theorem digitChar_eq (d : Fin 10) : Nat.digitChar d.val = Char.ofNat ('0'.toNat + d.val) := by
  revert d
  decide

/-- A number is written in digits, of which it is the value. -/
theorem exists_toDigits (n : Nat) :
    ∃ ds : List (Fin 10), ds ≠ [] ∧ Nat.toDigits 10 n = digitsText ds ∧
      digitsValue (ds.map Fin.val) = n := by
  induction n using Nat.strong_induction_on with
  | _ n ih =>
      rw [Nat.toDigits_eq_if (b := 10) (n := n) (by decide)]
      split
      next hn =>
        refine ⟨[⟨n, hn⟩], List.cons_ne_nil _ _, ?_, by simp [digitsValue]⟩
        exact congrArg (fun c => [c]) (digitChar_eq ⟨n, hn⟩)
      next hn =>
        have hmod : n % 10 < 10 := Nat.mod_lt n (by decide)
        obtain ⟨ds, hne, hds, hvalue⟩ := ih (n / 10) (by omega)
        refine ⟨ds ++ [⟨n % 10, hmod⟩], List.append_ne_nil_of_left_ne_nil hne _, ?_, ?_⟩
        · rw [hds, digitChar_eq ⟨n % 10, hmod⟩, digitsText, digitsText, List.map_append]
          rfl
        · rw [List.map_append, digitsValue_append, hvalue]
          show n / 10 * 10 ^ 1 + (10 * 0 + n % 10) = n
          omega

theorem digitsValue_replicate_zero (n : Nat) : digitsValue (List.replicate n 0) = 0 := by
  induction n with
  | zero => rfl
  | succ n ih => exact ih

/-- Zeros in front of a number do not count, and they fill its width if it fits. -/
theorem exists_padded_digits (width n : Nat) :
    ∃ ds : List (Fin 10), ds ≠ [] ∧ padded width n = digitsText ds ∧
      digitsValue (ds.map Fin.val) = n ∧ (0 < width → n < 10 ^ width → ds.length = width) := by
  obtain ⟨ds, hne, hds, hvalue⟩ := exists_toDigits n
  have hlength : (Nat.toDigits 10 n).length = ds.length := by rw [hds, digitsText, List.length_map]
  refine ⟨List.replicate (width - ds.length) 0 ++ ds, List.append_ne_nil_of_right_ne_nil _ hne,
    ?_, ?_, fun hwidth hn => ?_⟩
  · unfold padded
    dsimp only
    rw [hlength, hds, digitsText, digitsText, List.map_append, List.map_replicate]
    rfl
  · have hzeros : (List.replicate (width - ds.length) (0 : Fin 10)).map Fin.val =
        List.replicate (width - ds.length) 0 := List.map_replicate
    rw [List.map_append, digitsValue_append, hvalue, hzeros, digitsValue_replicate_zero,
      Nat.zero_mul, Nat.zero_add]
  · have hle := (Nat.length_toDigits_le_iff (by decide) hwidth).mpr hn
    rw [List.length_append, List.length_replicate]
    omega

/-- A number that fits a width is written in as many digits. -/
theorem exists_padded (width : Nat) {n : Nat} (h : n < 10 ^ (width + 1)) :
    ∃ ds : List (Fin 10), padded (width + 1) n = digitsText ds ∧ ds.length = width + 1 ∧
      digitsValue (ds.map Fin.val) = n := by
  obtain ⟨ds, -, hds, hvalue, hlength⟩ := exists_padded_digits (width + 1) n
  exact ⟨ds, hds, hlength (Nat.succ_pos width) h, hvalue⟩

end Text

namespace Time

/-! ## Digits that are read -/

/-- Digits are read until the field is full, as long as the number is not too large. -/
theorem moreDigits_digitsText (places value : Nat) (ds : List (Fin 10)) {rest : List Char}
    (hrest : ds.length < places → ∀ c ∈ rest.head?, digit? c = none)
    (hfits : ((ds.take places).map Fin.val).foldl (fun value d => 10 * value + d) value <
      0x8000000000000000) :
    moreDigits places value (digitsText ds ++ rest) =
      .ok (((ds.take places).map Fin.val).foldl (fun value d => 10 * value + d) value,
        digitsText (ds.drop places) ++ rest) := by
  induction ds generalizing places value with
  | nil =>
      rw [List.take_nil, List.drop_nil]
      cases rest with
      | nil => cases places <;> rfl
      | cons c rest =>
          cases places with
          | zero => rfl
          | succ places =>
              have hc := hrest (Nat.succ_pos places) c rfl
              show moreDigits (places + 1) value (c :: rest) = _
              unfold moreDigits
              rw [hc]
              rfl
  | cons d ds ih =>
      cases places with
      | zero => rfl
      | succ places =>
          rw [List.take_succ_cons, List.map_cons, List.foldl_cons] at hfits
          have hnext := Nat.lt_of_le_of_lt (Integer.le_foldl_digits _ _) hfits
          show moreDigits (places + 1) value (_ :: (digitsText ds ++ rest)) = _
          unfold moreDigits
          rw [digit?_digit]
          dsimp only
          rw [if_pos hnext]
          exact ih places _ (fun hlt => hrest (Nat.succ_lt_succ hlt)) hfits

theorem number_digitsText (places : Nat) {ds : List (Fin 10)} (hds : ds ≠ []) (rest : List Char)
    (hrest : ds.length < places + 1 → ∀ c ∈ rest.head?, digit? c = none)
    (hfits : digitsValue ((ds.take (places + 1)).map Fin.val) < 0x8000000000000000) :
    number (places + 1) (digitsText ds ++ rest) =
      .ok (digitsValue ((ds.take (places + 1)).map Fin.val),
        digitsText (ds.drop (places + 1)) ++ rest) := by
  obtain ⟨d, ds, rfl⟩ := List.exists_cons_of_ne_nil hds
  have hfirst : 10 * 0 + d.val = d.val := by omega
  have hvalue : digitsValue (((d :: ds).take (places + 1)).map Fin.val) =
      ((ds.take places).map Fin.val).foldl (fun value d => 10 * value + d) d.val := by
    rw [List.take_succ_cons, List.map_cons, digitsValue, List.foldl_cons, hfirst]
  rw [hvalue] at hfits ⊢
  show number (places + 1) (Char.ofNat ('0'.toNat + d.val) :: (digitsText ds ++ rest)) = _
  unfold number
  dsimp only
  rw [digit?_digit]
  exact moreDigits_digitsText places d.val ds (fun hlt => hrest (Nat.succ_lt_succ hlt)) hfits

/-- A number that may take up all that is left is read to its last digit. -/
theorem number_digits (width n : Nat) (hsmall : n < 0x8000000000000000) {rest : List Char}
    (hrest : ∀ c ∈ rest.head?, digit? c = none) :
    number (padded width n ++ rest).length (padded width n ++ rest) = .ok (n, rest) := by
  obtain ⟨ds, hne, hds, hvalue, -⟩ := exists_padded_digits width n
  obtain ⟨places, hplaces⟩ : ∃ places, (padded width n ++ rest).length = places + 1 := by
    rw [hds, digitsText, List.length_append, List.length_map]
    exact ⟨_, (Nat.succ_pred_eq_of_pos (Nat.add_pos_left (List.length_pos_iff.mpr hne) _)).symm⟩
  have hle : ds.length ≤ places + 1 := by
    rw [← hplaces, hds, digitsText, List.length_append, List.length_map]
    exact Nat.le_add_right _ _
  have htake : ds.take (places + 1) = ds := List.take_of_length_le hle
  have hread := number_digitsText places hne rest (fun _ => hrest) (by rwa [htake, hvalue])
  rw [htake, List.drop_of_length_le hle, hvalue] at hread
  rw [hplaces, hds]
  exact hread

/-- No white space stands in front of a number. -/
theorem trimStart_digitsText {ds : List (Fin 10)} (hds : ds ≠ []) (rest : List Char) :
    trimStart (digitsText ds ++ rest) = digitsText ds ++ rest := by
  obtain ⟨d, ds, rfl⟩ := List.exists_cons_of_ne_nil hds
  have hblank := isBlank_of_digit? (digit?_digit d)
  exact List.dropWhile_cons_of_neg (by rw [hblank]; exact Bool.false_ne_true)

/-- A number that fills its field is read, whatever follows. -/
theorem number_padded (places : Nat) {n : Nat} (h : n < 10 ^ (places + 1))
    (hsmall : n < 0x8000000000000000) (rest : List Char) :
    number (places + 1) (padded (places + 1) n ++ rest) = .ok (n, rest) ∧
      trimStart (padded (places + 1) n ++ rest) = padded (places + 1) n ++ rest := by
  obtain ⟨ds, hds, hlength, hvalue⟩ := exists_padded places h
  have hne : ds ≠ [] := List.ne_nil_of_length_pos (hlength ▸ Nat.succ_pos places)
  have htake : ds.take (places + 1) = ds := List.take_of_length_le hlength.le
  have hdrop : ds.drop (places + 1) = [] := List.drop_of_length_le hlength.le
  have hread := number_digitsText places hne rest
    (fun hlt => absurd hlt (hlength ▸ Nat.lt_irrefl _)) (by rwa [htake, hvalue])
  rw [htake, hdrop, hvalue] at hread
  rw [hds]
  exact ⟨hread, trimStart_digitsText hne rest⟩

theorem field_padded {least greatest n : Nat} (hleast : least ≤ n) (hgreatest : n ≤ greatest)
    (h : n < 100) (rest : List Char) :
    field least greatest (padded 2 n ++ rest) = .ok (n, rest) := by
  obtain ⟨hnumber, htrim⟩ := number_padded 1 h (by omega) rest
  unfold field
  rw [htrim, hnumber]
  exact if_pos ⟨hleast, hgreatest⟩

/-! ## Fractions -/

/-- Writes the digits of a fraction after a point; nothing, if there are none. -/
def fractionText : List (Fin 10) → List Char
  | [] => []
  | d :: ds => '.' :: digitsText (d :: ds)

/-- The nanoseconds of a fraction: its first nine digits, filled with zeros. -/
def nanoseconds (ds : List (Fin 10)) : Nat :=
  digitsValue (((ds.map Fin.val) ++ List.replicate 9 0).take 9)

theorem digitsValue_zeros (ds : List Nat) (n : Nat) :
    digitsValue (ds ++ List.replicate n 0) = digitsValue ds * 10 ^ n := by
  rw [digitsValue_append, digitsValue_replicate_zero, List.length_replicate, Nat.add_zero]

/-- Missing digits make the number that is read larger by their places. -/
theorem nanoseconds_eq (ds : List (Fin 10)) :
    nanoseconds ds = digitsValue ((ds.take 9).map Fin.val) * 10 ^ (9 - min 9 ds.length) := by
  have hplaces : min (9 - ds.length) 9 = 9 - min 9 ds.length := by omega
  unfold nanoseconds
  rw [List.take_append, List.length_map, List.take_replicate, digitsValue_zeros, List.map_take,
    hplaces]

theorem digitsValue_lt {ds : List Nat} (h : ∀ d ∈ ds, d < 10) :
    digitsValue ds < 10 ^ ds.length := by
  rw [digitsValue_eq_ofDigits, ← List.length_reverse]
  exact Nat.ofDigits_lt_base_pow_length' fun d hd => h d (List.mem_reverse.mp hd)

theorem nanoseconds_lt (ds : List (Fin 10)) : nanoseconds ds < 1000000000 := by
  have hdigits : ∀ d ∈ ((ds.map Fin.val) ++ List.replicate 9 0).take 9, d < 10 := by
    intro d hd
    rcases List.mem_append.mp (List.mem_of_mem_take hd) with hd | hd
    · obtain ⟨d, -, rfl⟩ := List.mem_map.mp hd
      exact d.isLt
    · rw [List.eq_of_mem_replicate hd]
      decide
  have hlength : (((ds.map Fin.val) ++ List.replicate 9 0).take 9).length = 9 := by
    rw [List.length_take, List.length_append, List.length_replicate]
    omega
  have hlt := digitsValue_lt hdigits
  rw [hlength] at hlt
  exact hlt

/-- A fraction is read in nanoseconds, down to its last digit. -/
theorem fraction_fractionText (ds : List (Fin 10)) :
    fraction (fractionText ds) = .ok (nanoseconds ds, []) := by
  cases ds with
  | nil => rfl
  | cons d ds =>
      have hfits : digitsValue (((d :: ds).take 9).map Fin.val) < 0x8000000000000000 := by
        have hle : digitsValue (((d :: ds).take 9).map Fin.val) ≤ nanoseconds (d :: ds) := by
          rw [nanoseconds_eq]
          exact Nat.le_mul_of_pos_right _ (Nat.pow_pos (by decide))
        have hlt := nanoseconds_lt (d :: ds)
        omega
      have hread := number_digitsText 8 (List.cons_ne_nil d ds) [] nofun hfits
      have hpassed :
          ((digitsText ((d :: ds).drop 9)).dropWhile fun c => (digit? c).isSome) = [] := by
        rw [List.dropWhile_eq_nil_iff]
        intro c hc
        obtain ⟨v, hv⟩ := Decimal.digit?_of_mem_digitsText hc
        rw [hv]
        rfl
      have hplaces : (digitsText (d :: ds)).length - (digitsText ((d :: ds).drop 9)).length =
          min 9 (d :: ds).length := by
        rw [digitsText, digitsText, List.length_map, List.length_map, List.length_drop]
        omega
      rw [List.append_nil, List.append_nil] at hread
      rw [fractionText, fraction, hread]
      show Except.ok (_ * Nat.pow 10 (9 - ((digitsText (d :: ds)).length -
        (digitsText ((d :: ds).drop 9)).length)), _) = _
      rw [hpassed, hplaces, nanoseconds_eq]
      rfl

end Time

end Tributary
