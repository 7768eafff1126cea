import Tributary.Proofs.Url.Domain
import Tributary.Url.Ipv4
import Tributary.Url.Ipv6

/-!
# Addresses are read as they are written

An address that is written is read as the same address: the four decimal numbers of an address of
32 bits, and the groups of an address of 128 bits, whichever run of zeros is left out. Its digits
are also a domain that is its own written form, so nothing happens to them before they are read.
-/

namespace Tributary

open Text

/-! ## Digits -/

namespace Text

theorem hexDigit?_digitChar {d : Nat} (h : d < 16) :
    hexDigit? (Nat.digitChar d) = some (hexValue d) := by
  have hall : ∀ d : Fin 16, hexDigit? (Nat.digitChar d) = some (hexValue d) := by decide
  exact hall ⟨d, h⟩

theorem digit?_digitChar {d : Nat} (h : d < 10) : digit? (Nat.digitChar d) = some d := by
  have hall : ∀ d : Fin 10, digit? (Nat.digitChar d) = some d.val := by decide
  exact hall ⟨d, h⟩

theorem val_hexValue {d : Nat} (h : d < 16) : (hexValue d).val = d := Nat.mod_eq_of_lt h

/-- What the digits of a base have, the characters of a number have. -/
theorem forall_mem_toDigits {P : Char → Prop} {base : Nat} (hbase : 1 < base)
    (h : ∀ d, d < base → P (Nat.digitChar d)) (n : Nat) : ∀ c ∈ Nat.toDigits base n, P c := by
  induction n using Nat.strong_induction_on with
  | _ n ih =>
      rw [Nat.toDigits_eq_if hbase]
      split
      next hn => exact List.forall_mem_singleton.mpr (h n hn)
      next hn =>
        have hlt : n / base < n := Nat.div_lt_self (by omega) hbase
        exact List.forall_mem_append.mpr ⟨ih _ hlt,
          List.forall_mem_singleton.mpr (h _ (Nat.mod_lt n (by omega)))⟩

/-- Digits that are taken up one by one give the number, as long as it is not too large. -/
theorem foldl_toDigits {α : Type} {step : α → Char → α} (value : Nat → α) {base : Nat}
    (greatest : Nat) (hbase : 1 < base) (hstep : ∀ v d, d < base → base * v + d ≤ greatest →
      step (value v) (Nat.digitChar d) = value (base * v + d)) {n : Nat} (hn : n ≤ greatest) :
    (Nat.toDigits base n).foldl step (value 0) = value n := by
  induction n using Nat.strong_induction_on with
  | _ n ih =>
      rw [Nat.toDigits_eq_if hbase]
      split
      next hlt =>
        have hdigit := hstep 0 n hlt (by omega)
        rwa [Nat.mul_zero, Nat.zero_add] at hdigit
      next hlt =>
        have hdiv : n / base < n := Nat.div_lt_self (by omega) hbase
        have hmod := Nat.div_add_mod n base
        rw [List.foldl_append, ih _ hdiv (by omega), List.foldl_cons, List.foldl_nil,
          hstep _ _ (Nat.mod_lt n (by omega)) (by omega), hmod]

/-- Only zero begins with the digit zero. -/
theorem toDigits_of_pos {base : Nat} (hbase : 1 < base) {n : Nat} (hn : 0 < n) :
    ∃ d rest, 0 < d ∧ d < base ∧ Nat.toDigits base n = Nat.digitChar d :: rest := by
  induction n using Nat.strong_induction_on with
  | _ n ih =>
      rw [Nat.toDigits_eq_if hbase]
      split
      next hlt => exact ⟨n, [], hn, hlt, rfl⟩
      next hlt =>
        have hdiv : 0 < n / base := Nat.div_pos (Nat.not_lt.mp hlt) (by omega)
        obtain ⟨d, rest, hpos, hd, hdigits⟩ := ih _ (Nat.div_lt_self hn hbase) hdiv
        exact ⟨d, rest ++ [Nat.digitChar (n % base)], hpos, hd, by rw [hdigits]; rfl⟩

/-- The values of hexadecimal digits, taken up one by one, give the number. -/
theorem mapM_toDigits (n : Nat) : ∃ ds, (Nat.toDigits 16 n).mapM hexDigit? = some ds ∧
    ds.foldl (fun value d => 16 * value + d.val) 0 = n := by
  induction n using Nat.strong_induction_on with
  | _ n ih =>
      rw [Nat.toDigits_eq_if (b := 16) (by decide)]
      split
      next hlt =>
        refine ⟨[hexValue n], ?_, ?_⟩
        · rw [List.mapM_cons, hexDigit?_digitChar hlt]
          rfl
        · rw [List.foldl_cons, List.foldl_nil, val_hexValue hlt, Nat.mul_zero, Nat.zero_add]
      next hlt =>
        have hmod : n % 16 < 16 := Nat.mod_lt n (by decide)
        obtain ⟨ds, hds, hfold⟩ := ih (n / 16) (Nat.div_lt_self (by omega) (by decide))
        refine ⟨ds ++ [hexValue (n % 16)], ?_, ?_⟩
        · rw [mapM_eq_some] at hds ⊢
          exact List.rel_append hds (.cons (hexDigit?_digitChar hmod) .nil)
        · rw [List.foldl_append, hfold, List.foldl_cons, List.foldl_nil, val_hexValue hmod,
            Nat.div_add_mod]

end Text

namespace Url

/-! ## Addresses of 32 bits -/

namespace Ipv4

/-- What the dot and the decimal digits have, the characters of an address have. -/
theorem forall_mem_text {P : Char → Prop} (hdot : P '.')
    (hdigit : ∀ d, d < 10 → P (Nat.digitChar d)) (a : Ipv4) : ∀ c ∈ a.text, P c := by
  have hbyte (n : Nat) : ∀ c ∈ Nat.toDigits 10 n, P c := forall_mem_toDigits (by decide) hdigit n
  unfold text
  simp only [List.forall_mem_append, List.forall_mem_cons]
  exact ⟨⟨⟨hbyte _, hdot, hbyte _⟩, hdot, hbyte _⟩, hdot, hbyte _⟩

theorem not_mem_toDigits {c : Char} (hc : ∀ d, d < 10 → Nat.digitChar d ≠ c) (n : Nat) :
    c ∉ Nat.toDigits 10 n :=
  fun h => forall_mem_toDigits (P := (· ≠ c)) (by decide) hc n c h rfl

/-- The bytes of an address, the first one first. -/
def bytes (a : Ipv4) : List Nat :=
  [3, 2, 1, 0].map fun place => a.val / Nat.pow 256 place % 256

theorem splitOn_text (a : Ipv4) : Form.splitOn '.' a.text = (bytes a).map (Nat.toDigits 10) := by
  have hdot (n : Nat) : '.' ∉ Nat.toDigits 10 n := not_mem_toDigits (by decide) n
  unfold text
  dsimp only
  rw [Form.splitOn_append_of_not_mem (hdot _), Form.splitOn_append_of_not_mem (hdot _),
    Form.splitOn_append (hdot _), Form.splitOn_of_not_mem (hdot _)]
  rfl

theorem labels_text (a : Ipv4) : labels a.text = (bytes a).map (Nat.toDigits 10) := by
  unfold labels
  rw [splitOn_text, if_neg]
  rintro ⟨hlast, -⟩
  exact Nat.toDigits_ne_nil (Option.some.inj hlast)

theorem baseAndDigits_toDigits (n : Nat) :
    baseAndDigits (Nat.toDigits 10 n) = (10, Nat.toDigits 10 n) := by
  rcases Nat.eq_zero_or_pos n with rfl | hn
  · rfl
  · have hten : 1 < 10 := by decide
    obtain ⟨d, rest, hpos, hd, hdigits⟩ := toDigits_of_pos hten hn
    have hzero : Nat.digitChar d ≠ '0' := by
      have hall : ∀ d : Fin 10, 0 < d.val → Nat.digitChar d ≠ '0' := by decide
      exact hall ⟨d, hd⟩ hpos
    rw [hdigits]
    unfold baseAndDigits
    split
    next h => exact absurd (List.cons.inj h).1 hzero
    next h => exact absurd (List.cons.inj h).1 hzero
    next h => exact absurd (List.cons.inj h).1 hzero
    next => rfl

theorem number?_toDigits (n : Nat) : number? (Nat.toDigits 10 n) = some n := by
  unfold number? valueIn?
  rw [if_neg (by simp [Nat.toDigits_ne_nil]), baseAndDigits_toDigits]
  refine foldl_toDigits some n (by decide) (fun v d hd _ => ?_) (Nat.le_refl n)
  have hlt : d < 16 := by omega
  show (do
    let v ← some v
    let d ← hexDigit? (Nat.digitChar d)
    if d.val < 10 then some (10 * v + d.val) else none) = _
  rw [hexDigit?_digitChar hlt, Option.bind_eq_bind, Option.bind_some, Option.bind_eq_bind,
    Option.bind_some, val_hexValue hlt, if_pos hd]

theorem endsInNumber_text (a : Ipv4) : endsInNumber a.text = true := by
  unfold endsInNumber
  rw [labels_text]
  show (_ || (number? (Nat.toDigits 10 _)).isSome) = true
  rw [number?_toDigits, Option.isSome_some, Bool.or_true]

theorem ofNumbers?_bytes (a : Ipv4) : ofNumbers? (bytes a) = some a := by
  have ha := a.isLt
  have h₀ : Nat.pow 256 0 = 1 := rfl
  have h₁ : Nat.pow 256 1 = 256 := rfl
  have h₂ : Nat.pow 256 2 = 65536 := rfl
  have h₃ : Nat.pow 256 3 = 16777216 := rfl
  unfold ofNumbers? bytes
  simp only [List.map_cons, List.map_nil, List.reverse_cons, List.reverse_nil, List.nil_append,
    List.cons_append, List.length_cons, List.length_nil, List.all_cons, List.all_nil,
    List.foldl_cons, List.foldl_nil, h₀, h₁, h₂, h₃]
  rw [if_pos]
  · refine congrArg some (Fin.ext ?_)
    unfold ofNat
    dsimp only
    omega
  · simp only [Bool.and_eq_true, decide_eq_true_eq, and_true]
    omega

/-- An address is read as it is written. -/
theorem read?_text (a : Ipv4) : read? a.text = some a := by
  have hnumbers : ((bytes a).map (Nat.toDigits 10)).mapM number? = some (bytes a) := by
    rw [mapM_eq_some, List.forall₂_map_left_iff, List.forall₂_same]
    exact fun n _ => number?_toDigits n
  unfold read?
  rw [labels_text, hnumbers, Option.bind_some, ofNumbers?_bytes]

theorem isPlain_of_mem_text (a : Ipv4) : ∀ c ∈ a.text, Domain.IsPlain c := by
  have hall : ∀ d : Fin 10, Domain.IsPlain (Nat.digitChar d) := by decide
  exact forall_mem_text (by decide) (fun d hd => hall ⟨d, hd⟩) a

/-- An address is the written form of itself as a domain. -/
theorem toAscii?_text (a : Ipv4) : Domain.toAscii? a.text = some a.text := by
  refine Domain.toAscii?_of_isPlain (isPlain_of_mem_text a) fun part hpart => ?_
  have hx : 'x' ∉ part := by
    intro hmem
    have hdigit : ∀ d : Fin 10, Nat.digitChar d ≠ 'x' := by decide
    exact forall_mem_text (P := (· ≠ 'x')) (by decide) (fun d hd => hdigit ⟨d, hd⟩) a 'x'
      ((Form.of_mem_splitOn hpart).2 'x' hmem) rfl
  unfold Domain.code?
  split
  next => exact absurd List.mem_cons_self hx
  next => rfl

end Ipv4

/-! ## Addresses of 128 bits -/

namespace Ipv6

/-- The addresses that are read: each group has 16 bits. -/
def IsSmall (a : Ipv6) : Prop := ∀ g ∈ a.groups, g < 0x10000

section

variable {g : Nat} {gs : List Nat} {cs : List Char}

/-! ### Groups -/

theorem colon_not_mem (g : Nat) : ':' ∉ Nat.toDigits 16 g := fun h =>
  forall_mem_toDigits (P := (· ≠ ':')) (by decide) (by decide) g ':' h rfl

theorem dot_not_mem (g : Nat) : '.' ∉ Nat.toDigits 16 g := fun h =>
  forall_mem_toDigits (P := (· ≠ '.')) (by decide) (by decide) g '.' h rfl

theorem group?_toDigits (h : g < 0x10000) : group? (Nat.toDigits 16 g) = some g := by
  obtain ⟨ds, hds, hvalue⟩ := mapM_toDigits g
  have hlength : (Nat.toDigits 16 g).length ≤ 4 :=
    (Nat.length_toDigits_le_iff (by decide) (by decide)).mpr h
  unfold group?
  rw [hds, if_neg (by simp [Nat.toDigits_ne_nil, hlength]), Option.map_some, hvalue]

theorem foldl_lt (ds : List (Fin 16)) (value : Nat) :
    ds.foldl (fun value d => 16 * value + d.val) value < (value + 1) * 16 ^ ds.length := by
  induction ds generalizing value with
  | nil => simp
  | cons d ds ih =>
      have hd := d.isLt
      calc ds.foldl (fun value d => 16 * value + d.val) (16 * value + d.val)
        _ < (16 * value + d.val + 1) * 16 ^ ds.length := ih _
        _ ≤ (value + 1) * 16 * 16 ^ ds.length := Nat.mul_le_mul_right _ (by omega)
        _ = (value + 1) * 16 ^ (ds.length + 1) := by rw [Nat.mul_assoc, ← Nat.pow_succ']

theorem group?_lt (h : group? cs = some g) : g < 0x10000 := by
  unfold group? at h
  split at h
  next => cases h
  next hlength =>
    obtain ⟨ds, hds, rfl⟩ := Option.map_eq_some_iff.mp h
    have hcount := (mapM_eq_some.mp hds).length_eq
    rw [Bool.or_eq_true, decide_eq_true_eq, not_or] at hlength
    calc ds.foldl (fun value d => 16 * value + d.val) 0
      _ < (0 + 1) * 16 ^ ds.length := foldl_lt ds 0
      _ ≤ 16 ^ 4 := by
        rw [Nat.zero_add, Nat.one_mul]
        exact Nat.pow_le_pow_right (by decide) (by omega)

theorem byte?_le (h : byte? cs = some g) : g ≤ 255 := by
  unfold byte? at h
  split at h
  next => cases h
  next => cases h
  next => cases h
  next =>
    dsimp only at h
    split at h
    next hle => exact Option.some.inj h ▸ hle
    next => cases h

theorem dotted?_lt (h : dotted? cs = some gs) : ∀ g ∈ gs, g < 0x10000 := by
  unfold dotted? at h
  split at h
  next a b c d hbytes =>
    have hle : ∀ g ∈ [a, b, c, d], g ≤ 255 := forall_mem_of_mapM hbytes fun _ _ _ h => byte?_le h
    simp only [List.forall_mem_cons] at hle
    obtain ⟨ha, hb, hc, hd, -⟩ := hle
    cases h
    simp only [List.forall_mem_cons]
    exact ⟨by omega, by omega, nofun⟩
  next => cases h

theorem groups?_lt {dottedLast : Bool} (h : groups? dottedLast cs = some gs) :
    ∀ g ∈ gs, g < 0x10000 := by
  unfold groups? at h
  split at h
  next =>
    cases h
    exact nofun
  next =>
    dsimp only at h
    split at h
    next =>
      obtain ⟨front, hfront, h⟩ := Option.bind_eq_some_iff.mp h
      obtain ⟨back, hback, h⟩ := Option.bind_eq_some_iff.mp h
      cases h
      exact List.forall_mem_append.mpr
        ⟨forall_mem_of_mapM hfront fun _ _ _ h => group?_lt h, dotted?_lt hback⟩
    next => exact forall_mem_of_mapM h fun _ _ _ h => group?_lt h

theorem of_ofGroups? {a : Ipv6} (h : ofGroups? gs = some a) : a.groups = gs := by
  unfold ofGroups? at h
  split at h
  next =>
    cases h
    rfl
  next => cases h

theorem ofGroups?_groups (a : Ipv6) : ofGroups? a.groups = some a := by
  unfold ofGroups?
  rw [dif_pos a.length_groups]

/-- An address that is read is small. -/
theorem isSmall_of_read? {a : Ipv6} (h : read? cs = some a) : a.IsSmall := by
  unfold IsSmall
  unfold read? at h
  split at h
  next =>
    split at h
    next => cases h
    next =>
      obtain ⟨groups, hgroups, h⟩ := Option.bind_eq_some_iff.mp h
      rw [of_ofGroups? h]
      exact groups?_lt hgroups
  next front back _ =>
    obtain ⟨left, hleft, h⟩ := Option.bind_eq_some_iff.mp h
    obtain ⟨right, hright, h⟩ := Option.bind_eq_some_iff.mp h
    split at h
    next =>
      rw [of_ofGroups? h, List.forall_mem_append, List.forall_mem_append]
      refine ⟨⟨groups?_lt hleft, fun g hg => ?_⟩, groups?_lt hright⟩
      rw [List.eq_of_mem_replicate hg]
      decide
    next => cases h

/-! ### Groups with colons between them -/

theorem joined_cons (g : Nat) (h : gs ≠ []) :
    joined (g :: gs) = Nat.toDigits 16 g ++ ':' :: joined gs := by
  cases gs with
  | nil => exact absurd rfl h
  | cons _ _ => rfl

/-- What the colon and the hexadecimal digits have, the characters of groups have. -/
theorem forall_mem_joined {P : Char → Prop} (hcolon : P ':')
    (hdigit : ∀ d, d < 16 → P (Nat.digitChar d)) (gs : List Nat) : ∀ c ∈ joined gs, P c := by
  have hgroup (g : Nat) : ∀ c ∈ Nat.toDigits 16 g, P c := forall_mem_toDigits (by decide) hdigit g
  induction gs with
  | nil => exact nofun
  | cons g gs ih =>
      cases gs with
      | nil => exact hgroup g
      | cons h gs =>
          rw [joined_cons g (List.cons_ne_nil h gs), List.forall_mem_append, List.forall_mem_cons]
          exact ⟨hgroup g, hcolon, ih⟩

/-- So have those of an address. -/
theorem forall_mem_text {P : Char → Prop} (hcolon : P ':')
    (hdigit : ∀ d, d < 16 → P (Nat.digitChar d)) (a : Ipv6) : ∀ c ∈ a.text, P c := by
  have hjoined := forall_mem_joined hcolon hdigit
  unfold text
  dsimp only
  split
  · exact hjoined _
  · rw [List.forall_mem_append, List.forall_mem_cons, List.forall_mem_cons]
    exact ⟨hjoined _, hcolon, hcolon, hjoined _⟩

theorem joined_ne_nil (h : gs ≠ []) : joined gs ≠ [] := by
  obtain ⟨g, gs, rfl⟩ := List.exists_cons_of_ne_nil h
  cases gs with
  | nil => exact Nat.toDigits_ne_nil
  | cons h gs => exact List.append_ne_nil_of_left_ne_nil Nat.toDigits_ne_nil _

theorem splitOn_joined (h : gs ≠ []) :
    Form.splitOn ':' (joined gs) = gs.map (Nat.toDigits 16) := by
  induction gs with
  | nil => exact absurd rfl h
  | cons g gs ih =>
      cases gs with
      | nil => exact Form.splitOn_of_not_mem (colon_not_mem g)
      | cons g' gs =>
          rw [joined_cons g (List.cons_ne_nil g' gs), Form.splitOn_append (colon_not_mem g),
            ih (List.cons_ne_nil g' gs)]
          rfl

theorem groups?_joined (dottedLast : Bool) (h : ∀ g ∈ gs, g < 0x10000) :
    groups? dottedLast (joined gs) = some gs := by
  by_cases hgs : gs = []
  · rw [hgs]
    rfl
  · have hlast : ((gs.map (Nat.toDigits 16)).getLastD []).contains '.' = false := by
      rw [List.getLastD_eq_getLast?, List.getLast?_map, List.getLast?_eq_some_getLast hgs]
      exact Bool.eq_false_iff.mpr fun hmem => dot_not_mem _ (List.contains_iff_mem.mp hmem)
    unfold groups?
    rw [if_neg (by simp [joined_ne_nil hgs]), splitOn_joined hgs]
    dsimp only
    rw [hlast, Bool.and_false, if_neg Bool.false_ne_true, mapM_eq_some,
      List.forall₂_map_left_iff, List.forall₂_same]
    exact fun g hg => group?_toDigits (h g hg)

/-! ### Two colons -/

theorem splitZeros?_append (h : ':' ∉ cs) (rest : List Char) :
    splitZeros? (cs ++ rest) =
      (splitZeros? rest).map fun (front, back) => (cs ++ front, back) := by
  induction cs with
  | nil => exact Option.map_id'.symm
  | cons c cs ih =>
      rw [List.mem_cons, not_or] at h
      rw [List.cons_append, splitZeros?, ih h.2, Option.map_map]
      · rfl
      · rintro - rfl
        exact absurd rfl h.1

theorem splitZeros?_colon {c : Char} (h : c ≠ ':') (cs : List Char) :
    splitZeros? (':' :: c :: cs) =
      (splitZeros? (c :: cs)).map fun (front, back) => (':' :: front, back) := by
  rw [splitZeros?]
  rintro rest - hcs
  exact h (List.cons.inj hcs).1

theorem exists_joined_cons (g : Nat) (gs : List Nat) :
    ∃ c cs, joined (g :: gs) = c :: cs ∧ c ≠ ':' := by
  obtain ⟨c, cs, hdigits⟩ := List.exists_cons_of_ne_nil (Nat.toDigits_ne_nil (n := g) (b := 16))
  have hcolon : c ≠ ':' := by
    rintro rfl
    exact colon_not_mem g (hdigits ▸ List.mem_cons_self)
  cases gs with
  | nil => exact ⟨c, cs, hdigits, hcolon⟩
  | cons g' gs =>
      rw [joined_cons g (List.cons_ne_nil g' gs), hdigits]
      exact ⟨c, _, rfl, hcolon⟩

/-- Two colons are not found among groups, but may follow them. -/
theorem splitZeros?_joined (gs : List Nat) (tail : List Char) :
    splitZeros? (joined gs ++ tail) =
      (splitZeros? tail).map fun (front, back) => (joined gs ++ front, back) := by
  induction gs with
  | nil => exact Option.map_id'.symm
  | cons g gs ih =>
      cases gs with
      | nil => exact splitZeros?_append (colon_not_mem g) tail
      | cons g' gs =>
          obtain ⟨c, cs, hjoined, hcolon⟩ := exists_joined_cons g' gs
          rw [hjoined, List.cons_append] at ih
          rw [joined_cons g (List.cons_ne_nil g' gs), List.append_assoc,
            splitZeros?_append (colon_not_mem g), hjoined, List.cons_append, List.cons_append,
            splitZeros?_colon hcolon, ih, Option.map_map, Option.map_map]
          refine congrArg (Option.map · _) (funext fun parts => ?_)
          simp

theorem splitZeros?_joined_append (gs : List Nat) (rest : List Char) :
    splitZeros? (joined gs ++ ':' :: ':' :: rest) = some (joined gs, rest) := by
  rw [splitZeros?_joined]
  exact congrArg (fun front => some (front, rest)) (List.append_nil _)

/-! ### Runs of zeros -/

theorem zeros_spec (gs : List Nat) :
    gs = List.replicate (zeros gs) 0 ++ gs.drop (zeros gs) := by
  have hfront : gs.takeWhile (· == 0) = gs.take (zeros gs) :=
    List.prefix_iff_eq_take.mp (List.takeWhile_prefix _)
  have hzero : gs.take (zeros gs) = List.replicate (zeros gs) 0 := by
    rw [← hfront]
    refine List.eq_replicate_iff.mpr ⟨rfl, fun g hg => ?_⟩
    exact beq_iff_eq.mp (List.mem_takeWhile_imp (p := (· == 0)) hg)
  rw [← hzero, List.take_append_drop]

/-- The run that is found is the one looked for, or none is longer than the one known before. -/
theorem longestRun_spec (gs : List Nat) (best : Nat × Nat) (index : Nat) :
    longestRun best index gs = best ∨
      ∃ i, longestRun best index gs = (index + i, zeros (gs.drop i)) := by
  induction gs generalizing best index with
  | nil => exact .inl rfl
  | cons g gs ih =>
      unfold longestRun
      dsimp only
      rcases ih (if best.2 < zeros (g :: gs) then (index, zeros (g :: gs)) else best) (index + 1)
        with hbest | ⟨i, hi⟩
      · rw [hbest]
        split
        next => exact .inr ⟨0, rfl⟩
        next => exact .inl rfl
      · refine .inr ⟨i + 1, ?_⟩
        rw [hi, List.drop_succ_cons, Nat.add_right_comm, Nat.add_assoc]

/-- The groups are those before the run that is found, zeros, and those after it. -/
theorem longestRun_zeros {start length : Nat} (h : longestRun (0, 0) 0 gs = (start, length)) :
    gs = gs.take start ++ List.replicate length 0 ++ gs.drop (start + length) := by
  rcases longestRun_spec gs (0, 0) 0 with hbest | ⟨i, hi⟩
  · rw [h] at hbest
    cases hbest
    simp
  · rw [h, Nat.zero_add] at hi
    cases hi
    rw [← List.drop_drop, List.append_assoc, ← zeros_spec, List.take_append_drop]

/-- An address is read as it is written. -/
theorem read?_text {a : Ipv6} (h : a.IsSmall) : read? a.text = some a := by
  unfold text
  cases hrun : longestRun (0, 0) 0 a.groups with
  | mk start length =>
      have hgroups := longestRun_zeros hrun
      have hcount := congrArg List.length hgroups
      simp only [List.length_append, List.length_replicate, List.length_take, List.length_drop,
        a.length_groups] at hcount
      dsimp only
      split
      next =>
        have hne : a.groups ≠ [] := List.length_pos_iff.mp (by rw [a.length_groups]; decide)
        have hsplit := splitZeros?_joined a.groups []
        rw [List.append_nil] at hsplit
        unfold read?
        rw [hsplit]
        dsimp only [splitZeros?, Option.map_none]
        rw [if_neg (by simp [joined_ne_nil hne]), groups?_joined true h, Option.bind_some,
          ofGroups?_groups]
      next hlong =>
        have hleft : ∀ g ∈ a.groups.take start, g < 0x10000 :=
          fun g hg => h g (List.mem_of_mem_take hg)
        have hright : ∀ g ∈ a.groups.drop (start + length), g < 0x10000 :=
          fun g hg => h g (List.mem_of_mem_drop hg)
        unfold read?
        rw [splitZeros?_joined_append]
        dsimp only
        rw [groups?_joined false hleft, groups?_joined true hright]
        dsimp only [Option.bind_eq_bind, Option.bind_some]
        rw [List.length_take, List.length_drop, a.length_groups, if_pos (by omega)]
        have hzeros : 8 - min start 8 - (8 - (start + length)) = length := by omega
        rw [hzeros, ← hgroups, ofGroups?_groups]

end

end Ipv6

end Url

end Tributary
