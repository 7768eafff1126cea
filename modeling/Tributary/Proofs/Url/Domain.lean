import Tributary.Proofs.Url.Mapping
import Tributary.Proofs.Url.Punycode

/-!
# The written form of a domain is its own written form

A domain that has been brought into the form that goes on the wire is not changed by bringing it
into that form again. Its labels are ASCII texts: those that were typed as such, and codes that
stand for the labels they were made from. The second pass finds the same labels behind them, and so
comes to the same result.
-/

namespace Tributary.Url.Domain

open Text

/-! ## Labels -/

theorem isAscii_iff {cs : List Char} : isAscii cs = true ↔ ∀ c ∈ cs, c.toNat < 0x80 := by
  unfold isAscii
  rw [List.all_eq_true]
  exact forall₂_congr fun _ _ => decide_eq_true_iff

theorem written_of_isAscii {label : List Char} (h : isAscii label = true) :
    written label = label := if_pos h

theorem written_of_not_isAscii {label : List Char} (h : isAscii label = false) :
    written label = 'x' :: 'n' :: '-' :: '-' :: Punycode.encode label := by
  unfold written
  rw [h]
  rfl

/-- What holds of the characters that every code may have, and of the ASCII characters of a label,
holds of the characters that the label is written with. -/
theorem forall_mem_written {P : Char → Prop} {label : List Char}
    (hlabel : ∀ c ∈ label, c.toNat < 0x80 → P c) (hx : P 'x') (hn : P 'n') (hhyphen : P '-')
    (hdigit : ∀ v, v < 36 → P (Punycode.digitChar v)) : ∀ c ∈ written label, P c := by
  by_cases hascii : isAscii label = true
  · rw [written_of_isAscii hascii]
    exact fun c hc => hlabel c hc (isAscii_iff.mp hascii c hc)
  · rw [written_of_not_isAscii (Bool.eq_false_iff.mpr hascii)]
    simp only [List.forall_mem_cons]
    exact ⟨hx, hn, hhyphen, hhyphen, Punycode.forall_mem_encode hlabel hhyphen hdigit⟩

theorem digitChar_spec {v : Nat} (h : v < 36) :
    (Punycode.digitChar v).toNat < 0x80 ∧ (Punycode.digitChar v).toLower = Punycode.digitChar v ∧
      Punycode.digitChar v ≠ '.' ∧ isForbidden (Punycode.digitChar v) = false := by
  have hall : ∀ v : Fin 36, (Punycode.digitChar v).toNat < 0x80 ∧
      (Punycode.digitChar v).toLower = Punycode.digitChar v ∧ Punycode.digitChar v ≠ '.' ∧
        isForbidden (Punycode.digitChar v) = false := by
    decide
  exact hall ⟨v, h⟩

theorem isAscii_written (label : List Char) : isAscii (written label) = true :=
  isAscii_iff.mpr (forall_mem_written (fun _ _ h => h) (by decide) (by decide) (by decide)
    fun _ hv => (digitChar_spec hv).1)

section

variable {part label : List Char}

/-- A label that was found behind a part is found behind what it is written with. -/
theorem meant?_written (hpart : normalized? part = some part) (h : meant? part = some label) :
    meant? (written label) = some label := by
  unfold meant? at h
  split at h
  next hcode =>
    cases h
    by_cases hascii : isAscii part = true
    · rw [written_of_isAscii hascii]
      unfold meant?
      rw [hcode]
    · have hascii := Bool.eq_false_iff.mpr hascii
      have hwritten := written_of_not_isAscii hascii
      have hcode : code? (written part) = some (Punycode.encode part) := by
        rw [hwritten]
        rfl
      unfold meant?
      rw [hcode]
      dsimp only
      rw [Option.bind_eq_bind, Punycode.decode?_encode, Option.bind_some]
      exact if_pos ⟨hascii, hpart, rfl⟩
  next code hcode =>
    obtain ⟨text, hdecode, hif⟩ := Option.bind_eq_some_iff.mp h
    split at hif
    next hcond =>
      cases hif
      rw [hcond.2.2]
      unfold meant?
      rw [hcode]
      dsimp only
      rw [Option.bind_eq_bind, hdecode, Option.bind_some]
      exact if_pos hcond
    next => cases hif

/-- The characters of a label that is written are those of the part that it was found behind, and
those of codes. -/
theorem forall_mem_written_of_meant? {P : Char → Prop} (h : meant? part = some label)
    (hpart : ∀ c ∈ part, P c) (hx : P 'x') (hn : P 'n') (hhyphen : P '-')
    (hdigit : ∀ v, v < 36 → P (Punycode.digitChar v)) : ∀ c ∈ written label, P c := by
  unfold meant? at h
  split at h
  next =>
    cases h
    exact forall_mem_written (fun c hc _ => hpart c hc) hx hn hhyphen hdigit
  next code hcode =>
    obtain ⟨text, -, hif⟩ := Option.bind_eq_some_iff.mp h
    split at hif
    next hcond =>
      cases hif
      rw [hcond.2.2]
      exact hpart
    next => cases hif

end

/-! ## Domains -/

theorem joined_cons {label : List Char} {labels : List (List Char)} (h : labels ≠ []) :
    joined (label :: labels) = label ++ '.' :: joined labels := by
  cases labels with
  | nil => exact absurd rfl h
  | cons _ _ => rfl

theorem splitOn_joined {labels : List (List Char)} (hne : labels ≠ [])
    (h : ∀ label ∈ labels, '.' ∉ label) : Form.splitOn '.' (joined labels) = labels := by
  induction labels with
  | nil => exact absurd rfl hne
  | cons label labels ih =>
      obtain ⟨hlabel, hlabels⟩ := List.forall_mem_cons.mp h
      cases labels with
      | nil => exact Form.splitOn_of_not_mem hlabel
      | cons next labels =>
          rw [joined_cons (List.cons_ne_nil _ _), Form.splitOn_append hlabel,
            ih (List.cons_ne_nil _ _) hlabels]

theorem forall_mem_joined {P : Char → Prop} {labels : List (List Char)}
    (h : ∀ label ∈ labels, ∀ c ∈ label, P c) (hstop : P '.') : ∀ c ∈ joined labels, P c := by
  induction labels with
  | nil => exact nofun
  | cons label labels ih =>
      obtain ⟨hlabel, hlabels⟩ := List.forall_mem_cons.mp h
      cases labels with
      | nil => exact hlabel
      | cons next labels =>
          rw [joined_cons (List.cons_ne_nil _ _)]
          exact List.forall_mem_append.mpr ⟨hlabel, List.forall_mem_cons.mpr ⟨hstop, ih hlabels⟩⟩

theorem joined_splitOn (cs : List Char) : joined (Form.splitOn '.' cs) = cs := by
  induction cs with
  | nil => rfl
  | cons c cs ih =>
      by_cases hc : c = '.'
      · rw [Form.splitOn, if_pos hc, joined_cons (Form.splitOn_ne_nil cs), ih, hc]
        rfl
      · have hne : Form.splitOn '.' cs ≠ [] := Form.splitOn_ne_nil cs
        obtain ⟨part, parts, hparts⟩ := List.exists_cons_of_ne_nil hne
        rw [hparts] at ih
        rw [Form.splitOn_cons_of_ne hc hparts]
        cases parts with
        | nil => exact congrArg (c :: ·) ih
        | cons _ _ => exact congrArg (c :: ·) ih

/-- What a domain in written form consists of: small ASCII characters that are not forbidden. -/
def IsPlain (c : Char) : Prop :=
  c.toNat < 0x80 ∧ c.toLower = c ∧ isForbidden c = false

instance : DecidablePred IsPlain := fun c =>
  inferInstanceAs (Decidable (c.toNat < 0x80 ∧ c.toLower = c ∧ isForbidden c = false))

theorem toAscii?_eq_some {cs name : List Char} : toAscii? cs = some name ↔
    ∃ text labels, normalized? cs = some text ∧
      (Form.splitOn '.' text).mapM meant? = some labels ∧ text.any isForbidden = false ∧
        labels.all isLabel = true ∧ keepDirections labels = true ∧
          name = joined (labels.map written) := by
  unfold toAscii?
  simp only [Option.bind_eq_bind, Option.bind_eq_some_iff]
  constructor
  · rintro ⟨text, htext, labels, hlabels, hif⟩
    split at hif
    next hcond =>
      rw [Bool.and_eq_true, Bool.and_eq_true, Bool.not_eq_true'] at hcond
      exact ⟨text, labels, htext, hlabels, hcond.1.1, hcond.1.2, hcond.2,
        (Option.some.inj hif).symm⟩
    next => cases hif
  · rintro ⟨text, labels, htext, hlabels, hforbidden, hlabel, hdirection, rfl⟩
    refine ⟨text, htext, labels, hlabels, if_pos ?_⟩
    rw [hforbidden, hlabel, hdirection]
    rfl

theorem isDirected_of_isAscii {label : List Char} (h : isAscii label = true) :
    isDirected label = false := by
  have hchar {c : Char} (hc : c.toNat < 0x80) :
      (direction c == .rightToLeft || direction c == .arabicDigit) = false := by
    unfold direction
    rw [if_pos hc]
    split
    · rfl
    split
    · rfl
    · rfl
  rw [isDirected, List.any_eq_false]
  exact fun c hc => Bool.eq_false_iff.mp (hchar (isAscii_iff.mp h c hc))

/-- A settled character that no domain forbids is plain if it is an ASCII character. -/
theorem isPlain_of_isSettled {c : Char} (h : IsSettled c.toNat) (hforbidden : isForbidden c = false)
    (hascii : c.toNat < 0x80) : IsPlain c := by
  rcases isSettled_iff.mp h with ⟨-, hcapital⟩ | ⟨hhigh, -⟩
  · exact ⟨hascii, toLower_eq hcapital, hforbidden⟩
  · omega

theorem normalized?_of_isPlain {cs : List Char} (h : ∀ c ∈ cs, IsPlain c) :
    normalized? cs = some cs := by
  unfold normalized?
  rw [if_pos (isAscii_iff.mpr fun c hc => (h c hc).1), List.map_congr_left fun c hc => (h c hc).2.1,
    List.map_id']

/-- Plain characters without codes are their own written form. -/
theorem toAscii?_of_isPlain {cs : List Char} (h : ∀ c ∈ cs, IsPlain c)
    (hcode : ∀ part ∈ Form.splitOn '.' cs, code? part = none) : toAscii? cs = some cs := by
  have hascii : ∀ part ∈ Form.splitOn '.' cs, isAscii part = true :=
    fun part hpart => isAscii_iff.mpr fun c hc => (h c ((Form.of_mem_splitOn hpart).2 c hc)).1
  refine toAscii?_eq_some.mpr
    ⟨cs, Form.splitOn '.' cs, normalized?_of_isPlain h, ?_, ?_, ?_, ?_, ?_⟩
  · rw [mapM_eq_some, List.forall₂_same]
    intro part hpart
    unfold meant?
    rw [hcode part hpart]
  · rw [List.any_eq_false]
    exact fun c hc => Bool.eq_false_iff.mp (h c hc).2.2
  · rw [List.all_eq_true]
    intro part hpart
    rw [isLabel, hascii part hpart, Bool.true_or]
  · rw [keepDirections, Bool.or_eq_true, Bool.not_eq_true', List.any_eq_false]
    exact .inl fun part hpart => Bool.eq_false_iff.mp (isDirected_of_isAscii (hascii part hpart))
  · rw [List.map_congr_left fun part hpart => written_of_isAscii (hascii part hpart), List.map_id',
      joined_splitOn]

/-- The written form of a domain is its own written form, and plain. -/
theorem toAscii?_toAscii? {cs name : List Char} (h : toAscii? cs = some name) :
    toAscii? name = some name ∧ ∀ c ∈ name, IsPlain c := by
  obtain ⟨text, labels, htext, hlabels, hforbidden, hlabel, hdirection, rfl⟩ :=
    toAscii?_eq_some.mp h
  have hsettled := (of_normalized? htext).1
  have hlabels' : ∀ label ∈ labels,
      meant? (written label) = some label ∧ ∀ c ∈ written label, c ≠ '.' ∧ IsPlain c := by
    refine forall_mem_of_mapM hlabels fun part hpart label hmeant => ?_
    refine ⟨meant?_written (normalized?_label htext hpart) hmeant, ?_⟩
    have hascii := isAscii_iff.mp (isAscii_written label)
    have hchars : ∀ c ∈ written label, c ≠ '.' ∧ (c.toNat < 0x80 → IsPlain c) := by
      refine forall_mem_written_of_meant? hmeant (fun c hc => ?_) (by decide) (by decide)
        (by decide) fun v hv => ?_
      · obtain ⟨hstop, htext⟩ := Form.of_mem_splitOn hpart
        refine ⟨fun hdot => hstop (hdot ▸ hc), isPlain_of_isSettled (hsettled c (htext c hc)) ?_⟩
        exact Bool.eq_false_iff.mpr (List.any_eq_false.mp hforbidden c (htext c hc))
      · obtain ⟨hlow, hlower, hstop, hforbidden⟩ := digitChar_spec hv
        exact ⟨hstop, fun _ => ⟨hlow, hlower, hforbidden⟩⟩
    exact fun c hc => ⟨(hchars c hc).1, (hchars c hc).2 (hascii c hc)⟩
  have hne : labels.map written ≠ [] := by
    intro hnil
    rw [List.map_eq_nil_iff.mp hnil, mapM_eq_some, List.forall₂_nil_right_iff] at hlabels
    exact Form.splitOn_ne_nil _ hlabels
  have hwritten : ∀ part ∈ labels.map written, ∀ c ∈ part, c ≠ '.' ∧ IsPlain c := by
    rw [List.forall_mem_map]
    exact fun label hmem => (hlabels' label hmem).2
  have hplain : ∀ c ∈ joined (labels.map written), IsPlain c :=
    forall_mem_joined (fun part hpart c hc => (hwritten part hpart c hc).2) (by decide)
  refine ⟨toAscii?_eq_some.mpr ⟨_, labels, normalized?_of_isPlain hplain, ?_, ?_, hlabel,
    hdirection, rfl⟩, hplain⟩
  · rw [splitOn_joined hne fun part hpart hdot => (hwritten part hpart '.' hdot).1 rfl,
      mapM_eq_some, List.forall₂_map_left_iff, List.forall₂_same]
    exact fun label hmem => (hlabels' label hmem).1
  · rw [List.any_eq_false]
    exact fun c hc => Bool.eq_false_iff.mp (hplain c hc).2.2

end Tributary.Url.Domain
