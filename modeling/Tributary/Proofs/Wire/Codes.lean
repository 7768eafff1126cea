import Tributary.Proofs.Json.Records
import Tributary.Wire.ResultSet

/-!
# Identifiers and codes are read as they are written

An identifier is written in groups of digits. A status code keeps its text, known or not, and a kind
of redirect that is not known has a word of its own.
-/

namespace Tributary

open Text
open Json (text string? uuid? Writes)

namespace Uuid

theorem hexChar_ne {d : Fin 16} : hexChar d ≠ '-' ∧ hexChar d ≠ '\x7b' ∧ hexChar d ≠ 'u' := by
  revert d
  decide

/-- The groups of an identifier are its digits. -/
theorem filter_hyphenate {cs : List Char} (h : ∀ c ∈ cs, c ≠ '-') :
    (hyphenate cs).filter (· != '-') = cs := by
  have hkeep {part : List Char} (hpart : part ⊆ cs) : part.filter (· != '-') = part :=
    List.filter_eq_self.mpr fun c hc => bne_iff_ne.mpr (h c (hpart hc))
  have hmiddle (k : Nat) : (cs.drop k).take 4 ⊆ cs := fun _ hc =>
    List.mem_of_mem_drop (List.mem_of_mem_take hc)
  have hhyphen (part : List Char) : ('-' :: part).filter (· != '-') = part.filter (· != '-') :=
    List.filter_cons_of_neg (by decide)
  have hdrop (k : Nat) : (cs.drop k).take 4 ++ cs.drop (k + 4) = cs.drop k := by
    rw [← List.drop_drop, List.take_append_drop]
  unfold hyphenate
  simp only [List.filter_append, hhyphen]
  rw [hkeep (List.take_subset 8 cs), hkeep (hmiddle 8), hkeep (hmiddle 12), hkeep (hmiddle 16),
    hkeep (List.drop_subset 20 cs)]
  simp only [List.append_assoc, hdrop]
  exact List.take_append_drop 8 cs

theorem length_hyphenate {cs : List Char} (h : cs.length = 32) : (hyphenate cs).length = 36 := by
  unfold hyphenate
  simp [h]

theorem readSimple?_digits (u : Uuid) : readSimple? (u.digits.map hexChar) = some u := by
  have hdigits : (u.digits.map hexChar).mapM hexDigit? = some u.digits := by
    induction u.digits with
    | nil => rfl
    | cons d ds ih =>
        rw [List.map_cons, List.mapM_cons, hexDigit?_hexChar, ih]
        rfl
  rw [readSimple?, hdigits, Option.bind_some, ofDigits?, dif_pos u.length_digits]

/-- An identifier is read as it is written. -/
theorem read?_text (u : Uuid) : read? u.text = some u := by
  have hhyphen : ∀ c ∈ u.digits.map hexChar, c ≠ '-' := by
    intro c hc
    obtain ⟨d, -, rfl⟩ := List.mem_map.mp hc
    exact hexChar_ne.1
  have hlength : u.text.length = 36 :=
    length_hyphenate ((List.length_map _).trans u.length_digits)
  have hread : readHyphenated? u.text = some u := by
    unfold readHyphenated?
    rw [text, filter_hyphenate hhyphen, ← text, if_pos ⟨hlength, rfl⟩, readSimple?_digits]
  obtain ⟨d, ds, hds⟩ : ∃ d ds, u.digits = d :: ds :=
    List.exists_cons_of_length_pos (by rw [u.length_digits]; decide)
  obtain ⟨cs, hcs⟩ : ∃ cs, u.text = hexChar d :: cs := ⟨_, by rw [text, hds]; rfl⟩
  rw [hcs, read?]
  · rw [← hcs, if_neg (by rw [hlength]; decide), hread]
  · exact fun rest h => hexChar_ne.2.1 (List.cons.inj h).1
  · exact fun rest h => hexChar_ne.2.2 (List.cons.inj h).1

end Uuid

/-- An identifier is written as a text. -/
theorem writes_uuid {n : Nat} : Writes n uuid? (fun u : Uuid => text u.toString) fun _ => True where
  canonical _ := trivial
  plain _ := .text _
  read_write {u} _ := by
    change Uuid.read? (String.ofList u.text).toList = some u
    rw [String.toList_ofList, Uuid.read?_text]

theorem NamedState.ofCode?_code (state : NamedState) : ofCode? state.code = some state := by
  cases state <;> rfl

/-- A status code of any text is read as it is written. -/
theorem SqlState.ofCode_code (state : SqlState) : ofCode state.code = state := by
  unfold ofCode
  split
  next named h =>
    cases state with
    | named state =>
        rw [code, NamedState.ofCode?_code] at h
        cases h
        rfl
    | other code unnamed => cases unnamed.symm.trans h
  next h =>
    cases state with
    | named state => cases (NamedState.ofCode?_code state).symm.trans h
    | other code unnamed => rfl

theorem SqlState.writes {n : Nat} : Writes n SqlState.read? SqlState.json fun _ => True where
  canonical _ := trivial
  plain _ := .text _
  read_write {state} _ := congrArg some (ofCode_code state)

theorem RedirectKind.writes {n : Nat} :
    Writes n RedirectKind.read? (fun kind => text kind.word) fun _ => True where
  canonical _ := trivial
  plain _ := .text _
  read_write {kind} _ := by
    cases kind <;> rfl

end Tributary
