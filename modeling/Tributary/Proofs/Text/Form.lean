import Mathlib.Data.List.Forall2
import Mathlib.Data.List.TakeWhile
import Tributary.Proofs.Text.Percent
import Tributary.Proofs.Text.Splitting
import Tributary.Text.Form

/-!
# Forms are read as they are written

The pairs of a query that pairs were added to are its own pairs and those, in order, whatever
characters their names and values have. Splitting a text at a separator and joining the parts again
are inverse to each other.
-/

namespace Tributary.Text

theorem Utf8.decodeLossy_utf8 (cs : List Char) : decodeLossy (utf8 cs) = cs := by
  unfold decodeLossy
  rw [pieces_utf8, List.map_map]
  exact List.map_id cs

/-- Items that are read one by one, all of which can be read. -/
theorem mapM_eq_some {α β : Type} {f : α → Option β} {xs : List α} {ys : List β} :
    xs.mapM f = some ys ↔ List.Forall₂ (fun x y => f x = some y) xs ys := by
  induction xs generalizing ys with
  | nil =>
      rw [List.mapM_nil, List.forall₂_nil_left_iff]
      exact ⟨fun h => (Option.some.inj h).symm, fun h => congrArg some h.symm⟩
  | cons x xs ih =>
      simp only [List.mapM_cons, Option.bind_eq_bind, Option.bind_eq_some_iff,
        List.forall₂_cons_left_iff, ih]
      constructor
      · rintro ⟨y, hy, ys', hys, h⟩
        cases h
        exact ⟨y, ys', hy, hys, rfl⟩
      · rintro ⟨y, ys', hy, hys, rfl⟩
        exact ⟨y, hy, ys', hys, rfl⟩

theorem forall_mem_of_mapM {α β : Type} {f : α → Option β} {xs : List α} {ys : List β}
    {P : β → Prop} (h : xs.mapM f = some ys) (hf : ∀ x ∈ xs, ∀ y, f x = some y → P y) :
    ∀ y ∈ ys, P y := by
  have hforall := mapM_eq_some.mp h
  clear h
  induction hforall with
  | nil => exact nofun
  | cons hy _ ih =>
      obtain ⟨hx, hxs⟩ := List.forall_mem_cons.mp hf
      exact List.forall_mem_cons.mpr ⟨hx _ hy, ih hxs⟩

namespace Form

/-! ## Parts of a text -/

section

variable {separator : Char}

theorem splitOn_ne_nil (cs : List Char) : splitOn separator cs ≠ [] := by
  cases cs with
  | nil => exact nofun
  | cons c cs =>
      unfold splitOn
      split
      · exact nofun
      · split
        · exact nofun
        · exact nofun

theorem splitOn_cons_of_ne {c : Char} (hc : c ≠ separator) {cs part : List Char}
    {parts : List (List Char)} (h : splitOn separator cs = part :: parts) :
    splitOn separator (c :: cs) = (c :: part) :: parts := by
  rw [splitOn, if_neg hc, h]

theorem splitOn_of_not_mem {cs : List Char} (h : separator ∉ cs) :
    splitOn separator cs = [cs] := by
  induction cs with
  | nil => rfl
  | cons c cs ih =>
      rw [List.mem_cons, not_or] at h
      exact splitOn_cons_of_ne (Ne.symm h.1) (ih h.2)

/-- The first part ends at the first separator. -/
theorem splitOn_append {front : List Char} (h : separator ∉ front) (rest : List Char) :
    splitOn separator (front ++ separator :: rest) = front :: splitOn separator rest := by
  induction front with
  | nil => rw [List.nil_append, splitOn, if_pos rfl]
  | cons c front ih =>
      rw [List.mem_cons, not_or] at h
      exact splitOn_cons_of_ne (Ne.symm h.1) (ih h.2)

/-- At a separator a text is split into the parts of two. -/
theorem splitOn_append_splitOn (cs rest : List Char) :
    splitOn separator (cs ++ separator :: rest) =
      splitOn separator cs ++ splitOn separator rest := by
  induction cs with
  | nil => exact splitOn_append List.not_mem_nil rest
  | cons c cs ih =>
      by_cases hc : c = separator
      · rw [List.cons_append, splitOn, if_pos hc, ih, splitOn, if_pos hc, List.cons_append]
      · obtain ⟨part, parts, hparts⟩ := List.exists_cons_of_ne_nil (splitOn_ne_nil cs)
        rw [hparts] at ih
        rw [List.cons_append, splitOn_cons_of_ne hc ih, splitOn_cons_of_ne hc hparts]
        rfl

/-- The last part begins after the last separator. -/
theorem splitOn_append_of_not_mem {last : List Char} (h : separator ∉ last) (cs : List Char) :
    splitOn separator (cs ++ separator :: last) = splitOn separator cs ++ [last] := by
  rw [splitOn_append_splitOn, splitOn_of_not_mem h]

/-- The parts hold no separator, and no character that the text does not hold. -/
theorem of_mem_splitOn {cs part : List Char} (h : part ∈ splitOn separator cs) :
    separator ∉ part ∧ ∀ c ∈ part, c ∈ cs := by
  induction cs generalizing part with
  | nil =>
      rw [splitOn, List.mem_singleton] at h
      subst h
      exact ⟨List.not_mem_nil, nofun⟩
  | cons c cs ih =>
      have hne : splitOn separator cs ≠ [] := splitOn_ne_nil cs
      obtain ⟨first, parts, hparts⟩ := List.exists_cons_of_ne_nil hne
      rw [hparts] at ih
      have htail {p : List Char} (hp : p ∈ first :: parts) :
          separator ∉ p ∧ ∀ d ∈ p, d ∈ c :: cs :=
        ⟨(ih hp).1, fun d hd => List.mem_cons_of_mem c ((ih hp).2 d hd)⟩
      by_cases hc : c = separator
      · rw [splitOn, if_pos hc, hparts] at h
        rcases List.mem_cons.mp h with rfl | h
        · exact ⟨List.not_mem_nil, nofun⟩
        · exact htail h
      · rw [splitOn_cons_of_ne hc hparts] at h
        rcases List.mem_cons.mp h with rfl | h
        · obtain ⟨hfirst, hmem⟩ := htail List.mem_cons_self
          refine ⟨fun hmem => (List.mem_cons.mp hmem).elim (Ne.symm hc) hfirst, ?_⟩
          exact List.forall_mem_cons.mpr ⟨List.mem_cons_self, hmem⟩
        · exact htail (List.mem_cons_of_mem first h)

end

/-! ## Names and values -/

/-- The character that a form writes as a plus sign, and all plain ones. -/
def keepsInForm (c : Char) : Bool := isPlain c || c == ' '

theorem not_mem_percentChar_isPlain (c : Char) : '+' ∉ percentChar isPlain c := by
  have hplus : isPlain '+' = false := by decide
  have hall : ∀ d ∈ percentChar isPlain c, d ≠ '+' := by
    refine forall_mem_percentChar ?_ (by decide) (by decide)
    rintro - hplain rfl
    rw [hplus] at hplain
    cases hplain
  exact fun h => hall '+' h rfl

/-- Reading plus signs as spaces gives the text that a form would have written without them. -/
theorem map_encode (s : String) :
    (encode s).map (fun c => if c = '+' then ' ' else c) = percentEncode keepsInForm s.toList := by
  have hchar (c : Char) : (if c = ' ' then ['+'] else percentChar isPlain c).map
      (fun c => if c = '+' then ' ' else c) = percentChar keepsInForm c := by
    by_cases hc : c = ' '
    · subst hc
      decide
    · have hsame : percentChar keepsInForm c = percentChar isPlain c := by
        unfold percentChar keepsInForm
        rw [beq_eq_false_iff_ne.mpr hc, Bool.or_false]
      rw [if_neg hc, hsame]
      refine (List.map_congr_left fun d hd => ?_).trans (List.map_id _)
      rw [if_neg]
      · rfl
      · rintro rfl
        exact not_mem_percentChar_isPlain c hd
  unfold encode percentEncode
  rw [List.map_flatMap]
  exact List.flatMap_congr fun c _ => hchar c

/-- A name or a value is read as it was written. -/
theorem decode_encode (s : String) : decode (encode s) = s := by
  unfold decode
  rw [map_encode, percentDecode_percentEncode (by decide), Utf8.decodeLossy_utf8,
    String.ofList_toList]

/-- A text that is encoded to stand for itself is read, though plus signs are read as spaces: none
is left in it. -/
theorem decode_component (s : String) : decode (percentEncode isUnreserved s.toList) = s := by
  have hplus : ∀ c ∈ percentEncode isUnreserved s.toList, c ≠ '+' :=
    forall_mem_component (by decide) (by decide) _
  have hmap : (percentEncode isUnreserved s.toList).map (fun c => if c = '+' then ' ' else c) =
      percentEncode isUnreserved s.toList :=
    (List.map_congr_left fun c hc => if_neg (hplus c hc)).trans (List.map_id _)
  unfold decode
  rw [hmap, percentDecode_percentEncode (by decide), Utf8.decodeLossy_utf8, String.ofList_toList]

/-- The characters of names and values that are written: plain ones, plus signs, percent signs and
digits. -/
theorem forall_mem_encode {P : Char → Prop} (hplain : ∀ c, c.toNat < 0x80 → isPlain c = true → P c)
    (hplus : P '+') (hpercent : P '%') (hdigit : ∀ d, P (upperHexChar d)) (s : String) :
    ∀ c ∈ encode s, P c := by
  intro c hc
  obtain ⟨d, -, hc⟩ := List.mem_flatMap.mp hc
  split at hc
  · rw [List.mem_singleton] at hc
    exact hc ▸ hplus
  · exact forall_mem_percentChar (hplain d) hpercent hdigit c hc

theorem not_mem_encode {mark : Char} (hplain : isPlain mark = false) (hplus : mark ≠ '+')
    (hpercent : mark ≠ '%') (hdigit : ∀ d, upperHexChar d ≠ mark) (s : String) :
    mark ∉ encode s := by
  have hall : ∀ c ∈ encode s, c ≠ mark := by
    refine forall_mem_encode (P := fun c => c ≠ mark) ?_ hplus.symm hpercent.symm hdigit s
    rintro c - hc rfl
    rw [hplain] at hc
    cases hc
  exact fun h => hall mark h rfl

/-! ## Pairs -/

theorem not_mem_encodePair (pair : String × String) : '&' ∉ encodePair pair := by
  have hencode : ∀ s, '&' ∉ encode s :=
    not_mem_encode (by decide) (by decide) (by decide) (by decide)
  intro h
  rcases List.mem_append.mp h with h | h
  · exact hencode _ h
  · exact (List.mem_cons.mp h).elim (by decide) (hencode _)

theorem encodePair_ne_nil (pair : String × String) : encodePair pair ≠ [] :=
  List.append_ne_nil_of_right_ne_nil _ (List.cons_ne_nil _ _)

/-- A name and a value are read apart. -/
theorem decodePair_append {name : List Char} (h : '=' ∉ name) (value : List Char) :
    decodePair (name ++ '=' :: value) = (decode name, decode value) := by
  obtain ⟨htake, hdrop⟩ := span_mark h value
  unfold decodePair
  rw [htake, hdrop, List.drop_succ_cons, List.drop_zero]

theorem decodePair_encodePair (pair : String × String) : decodePair (encodePair pair) = pair := by
  have hname : '=' ∉ encode pair.1 :=
    not_mem_encode (by decide) (by decide) (by decide) (by decide) _
  unfold encodePair
  rw [decodePair_append hname, decode_encode, decode_encode]

theorem pairs_append_pairs (front back : List Char) :
    pairs (front ++ '&' :: back) = pairs front ++ pairs back := by
  unfold pairs
  rw [splitOn_append_splitOn, List.filter_append, List.map_append]

theorem pairs_of_not_mem {cs : List Char} (h : '&' ∉ cs) (hne : cs ≠ []) :
    pairs cs = [decodePair cs] := by
  have hfilter : [cs].filter (!·.isEmpty) = [cs] := by simp [hne]
  unfold pairs
  rw [splitOn_of_not_mem h, hfilter, List.map_singleton]

/-- The pairs of a query with pairs added are its own ones and those. -/
theorem pairs_append (query : List Char) (added : List (String × String)) :
    pairs (append query added) = pairs query ++ added := by
  induction added generalizing query with
  | nil => rw [append, List.append_nil]
  | cons pair added ih =>
      have hadded : pairs (encodePair pair) = [pair] := by
        rw [pairs_of_not_mem (not_mem_encodePair pair) (encodePair_ne_nil pair),
          decodePair_encodePair]
      have hpair : pairs (if query.isEmpty then encodePair pair
          else query ++ '&' :: encodePair pair) = pairs query ++ [pair] := by
        split
        next hempty =>
          rw [List.isEmpty_iff.mp hempty, hadded]
          rfl
        next => rw [pairs_append_pairs, hadded]
      rw [append, ih, hpair, List.append_assoc, List.singleton_append]

end Form

end Tributary.Text
