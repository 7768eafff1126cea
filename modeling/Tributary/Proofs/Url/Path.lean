import Tributary.Proofs.Text.Percent
import Tributary.Url.Path

/-!
# Paths are read as they are written

The path of a URL with a special scheme that has been read is a list of segments, none of which is
resolved when it is read again: dots have been, and what would end a segment has been encoded. Its
text is read as the same list. A list of segments of which only the last is made of dots is read as
the segments before it, or as these without the last one.
-/

namespace Tributary.Url.Path

open Text

/-! ## Segments -/

/-- A character that stands for itself within a segment. -/
def IsInner (c : Char) : Prop := isKept keeps c = true ∧ isSeparator .special c = false

instance : DecidablePred IsInner := fun c =>
  inferInstanceAs (Decidable (isKept keeps c = true ∧ isSeparator .special c = false))

/-- A segment that stands for itself. -/
structure IsSegment (segment : List Char) : Prop where
  inner : ∀ c ∈ segment, IsInner c
  not_single : isSingleDot segment = false
  not_double : isDoubleDot segment = false

/-- Segments that stand for themselves. -/
def AreSegments (segments : List (List Char)) : Prop := ∀ segment ∈ segments, IsSegment segment

theorem isSegment_nil : IsSegment [] := ⟨nofun, rfl, rfl⟩

/-- An encoded text without separators is made of such characters. -/
theorem isInner_of_mem_percentEncode {cs : List Char}
    (h : ∀ c ∈ cs, isSeparator .special c = false) : ∀ c ∈ percentEncode keeps cs, IsInner c := by
  refine forall_mem_percentEncode (fun c hc hascii hkeeps => ⟨?_, h c hc⟩) (by decide) (by decide)
  rw [isKept, hkeeps, decide_eq_true hascii]
  rfl

/-! ## Dots -/

theorem plainDots_of_not_mem {cs : List Char} (h : '%' ∉ cs) : plainDots cs = cs := by
  induction cs with
  | nil => rfl
  | cons c cs ih =>
      rw [List.mem_cons, not_or] at h
      rw [plainDots, ih h.2]
      · rintro rest rfl
        exact absurd rfl h.1
      · rintro rest rfl
        exact absurd rfl h.1

/-- A text without dots and percent signs is a segment. -/
theorem isSegment_of_forall {cs : List Char} (h : ∀ c ∈ cs, IsInner c ∧ c ≠ '%' ∧ c ≠ '.') :
    IsSegment cs := by
  have hdots : plainDots cs = cs := plainDots_of_not_mem fun hmem => (h '%' hmem).2.1 rfl
  have hdot : ∀ rest, cs ≠ '.' :: rest := by
    rintro rest rfl
    exact (h '.' List.mem_cons_self).2.2 rfl
  refine ⟨fun c hc => (h c hc).1, ?_, ?_⟩
  · rw [isSingleDot, hdots]
    exact beq_eq_false_iff_ne.mpr (hdot _)
  · rw [isDoubleDot, hdots]
    exact beq_eq_false_iff_ne.mpr (hdot _)

theorem eq_nil_of_plainDots {cs : List Char} (h : plainDots cs = []) : cs = [] := by
  unfold plainDots at h
  split at h
  · cases h
  · cases h
  · cases h
  · rfl

theorem of_plainDots_eq_cons {cs ds : List Char} (h : plainDots cs = '.' :: ds) :
    ∃ rest, plainDots rest = ds ∧ ∃ dot ∈ [['.'], ['%', '2', 'e'], ['%', '2', 'E']],
      cs = dot ++ rest := by
  unfold plainDots at h
  split at h
  next rest => exact ⟨rest, (List.cons.inj h).2, ['%', '2', 'e'], by decide, rfl⟩
  next rest => exact ⟨rest, (List.cons.inj h).2, ['%', '2', 'E'], by decide, rfl⟩
  next c rest _ _ =>
    obtain ⟨rfl, hrest⟩ := List.cons.inj h
    exact ⟨rest, hrest, ['.'], by decide, rfl⟩
  next => cases h

theorem percentDecode_dot {dot : List Char}
    (h : dot ∈ [['.'], ['%', '2', 'e'], ['%', '2', 'E']]) (rest : List Char) :
    percentDecode (dot ++ rest) = 0x2E :: percentDecode rest := by
  simp only [List.mem_cons, List.not_mem_nil, or_false] at h
  rcases h with rfl | rfl | rfl
  · exact percentDecodeBytes_char (by decide) rest
  · unfold percentDecode
    rw [List.cons_append, List.cons_append, List.cons_append, utf8_ascii (by decide),
      utf8_ascii (by decide), utf8_ascii (by decide)]
    rfl
  · exact percentDecodeBytes_percentByte 0x2E rest

/-- A dot in any of its spellings is read as a dot. -/
theorem percentDecode_of_plainDots {cs : List Char} {count : Nat}
    (h : plainDots cs = List.replicate count '.') :
    percentDecode cs = utf8 (List.replicate count '.') := by
  induction count generalizing cs with
  | zero =>
      rw [eq_nil_of_plainDots h]
      rfl
  | succ count ih =>
      obtain ⟨rest, hrest, dot, hdot, rfl⟩ := of_plainDots_eq_cons h
      rw [percentDecode_dot hdot, ih hrest, List.replicate_succ, utf8_ascii (by decide)]
      rfl

/-! ## Splitting -/

section

variable {cs part : List Char} {parts : List (List Char)}

theorem splitSegments_ne_nil (cs : List Char) : splitSegments .special cs ≠ [] := by
  cases cs with
  | nil => exact nofun
  | cons c cs =>
      unfold splitSegments
      split
      · exact nofun
      · split
        · exact nofun
        · exact nofun

theorem splitSegments_cons {c : Char} (hc : isSeparator .special c = false)
    (h : splitSegments .special cs = part :: parts) :
    splitSegments .special (c :: cs) = (c :: part) :: parts := by
  rw [splitSegments, hc, h, if_neg Bool.false_ne_true]

theorem splitSegments_slash (cs : List Char) :
    splitSegments .special ('/' :: cs) = [] :: splitSegments .special cs := rfl

/-- The parts hold no separators. -/
theorem of_mem_splitSegments (h : part ∈ splitSegments .special cs) :
    ∀ c ∈ part, isSeparator .special c = false := by
  induction cs generalizing part with
  | nil =>
      rw [splitSegments, List.mem_singleton] at h
      subst h
      exact nofun
  | cons c cs ih =>
      obtain ⟨first, parts, hparts⟩ := List.exists_cons_of_ne_nil (splitSegments_ne_nil cs)
      rw [hparts] at ih
      cases hc : isSeparator .special c with
      | true =>
          rw [splitSegments, hc, if_pos rfl, hparts] at h
          rcases List.mem_cons.mp h with rfl | h
          · exact nofun
          · exact ih h
      | false =>
          rw [splitSegments_cons hc hparts] at h
          rcases List.mem_cons.mp h with rfl | h
          · exact List.forall_mem_cons.mpr ⟨hc, ih List.mem_cons_self⟩
          · exact ih (List.mem_cons_of_mem first h)

theorem splitSegments_append {front rest : List Char}
    (hfront : ∀ c ∈ front, isSeparator .special c = false)
    (hrest : splitSegments .special rest = [] :: parts) :
    splitSegments .special (front ++ rest) = front :: parts := by
  induction front with
  | nil => exact hrest
  | cons c front ih =>
      obtain ⟨hc, hfront⟩ := List.forall_mem_cons.mp hfront
      exact splitSegments_cons hc (ih hfront)

/-- Parts that are written after slashes are found again. -/
theorem splitSegments_text (hpart : ∀ c ∈ part, isSeparator .special c = false)
    (hparts : ∀ part ∈ parts, ∀ c ∈ part, isSeparator .special c = false) :
    splitSegments .special (part ++ text (.segments parts)) = part :: parts := by
  induction parts generalizing part with
  | nil => exact splitSegments_append hpart rfl
  | cons next parts ih =>
      obtain ⟨hnext, hparts⟩ := List.forall_mem_cons.mp hparts
      refine splitSegments_append hpart ?_
      show splitSegments .special ('/' :: (next ++ text (.segments parts))) = _
      rw [splitSegments_slash, ih hnext hparts]

end

/-! ## Resolving dots -/

section

variable {path segments : List (List Char)} {segment : List Char}

theorem push_of_isSegment (h : IsSegment segment) (last : Bool) :
    push .special path segment last = path ++ [segment] := by
  unfold push
  rw [h.not_double, h.not_single]
  rfl

/-- Segments that stand for themselves are added as they are. -/
theorem pushAll_of_areSegments (path : List (List Char)) (h : AreSegments segments) :
    pushAll .special path segments = path ++ segments := by
  induction segments generalizing path with
  | nil => exact (List.append_nil path).symm
  | cons segment segments ih =>
      obtain ⟨hsegment, hsegments⟩ := List.forall_mem_cons.mp h
      cases segments with
      | nil => exact push_of_isSegment hsegment true
      | cons next segments =>
          rw [pushAll, push_of_isSegment hsegment, ih _ hsegments, List.append_assoc,
            List.singleton_append]
          exact nofun

/-- So they are in front of a last one. -/
theorem pushAll_concat (path : List (List Char)) (h : AreSegments segments) (last : List Char) :
    pushAll .special path (segments ++ [last]) = push .special (path ++ segments) last true := by
  induction segments generalizing path with
  | nil => rw [List.append_nil]; rfl
  | cons segment segments ih =>
      obtain ⟨hsegment, hsegments⟩ := List.forall_mem_cons.mp h
      rw [List.cons_append, pushAll, push_of_isSegment hsegment, ih _ hsegments, List.append_assoc,
        List.singleton_append]
      exact List.append_ne_nil_of_right_ne_nil _ (List.cons_ne_nil _ _)

/-- Whatever is added, the segments of a path stand for themselves. -/
theorem areSegments_push (hpath : AreSegments path) (h : ∀ c ∈ segment, IsInner c) (last : Bool) :
    AreSegments (push .special path segment last) := by
  have hempty : AreSegments (if last then [[]] else []) := by
    cases last with
    | true => exact List.forall_mem_singleton.mpr isSegment_nil
    | false => exact nofun
  have hdropLast : AreSegments path.dropLast := fun s hs =>
    hpath s ((List.dropLast_prefix path).subset hs)
  unfold push
  split
  next => exact List.forall_mem_append.mpr ⟨hdropLast, hempty⟩
  next hdouble =>
    split
    next => exact List.forall_mem_append.mpr ⟨hpath, hempty⟩
    next hsingle =>
      rw [if_neg (fun hfile => absurd hfile.1 (by decide))]
      refine List.forall_mem_append.mpr ⟨hpath, List.forall_mem_singleton.mpr ⟨h, ?_, ?_⟩⟩
      · exact Bool.eq_false_iff.mpr hsingle
      · exact Bool.eq_false_iff.mpr hdouble

theorem push_last_ne_nil (path : List (List Char)) (segment : List Char) :
    push .special path segment true ≠ [] := by
  unfold push
  split
  · exact List.append_ne_nil_of_right_ne_nil _ (List.cons_ne_nil _ _)
  split
  · exact List.append_ne_nil_of_right_ne_nil _ (List.cons_ne_nil _ _)
  rw [if_neg (fun hfile => absurd hfile.1 (by decide))]
  exact List.append_ne_nil_of_right_ne_nil _ (List.cons_ne_nil _ _)

theorem areSegments_pushAll (hpath : AreSegments path)
    (h : ∀ segment ∈ segments, ∀ c ∈ segment, IsInner c) (hne : segments ≠ []) :
    AreSegments (pushAll .special path segments) ∧ pushAll .special path segments ≠ [] := by
  induction segments generalizing path with
  | nil => exact absurd rfl hne
  | cons segment segments ih =>
      obtain ⟨hsegment, hsegments⟩ := List.forall_mem_cons.mp h
      cases segments with
      | nil => exact ⟨areSegments_push hpath hsegment true, push_last_ne_nil path segment⟩
      | cons next segments =>
          rw [pushAll]
          · exact ih (areSegments_push hpath hsegment false) hsegments (List.cons_ne_nil _ _)
          · exact nofun

end

/-! ## Reading -/

theorem readSegments_special (cs : List Char) : readSegments .special cs =
    pushAll .special [] ((splitSegments .special cs).map (percentEncode keeps)) := rfl

/-- What is read is a list of segments that stand for themselves, at least one. -/
theorem exists_read (cs : List Char) :
    ∃ segments, read .special cs = .segments segments ∧ segments ≠ [] ∧ AreSegments segments := by
  have hread (cs : List Char) :
      readSegments .special cs ≠ [] ∧ AreSegments (readSegments .special cs) := by
    have hnone : AreSegments [] := nofun
    refine (areSegments_pushAll hnone ?_ ?_).symm
    · rw [List.forall_mem_map]
      exact fun part hpart => isInner_of_mem_percentEncode (of_mem_splitSegments hpart)
    · exact fun hnil => splitSegments_ne_nil cs (List.map_eq_nil_iff.mp hnil)
  cases cs with
  | nil =>
      exact ⟨[[]], rfl, List.cons_ne_nil _ _, List.forall_mem_singleton.mpr isSegment_nil⟩
  | cons c cs =>
      rw [read]
      split
      · exact ⟨_, rfl, hread cs⟩
      · exact ⟨_, rfl, hread (c :: cs)⟩

/-- Segments that are written are added one by one when they are read. -/
theorem read_text {segments : List (List Char)} (hne : segments ≠ [])
    (h : ∀ segment ∈ segments, ∀ c ∈ segment, IsInner c) :
    read .special (text (.segments segments)) = .segments (pushAll .special [] segments) := by
  obtain ⟨first, rest, rfl⟩ := List.exists_cons_of_ne_nil hne
  have hseparator : ∀ segment ∈ first :: rest, ∀ c ∈ segment, isSeparator .special c = false :=
    fun segment hsegment c hc => (h segment hsegment c hc).2
  obtain ⟨hfirst, hrest⟩ := List.forall_mem_cons.mp hseparator
  have hkept : (first :: rest).map (percentEncode keeps) = first :: rest := by
    refine (List.map_congr_left fun segment hsegment => ?_).trans (List.map_id _)
    exact percentEncode_of_forall fun c hc => (h segment hsegment c hc).1
  show Path.segments (readSegments .special (first ++ text (.segments rest))) = _
  rw [readSegments_special, splitSegments_text hfirst hrest, hkept]

/-- What ordinary characters and slashes have, the characters of a path have. -/
theorem forall_mem_text {P : Char → Prop} (hinner : ∀ c, IsInner c → P c) (hslash : P '/')
    {segments : List (List Char)} (h : ∀ segment ∈ segments, ∀ c ∈ segment, IsInner c) :
    ∀ c ∈ text (.segments segments), P c := by
  intro c hc
  obtain ⟨segment, hsegment, hc⟩ := List.mem_flatMap.mp hc
  rcases List.mem_cons.mp hc with rfl | hc
  · exact hslash
  · exact hinner c (h segment hsegment c hc)

end Tributary.Url.Path
