import Mathlib.Data.List.DropRight
import Tributary.Proofs.Url.Credentials
import Tributary.Text.Blank

/-!
# Queries of any text

What stands in front of the first question mark of a text decides whether it is read as a URL, and
as which one but for the query and the fragment: the scheme, the credentials, the host and the path
all end there at the latest. So texts that differ behind it only are read as URLs that differ in
nothing else, or none of them is read.
-/

namespace Tributary.Url

open Text

/-! ## Tidying a text -/

/-- A text without the white space and the controls at its front, and without line breaks. -/
def tidyFront (cs : List Char) : List Char :=
  withoutBreaks ((trimStart cs).dropWhile fun c => c.toNat ≤ 0x20)

/-- A text without the white space and the controls at its end, and without line breaks. -/
def tidyBack (cs : List Char) : List Char :=
  withoutBreaks (dropEndWhile (fun c => c.toNat ≤ 0x20) (dropEndWhile isBlank cs))

/-- A character that is neither passed over at the ends of a text nor within it. -/
def IsSolid (c : Char) : Prop := isBlank c = false ∧ 0x20 < c.toNat

instance (c : Char) : Decidable (IsSolid c) := inferInstanceAs (Decidable (_ ∧ _))

section

variable {p : Char → Bool} {c : Char}

theorem takeWhile_append_stop (hc : p c = false) (front rest : List Char) :
    (front ++ c :: rest).takeWhile p = front.takeWhile p := by
  induction front with
  | nil => exact List.takeWhile_cons_of_neg (by simp [hc])
  | cons d front ih =>
      rw [List.cons_append, List.takeWhile_cons, List.takeWhile_cons, ih]

theorem dropWhile_append_stop (hc : p c = false) (front rest : List Char) :
    (front ++ c :: rest).dropWhile p = front.dropWhile p ++ c :: rest := by
  induction front with
  | nil => exact List.dropWhile_cons_of_neg (by simp [hc])
  | cons d front ih =>
      rw [List.cons_append, List.dropWhile_cons, List.dropWhile_cons, ih]
      split <;> rfl

theorem dropEndWhile_append_stop (hc : p c = false) (front rest : List Char) :
    dropEndWhile p (front ++ c :: rest) = front ++ c :: dropEndWhile p rest := by
  unfold dropEndWhile
  rw [List.reverse_append, List.reverse_cons, List.append_assoc, List.singleton_append,
    dropWhile_append_stop hc]
  simp

end

theorem withoutBreaks_append (front back : List Char) :
    withoutBreaks (front ++ back) = withoutBreaks front ++ withoutBreaks back :=
  List.filter_append ..

theorem withoutBreaks_cons_of_isSolid {c : Char} (hc : IsSolid c) (rest : List Char) :
    withoutBreaks (c :: rest) = c :: withoutBreaks rest := by
  have hsingle : withoutBreaks [c] = [c] :=
    withoutBreaks_of_forall (List.forall_mem_singleton.mpr hc.2)
  show withoutBreaks ([c] ++ rest) = _
  rw [withoutBreaks_append, hsingle, List.singleton_append]

/-- On either side of a character that stays, a text is tidied on its own. -/
theorem cleaned_trim_append {c : Char} (hc : IsSolid c) (front back : List Char) :
    cleaned (trim (front ++ c :: back)) = tidyFront front ++ c :: tidyBack back := by
  have houter : decide (c.toNat ≤ 0x20) = false := decide_eq_false (Nat.not_le.mpr hc.2)
  have htrim : trim (front ++ c :: back) =
      trimStart front ++ c :: dropEndWhile isBlank back := by
    unfold trim trimStart
    rw [dropWhile_append_stop hc.1, dropEndWhile_append_stop hc.1]
  have hcleaned (cs : List Char) : cleaned cs = withoutBreaks (dropEndWhile
      (fun c => decide (c.toNat ≤ 0x20)) (cs.dropWhile fun c => decide (c.toNat ≤ 0x20))) := rfl
  rw [htrim, hcleaned, dropWhile_append_stop houter, dropEndWhile_append_stop houter,
    withoutBreaks_append, withoutBreaks_cons_of_isSolid hc]
  rfl

theorem tidyFront_append {c : Char} (hc : IsSolid c) (front rest : List Char) :
    tidyFront (front ++ c :: rest) = tidyFront front ++ c :: withoutBreaks rest := by
  have houter : decide (c.toNat ≤ 0x20) = false := decide_eq_false (Nat.not_le.mpr hc.2)
  unfold tidyFront trimStart
  rw [dropWhile_append_stop hc.1, dropWhile_append_stop houter, withoutBreaks_append,
    withoutBreaks_cons_of_isSolid hc]

theorem tidyBack_append {c : Char} (hc : IsSolid c) (front rest : List Char) :
    tidyBack (front ++ c :: rest) = withoutBreaks front ++ c :: tidyBack rest := by
  have houter : decide (c.toNat ≤ 0x20) = false := decide_eq_false (Nat.not_le.mpr hc.2)
  unfold tidyBack
  rw [dropEndWhile_append_stop hc.1, dropEndWhile_append_stop houter, withoutBreaks_append,
    withoutBreaks_cons_of_isSolid hc]

theorem tidyFront_subset (cs : List Char) : tidyFront cs ⊆ cs := fun _ hc =>
  ((List.dropWhile_suffix _).trans (List.dropWhile_suffix _)).subset (List.mem_of_mem_filter hc)

theorem tidyBack_subset (cs : List Char) : tidyBack cs ⊆ cs := fun _ hc =>
  ((List.rdropWhile_prefix _ _).trans (List.rdropWhile_prefix _ _)).subset
    (List.mem_of_mem_filter hc)

/-! ## What ends at a question mark -/

/-- Reads a text that is tidy. -/
def readTidy (cs : List Char) : Except Fault Url :=
  match splitScheme? cs with
  | none => .error .relative
  | some (scheme, rest) =>
    match SchemeKind.of scheme with
    | .special => readAuthority scheme (rest.dropWhile (Path.isSeparator .special))
    | .file => readFile scheme rest
    | .other => readOther scheme rest

theorem read_eq_readTidy (cs : List Char) : read cs = readTidy (cleaned cs) := rfl

/-- A text that no query and no fragment begins in. -/
def IsFront (cs : List Char) : Prop := ∀ c ∈ cs, endsPath c = false

section

variable {front : List Char} (tail : List Char)

theorem takeWhile_path (front : List Char) :
    ((front ++ '?' :: tail).takeWhile fun c => !endsPath c) =
      front.takeWhile fun c => !endsPath c :=
  takeWhile_append_stop rfl front tail

theorem withTail_append (u : Url) (h : IsFront front) :
    u.withTail (front ++ '?' :: tail) = u.withTail ('?' :: tail) := by
  have hfront : ∀ c ∈ front, (!endsPath c) = true := fun c hc => by rw [h c hc]; rfl
  unfold withTail
  rw [List.dropWhile_append_of_pos hfront]

/-- What follows a question mark is the query, up to the fragment. -/
theorem withTail_query (u : Url) : u.withTail ('?' :: tail) = { u with
    query := some (percentEncode (keepsInQuery u.kind) (tail.takeWhile (· != '#')))
    fragment := readFragment (tail.dropWhile (· != '#')) } := rfl

theorem IsFront.of_subset {cs : List Char} (h : IsFront front) (hcs : cs ⊆ front) : IsFront cs :=
  fun c hc => h c (hcs hc)

theorem IsFront.append {cs : List Char} (h : IsFront front) (hcs : IsFront cs) :
    IsFront (front ++ cs) :=
  List.forall_mem_append.mpr ⟨h, hcs⟩

end

/-! ## Parts of what stands in front of a query -/

section

variable {scheme : String} {cs : List Char}

theorem subset_of_splitUserinfo {userinfo : Option (List Char)} {back : List Char}
    (h : splitUserinfo cs = (userinfo, back)) : back ⊆ cs := by
  unfold splitUserinfo splitLast? at h
  split at h
  next =>
    cases h
    exact fun c hc => hc
  next hsplit =>
    split at hsplit
    · cases hsplit
    · cases hsplit
      cases h
      intro c hc
      rw [List.mem_reverse] at hc
      exact List.mem_reverse.mp ((List.takeWhile_sublist _).subset hc)

theorem subset_of_readPort {port : Option Nat} {leftover : List Char}
    (h : readPort scheme cs = .ok (port, leftover)) : leftover ⊆ cs := by
  unfold readPort at h
  split at h
  next =>
    cases h
    exact List.nil_subset []
  next c cs =>
    dsimp only at h
    split at h
    next => cases h
    next =>
      split at h
      next =>
        injection h with h
        obtain ⟨-, rfl⟩ := Prod.mk.inj h
        exact fun d hd => List.mem_cons_of_mem c ((List.dropWhile_sublist _).subset hd)
      next => cases h

/-- Whatever follows a question mark, the credentials, the host, the port and the path are read as
if nothing did. -/
theorem readAuthority_append_query (h : IsFront cs) (tail : List Char) :
    readAuthority scheme (cs ++ '?' :: tail) =
      (readAuthority scheme (cs ++ ['?'])).map (·.withTail ('?' :: tail)) := by
  have hstop (kind : SchemeKind) : (!endsAuthority kind '?') = false := by cases kind <;> rfl
  have hsome (front tail : List Char) : (front ++ '?' :: tail).isEmpty = false := by
    cases front <;> rfl
  unfold readAuthority
  dsimp only
  rw [takeWhile_append_stop (hstop _), takeWhile_append_stop (hstop _),
    dropWhile_append_stop (hstop _), dropWhile_append_stop (hstop _), hsome, hsome]
  generalize hsplit : splitUserinfo _ = split
  obtain ⟨userinfo, hostAndPort⟩ := split
  have hrest : cs.dropWhile (fun c => !endsAuthority (SchemeKind.of scheme) c) ⊆ cs :=
    (List.dropWhile_sublist _).subset
  have hport : (hostPart false hostAndPort).2 ⊆ cs := fun c hc =>
    (List.takeWhile_sublist _).subset (subset_of_splitUserinfo hsplit
      (hostPart_append_hostPart false hostAndPort ▸ List.mem_append_right _ hc))
  dsimp only
  split
  next => rfl
  next =>
    split
    all_goals
      refine bind_eq_map_bind fun host _ => bind_eq_map_bind fun read hread => ?_
      have hleftover : read.2 ⊆ cs := List.Subset.trans (subset_of_readPort hread) hport
      have hfront := (h.of_subset hleftover).append (h.of_subset hrest)
      rw [← List.append_assoc, ← List.append_assoc, takeWhile_path, takeWhile_path,
        withTail_append _ _ hfront, withTail_append _ _ hfront]
      rfl

/-- A URL of a file, by its host and what follows the host. -/
def fileUrl (scheme : String) (host : Host) (rest : List Char) : Url :=
  let path := Path.read .file (rest.takeWhile fun c => !endsPath c)
  let host := match path with
    | .segments (segment :: _) => if Path.isDrive segment then .empty else host
    | _ => host
  withTail { scheme, host := some host, path } rest

theorem fileUrl_append_query (host : Host) (h : IsFront cs) (tail : List Char) :
    fileUrl scheme host (cs ++ '?' :: tail) =
      (fileUrl scheme host (cs ++ ['?'])).withTail ('?' :: tail) := by
  unfold fileUrl
  dsimp only
  rw [takeWhile_path, takeWhile_path, withTail_append _ _ h, withTail_append _ _ h]
  rfl

theorem readFile_of_isSeparator {c d : Char} (hc : Path.isSeparator .file c = true)
    (hd : Path.isSeparator .file d = true) (rest : List Char) :
    readFile scheme (c :: d :: rest) =
      let hostText := rest.takeWhile fun c => !endsAuthority .file c
      let after := rest.dropWhile fun c => !endsAuthority .file c
      if hostText.isEmpty then .ok (fileUrl scheme .empty after)
      else if Path.isDrive hostText then .ok (fileUrl scheme .empty ('/' :: rest))
      else Host.read hostText >>= fun host =>
        let host := if host = .domain "localhost".toList then .empty else host
        .ok (fileUrl scheme host after) := by
  have hboth : (Path.isSeparator .file c && Path.isSeparator .file d) = true := by
    rw [hc, hd]
    rfl
  exact if_pos hboth

theorem readFile_of_not_isSeparator {c d : Char}
    (h : ¬ (Path.isSeparator .file c && Path.isSeparator .file d) = true) (rest : List Char) :
    readFile scheme (c :: d :: rest) = .ok (fileUrl scheme .empty (c :: d :: rest)) :=
  if_neg h

/-- So is what follows the scheme of a file. -/
theorem readFile_append_query (h : IsFront cs) (tail : List Char) :
    readFile scheme (cs ++ '?' :: tail) =
      (readFile scheme (cs ++ ['?'])).map (·.withTail ('?' :: tail)) := by
  match cs with
  | [] => cases tail <;> rfl
  | [c] =>
      have hmark : ¬ (Path.isSeparator .file c && Path.isSeparator .file '?') = true := by
        rw [Bool.and_eq_true]
        exact fun hboth => Bool.false_ne_true hboth.2
      show readFile scheme (c :: '?' :: tail) = (readFile scheme [c, '?']).map _
      rw [readFile_of_not_isSeparator hmark, readFile_of_not_isSeparator hmark]
      exact congrArg Except.ok (fileUrl_append_query .empty h tail)
  | c :: d :: rest =>
      have hstop : (!endsAuthority .file '?') = false := rfl
      obtain ⟨-, hdrest⟩ := List.forall_mem_cons.mp h
      have hrest : IsFront rest := (List.forall_mem_cons.mp hdrest).2
      have hafter : IsFront (rest.dropWhile fun c => !endsAuthority .file c) :=
        hrest.of_subset (List.dropWhile_sublist _).subset
      have hdrive : IsFront ('/' :: rest) := List.forall_mem_cons.mpr ⟨rfl, hrest⟩
      show readFile scheme (c :: d :: (rest ++ '?' :: tail)) =
        (readFile scheme (c :: d :: (rest ++ ['?']))).map _
      by_cases hslashes : (Path.isSeparator .file c && Path.isSeparator .file d) = true
      · obtain ⟨hc, hd⟩ := Bool.and_eq_true_iff.mp hslashes
        rw [readFile_of_isSeparator hc hd, readFile_of_isSeparator hc hd]
        dsimp only
        rw [takeWhile_append_stop hstop, takeWhile_append_stop hstop,
          dropWhile_append_stop hstop, dropWhile_append_stop hstop]
        split
        next => exact congrArg Except.ok (fileUrl_append_query .empty hafter tail)
        next =>
          split
          next => exact congrArg Except.ok (fileUrl_append_query .empty hdrive tail)
          next =>
            refine bind_eq_map_bind fun host _ => ?_
            exact congrArg Except.ok (fileUrl_append_query _ hafter tail)
      · rw [readFile_of_not_isSeparator hslashes, readFile_of_not_isSeparator hslashes]
        exact congrArg Except.ok (fileUrl_append_query .empty h tail)

theorem readOther_of_slash {rest : List Char} (h : rest.head? ≠ some '/') :
    readOther scheme ('/' :: rest) =
      let path := Path.segments (Path.readSegments .other (rest.takeWhile fun c => !endsPath c))
      .ok (withTail { scheme, path } rest) := by
  unfold readOther
  split
  next hrest =>
    cases hrest
    exact absurd rfl h
  next hrest =>
    cases hrest
    rfl
  next hnot => exact absurd rfl (hnot rest)

theorem readOther_of_ne_slash (h : cs.head? ≠ some '/') :
    readOther scheme cs =
      .ok (withTail { scheme, path := Path.readPlain (cs.takeWhile fun c => !endsPath c) } cs) := by
  unfold readOther
  split
  next => exact absurd rfl h
  next => exact absurd rfl h
  next => rfl

theorem head?_append_query (h : cs.head? ≠ some '/') (tail : List Char) :
    (cs ++ '?' :: tail).head? ≠ some '/' := by
  cases cs with
  | nil => exact fun hmark => absurd (Option.some.inj hmark) (by decide)
  | cons c cs => exact h

/-- So is what follows a scheme that is not special. -/
theorem readOther_append_query (h : IsFront cs) (tail : List Char) :
    readOther scheme (cs ++ '?' :: tail) =
      (readOther scheme (cs ++ ['?'])).map (·.withTail ('?' :: tail)) := by
  have hpath (path : List Char → Path) {cs : List Char} (h : IsFront cs) :
      withTail { scheme, path := path ((cs ++ '?' :: tail).takeWhile fun c => !endsPath c) }
          (cs ++ '?' :: tail) =
        (withTail { scheme, path := path ((cs ++ ['?']).takeWhile fun c => !endsPath c) }
          (cs ++ ['?'])).withTail ('?' :: tail) := by
    rw [takeWhile_path, takeWhile_path, withTail_append _ _ h, withTail_append _ _ h]
    rfl
  by_cases hslash : cs.head? = some '/'
  · obtain ⟨rest, rfl⟩ := List.head?_eq_some_iff.mp hslash
    have hrest : IsFront rest := h.of_subset (List.subset_cons_self '/' rest)
    by_cases hslashes : rest.head? = some '/'
    · obtain ⟨rest, rfl⟩ := List.head?_eq_some_iff.mp hslashes
      exact readAuthority_append_query (hrest.of_subset (List.subset_cons_self '/' rest)) tail
    · show readOther scheme ('/' :: (rest ++ '?' :: tail)) =
        (readOther scheme ('/' :: (rest ++ ['?']))).map _
      rw [readOther_of_slash (head?_append_query hslashes tail),
        readOther_of_slash (head?_append_query hslashes [])]
      exact congrArg Except.ok (hpath (fun cs => .segments (Path.readSegments .other cs)) hrest)
  · rw [readOther_of_ne_slash (head?_append_query hslash tail),
      readOther_of_ne_slash (head?_append_query hslash [])]
    exact congrArg Except.ok (hpath Path.readPlain h)

/-! ## Texts with a query -/

/-- A scheme ends in front of a question mark, if there is one. -/
theorem splitScheme?_append_query (cs tail : List Char) :
    splitScheme? (cs ++ '?' :: tail) =
      (splitScheme? cs).map fun split => (split.1, split.2 ++ '?' :: tail) := by
  have hstop : isSchemeCharacter '?' = false := rfl
  unfold splitScheme?
  rw [takeWhile_append_stop hstop, dropWhile_append_stop hstop]
  generalize cs.takeWhile isSchemeCharacter = front
  generalize cs.dropWhile isSchemeCharacter = rest
  cases front with
  | nil => rfl
  | cons c front =>
      cases rest with
      | nil => rfl
      | cons d rest =>
          rw [List.cons_append]
          split
          next hfront hrest =>
            cases hfront
            cases hrest
            show _ = Option.map _ (if c.isAlpha = true then _ else none)
            by_cases hc : c.isAlpha = true
            · rw [if_pos hc, if_pos hc]
              rfl
            · rw [if_neg hc, if_neg hc]
              rfl
          next hnot =>
            split
            next hfront hrest =>
              cases hfront
              cases hrest
              exact absurd rfl (hnot _ _ _ rfl)
            next => rfl

theorem subset_of_splitScheme? {rest : List Char} (h : splitScheme? cs = some (scheme, rest)) :
    rest ⊆ cs := by
  unfold splitScheme? at h
  split at h
  next hfront hrest =>
    split at h
    · cases h
      have hsub : ':' :: rest ⊆ cs := hrest ▸ (List.dropWhile_sublist _).subset
      exact fun c hc => hsub (List.mem_cons_of_mem ':' hc)
    · cases h
  next => cases h

theorem readTidy_append_query (h : IsFront cs) (tail : List Char) :
    readTidy (cs ++ '?' :: tail) = (readTidy (cs ++ ['?'])).map (·.withTail ('?' :: tail)) := by
  unfold readTidy
  rw [splitScheme?_append_query, splitScheme?_append_query]
  cases hsplit : splitScheme? cs with
  | none => rfl
  | some split =>
      obtain ⟨scheme, rest⟩ := split
      have hrest : IsFront rest := h.of_subset (subset_of_splitScheme? hsplit)
      dsimp only [Option.map_some]
      cases SchemeKind.of scheme with
      | special =>
          have hstop : Path.isSeparator .special '?' = false := rfl
          dsimp only
          rw [dropWhile_append_stop hstop, dropWhile_append_stop hstop]
          exact readAuthority_append_query (hrest.of_subset (List.dropWhile_sublist _).subset) tail
      | file => exact readFile_append_query hrest tail
      | other => exact readOther_append_query hrest tail

/-- What stands behind the first question mark of a text decides about the query and the fragment
of the URL that is read, and about nothing else. -/
theorem read_trim_append (h : IsFront cs) (tail : List Char) :
    read (trim (cs ++ '?' :: tail)) =
      (read (trim (cs ++ ['?']))).map (·.withTail ('?' :: tidyBack tail)) := by
  have hmark : IsSolid '?' := by decide
  have hfront : IsFront (tidyFront cs) := h.of_subset (tidyFront_subset cs)
  rw [read_eq_readTidy, read_eq_readTidy, cleaned_trim_append hmark, cleaned_trim_append hmark]
  exact readTidy_append_query hfront (tidyBack tail)

end

end Tributary.Url
