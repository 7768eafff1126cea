import Mathlib.Data.List.DropRight
import Tributary.Params.Server
import Tributary.Proofs.Url.Reader

/-!
# What is below a server

The paths of requests are appended to the text of a URL without the slashes at its end. For a URL
that ends in its path this gives the URL whose path goes on with theirs. A query or a fragment at
the end of the URL swallows them, and its path stays as it is.
-/

namespace Tributary

open Text Url

/-! ## Slashes at the end -/

namespace Server

theorem trimSlashes_slash (cs : List Char) : trimSlashes (cs ++ ['/']) = trimSlashes cs :=
  List.rdropWhile_concat_pos (· == '/') cs '/' rfl

theorem trimSlashes_concat {c : Char} (h : c ≠ '/') (cs : List Char) :
    trimSlashes (cs ++ [c]) = cs ++ [c] :=
  List.rdropWhile_concat_neg (· == '/') cs c (by simpa using h)

/-- A text that ends in something else has no slashes at its end. -/
theorem trimSlashes_of_forall {cs : List Char} (hne : cs ≠ []) (h : ∀ c ∈ cs, c ≠ '/')
    (front : List Char) : trimSlashes (front ++ cs) = front ++ cs := by
  obtain ⟨init, last, rfl⟩ := (List.eq_nil_or_concat' cs).resolve_left hne
  rw [← List.append_assoc]
  exact trimSlashes_concat (h last (by simp)) _

/-- Slashes in front of another character stay. -/
theorem trimSlashes_append {mark : Char} (h : mark ≠ '/') (front cs : List Char) :
    trimSlashes (front ++ mark :: cs) = front ++ mark :: trimSlashes cs := by
  induction cs using List.reverseRecOn with
  | nil => exact trimSlashes_concat h front
  | append_singleton cs c ih =>
      rw [← List.cons_append, ← List.append_assoc]
      by_cases hc : c = '/'
      · rw [hc, trimSlashes_slash, trimSlashes_slash, ih]
      · rw [trimSlashes_concat hc, trimSlashes_concat hc, List.append_assoc, List.cons_append]

theorem mem_of_mem_trimSlashes {cs : List Char} {c : Char} (h : c ∈ trimSlashes cs) : c ∈ cs :=
  (List.rdropWhile_prefix (· == '/') cs).subset h

end Server

namespace Url

open Server (trimSlashes)

/-- The segments without the empty ones at the end. -/
def directory (segments : List (List Char)) : List (List Char) :=
  segments.rdropWhile List.isEmpty

theorem directory_subset {segments : List (List Char)} {segment : List Char}
    (h : segment ∈ directory segments) : segment ∈ segments :=
  (List.rdropWhile_prefix List.isEmpty segments).subset h

theorem Path.text_append (segments added : List (List Char)) :
    text (.segments (segments ++ added)) = text (.segments segments) ++ text (.segments added) :=
  List.flatMap_append

/-- Without the slashes at its end, the text of a path is that of its directory. -/
theorem trimSlashes_path {front : List Char} (hfront : trimSlashes front = front)
    {segments : List (List Char)} (h : ∀ segment ∈ segments, ∀ c ∈ segment, c ≠ '/') :
    trimSlashes (front ++ Path.text (.segments segments)) =
      front ++ Path.text (.segments (directory segments)) := by
  induction segments using List.reverseRecOn with
  | nil =>
      show trimSlashes (front ++ []) = front ++ []
      rw [List.append_nil, hfront]
  | append_singleton segments last ih =>
      obtain ⟨hsegments, hlast⟩ := List.forall_mem_append.mp h
      rw [List.forall_mem_singleton] at hlast
      by_cases hempty : last = []
      · have hdirectory : directory (segments ++ [last]) = directory segments :=
          List.rdropWhile_concat_pos _ _ _ (List.isEmpty_iff.mpr hempty)
        rw [hdirectory, ← ih hsegments, hempty, Path.text_append, ← List.append_assoc]
        exact Server.trimSlashes_slash _
      · have hdirectory : directory (segments ++ [last]) = segments ++ [last] :=
          List.rdropWhile_concat_neg _ _ _ (by simpa using hempty)
        have htext : front ++ Path.text (.segments (segments ++ [last])) =
            front ++ Path.text (.segments segments) ++ ['/'] ++ last := by
          rw [Path.text_append, Path.text, Path.text, List.flatMap_singleton]
          simp
        rw [hdirectory, htext]
        exact Server.trimSlashes_of_forall hempty hlast _

namespace IsLegible

variable {u : Url} {segments : List (List Char)}

/-- What is written in front of the path. -/
def front (u : Url) : List Char :=
  u.scheme.toList ++ ':' :: '/' :: '/' :: (u.credentials ++ u.authority)

theorem text_eq_front (h : u.IsLegible segments) :
    u.text = front u ++ u.path.text ++ marked '?' u.query ++ marked '#' u.fragment := by
  rw [h.text_eq, front, tail]
  simp

theorem trimSlashes_front (h : u.IsLegible segments) : trimSlashes (front u) = front u := by
  obtain ⟨host, hhost, hspecial⟩ := h.host
  have hne : u.authority ≠ [] := by
    rw [authority_eq hhost]
    exact List.append_ne_nil_of_left_ne_nil (Host.text_ne_nil hspecial) _
  have hslash : ∀ c ∈ u.authority, c ≠ '/' := by
    refine h.forall_mem_authority ?_ (by decide) (by decide) (by decide)
    rintro c hc rfl
    exact absurd hc (by decide)
  have hfront : front u =
      u.scheme.toList ++ ':' :: '/' :: '/' :: u.credentials ++ u.authority := by
    simp [front]
  rw [hfront]
  exact Server.trimSlashes_of_forall hne hslash _

theorem ne_slash (h : u.IsLegible segments) :
    ∀ segment ∈ segments, ∀ c ∈ segment, c ≠ '/' := by
  rintro segment hsegment c hc rfl
  exact absurd (h.inner segment hsegment '/' hc) (by decide)

/-- Segments that are appended to a URL that ends in its path go on with it. -/
theorem extended (h : u.IsLegible segments) {added : List (List Char)} (hne : added ≠ [])
    (hadded : ∀ segment ∈ added, ∀ c ∈ segment, Path.IsInner c) :
    IsLegible { u with path := .segments (directory segments ++ added) }
      (directory segments ++ added) :=
  { h with
    path := rfl
    nonempty := List.append_ne_nil_of_right_ne_nil _ hne
    inner := List.forall_mem_append.mpr
      ⟨fun segment hsegment => h.inner segment (directory_subset hsegment), hadded⟩ }

theorem text_extended (h : u.IsLegible segments) (hquery : u.query = none)
    (hfragment : u.fragment = none) {added : List (List Char)} (hne : added ≠ [])
    (hadded : ∀ segment ∈ added, ∀ c ∈ segment, Path.IsInner c) :
    ({ u with path := .segments (directory segments ++ added) } : Url).text =
      trimSlashes u.text ++ Path.text (.segments added) := by
  rw [(h.extended hne hadded).text_eq_front, h.text_eq_front, hquery, hfragment, h.path]
  show front u ++ _ ++ [] ++ [] = trimSlashes (front u ++ _ ++ [] ++ []) ++ _
  rw [List.append_nil, List.append_nil, List.append_nil, List.append_nil,
    trimSlashes_path h.trimSlashes_front h.ne_slash, Path.text_append, List.append_assoc]

/-- What is read once segments are appended to a URL that ends in its path. -/
theorem read_append_segments (h : u.IsLegible segments) (hquery : u.query = none)
    (hfragment : u.fragment = none) {added : List (List Char)} (hne : added ≠ [])
    (hadded : ∀ segment ∈ added, ∀ c ∈ segment, Path.IsInner c) :
    Url.read (trimSlashes u.text ++ Path.text (.segments added)) = .ok { u with
      path := .segments (Path.pushAll .special [] (directory segments ++ added)) } := by
  rw [← h.text_extended hquery hfragment hne hadded]
  exact (h.extended hne hadded).read_text

/-- What is read once a text is appended to a URL with a query or a fragment. The path stays as it
is. -/
theorem read_append_tail (h : u.IsLegible segments) (hsegments : Path.AreSegments segments)
    (htail : ¬ (u.query = none ∧ u.fragment = none)) {cs : List Char}
    (hcs : ∀ c ∈ cs, isKept (keepsInQuery .special) c = true ∧ isKept keepsInFragment c = true) :
    ∃ query fragment, Url.read (trimSlashes u.text ++ cs) = .ok { u with query, fragment } := by
  have htrimmed {keep : Char → Bool} (hkept : ∀ c ∈ cs, isKept keep c = true) {part : List Char}
      (hpart : ∀ c ∈ part, isKept keep c = true) :
      IsKeptPart keep (some (trimSlashes part ++ cs)) := by
    intro ds hds
    rw [← Option.some.inj hds, List.forall_mem_append]
    exact ⟨fun c hc => hpart c (Server.mem_of_mem_trimSlashes hc), hkept⟩
  cases hfragment : u.fragment with
  | some f =>
      have hlegible : IsLegible { u with fragment := some (trimSlashes f ++ cs) } segments :=
        { h with fragment := htrimmed (fun c hc => (hcs c hc).2) (h.fragment f hfragment) }
      refine ⟨u.query, some (trimSlashes f ++ cs), ?_⟩
      have htext : trimSlashes u.text ++ cs =
          ({ u with fragment := some (trimSlashes f ++ cs) } : Url).text := by
        rw [hlegible.text_eq_front, h.text_eq_front, hfragment]
        show trimSlashes (_ ++ '#' :: f) ++ cs = _ ++ '#' :: (trimSlashes f ++ cs)
        rw [Server.trimSlashes_append (by decide), List.append_assoc, List.cons_append]
        rfl
      rw [htext]
      exact hlegible.read_text_of_areSegments hsegments
  | none =>
      obtain ⟨q, hquery⟩ := Option.ne_none_iff_exists'.mp fun hnone => htail ⟨hnone, hfragment⟩
      have hlegible : IsLegible { u with query := some (trimSlashes q ++ cs) } segments :=
        { h with query := htrimmed (fun c hc => (hcs c hc).1) (h.query q hquery) }
      refine ⟨some (trimSlashes q ++ cs), none, ?_⟩
      have htext : trimSlashes u.text ++ cs =
          ({ u with query := some (trimSlashes q ++ cs) } : Url).text := by
        rw [hlegible.text_eq_front, h.text_eq_front, hquery, hfragment]
        show trimSlashes (_ ++ '?' :: q ++ []) ++ cs = _ ++ '?' :: (trimSlashes q ++ cs) ++ []
        rw [List.append_nil, List.append_nil, Server.trimSlashes_append (by decide),
          List.append_assoc, List.cons_append]
        rfl
      rw [htext, hlegible.read_text_of_areSegments hsegments, hfragment]

end IsLegible

end Url

namespace Server

/-- The base of a text that is a URL. -/
theorem base_of_ofString {text : String} {u : Url} (h : Url.ofString text = .ok u) :
    base text = .ok (String.ofList (trimSlashes u.text)) := by
  unfold base readUrl
  rw [h]
  rfl

end Server

end Tributary
