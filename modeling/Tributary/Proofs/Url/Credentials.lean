import Tributary.Proofs.Url.Reader

/-!
# Credentials and queries around a host

A host may be typed in other ways than it is written: in other letters, with tabs and line breaks
in it, or with the port of its scheme. Whatever it is read as, it is read as the same host and port
where credentials stand in front of it or a query follows the path. So the URL that is read from a
text tells what is read from the same text with these.
-/

namespace Tributary.Url

open Text

/-- A text is read as a host and a port. -/
structure ReadsHost (scheme : String) (cs : List Char) (host : Host) (port : Option Nat) :
    Prop where
  nonempty : (hostPart false cs).1 ≠ []
  host : Host.read (hostPart false cs).1 = .ok host
  port : readPort scheme (hostPart false cs).2 = .ok (port, [])

/-- Credentials as they stand in front of a host. -/
def userinfoText : Option (List Char) → List Char
  | none => []
  | some userinfo => userinfo ++ ['@']

/-- A text without the tabs and line breaks that are passed over. -/
def withoutBreaks (cs : List Char) : List Char :=
  cs.filter fun c => c != '\t' && c != '\n' && c != '\r'

/-- A text where a host and a port may stand: there is something, and nothing that ends them or
that makes credentials of what is in front of it. -/
structure IsHostText (cs : List Char) : Prop where
  nonempty : withoutBreaks cs ≠ []
  inner : ∀ c ∈ cs, c ∉ ['/', '\\', '?', '#', '@']

/-! ## Texts without controls at their ends -/

theorem withoutBreaks_of_forall {cs : List Char} (h : ∀ c ∈ cs, 0x20 < c.toNat) :
    withoutBreaks cs = cs := by
  unfold withoutBreaks
  rw [List.filter_eq_self]
  intro c hc
  have hlow := h c hc
  simp only [Bool.and_eq_true, bne_iff_ne, ne_eq]
  refine ⟨⟨?_, ?_⟩, ?_⟩ <;> rintro rfl <;> exact absurd hlow (by decide)

theorem cleaned_append {front back : List Char} (hfront : ∀ c ∈ front, 0x20 < c.toNat)
    (hback : ∀ c ∈ back, 0x20 < c.toNat) (hnefront : front ≠ []) (hneback : back ≠ [])
    (cs : List Char) : cleaned (front ++ cs ++ back) = front ++ withoutBreaks cs ++ back := by
  have hdrop (front : List Char) (h : ∀ c ∈ front, 0x20 < c.toNat) (hne : front ≠ [])
      (rest : List Char) : ((front ++ rest).dropWhile fun c => decide (c.toNat ≤ 0x20)) =
        front ++ rest := by
    obtain ⟨c, front, rfl⟩ := List.exists_cons_of_ne_nil hne
    have hc := h c List.mem_cons_self
    exact List.dropWhile_cons_of_neg (by simpa using hc)
  have hreverse := hdrop back.reverse (fun c hc => hback c (List.mem_reverse.mp hc))
    (by simpa using hneback) (front ++ cs).reverse
  unfold cleaned
  dsimp only
  rw [List.append_assoc, hdrop front hfront hnefront, ← List.append_assoc, List.reverse_append,
    hreverse, ← List.reverse_append, List.reverse_reverse]
  show withoutBreaks (front ++ cs ++ back) = _
  have hsplit : withoutBreaks (front ++ cs ++ back) =
      withoutBreaks front ++ withoutBreaks cs ++ withoutBreaks back := by
    unfold withoutBreaks
    rw [List.filter_append, List.filter_append]
  rw [hsplit, withoutBreaks_of_forall hfront, withoutBreaks_of_forall hback]

theorem IsHostText.withoutBreaks {cs : List Char} (h : IsHostText cs) :
    IsHostText (withoutBreaks cs) where
  nonempty := by
    simpa only [Url.withoutBreaks, List.filter_filter, Bool.and_self] using h.nonempty
  inner := fun c hc => h.inner c (List.mem_of_mem_filter hc)

/-- What follows a special scheme is read without tabs and line breaks. -/
theorem read_append {scheme : String} (hscheme : SchemeKind.of scheme = .special)
    {front cs back : List Char} (hfront : ∀ c ∈ front, 0x20 < c.toNat)
    (hback : ∀ c ∈ back, 0x20 < c.toNat) (hne : back ≠ [])
    (hhead : ∀ c, (front ++ withoutBreaks cs ++ back).head? = some c →
      Path.isSeparator .special c = false) :
    read (scheme.toList ++ [':', '/', '/'] ++ front ++ cs ++ back) =
      readAuthority scheme (front ++ withoutBreaks cs ++ back) := by
  have hslash : ∀ c ∈ ['/', '/'], Path.isSeparator .special c = true :=
    forall_mem_of_all (by decide)
  have hall : ∀ c ∈ scheme.toList ++ [':', '/', '/'] ++ front, 0x20 < c.toNat := by
    simp only [List.forall_mem_append, List.forall_mem_cons]
    exact ⟨⟨lt_of_mem_scheme hscheme, by decide, by decide, by decide, nofun⟩, hfront⟩
  have hafter : scheme.toList ++ [':', '/', '/'] ++ front ++ withoutBreaks cs ++ back =
      scheme.toList ++ ':' :: (['/', '/'] ++ (front ++ withoutBreaks cs ++ back)) := by
    simp
  unfold read
  rw [cleaned_append hall hback (by simp) hne, hafter, splitScheme?_append hscheme]
  dsimp only
  rw [hscheme]
  dsimp only
  rw [(span_append _ hslash hhead).2]

/-! ## Hosts and ports -/

theorem hostPart_append_hostPart (bracketed : Bool) (cs : List Char) :
    (hostPart bracketed cs).1 ++ (hostPart bracketed cs).2 = cs := by
  induction cs generalizing bracketed with
  | nil => rfl
  | cons c cs ih =>
      unfold hostPart
      split
      · rfl
      · exact congrArg (c :: ·) (ih _)

/-- Only a backslash may follow a port. -/
theorem eq_nil_of_readPort {scheme : String} {cs leftover : List Char} {port : Option Nat}
    (h : readPort scheme cs = .ok (port, leftover)) (hcs : '\\' ∉ cs) : leftover = [] := by
  unfold readPort at h
  split at h
  next =>
    cases h
    rfl
  next c cs =>
    dsimp only at h
    split at h
    next => cases h
    next =>
      split at h
      next hend =>
        injection h with h
        obtain ⟨-, rfl⟩ := Prod.mk.inj h
        rw [Bool.or_eq_true, List.isEmpty_iff, beq_iff_eq] at hend
        refine hend.resolve_right fun hhead => hcs (List.mem_cons_of_mem c ?_)
        exact (List.dropWhile_sublist _).subset (List.mem_of_mem_head? hhead)
      next => cases h

/-! ## What stands around a host -/

section

variable {scheme : String} {cs path : List Char} {host : Host} {port : Option Nat}

theorem not_endsAuthority_of_isHostText (h : IsHostText cs) :
    ∀ c ∈ cs, endsAuthority .special c = false := by
  intro c hc
  have hnot := h.inner c hc
  simp only [List.mem_cons, List.not_mem_nil, or_false, not_or] at hnot
  simp [endsAuthority, Path.isSeparator, hnot]

theorem span_path (hpath : ∀ c ∈ path, endsPath c = false) (query : Option (List Char)) :
    (('/' :: path ++ marked '?' query).takeWhile fun c => !endsPath c) = '/' :: path ∧
      (('/' :: path ++ marked '?' query).dropWhile fun c => !endsPath c) = marked '?' query := by
  refine span_append _ (List.forall_mem_cons.mpr ⟨rfl, fun c hc => ?_⟩) fun c hc => ?_
  · rw [hpath c hc]
    rfl
  · cases query with
    | none => cases hc
    | some q =>
        cases hc
        rfl

theorem withTail_path (v : Url) (hkind : v.kind = .special)
    (hpath : ∀ c ∈ path, endsPath c = false) {query : Option (List Char)}
    (hquery : IsKeptPart (keepsInQuery .special) query) :
    v.withTail ('/' :: path ++ marked '?' query) = { v with query, fragment := none } := by
  have htail := readTail_marked hquery isKeptPart_none
  rw [marked, List.append_nil] at htail
  unfold withTail
  rw [(span_path hpath query).2, hkind, htail]

/-- A host is read with the credentials in front of it, the path and the query behind it. -/
theorem readAuthority_of_readsHost (hscheme : SchemeKind.of scheme = .special)
    {userinfo : Option (List Char)}
    (huserinfo : ∀ front, userinfo = some front → ∀ c ∈ front, endsAuthority .special c = false)
    (hcs : IsHostText cs) (h : ReadsHost scheme cs host port)
    (hpath : ∀ c ∈ path, endsPath c = false) {query : Option (List Char)}
    (hquery : IsKeptPart (keepsInQuery .special) query) :
    readAuthority scheme (userinfoText userinfo ++ cs ++ ('/' :: path ++ marked '?' query)) =
      .ok {
        scheme
        username := (readCredentials (userinfo.getD [])).1
        password := (readCredentials (userinfo.getD [])).2
        host := some host
        port
        path := Path.read .special ('/' :: path)
        query } := by
  have hat : '@' ∉ cs := fun hmem => hcs.inner '@' hmem (by decide)
  have hauthority : ∀ c ∈ userinfoText userinfo ++ cs, (!endsAuthority .special c) = true := by
    rw [List.forall_mem_append]
    constructor
    · cases userinfo with
      | none => exact nofun
      | some front =>
          refine List.forall_mem_append.mpr ⟨fun c hc => ?_, forall_mem_of_all (by decide)⟩
          rw [huserinfo front rfl c hc]
          rfl
    · intro c hc
      rw [not_endsAuthority_of_isHostText hcs c hc]
      rfl
  obtain ⟨htake, hdrop⟩ := span_append ('/' :: path ++ marked '?' query) hauthority
    fun c hc => by cases hc; rfl
  have hsplit : splitUserinfo (userinfoText userinfo ++ cs) = (userinfo, cs) := by
    unfold splitUserinfo
    cases userinfo with
    | none =>
        rw [userinfoText, List.nil_append, splitLast?_of_not_mem hat]
    | some front =>
        rw [userinfoText, List.append_assoc, List.singleton_append, splitLast?_append hat]
  have hempty : (hostPart false cs).1.isEmpty = false := by simp [h.nonempty]
  unfold readAuthority
  rw [hscheme]
  dsimp only
  rw [htake, hdrop, hsplit]
  dsimp only
  rw [hempty, Bool.false_and, if_neg Bool.false_ne_true, if_pos rfl, h.host, h.port]
  show Except.ok (withTail _ ([] ++ _)) = _
  rw [List.nil_append, withTail_path _ (by exact hscheme) hpath hquery, (span_path hpath query).1]

/-- What is read as a URL without credentials and query is read as a host and a port. -/
theorem readsHost_of_readAuthority (hscheme : SchemeKind.of scheme = .special)
    (hcs : IsHostText cs) {u : Url} (h : readAuthority scheme (cs ++ '/' :: path) = .ok u) :
    ∃ host port, ReadsHost scheme cs host port := by
  have hat : '@' ∉ cs := fun hmem => hcs.inner '@' hmem (by decide)
  have hauthority : ∀ c ∈ cs, (!endsAuthority .special c) = true := by
    intro c hc
    rw [not_endsAuthority_of_isHostText hcs c hc]
    rfl
  obtain ⟨htake, hdrop⟩ := span_append ('/' :: path) hauthority fun c hc => by cases hc; rfl
  have hsplit : splitUserinfo cs = (none, cs) := by
    unfold splitUserinfo
    rw [splitLast?_of_not_mem hat]
  unfold readAuthority at h
  rw [hscheme] at h
  dsimp only at h
  rw [htake, hdrop, hsplit] at h
  dsimp only at h
  split at h
  next => cases h
  next hempty =>
    rw [if_pos rfl] at h
    obtain ⟨host, hhost, h⟩ := of_bind_eq_ok h
    obtain ⟨⟨port, leftover⟩, hport, -⟩ := of_bind_eq_ok h
    -- A backslash would have ended the authority, so nothing follows the port.
    have hbackslash : '\\' ∉ (hostPart false cs).2 := by
      intro hmem
      have hmem' : '\\' ∈ cs := by
        rw [← hostPart_append_hostPart false cs]
        exact List.mem_append_right _ hmem
      exact hcs.inner '\\' hmem' (by decide)
    obtain rfl := eq_nil_of_readPort hport hbackslash
    refine ⟨host, port, ?_, hhost, hport⟩
    intro hnil
    rw [hnil] at hempty
    exact hempty rfl

end

end Tributary.Url
