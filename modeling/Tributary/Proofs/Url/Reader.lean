import Tributary.Proofs.Text.Splitting
import Tributary.Proofs.Url.Host
import Tributary.Proofs.Url.Path
import Tributary.Url.Reader

/-!
# URLs are read as they are written

A URL with a special scheme is legible if each of its parts consists of characters that stand for
themselves there. Its text is read part by part as it is, up to the dots in its path. Every URL with
a special scheme that has been read is legible, and has no dots left: it is read again as the same
URL.
-/

namespace Tributary.Url

open Text

/-! ## Schemes -/

theorem special_cases {scheme : String} (h : SchemeKind.of scheme = .special) :
    scheme = "http" ∨ scheme = "https" ∨ scheme = "ws" ∨ scheme = "wss" ∨ scheme = "ftp" := by
  unfold SchemeKind.of at h
  split at h
  next => cases h
  next =>
    split at h
    next hmem => simpa using hmem
    next => cases h

theorem splitScheme?_append {scheme : String} (h : SchemeKind.of scheme = .special)
    (rest : List Char) : splitScheme? (scheme.toList ++ ':' :: rest) = some (scheme, rest) := by
  rcases special_cases h with rfl | rfl | rfl | rfl | rfl <;> rfl

theorem lt_of_mem_scheme {scheme : String} (h : SchemeKind.of scheme = .special) :
    ∀ c ∈ scheme.toList, 0x20 < c.toNat := by
  rcases special_cases h with rfl | rfl | rfl | rfl | rfl <;>
    exact forall_mem_of_all (by decide)

/-! ## Texts without controls -/

theorem cleaned_of_forall {cs : List Char} (h : ∀ c ∈ cs, 0x20 < c.toNat) : cleaned cs = cs := by
  have hdrop {cs : List Char} (h : ∀ c ∈ cs, 0x20 < c.toNat) :
      (cs.dropWhile fun c => decide (c.toNat ≤ 0x20)) = cs := by
    cases cs with
    | nil => rfl
    | cons c cs =>
        have hc := h c List.mem_cons_self
        exact List.dropWhile_cons_of_neg (by simpa using hc)
  unfold cleaned
  dsimp only
  rw [hdrop h, hdrop fun c hc => h c (List.mem_reverse.mp hc), List.reverse_reverse,
    List.filter_eq_self]
  intro c hc
  have hlow := h c hc
  simp only [Bool.and_eq_true, bne_iff_ne, ne_eq]
  refine ⟨⟨?_, ?_⟩, ?_⟩ <;> rintro rfl <;> exact absurd hlow (by decide)

/-! ## Credentials -/

section

variable {mark : Char} {front back : List Char}

theorem splitLast?_of_not_mem {cs : List Char} (h : mark ∉ cs) : splitLast? mark cs = none := by
  have hdrop : cs.reverse.dropWhile (· != mark) = [] := by
    rw [List.dropWhile_eq_nil_iff]
    exact forall_bne_of_not_mem (mt List.mem_reverse.mp h)
  rw [splitLast?, hdrop]

theorem splitLast?_append (h : mark ∉ back) (front : List Char) :
    splitLast? mark (front ++ mark :: back) = some (front, back) := by
  have hreverse : (front ++ mark :: back).reverse = back.reverse ++ mark :: front.reverse := by
    simp
  obtain ⟨htake, hdrop⟩ := span_mark (mt List.mem_reverse.mp h) front.reverse
  rw [splitLast?, hreverse, htake, hdrop]
  simp

end

/-- A username or a password that stands for itself. -/
def IsCredential (cs : List Char) : Prop := ∀ c ∈ cs, isKept keepsInCredentials c = true

theorem isCredential_percentEncode (cs : List Char) :
    IsCredential (percentEncode keepsInCredentials cs) :=
  isKept_of_mem_percentEncode (by decide) (by decide)

section

variable {username password : List Char}

theorem ne_colon_of_isCredential (h : IsCredential username) :
    ∀ c ∈ username, (c != ':') = true :=
  forall_bne_of_not_mem fun hc => absurd (h ':' hc) (by decide)

theorem readCredentials_username (h : IsCredential username) :
    readCredentials username = (username, none) := by
  obtain ⟨htake, hdrop⟩ := span_append [] (ne_colon_of_isCredential h) nofun
  rw [List.append_nil] at htake hdrop
  unfold readCredentials
  dsimp only
  rw [htake, hdrop, percentEncode_of_forall h]
  rfl

theorem readCredentials_password (h : IsCredential username) (hpassword : IsCredential password)
    (hne : password ≠ []) :
    readCredentials (username ++ ':' :: password) = (username, some password) := by
  obtain ⟨htake, hdrop⟩ := span_append (':' :: password) (ne_colon_of_isCredential h)
    fun c hc => by rw [← Option.some.inj hc]; rfl
  unfold readCredentials
  dsimp only
  rw [htake, hdrop, percentEncode_of_forall h, List.drop_succ_cons, List.drop_zero,
    percentEncode_of_forall hpassword, if_neg (by simp [hne])]

end

/-! ## Hosts and ports -/

theorem hostPart_append {front : List Char} (bracketed : Bool)
    (h : ∀ c ∈ front, c ≠ '[' ∧ c ≠ ']' ∧ (c = ':' → bracketed = true)) (rest : List Char) :
    hostPart bracketed (front ++ rest) =
      (front ++ (hostPart bracketed rest).1, (hostPart bracketed rest).2) := by
  induction front with
  | nil => rfl
  | cons c front ih =>
      obtain ⟨⟨hopen, hclose, hcolon⟩, hfront⟩ := List.forall_mem_cons.mp h
      rw [List.cons_append, hostPart, if_neg, if_neg hopen, if_neg hclose]
      · dsimp only
        rw [ih hfront]
        rfl
      · rintro ⟨rfl, hfalse⟩
        rw [hcolon rfl] at hfalse
        cases hfalse

/-- A host ends before a colon that stands outside of brackets. -/
theorem hostPart_text {host : Host} (h : host.IsSpecial) {rest : List Char}
    (hrest : ∀ c, rest.head? = some c → c = ':') :
    hostPart false (host.text ++ rest) = (host.text, rest) := by
  have hstop : hostPart false rest = ([], rest) := by
    cases rest with
    | nil => rfl
    | cons c rest =>
        rw [hrest c rfl]
        rfl
  have hplain {cs : List Char} (hcs : ∀ c ∈ cs, Domain.IsPlain c) :
      hostPart false (cs ++ rest) = (cs, rest) := by
    rw [hostPart_append false, hstop, List.append_nil]
    intro c hc
    refine ⟨?_, ?_, ?_⟩ <;> rintro rfl <;> exact absurd (hcs _ hc) (by decide)
  cases host with
  | empty => exact h.elim
  | domain name => exact hplain h.2.1
  | ipv4 address => exact hplain (Ipv4.isPlain_of_mem_text address)
  | ipv6 address =>
      have hinside := hostPart_append true (Ipv6.forall_mem_text (P := fun c =>
        c ≠ '[' ∧ c ≠ ']' ∧ (c = ':' → true = true)) (by decide) (by decide) address) (']' :: rest)
      have hclosed : hostPart true (']' :: rest) = ([']'], rest) := by
        show (']' :: (hostPart false rest).1, (hostPart false rest).2) = _
        rw [hstop]
      rw [hclosed] at hinside
      show hostPart false ('[' :: (address.text ++ [']'] ++ rest)) = _
      rw [List.append_assoc]
      show ('[' :: (hostPart true (address.text ++ (']' :: rest))).1,
        (hostPart true (address.text ++ (']' :: rest))).2) = _
      rw [hinside]
      rfl

/-- What is written after a host. -/
def portText : Option Nat → List Char
  | none => []
  | some port => ':' :: Nat.toDigits 10 port

theorem authority_eq {u : Url} {host : Host} (h : u.host = some host) :
    u.authority = host.text ++ portText u.port := by
  unfold authority
  rw [h]
  cases u.port with
  | none => rfl
  | some port => rfl

theorem portValue?_toDigits {port : Nat} (h : port ≤ 65535) :
    portValue? (Nat.toDigits 10 port) = some port := by
  refine foldl_toDigits some 65535 (by decide) (fun v d hd hle => ?_) h
  show (do
    let v ← some v
    let d ← digit? (Nat.digitChar d)
    if 10 * v + d ≤ 65535 then some (10 * v + d) else none) = _
  rw [digit?_digitChar hd, Option.bind_eq_bind, Option.bind_some, Option.bind_some, if_pos hle]

/-- A port that is not the one of the scheme is read as it is written. -/
theorem readPort_portText {scheme : String} {port : Option Nat}
    (h : ∀ p, port = some p → p ≤ 65535 ∧ defaultPort? scheme ≠ some p) :
    readPort scheme (portText port) = .ok (port, []) := by
  cases port with
  | none => rfl
  | some port =>
      obtain ⟨hle, hdefault⟩ := h port rfl
      have hdigits : ∀ c ∈ Nat.toDigits 10 port, (digit? c).isSome = true :=
        forall_mem_toDigits (by decide) (fun d hd => by rw [digit?_digitChar hd]; rfl) port
      obtain ⟨htake, hdrop⟩ := span_append [] hdigits nofun
      rw [List.append_nil] at htake hdrop
      unfold portText readPort
      dsimp only
      rw [htake, hdrop, portValue?_toDigits hle]
      dsimp only
      rw [if_pos (by decide), if_neg]
      rw [Bool.or_eq_true, List.isEmpty_iff, beq_iff_eq, not_or]
      exact ⟨Nat.toDigits_ne_nil, hdefault⟩

/-! ## Queries and fragments -/

/-- A query or a fragment that stands for itself, if there is one. -/
def IsKeptPart (keep : Char → Bool) (part : Option (List Char)) : Prop :=
  ∀ cs, part = some cs → ∀ c ∈ cs, isKept keep c = true

theorem isKeptPart_percentEncode {keep : Char → Bool} (hpercent : keep '%' = true)
    (hdigit : ∀ d, keep (upperHexChar d) = true) (cs : List Char) :
    IsKeptPart keep (some (percentEncode keep cs)) := by
  intro ds hds
  rw [← Option.some.inj hds]
  exact isKept_of_mem_percentEncode hpercent hdigit

/-- A query and a fragment are read as they are written. -/
theorem readFragment_marked {fragment : Option (List Char)}
    (h : IsKeptPart keepsInFragment fragment) : readFragment (marked '#' fragment) = fragment := by
  cases fragment with
  | none => rfl
  | some f => exact congrArg some (percentEncode_of_forall (h f rfl))

theorem readTail_marked {query fragment : Option (List Char)}
    (hquery : IsKeptPart (keepsInQuery .special) query)
    (hfragment : IsKeptPart keepsInFragment fragment) :
    readTail .special (marked '?' query ++ marked '#' fragment) = (query, fragment) := by
  cases query with
  | none =>
      cases fragment with
      | none => rfl
      | some f => exact congrArg (Prod.mk none) (readFragment_marked hfragment)
  | some q =>
      have hsharp : ∀ c ∈ q, (c != '#') = true := by
        refine forall_bne_of_not_mem fun hc => ?_
        exact absurd (hquery q rfl '#' hc) (by decide)
      obtain ⟨htake, hdrop⟩ := span_append (marked '#' fragment) hsharp (by
        intro c hc
        cases fragment with
        | none => cases hc
        | some f =>
            rw [← Option.some.inj hc]
            rfl)
      show (some (percentEncode (keepsInQuery .special) ((q ++ marked '#' fragment).takeWhile _)),
        _) = _
      rw [htake, percentEncode_of_forall (hquery q rfl)]
      refine congrArg (Prod.mk (some q)) ?_
      show readFragment ((q ++ marked '#' fragment).dropWhile (· != '#')) = fragment
      rw [hdrop, readFragment_marked hfragment]

/-! ## URLs -/

/-- A URL with a special scheme whose parts stand for themselves, dots in its path apart. -/
structure IsLegible (u : Url) (segments : List (List Char)) : Prop where
  scheme : SchemeKind.of u.scheme = .special
  host : ∃ host, u.host = some host ∧ host.IsSpecial
  username : IsCredential u.username
  password : ∀ p, u.password = some p → IsCredential p ∧ p ≠ []
  port : ∀ p, u.port = some p → p ≤ 65535 ∧ defaultPort? u.scheme ≠ some p
  path : u.path = .segments segments
  nonempty : segments ≠ []
  inner : ∀ segment ∈ segments, ∀ c ∈ segment, Path.IsInner c
  query : IsKeptPart (keepsInQuery .special) u.query
  fragment : IsKeptPart keepsInFragment u.fragment

namespace IsLegible

variable {u : Url} {segments : List (List Char)}

/-- What is written behind the host and the port. -/
def tail (u : Url) : List Char :=
  u.path.text ++ (marked '?' u.query ++ marked '#' u.fragment)

theorem text_eq (h : u.IsLegible segments) :
    u.text = u.scheme.toList ++ ':' :: '/' :: '/' :: (u.credentials ++ u.authority ++ tail u) := by
  obtain ⟨host, hhost, -⟩ := h.host
  unfold text beforePath tail
  rw [hhost]
  simp

/-- What plain characters, colons and brackets have, the characters of the host and the port
have. -/
theorem forall_mem_authority {P : Char → Prop} (h : u.IsLegible segments)
    (hplain : ∀ c, Domain.IsPlain c → P c) (hopen : P '[') (hclose : P ']') (hcolon : P ':') :
    ∀ c ∈ u.authority, P c := by
  obtain ⟨host, hhost, hspecial⟩ := h.host
  rw [authority_eq hhost, List.forall_mem_append]
  refine ⟨Host.forall_mem_text hplain hopen hclose hcolon hspecial, ?_⟩
  cases u.port with
  | none => exact nofun
  | some port =>
      refine List.forall_mem_cons.mpr ⟨hcolon, forall_mem_toDigits (by decide) ?_ port⟩
      have hall : ∀ d : Fin 10, Domain.IsPlain (Nat.digitChar d) := by decide
      exact fun d hd => hplain _ (hall ⟨d, hd⟩)

/-- What credentials, colons and the sign behind them have, the characters in front of the host
have. -/
theorem forall_mem_credentials {P : Char → Prop} (h : u.IsLegible segments)
    (hkept : ∀ c, isKept keepsInCredentials c = true → P c) (hcolon : P ':') (hat : P '@') :
    ∀ c ∈ u.credentials, P c := by
  have husername : ∀ c ∈ u.username, P c := fun c hc => hkept c (h.username c hc)
  unfold credentials
  split
  next => exact nofun
  next => exact List.forall_mem_append.mpr ⟨husername, List.forall_mem_singleton.mpr hat⟩
  next password hpassword =>
    simp only [List.forall_mem_append, List.forall_mem_cons]
    exact ⟨⟨husername, hcolon, fun c hc => hkept c ((h.password password hpassword).1 c hc)⟩,
      hat, nofun⟩

/-- What is read in front of the host. -/
theorem splitUserinfo_text (h : u.IsLegible segments) :
    ∃ userinfo, splitUserinfo (u.credentials ++ u.authority) = (userinfo, u.authority) ∧
      readCredentials (userinfo.getD []) = (u.username, u.password) := by
  have hat : '@' ∉ u.authority := fun hmem => h.forall_mem_authority (P := (· ≠ '@'))
    (fun c hc => by rintro rfl; exact absurd hc (by decide)) (by decide) (by decide) (by decide)
    '@' hmem rfl
  have hfront (front : List Char) :
      splitUserinfo (front ++ ['@'] ++ u.authority) = (some front, u.authority) := by
    unfold splitUserinfo
    rw [List.append_assoc, List.singleton_append, splitLast?_append hat]
  unfold credentials
  split
  next husername hpassword =>
    refine ⟨none, ?_, ?_⟩
    · rw [List.nil_append, splitUserinfo, splitLast?_of_not_mem hat]
    · rw [husername, hpassword]
      rfl
  next hpassword _ =>
    refine ⟨some u.username, hfront _, ?_⟩
    rw [Option.getD_some, readCredentials_username h.username, hpassword]
  next password hpassword =>
    obtain ⟨hkept, hne⟩ := h.password password hpassword
    refine ⟨some (u.username ++ ':' :: password), hfront _, ?_⟩
    rw [Option.getD_some, readCredentials_password h.username hkept hne, hpassword]

/-- What is written behind the host is read as the path, the query and the fragment. -/
theorem span_tail (h : u.IsLegible segments) :
    ((tail u).takeWhile fun c => !endsPath c) = u.path.text ∧
      ((tail u).dropWhile fun c => !endsPath c) = marked '?' u.query ++ marked '#' u.fragment := by
  refine span_append _ ?_ ?_
  · rw [h.path]
    refine Path.forall_mem_text (fun c hc => ?_) (by decide) h.inner
    rw [Bool.not_eq_true']
    unfold endsPath
    rw [Bool.or_eq_false_iff, beq_eq_false_iff_ne, beq_eq_false_iff_ne]
    constructor <;> rintro rfl <;> exact absurd hc (by decide)
  · intro c hc
    cases hquery : u.query with
    | some q =>
        rw [hquery] at hc
        rw [← Option.some.inj hc]
        rfl
    | none =>
        cases hfragment : u.fragment with
        | none =>
            rw [hquery, hfragment] at hc
            cases hc
        | some f =>
            rw [hquery, hfragment] at hc
            rw [← Option.some.inj hc]
            rfl

theorem tail_eq_cons (h : u.IsLegible segments) : ∃ rest, tail u = '/' :: rest := by
  obtain ⟨first, rest, rfl⟩ := List.exists_cons_of_ne_nil h.nonempty
  unfold tail
  rw [h.path]
  exact ⟨_, rfl⟩

/-- A character in front of the path does not end the host. -/
theorem not_endsAuthority (h : u.IsLegible segments) :
    ∀ c ∈ u.credentials ++ u.authority, endsAuthority .special c = false := by
  have hends {c : Char} (h₁ : c ≠ '?') (h₂ : c ≠ '#') (h₃ : c ≠ '/') (h₄ : c ≠ '\\') :
      endsAuthority .special c = false := by
    simp [endsAuthority, Path.isSeparator, h₁, h₂, h₃, h₄]
  rw [List.forall_mem_append]
  constructor
  · refine h.forall_mem_credentials (fun c hc => ?_) (by decide) (by decide)
    refine hends ?_ ?_ ?_ ?_ <;> rintro rfl <;> exact absurd hc (by decide)
  · refine h.forall_mem_authority (fun c hc => ?_) (by decide) (by decide) (by decide)
    refine hends ?_ ?_ ?_ ?_ <;> rintro rfl <;> exact absurd hc (by decide)

theorem withTail_tail (h : u.IsLegible segments) (v : Url) (hkind : v.kind = .special) :
    v.withTail (tail u) = { v with query := u.query, fragment := u.fragment } := by
  unfold withTail
  rw [h.span_tail.2, hkind, readTail_marked h.query h.fragment]

/-- The credentials, the host and the port are read as they are, whatever ends them. -/
theorem readAuthority_append (h : u.IsLegible segments) {rest : List Char}
    (hrest : ∀ c, rest.head? = some c → endsAuthority .special c = true) :
    readAuthority u.scheme (u.credentials ++ u.authority ++ rest) =
      .ok (withTail { u with
        path := Path.read .special (rest.takeWhile fun c => !endsPath c)
        query := none
        fragment := none } rest) := by
  obtain ⟨host, hhost, hspecial⟩ := h.host
  obtain ⟨htake, hdrop⟩ := span_append (p := fun c => !endsAuthority .special c) rest
    (fun c hc => by rw [h.not_endsAuthority c hc]; rfl) (fun c hc => by rw [hrest c hc]; rfl)
  have hhostPart : hostPart false u.authority = (host.text, portText u.port) := by
    rw [authority_eq hhost]
    refine hostPart_text hspecial fun c hc => ?_
    cases hport : u.port with
    | none =>
        rw [hport] at hc
        cases hc
    | some port =>
        rw [hport] at hc
        exact (Option.some.inj hc).symm
  have hempty : host.text.isEmpty = false := by simp [Host.text_ne_nil hspecial]
  obtain ⟨userinfo, hsplit, hread⟩ := h.splitUserinfo_text
  unfold readAuthority
  rw [h.scheme]
  dsimp only
  rw [htake, hdrop, hsplit]
  dsimp only
  rw [hread, hhostPart]
  dsimp only
  rw [hempty, Bool.false_and, if_neg Bool.false_ne_true, if_pos rfl, Host.read_text hspecial,
    readPort_portText h.port, hhost]
  rfl

/-- All that follows the slashes in front of the host is read as it is, up to the dots. -/
theorem readAuthority_text (h : u.IsLegible segments) :
    readAuthority u.scheme (u.credentials ++ u.authority ++ tail u) =
      .ok { u with path := .segments (Path.pushAll .special [] segments) } := by
  obtain ⟨rest, hrest⟩ := h.tail_eq_cons
  rw [h.readAuthority_append fun c hc => by
      rw [hrest] at hc
      rw [← Option.some.inj hc]
      rfl]
  rw [h.withTail_tail _ (by exact h.scheme), h.span_tail.1, h.path,
    Path.read_text h.nonempty h.inner]

/-- No character in front of the path is a control or a space. -/
theorem forall_mem_front (h : u.IsLegible segments) :
    ∀ c ∈ u.scheme.toList ++ ':' :: '/' :: '/' :: (u.credentials ++ u.authority),
      0x20 < c.toNat := by
  simp only [List.forall_mem_append, List.forall_mem_cons]
  refine ⟨lt_of_mem_scheme h.scheme, by decide, by decide, by decide, ?_, ?_⟩
  · refine h.forall_mem_credentials (fun c hc => ?_) (by decide) (by decide)
    have hkeeps := (Bool.and_eq_true_iff.mp (Bool.and_eq_true_iff.mp hc).2).1
    simp only [Path.keeps, Bool.and_eq_true, decide_eq_true_eq] at hkeeps
    exact hkeeps.1.1
  · refine h.forall_mem_authority (fun c hc => ?_) (by decide) (by decide) (by decide)
    have hforbidden := hc.2.2
    simp only [Domain.isForbidden, Bool.or_eq_false_iff, decide_eq_false_iff_not] at hforbidden
    omega

/-- No character behind the host is a control or a space. -/
theorem forall_mem_tail (h : u.IsLegible segments) : ∀ c ∈ tail u, 0x20 < c.toNat := by
  have hkept {keep : Char → Bool} (hkeep : ∀ c, keep c = true → 0x20 < c.toNat) {c : Char}
      (hc : isKept keep c = true) : 0x20 < c.toNat :=
    hkeep c (Bool.and_eq_true_iff.mp hc).2
  have hpath (c : Char) (hc : Path.keeps c = true) : 0x20 < c.toNat := by
    simp only [Path.keeps, Bool.and_eq_true, decide_eq_true_eq] at hc
    exact hc.1.1
  have hmarked {keep : Char → Bool} (hkeep : ∀ c, keep c = true → 0x20 < c.toNat) {mark : Char}
      (hmark : 0x20 < mark.toNat) {part : Option (List Char)} (hpart : IsKeptPart keep part) :
      ∀ c ∈ marked mark part, 0x20 < c.toNat := by
    cases part with
    | none => exact nofun
    | some cs =>
        exact List.forall_mem_cons.mpr ⟨hmark, fun c hc => hkept hkeep (hpart cs rfl c hc)⟩
  unfold tail
  simp only [List.forall_mem_append]
  refine ⟨?_, ?_, ?_⟩
  · rw [h.path]
    exact Path.forall_mem_text (fun c hc => hkept hpath hc.1) (by decide) h.inner
  · refine hmarked (fun c hc => ?_) (by decide) h.query
    simp only [keepsInQuery, Bool.and_eq_true, decide_eq_true_eq] at hc
    exact hc.1.1.1
  · refine hmarked (fun c hc => ?_) (by decide) h.fragment
    simp only [keepsInFragment, Bool.and_eq_true, decide_eq_true_eq] at hc
    exact hc.1.1

/-- What is written from the credentials on is read behind the two slashes. -/
theorem read_eq_readAuthority (h : u.IsLegible segments) {rest : List Char}
    (hcontrols : ∀ c ∈ rest, 0x20 < c.toNat) :
    read (u.scheme.toList ++ ':' :: '/' :: '/' :: (u.credentials ++ u.authority ++ rest)) =
      readAuthority u.scheme (u.credentials ++ u.authority ++ rest) := by
  obtain ⟨host, hhost, hspecial⟩ := h.host
  have hslashes : ('/' :: '/' :: (u.credentials ++ u.authority ++ rest)).dropWhile
      (Path.isSeparator .special) = u.credentials ++ u.authority ++ rest := by
    have hne : u.credentials ++ u.authority ≠ [] := by
      rw [authority_eq hhost]
      exact List.append_ne_nil_of_right_ne_nil _
        (List.append_ne_nil_of_left_ne_nil (Host.text_ne_nil hspecial) _)
    obtain ⟨c, front, hfront⟩ := List.exists_cons_of_ne_nil hne
    have hends := h.not_endsAuthority c (hfront ▸ List.mem_cons_self)
    have hc : Path.isSeparator .special c = false := (Bool.or_eq_false_iff.mp hends).2
    have hslash : ∀ c ∈ ['/', '/'], Path.isSeparator .special c = true :=
      forall_mem_of_all (by decide)
    refine (span_append _ hslash fun d hd => ?_).2
    rw [hfront] at hd
    rw [← Option.some.inj hd]
    exact hc
  have hclean : ∀ c ∈ u.scheme.toList ++ ':' :: '/' :: '/' ::
      (u.credentials ++ u.authority ++ rest), 0x20 < c.toNat := by
    have hfront := h.forall_mem_front
    simp only [List.forall_mem_append, List.forall_mem_cons] at hfront ⊢
    exact ⟨hfront.1, hfront.2.1, hfront.2.2.1, hfront.2.2.2.1, hfront.2.2.2.2, hcontrols⟩
  unfold read
  rw [cleaned_of_forall hclean, splitScheme?_append h.scheme]
  dsimp only
  rw [h.scheme]
  dsimp only
  rw [hslashes]

/-- The text of a legible URL is read as the URL without the dots in its path. -/
theorem read_text (h : u.IsLegible segments) :
    read u.text = .ok { u with path := .segments (Path.pushAll .special [] segments) } := by
  rw [h.text_eq, h.read_eq_readAuthority h.forall_mem_tail, h.readAuthority_text]

/-- Without dots in its path it is read as it is written. -/
theorem read_text_of_areSegments (h : u.IsLegible segments)
    (hsegments : Path.AreSegments segments) : read u.text = .ok u := by
  rw [h.read_text, Path.pushAll_of_areSegments [] hsegments, List.nil_append, ← h.path]

end IsLegible

/-! ## What is read is legible -/

section

variable {scheme : String} {cs : List Char} {u : Url}

theorem isKeptPart_none {keep : Char → Bool} : IsKeptPart keep none := nofun

theorem readFragment_spec (cs : List Char) : IsKeptPart keepsInFragment (readFragment cs) := by
  cases cs with
  | nil => exact isKeptPart_none
  | cons c rest => exact isKeptPart_percentEncode (by decide) (by decide) rest

theorem readTail_spec (cs : List Char) :
    IsKeptPart (keepsInQuery .special) (readTail .special cs).1 ∧
      IsKeptPart keepsInFragment (readTail .special cs).2 := by
  unfold readTail
  split
  · exact ⟨isKeptPart_percentEncode (by decide) (by decide) _, readFragment_spec _⟩
  · exact ⟨isKeptPart_none, readFragment_spec _⟩

theorem withTail_spec {u : Url} (hkind : u.kind = .special) (rest : List Char) :
    ∃ query fragment, u.withTail rest = { u with query, fragment } ∧
      IsKeptPart (keepsInQuery .special) query ∧ IsKeptPart keepsInFragment fragment := by
  unfold withTail
  rw [hkind]
  exact ⟨_, _, rfl, readTail_spec _⟩

theorem readCredentials_spec (cs : List Char) :
    IsCredential (readCredentials cs).1 ∧
      ∀ p, (readCredentials cs).2 = some p → IsCredential p ∧ p ≠ [] := by
  refine ⟨isCredential_percentEncode _, fun p hp => ?_⟩
  unfold readCredentials at hp
  dsimp only at hp
  split at hp
  next => cases hp
  next hne =>
    rw [← Option.some.inj hp]
    refine ⟨isCredential_percentEncode _, percentEncode_ne_nil fun hnil => hne ?_⟩
    rw [hnil]
    rfl

theorem portValue?_le {port : Nat} (h : portValue? cs = some port) : port ≤ 65535 := by
  have hfold : ∀ start, (∀ v, start = some v → v ≤ 65535) → ∀ v, cs.foldl
      (fun value c => do
        let v ← value
        let d ← digit? c
        if 10 * v + d ≤ 65535 then some (10 * v + d) else none) start = some v → v ≤ 65535 := by
    clear h
    induction cs with
    | nil => exact fun _ hstart => hstart
    | cons c cs ih =>
        refine fun start _ => ih _ fun v hv => ?_
        obtain ⟨w, -, hv⟩ := Option.bind_eq_some_iff.mp hv
        obtain ⟨d, -, hv⟩ := Option.bind_eq_some_iff.mp hv
        split at hv
        next hle => exact Option.some.inj hv ▸ hle
        next => cases hv
  exact hfold (some 0) (fun v hv => Option.some.inj hv ▸ Nat.zero_le _) port h

theorem readPort_spec {port : Option Nat} {rest : List Char}
    (h : readPort scheme cs = .ok (port, rest)) :
    ∀ p, port = some p → p ≤ 65535 ∧ defaultPort? scheme ≠ some p := by
  unfold readPort at h
  split at h
  next =>
    cases h
    exact nofun
  next =>
    dsimp only at h
    split at h
    next => cases h
    next value hvalue =>
      split at h
      next =>
        injection h with h
        obtain ⟨rfl, -⟩ := Prod.mk.inj h
        intro p hp
        split at hp
        next => cases hp
        next hdefault =>
          cases hp
          rw [Bool.or_eq_true, beq_iff_eq, not_or] at hdefault
          exact ⟨portValue?_le hvalue, hdefault.2⟩
      next => cases h

/-- What is read behind the slashes is legible, and has no dots left in its path. -/
theorem isLegible_of_readAuthority (hscheme : SchemeKind.of scheme = .special)
    (h : readAuthority scheme cs = .ok u) :
    ∃ segments, u.IsLegible segments ∧ Path.AreSegments segments := by
  unfold readAuthority at h
  rw [hscheme] at h
  dsimp only at h
  split at h
  next => cases h
  next =>
    rw [if_pos rfl] at h
    obtain ⟨host, hhost, h⟩ := of_bind_eq_ok h
    obtain ⟨⟨port, leftover⟩, hport, h⟩ := of_bind_eq_ok h
    dsimp only at h
    obtain ⟨segments, hpath, hne, hsegments⟩ := Path.exists_read (List.takeWhile
      (fun c => !endsPath c) (leftover ++ cs.dropWhile fun c => !endsAuthority .special c))
    obtain ⟨query, fragment, htail, hquery, hfragment⟩ := withTail_spec (u := {
      scheme := scheme
      username := _
      password := _
      host := some host
      port := port
      path := _ }) hscheme _
    rw [htail] at h
    cases h
    obtain ⟨husername, hpassword⟩ := readCredentials_spec ((splitUserinfo
      (cs.takeWhile fun c => !endsAuthority .special c)).1.getD [])
    exact ⟨segments, {
      scheme := hscheme
      host := ⟨host, rfl, Host.isSpecial_of_read hhost⟩
      username := husername
      password := hpassword
      port := readPort_spec hport
      path := hpath
      nonempty := hne
      inner := fun segment hsegment => (hsegments segment hsegment).inner
      query := hquery
      fragment := hfragment }, hsegments⟩

/-! ### The scheme of what is read -/

theorem scheme_of_readAuthority (h : readAuthority scheme cs = .ok u) : u.scheme = scheme := by
  unfold readAuthority at h
  dsimp only at h
  split at h
  next => cases h
  next =>
    split at h
    all_goals
      obtain ⟨host, -, h⟩ := of_bind_eq_ok h
      obtain ⟨⟨port, leftover⟩, -, h⟩ := of_bind_eq_ok h
      cases h
      rfl

theorem scheme_of_readFile (h : readFile scheme cs = .ok u) : u.scheme = scheme := by
  unfold readFile at h
  dsimp only at h
  split at h
  next =>
    split at h
    next =>
      split at h
      next =>
        cases h
        rfl
      split at h
      next =>
        cases h
        rfl
      next =>
        obtain ⟨host, -, h⟩ := of_bind_eq_ok h
        cases h
        rfl
    next =>
      cases h
      rfl
  next =>
    cases h
    rfl

theorem scheme_of_readOther (h : readOther scheme cs = .ok u) : u.scheme = scheme := by
  unfold readOther at h
  split at h
  next => exact scheme_of_readAuthority h
  next =>
    cases h
    rfl
  next =>
    cases h
    rfl

/-- A URL with a special scheme that has been read is legible, and has no dots left in its path. -/
theorem isLegible_of_read (h : read cs = .ok u) (hkind : u.kind = .special) :
    ∃ segments, u.IsLegible segments ∧ Path.AreSegments segments := by
  unfold read at h
  split at h
  next => cases h
  next scheme rest _ =>
    have hof : SchemeKind.of u.scheme = .special := hkind
    cases hscheme : SchemeKind.of scheme with
    | special =>
        rw [hscheme] at h
        exact isLegible_of_readAuthority hscheme h
    | file =>
        rw [hscheme] at h
        rw [scheme_of_readFile h, hscheme] at hof
        cases hof
    | other =>
        rw [hscheme] at h
        rw [scheme_of_readOther h, hscheme] at hof
        cases hof

/-- A URL with a special scheme is read again as the same URL. -/
theorem read_text (h : read cs = .ok u) (hkind : u.kind = .special) : read u.text = .ok u := by
  obtain ⟨segments, hlegible, hsegments⟩ := isLegible_of_read h hkind
  exact hlegible.read_text_of_areSegments hsegments

end

end Tributary.Url
