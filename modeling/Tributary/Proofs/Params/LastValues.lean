import Mathlib.Logic.Relation
import Tributary.Proofs.Params.Pairs
import Tributary.Proofs.Url.Tails

/-!
# The last values of a query

Of a name that a query gives more than once the last value counts, whatever stands between. So the
parameters of a connection string depend on the last values of the names that are known, and on the
rest of its URL: neither the order of different names, nor a value that is overridden, nor a name
that is not known matters. Each value has to be valid all the same, and the first one that is not is
reported by its name. Before any of this the password is decoded, and if it is no text, that is
reported instead.
-/

namespace Tributary

open Text Url

namespace ConnectionString

/-! ## Texts with pairs -/

/-- A text is a URL, but for the query and the fragment, with pairs in its query. -/
def Spells (text : String) (u : Url) (pairs : List (String × String)) : Prop :=
  ∃ query fragment, Url.read (trim text.toList) = .ok { u with query, fragment } ∧
    Form.pairs (query.getD []) = pairs

/-- A text that goes on with pairs, and with a fragment if there is one. -/
def withPairs (front : List Char) (pairs : List (String × String))
    (fragment : Option (List Char)) : String :=
  String.ofList (front ++ '?' :: (Form.append [] pairs ++ marked '#' fragment))

/-- What the characters of names and values have, and the two signs between them, the characters
of a query have. -/
theorem forall_mem_append {P : Char → Prop} (hencode : ∀ s, ∀ c ∈ Form.encode s, P c)
    (hequals : P '=') (hand : P '&') {query : List Char} (hquery : ∀ c ∈ query, P c)
    (pairs : List (String × String)) : ∀ c ∈ Form.append query pairs, P c := by
  induction pairs generalizing query with
  | nil => exact hquery
  | cons pair pairs ih =>
      have hpair : ∀ c ∈ Form.encodePair pair, P c :=
        List.forall_mem_append.mpr ⟨hencode _, List.forall_mem_cons.mpr ⟨hequals, hencode _⟩⟩
      refine ih ?_
      split
      · exact hpair
      · exact List.forall_mem_append.mpr ⟨hquery, List.forall_mem_cons.mpr ⟨hand, hpair⟩⟩

/-- A character that stands for itself in a query under any scheme. -/
def IsQuiet (c : Char) : Prop := isKept (keepsInQuery .special) c = true ∧ IsSolid c

instance (c : Char) : Decidable (IsQuiet c) := inferInstanceAs (Decidable (_ ∧ _))

theorem IsQuiet.isKept {c : Char} (h : IsQuiet c) (kind : SchemeKind) :
    Text.isKept (keepsInQuery kind) c = true := by
  have hspecial := h.1
  unfold Text.isKept keepsInQuery at hspecial ⊢
  cases kind <;> simp_all

theorem IsQuiet.ne_hash {c : Char} (h : IsQuiet c) : (c != '#') = true := by
  rw [bne_iff_ne]
  rintro rfl
  exact absurd h.1 (by decide)

theorem isQuiet_of_mem_append (pairs : List (String × String)) :
    ∀ c ∈ Form.append [] pairs, IsQuiet c := by
  have hplain : ∀ n : Fin 0x80, Form.isPlain (Char.ofNat n) = true → IsQuiet (Char.ofNat n) := by
    decide
  refine forall_mem_append (Form.forall_mem_encode (fun c hc hplain' => ?_) (by decide)
    (by decide) (by decide)) (by decide) (by decide) (List.forall_mem_nil _) pairs
  have hquiet := hplain ⟨c.toNat, hc⟩
  rw [Char.ofNat_toNat] at hquiet
  exact hquiet hplain'

theorem tidyBack_append_marked {query : List Char} (h : ∀ c ∈ query, IsSolid c)
    (fragment : Option (List Char)) :
    tidyBack (query ++ marked '#' fragment) = query ++ marked '#' (fragment.map tidyBack) := by
  have hbreaks {cs : List Char} (hcs : ∀ c ∈ cs, IsSolid c) : withoutBreaks cs = cs :=
    withoutBreaks_of_forall fun c hc => (hcs c hc).2
  cases fragment with
  | some fragment =>
      show tidyBack (query ++ '#' :: fragment) = query ++ '#' :: tidyBack fragment
      rw [tidyBack_append (by decide), hbreaks h]
  | none =>
      show tidyBack (query ++ []) = query ++ []
      rw [List.append_nil]
      cases query using List.reverseRecOn with
      | nil => rfl
      | append_singleton front last =>
          obtain ⟨hfront, hlast⟩ := List.forall_mem_append.mp h
          rw [tidyBack_append (List.forall_mem_singleton.mp hlast), hbreaks hfront]
          rfl

/-- Behind a text without a query any pairs may stand. Either none of these texts is read, or they
spell the pairs with the same URL. -/
theorem spells_withPairs {front : List Char} (hfront : IsFront front) :
    (∃ message, ∀ pairs fragment,
        read (withPairs front pairs fragment) = .error (.unreadable message)) ∨
      ∃ u, ∀ pairs fragment, Spells (withPairs front pairs fragment) u pairs := by
  have hread (pairs : List (String × String)) (fragment : Option (List Char)) :
      Url.read (trim (withPairs front pairs fragment).toList) =
        (Url.read (trim (front ++ ['?']))).map (·.withTail ('?' :: (Form.append [] pairs ++
          marked '#' (fragment.map tidyBack)))) := by
    unfold withPairs
    rw [String.toList_ofList, read_trim_append hfront, tidyBack_append_marked fun c hc =>
      (isQuiet_of_mem_append pairs c hc).2]
  cases hbare : Url.read (trim (front ++ ['?'])) with
  | error e =>
      refine .inl ⟨"invalid uri: " ++ e.message, fun pairs fragment => ?_⟩
      unfold read settings
      rw [hread, hbare]
      rfl
  | ok u =>
      refine .inr ⟨u, fun pairs fragment => ⟨some (Form.append [] pairs),
        readFragment (marked '#' (fragment.map tidyBack)), ?_, ?_⟩⟩
      · have hquiet := isQuiet_of_mem_append pairs
        have hencoded : percentEncode (keepsInQuery u.kind) (Form.append [] pairs) =
            Form.append [] pairs :=
          percentEncode_of_forall fun c hc => (hquiet c hc).isKept u.kind
        obtain ⟨htake, hdrop⟩ := span_append (marked '#' (fragment.map tidyBack))
          (fun c hc => (hquiet c hc).ne_hash) fun c hc => by cases fragment <;> cases hc; rfl
        rw [hread, hbare]
        show Except.ok (u.withTail _) = _
        rw [withTail_query, htake, hdrop, hencoded]
      · exact (Form.pairs_append [] pairs).trans (List.nil_append pairs)

section

variable {s t : String} {u : Url} {ps qs : List (String × String)}

/-- A connection string sets what its password and its pairs set, and the server. -/
theorem settings_of_spells (h : Spells s u ps) :
    settings s = passwordSettings u >>= fun fromPassword => settingsOf ps >>= fun fromQuery =>
      .ok (fromPassword ++ fromQuery ++ [.server u.bare.toString]) := by
  obtain ⟨query, fragment, hread, rfl⟩ := h
  unfold settings
  rw [hread]
  rfl

theorem read_of_settings_error {e : ConnectionError} (h : settings s = .error e) :
    read s = .error e := by
  unfold read
  rw [h]
  rfl

/-- What a connection string sets is put together from the last values. -/
theorem exists_settings (h : Spells s u ps) (hu : HasReadablePassword u)
    (hps : ∀ pair ∈ ps, IsValid pair) :
    ∃ l, settings s = .ok l ∧ Builder.setAll {} l = made u ps := by
  obtain ⟨fromQuery, hquery⟩ := exists_settingsOf hps
  refine ⟨_, ?_, setAll_settingsOf hps hquery⟩
  rw [settings_of_spells h, passwordSettings_of_readable hu, ok_bind, hquery, ok_bind]

theorem read_of_readable (h : Spells s u ps) (hu : HasReadablePassword u)
    (hps : ∀ pair ∈ ps, IsValid pair) : read s = (made u ps).build := by
  obtain ⟨l, hl, hmade⟩ := exists_settings h hu hps
  unfold read
  rw [hl, ok_bind, hmade]

/-- A password that is no text is reported, whatever the pairs. -/
theorem read_of_not_readable (hu : ¬ HasReadablePassword u) : ∃ message, ∀ s ps, Spells s u ps →
    read s = .error (.unreadable ("Failed to decode token: " ++ message)) := by
  obtain ⟨message, hmessage⟩ := passwordSettings_of_not_readable hu
  refine ⟨message, fun s ps h => read_of_settings_error ?_⟩
  rw [settings_of_spells h, hmessage]
  rfl

/-- The first pair that is not valid is reported by its name, whatever follows it. -/
theorem read_of_not_isValid {front back : List (String × String)} {pair : String × String}
    (h : Spells s u (front ++ pair :: back)) (hu : HasReadablePassword u)
    (hfront : ∀ p ∈ front, IsValid p) (hpair : ¬ IsValid pair) :
    ∃ message, read s = .error (.invalidParameter pair.1 message) := by
  obtain ⟨message, hmessage⟩ := settingsOf_of_not_isValid hfront hpair back
  refine ⟨message, read_of_settings_error ?_⟩
  rw [settings_of_spells h, passwordSettings_of_readable hu, ok_bind, hmessage]
  rfl

/-! ## Pairs that say the same -/

/-- The last value of each name that is known is the same. -/
def SameLast (ps qs : List (String × String)) : Prop :=
  ∀ name ∈ names, last? name ps = last? name qs

instance (ps qs : List (String × String)) : Decidable (SameLast ps qs) :=
  inferInstanceAs (Decidable (∀ name ∈ names, last? name ps = last? name qs))

/-- One way to say the same with other pairs. -/
inductive Revises : List (String × String) → List (String × String) → Prop
  /-- Pairs are rearranged, while those of each name stay in their order. -/
  | rearrange {ps qs : List (String × String)} (hperm : ps.Perm qs)
      (h : ∀ name, values name ps = values name qs) : Revises ps qs
  /-- A pair is dropped that a later one of its name overrides. -/
  | override (front between back : List (String × String)) (name value later : String) :
      Revises (front ++ (name, value) :: between ++ (name, later) :: back)
        (front ++ between ++ (name, later) :: back)
  /-- A pair is dropped whose name is not known. -/
  | ignore (front back : List (String × String)) {name : String} (value : String)
      (h : name ∉ names) : Revises (front ++ (name, value) :: back) (front ++ back)

theorem last?_append (name : String) (ps qs : List (String × String)) :
    last? name (ps ++ qs) = (last? name qs).or (last? name ps) := by
  unfold last?
  rw [values_append, List.getLast?_append]

theorem last?_cons (name : String) (pair : String × String) (ps : List (String × String)) :
    last? name (pair :: ps) = (last? name ps).or (if pair.1 = name then some pair.2 else none) := by
  rw [← List.singleton_append, last?_append]
  unfold last?
  rw [values_singleton]
  split <;> rfl

theorem sameLast_of_revises (h : Revises ps qs) : SameLast ps qs := by
  intro name hname
  cases h with
  | rearrange hperm h => exact congrArg List.getLast? (h name)
  | override front between back other value later =>
      simp only [last?_append, last?_cons]
      by_cases hother : other = name
      · simp [hother]
      · simp [hother]
  | @ignore front back other value h =>
      have hne : ¬ other = name := fun heq => h (heq ▸ hname)
      rw [last?_append, last?_append, last?_cons, if_neg hne, Option.or_none]

/-- Going back and forth between pairs that say the same. -/
theorem sameLast_of_eqvGen (h : Relation.EqvGen Revises ps qs) : SameLast ps qs := by
  induction h with
  | rel ps qs h => exact sameLast_of_revises h
  | refl ps => exact fun _ _ => rfl
  | symm ps qs _ ih => exact fun name hname => (ih name hname).symm
  | trans ps qs rs _ _ ih ih' => exact fun name hname => (ih name hname).trans (ih' name hname)

theorem made_eq_of_sameLast (h : SameLast ps qs) (u : Url) : made u ps = made u qs := by
  have hlast (name : String) (hname : name ∈ names) := h name hname
  unfold made
  rw [hlast "token" (by decide), hlast "sessionID" (by decide), hlast "displayHints" (by decide),
    hlast "insecureTLS" (by decide), hlast "timeout" (by decide),
    hlast "pollInterval" (by decide)]

theorem read_eq_of_sameLast (hs : Spells s u ps) (ht : Spells t u qs)
    (hps : ∀ pair ∈ ps, IsValid pair) (hqs : ∀ pair ∈ qs, IsValid pair) (h : SameLast ps qs) :
    read s = read t := by
  by_cases hu : HasReadablePassword u
  · rw [read_of_readable hs hu hps, read_of_readable ht hu hqs, made_eq_of_sameLast h]
  · -- Then both fail alike, before any pair is read.
    obtain ⟨message, hread⟩ := read_of_not_readable hu
    rw [hread s ps hs, hread t qs ht]

end

/-- Pairs stand behind any text without a query that goes on as a URL. If their values are valid,
what comes of them is built from the last value of each name, so pairs that say the same come to the
same. If the password stands for a text, the first pair that is not valid is reported by its name,
even if a later one overrides it; if it does not, that is reported, whatever the pairs. -/
theorem last_values_count :
    (∀ front, IsFront front →
      (∃ message, ∀ pairs fragment,
          read (withPairs front pairs fragment) = .error (.unreadable message)) ∨
        ∃ u, ∀ pairs fragment, Spells (withPairs front pairs fragment) u pairs) ∧
      ∀ s u ps, Spells s u ps →
        (∀ t qs, Spells t u qs → (∀ pair ∈ ps, IsValid pair) → (∀ pair ∈ qs, IsValid pair) →
          SameLast ps qs ∨ Relation.EqvGen Revises ps qs → read s = read t) ∧
        (HasReadablePassword u → (∀ pair ∈ ps, IsValid pair) → read s = (made u ps).build) ∧
        (HasReadablePassword u → ∀ front pair back, ps = front ++ pair :: back →
          (∀ p ∈ front, IsValid p) → ¬ IsValid pair →
            ∃ message, read s = .error (.invalidParameter pair.1 message)) ∧
        (¬ HasReadablePassword u →
          ∃ message, read s = .error (.unreadable ("Failed to decode token: " ++ message))) := by
  refine ⟨fun front hfront => spells_withPairs hfront, fun s u ps hs => ⟨?_, ?_, ?_, ?_⟩⟩
  · rintro t qs ht hps hqs (hsame | hrevised)
    · exact read_eq_of_sameLast hs ht hps hqs hsame
    · exact read_eq_of_sameLast hs ht hps hqs (sameLast_of_eqvGen hrevised)
  · exact read_of_readable hs
  · rintro hu front pair back rfl hfront hpair
    exact read_of_not_isValid hs hu hfront hpair
  · intro hu
    obtain ⟨message, hread⟩ := read_of_not_readable hu
    exact ⟨message, hread s ps hs⟩

/-- A password that is no text hides a pair that is not valid. -/
theorem unreadable_password_is_reported_first :
    read "https://u:%FF@h?timeout=bad" = .error (.unreadable
        "Failed to decode token: invalid utf-8 sequence of 1 bytes from index 0") ∧
      ¬ ∀ s u front pair back, Spells s u (front ++ pair :: back) → (∀ p ∈ front, IsValid p) →
        ¬ IsValid pair → ∃ message, read s = .error (.invalidParameter pair.1 message) := by
  have hread : read "https://u:%FF@h?timeout=bad" = .error (.unreadable
      "Failed to decode token: invalid utf-8 sequence of 1 bytes from index 0") := by
    refine eq_error_of_map_eq_error (f := fun _ => ()) ?_
    decide +kernel
  have hspells : Spells "https://u:%FF@h?timeout=bad"
      { scheme := "https", username := ['u'], password := some ['%', 'F', 'F'],
        host := some (.domain ['h']), path := .segments [[]] } [("timeout", "bad")] :=
    ⟨some "timeout=bad".toList, none, by decide +kernel, by decide +kernel⟩
  refine ⟨hread, fun h => ?_⟩
  obtain ⟨message, hmessage⟩ := h _ _ [] _ [] hspells (List.forall_mem_nil _) (by decide)
  rw [hread] at hmessage
  cases hmessage

/-- Two texts whose pairs say the same, and one with a pair that is not valid in front of a later
one of its name. -/
theorem last_values_of_repeated_names :
    let first := [("timeout", "5"), ("x", "1"), ("displayHints", "no"), ("timeout", "+07"),
      ("displayHints", "ON")]
    let second := [("displayHints", "ON"), ("timeout", "+07")]
    SameLast first second ∧ (∀ pair ∈ first, IsValid pair) ∧
      read "https://_:a@h/v2?timeout=5&x=1&displayHints=no&timeout=%2B07&displayHints=ON" =
        read "https://_:a@h/v2?displayHints=ON&timeout=%2B07" ∧
      ¬ IsValid ("timeout", "bad") ∧
      ∃ message, read "https://h?token=t&timeout=bad&timeout=5" =
        .error (.invalidParameter "timeout" message) := by
  intro first second
  let u : Url :=
    { scheme := "https", username := ['_'], password := some ['a'], host := some (.domain ['h']),
      path := .segments [['v', '2']] }
  let v : Url := { scheme := "https", host := some (.domain ['h']), path := .segments [[]] }
  have hfirst : Spells
      "https://_:a@h/v2?timeout=5&x=1&displayHints=no&timeout=%2B07&displayHints=ON" u first :=
    ⟨some "timeout=5&x=1&displayHints=no&timeout=%2B07&displayHints=ON".toList, none,
      by decide +kernel, by decide +kernel⟩
  have hsecond : Spells "https://_:a@h/v2?displayHints=ON&timeout=%2B07" u second :=
    ⟨some "displayHints=ON&timeout=%2B07".toList, none, by decide +kernel, by decide +kernel⟩
  have hbad : Spells "https://h?token=t&timeout=bad&timeout=5" v
      ([("token", "t")] ++ ("timeout", "bad") :: [("timeout", "5")]) :=
    ⟨some "token=t&timeout=bad&timeout=5".toList, none, by decide +kernel, by decide +kernel⟩
  have hsame : SameLast first second := by decide
  have hvalid : ∀ pair ∈ first, IsValid pair := by decide
  have hnone : HasReadablePassword v := nofun
  obtain ⟨-, hspelled⟩ := last_values_count
  obtain ⟨hread, -⟩ := hspelled _ _ _ hfirst
  obtain ⟨-, -, hreports, -⟩ := hspelled _ _ _ hbad
  have hinvalid : ¬ IsValid ("timeout", "bad") := by decide
  exact ⟨hsame, hvalid, hread _ _ hsecond hvalid (by decide) (.inl hsame), hinvalid,
    hreports hnone _ _ _ rfl (by decide) hinvalid⟩

end ConnectionString

end Tributary
