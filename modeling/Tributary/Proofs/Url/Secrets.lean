import Mathlib.Logic.Relation
import Tributary.Proofs.Text.Form
import Tributary.Proofs.Url.Tails

/-!
# Secrets in a URL

A secret stands in a URL as its password, or as the value of a token in its query. Where one secret
takes the place of another in a text, the text is read as the same URL but for the secret: the
password ends in front of the host, and the value in front of the next pair, whatever they are.
-/

namespace Tributary.Url

open Text

/-! ## URLs that differ in secrets -/

/-- A pair without its value, if this is a token. -/
def concealed (pair : String × String) : String × String :=
  if pair.1 = "token" then (pair.1, "") else pair

/-- Two URLs are the same but for their passwords and the values of tokens. -/
structure Twins (u v : Url) : Prop where
  same : v = { u with password := v.password, query := v.query }
  pairs : v.queryPairs.map concealed = u.queryPairs.map concealed

theorem twins_refl (u : Url) : Twins u u := ⟨rfl, rfl⟩

theorem Twins.trans {u v w : Url} (h : Twins u v) (h' : Twins v w) : Twins u w where
  same := by
    rw [h'.same, h.same]
  pairs := h'.pairs.trans h.pairs

/-! ## Texts that differ in a secret -/

/-- A text stands for a special scheme in front of a colon. -/
def SpellsScheme (front : List Char) (scheme : String) : Prop :=
  splitScheme? (tidyFront front ++ [':']) = some (scheme, []) ∧ SchemeKind.of scheme = .special

/-- A text stands for the name of a token in a query. -/
structure SpellsToken (name : List Char) : Prop where
  inner : ∀ c ∈ name, c ∉ ['&', '=', '#']
  decoded (kind : SchemeKind) :
    Form.decode (percentEncode (keepsInQuery kind) (withoutBreaks name)) = "token"

/-- A secret takes the place of another one in a text. -/
inductive Swaps : List Char → List Char → Prop
  /-- It stands between the colon behind a username and the last at sign in front of the host. -/
  | password {front : List Char} {scheme : String} (hscheme : SpellsScheme front scheme)
      {slashes user secret secret' rest : List Char}
      (hslashes : ∀ c ∈ slashes, c ∈ ['/', '\\', '\t', '\n', '\r'])
      (huser : ∀ c ∈ user, c ∉ [':', '/', '\\', '?', '#'])
      (hsecret : ∀ c ∈ secret, c ∉ ['/', '\\', '?', '#'])
      (hsecret' : ∀ c ∈ secret', c ∉ ['/', '\\', '?', '#'])
      (hrest : '@' ∉ rest.takeWhile fun c => !endsAuthority .special c) :
      Swaps (front ++ ':' :: (slashes ++ (user ++ ':' :: secret)) ++ '@' :: rest)
        (front ++ ':' :: (slashes ++ (user ++ ':' :: secret')) ++ '@' :: rest)
  /-- It stands behind the name of a token, in front of the next pair or the fragment. -/
  | token {front lead name value value' back : List Char} (hfront : IsFront front)
      (hlead : '#' ∉ lead) (hlast : ∀ c, lead.getLast? = some c → c = '&')
      (hname : SpellsToken name) (hvalue : ∀ c ∈ value, c ∉ ['&', '#'])
      (hvalue' : ∀ c ∈ value', c ∉ ['&', '#'])
      (hback : ∀ c, back.head? = some c → c ∈ ['&', '#']) :
      Swaps (front ++ '?' :: (lead ++ name ++ '=' :: (value ++ back)))
        (front ++ '?' :: (lead ++ name ++ '=' :: (value' ++ back)))

/-! ## Passwords -/

section

variable {scheme : String}

/-- Credentials in front of a host are read apart from it. -/
theorem readAuthority_userinfo (hscheme : SchemeKind.of scheme = .special)
    {userinfo rest : List Char} (huserinfo : ∀ c ∈ userinfo, endsAuthority .special c = false)
    (hrest : '@' ∉ rest.takeWhile fun c => !endsAuthority .special c) :
    readAuthority scheme (userinfo ++ '@' :: rest) = (readAuthority scheme rest).map fun u =>
      { u with
        username := (readCredentials userinfo).1
        password := (readCredentials userinfo).2 } := by
  have hfront : ∀ c ∈ userinfo ++ ['@'], (!endsAuthority .special c) = true := by
    refine List.forall_mem_append.mpr ⟨fun c hc => ?_, forall_mem_of_all (by decide)⟩
    rw [huserinfo c hc]
    rfl
  have hsplit : splitUserinfo (userinfo ++ '@' :: rest.takeWhile fun c =>
      !endsAuthority .special c) = (some userinfo, rest.takeWhile fun c =>
      !endsAuthority .special c) := by
    unfold splitUserinfo
    rw [splitLast?_append hrest]
  have hsplit' : splitUserinfo (rest.takeWhile fun c => !endsAuthority .special c) =
      (none, rest.takeWhile fun c => !endsAuthority .special c) := by
    unfold splitUserinfo
    rw [splitLast?_of_not_mem hrest]
  have htext : userinfo ++ '@' :: rest = userinfo ++ ['@'] ++ rest := by simp
  unfold readAuthority
  rw [hscheme]
  dsimp only
  rw [htext, List.takeWhile_append_of_pos hfront, List.dropWhile_append_of_pos hfront,
    List.append_assoc, List.singleton_append, hsplit, hsplit']
  have hspecial : (SchemeKind.special == SchemeKind.special) = true := rfl
  -- Under a special scheme a host must not be empty, whatever stands in front of it.
  simp only [hspecial, Bool.true_or, Bool.and_true, if_true]
  split
  next => rfl
  next =>
    refine bind_eq_map_bind fun host _ => bind_eq_map_bind fun read _ => ?_
    rfl

theorem readCredentials_append {user : List Char} (huser : ':' ∉ user) (secret : List Char) :
    (readCredentials (user ++ ':' :: secret)).1 = percentEncode keepsInCredentials user := by
  unfold readCredentials
  dsimp only
  rw [(span_mark huser secret).1]

theorem splitScheme?_of_spellsScheme {front : List Char} (h : SpellsScheme front scheme)
    (rest : List Char) : splitScheme? (tidyFront front ++ ':' :: rest) = some (scheme, rest) := by
  have hstop : isSchemeCharacter ':' = false := rfl
  have hsplit := h.1
  unfold splitScheme? at hsplit ⊢
  rw [takeWhile_append_stop hstop, dropWhile_append_stop hstop] at hsplit ⊢
  generalize (tidyFront front).takeWhile isSchemeCharacter = name at hsplit ⊢
  generalize (tidyFront front).dropWhile isSchemeCharacter = after at hsplit ⊢
  cases name with
  | nil => cases hsplit
  | cons c name =>
      cases after with
      | nil =>
          show (if c.isAlpha = true then _ else none) = _
          change (if c.isAlpha = true then _ else none) = _ at hsplit
          split at hsplit
          next hc =>
            rw [if_pos hc]
            cases hsplit
            rfl
          next => cases hsplit
      | cons d after =>
          -- Only the colon itself may follow the scheme.
          split at hsplit
          next hrest =>
            split at hsplit
            next =>
              obtain ⟨-, rfl⟩ := Prod.mk.inj (Option.some.inj hsplit)
              obtain ⟨-, hnil⟩ := List.cons.inj hrest
              exact absurd hnil (List.append_ne_nil_of_right_ne_nil _ (List.cons_ne_nil _ _))
            next => cases hsplit
          next => cases hsplit

theorem takeWhile_append_subset (p : Char → Bool) (front back : List Char) :
    front.takeWhile p ⊆ (front ++ back).takeWhile p := by
  induction front with
  | nil => exact List.nil_subset _
  | cons c front ih =>
      rw [List.cons_append, List.takeWhile_cons, List.takeWhile_cons]
      split
      · exact List.cons_subset_cons c ih
      · exact List.nil_subset _

theorem takeWhile_withoutBreaks_subset {p : Char → Bool} (htab : p '\t' = true)
    (hfeed : p '\n' = true) (hreturn : p '\r' = true) (cs : List Char) :
    (withoutBreaks cs).takeWhile p ⊆ cs.takeWhile p := by
  induction cs with
  | nil => exact List.nil_subset _
  | cons c cs ih =>
      unfold withoutBreaks at ih ⊢
      by_cases hc : (c != '\t' && c != '\n' && c != '\r') = true
      · rw [List.filter_cons, if_pos hc, List.takeWhile_cons, List.takeWhile_cons]
        split
        · exact List.cons_subset_cons c ih
        · exact List.nil_subset _
      · have hp : p c = true := by
          simp only [Bool.and_eq_true, bne_iff_ne, not_and_or, not_not] at hc
          rcases hc with (rfl | rfl) | rfl
          · exact htab
          · exact hfeed
          · exact hreturn
        rw [List.filter_cons, if_neg hc, List.takeWhile_cons_of_pos hp]
        exact List.Subset.trans ih (List.subset_cons_self c _)

/-- What a text begins with when it is tidy it begins with before. -/
theorem takeWhile_tidyBack_subset {p : Char → Bool} (htab : p '\t' = true)
    (hfeed : p '\n' = true) (hreturn : p '\r' = true) (cs : List Char) :
    (tidyBack cs).takeWhile p ⊆ cs.takeWhile p := by
  have hbegin {front cs : List Char} (h : front <+: cs) : front.takeWhile p ⊆ cs.takeWhile p := by
    obtain ⟨back, rfl⟩ := h
    exact takeWhile_append_subset p front back
  refine List.Subset.trans (takeWhile_withoutBreaks_subset htab hfeed hreturn _) (hbegin ?_)
  exact (List.rdropWhile_prefix _ _).trans (List.rdropWhile_prefix _ _)

/-- Slashes stay slashes when they are tidied. -/
theorem isSeparator_of_mem_withoutBreaks {slashes : List Char}
    (hslashes : ∀ c ∈ slashes, c ∈ ['/', '\\', '\t', '\n', '\r']) :
    ∀ c ∈ withoutBreaks slashes, Path.isSeparator .special c = true := by
  intro c hc
  obtain ⟨hmem, hbreak⟩ := List.mem_filter.mp hc
  have hc := hslashes c hmem
  simp only [List.mem_cons, List.not_mem_nil, or_false] at hc
  rcases hc with rfl | rfl | rfl | rfl | rfl
  · rfl
  · rfl
  · cases hbreak
  · cases hbreak
  · cases hbreak

/-- Nothing in a username and a password ends the authority. -/
theorem not_endsAuthority_of_mem_withoutBreaks {user secret : List Char}
    (huser : ∀ c ∈ user, c ∉ [':', '/', '\\', '?', '#'])
    (hsecret : ∀ c ∈ secret, c ∉ ['/', '\\', '?', '#']) :
    ∀ c ∈ withoutBreaks user ++ ':' :: withoutBreaks secret, endsAuthority .special c = false := by
  have hends {c : Char} (hc : c ∉ ['/', '\\', '?', '#']) : endsAuthority .special c = false := by
    simp only [List.mem_cons, List.not_mem_nil, or_false, not_or] at hc
    simp [endsAuthority, Path.isSeparator, hc]
  simp only [List.forall_mem_append, List.forall_mem_cons]
  refine ⟨fun c hc => hends fun hmem => ?_, rfl, fun c hc => ?_⟩
  · exact huser c (List.mem_of_mem_filter hc) (List.mem_cons_of_mem ':' hmem)
  · exact hends (hsecret c (List.mem_of_mem_filter hc))

theorem read_trim_password {front : List Char} (hscheme : SpellsScheme front scheme)
    {slashes user secret rest : List Char}
    (hslashes : ∀ c ∈ slashes, c ∈ ['/', '\\', '\t', '\n', '\r'])
    (huser : ∀ c ∈ user, c ∉ [':', '/', '\\', '?', '#'])
    (hsecret : ∀ c ∈ secret, c ∉ ['/', '\\', '?', '#'])
    (hrest : '@' ∉ rest.takeWhile fun c => !endsAuthority .special c) :
    read (trim (front ++ ':' :: (slashes ++ (user ++ ':' :: secret)) ++ '@' :: rest)) =
      (readAuthority scheme (tidyBack rest)).map fun u => { u with
        username := percentEncode keepsInCredentials (withoutBreaks user)
        password := (readCredentials (withoutBreaks user ++ ':' :: withoutBreaks secret)).2 } := by
  have hcolon : IsSolid ':' := by decide
  have hat : IsSolid '@' := by decide
  rw [read_eq_readTidy, cleaned_trim_append hat, tidyFront_append hcolon, withoutBreaks_append,
    withoutBreaks_append, withoutBreaks_cons_of_isSolid hcolon, List.append_assoc, List.cons_append]
  unfold readTidy
  rw [splitScheme?_of_spellsScheme hscheme]
  dsimp only
  rw [hscheme.2]
  dsimp only
  -- Behind the scheme and its slashes the username begins.
  have huserinfo := not_endsAuthority_of_mem_withoutBreaks huser hsecret
  have hhead : ∀ c, (withoutBreaks user ++ ':' :: withoutBreaks secret ++
      '@' :: tidyBack rest).head? = some c → Path.isSeparator .special c = false := by
    intro c hc
    have hne : withoutBreaks user ++ ':' :: withoutBreaks secret ≠ [] :=
      List.append_ne_nil_of_right_ne_nil _ (List.cons_ne_nil _ _)
    rw [List.head?_append_of_ne_nil _ hne] at hc
    exact (Bool.or_eq_false_iff.mp (huserinfo c (List.mem_of_mem_head? hc))).2
  have hat' : '@' ∉ (tidyBack rest).takeWhile fun c => !endsAuthority .special c :=
    fun hmem => hrest (takeWhile_tidyBack_subset rfl rfl rfl rest hmem)
  have hcolon' : ':' ∉ withoutBreaks user := fun hmem =>
    huser ':' (List.mem_of_mem_filter hmem) List.mem_cons_self
  have hdrop := (span_append _ (isSeparator_of_mem_withoutBreaks hslashes) hhead).2
  rw [List.append_assoc, hdrop, readAuthority_userinfo hscheme.2 huserinfo hat',
    readCredentials_append hcolon']

end

/-! ## Tokens -/

section

variable {kind : SchemeKind}

theorem percentEncode_append {keep : Char → Bool} (front back : List Char) :
    percentEncode keep (front ++ back) = percentEncode keep front ++ percentEncode keep back :=
  List.flatMap_append

theorem not_mem_percentEncode {keep : Char → Bool} {mark : Char} {cs : List Char}
    (h : mark ∉ cs) (hpercent : mark ≠ '%') (hdigit : ∀ d, upperHexChar d ≠ mark) :
    mark ∉ percentEncode keep cs := by
  have hall : ∀ c ∈ percentEncode keep cs, c ≠ mark := by
    refine forall_mem_percentEncode (P := fun c => c ≠ mark) ?_ hpercent.symm hdigit
    rintro c hc - - rfl
    exact h hc
  exact fun hmem => hall mark hmem rfl

/-- The pairs in front of a pair, the pair and the pairs behind it. -/
theorem pairs_append_pair {lead name value back : List Char}
    (hlead : ∀ c, lead.getLast? = some c → c = '&') (hname : ∀ c ∈ name, c ∉ ['&', '='])
    (hvalue : '&' ∉ value) (hback : ∀ c, back.head? = some c → c = '&') :
    Form.pairs (lead ++ (name ++ '=' :: value ++ back)) =
      Form.pairs lead ++ (Form.decode name, Form.decode value) :: Form.pairs back := by
  have hand : '&' ∉ name ++ '=' :: value := by
    rw [List.mem_append, List.mem_cons, not_or, not_or]
    exact ⟨fun hmem => hname '&' hmem (by decide), by decide, hvalue⟩
  have hpair : Form.decodePair (name ++ '=' :: value) = (Form.decode name, Form.decode value) :=
    Form.decodePair_append (fun hmem => hname '=' hmem (by decide)) value
  have hnil : Form.pairs [] = [] := rfl
  have hpairs : Form.pairs (name ++ '=' :: value ++ back) =
      (Form.decode name, Form.decode value) :: Form.pairs back := by
    have hsingle := Form.pairs_of_not_mem hand (by simp)
    cases back with
    | nil => rw [List.append_nil, hsingle, hpair, hnil]
    | cons c back =>
        obtain rfl : c = '&' := hback c rfl
        have hrest : Form.pairs ('&' :: back) = Form.pairs back := by
          rw [← List.nil_append ('&' :: back), Form.pairs_append_pairs, hnil, List.nil_append]
        rw [Form.pairs_append_pairs, hsingle, hpair, hrest, List.singleton_append]
  rw [← hpairs]
  cases lead using List.reverseRecOn with
  | nil => rw [List.nil_append, hnil, List.nil_append]
  | append_singleton lead c =>
      obtain rfl : c = '&' := hlead c List.getLast?_concat
      rw [List.append_assoc, List.singleton_append, Form.pairs_append_pairs,
        Form.pairs_append_pairs, hnil, List.append_nil]

/-- What follows a value when the text around it is tidied. -/
def tidyRest : List Char → List Char
  | [] => []
  | c :: cs => c :: tidyBack cs

/-- A value is tidied apart from what follows it. -/
theorem exists_tidyBack_append (value : List Char) {back : List Char}
    (hback : ∀ c, back.head? = some c → c ∈ ['&', '#']) :
    ∃ kept, kept ⊆ value ∧ tidyBack (value ++ back) = kept ++ tidyRest back := by
  cases back with
  | nil =>
      refine ⟨tidyBack value, tidyBack_subset value, ?_⟩
      show tidyBack (value ++ []) = tidyBack value ++ []
      rw [List.append_nil, List.append_nil]
  | cons c back =>
      have hsolid : IsSolid c := by
        have hc := hback c rfl
        simp only [List.mem_cons, List.not_mem_nil, or_false] at hc
        rcases hc with rfl | rfl <;> decide
      exact ⟨withoutBreaks value, fun c hc => List.mem_of_mem_filter hc,
        tidyBack_append hsolid value back⟩

theorem percentEncode_sign {c : Char} (hc : ∀ kind, isKept (keepsInQuery kind) c = true)
    (cs : List Char) : percentEncode (keepsInQuery kind) (c :: cs) =
      c :: percentEncode (keepsInQuery kind) cs := by
  have hsign : percentEncode (keepsInQuery kind) [c] = [c] :=
    percentEncode_of_forall (List.forall_mem_singleton.mpr (hc kind))
  rw [← List.singleton_append, percentEncode_append, hsign, List.singleton_append]

theorem isKept_ampersand (kind : SchemeKind) : isKept (keepsInQuery kind) '&' = true := by
  cases kind <;> decide

theorem isKept_equals (kind : SchemeKind) : isKept (keepsInQuery kind) '=' = true := by
  cases kind <;> decide

/-- The name of a token does not end early. -/
theorem SpellsToken.forall_encoded {name : List Char} (h : SpellsToken name) :
    ∀ c ∈ percentEncode (keepsInQuery kind) (withoutBreaks name), c ∉ ['&', '='] := by
  have hnot {mark : Char} (hmark : mark ∈ ['&', '=', '#']) (hpercent : mark ≠ '%')
      (hdigit : ∀ d, upperHexChar d ≠ mark) :
      mark ∉ percentEncode (keepsInQuery kind) (withoutBreaks name) :=
    not_mem_percentEncode (fun hmem => h.inner mark (List.mem_of_mem_filter hmem) hmark)
      hpercent hdigit
  intro c hc hmark
  simp only [List.mem_cons, List.not_mem_nil, or_false] at hmark
  rcases hmark with rfl | rfl
  · exact hnot (by decide) (by decide) (by decide) hc
  · exact hnot (by decide) (by decide) (by decide) hc

/-- The pairs in front of a token end in an ampersand, as they do in the text. -/
theorem getLast?_encoded {lead : List Char} (hlast : ∀ c, lead.getLast? = some c → c = '&')
    {c : Char} (hc : (percentEncode (keepsInQuery kind) (withoutBreaks lead)).getLast? = some c) :
    c = '&' := by
  cases lead using List.reverseRecOn with
  | nil => cases hc
  | append_singleton lead last =>
      obtain rfl : last = '&' := hlast last List.getLast?_concat
      have hbreaks : withoutBreaks ['&'] = ['&'] := rfl
      have hsign : percentEncode (keepsInQuery kind) ['&'] = ['&'] :=
        percentEncode_sign isKept_ampersand []
      rw [withoutBreaks_append, hbreaks, percentEncode_append, hsign, List.getLast?_concat] at hc
      exact (Option.some.inj hc).symm

/-- So do those behind it begin with one. -/
theorem head?_encoded {back : List Char} (hback : ∀ c, back.head? = some c → c ∈ ['&', '#'])
    {c : Char} (hc : (percentEncode (keepsInQuery kind)
      ((tidyRest back).takeWhile (· != '#'))).head? = some c) : c = '&' := by
  cases back with
  | nil => cases hc
  | cons first back =>
      have hfirst := hback first rfl
      simp only [List.mem_cons, List.not_mem_nil, or_false] at hfirst
      rcases hfirst with rfl | rfl
      · have hkept : (tidyRest ('&' :: back)).takeWhile (· != '#') =
            '&' :: (tidyBack back).takeWhile (· != '#') := rfl
        rw [hkept, percentEncode_sign isKept_ampersand] at hc
        exact (Option.some.inj hc).symm
      · cases hc

/-- The value of a token is a pair of its own, whatever it is, and changes nothing else. -/
theorem exists_withTail_token (u : Url) {lead name back : List Char} (hlead : '#' ∉ lead)
    (hlast : ∀ c, lead.getLast? = some c → c = '&') (hname : SpellsToken name)
    (hback : ∀ c, back.head? = some c → c ∈ ['&', '#']) :
    ∃ fragment earlier later, ∀ value : List Char, (∀ c ∈ value, c ∉ ['&', '#']) →
      ∃ query token,
        u.withTail ('?' :: tidyBack (lead ++ name ++ '=' :: (value ++ back))) =
            { u with query := some query, fragment } ∧
          Form.pairs query = earlier ++ ("token", token) :: later := by
  let encoded (cs : List Char) := percentEncode (keepsInQuery u.kind) cs
  let rest := tidyRest back
  refine ⟨readFragment (rest.dropWhile (· != '#')), Form.pairs (encoded (withoutBreaks lead)),
    Form.pairs (encoded (rest.takeWhile (· != '#'))), fun value hvalue => ?_⟩
  obtain ⟨kept, hkept, htidy⟩ := exists_tidyBack_append value hback
  refine ⟨encoded (withoutBreaks lead) ++ (encoded (withoutBreaks name) ++ '=' :: encoded kept ++
    encoded (rest.takeWhile (· != '#'))), Form.decode (encoded kept), ?_, ?_⟩
  · have hhash : ∀ c ∈ withoutBreaks lead ++ (withoutBreaks name ++ '=' :: kept),
        (c != '#') = true := by
      refine forall_bne_of_not_mem fun hc => ?_
      simp only [List.mem_append, List.mem_cons] at hc
      rcases hc with hc | hc | hc | hc
      · exact hlead (List.mem_of_mem_filter hc)
      · exact hname.inner '#' (List.mem_of_mem_filter hc) (by decide)
      · exact absurd hc (by decide)
      · exact hvalue '#' (hkept hc) (by decide)
    have htail : tidyBack (lead ++ name ++ '=' :: (value ++ back)) =
        withoutBreaks lead ++ (withoutBreaks name ++ '=' :: kept) ++ rest := by
      have hequals : IsSolid '=' := by decide
      rw [tidyBack_append hequals, htidy, withoutBreaks_append]
      simp [rest]
    rw [withTail_query, htail, List.takeWhile_append_of_pos hhash,
      List.dropWhile_append_of_pos hhash, percentEncode_append, percentEncode_append,
      percentEncode_append, percentEncode_sign isKept_equals, List.append_assoc]
  · have hvalued : '&' ∉ encoded kept :=
      not_mem_percentEncode (fun hmem => hvalue '&' (hkept hmem) (by decide)) (by decide)
        (by decide)
    rw [pairs_append_pair (fun c hc => getLast?_encoded hlast hc) hname.forall_encoded hvalued
      (fun c hc => head?_encoded hback hc)]
    exact congrArg (fun name => _ ++ (name, _) :: _) (hname.decoded u.kind)

/-! ## Reading both texts -/

/-- Where a secret takes the place of another one, both texts are read alike. -/
theorem Swaps.exists_read {cs ds : List Char} (h : Swaps cs ds) {u : Url}
    (hu : read (trim cs) = .ok u) : ∃ v, read (trim ds) = .ok v ∧ Twins u v := by
  cases h with
  | password hscheme hslashes huser hsecret hsecret' hrest =>
      rw [read_trim_password hscheme hslashes huser hsecret hrest] at hu
      rw [read_trim_password hscheme hslashes huser hsecret' hrest]
      obtain ⟨host, hhost, rfl⟩ := exists_of_map_eq_ok hu
      rw [hhost]
      exact ⟨_, rfl, rfl, rfl⟩
  | @token front lead name value value' back hfront hlead hlast hname hvalue hvalue' hback =>
      rw [read_trim_append hfront] at hu
      rw [read_trim_append hfront]
      obtain ⟨before, hbefore, rfl⟩ := exists_of_map_eq_ok hu
      obtain ⟨fragment, earlier, later, htoken⟩ :=
        exists_withTail_token before hlead hlast hname hback
      obtain ⟨query, token, htail, hpairs⟩ := htoken value hvalue
      obtain ⟨query', token', htail', hpairs'⟩ := htoken value' hvalue'
      rw [hbefore]
      refine ⟨before.withTail _, rfl, ?_, ?_⟩
      · rw [htail, htail']
      · rw [htail, htail']
        show (Form.pairs query').map concealed = (Form.pairs query).map concealed
        rw [hpairs, hpairs', List.map_append, List.map_append]
        rfl

theorem exists_read_of_swaps {cs ds : List Char} (h : Relation.ReflTransGen Swaps cs ds) {u : Url}
    (hu : read (trim cs) = .ok u) : ∃ v, read (trim ds) = .ok v ∧ Twins u v := by
  induction h with
  | refl => exact ⟨u, hu, twins_refl u⟩
  | tail _ hswaps ih =>
      obtain ⟨v, hv, htwins⟩ := ih
      obtain ⟨w, hw, htwins'⟩ := hswaps.exists_read hv
      exact ⟨w, hw, htwins.trans htwins'⟩

end

end Tributary.Url
