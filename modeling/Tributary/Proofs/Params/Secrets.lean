import Mathlib.Data.List.Forall2
import Tributary.Client.Connection
import Tributary.Proofs.Params.LastValues
import Tributary.Proofs.Url.Secrets

/-!
# Secrets are not shown

Two runs that differ in secrets only, be it in the tokens that a caller sets or in the password and
the tokens of a connection string, come to parameters that differ in their fixed tokens only. No
text that shows a builder, parameters, a token, a service or a connection tells the two apart.
-/

namespace Tributary

open Text Url

/-! ## Parameters that are shown alike -/

/-- What is shown of a source, if it is a fixed token. -/
def TokenSource.shown? : TokenSource → Option String
  | .fixed token => some token.shown
  | .supplied _ => none

/-- No text that shows parameters, or what is made from them, tells them apart. -/
structure Params.ShownAlike (p q : Params) : Prop where
  shown : p.shown = q.shown
  text : p.text = q.text
  token : p.tokens.shown? = q.tokens.shown?
  service : (Server.base p.server).map Service.baseShown =
    (Server.base q.server).map Service.baseShown
  connection (environment : Bool) : (Connection.connect p environment).map Connection.shown =
    (Connection.connect q environment).map Connection.shown
  closed (environment : Bool) :
    (Connection.connect p environment).map (fun k => k.close.shown) =
      (Connection.connect q environment).map fun k => k.close.shown

/-- Tokens are not shown. -/
theorem Params.shownAlike_withTokens (p : Params) {tokens : TokenSource}
    (h : p.tokens.shown? = tokens.shown?) : p.ShownAlike { p with tokens } where
  shown := rfl
  text := rfl
  token := h
  service := rfl
  connection environment := by
    unfold Connection.connect Connection.serviceOf
    cases Server.base p.server <;> rfl
  closed environment := by
    unfold Connection.connect Connection.serviceOf
    cases Server.base p.server <;> rfl

/-! ## Builders that differ in a token -/

/-- Two builders are the same but for their tokens, both of which are not empty. -/
structure Builder.Twins (b c : Builder) : Prop where
  same : c = { b with token := c.token }
  token : c.token = b.token ∨
    ∃ t t', t ≠ "" ∧ t' ≠ "" ∧ b.token = some t ∧ c.token = some t'

/-- Two calls are the same, or set tokens that are not empty. -/
inductive Setting.Twins : Setting → Setting → Prop
  | same (s : Setting) : Twins s s
  | token {t t' : String} (ht : t ≠ "") (ht' : t' ≠ "") : Twins (.token t) (.token t')

namespace Builder.Twins

variable {b c : Builder}

theorem refl (b : Builder) : Builder.Twins b b := ⟨rfl, .inl rfl⟩

theorem set (h : Builder.Twins b c) {s s' : Setting} (hs : Setting.Twins s s') :
    Builder.Twins (b.set s) (c.set s') := by
  obtain ⟨hsame, htoken⟩ := h
  cases hs with
  | token ht ht' =>
      refine ⟨?_, .inr ⟨_, _, ht, ht', rfl, rfl⟩⟩
      rw [hsame]
      rfl
  | same s =>
      rw [hsame]
      cases s with
      | token t => exact ⟨rfl, .inl rfl⟩
      | _ => exact ⟨rfl, htoken⟩

theorem setAll (h : Builder.Twins b c) {l l' : List Setting}
    (hl : List.Forall₂ Setting.Twins l l') : Builder.Twins (b.setAll l) (c.setAll l') := by
  induction hl generalizing b c with
  | nil => exact h
  | cons hs _ ih => exact ih (h.set hs)

theorem shown (h : Builder.Twins b c) : b.shown = c.shown := by
  obtain ⟨hsame, htoken⟩ := h
  rw [hsame]
  rcases htoken with heq | ⟨t, t', -, -, ht, ht'⟩
  · rw [heq]
  · unfold Builder.shown
    rw [ht, ht']
    rfl

theorem tokens_eq {t : String} (ht : t ≠ "") (h : b.token = some t) :
    b.tokens = .ok (.fixed ⟨t, ht⟩) := by
  unfold Builder.tokens FixedToken.of
  rw [h]
  dsimp only
  rw [dif_neg ht]
  rfl

/-- They are built alike, or fail alike. -/
theorem build (h : Builder.Twins b c) :
    (∃ e, b.build = .error e ∧ c.build = .error e) ∨
      ∃ p q, b.build = .ok p ∧ c.build = .ok q ∧ p.ShownAlike q := by
  obtain ⟨hsame, heq | ⟨t, t', ht, ht', htoken, htoken'⟩⟩ := h
  · rw [heq] at hsame
    obtain rfl : c = b := hsame
    cases c.build with
    | error e => exact .inl ⟨e, rfl, rfl⟩
    | ok p => exact .inr ⟨p, p, rfl, rfl, p.shownAlike_withTokens rfl⟩
  · have htokens := tokens_eq ht htoken
    have htokens' := tokens_eq ht' htoken'
    rw [htoken'] at hsame
    obtain ⟨server, token, provider, sessionId, hints, insecureTls, connectTimeout, pollInterval,
      handshakeTimeout, streamBuffer⟩ := b
    subst hsame
    unfold Builder.build
    rw [htokens, htokens']
    dsimp only
    cases Server.normalize (server.getD defaultServer) with
    | error e => exact .inl ⟨e, rfl, rfl⟩
    | ok address =>
        rw [ok_bind, ok_bind, ok_bind, ok_bind]
        -- Each check fails for both, or for neither.
        split
        next =>
          split
          next =>
            split
            next => exact .inr ⟨_, _, rfl, rfl, Params.shownAlike_withTokens _ rfl⟩
            next => exact .inl ⟨_, rfl, rfl⟩
          next => exact .inl ⟨_, rfl, rfl⟩
        next => exact .inl ⟨_, rfl, rfl⟩

end Builder.Twins

namespace ConnectionString

/-! ## Connection strings that differ in secrets -/

section

variable {s t : String} {u v : Url} {p q : Params}

theorem forall_isValid_of_settingsOf {ps : List (String × String)} {settings : List Setting}
    (h : settingsOf ps = .ok settings) : ∀ pair ∈ ps, IsValid pair := by
  induction ps generalizing settings with
  | nil => exact List.forall_mem_nil _
  | cons pair ps ih =>
      obtain ⟨setting, hsetting, h⟩ := of_bind_eq_ok h
      obtain ⟨settings', hsettings, -⟩ := of_bind_eq_ok h
      refine List.forall_mem_cons.mpr ⟨(isValid_iff pair).mpr ?_, ih hsettings⟩
      rw [hsetting]
      rfl

theorem exists_url_of_read (hp : read s = .ok p) : ∃ u, Url.read (trim s.toList) = .ok u := by
  obtain ⟨settings, hsettings, -⟩ := build_of_read hp
  obtain ⟨u, hu, -⟩ := of_bind_eq_ok hsettings
  exact ⟨u, of_mapError_eq_ok hu⟩

/-- A connection string that is accepted has a password that stands for a text, and valid pairs. -/
theorem made_of_read (hu : Url.read (trim s.toList) = .ok u) (hp : read s = .ok p) :
    ∃ l, settings s = .ok l ∧ Builder.setAll {} l = made u u.queryPairs := by
  have hspells : Spells s u u.queryPairs := ⟨u.query, u.fragment, hu, rfl⟩
  obtain ⟨l, hl, -⟩ := build_of_read hp
  have hsettings := settings_of_spells hspells
  rw [hl] at hsettings
  obtain ⟨fromPassword, hpassword, hrest⟩ := of_bind_eq_ok hsettings.symm
  obtain ⟨fromQuery, hquery, -⟩ := of_bind_eq_ok hrest
  have hreadable : HasReadablePassword u := by
    by_contra hnot
    obtain ⟨message, hmessage⟩ := passwordSettings_of_not_readable hnot
    rw [hmessage] at hpassword
    cases hpassword
  exact exists_settings hspells hreadable (forall_isValid_of_settingsOf hquery)

/-- All names but that of a token have the same values. -/
theorem values_concealed {name : String} (hname : name ≠ "token") (ps : List (String × String)) :
    values name (ps.map concealed) = values name ps := by
  unfold values
  rw [List.filterMap_map]
  refine congrArg (fun f => ps.filterMap f) (funext fun pair => ?_)
  show (if (concealed pair).1 = name then some (concealed pair).2 else none) = _
  unfold concealed
  by_cases htoken : pair.1 = "token"
  · have hother : ¬ pair.1 = name := fun h => hname (h.symm.trans htoken)
    rw [if_pos htoken, if_neg hother, if_neg hother]
  · rw [if_neg htoken]

theorem last?_of_concealed {ps qs : List (String × String)}
    (h : qs.map concealed = ps.map concealed) {name : String} (hname : name ≠ "token") :
    last? name qs = last? name ps := by
  unfold last?
  rw [← values_concealed hname, h, values_concealed hname]

/-- A token that a connection string is accepted with is not empty. -/
theorem exists_token_of_build {ps : List (String × String)} (h : (made u ps).build = .ok p) :
    ∃ t, t ≠ "" ∧ (made u ps).token = some t := by
  have htokens := (Builder.of_build_eq_ok h).2.1
  have hprovider : (made u ps).provider = none := rfl
  unfold Builder.tokens at htokens
  rw [hprovider] at htokens
  cases htoken : (made u ps).token with
  | none =>
      rw [htoken] at htokens
      cases htokens
  | some t =>
      refine ⟨t, ?_, rfl⟩
      rintro rfl
      rw [htoken] at htokens
      cases htokens

theorem twins_made (h : Url.Twins u v) (hp : (made u u.queryPairs).build = .ok p)
    (hq : (made v v.queryPairs).build = .ok q) :
    Builder.Twins (made u u.queryPairs) (made v v.queryPairs) where
  same := by
    have hbare : v.bare = u.bare := by
      rw [h.same]
      rfl
    have hlast (name : String) (hname : name ≠ "token") := last?_of_concealed h.pairs hname
    unfold made
    rw [hbare, hlast "sessionID" (by decide), hlast "displayHints" (by decide),
      hlast "insecureTLS" (by decide), hlast "timeout" (by decide),
      hlast "pollInterval" (by decide)]
  token := by
    obtain ⟨t, ht, htoken⟩ := exists_token_of_build hp
    obtain ⟨t', ht', htoken'⟩ := exists_token_of_build hq
    exact .inr ⟨t, t', ht, ht', htoken, htoken'⟩

/-- What connection strings set, and what they come to, is shown alike. -/
structure ShownAlike (s t : String) : Prop where
  builder : ∃ l l', settings s = .ok l ∧ settings t = .ok l' ∧
    (Builder.setAll {} l).shown = (Builder.setAll {} l').shown
  params : ∃ p q, read s = .ok p ∧ read t = .ok q ∧ p.ShownAlike q

theorem shownAlike_of_twins (hu : Url.read (trim s.toList) = .ok u)
    (hv : Url.read (trim t.toList) = .ok v) (h : Url.Twins u v) (hp : read s = .ok p)
    (hq : read t = .ok q) : ShownAlike s t := by
  obtain ⟨l, hl, hmade⟩ := made_of_read hu hp
  obtain ⟨l', hl', hmade'⟩ := made_of_read hv hq
  have hbuild : (made u u.queryPairs).build = .ok p := by
    unfold read at hp
    rw [hl, ok_bind, hmade] at hp
    exact hp
  have hbuild' : (made v v.queryPairs).build = .ok q := by
    unfold read at hq
    rw [hl', ok_bind, hmade'] at hq
    exact hq
  have htwins := twins_made h hbuild hbuild'
  refine ⟨⟨l, l', hl, hl', ?_⟩, p, q, hp, hq, ?_⟩
  · rw [hmade, hmade', htwins.shown]
  · rcases htwins.build with ⟨e, he, -⟩ | ⟨p', q', hp', hq', halike⟩
    · rw [hbuild] at he
      cases he
    · obtain rfl := Except.ok.inj (hbuild.symm.trans hp')
      obtain rfl := Except.ok.inj (hbuild'.symm.trans hq')
      exact halike

end

end ConnectionString

/-- No secret is shown. Calls that are the same but for the tokens that they set come to builders
that are shown alike, and fail alike or come to parameters that are shown alike, with all that is
made from them. So do connection strings that are accepted and read as URLs that are the same but
for their passwords and tokens, as they are where these take the place of each other in a text. -/
theorem secrets_are_not_shown :
    (∀ l l' : List Setting, List.Forall₂ Setting.Twins l l' →
      (Builder.setAll {} l).shown = (Builder.setAll {} l').shown ∧
        ((∃ e, (Builder.setAll {} l).build = .error e ∧ (Builder.setAll {} l').build = .error e) ∨
          ∃ p q, (Builder.setAll {} l).build = .ok p ∧ (Builder.setAll {} l').build = .ok q ∧
            p.ShownAlike q)) ∧
      ∀ s t p q, ConnectionString.read s = .ok p → ConnectionString.read t = .ok q →
        (∀ u v, Url.read (trim s.toList) = .ok u → Url.read (trim t.toList) = .ok v →
          Url.Twins u v → ConnectionString.ShownAlike s t) ∧
        (Relation.ReflTransGen Swaps s.toList t.toList → ConnectionString.ShownAlike s t) := by
  refine ⟨fun l l' hl => ?_, fun s t p q hp hq => ⟨fun u v hu hv h => ?_, fun h => ?_⟩⟩
  · have htwins := (Builder.Twins.refl {}).setAll hl
    exact ⟨htwins.shown, htwins.build⟩
  · exact ConnectionString.shownAlike_of_twins hu hv h hp hq
  · obtain ⟨u, hu⟩ := ConnectionString.exists_url_of_read hp
    obtain ⟨v, hv, htwins⟩ := exists_read_of_swaps h hu
    exact ConnectionString.shownAlike_of_twins hu hv htwins hp hq

/-- A token in place of another one, and a connection string whose password and token are exchanged
one after the other. -/
theorem secrets_of_two_runs :
    (∃ p q, (Builder.setAll {} [.token "a", .server "http://h"]).build = .ok p ∧
        (Builder.setAll {} [.token "b", .server "http://h"]).build = .ok q ∧ p.ShownAlike q) ∧
      ConnectionString.ShownAlike "https://_:hunter2@h/v2?token=a&timeout=5"
        "https://_:p%40ss@h/v2?token=b%26c&timeout=5" := by
  obtain ⟨hcalls, hstrings⟩ := secrets_are_not_shown
  constructor
  · have hserver : (Builder.setAll {} [.token "a", .server "http://h"]).build.toOption.map
        (·.server) = some "http://h" := by decide +kernel
    obtain ⟨p, hp, -⟩ := exists_of_toOption_map hserver
    have htwins : List.Forall₂ Setting.Twins [.token "a", .server "http://h"]
        [.token "b", .server "http://h"] :=
      .cons (.token (by decide) (by decide)) (.cons (.same _) .nil)
    rcases (hcalls _ _ htwins).2 with ⟨e, he, -⟩ | halike
    · rw [hp] at he
      cases he
    · exact halike
  · have hserver : (ConnectionString.read "https://_:hunter2@h/v2?token=a&timeout=5").toOption.map
        (·.server) = some "https://h/v2" := by decide +kernel
    have hserver' :
        (ConnectionString.read "https://_:p%40ss@h/v2?token=b%26c&timeout=5").toOption.map
          (·.server) = some "https://h/v2" := by decide +kernel
    obtain ⟨p, hp, -⟩ := exists_of_toOption_map hserver
    obtain ⟨q, hq, -⟩ := exists_of_toOption_map hserver'
    have hfirst : "https://_:hunter2@h/v2?token=a&timeout=5".toList =
        "https".toList ++ ':' :: ("//".toList ++ ("_".toList ++ ':' :: "hunter2".toList)) ++
          '@' :: "h/v2?token=a&timeout=5".toList := by decide
    have hbetween : "https".toList ++
        ':' :: ("//".toList ++ ("_".toList ++ ':' :: "p%40ss".toList)) ++
          '@' :: "h/v2?token=a&timeout=5".toList =
        "https://_:p%40ss@h/v2".toList ++
          '?' :: ([] ++ "token".toList ++ '=' :: ("a".toList ++ "&timeout=5".toList)) := by decide
    have hlast : "https://_:p%40ss@h/v2?token=b%26c&timeout=5".toList =
        "https://_:p%40ss@h/v2".toList ++
          '?' :: ([] ++ "token".toList ++ '=' :: ("b%26c".toList ++ "&timeout=5".toList)) := by
      decide
    have hscheme : SpellsScheme "https".toList "https" := ⟨by decide, by decide⟩
    have htoken : SpellsToken "token".toList :=
      ⟨forall_mem_of_all (by decide), fun kind => by cases kind <;> decide⟩
    refine (hstrings _ _ p q hp hq).2 ?_
    rw [hfirst, hlast]
    have hslashes : ∀ c ∈ "//".toList, c ∈ ['/', '\\', '\t', '\n', '\r'] :=
      forall_mem_of_all (by decide)
    have huser : ∀ c ∈ "_".toList, c ∉ [':', '/', '\\', '?', '#'] := forall_mem_of_all (by decide)
    have hsecret : ∀ c ∈ "hunter2".toList, c ∉ ['/', '\\', '?', '#'] :=
      forall_mem_of_all (by decide)
    have hsecret' : ∀ c ∈ "p%40ss".toList, c ∉ ['/', '\\', '?', '#'] :=
      forall_mem_of_all (by decide)
    have hpassword := Swaps.password hscheme hslashes huser hsecret hsecret'
      (by decide : '@' ∉ "h/v2?token=a&timeout=5".toList.takeWhile _)
    have hback : ∀ c, "&timeout=5".toList.head? = some c → c ∈ ['&', '#'] := by
      rintro _ ⟨⟩
      decide
    refine .tail (.single hpassword) ?_
    rw [hbetween]
    exact .token (forall_mem_of_all (by decide)) (by decide) nofun htoken
      (forall_mem_of_all (by decide)) (forall_mem_of_all (by decide)) hback

end Tributary
