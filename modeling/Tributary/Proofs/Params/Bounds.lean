import Mathlib.Order.WellFounded
import Tributary.Proofs.Params.Normalization

/-!
# Bounds of parameters

Parameters are built from settings in any order. Of each kind the last one counts, and what counts
is checked in a fixed order: the server, the token, the connect timeout, the poll interval and the
stream buffer. The first check that fails is the one that is reported; parameters are built exactly
if all of them pass.

A connect timeout is checked by its whole seconds, so it may pass 300 seconds by less than one, and
that is the only way past a bound. A connection string gives whole seconds only and keeps it.
-/

namespace Tributary

open Text Url

/-! ## Durations -/

namespace Duration

theorem pos_iff {d : Duration} : 0 < d ↔ d ≠ 0 := by
  show 0 < d.nanos ↔ _
  constructor
  · rintro h rfl
    exact absurd h (by decide)
  · intro h
    by_contra hzero
    apply h
    cases d
    rw [Nat.not_lt, Nat.le_zero] at hzero
    cases hzero
    rfl

theorem not_le {d e : Duration} : ¬ d ≤ e ↔ e < d :=
  Nat.not_le

theorem ofSeconds_lt_iff {m n : Nat} : ofSeconds m < ofSeconds n ↔ m < n := by
  show 1000000000 * m < 1000000000 * n ↔ m < n
  omega

end Duration

/-! ## The last settings -/

/-- A kind of setting: what settings of this kind set, and the field of the builder that holds what
was set last. -/
structure Setting.Kind (α : Type) where
  held : Builder → Option α
  value? : Setting → Option α
  held_empty : held {} = none
  held_set : ∀ b s, held (b.set s) = (value? s).or (held b)

namespace Setting.Kind

variable {α : Type}

/-- The last value that settings set of one kind. -/
def last? (kind : Kind α) (settings : List Setting) : Option α :=
  (settings.filterMap kind.value?).getLast?

/-- After settings a field holds the last value, whatever other settings came in between. -/
theorem held_setAll (kind : Kind α) (settings : List Setting) :
    kind.held (Builder.setAll {} settings) = kind.last? settings := by
  induction settings using List.reverseRecOn with
  | nil => exact kind.held_empty
  | append_singleton settings s ih =>
      have hconcat : Builder.setAll {} (settings ++ [s]) = (Builder.setAll {} settings).set s := by
        unfold Builder.setAll
        rw [List.foldl_concat]
      rw [hconcat, kind.held_set, ih]
      unfold last?
      rw [List.filterMap_append]
      cases hvalue : kind.value? s with
      | none => simp [hvalue]
      | some a => simp [hvalue]

/-- What holds of the value that counts, and not of its default, holds of the last value. -/
theorem getD_held_iff (kind : Kind α) (settings : List Setting) {P : α → Prop} {a : α}
    (ha : ¬ P a) : P ((kind.held (Builder.setAll {} settings)).getD a) ↔
      ∃ b, kind.last? settings = some b ∧ P b := by
  rw [kind.held_setAll]
  cases kind.last? settings with
  | none => simp [ha]
  | some b => simp

/-- The server. -/
def server : Kind String where
  held := Builder.server
  value?
    | .server address => some address
    | _ => none
  held_empty := rfl
  held_set := by
    intro b s
    cases s <;> rfl

/-- The fixed token. -/
def token : Kind String where
  held := Builder.token
  value?
    | .token secret => some secret
    | _ => none
  held_empty := rfl
  held_set := by
    intro b s
    cases s <;> rfl

/-- The provider of tokens. -/
def provider : Kind (List (Except Error String)) where
  held := Builder.provider
  value?
    | .provider source => some source
    | _ => none
  held_empty := rfl
  held_set := by
    intro b s
    cases s <;> rfl

/-- The connect timeout. -/
def connectTimeout : Kind Duration where
  held := Builder.connectTimeout
  value?
    | .connectTimeout d => some d
    | _ => none
  held_empty := rfl
  held_set := by
    intro b s
    cases s <;> rfl

/-- The poll interval. -/
def pollInterval : Kind Duration where
  held := Builder.pollInterval
  value?
    | .pollInterval d => some d
    | _ => none
  held_empty := rfl
  held_set := by
    intro b s
    cases s <;> rfl

/-- The capacity of the stream buffer. -/
def streamBuffer : Kind Nat where
  held := Builder.streamBuffer
  value?
    | .streamBuffer capacity => some capacity
    | _ => none
  held_empty := rfl
  held_set := by
    intro b s
    cases s <;> rfl

end Setting.Kind

/-! ## Checks -/

/-- Whether a text is the address of a server: a URL of the web with a host. -/
def Server.IsServer (text : String) : Prop :=
  ∃ u, Url.ofString text = .ok u ∧ (u.scheme = "http" ∨ u.scheme = "https") ∧ u.hasHost = true

/-- What settings are checked for, in the order of the checks. -/
inductive Check where
  | server
  | token
  | connectTimeout
  | pollInterval
  | streamBuffer
  deriving DecidableEq, Repr

namespace Check

open Setting (Kind)

/-- The place of a check in the order. -/
def place : Check → Nat
  | server => 0
  | token => 1
  | connectTimeout => 2
  | pollInterval => 3
  | streamBuffer => 4

/-- The longest timeout of 300 whole seconds. -/
def longest : Duration := ⟨300999999999⟩

theorem le_longest_iff {d : Duration} : d ≤ longest ↔ d.seconds ≤ 300 := by
  show d.nanos ≤ 300999999999 ↔ d.nanos / 1000000000 ≤ 300
  omega

theorem le_longest_iff_lt {d : Duration} : d ≤ longest ↔ d < .ofSeconds 301 := by
  show d.nanos ≤ 300999999999 ↔ d.nanos < 1000000000 * 301
  omega

/-- Whether the last values that are set violate the bound of a check, where a connect timeout may
not be longer than some time. What is not set has a value within its bound, but for the token. -/
def Fails (most : Duration) (settings : List Setting) : Check → Prop
  | server => ¬ Server.IsServer ((Kind.server.last? settings).getD Builder.defaultServer)
  | token => Kind.token.last? settings = some "" ∨
    (Kind.token.last? settings = none ∧ Kind.provider.last? settings = none)
  | connectTimeout => ∃ d, Kind.connectTimeout.last? settings = some d ∧ most < d
  | pollInterval => Kind.pollInterval.last? settings = some 0
  | streamBuffer => Kind.streamBuffer.last? settings = some 0

/-- Whether an error reports the failure of a check. -/
def Reports (e : ConnectionError) : Check → Prop
  | server => ∃ message, e = .invalidParameter "server" message
  | token => e = .missingToken
  | connectTimeout =>
    e = .invalidParameter "connect_timeout" "Connect timeout cannot exceed 300 seconds"
  | pollInterval => e = .invalidParameter "poll_interval" "Poll interval must be greater than 0"
  | streamBuffer => e = .invalidParameter "stream_buffer" "Stream buffer must be greater than 0"

end Check

/-! ## Building -/

namespace Server

variable {text : String}

theorem normalize_of_isServer (h : IsServer text) : ∃ address, normalize text = .ok address := by
  obtain ⟨u, hread, hscheme, hhost⟩ := h
  obtain ⟨segments, hlegible, -⟩ := isLegible_of_read hread (kind_of_web hscheme)
  refine ⟨String.ofList (trimSlashes (u.addressed segments).text), ?_⟩
  unfold normalize readUrl
  rw [hread]
  exact ofUrl_of_isLegible hlegible hscheme

theorem normalize_of_not_isServer (h : ¬ IsServer text) :
    ∃ message, normalize text = .error (.invalidParameter "server" message) := by
  unfold normalize readUrl
  cases hread : Url.ofString text with
  | error e => exact ⟨_, rfl⟩
  | ok u =>
      show ∃ message, ofUrl u = _
      unfold ofUrl
      split
      next => exact ⟨_, rfl⟩
      next hweb =>
        rw [not_and_or, not_not, not_not] at hweb
        split
        next hhost => exact absurd ⟨u, hread, hweb, hhost⟩ h
        next => exact ⟨_, rfl⟩

theorem Settled.isServer {u : Url} (h : Settled text u) : IsServer text :=
  ⟨u, h.address.read, h.address.scheme, h.address.hasHost⟩

end Server

namespace Builder

section

variable {b : Builder} {server : String} {tokens : TokenSource}

theorem build_of_not_isServer (h : ¬ Server.IsServer (b.server.getD defaultServer)) :
    ∃ message, b.build = .error (.invalidParameter "server" message) := by
  obtain ⟨message, hserver⟩ := Server.normalize_of_not_isServer h
  refine ⟨message, ?_⟩
  unfold build
  rw [hserver]
  rfl

theorem build_of_tokens_error
    (hserver : Server.normalize (b.server.getD defaultServer) = .ok server) {e : ConnectionError}
    (htokens : b.tokens = .error e) : b.build = .error e := by
  unfold build
  rw [hserver, htokens]
  rfl

variable (hserver : Server.normalize (b.server.getD defaultServer) = .ok server)
  (htokens : b.tokens = .ok tokens)

include hserver htokens

theorem build_of_connectTimeout (h : ¬ (b.connectTimeout.getD (.ofSeconds 30)).seconds ≤ 300) :
    b.build = .error
      (.invalidParameter "connect_timeout" "Connect timeout cannot exceed 300 seconds") := by
  unfold build
  rw [hserver, htokens]
  exact dif_neg h

variable (hconnect : (b.connectTimeout.getD (.ofSeconds 30)).seconds ≤ 300)

include hconnect

theorem build_of_pollInterval (h : ¬ 0 < b.pollInterval.getD (.ofSeconds 1)) :
    b.build = .error
      (.invalidParameter "poll_interval" "Poll interval must be greater than 0") := by
  unfold build
  rw [hserver, htokens]
  exact (dif_pos hconnect).trans (dif_neg h)

variable (hpoll : 0 < b.pollInterval.getD (.ofSeconds 1))

include hpoll

theorem build_of_streamBuffer (h : ¬ 0 < b.streamBuffer.getD 30) :
    b.build = .error
      (.invalidParameter "stream_buffer" "Stream buffer must be greater than 0") := by
  unfold build
  rw [hserver, htokens]
  exact (dif_pos hconnect).trans ((dif_pos hpoll).trans (dif_neg h))

theorem exists_build (h : 0 < b.streamBuffer.getD 30) : ∃ p, b.build = .ok p := by
  unfold build
  rw [hserver, htokens]
  exact ⟨_, (dif_pos hconnect).trans ((dif_pos hpoll).trans (dif_pos h))⟩

end

end Builder

/-! ## Which checks fail -/

namespace Check

open Setting (Kind)

variable {most : Duration} {settings : List Setting}

theorem fails_server_iff : server.Fails most settings ↔
    ¬ Server.IsServer ((Builder.setAll {} settings).server.getD Builder.defaultServer) := by
  have hlast : (Builder.setAll {} settings).server = Kind.server.last? settings :=
    Kind.server.held_setAll settings
  rw [hlast]
  rfl

theorem tokens_of_fails (h : token.Fails most settings) :
    (Builder.setAll {} settings).tokens = .error .missingToken := by
  have htoken : (Builder.setAll {} settings).token = Kind.token.last? settings :=
    Kind.token.held_setAll settings
  have hprovider : (Builder.setAll {} settings).provider = Kind.provider.last? settings :=
    Kind.provider.held_setAll settings
  unfold Builder.tokens
  rw [htoken, hprovider]
  rcases h with hempty | ⟨hnone, hnone'⟩
  · rw [hempty]
    rfl
  · rw [hnone, hnone']

theorem tokens_of_not_fails (h : ¬ token.Fails most settings) :
    (∃ t, ∃ hne : t ≠ "", Kind.token.last? settings = some t ∧
        (Builder.setAll {} settings).tokens = .ok (.fixed ⟨t, hne⟩)) ∨
      ∃ source, Kind.token.last? settings = none ∧ Kind.provider.last? settings = some source ∧
        (Builder.setAll {} settings).tokens = .ok (.supplied source) := by
  have htoken : (Builder.setAll {} settings).token = Kind.token.last? settings :=
    Kind.token.held_setAll settings
  have hprovider : (Builder.setAll {} settings).provider = Kind.provider.last? settings :=
    Kind.provider.held_setAll settings
  unfold Fails at h
  rw [not_or, not_and] at h
  unfold Builder.tokens
  rw [htoken, hprovider]
  cases hlast : Kind.token.last? settings with
  | some t =>
      have hne : t ≠ "" := by
        rintro rfl
        exact h.1 hlast
      refine .inl ⟨t, hne, rfl, ?_⟩
      unfold FixedToken.of
      dsimp only
      rw [dif_neg hne]
      rfl
  | none =>
      obtain ⟨source, hsource⟩ := Option.ne_none_iff_exists'.mp (h.2 hlast)
      refine .inr ⟨source, rfl, hsource, ?_⟩
      rw [hsource]

theorem fails_connectTimeout_iff : connectTimeout.Fails longest settings ↔
    ¬ ((Builder.setAll {} settings).connectTimeout.getD (.ofSeconds 30)).seconds ≤ 300 := by
  have hdefault : ¬ longest < Duration.ofSeconds 30 := by decide
  rw [← le_longest_iff, Duration.not_le]
  exact (Kind.connectTimeout.getD_held_iff settings hdefault).symm

theorem fails_pollInterval_iff : pollInterval.Fails most settings ↔
    ¬ 0 < (Builder.setAll {} settings).pollInterval.getD (.ofSeconds 1) := by
  have hdefault : Duration.ofSeconds 1 ≠ 0 := by decide
  have hlast := Kind.pollInterval.getD_held_iff settings (P := (· = 0)) hdefault
  rw [exists_eq_right] at hlast
  rw [Duration.pos_iff, not_not]
  exact hlast.symm

theorem fails_streamBuffer_iff : streamBuffer.Fails most settings ↔
    ¬ 0 < (Builder.setAll {} settings).streamBuffer.getD 30 := by
  have hdefault : 30 ≠ 0 := by decide
  have hlast := Kind.streamBuffer.getD_held_iff settings (P := (· = 0)) hdefault
  rw [exists_eq_right] at hlast
  rw [Nat.pos_iff_ne_zero, not_not]
  exact hlast.symm

theorem exists_normalize (h : ¬ server.Fails most settings) : ∃ address,
    Server.normalize ((Builder.setAll {} settings).server.getD Builder.defaultServer) =
      .ok address := by
  rw [fails_server_iff, not_not] at h
  exact Server.normalize_of_isServer h

theorem exists_tokens (h : ¬ token.Fails most settings) :
    ∃ tokens, (Builder.setAll {} settings).tokens = .ok tokens := by
  rcases tokens_of_not_fails h with ⟨t, hne, -, htokens⟩ | ⟨source, -, -, htokens⟩
  · exact ⟨_, htokens⟩
  · exact ⟨_, htokens⟩

/-- The first check that fails is the one that is reported. -/
theorem reports_of_first {check : Check} (h : check.Fails longest settings)
    (hfirst : ∀ earlier : Check, earlier.place < check.place → ¬ earlier.Fails longest settings) :
    ∃ e, (Builder.setAll {} settings).build = .error e ∧ check.Reports e := by
  cases check with
  | server =>
      obtain ⟨message, hbuild⟩ := Builder.build_of_not_isServer (fails_server_iff.mp h)
      exact ⟨_, hbuild, message, rfl⟩
  | token =>
      obtain ⟨address, hserver⟩ := exists_normalize (hfirst server (by decide))
      exact ⟨_, Builder.build_of_tokens_error hserver (tokens_of_fails h), rfl⟩
  | connectTimeout =>
      obtain ⟨address, hserver⟩ := exists_normalize (hfirst server (by decide))
      obtain ⟨tokens, htokens⟩ := exists_tokens (hfirst token (by decide))
      have hconnect := fails_connectTimeout_iff.mp h
      exact ⟨_, Builder.build_of_connectTimeout hserver htokens hconnect, rfl⟩
  | pollInterval =>
      obtain ⟨address, hserver⟩ := exists_normalize (hfirst server (by decide))
      obtain ⟨tokens, htokens⟩ := exists_tokens (hfirst token (by decide))
      have hconnect := hfirst connectTimeout (by decide)
      rw [fails_connectTimeout_iff, not_not] at hconnect
      have hpoll := fails_pollInterval_iff.mp h
      exact ⟨_, Builder.build_of_pollInterval hserver htokens hconnect hpoll, rfl⟩
  | streamBuffer =>
      obtain ⟨address, hserver⟩ := exists_normalize (hfirst server (by decide))
      obtain ⟨tokens, htokens⟩ := exists_tokens (hfirst token (by decide))
      have hconnect := hfirst connectTimeout (by decide)
      rw [fails_connectTimeout_iff, not_not] at hconnect
      have hpoll := hfirst pollInterval (by decide)
      rw [fails_pollInterval_iff, not_not] at hpoll
      have hbuffer := fails_streamBuffer_iff.mp h
      exact ⟨_, Builder.build_of_streamBuffer hserver htokens hconnect hpoll hbuffer, rfl⟩

/-- If all checks pass, parameters are built. -/
theorem exists_build (h : ∀ check : Check, ¬ check.Fails longest settings) :
    ∃ p, (Builder.setAll {} settings).build = .ok p := by
  obtain ⟨address, hserver⟩ := exists_normalize (h server)
  obtain ⟨tokens, htokens⟩ := exists_tokens (h token)
  have hconnect := h connectTimeout
  rw [fails_connectTimeout_iff, not_not] at hconnect
  have hpoll := h pollInterval
  rw [fails_pollInterval_iff, not_not] at hpoll
  have hbuffer := h streamBuffer
  rw [fails_streamBuffer_iff, not_not] at hbuffer
  exact Builder.exists_build hserver htokens hconnect hpoll hbuffer

/-- Of the checks that fail there is a first one. -/
theorem exists_first {check : Check} (h : check.Fails longest settings) : ∃ first : Check,
    first.Fails longest settings ∧
      ∀ earlier : Check, earlier.place < first.place → ¬ earlier.Fails longest settings := by
  obtain ⟨first, hfirst, hleast⟩ :=
    (measure place).wf.has_min {c | c.Fails longest settings} ⟨check, h⟩
  exact ⟨first, hfirst, fun earlier hlt hfails => hleast earlier hfails hlt⟩

theorem exists_build_iff : (∃ p, (Builder.setAll {} settings).build = .ok p) ↔
    ∀ check : Check, ¬ check.Fails longest settings := by
  constructor
  · rintro ⟨p, hp⟩ check hfails
    obtain ⟨first, hfirst, hleast⟩ := exists_first hfails
    obtain ⟨e, he, -⟩ := reports_of_first hfirst hleast
    rw [hp] at he
    cases he
  · exact exists_build

end Check

/-! ## Parameters within bounds -/

open Setting (Kind)

/-- Parameters hold the last values of settings and keep their bounds. -/
structure Params.Keeps (most : Duration) (settings : List Setting) (p : Params) : Prop where
  server : Server.normalize ((Kind.server.last? settings).getD Builder.defaultServer) = .ok p.server
  isServer : Server.IsServer p.server
  tokens : (∃ t, ∃ hne : t ≠ "", Kind.token.last? settings = some t ∧
      p.tokens = .fixed ⟨t, hne⟩) ∨
    ∃ source, Kind.token.last? settings = none ∧ Kind.provider.last? settings = some source ∧
      p.tokens = .supplied source
  connectTimeout : p.connectTimeout = (Kind.connectTimeout.last? settings).getD (.ofSeconds 30)
  connectTimeout_le : p.connectTimeout ≤ most
  pollInterval : p.pollInterval = (Kind.pollInterval.last? settings).getD (.ofSeconds 1)
  pollInterval_pos : 0 < p.pollInterval
  streamBuffer : p.streamBuffer = (Kind.streamBuffer.last? settings).getD 30
  streamBuffer_pos : 0 < p.streamBuffer

theorem Params.keeps_of_build {settings : List Setting} {p : Params}
    (h : (Builder.setAll {} settings).build = .ok p) : p.Keeps Check.longest settings := by
  obtain ⟨hserver, htokens, hconnect, hpoll, hbuffer⟩ := Builder.of_build_eq_ok h
  have hpass := Check.exists_build_iff.mp ⟨p, h⟩
  obtain ⟨u, hsettled⟩ := Server.settled_of_normalize hserver
  constructor
  case server =>
    rw [← Kind.server.held_setAll]
    exact hserver
  case isServer => exact hsettled.isServer
  case tokens =>
    rcases Check.tokens_of_not_fails (hpass .token) with
      ⟨t, hne, hlast, ht⟩ | ⟨source, hnone, hlast, ht⟩
    · exact .inl ⟨t, hne, hlast, Except.ok.inj (htokens.symm.trans ht)⟩
    · exact .inr ⟨source, hnone, hlast, Except.ok.inj (htokens.symm.trans ht)⟩
  case connectTimeout =>
    rw [← Kind.connectTimeout.held_setAll]
    exact hconnect
  case connectTimeout_le => exact Check.le_longest_iff.mpr p.connectTimeout_le
  case pollInterval =>
    rw [← Kind.pollInterval.held_setAll]
    exact hpoll
  case pollInterval_pos => exact p.pollInterval_pos
  case streamBuffer =>
    rw [← Kind.streamBuffer.held_setAll]
    exact hbuffer
  case streamBuffer_pos => exact p.streamBuffer_pos

/-! ## What comes of settings -/

namespace Check

variable {most : Duration} {settings : List Setting} {result : Except ConnectionError Params}

/-- What comes of settings, where a connect timeout may not be longer than some time: if a check
fails, the first one that does is reported; if none does, there are parameters, which hold the last
values and keep their bounds. -/
structure Governs (most : Duration) (settings : List Setting)
    (result : Except ConnectionError Params) : Prop where
  reports (check : Check) (h : check.Fails most settings)
    (hfirst : ∀ earlier : Check, earlier.place < check.place → ¬ earlier.Fails most settings) :
    ∃ e, result = .error e ∧ check.Reports e
  succeeds_iff : (∃ p, result = .ok p) ↔ ∀ check : Check, ¬ check.Fails most settings
  keeps (p : Params) (h : result = .ok p) : p.Keeps most settings

theorem governs_build (settings : List Setting) :
    Governs longest settings (Builder.setAll {} settings).build where
  reports := fun _ => reports_of_first
  succeeds_iff := exists_build_iff
  keeps := fun _ => Params.keeps_of_build

/-- A connect timeout of more than 300 seconds passes its check, and no earlier check fails. -/
def Slips (settings : List Setting) : Prop :=
  (∃ d, Kind.connectTimeout.last? settings = some d ∧ .ofSeconds 300 < d ∧ d < .ofSeconds 301) ∧
    ¬ server.Fails longest settings ∧ ¬ token.Fails longest settings

/-- Where the checks do not tell two bounds of the connect timeout apart, either one governs. -/
theorem Governs.of_same {most' : Duration} (h : Governs most settings result)
    (hsame : ∀ check : Check, check.Fails most' settings ↔ check.Fails most settings)
    (hdefault : .ofSeconds 30 ≤ most') : Governs most' settings result where
  reports check hfails hfirst := by
    refine h.reports check ((hsame check).mp hfails) fun earlier hlt hearlier => ?_
    exact hfirst earlier hlt ((hsame earlier).mpr hearlier)
  succeeds_iff := h.succeeds_iff.trans (forall_congr' fun check => not_congr (hsame check).symm)
  keeps p hp := by
    have hkeeps := h.keeps p hp
    refine { hkeeps with connectTimeout_le := ?_ }
    have hpasses : ¬ connectTimeout.Fails most' settings := by
      rw [hsame]
      exact h.succeeds_iff.mp ⟨p, hp⟩ connectTimeout
    rw [hkeeps.connectTimeout]
    cases hlast : Kind.connectTimeout.last? settings with
    | none => exact hdefault
    | some d =>
        by_contra hlonger
        exact hpasses ⟨d, hlast, Duration.not_le.mp hlonger⟩

/-- The bound of a connect timeout matters for its own check only. -/
theorem fails_iff_of_ne {check : Check} (h : check ≠ connectTimeout) (most most' : Duration) :
    check.Fails most settings ↔ check.Fails most' settings := by
  cases check with
  | connectTimeout => exact absurd rfl h
  | _ => exact Iff.rfl

theorem ne_of_place_lt {check : Check} (h : check.place < connectTimeout.place) :
    check ≠ connectTimeout := by
  rintro rfl
  exact Nat.lt_irrefl _ h

/-- If the server or the token fails its check, the first check that fails is one of these. -/
theorem place_lt_of_first {check : Check}
    (hearly : server.Fails most settings ∨ token.Fails most settings)
    (hfirst : ∀ earlier : Check, earlier.place < check.place → ¬ earlier.Fails most settings) :
    check.place < connectTimeout.place := by
  by_contra hlate
  rw [Nat.not_lt] at hlate
  rcases hearly with hserver | htoken
  · exact hfirst server (Nat.lt_of_lt_of_le (by decide) hlate) hserver
  · exact hfirst token (Nat.lt_of_lt_of_le (by decide) hlate) htoken

/-- A failure of the server or the token is reported before any bound of a timeout matters. -/
theorem Governs.of_early {most' : Duration} (h : Governs most settings result)
    (hearly : server.Fails most settings ∨ token.Fails most settings) :
    Governs most' settings result := by
  have hfault : ¬ ∃ p, result = .ok p := by
    rw [h.succeeds_iff]
    exact fun hpass => hearly.elim (hpass server) (hpass token)
  have hearly' : server.Fails most' settings ∨ token.Fails most' settings := hearly
  refine ⟨fun check hfails hfirst => ?_, iff_of_false hfault fun hpass => ?_, fun p hp => ?_⟩
  · have hlt := place_lt_of_first hearly' hfirst
    refine h.reports check ((fails_iff_of_ne (ne_of_place_lt hlt) _ _).mp hfails) ?_
    intro earlier hbefore hearlier
    have hne := ne_of_place_lt (hbefore.trans hlt)
    exact hfirst earlier hbefore ((fails_iff_of_ne hne _ _).mp hearlier)
  · exact hearly'.elim (hpass server) (hpass token)
  · exact absurd ⟨p, hp⟩ hfault

theorem governs_of_not_slips (h : ¬ Slips settings) :
    Governs (.ofSeconds 300) settings (Builder.setAll {} settings).build := by
  have hbuild := governs_build settings
  by_cases hearly : server.Fails longest settings ∨ token.Fails longest settings
  · exact hbuild.of_early hearly
  · refine hbuild.of_same (fun check => ?_) (by decide)
    by_cases hcheck : check = connectTimeout
    · subst hcheck
      constructor
      · rintro ⟨d, hlast, hlonger⟩
        refine ⟨d, hlast, Duration.not_le.mp fun hle => h ⟨?_, not_or.mp hearly⟩⟩
        exact ⟨d, hlast, hlonger, le_longest_iff_lt.mp hle⟩
      · rintro ⟨d, hlast, hlonger⟩
        refine ⟨d, hlast, ?_⟩
        exact Nat.lt_trans (by decide : Duration.ofSeconds 300 < longest) hlonger
    · exact fails_iff_of_ne hcheck _ _

/-- The server and the token are checked before the connect timeout, and nothing else is. -/
theorem forall_before_connectTimeout {P : Check → Prop} (hserver : P server) (htoken : P token) :
    ∀ earlier : Check, earlier.place < connectTimeout.place → P earlier := by
  intro earlier hlt
  cases earlier with
  | server => exact hserver
  | token => exact htoken
  | connectTimeout => exact absurd hlt (by decide)
  | pollInterval => exact absurd hlt (by decide)
  | streamBuffer => exact absurd hlt (by decide)

/-- An error reports the failure of one check only. -/
theorem eq_of_reports {check check' : Check} {e : ConnectionError} (h : check.Reports e)
    (h' : check'.Reports e) : check = check' := by
  cases check <;> cases check' <;> simp_all [Reports]

theorem not_slips_of_governs
    (h : Governs (.ofSeconds 300) settings (Builder.setAll {} settings).build) :
    ¬ Slips settings := by
  rintro ⟨⟨d, hlast, hlonger, hshorter⟩, hserver, htoken⟩
  have hpasses : ¬ connectTimeout.Fails longest settings := by
    rintro ⟨d', hlast', hlonger'⟩
    obtain rfl := Option.some.inj (hlast.symm.trans hlast')
    exact Duration.not_le.mpr hlonger' (le_longest_iff_lt.mpr hshorter)
  obtain ⟨e, he, hreports⟩ := h.reports connectTimeout ⟨d, hlast, hlonger⟩
    (forall_before_connectTimeout hserver htoken)
  -- What is built says otherwise: there are parameters, or a later check is reported.
  have hfails : ¬ ∀ check : Check, ¬ check.Fails longest settings := by
    intro hpass
    obtain ⟨p, hp⟩ := exists_build hpass
    rw [hp] at he
    cases he
  obtain ⟨check, hcheck⟩ := not_forall_not.mp hfails
  obtain ⟨first, hfirst, hleast⟩ := exists_first hcheck
  obtain ⟨e', he', hreports'⟩ := reports_of_first hfirst hleast
  rw [he] at he'
  cases he'
  rw [eq_of_reports hreports' hreports] at hfirst
  exact hpasses hfirst

theorem governs_iff : Governs (.ofSeconds 300) settings (Builder.setAll {} settings).build ↔
    ¬ Slips settings :=
  ⟨not_slips_of_governs, governs_of_not_slips⟩

end Check

/-! ## Connection strings -/

namespace ConnectionString

/-- A connection string gives a timeout in whole seconds. -/
theorem exists_ofSeconds_of_settingOf {pair : String × String} {d : Duration}
    (h : settingOf pair = .ok (some (.connectTimeout d))) : ∃ n, d = .ofSeconds n := by
  have hmap {α : Type} {x : Except ConnectionError α} {f : α → Option Setting} {s : Setting}
      (hx : x.map f = .ok (some s)) : ∃ a, f a = some s := by
    cases x with
    | error e => cases hx
    | ok a => exact ⟨a, Except.ok.inj hx⟩
  unfold settingOf at h
  dsimp only at h
  split at h
  next => cases h
  next => cases h
  next =>
    obtain ⟨_, hsetting⟩ := hmap h
    cases hsetting
  next =>
    obtain ⟨_, hsetting⟩ := hmap h
    cases hsetting
  next =>
    obtain ⟨n, hsetting⟩ := hmap h
    cases hsetting
    exact ⟨n, rfl⟩
  next =>
    obtain ⟨_, hsetting⟩ := hmap h
    cases hsetting
  next => cases h

theorem exists_ofSeconds_of_settingsOf {pairs : List (String × String)} {settings : List Setting}
    (h : settingsOf pairs = .ok settings) {d : Duration} (hd : .connectTimeout d ∈ settings) :
    ∃ n, d = .ofSeconds n := by
  induction pairs generalizing settings with
  | nil =>
      cases h
      cases hd
  | cons pair pairs ih =>
      obtain ⟨setting, hsetting, h⟩ := of_bind_eq_ok h
      obtain ⟨rest, hrest, h⟩ := of_bind_eq_ok h
      cases h
      rcases List.mem_append.mp hd with hd | hd
      · rw [Option.mem_toList] at hd
        rw [hd] at hsetting
        exact exists_ofSeconds_of_settingOf hsetting
      · exact ih hrest hd

theorem exists_ofSeconds {uri : String} {made : List Setting} (h : settings uri = .ok made)
    {d : Duration} (hd : .connectTimeout d ∈ made) : ∃ n, d = .ofSeconds n := by
  obtain ⟨url, -, h⟩ := of_bind_eq_ok h
  obtain ⟨fromPassword, hpassword, h⟩ := of_bind_eq_ok h
  obtain ⟨fromQuery, hquery, h⟩ := of_bind_eq_ok h
  cases h
  simp only [List.mem_append, List.mem_singleton, reduceCtorEq, or_false] at hd
  rcases hd with hd | hd
  · unfold passwordSettings at hpassword
    split at hpassword
    next =>
      cases hpassword
      cases hd
    next =>
      split at hpassword
      next =>
        cases hpassword
        rw [List.mem_singleton] at hd
        cases hd
      next => cases hpassword
  · exact exists_ofSeconds_of_settingsOf hquery hd

/-- So the timeout of a connection string is not longer than 300 seconds by a fraction of one. -/
theorem not_slips_of_settings {uri : String} {made : List Setting} (h : settings uri = .ok made) :
    ¬ Check.Slips made := by
  rintro ⟨⟨d, hlast, hlonger, hshorter⟩, -⟩
  obtain ⟨setting, hmem, hvalue⟩ := List.mem_filterMap.mp (List.mem_of_getLast? hlast)
  have hsetting : setting = .connectTimeout d := by
    cases setting <;> cases hvalue
    rfl
  obtain ⟨n, rfl⟩ := exists_ofSeconds h (hsetting ▸ hmem)
  rw [Duration.ofSeconds_lt_iff] at hlonger hshorter
  omega

end ConnectionString

/-- Parameters come of settings exactly if the last values keep their bounds, whatever the order in
which they are set, and else the first violation is reported. The bound of 300 seconds for a connect
timeout is kept unless a longer one slips through, which takes one of less than 301 seconds, a
server and a token; in any case the timeout is shorter than that. None slips through from a
connection string. -/
theorem Params.last_settings_are_checked (settings : List Setting) (uri : String) :
    (Check.Governs (.ofSeconds 300) settings (Builder.setAll {} settings).build ↔
        ¬ Check.Slips settings) ∧
      Check.Governs Check.longest settings (Builder.setAll {} settings).build ∧
      (∀ made, ConnectionString.settings uri = .ok made →
        Check.Governs (.ofSeconds 300) made (ConnectionString.read uri)) ∧
      ∀ p, ConnectionString.read uri = .ok p →
        ∃ made, ConnectionString.settings uri = .ok made ∧ p.Keeps (.ofSeconds 300) made := by
  have hstring (made : List Setting) (hmade : ConnectionString.settings uri = .ok made) :
      Check.Governs (.ofSeconds 300) made (ConnectionString.read uri) := by
    unfold ConnectionString.read
    rw [hmade]
    exact Check.governs_iff.mpr (ConnectionString.not_slips_of_settings hmade)
  refine ⟨Check.governs_iff, Check.governs_build settings, hstring, fun p hp => ?_⟩
  obtain ⟨made, hmade, -⟩ := ConnectionString.build_of_read hp
  exact ⟨made, hmade, (hstring made hmade).keeps p hp⟩

/-- The timeout is reported before the buffer that was set earlier; a server and a token that are
replaced do not count. A string with a timeout of 300 seconds is read. -/
theorem Params.timeout_is_reported_before_buffer :
    let settings : List Setting :=
      [.streamBuffer 0, .server "ftp://h", .token "", .connectTimeout (.ofSeconds 301),
        .token "t", .server "http://h"]
    ¬ Check.Slips settings ∧
      (Builder.setAll {} settings).build = .error
        (.invalidParameter "connect_timeout" "Connect timeout cannot exceed 300 seconds") ∧
      ∃ p, ConnectionString.read "https://_:t@h/v2?timeout=301&timeout=300" = .ok p ∧
        p.connectTimeout = .ofSeconds 300 ∧ p.connectTimeout ≤ .ofSeconds 300 := by
  intro settings
  obtain ⟨hdocumented, -, -, hstring⟩ := Params.last_settings_are_checked settings
    "https://_:t@h/v2?timeout=301&timeout=300"
  have hslips : ¬ Check.Slips settings := by
    rintro ⟨⟨d, hlast, -, hshorter⟩, -⟩
    cases hlast
    exact absurd hshorter (by decide)
  have hserver : ¬ Check.server.Fails (.ofSeconds 300) settings := by
    intro hfails
    have hread : Url.ofString "http://h" = .ok
        { scheme := "http", host := some (.domain ['h']), path := .segments [[]] } := by
      decide +kernel
    exact hfails ⟨_, hread, .inl rfl, rfl⟩
  have htoken : ¬ Check.token.Fails (.ofSeconds 300) settings := by
    rintro (hempty | ⟨hnone, -⟩)
    · exact absurd hempty (by decide)
    · exact absurd hnone (by decide)
  refine ⟨hslips, ?_, ?_⟩
  · obtain ⟨e, hbuild, rfl⟩ := (hdocumented.mpr hslips).reports .connectTimeout
      ⟨.ofSeconds 301, by decide, by decide⟩ (Check.forall_before_connectTimeout hserver htoken)
    exact hbuild
  · have htimeout : (ConnectionString.read "https://_:t@h/v2?timeout=301&timeout=300").toOption.map
        (·.connectTimeout) = some (.ofSeconds 300) := by decide +kernel
    obtain ⟨p, hp, htimeout⟩ := exists_of_toOption_map htimeout
    obtain ⟨made, -, hkeeps⟩ := hstring p hp
    exact ⟨p, hp, htimeout, hkeeps.connectTimeout_le⟩

/-- A timeout of a millisecond more than 300 seconds passes. -/
theorem Params.timeout_passes_bound : ∃ p,
    (Builder.setAll {} [.token "t", .connectTimeout (.ofMillis 300001)]).build = .ok p ∧
      ¬ p.connectTimeout ≤ .ofSeconds 300 := by
  let b := Builder.setAll {} [.token "t", .connectTimeout (.ofMillis 300001)]
  have htimeout : b.build.toOption.map (·.connectTimeout) = some (.ofMillis 300001) := by
    decide +kernel
  obtain ⟨p, hp, htimeout⟩ := exists_of_toOption_map htimeout
  refine ⟨p, hp, ?_⟩
  rw [htimeout]
  decide

end Tributary
