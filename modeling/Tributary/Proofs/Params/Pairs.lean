import Tributary.Proofs.Number.Numeral
import Tributary.Proofs.Params.Bounds

/-!
# The pairs of a query

Which values are valid for the names that a connection string knows, and what its pairs set. Each
name sets values of one kind, so what counts of a kind is what the last value of its name gives. The
builder that a connection string makes is put together from these, the password and the server.
-/

namespace Tributary

open Text Url

namespace ConnectionString

/-! ## Valid values -/

/-- A truth value, in letters of either case. -/
def IsTruth (value : String) : Prop :=
  ∃ word ∈ ["true", "1", "yes", "on", "false", "0", "no", "off"], eqIgnoringCase value word = true

/-- A number of 64 bits: digits, with or without a plus sign. -/
def IsNumber (value : String) : Prop :=
  ∃ ds : List (Fin 10), ds ≠ [] ∧ digitsValue (ds.map Fin.val) < 2 ^ 64 ∧
    (value.toList = digitsText ds ∨ value.toList = '+' :: digitsText ds)

/-- A pair with a valid value, as its name requires. Any value is valid for a name that requires
none, and for one that is not known. -/
structure IsValid (pair : String × String) : Prop where
  truth (h : pair.1 ∈ ["displayHints", "insecureTLS"]) : IsTruth pair.2
  number (h : pair.1 ∈ ["timeout", "pollInterval"]) : IsNumber pair.2

theorem eqIgnoringCase_iff {value word : String} (h : word.toList.map Char.toLower = word.toList) :
    eqIgnoringCase value word = true ↔ String.ofList (value.toList.map Char.toLower) = word := by
  unfold eqIgnoringCase
  rw [beq_iff_eq, h]
  constructor
  · intro heq
    rw [heq, String.ofList_toList]
  · rintro rfl
    rw [String.toList_ofList]

theorem isTruth_iff (value : String) : IsTruth value ↔
    String.ofList (value.toList.map Char.toLower) ∈ ["true", "1", "yes", "on"] ∨
      String.ofList (value.toList.map Char.toLower) ∈ ["false", "0", "no", "off"] := by
  have hlower : ∀ word ∈ ["true", "1", "yes", "on"] ++ ["false", "0", "no", "off"],
      word.toList.map Char.toLower = word.toList := by decide
  rw [← List.mem_append]
  constructor
  · rintro ⟨word, hword, heq⟩
    rw [(eqIgnoringCase_iff (hlower word hword)).mp heq]
    exact hword
  · intro hmem
    exact ⟨_, hmem, (eqIgnoringCase_iff (hlower _ hmem)).mpr rfl⟩

theorem readBool_of_isTruth {value : String} (h : IsTruth value) (name : String) :
    ∃ b, readBool name value = .ok b := by
  rw [isTruth_iff, ← List.contains_iff_mem, ← List.contains_iff_mem] at h
  unfold readBool
  dsimp only
  split
  next => exact ⟨true, rfl⟩
  next htrue => exact ⟨false, if_pos (h.resolve_left htrue)⟩

theorem readBool_of_not_isTruth {value : String} (h : ¬ IsTruth value) (name : String) :
    readBool name value =
      .error (.invalidParameter name ("Invalid boolean value: " ++ value)) := by
  rw [isTruth_iff, ← List.contains_iff_mem, ← List.contains_iff_mem, not_or] at h
  exact (if_neg h.1).trans (if_neg h.2)

/-- Digits of a number of 64 bits are read. -/
theorem exists_readUp_of_lt {ds : List (Fin 10)} (h : digitsValue (ds.map Fin.val) < 2 ^ 64) :
    ∃ v, Integer.readUp Integer.nat64.greatest 0 (digitsText ds) = .ok v := by
  have hle : (digitsValue (ds.map Fin.val) : Int) ≤ Integer.nat64.greatest := by
    show _ ≤ (0xFFFFFFFFFFFFFFFF : Int)
    omega
  exact ⟨_, (Integer.readUp_digitsText ds (by decide)).trans (if_pos hle)⟩

/-- What is read are digits of a number of 64 bits. -/
theorem exists_digitsText_of_readUp {cs : List Char} {v : Int} (hcs : cs ≠ [])
    (h : Integer.readUp Integer.nat64.greatest 0 cs = .ok v) :
    ∃ ds : List (Fin 10), ds ≠ [] ∧ digitsValue (ds.map Fin.val) < 2 ^ 64 ∧
      cs = digitsText ds := by
  obtain ⟨vs, hvs, hv, hbound⟩ := Integer.of_readUp_eq_ok 0 h
  obtain ⟨ds, rfl, rfl⟩ := Decimal.eq_digitsText_of_digits? hvs
  have hle : (digitsValue (ds.map Fin.val) : Int) ≤ 0xFFFFFFFFFFFFFFFF := hv ▸ hbound (by decide)
  exact ⟨ds, mt Decimal.digitsText_eq_nil.mpr hcs, by omega, rfl⟩

theorem isNumber_iff (value : String) :
    IsNumber value ↔ ∃ v, Integer.read Integer.nat64 value.toList = .ok v := by
  constructor
  · rintro ⟨ds, hne, hlt, htext | htext⟩
    · rw [htext, Integer.read_unsigned hne]
      exact exists_readUp_of_lt hlt
    · have hempty : ¬ (digitsText ds).isEmpty = true := by
        rw [List.isEmpty_iff, Decimal.digitsText_eq_nil]
        exact hne
      obtain ⟨v, hv⟩ := exists_readUp_of_lt hlt
      rw [htext]
      exact ⟨v, (if_neg hempty).trans hv⟩
  · rintro ⟨v, hv⟩
    unfold Integer.read at hv
    split at hv
    next => cases hv
    next cs hcs =>
      obtain ⟨hne, hv⟩ := Integer.of_afterSign_eq_ok hv
      obtain ⟨ds, hds, hlt, rfl⟩ := exists_digitsText_of_readUp hne hv
      exact ⟨ds, hds, hlt, .inr hcs⟩
    next =>
      rw [if_neg (by decide)] at hv
      cases hv
    next hempty _ _ =>
      obtain ⟨ds, hds, hlt, htext⟩ := exists_digitsText_of_readUp hempty hv
      exact ⟨ds, hds, hlt, .inl htext⟩

theorem readNumber_of_isNumber {value : String} (h : IsNumber value) (noun name : String) :
    ∃ n, readNumber noun name value = .ok n := by
  obtain ⟨v, hv⟩ := (isNumber_iff value).mp h
  unfold readNumber
  rw [hv]
  exact ⟨_, rfl⟩

theorem readNumber_of_not_isNumber {value : String} (h : ¬ IsNumber value)
    (noun name : String) : readNumber noun name value =
      .error (.invalidParameter name ("Invalid " ++ noun ++ " value: " ++ value)) := by
  unfold readNumber
  split
  next v hv => exact absurd ((isNumber_iff value).mpr ⟨v, hv⟩) h
  next => rfl

/-! ## Valid pairs -/

theorem settingOf_of_isValid {pair : String × String} (h : IsValid pair) :
    ∃ setting, settingOf pair = .ok setting := by
  obtain ⟨name, value⟩ := pair
  unfold settingOf
  dsimp only
  split
  next => exact ⟨_, rfl⟩
  next => exact ⟨_, rfl⟩
  next =>
    obtain ⟨b, hb⟩ := readBool_of_isTruth (h.truth (by simp)) "displayHints"
    exact ⟨_, congrArg (Except.map _) hb⟩
  next =>
    obtain ⟨b, hb⟩ := readBool_of_isTruth (h.truth (by simp)) "insecureTLS"
    exact ⟨_, congrArg (Except.map _) hb⟩
  next =>
    obtain ⟨n, hn⟩ := readNumber_of_isNumber (h.number (by simp)) "timeout" "timeout"
    exact ⟨_, congrArg (Except.map _) hn⟩
  next =>
    obtain ⟨n, hn⟩ := readNumber_of_isNumber (h.number (by simp)) "interval" "pollInterval"
    exact ⟨_, congrArg (Except.map _) hn⟩
  next => exact ⟨_, rfl⟩

theorem settingOf_of_not_isValid {pair : String × String} (h : ¬ IsValid pair) :
    ∃ message, settingOf pair = .error (.invalidParameter pair.1 message) := by
  obtain ⟨name, value⟩ := pair
  have hinvalid : (name = "displayHints" ∨ name = "insecureTLS") ∧ ¬ IsTruth value ∨
      (name = "timeout" ∨ name = "pollInterval") ∧ ¬ IsNumber value := by
    by_contra hnot
    rw [not_or, not_and, not_and, not_not, not_not] at hnot
    refine h ⟨fun hname => hnot.1 ?_, fun hname => hnot.2 ?_⟩
    · simpa using hname
    · simpa using hname
  rcases hinvalid with ⟨rfl | rfl, hvalue⟩ | ⟨rfl | rfl, hvalue⟩
  · exact ⟨_, congrArg (Except.map _) (readBool_of_not_isTruth hvalue _)⟩
  · exact ⟨_, congrArg (Except.map _) (readBool_of_not_isTruth hvalue _)⟩
  · exact ⟨_, congrArg (Except.map _) (readNumber_of_not_isNumber hvalue _ _)⟩
  · exact ⟨_, congrArg (Except.map _) (readNumber_of_not_isNumber hvalue _ _)⟩

theorem isValid_iff (pair : String × String) :
    IsValid pair ↔ (settingOf pair).toOption.isSome = true := by
  constructor
  · intro h
    obtain ⟨setting, hsetting⟩ := settingOf_of_isValid h
    rw [hsetting]
    rfl
  · intro hsome
    by_contra h
    obtain ⟨message, hmessage⟩ := settingOf_of_not_isValid h
    rw [hmessage] at hsome
    cases hsome

instance (pair : String × String) : Decidable (IsValid pair) :=
  decidable_of_iff _ (isValid_iff pair).symm

theorem exists_settingsOf {ps : List (String × String)} (h : ∀ pair ∈ ps, IsValid pair) :
    ∃ settings, settingsOf ps = .ok settings := by
  induction ps with
  | nil => exact ⟨[], rfl⟩
  | cons pair ps ih =>
      obtain ⟨hpair, hps⟩ := List.forall_mem_cons.mp h
      obtain ⟨setting, hsetting⟩ := settingOf_of_isValid hpair
      obtain ⟨settings, hsettings⟩ := ih hps
      rw [settingsOf, hsetting, hsettings]
      exact ⟨_, rfl⟩

/-- The first pair that is not valid is the one that is reported. -/
theorem settingsOf_of_not_isValid {front : List (String × String)} {pair : String × String}
    (hfront : ∀ p ∈ front, IsValid p) (h : ¬ IsValid pair) (back : List (String × String)) :
    ∃ message, settingsOf (front ++ pair :: back) = .error (.invalidParameter pair.1 message) := by
  induction front with
  | nil =>
      obtain ⟨message, hmessage⟩ := settingOf_of_not_isValid h
      rw [List.nil_append, settingsOf, hmessage]
      exact ⟨message, rfl⟩
  | cons first front ih =>
      obtain ⟨hfirst, hfront⟩ := List.forall_mem_cons.mp hfront
      obtain ⟨setting, hsetting⟩ := settingOf_of_isValid hfirst
      obtain ⟨message, hmessage⟩ := ih hfront
      rw [List.cons_append, settingsOf, hsetting, hmessage]
      exact ⟨message, rfl⟩

/-! ## Passwords -/

/-- The password, if there is one, stands for a text. -/
def HasReadablePassword (u : Url) : Prop :=
  ∀ password, u.password = some password → ∃ token, Utf8.decode (percentDecode password) = .ok token

/-- The token in place of the password. -/
def passwordToken? (u : Url) : Option String :=
  u.password.bind fun password => (Utf8.decode (percentDecode password)).toOption.map String.ofList

theorem passwordSettings_of_readable {u : Url} (h : HasReadablePassword u) :
    passwordSettings u = .ok ((passwordToken? u).toList.map .token) := by
  unfold passwordSettings passwordToken?
  cases hu : u.password with
  | none => rfl
  | some password =>
      obtain ⟨token, htoken⟩ := h password hu
      dsimp only [Option.bind_some]
      rw [htoken]
      rfl

theorem passwordSettings_of_not_readable {u : Url} (h : ¬ HasReadablePassword u) :
    ∃ message,
      passwordSettings u = .error (.unreadable ("Failed to decode token: " ++ message)) := by
  unfold HasReadablePassword at h
  push Not at h
  obtain ⟨password, hpassword, hnot⟩ := h
  unfold passwordSettings
  rw [hpassword]
  dsimp only
  cases hdecode : Utf8.decode (percentDecode password) with
  | ok token => exact absurd hdecode (hnot token)
  | error e => exact ⟨e.message, rfl⟩

/-! ## Last values -/

/-- The values of a name. -/
def values (name : String) (ps : List (String × String)) : List String :=
  ps.filterMap fun pair => if pair.1 = name then some pair.2 else none

/-- The last value of a name. -/
def last? (name : String) (ps : List (String × String)) : Option String :=
  (values name ps).getLast?

/-- The names that are known. -/
def names : List String :=
  ["token", "sessionID", "displayHints", "insecureTLS", "timeout", "pollInterval"]

theorem values_append (name : String) (ps qs : List (String × String)) :
    values name (ps ++ qs) = values name ps ++ values name qs :=
  List.filterMap_append

theorem filterMap_singleton {α β : Type} (f : α → Option β) (a : α) :
    [a].filterMap f = (f a).toList := by
  rw [List.filterMap_cons]
  cases f a <;> rfl

theorem values_singleton (name : String) (pair : String × String) :
    values name [pair] = if pair.1 = name then [pair.2] else [] := by
  unfold values
  rw [filterMap_singleton]
  split <;> rfl

end ConnectionString

namespace Setting.Kind

open ConnectionString

variable {α : Type}

/-- The session. -/
def sessionId : Kind String where
  held := Builder.sessionId
  value?
    | .sessionId id => some id
    | _ => none
  held_empty := rfl
  held_set := by
    intro b s
    cases s <;> rfl

/-- Whether types are shown with hints. -/
def hints : Kind Bool where
  held := Builder.hints
  value?
    | .hints enabled => some enabled
    | _ => none
  held_empty := rfl
  held_set := by
    intro b s
    cases s <;> rfl

/-- Whether certificates are not checked. -/
def insecureTls : Kind Bool where
  held := Builder.insecureTls
  value?
    | .insecureTls insecure => some insecure
    | _ => none
  held_empty := rfl
  held_set := by
    intro b s
    cases s <;> rfl

/-- The timeout of a handshake. -/
def handshakeTimeout : Kind Duration where
  held := Builder.handshakeTimeout
  value?
    | .handshakeTimeout d => some d
    | _ => none
  held_empty := rfl
  held_set := by
    intro b s
    cases s <;> rfl

/-- What a pair of a query sets of a kind. -/
def given? (kind : Kind α) (pair : String × String) : Option α :=
  (settingOf pair).toOption.join.bind kind.value?

/-- A kind of setting stands in a query under a name. -/
structure IsNamed (kind : Kind α) (name : String) : Prop where
  name_of_given (pair : String × String) (h : pair.1 ≠ name) : kind.given? pair = none
  exists_given (value : String) (h : IsValid (name, value)) :
    ∃ a, kind.given? (name, value) = some a

section

variable (kind : Kind α) (value : String)

theorem bind_value?_map {β : Type} (x : Except ConnectionError β) (f : β → Setting) :
    (x.map fun b => some (f b)).toOption.join.bind kind.value? =
      x.toOption.bind fun b => kind.value? (f b) := by
  cases x <;> rfl

@[simp]
theorem given?_token : kind.given? ("token", value) = kind.value? (.token value) := rfl

@[simp]
theorem given?_sessionId : kind.given? ("sessionID", value) = kind.value? (.sessionId value) := rfl

@[simp]
theorem given?_hints : kind.given? ("displayHints", value) =
    (readBool "displayHints" value).toOption.bind fun b => kind.value? (.hints b) :=
  kind.bind_value?_map _ _

@[simp]
theorem given?_insecureTls : kind.given? ("insecureTLS", value) =
    (readBool "insecureTLS" value).toOption.bind fun b => kind.value? (.insecureTls b) :=
  kind.bind_value?_map _ _

@[simp]
theorem given?_timeout : kind.given? ("timeout", value) =
    (readNumber "timeout" "timeout" value).toOption.bind fun n =>
      kind.value? (.connectTimeout (.ofSeconds n)) :=
  kind.bind_value?_map _ _

@[simp]
theorem given?_pollInterval : kind.given? ("pollInterval", value) =
    (readNumber "interval" "pollInterval" value).toOption.bind fun n =>
      kind.value? (.pollInterval (.ofMillis n)) :=
  kind.bind_value?_map _ _

theorem given?_of_not_mem {name : String} (h : name ∉ names) :
    kind.given? (name, value) = none := by
  simp only [names, List.mem_cons, List.not_mem_nil, or_false, not_or] at h
  obtain ⟨htoken, hsession, hhints, htls, htimeout, hinterval⟩ := h
  unfold given? settingOf
  dsimp only
  split
  next => exact absurd rfl htoken
  next => exact absurd rfl hsession
  next => exact absurd rfl hhints
  next => exact absurd rfl htls
  next => exact absurd rfl htimeout
  next => exact absurd rfl hinterval
  next => rfl

end

/-- A name is one of those that are known, or is not known. -/
theorem name_cases {P : String → Prop} (htoken : P "token") (hsession : P "sessionID")
    (hhints : P "displayHints") (htls : P "insecureTLS") (htimeout : P "timeout")
    (hinterval : P "pollInterval") (hunknown : ∀ name, name ∉ names → P name) (name : String) :
    P name := by
  by_cases h : name ∈ names
  · simp only [names, List.mem_cons, List.not_mem_nil, or_false] at h
    rcases h with rfl | rfl | rfl | rfl | rfl | rfl <;> assumption
  · exact hunknown name h

/-- A pair gives nothing of a kind if its name sets nothing of it. -/
theorem given?_eq_none {kind : Kind α} (pair : String × String)
    (htoken : pair.1 = "token" → ∀ t, kind.value? (.token t) = none)
    (hsession : pair.1 = "sessionID" → ∀ s, kind.value? (.sessionId s) = none)
    (hhints : pair.1 = "displayHints" → ∀ b, kind.value? (.hints b) = none)
    (htls : pair.1 = "insecureTLS" → ∀ b, kind.value? (.insecureTls b) = none)
    (htimeout : pair.1 = "timeout" → ∀ d, kind.value? (.connectTimeout d) = none)
    (hinterval : pair.1 = "pollInterval" → ∀ d, kind.value? (.pollInterval d) = none) :
    kind.given? pair = none := by
  obtain ⟨name, value⟩ := pair
  revert name
  refine name_cases ?_ ?_ ?_ ?_ ?_ ?_ fun name h => ?_
  case refine_7 => exact fun _ _ _ _ _ _ => given?_of_not_mem _ _ h
  all_goals simp_all

theorem isNamed_token : token.IsNamed "token" where
  name_of_given pair h :=
    given?_eq_none pair (fun h' => absurd h' h) (fun _ _ => rfl) (fun _ _ => rfl) (fun _ _ => rfl)
      (fun _ _ => rfl) (fun _ _ => rfl)
  exists_given value _ := ⟨value, rfl⟩

theorem isNamed_sessionId : sessionId.IsNamed "sessionID" where
  name_of_given pair h :=
    given?_eq_none pair (fun _ _ => rfl) (fun h' => absurd h' h) (fun _ _ => rfl) (fun _ _ => rfl)
      (fun _ _ => rfl) (fun _ _ => rfl)
  exists_given value _ := ⟨value, rfl⟩

theorem isNamed_hints : hints.IsNamed "displayHints" where
  name_of_given pair h :=
    given?_eq_none pair (fun _ _ => rfl) (fun _ _ => rfl) (fun h' => absurd h' h) (fun _ _ => rfl)
      (fun _ _ => rfl) (fun _ _ => rfl)
  exists_given value h := by
    obtain ⟨b, hb⟩ := readBool_of_isTruth (h.truth (by simp)) "displayHints"
    rw [given?_hints, hb]
    exact ⟨b, rfl⟩

theorem isNamed_insecureTls : insecureTls.IsNamed "insecureTLS" where
  name_of_given pair h :=
    given?_eq_none pair (fun _ _ => rfl) (fun _ _ => rfl) (fun _ _ => rfl) (fun h' => absurd h' h)
      (fun _ _ => rfl) (fun _ _ => rfl)
  exists_given value h := by
    obtain ⟨b, hb⟩ := readBool_of_isTruth (h.truth (by simp)) "insecureTLS"
    rw [given?_insecureTls, hb]
    exact ⟨b, rfl⟩

theorem isNamed_connectTimeout : connectTimeout.IsNamed "timeout" where
  name_of_given pair h :=
    given?_eq_none pair (fun _ _ => rfl) (fun _ _ => rfl) (fun _ _ => rfl) (fun _ _ => rfl)
      (fun h' => absurd h' h) (fun _ _ => rfl)
  exists_given value h := by
    obtain ⟨n, hn⟩ := readNumber_of_isNumber (h.number (by simp)) "timeout" "timeout"
    rw [given?_timeout, hn]
    exact ⟨_, rfl⟩

theorem isNamed_pollInterval : pollInterval.IsNamed "pollInterval" where
  name_of_given pair h :=
    given?_eq_none pair (fun _ _ => rfl) (fun _ _ => rfl) (fun _ _ => rfl) (fun _ _ => rfl)
      (fun _ _ => rfl) (fun h' => absurd h' h)
  exists_given value h := by
    obtain ⟨n, hn⟩ := readNumber_of_isNumber (h.number (by simp)) "interval" "pollInterval"
    rw [given?_pollInterval, hn]
    exact ⟨_, rfl⟩

theorem last?_append (kind : Kind α) (front back : List Setting) :
    kind.last? (front ++ back) = (kind.last? back).or (kind.last? front) := by
  unfold last?
  rw [List.filterMap_append, List.getLast?_append]

/-- Settings of a query are given by its pairs. -/
theorem filterMap_settingsOf (kind : Kind α) {ps : List (String × String)}
    {settings : List Setting} (h : settingsOf ps = .ok settings) :
    settings.filterMap kind.value? = ps.filterMap kind.given? := by
  induction ps generalizing settings with
  | nil =>
      cases h
      rfl
  | cons pair ps ih =>
      obtain ⟨setting, hsetting, h⟩ := of_bind_eq_ok h
      obtain ⟨settings', hsettings, h⟩ := of_bind_eq_ok h
      cases h
      have hgiven : kind.given? pair = setting.bind kind.value? := by
        unfold given?
        rw [hsetting]
        rfl
      rw [List.filterMap_append, ih hsettings, ← List.singleton_append, List.filterMap_append,
        filterMap_singleton, hgiven]
      cases setting with
      | none => rfl
      | some s => exact congrArg (· ++ _) (filterMap_singleton kind.value? s)

/-- What counts of a kind is what the last value of its name gives. -/
theorem IsNamed.last?_settingsOf {kind : Kind α} {name : String} (hkind : kind.IsNamed name)
    {ps : List (String × String)} (hps : ∀ pair ∈ ps, IsValid pair) {settings : List Setting}
    (h : settingsOf ps = .ok settings) :
    kind.last? settings =
      (ConnectionString.last? name ps).bind fun value => kind.given? (name, value) := by
  unfold last?
  rw [kind.filterMap_settingsOf h]
  clear h
  induction ps using List.reverseRecOn with
  | nil => rfl
  | append_singleton ps pair ih =>
      obtain ⟨hps, hpair⟩ := List.forall_mem_append.mp hps
      rw [List.forall_mem_singleton] at hpair
      have ih := ih hps
      unfold ConnectionString.last? at ih ⊢
      rw [values_append, values_singleton, List.filterMap_append, filterMap_singleton]
      by_cases hname : pair.1 = name
      · obtain ⟨_, value⟩ := pair
        obtain rfl : _ = name := hname
        obtain ⟨a, ha⟩ := hkind.exists_given value hpair
        rw [if_pos rfl, ha, Option.toList_some, List.getLast?_concat, List.getLast?_concat,
          Option.bind_some, ha]
      · rw [if_neg hname, hkind.name_of_given pair hname, Option.toList_none, List.append_nil,
          List.append_nil]
        exact ih

/-- What no pair sets, a query does not set. -/
theorem last?_settingsOf_of_forall {kind : Kind α} (hkind : ∀ pair, kind.given? pair = none)
    {ps : List (String × String)} {settings : List Setting} (h : settingsOf ps = .ok settings) :
    kind.last? settings = none := by
  unfold last?
  rw [kind.filterMap_settingsOf h, List.filterMap_eq_nil_iff.mpr fun pair _ => hkind pair]
  rfl

end Setting.Kind

attribute [ext] Builder

namespace ConnectionString

open Setting (Kind)

/-! ## What a connection string sets -/

/-- The settings of a URL by the last values of a query. A token of the query goes before the one
in place of the password. -/
def made (u : Url) (ps : List (String × String)) : Builder where
  server := some u.bare.toString
  token := (last? "token" ps).or (passwordToken? u)
  sessionId := last? "sessionID" ps
  hints := (last? "displayHints" ps).bind fun value => (readBool "displayHints" value).toOption
  insecureTls := (last? "insecureTLS" ps).bind fun value => (readBool "insecureTLS" value).toOption
  connectTimeout := (last? "timeout" ps).bind fun value =>
    (readNumber "timeout" "timeout" value).toOption.map .ofSeconds
  pollInterval := (last? "pollInterval" ps).bind fun value =>
    (readNumber "interval" "pollInterval" value).toOption.map .ofMillis

/-- A field after the settings of a password, a query and a server. -/
theorem held_setAll_append {α : Type} (kind : Kind α) (password : Option String)
    (settings : List Setting) (address : String) :
    kind.held (Builder.setAll {} (password.toList.map .token ++ settings ++ [.server address])) =
      (kind.value? (.server address)).or
        ((kind.last? settings).or (password.bind fun t => kind.value? (.token t))) := by
  have hserver : kind.last? [.server address] = kind.value? (.server address) := by
    unfold Kind.last?
    rw [filterMap_singleton]
    cases kind.value? (.server address) <;> rfl
  have hpassword : kind.last? (password.toList.map .token) =
      password.bind fun t => kind.value? (.token t) := by
    cases password with
    | none => rfl
    | some t =>
        unfold Kind.last?
        show (List.filterMap kind.value? [.token t]).getLast? = _
        rw [filterMap_singleton]
        cases ht : kind.value? (.token t) with
        | none => exact ht.symm
        | some a => exact ht.symm
  rw [kind.held_setAll, Kind.last?_append, Kind.last?_append, hserver, hpassword]

section

variable {u : Url} {ps : List (String × String)} {settings : List Setting}

/-- What only a query sets is what the last value of a name gives. -/
theorem held_of_isNamed {α : Type} {kind : Kind α} {name : String} (hkind : kind.IsNamed name)
    (hps : ∀ pair ∈ ps, IsValid pair) (h : settingsOf ps = .ok settings)
    (hserver : ∀ address, kind.value? (.server address) = none)
    (htoken : ∀ t, kind.value? (.token t) = none) (password : Option String) (address : String) :
    kind.held (Builder.setAll {} (password.toList.map .token ++ settings ++ [.server address])) =
      (last? name ps).bind fun value => kind.given? (name, value) := by
  rw [held_setAll_append, hserver, hkind.last?_settingsOf hps h]
  simp [htoken]

/-- What nothing in a connection string sets is not set. -/
theorem held_of_not_given {α : Type} (kind : Kind α) (hgiven : ∀ pair, kind.given? pair = none)
    (h : settingsOf ps = .ok settings) (hserver : ∀ address, kind.value? (.server address) = none)
    (htoken : ∀ t, kind.value? (.token t) = none) (password : Option String) (address : String) :
    kind.held (Builder.setAll {} (password.toList.map .token ++ settings ++ [.server address])) =
      none := by
  rw [held_setAll_append, hserver, Kind.last?_settingsOf_of_forall hgiven h]
  simp [htoken]

theorem setAll_settingsOf (hps : ∀ pair ∈ ps, IsValid pair) (h : settingsOf ps = .ok settings) :
    Builder.setAll {} ((passwordToken? u).toList.map .token ++ settings ++
      [.server u.bare.toString]) = made u ps := by
  have hnamed {α : Type} {kind : Kind α} {name : String} (hkind : kind.IsNamed name)
      (hserver : ∀ address, kind.value? (.server address) = none)
      (htoken : ∀ t, kind.value? (.token t) = none) :=
    held_of_isNamed hkind hps h hserver htoken (passwordToken? u) u.bare.toString
  have hunset {α : Type} (kind : Kind α) (hgiven : ∀ pair, kind.given? pair = none)
      (hserver : ∀ address, kind.value? (.server address) = none)
      (htoken : ∀ t, kind.value? (.token t) = none) :=
    held_of_not_given kind hgiven h hserver htoken (passwordToken? u) u.bare.toString
  ext1
  case server => exact held_setAll_append Kind.server _ settings _
  case token =>
    refine (held_setAll_append Kind.token _ settings _).trans ?_
    rw [Kind.isNamed_token.last?_settingsOf hps h]
    simp [Kind.token, made]
  case provider =>
    refine hunset Kind.provider (fun pair => ?_) (fun _ => rfl) fun _ => rfl
    apply Kind.given?_eq_none <;> exact fun _ _ => rfl
  case sessionId =>
    refine (hnamed Kind.isNamed_sessionId (fun _ => rfl) fun _ => rfl).trans ?_
    simp [Kind.sessionId, made]
  case hints =>
    refine (hnamed Kind.isNamed_hints (fun _ => rfl) fun _ => rfl).trans ?_
    simp [Kind.hints, made]
  case insecureTls =>
    refine (hnamed Kind.isNamed_insecureTls (fun _ => rfl) fun _ => rfl).trans ?_
    simp [Kind.insecureTls, made]
  case connectTimeout =>
    refine (hnamed Kind.isNamed_connectTimeout (fun _ => rfl) fun _ => rfl).trans ?_
    simp [Kind.connectTimeout, made, Option.map_eq_bind]
  case pollInterval =>
    refine (hnamed Kind.isNamed_pollInterval (fun _ => rfl) fun _ => rfl).trans ?_
    simp [Kind.pollInterval, made, Option.map_eq_bind]
  case handshakeTimeout =>
    refine hunset Kind.handshakeTimeout (fun pair => ?_) (fun _ => rfl) fun _ => rfl
    apply Kind.given?_eq_none <;> exact fun _ _ => rfl
  case streamBuffer =>
    refine hunset Kind.streamBuffer (fun pair => ?_) (fun _ => rfl) fun _ => rfl
    apply Kind.given?_eq_none <;> exact fun _ _ => rfl

end

end ConnectionString

end Tributary
