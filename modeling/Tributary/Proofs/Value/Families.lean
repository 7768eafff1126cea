import Tributary.Value.Family

/-!
# Families by their longest stems

The family of a declared type is that of the first stem it starts with. A stem that starts with
another one is tried before it, so the first stem that fits is longer than all others that fit. Only
`TIMESTAMP` starts with another stem, `TIME`: text behind a type leaves its family alone, unless it
completes `TIMESTAMP` where only `TIME` was.
-/

namespace Tributary

namespace Family

/-- A declared type starts with a text. -/
def Starts (start declared : String) : Prop :=
  start.toList <+: declared.toList

instance (start declared : String) : Decidable (Starts start declared) :=
  inferInstanceAs (Decidable (_ <+: _))

/-- A stem that a declared type starts with, longer than any other one. -/
structure IsLongest (stem : String × Family) (declared : String) : Prop where
  mem : stem ∈ stems
  starts : Starts stem.1 declared
  longer : ∀ other ∈ stems, Starts other.1 declared → other ≠ stem →
    other.1.length < stem.1.length

/-- Text behind a declared type makes it start with `TIMESTAMP`. -/
def Completes (declared more : String) : Prop :=
  ¬ Starts "TIMESTAMP" declared ∧ Starts "TIMESTAMP" (declared ++ more)

instance (declared more : String) : Decidable (Completes declared more) :=
  inferInstanceAs (Decidable (_ ∧ _))

section

variable {start start' declared : String}

theorem Starts.append (h : Starts start declared) (more : String) :
    Starts start (declared ++ more) := by
  unfold Starts
  rw [String.toList_append]
  exact h.trans (List.prefix_append _ _)

/-- Of two texts that a type starts with, the longer one starts with the other. -/
theorem Starts.of_length_le (h : Starts start declared) (h' : Starts start' declared)
    (hle : start.length ≤ start'.length) : Starts start start' := by
  apply List.prefix_of_prefix_length_le h h'
  simpa only [String.length_toList] using hle

end

/-! ## How stems overlap -/

/-- No stem starts with one that is tried before it. -/
theorem pairwise_not_starts :
    stems.Pairwise fun stem later => ¬ Starts stem.1 later.1 := by
  decide

/-- One stem starts with another one. -/
theorem eq_or_of_starts : ∀ stem ∈ stems, ∀ other ∈ stems, Starts stem.1 other.1 →
    stem = other ∨ stem = ("TIME", .time) ∧ other = ("TIMESTAMP", .timestamp) := by
  decide

/-! ## The first stem is the longest -/

section

variable {declared : String} {stem other : String × Family}

theorem of?_eq_map_find? (declared : String) :
    of? declared = (stems.find? fun stem => decide (Starts stem.1 declared)).map (·.2) := by
  unfold of?
  congr 2
  funext stem
  rw [Bool.eq_iff_iff, List.isPrefixOf_iff_prefix, decide_eq_true_iff]
  rfl

theorem isLongest_of_find?
    (h : (stems.find? fun stem => decide (Starts stem.1 declared)) = some stem) :
    IsLongest stem declared := by
  obtain ⟨hstarts, front, later, hstems, hfront⟩ := List.find?_eq_some_iff_append.mp h
  rw [decide_eq_true_iff] at hstarts
  refine ⟨by simp [hstems], hstarts, ?_⟩
  intro other hmem hother hne
  rw [hstems, List.mem_append, List.mem_cons] at hmem
  rcases hmem with hmem | rfl | hmem
  · simpa [hother] using hfront other hmem
  · exact absurd rfl hne
  · -- A stem that is tried later cannot start with this one, so it is shorter.
    have hpairwise := pairwise_not_starts
    rw [hstems, List.pairwise_append, List.pairwise_cons] at hpairwise
    have hapart : ¬ Starts stem.1 other.1 := hpairwise.2.1.1 other hmem
    apply Nat.lt_of_not_le
    intro hle
    exact hapart (hstarts.of_length_le hother hle)

theorem IsLongest.unique (h : IsLongest stem declared) (h' : IsLongest other declared) :
    stem = other := by
  by_cases heq : stem = other
  · exact heq
  · have hlt := h.longer other h'.mem h'.starts (Ne.symm heq)
    have hgt := h'.longer stem h.mem h.starts heq
    omega

theorem exists_find?_of_starts (hmem : stem ∈ stems) (hstarts : Starts stem.1 declared) :
    ∃ first, (stems.find? fun stem => decide (Starts stem.1 declared)) = some first :=
  Option.isSome_iff_exists.mp (List.find?_isSome.mpr ⟨stem, hmem, decide_eq_true hstarts⟩)

/-- Of the stems that a type starts with, one is the longest. -/
theorem exists_isLongest (hmem : stem ∈ stems) (hstarts : Starts stem.1 declared) :
    ∃ longest, IsLongest longest declared := by
  obtain ⟨first, hfind⟩ := exists_find?_of_starts hmem hstarts
  exact ⟨first, isLongest_of_find? hfind⟩

theorem of?_eq_none_iff :
    of? declared = none ↔ ∀ stem ∈ stems, ¬ Starts stem.1 declared := by
  rw [of?_eq_map_find?, Option.map_eq_none_iff, List.find?_eq_none]
  simp only [decide_eq_true_iff]

theorem of?_eq_some_iff {family : Family} :
    of? declared = some family ↔ ∃ stem, IsLongest stem declared ∧ stem.2 = family := by
  rw [of?_eq_map_find?, Option.map_eq_some_iff]
  constructor
  · rintro ⟨stem, hfind, hfamily⟩
    exact ⟨stem, isLongest_of_find? hfind, hfamily⟩
  · rintro ⟨stem, hlongest, hfamily⟩
    obtain ⟨first, hfind⟩ := exists_find?_of_starts hlongest.mem hlongest.starts
    have heq : first = stem := (isLongest_of_find? hfind).unique hlongest
    exact ⟨first, hfind, heq ▸ hfamily⟩

end

/-! ## Text behind a type -/

section

variable {declared : String} {stem : String × Family}

/-- Text behind a type leaves its longest stem alone, or makes `TIMESTAMP` of `TIME`. -/
theorem IsLongest.append (h : IsLongest stem declared) (more : String) :
    IsLongest stem (declared ++ more) ∨
      stem = ("TIME", .time) ∧ IsLongest ("TIMESTAMP", .timestamp) (declared ++ more) := by
  have hstarts := h.starts.append more
  obtain ⟨longest, hlongest⟩ := exists_isLongest h.mem hstarts
  have hle : stem.1.length ≤ longest.1.length := by
    by_cases heq : stem = longest
    · exact heq ▸ Nat.le_refl _
    · exact Nat.le_of_lt (hlongest.longer stem h.mem hstarts heq)
  have hoverlap : Starts stem.1 longest.1 := hstarts.of_length_le hlongest.starts hle
  rcases eq_or_of_starts stem h.mem longest hlongest.mem hoverlap with rfl | ⟨htime, rfl⟩
  · exact .inl hlongest
  · exact .inr ⟨htime, hlongest⟩

/-- No stem is longer than `TIMESTAMP` where a type starts with it. -/
theorem isLongest_timestamp (h : Starts "TIMESTAMP" declared) :
    IsLongest ("TIMESTAMP", .timestamp) declared := by
  have hmem : ("TIMESTAMP", timestamp) ∈ stems := by decide
  obtain ⟨longest, hlongest⟩ := exists_isLongest hmem h
  by_cases heq : ("TIMESTAMP", timestamp) = longest
  · rw [heq]
    exact hlongest
  · have hle := Nat.le_of_lt (hlongest.longer _ hmem h heq)
    have hoverlap : Starts "TIMESTAMP" longest.1 := h.of_length_le hlongest.starts hle
    rcases eq_or_of_starts _ hmem longest hlongest.mem hoverlap with heq' | ⟨htime, -⟩
    · exact absurd heq' heq
    · exact absurd htime (by decide)

theorem IsLongest.of_completes (h : IsLongest stem declared) {more : String}
    (hmore : Completes declared more) : stem = ("TIME", .time) := by
  have htimestamp := isLongest_timestamp hmore.2
  rcases h.append more with hstem | ⟨htime, -⟩
  · rw [hstem.unique htimestamp] at h
    exact absurd h.starts hmore.1
  · exact htime

theorem IsLongest.of_not_completes (h : IsLongest stem declared) {more : String}
    (hmore : ¬ Completes declared more) : IsLongest stem (declared ++ more) := by
  rcases h.append more with hstem | ⟨rfl, htimestamp⟩
  · exact hstem
  · have hshort : ¬ Starts "TIMESTAMP" declared := by
      intro hstarts
      have heq := h.unique (isLongest_timestamp hstarts)
      exact absurd heq (by decide)
    exact absurd ⟨hshort, htimestamp.starts⟩ hmore

end

/-- A declared type has the family of the longest stem that it starts with, and none if it starts
with no stem. Text behind a type that has a family does not change it, with one exception: where it
completes `TIMESTAMP`, the type had its family by `TIME` and becomes a timestamp. -/
theorem follows_longest_stem (declared : String) :
    (∀ family, of? declared = some family ↔
      ∃ stem, IsLongest stem declared ∧ stem.2 = family) ∧
    (of? declared = none ↔ ∀ stem ∈ stems, ¬ Starts stem.1 declared) ∧
    ∀ family more, of? declared = some family →
      (¬ Completes declared more → of? (declared ++ more) = some family) ∧
      (Completes declared more → IsLongest ("TIME", .time) declared ∧
        of? (declared ++ more) = some .timestamp) := by
  refine ⟨fun _ => of?_eq_some_iff, of?_eq_none_iff, ?_⟩
  intro family more hfamily
  obtain ⟨stem, hstem, rfl⟩ := of?_eq_some_iff.mp hfamily
  constructor
  · intro hmore
    exact of?_eq_some_iff.mpr ⟨stem, hstem.of_not_completes hmore, rfl⟩
  · intro hmore
    obtain rfl := hstem.of_completes hmore
    exact ⟨hstem, of?_eq_some_iff.mpr ⟨_, isLongest_timestamp hmore.2, rfl⟩⟩

/-- `TIMESTA` is a time, also with a precision behind it, and a timestamp as soon as the missing
letters follow. -/
theorem cut_timestamp_follows_time :
    of? "TIMESTA" = some .time ∧
    ¬ Completes "TIMESTA" "(3)" ∧ of? ("TIMESTA" ++ "(3)") = some .time ∧
    Completes "TIMESTA" "MP(3)" ∧ IsLongest ("TIME", .time) "TIMESTA" ∧
      of? ("TIMESTA" ++ "MP(3)") = some .timestamp := by
  have hfamily : of? "TIMESTA" = some .time := by decide
  have hprecision : ¬ Completes "TIMESTA" "(3)" := by decide
  have hletters : Completes "TIMESTA" "MP(3)" := by decide
  obtain ⟨-, -, happend⟩ := follows_longest_stem "TIMESTA"
  exact ⟨hfamily, hprecision, (happend _ _ hfamily).1 hprecision, hletters,
    (happend _ _ hfamily).2 hletters⟩

end Family

end Tributary
