import Tributary.Json.Record
import Tributary.Proofs.Json.Reading

/-!
# Records are read as they are written

A writer answers to a reader if what it writes is read as it was. Writers of items make writers of
lists, maps and records. A record leaves out the fields that have no value, and its names, which
differ, say which those are.
-/

namespace Tributary.Json

/-! ## Writers and readers -/

/-- Values that are read meet a condition, and a value that meets it is written as a plain value
that is read as it was. -/
structure Writes (n : Nat) (read : Json → Option α) (write : α → Json) (Canonical : α → Prop) :
    Prop where
  canonical : ∀ {j : Json} {a : α}, read j = some a → Canonical a
  plain : ∀ {a : α}, Canonical a → Plain n (write a)
  read_write : ∀ {a : α}, Canonical a → read (write a) = some a

namespace Writes

variable {α : Type} {n : Nat} {read : Json → Option α} {write : α → Json} {Canonical : α → Prop}

/-- What is read from a text is read again from the text it is written as. -/
theorem read_toString (h : Writes n read write Canonical) {a : α} (ha : Canonical a) :
    (ofString? (write a).toString).bind read = some a := by
  rw [ofString?_toString (h.plain ha), Option.bind_some, h.read_write ha]

/-- A value that is written where there is one is read, unless it is taken for a null. -/
theorem optional_map (h : Writes n read write Canonical) (hnull : ∀ a, write a ≠ .null)
    {o : Option α} (ho : ∀ a ∈ o, Canonical a) : optional read (o.map write) = some o := by
  cases o with
  | none => rfl
  | some a =>
      rw [Option.map_some, optional, h.read_write (ho a rfl), Option.map_some]
      exact hnull a

theorem optional_always (h : Writes n read write fun _ => True) (hnull : ∀ a, write a ≠ .null)
    (o : Option α) : optional read (o.map write) = some o :=
  h.optional_map hnull fun _ _ => trivial

theorem canonical_optional (h : Writes n read write Canonical) {o : Option Json} {a : Option α}
    (hread : optional read o = some a) : ∀ b ∈ a, Canonical b := by
  unfold optional at hread
  split at hread
  · cases hread
    exact fun b hb => by cases hb
  · cases hread
    exact fun b hb => by cases hb
  · obtain ⟨b, hb, rfl⟩ := Option.map_eq_some_iff.mp hread
    rintro c ⟨rfl⟩
    exact h.canonical hb

theorem canonical_required (h : Writes n read write Canonical) {o : Option Json} {a : α}
    (hread : required read o = some a) : Canonical a := by
  cases o with
  | none => cases hread
  | some j => exact h.canonical hread

theorem canonical_defaulted (h : Writes n read write Canonical) {default : α}
    (hdefault : Canonical default) {o : Option Json} {a : α}
    (hread : defaulted default read o = some a) : Canonical a := by
  cases o with
  | none =>
      cases hread
      exact hdefault
  | some j => exact h.canonical hread

end Writes

/-! ## Single values -/

theorem writes_text {n : Nat} : Writes n string? text fun _ => True where
  canonical _ := trivial
  plain _ := .text _
  read_write _ := rfl

/-- Bounds of words have integers of 64 bits between them. -/
theorem writes_integer {n : Nat} {bounds : Integer.Bounds}
    (hleast : Integer.int64.least ≤ bounds.least)
    (hgreatest : bounds.greatest ≤ Integer.int64.greatest) :
    Writes n (integer? bounds) .integer fun v => bounds.contains v = true where
  canonical {j v} h := by
    cases j with
    | integer w =>
        rw [integer?] at h
        split at h
        next hcontains => cases h; exact hcontains
        next => cases h
    | _ => cases h
  plain {v} h := by
    obtain ⟨hlow, hhigh⟩ := Integer.Bounds.contains_iff.mp h
    exact .integer (Integer.Bounds.contains_iff.mpr
      ⟨Int.le_trans hleast hlow, Int.le_trans hhigh hgreatest⟩)
  read_write h := if_pos h

/-! ## Lists and maps -/

theorem mapM_map {α : Type} {item : Json → Option α} {write : α → Json} {items : List α}
    (h : ∀ a ∈ items, item (write a) = some a) : (items.map write).mapM item = some items := by
  induction items with
  | nil => rfl
  | cons a items ih =>
      rw [List.map_cons, List.mapM_cons, h a List.mem_cons_self,
        ih fun b hb => h b (List.mem_cons_of_mem _ hb)]
      rfl

theorem forall_of_mapM {α : Type} {item : Json → Option α} {P : α → Prop}
    (h : ∀ j a, item j = some a → P a) {js : List Json} {items : List α}
    (hread : js.mapM item = some items) : ∀ a ∈ items, P a := by
  induction js generalizing items with
  | nil =>
      cases hread
      exact fun _ ha => by cases ha
  | cons j js ih =>
      rw [List.mapM_cons] at hread
      obtain ⟨a, ha, hread⟩ := Option.bind_eq_some_iff.mp hread
      obtain ⟨as, has, hread⟩ := Option.bind_eq_some_iff.mp hread
      cases hread
      exact List.forall_mem_cons.mpr ⟨h j a ha, ih has⟩

theorem Writes.list {α : Type} {n : Nat} {item : Json → Option α} {write : α → Json}
    {Canonical : α → Prop} (h : Writes n item write Canonical) :
    Writes (n + 1) (list? item) (fun items => .array (items.map write))
      fun items => ∀ a ∈ items, Canonical a where
  canonical {j items} hread := by
    cases j with
    | array js => exact forall_of_mapM (fun _ _ => h.canonical) hread
    | _ => cases hread
  plain {items} hitems := by
    refine .array fun j hj => ?_
    obtain ⟨a, ha, rfl⟩ := List.mem_map.mp hj
    exact h.plain (hitems a ha)
  read_write hitems := mapM_map fun a ha => h.read_write (hitems a ha)

theorem map_fst_setEntry {α : Type} (entries : List (String × α)) (name : String) (value : α) :
    (setEntry entries name value).map Prod.fst =
      if name ∈ entries.map Prod.fst then entries.map Prod.fst
      else entries.map Prod.fst ++ [name] := by
  have hany : (entries.any (·.1 == name)) = decide (name ∈ entries.map Prod.fst) := by
    rw [Bool.eq_iff_iff, List.any_eq_true, decide_eq_true_eq, List.mem_map]
    simp only [beq_iff_eq]
  unfold setEntry
  rw [hany]
  by_cases h : name ∈ entries.map Prod.fst
  · rw [decide_eq_true h, if_pos rfl, if_pos h, List.map_map]
    refine List.map_congr_left fun e _ => ?_
    simp only [Function.comp_apply]
    split
    next he => exact (beq_iff_eq.mp he).symm
    next => rfl
  · rw [decide_eq_false h, if_neg Bool.false_ne_true, if_neg h, List.map_append]
    rfl

/-- Entries are read with names that differ. -/
theorem nodup_readEntries {α : Type} {item : Json → Option α}
    {fields : List (Option String × Json)} {entries read : List (String × α)}
    (hread : readEntries item entries fields = some read) (h : (entries.map Prod.fst).Nodup) :
    (read.map Prod.fst).Nodup := by
  induction fields generalizing entries with
  | nil => cases hread; exact h
  | cons f fields ih =>
      obtain ⟨name, j⟩ := f
      cases name with
      | none => cases hread
      | some name =>
          obtain ⟨value, -, hread⟩ := Option.bind_eq_some_iff.mp hread
          refine ih hread ?_
          rw [map_fst_setEntry]
          split
          · exact h
          next hnew =>
            exact List.nodup_append.mpr ⟨h, List.pairwise_singleton _ name, by
              rintro a ha b hb rfl
              exact hnew (List.mem_singleton.mp hb ▸ ha)⟩

/-- Fields whose names differ are read in order. -/
theorem readEntries_append {α : Type} {item : Json → Option α} {write : α → Json}
    {entries fields : List (String × α)} (hitem : ∀ f ∈ fields, item (write f.2) = some f.2)
    (h : ((entries ++ fields).map Prod.fst).Nodup) :
    readEntries item entries (fields.map fun f => (some f.1, write f.2)) =
      some (entries ++ fields) := by
  induction fields generalizing entries with
  | nil =>
      rw [List.append_nil]
      rfl
  | cons f fields ih =>
      have hnew : entries.any (·.1 == f.1) = false := by
        rw [List.map_append, List.map_cons, List.nodup_append] at h
        rw [List.any_eq_false]
        intro e he heq
        exact h.2.2 e.1 (List.mem_map_of_mem he) f.1 List.mem_cons_self (beq_iff_eq.mp heq)
      rw [List.map_cons, readEntries, hitem f List.mem_cons_self, Option.bind_eq_bind,
        Option.bind_some, setEntry, hnew, if_neg Bool.false_ne_true,
        ih (fun g hg => hitem g (List.mem_cons_of_mem _ hg))]
      · rw [List.append_assoc]
        rfl
      · rwa [List.append_assoc]

theorem Writes.map {α : Type} {n : Nat} {item : Json → Option α} {write : α → Json}
    (h : Writes n item write fun _ => True) :
    Writes (n + 1) (map? item) (fun entries => .record (entries.map fun e => (e.1, write e.2)))
      fun entries => (entries.map Prod.fst).Nodup where
  canonical {j entries} hread := by
    cases j with
    | object fields => exact nodup_readEntries hread List.nodup_nil
    | _ => cases hread
  plain {entries} _ := by
    refine .record fun f hf => ?_
    obtain ⟨e, -, rfl⟩ := List.mem_map.mp hf
    exact h.plain trivial
  read_write {entries} hnodup := by
    rw [record, map?, List.map_map]
    exact readEntries_append (fun _ _ => h.read_write trivial) hnodup

/-! ## Records -/

/-- The fields of a record that have a value. -/
def written (slots : List (String × Option Json)) : List (String × Json) :=
  slots.flatMap fun s => optionalField s.1 id s.2

@[simp] theorem written_nil : written [] = [] := rfl

@[simp] theorem written_cons (name : String) (o : Option Json)
    (slots : List (String × Option Json)) :
    written ((name, o) :: slots) = optionalField name id o ++ written slots := rfl

@[simp] theorem optionalField_some {α : Type} (name : String) (item : α → Json) (a : α) :
    optionalField name item (some a) = [(name, item a)] := rfl

@[simp] theorem optionalField_map {α : Type} (name : String) (item : α → Json) (o : Option α) :
    optionalField name id (o.map item) = optionalField name item o := by
  cases o <;> rfl

theorem mem_written {slots : List (String × Option Json)} {f : String × Json} :
    f ∈ written slots ↔ (f.1, some f.2) ∈ slots := by
  obtain ⟨name, j⟩ := f
  induction slots with
  | nil => simp
  | cons s slots ih =>
      obtain ⟨name', o⟩ := s
      cases o with
      | none => simp [ih, optionalField]
      | some j' => simp [ih]

theorem valuesOf_cons (name : String) (f : String × Json) (fields : List (String × Json)) :
    valuesOf name ((f :: fields).map fun f => (some f.1, f.2)) =
      (if f.1 = name then [f.2] else []) ++
        valuesOf name (fields.map fun f => (some f.1, f.2)) := by
  unfold valuesOf
  by_cases h : f.1 = name
  · simp [h]
  · simp [h]

theorem valuesOf_of_notMem {name : String} {fields : List (String × Json)}
    (h : name ∉ fields.map Prod.fst) :
    valuesOf name (fields.map fun f => (some f.1, f.2)) = [] := by
  induction fields with
  | nil => rfl
  | cons f fields ih =>
      rw [List.map_cons, List.mem_cons, not_or] at h
      rw [valuesOf_cons, if_neg fun he => h.1 he.symm, ih h.2]
      rfl

/-- A name that no other field has stands for the value of its field. -/
theorem valuesOf_written {slots : List (String × Option Json)} {name : String} {o : Option Json}
    (hnames : (slots.map Prod.fst).Nodup) (hslot : (name, o) ∈ slots) :
    valuesOf name ((written slots).map fun f => (some f.1, f.2)) = o.toList := by
  induction slots with
  | nil => cases hslot
  | cons s slots ih =>
      obtain ⟨name', o'⟩ := s
      rw [List.map_cons, List.nodup_cons] at hnames
      have hother : name' ∉ (written slots).map Prod.fst := by
        intro hmem
        obtain ⟨f, hf, rfl⟩ := List.mem_map.mp hmem
        exact hnames.1 (List.mem_map.mpr ⟨_, mem_written.mp hf, rfl⟩)
      rcases List.mem_cons.mp hslot with heq | hlater
      · cases heq
        have hrest := valuesOf_of_notMem hother
        cases o with
        | none => exact hrest
        | some j =>
            rw [written_cons, optionalField_some, List.singleton_append, valuesOf_cons, if_pos rfl,
              hrest]
            rfl
      · have hne : name' ≠ name := by
          rintro rfl
          exact hnames.1 (List.mem_map.mpr ⟨_, hlater, rfl⟩)
        cases o' with
        | none => exact ih hnames.2 hlater
        | some j =>
            rw [written_cons, optionalField_some, List.singleton_append, valuesOf_cons, if_neg hne]
            exact ih hnames.2 hlater

theorem mapM_of_zip {α β : Type} {f : α → Option β} {as : List α} {bs : List β}
    (hlength : bs.length = as.length) (h : ∀ p ∈ as.zip bs, f p.1 = some p.2) :
    as.mapM f = some bs := by
  induction as generalizing bs with
  | nil =>
      rw [List.length_eq_zero_iff.mp hlength]
      rfl
  | cons a as ih =>
      cases bs with
      | nil => cases hlength
      | cons b bs =>
          rw [List.zip_cons_cons] at h
          rw [List.mapM_cons, h (a, b) List.mem_cons_self,
            ih (Nat.succ.inj hlength) fun p hp => h p (List.mem_cons_of_mem _ hp)]
          rfl

/-- The values of a record are found by its names. -/
theorem fields?_written (names : List String) (values : List (Option Json)) (hnames : names.Nodup)
    (hlength : values.length = names.length) :
    (record (written (names.zip values))).fields? names = some values := by
  have hfst : (names.zip values).map Prod.fst = names :=
    List.map_fst_zip (Nat.le_of_eq hlength.symm)
  rw [record, fields?, if_pos (by simp)]
  refine mapM_of_zip hlength fun p hp => ?_
  rw [valueOf?, valuesOf_written (hfst.symm ▸ hnames) hp]
  cases p.2 <;> rfl

/-- A record is written field by field and read by the names of its fields. -/
theorem writes_record {α : Type} {n : Nat} {read : Json → Option α} {write : α → Json}
    {Canonical : α → Prop} {names : List String} {build : List (Option Json) → Option α}
    (values : α → List (Option Json)) (hread : ∀ j, read j = (j.fields? names).bind build)
    (hwrite : ∀ a, write a = .record (written (names.zip (values a)))) (hnames : names.Nodup)
    (hlength : ∀ a, (values a).length = names.length)
    (hplain : ∀ a, Canonical a → ∀ o ∈ values a, ∀ j ∈ o, Plain n j)
    (hbuild : ∀ a, Canonical a → build (values a) = some a)
    (hcanonical : ∀ os a, build os = some a → Canonical a) :
    Writes (n + 1) read write Canonical where
  canonical {j a} h := by
    rw [hread] at h
    obtain ⟨os, -, h⟩ := Option.bind_eq_some_iff.mp h
    exact hcanonical os a h
  plain {a} ha := by
    rw [hwrite]
    refine .record fun f hf => ?_
    exact hplain a ha (some f.2) (List.of_mem_zip (mem_written.mp hf)).2 f.2 rfl
  read_write {a} ha := by
    rw [hwrite, hread, fields?_written names (values a) hnames (hlength a), Option.bind_some,
      hbuild a ha]

end Tributary.Json
