import Tributary.Proofs.Wire.Codes
import Tributary.Wire.Service
import Tributary.Wire.Statement

/-!
# Messages are read as they are written

Each message is a record: what it leaves out is read as left out, and what has a default is always
written. Integers are read within the bounds of their words and are written within them.
-/

namespace Tributary

open Json (text string? bool? uuid? integer? list? nullable required defaulted optional Writes
  writes_text writes_integer writes_record)

/-! ## Fields that are always readable -/

theorem required_text (s : String) : required string? (some (text s)) = some s :=
  writes_text.read_write (n := 0) trivial

theorem required_uuid (u : Uuid) : required uuid? (some (text u.toString)) = some u :=
  writes_uuid.read_write (n := 0) trivial

theorem optional_text (o : Option String) : optional string? (o.map text) = some o :=
  writes_text.optional_always (n := 0) (fun _ h => by cases h) o

theorem optional_uuid (o : Option Uuid) :
    optional uuid? (o.map fun u => text u.toString) = some o :=
  writes_uuid.optional_always (n := 0) (fun _ h => by cases h) o

theorem optional_state (o : Option SqlState) :
    optional SqlState.read? (o.map SqlState.json) = some o :=
  SqlState.writes.optional_always (n := 0) (fun _ h => by cases h) o

theorem writes_time {n : Nat} :
    Writes n (integer? Integer.int64) .integer fun t => Integer.int64.contains t = true :=
  writes_integer (Int.le_refl _) (Int.le_refl _)

theorem optional_time {o : Option Int} (h : ∀ t ∈ o, Integer.int64.contains t = true) :
    optional (integer? Integer.int64) (o.map .integer) = some o :=
  writes_time.optional_map (n := 0) (fun _ h => by cases h) h

/-! ## Statements -/

theorem StatementParameters.writes {n : Nat} : Writes (n + 1) read? json fun _ => True := by
  refine writes_record (fun p => [p.sessionId.map text, p.timezone.map text]) (fun _ => rfl)
    (fun p => by simp [json]) (by decide) (fun _ => rfl)
    ?plain ?read (fun _ _ _ => trivial)
  case plain =>
    simp [Json.Plain.text]
  case read =>
    simp [optional_text]

theorem StatementBody.writes {n : Nat} : Writes (n + 2) read? json fun _ => True := by
  refine writes_record
    (fun b => [some (text b.statement), b.organization.map text, b.role.map text,
      b.database.map text, b.schema.map text, b.store.map text, b.computePool.map text,
      b.parameters.map StatementParameters.json])
    (fun _ => rfl) (fun b => by simp [json]) (by decide) (fun _ => rfl)
    ?plain ?read (fun _ _ _ => trivial)
  case plain =>
    simp [Json.Plain.text, StatementParameters.writes.plain]
  case read =>
    have hparameters (o : Option StatementParameters) :
        optional StatementParameters.read? (o.map StatementParameters.json) = some o :=
      StatementParameters.writes.optional_always (n := 1) (fun _ h => by cases h) o
    simp [required_text, optional_text, hparameters]

/-- The time of an answer is a word of 64 bits. -/
def StatementStatus.InBounds (s : StatementStatus) : Prop :=
  ∀ t ∈ s.createdOn, Integer.int64.contains t = true

theorem StatementStatus.writes {n : Nat} : Writes (n + 1) read? json InBounds := by
  refine writes_record
    (fun s => [some (text s.statementId.toString), s.sqlState.map SqlState.json,
      s.message.map text, s.createdOn.map .integer])
    (fun _ => rfl) (fun s => by simp [json]) (by decide) (fun _ => rfl)
    ?plain ?read ?canonical
  case plain =>
    intro s hs
    simpa [Json.Plain.text, SqlState.writes.plain] using fun t ht => .integer (hs t ht)
  case read =>
    intro s hs
    simp [required_uuid, optional_text, optional_state, optional_time hs]
  case canonical =>
    intro os s h
    split at h
    · simp only [Option.bind_eq_bind, Option.bind_eq_some_iff] at h
      obtain ⟨_, -, _, -, _, -, _, htime, h⟩ := h
      cases h
      exact writes_time.canonical_optional (n := 0) htime
    · cases h

/-! ## Contexts and redirects -/

theorem Context.writes {n : Nat} : Writes (n + 1) read? json fun _ => True := by
  refine writes_record
    (fun c => [c.organization.map fun u => text u.toString, c.role.map text, c.database.map text,
      c.schema.map text, c.store.map text, c.computePool.map text])
    (fun _ => rfl) (fun c => by simp [json]) (by decide) (fun _ => rfl)
    ?plain ?read (fun _ _ _ => trivial)
  case plain =>
    simp [Json.Plain.text]
  case read =>
    simp [optional_uuid, optional_text]

theorem Redirect.writes {n : Nat} : Writes (n + 1) read? json fun _ => True := by
  refine writes_record
    (fun r => [some (text r.uri), some (text r.token), some (text r.kind.word),
      r.statementId.map fun u => text u.toString, r.queryId.map text])
    (fun _ => rfl) (fun r => by simp [json]) (by decide) (fun _ => rfl)
    ?plain ?read (fun _ _ _ => trivial)
  case plain =>
    simp [Json.Plain.text]
  case read =>
    have hkind (kind : RedirectKind) :
        required RedirectKind.read? (some (text kind.word)) = some kind :=
      RedirectKind.writes.read_write (n := 0) trivial
    simp [required_text, hkind, optional_uuid, optional_text]

/-! ## Result sets -/

theorem ResultColumn.writes {n : Nat} : Writes (n + 1) read? json fun _ => True := by
  refine writes_record
    (fun c => [some (text c.name), some (text c.declared), some (.bool c.nullable)])
    (fun _ => rfl) (fun c => by simp [json]) (by decide) (fun _ => rfl)
    ?plain ?read (fun _ _ _ => trivial)
  case plain =>
    simp [Json.Plain.text, Json.Plain.bool]
  case read =>
    simp [required_text, defaulted, bool?]

namespace ResultMetadata

theorem writes_partition {n : Nat} :
    Writes (n + 1) readPartition? (fun rows => .record [("rowCount", .integer rows)])
      fun rows => Integer.int32.contains rows = true := by
  have hword :
      Writes n (integer? Integer.int32) .integer fun v => Integer.int32.contains v = true :=
    writes_integer (by decide) (by decide)
  refine writes_record (fun rows => [some (.integer rows)]) (fun _ => rfl) (fun _ => by simp)
    (by decide) (fun _ => rfl)
    ?plain ?read ?canonical
  case plain =>
    intro rows hrows
    simpa using hword.plain hrows
  case read =>
    exact fun rows hrows => hword.read_write hrows
  case canonical =>
    intro os rows h
    split at h
    · exact hword.canonical_required h
    · cases h

/-- The numbers of rows are words of 32 bits. -/
def InBounds (m : ResultMetadata) : Prop :=
  ∀ rows ∈ m.partitions, Integer.int32.contains rows = true

theorem writes {n : Nat} : Writes (n + 3) read? json InBounds := by
  have hpartitions := (writes_partition (n := n)).list
  have hcolumns := (ResultColumn.writes (n := n)).list
  refine writes_record
    (fun m => [m.encoding.map text,
      some (.array (m.partitions.map fun n => .record [("rowCount", .integer n)])),
      some (.array (m.columns.map ResultColumn.json)), m.redirect.map Redirect.json,
      m.context.map Context.json])
    (fun _ => rfl) (fun m => by simp [json]) (by decide) (fun _ => rfl)
    ?plain ?read ?canonical
  case plain =>
    intro m hm
    simp [Json.Plain.text, hpartitions.plain hm, hcolumns.plain, Redirect.writes.plain,
      Context.writes.plain]
  case read =>
    intro m hm
    have hredirect : optional Redirect.read? (m.redirect.map Redirect.json) = some m.redirect :=
      Redirect.writes.optional_always (n := 1) (fun _ h => by cases h) _
    have hcontext : optional Context.read? (m.context.map Context.json) = some m.context :=
      Context.writes.optional_always (n := 1) (fun _ h => by cases h) _
    simp [optional_text, defaulted, hpartitions.read_write hm, hcolumns.read_write, hredirect,
      hcontext]
  case canonical =>
    intro os m h
    split at h
    · simp only [Option.bind_eq_bind, Option.bind_eq_some_iff] at h
      obtain ⟨_, -, _, hread, _, -, _, -, _, -, h⟩ := h
      cases h
      exact hpartitions.canonical_defaulted (List.forall_mem_nil _) hread
    · cases h

end ResultMetadata

theorem writes_row {n : Nat} : Writes (n + 1) readRow? rowJson fun _ => True := by
  have hcell : Writes n (nullable string?) cellJson fun _ => True :=
    { canonical := fun _ => trivial
      plain := fun {o} _ => by cases o <;> constructor
      read_write := fun {o} _ => by cases o <;> rfl }
  exact
    { canonical := fun _ => trivial
      plain := fun _ => hcell.list.plain fun _ _ => trivial
      read_write := fun _ => hcell.list.read_write fun _ _ => trivial }

namespace ResultSet

/-- The integers of a result set are words of 64 or 32 bits. -/
structure InBounds (r : ResultSet) : Prop where
  createdOn : ∀ t ∈ r.createdOn, Integer.int64.contains t = true
  metadata : r.metadata.InBounds

theorem writes {n : Nat} : Writes (n + 4) read? json InBounds := by
  have hmetadata := ResultMetadata.writes (n := n)
  have hrows := (writes_row (n := n + 1)).list
  refine writes_record
    (fun r => [some (text r.statementId.toString), some r.sqlState.json, r.message.map text,
      r.createdOn.map .integer, some r.metadata.json,
      r.data.map fun rows => .array (rows.map rowJson)])
    (fun _ => rfl) (fun r => by simp [json]) (by decide) (fun _ => rfl)
    ?plain ?read ?canonical
  case plain =>
    intro r hr
    have htime (t : Int) (ht : r.createdOn = some t) : Json.Plain (n + 3) (.integer t) :=
      .integer (hr.createdOn t ht)
    simpa [Json.Plain.text, SqlState.writes.plain, hmetadata.plain hr.metadata, hrows.plain]
  case read =>
    intro r hr
    have hstate : required SqlState.read? (some r.sqlState.json) = some r.sqlState :=
      SqlState.writes.read_write (n := 0) trivial
    have hrest : required ResultMetadata.read? (some r.metadata.json) = some r.metadata :=
      hmetadata.read_write hr.metadata
    have hdata : optional (list? readRow?)
        (r.data.map fun rows => .array (rows.map rowJson)) = some r.data :=
      hrows.optional_map (fun _ h => by cases h) fun _ _ _ _ => trivial
    simp [required_uuid, hstate, optional_text, hrest, optional_time hr.createdOn, hdata]
  case canonical =>
    intro os r h
    split at h
    · simp only [Option.bind_eq_bind, Option.bind_eq_some_iff] at h
      obtain ⟨_, -, _, -, _, -, _, htime, _, hrest, _, -, h⟩ := h
      cases h
      exact ⟨writes_time.canonical_optional (n := 0) htime, hmetadata.canonical_required hrest⟩
    · cases h

end ResultSet

/-! ## Errors and versions -/

theorem ErrorBody.writes {n : Nat} : Writes (n + 1) read? json fun _ => True := by
  refine writes_record (fun e => [some (text e.message)]) (fun _ => rfl)
    (fun e => by simp [json]) (by decide) (fun _ => rfl)
    ?plain ?read (fun _ _ _ => trivial)
  case plain =>
    simp [Json.Plain.text]
  case read =>
    simp [required_text]

namespace Version

/-- The parts of a version are words of 32 bits without a sign. -/
structure InBounds (v : Version) : Prop where
  major : Integer.nat32.contains v.major = true
  minor : Integer.nat32.contains v.minor = true
  patch : Integer.nat32.contains v.patch = true

theorem writes {n : Nat} : Writes (n + 1) read? json InBounds := by
  have hword :
      Writes n (integer? Integer.nat32) .integer fun v => Integer.nat32.contains v = true :=
    writes_integer (by decide) (by decide)
  refine writes_record
    (fun v => [some (.integer v.major), some (.integer v.minor), some (.integer v.patch)])
    (fun _ => rfl) (fun v => by simp [json]) (by decide) (fun _ => rfl)
    ?plain ?read ?canonical
  case plain =>
    intro v hv
    simp [hword.plain hv.major, hword.plain hv.minor, hword.plain hv.patch]
  case read =>
    intro v hv
    simp [defaulted, hword.read_write hv.major, hword.read_write hv.minor,
      hword.read_write hv.patch]
  case canonical =>
    intro os v h
    split at h
    · simp only [Option.bind_eq_bind, Option.bind_eq_some_iff] at h
      obtain ⟨_, hmajor, _, hminor, _, hpatch, h⟩ := h
      cases h
      have hzero : Integer.nat32.contains 0 = true := by decide
      exact ⟨hword.canonical_defaulted hzero hmajor, hword.canonical_defaulted hzero hminor,
        hword.canonical_defaulted hzero hpatch⟩
    · cases h

end Version

end Tributary
