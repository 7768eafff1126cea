import Tributary.Proofs.Wire.Messages
import Tributary.Wire.Stream

/-!
# Messages on a streaming socket are read as they are written

A message is written with its type in front, which no field of it is named after, and without its
type it is the record that was written. Headers are read with names that differ, and in whichever
order they are written.
-/

namespace Tributary

open Json (text string? bool? integer? list? map? required defaulted optional optionalField Writes
  writes_text writes_record)

/-! ## Tags -/

/-- The type of a message is found among its fields, and the other fields are left. -/
theorem Json.tagged?_withTag {n : Nat} (hn : n ≤ taggedDepth) {tag : String}
    {fields : List (String × Json)} (hplain : Plain n (withTag tag fields))
    (htype : "type" ∉ fields.map Prod.fst) :
    (withTag tag fields).tagged? = some (tag, record fields) := by
  have hguard : ((withTag tag fields).isReadable &&
      decide ((withTag tag fields).depth ≤ taggedDepth)) = true := by
    rw [hplain.isReadable, decide_eq_true (Nat.le_trans hplain.depth_le hn)]
    rfl
  have hvalue : valueOf? "type" ((("type", text tag) :: fields).map fun f => (some f.1, f.2)) =
      some (some (text tag)) := by
    rw [valueOf?, valuesOf_cons, if_pos rfl, valuesOf_of_notMem htype]
    rfl
  have hbody : ((("type", text tag) :: fields).map fun f => (some f.1, f.2)).filter
      (·.1 != some "type") = fields.map fun f => (some f.1, f.2) := by
    rw [List.map_cons, List.filter_cons_of_neg (by simp), List.filter_eq_self]
    intro f hf
    obtain ⟨g, hg, rfl⟩ := List.mem_map.mp hf
    refine bne_iff_ne.mpr fun h => htype ?_
    exact List.mem_map.mpr ⟨g, hg, Option.some.inj h⟩
  unfold tagged?
  rw [if_pos hguard]
  dsimp only [withTag, record]
  rw [hvalue]
  exact congrArg (fun others => some (tag, Json.object others)) hbody

/-- A message with its type in front is as plain as its fields. -/
theorem Json.Plain.withTag {n : Nat} {fields : List (String × Json)}
    (h : Plain (n + 1) (Json.record fields)) (tag : String) :
    Plain (n + 1) (Json.withTag tag fields) := by
  refine .record fun f hf => ?_
  rcases List.mem_cons.mp hf with rfl | hf
  · exact .text tag
  · exact plain_record_iff.mp h f hf

/-! ## The message of the client -/

theorem AuthMessage.writes : Writes 1 read? json fun _ => True where
  canonical _ := trivial
  plain {m} _ := .record (by simp [Json.Plain.text])
  read_write {m} _ := by
    have hplain : Json.Plain 1 m.json := .record (by simp [Json.Plain.text])
    have hfields : (Json.record [("accessToken", text m.accessToken),
        ("sessionId", text m.sessionId)]).fields? ["accessToken", "sessionId"] =
        some [some (text m.accessToken), some (text m.sessionId)] :=
      Json.fields?_written ["accessToken", "sessionId"]
        [some (text m.accessToken), some (text m.sessionId)] (by decide) rfl
    rw [read?, json, Json.tagged?_withTag (by decide) hplain (by simp)]
    simp [hfields, required_text]

/-! ## Columns and headers -/

namespace StreamColumn

/-- The dimensions of a column are words of 64 bits. -/
structure InBounds (c : StreamColumn) : Prop where
  length : ∀ v ∈ c.length, Integer.int64.contains v = true
  precision : ∀ v ∈ c.precision, Integer.int64.contains v = true
  scale : ∀ v ∈ c.scale, Integer.int64.contains v = true

theorem writes {n : Nat} : Writes (n + 1) read? json InBounds := by
  refine writes_record
    (fun c => [some (text c.name), some (.bool c.nullable), some (text c.declared),
      c.length.map .integer, c.precision.map .integer, c.scale.map .integer])
    (fun _ => rfl) (fun c => by simp [json]) (by decide) (fun _ => rfl)
    ?plain ?read ?canonical
  case plain =>
    intro c hc
    have hword {o : Option Int} (ho : ∀ v ∈ o, Integer.int64.contains v = true) :
        ∀ v, o = some v → Json.Plain n (.integer v) := fun v hv => .integer (ho v hv)
    simpa [Json.Plain.text, Json.Plain.bool] using
      ⟨hword hc.length, hword hc.precision, hword hc.scale⟩
  case read =>
    intro c hc
    simp [required_text, defaulted, bool?, optional_time hc.length, optional_time hc.precision,
      optional_time hc.scale]
  case canonical =>
    intro os c h
    split at h
    · simp only [Option.bind_eq_bind, Option.bind_eq_some_iff] at h
      obtain ⟨_, -, _, -, _, -, _, hlength, _, hprecision, _, hscale, h⟩ := h
      cases h
      exact ⟨writes_time.canonical_optional (n := 0) hlength,
        writes_time.canonical_optional (n := 0) hprecision,
        writes_time.canonical_optional (n := 0) hscale⟩
    · cases h

end StreamColumn

/-- Names of headers differ. -/
def Headers.Distinct (headers : Headers) : Prop :=
  (headers.map Prod.fst).Nodup

theorem writes_headers {n : Nat} :
    Writes (n + 1) (map? string?) headersJson Headers.Distinct :=
  writes_text.map

theorem Headers.Distinct.of_defaulted {o : Option Json} {headers : Headers}
    (h : defaulted [] (map? string?) o = some headers) : headers.Distinct :=
  writes_headers.canonical_defaulted (n := 1) (show Headers.Distinct [] from List.nodup_nil) h

theorem map?_headersJson {headers : Headers} (h : headers.Distinct) :
    map? string? (headersJson headers) = some headers :=
  writes_headers.read_write (n := 1) h

/-! ## Messages of the server -/

namespace StreamMetadata

/-- Names of headers differ, and the dimensions of columns are words. -/
structure InBounds (m : StreamMetadata) : Prop where
  headers : m.headers.Distinct
  columns : ∀ c ∈ m.columns, c.InBounds

theorem writes : Writes 3 read?
    (fun m => .record
      [("headers", headersJson m.headers), ("columns", .array (m.columns.map StreamColumn.json))])
    InBounds := by
  have hcolumns : Writes 2 (list? StreamColumn.read?) _ _ := StreamColumn.writes.list
  refine writes_record
    (fun m => [some (headersJson m.headers), some (.array (m.columns.map StreamColumn.json))])
    (fun _ => rfl) (fun m => rfl) (by decide) (fun _ => rfl)
    ?plain ?read ?canonical
  case plain =>
    intro m hm
    simp [writes_headers.plain hm.headers, hcolumns.plain hm.columns]
  case read =>
    intro m hm
    simp [map?_headersJson hm.headers, defaulted, hcolumns.read_write hm.columns]
  case canonical =>
    intro os m h
    split at h
    · simp only [Option.bind_eq_bind, Option.bind_eq_some_iff] at h
      obtain ⟨_, hheaders, _, hread, h⟩ := h
      cases h
      exact ⟨.of_defaulted hheaders, hcolumns.canonical_defaulted (List.forall_mem_nil _) hread⟩
    · cases h

end StreamMetadata

namespace StreamData

/-- Names of headers differ. -/
def InBounds (d : StreamData) : Prop :=
  d.headers.Distinct

theorem writes : Writes 3 read?
    (fun d => .record [("headers", headersJson d.headers), ("data", rowJson d.data)]) InBounds := by
  refine writes_record (fun d => [some (headersJson d.headers), some (rowJson d.data)])
    (fun _ => rfl) (fun m => rfl) (by decide) (fun _ => rfl)
    ?plain ?read ?canonical
  case plain =>
    intro d hd
    simp [writes_headers.plain hd, writes_row.plain]
  case read =>
    intro d hd
    simp [map?_headersJson hd, defaulted, writes_row.read_write (n := 1)]
  case canonical =>
    intro os d h
    split at h
    · simp only [Option.bind_eq_bind, Option.bind_eq_some_iff] at h
      obtain ⟨_, hheaders, _, -, h⟩ := h
      cases h
      exact .of_defaulted hheaders
    · cases h

end StreamData

namespace StreamError

/-- Names of headers differ. -/
def InBounds (e : StreamError) : Prop :=
  e.headers.Distinct

theorem writes : Writes 3 read?
    (fun e => .record
      ([("headers", headersJson e.headers), ("message", text e.message)] ++
        optionalField "sqlCode" SqlState.json e.sqlCode))
    InBounds := by
  refine writes_record
    (fun e => [some (headersJson e.headers), some (text e.message), e.sqlCode.map SqlState.json])
    (fun _ => rfl) (fun e => by simp) (by decide) (fun _ => rfl)
    ?plain ?read ?canonical
  case plain =>
    intro e he
    simp [writes_headers.plain he, Json.Plain.text, SqlState.writes.plain]
  case read =>
    intro e he
    simp [map?_headersJson he, defaulted, string?, text, optional_state]
  case canonical =>
    intro os e h
    split at h
    · simp only [Option.bind_eq_bind, Option.bind_eq_some_iff] at h
      obtain ⟨_, hheaders, _, -, _, -, h⟩ := h
      cases h
      exact .of_defaulted hheaders
    · cases h

end StreamError

namespace ServerMessage

/-- Names of headers differ, and the dimensions of columns are words. -/
def InBounds : ServerMessage → Prop
  | .metadata m => m.InBounds
  | .data d => d.InBounds
  | .error e => e.InBounds
  | .unknown => True

theorem inBounds_of_read? {j : Json} {m : ServerMessage} (h : read? j = some m) : m.InBounds := by
  obtain ⟨⟨tag, body⟩, -, h⟩ := Option.bind_eq_some_iff.mp h
  dsimp only at h
  split at h
  · obtain ⟨m, hm, rfl⟩ := Option.map_eq_some_iff.mp h
    exact StreamMetadata.writes.canonical hm
  split at h
  · obtain ⟨d, hd, rfl⟩ := Option.map_eq_some_iff.mp h
    exact StreamData.writes.canonical hd
  split at h
  · obtain ⟨e, he, rfl⟩ := Option.map_eq_some_iff.mp h
    exact StreamError.writes.canonical he
  split at h
  · cases h
  · cases h
    exact trivial

theorem writes : Writes 3 read? json InBounds where
  canonical := inBounds_of_read?
  plain {m} hm := by
    cases m with
    | metadata m => exact (StreamMetadata.writes.plain hm).withTag "metadata"
    | data d => exact (StreamData.writes.plain hm).withTag "data"
    | error e => exact (StreamError.writes.plain hm).withTag "error"
    | unknown => exact Json.Plain.withTag (.record fun _ h => by cases h) "unknown"
  read_write {m} hm := by
    cases m with
    | metadata m =>
        have hplain := (StreamMetadata.writes.plain hm).withTag "metadata"
        have hread := StreamMetadata.writes.read_write hm
        rw [json, read?, Json.tagged?_withTag (by decide) hplain (by simp)]
        simp [hread]
    | data d =>
        have hplain := (StreamData.writes.plain hm).withTag "data"
        have hread := StreamData.writes.read_write hm
        rw [json, read?, Json.tagged?_withTag (by decide) hplain (by simp)]
        simp [hread]
    | error e =>
        have hplain := (StreamError.writes.plain hm).withTag "error"
        have hread := StreamError.writes.read_write hm
        have htype : "type" ∉ ([("headers", headersJson e.headers), ("message", text e.message)] ++
            optionalField "sqlCode" SqlState.json e.sqlCode).map Prod.fst := by
          cases e.sqlCode <;> simp [optionalField]
        rw [json, read?, Json.tagged?_withTag (by decide) hplain htype, Option.bind_eq_bind,
          Option.bind_some]
        dsimp only
        rw [if_neg (by decide), if_neg (by decide), if_pos rfl, hread]
        rfl
    | unknown => rfl

end ServerMessage

end Tributary
