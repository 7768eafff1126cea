import Tributary.Proofs.Time.Timestamp
import Tributary.Proofs.Value.Decoding

/-!
# Cells that hold times

A timestamp decodes into the instant that its text names: the days of the calendar since 1970, then
the seconds of the clock, less those of the zone. A leap second counts as the second before it and
has a thousand million nanoseconds more. A time of day keeps its clock and its zone.

A cell decodes only if what follows its clock is a zone. The readers are laxer there than a zone is
written, so some texts that are no zone decode as one.
-/

namespace Tributary.Value

open Text

theorem readTimestamp_of_read {declared cell : String} {t : Timestamp}
    (h : Timestamp.read cell.toList = .ok t) :
    readTimestamp declared cell = .ok (.timestamp t) := by
  unfold readTimestamp
  rw [h]
  rfl

theorem readTime_of_read {declared cell : String} {clock : Clock} {offset : Option Offset}
    (h : Timestamp.readTime cell.toList = .ok (clock, offset)) :
    readTime declared cell = .ok (.time clock offset) := by
  unfold readTime
  rw [h]
  rfl

/-- A time of day decodes, or its cell is refused. -/
theorem readTime_cases (declared cell : String) :
    (∃ clock offset, Timestamp.readTime cell.toList = .ok (clock, offset) ∧
      readTime declared cell = .ok (.time clock offset)) ∨
      ∃ message, readTime declared cell = .error (.invalidValue declared cell message) := by
  cases hread : Timestamp.readTime cell.toList with
  | ok parts => exact .inl ⟨parts.1, parts.2, rfl, readTime_of_read hread⟩
  | error e =>
      refine .inr ⟨e.message, ?_⟩
      unfold readTime
      rw [hread]
      rfl

/-- A timestamp decodes, or its cell is refused. -/
theorem readTimestamp_cases (declared cell : String) :
    (∃ t, Timestamp.read cell.toList = .ok t ∧ readTimestamp declared cell = .ok (.timestamp t)) ∨
      ∃ message, readTimestamp declared cell = .error (.invalidValue declared cell message) := by
  cases hread : Timestamp.read cell.toList with
  | ok t => exact .inl ⟨t, rfl, readTimestamp_of_read hread⟩
  | error e =>
      refine .inr ⟨e.message, ?_⟩
      unfold readTimestamp
      rw [hread]
      rfl

/-! ## Instants -/

/-- Timestamps decode into the instant that they name, with the offset that they are written with,
and times of day into the same time of day. A text without exactly one space is no timestamp. -/
theorem timestamps_are_instants (declared : String) :
    (∀ (d : Date) (t : WrittenTime), 0 ≤ d.year ∧ d.year ≤ 9999 →
      ∃ (stamp : Timestamp) (offset : Option Offset),
        readTimestamp declared (String.ofList (d.isoText ++ ' ' :: t.text)) =
            .ok (.timestamp stamp) ∧
          stamp.seconds = 86400 * d.daysSinceEpoch +
            (3600 * t.hour + 60 * t.minute + min t.second.val 59 : Nat) - t.zoneSeconds ∧
          stamp.clock.nanoOfSecond = Time.nanoseconds t.fraction +
            (if t.second = 60 then 1000000000 else 0) ∧
          stamp.offset.seconds = t.zoneSeconds ∧
        readTime declared (String.ofList t.text) = .ok (.time stamp.clock offset) ∧
          stamp.clock.secondOfDay = 3600 * t.hour + 60 * t.minute + min t.second.val 59 ∧
          offset.map Offset.seconds = t.zone.map Zone.seconds) ∧
      ∀ cell : String, cell.toList.count ' ' ≠ 1 →
        readTimestamp declared cell = .error (.invalidValue declared cell "invalid timestamp") := by
  constructor
  · intro d t hyear
    have htime := Timestamp.readTime_text t
    obtain ⟨stamp, hread, hdate, hclock, hoffset⟩ :=
      Timestamp.read_isoText hyear t.space_not_mem_text htime
    have hzone : stamp.offset.seconds = t.zoneSeconds := by
      rw [hoffset, t.zoneSeconds_eq]
    have hseconds := Timestamp.seconds_eq hclock
    rw [hdate, hzone] at hseconds
    refine ⟨stamp, t.zone.map Zone.offset, ?_, hseconds, ?_, hzone, ?_, ?_, ?_⟩
    · exact readTimestamp_of_read (by rw [String.toList_ofList]; exact hread)
    · rw [hclock]
      exact t.nanoOfSecond_clock
    · rw [hclock]
      exact readTime_of_read (by rw [String.toList_ofList]; exact htime)
    · rw [hclock]
      rfl
    · rw [Option.map_map]
      exact congrArg (fun f => t.zone.map f) (funext Zone.seconds_offset)
  · intro cell hspaces
    unfold readTimestamp Timestamp.read
    rw [(Timestamp.spaced?_eq_none_iff cell.toList).mpr hspaces]
    rfl

/-- A leap second at the end of a year, five and a half hours before it in the zone. -/
theorem timestamp_of_leap_second :
    (0 ≤ (2015 : Int) ∧ (2015 : Int) ≤ 9999) ∧
      (∃ (stamp : Timestamp) (offset : Option Offset),
        readTimestamp "TIMESTAMP_TZ(9)" "2015-12-31 23:30:60.9876543219-05:30" =
            .ok (.timestamp stamp) ∧
          stamp.seconds = 1451624459 ∧ stamp.clock.nanoOfSecond = 1987654321 ∧
          stamp.offset.seconds = -19800 ∧
        readTime "TIMESTAMP_TZ(9)" "23:30:60.9876543219-05:30" = .ok (.time stamp.clock offset) ∧
          stamp.clock.secondOfDay = 84659 ∧ offset.map Offset.seconds = some (-19800)) ∧
      readTimestamp "TIMESTAMP_TZ(9)" "2015-12-31 23:30:60 Z" =
        .error (.invalidValue "TIMESTAMP_TZ(9)" "2015-12-31 23:30:60 Z" "invalid timestamp") := by
  obtain ⟨hread, hspaces⟩ := timestamps_are_instants "TIMESTAMP_TZ(9)"
  have hstamp := hread { year := 2015, month := 12, day := 31 }
    { hour := 23, minute := 30, second := 60, fraction := [9, 8, 7, 6, 5, 4, 3, 2, 1, 9],
      zone := some (.apart .minus 5 30) } (by decide)
  rw [← Date.epochDay_eq] at hstamp
  exact ⟨by decide, hstamp, hspaces _ (by decide)⟩

/-! ## Zones -/

/-- What follows the date in a cell: a timestamp has a space before it. -/
def afterDate : Family → List Char → List Char
  | .timestamp, cs => (cs.dropWhile (· != ' ')).tail
  | _, cs => cs

/-- What follows the clock in a cell, from the first character that begins a zone. -/
def afterClock (family : Family) (cell : String) : List Char :=
  (afterDate family cell.toList).dropWhile fun c => !Offset.begins c

/-- A time of day as it stands in a cell: a timestamp has a date before it. -/
def withDate : Family → Date → List Char → List Char
  | .timestamp, d, cs => d.isoText ++ ' ' :: cs
  | _, _, cs => cs

/-- The offset that a value keeps. -/
def offset? : Value → Option Offset
  | .timestamp t => some t.offset
  | .time _ offset => offset
  | _ => none

theorem of_split_eq_ok {text clock : List Char} {offset : Option Offset}
    (h : Offset.split text = .ok (clock, offset)) :
    ((text.dropWhile fun c => !Offset.begins c) = [] ∧ offset = none) ∨
      ∃ o, offset = some o ∧ Zone.Spells (text.dropWhile fun c => !Offset.begins c) o.minutes := by
  unfold Offset.split at h
  dsimp only at h
  split at h
  next hzone =>
    cases h
    exact .inl ⟨hzone, rfl⟩
  next hzone =>
    cases hread : Offset.read (text.dropWhile fun c => !Offset.begins c) with
    | error e =>
        rw [hread] at h
        cases h
    | ok o =>
        rw [hread] at h
        cases h
        exact .inr ⟨o, rfl, (Zone.read_eq_ok_iff _ o).mp hread⟩

theorem of_readTime_eq_ok {text : List Char} {clock : Clock} {offset : Option Offset}
    (h : Timestamp.readTime text = .ok (clock, offset)) :
    ((text.dropWhile fun c => !Offset.begins c) = [] ∧ offset = none) ∨
      ∃ o, offset = some o ∧ Zone.Spells (text.dropWhile fun c => !Offset.begins c) o.minutes := by
  unfold Timestamp.readTime at h
  obtain ⟨⟨clockText, offset'⟩, hsplit, h⟩ := of_bind_eq_ok h
  obtain ⟨clock', -, h⟩ := of_bind_eq_ok h
  cases h
  exact of_split_eq_ok (of_mapError_eq_ok hsplit)

theorem of_spaced?_eq_some {cs front rest : List Char}
    (h : Timestamp.spaced? cs = some (front, rest)) : (cs.dropWhile (· != ' ')).tail = rest := by
  unfold Timestamp.spaced? at h
  split at h
  next hdrop =>
    split at h
    · cases h
    · cases h
      rw [hdrop]
      rfl
  next => cases h

theorem of_read_eq_ok {text : List Char} {t : Timestamp} (h : Timestamp.read text = .ok t) :
    ∃ clock offset, Timestamp.readTime (text.dropWhile (· != ' ')).tail = .ok (clock, offset) ∧
      t.offset = offset.getD .utc := by
  unfold Timestamp.read at h
  split at h
  · cases h
  next front rest hspaced =>
    rw [of_spaced?_eq_some hspaced]
    obtain ⟨d, -, h⟩ := of_bind_eq_ok h
    obtain ⟨⟨clock, offset⟩, htime, h⟩ := of_bind_eq_ok h
    dsimp only at h
    split at h
    next timestamp hparts =>
      cases h
      unfold Timestamp.ofParts? at hparts
      split at hparts
      · cases hparts
        exact ⟨clock, offset, htime, rfl⟩
      · cases hparts
    next => cases h

theorem decode_of_family {family : Family} {declared : String}
    (hdeclared : Family.of? declared = some family) (format : Format) (cell : String) :
    decode (some cell) declared format = readAs family declared format cell := by
  unfold decode
  dsimp only
  rw [hdeclared]

/-- What follows the clock of a cell that decodes is nothing, or is read as the offset of the
value. -/
theorem spells_of_decode {family : Family} (hfamily : family = .time ∨ family = .timestamp)
    {declared : String} (hdeclared : Family.of? declared = some family) {format : Format}
    {cell : String} {v : Value} (h : decode (some cell) declared format = .ok v) :
    (afterClock family cell = [] ∧ v.offset?.getD .utc = .utc) ∨
      ∃ o, v.offset? = some o ∧ Zone.Spells (afterClock family cell) o.minutes := by
  rw [decode_of_family hdeclared] at h
  rcases hfamily with rfl | rfl
  · change readTime declared cell = .ok v at h
    rcases readTime_cases declared cell with ⟨clock, offset, hread, hvalue⟩ | ⟨message, hfault⟩
    · rw [hvalue] at h
      cases h
      rcases of_readTime_eq_ok hread with ⟨hnone, rfl⟩ | hsome
      · exact .inl ⟨hnone, rfl⟩
      · exact .inr hsome
    · rw [hfault] at h
      cases h
  · change readTimestamp declared cell = .ok v at h
    rcases readTimestamp_cases declared cell with ⟨t, hread, hvalue⟩ | ⟨message, hfault⟩
    · rw [hvalue] at h
      cases h
      obtain ⟨clock, offset, htime, hoffset⟩ := of_read_eq_ok hread
      rcases of_readTime_eq_ok htime with ⟨hnone, rfl⟩ | ⟨o, rfl, hspells⟩
      · exact .inl ⟨hnone, hoffset⟩
      · exact .inr ⟨o, congrArg some hoffset, hspells⟩
    · rw [hfault] at h
      cases h

/-- Cells of times do not decode by one kind of fault only. -/
theorem invalidValue_of_decode {family : Family}
    (hfamily : family = .time ∨ family = .timestamp) {declared : String}
    (hdeclared : Family.of? declared = some family) {format : Format} {cell : String}
    {e : ConversionError} (h : decode (some cell) declared format = .error e) :
    ∃ message, e = .invalidValue declared cell message := by
  rw [decode_of_family hdeclared] at h
  rcases hfamily with rfl | rfl
  · change readTime declared cell = .error e at h
    rcases readTime_cases declared cell with ⟨clock, offset, -, hvalue⟩ | ⟨message, hfault⟩
    · rw [hvalue] at h
      cases h
    · rw [hfault] at h
      cases h
      exact ⟨message, rfl⟩
  · change readTimestamp declared cell = .error e at h
    rcases readTimestamp_cases declared cell with ⟨t, -, hvalue⟩ | ⟨message, hfault⟩
    · rw [hvalue] at h
      cases h
    · rw [hfault] at h
      cases h
      exact ⟨message, rfl⟩

/-- What is read as a zone is read after every clock, and after every date with a year of four
digits. -/
theorem decode_of_spells {family : Family} (hfamily : family = .time ∨ family = .timestamp)
    {declared : String} (hdeclared : Family.of? declared = some family) (format : Format)
    {d : Date} (hyear : 0 ≤ d.year ∧ d.year ≤ 9999) (t : WrittenTime) {zone : List Char}
    {minutes : Int} (h : Zone.Spells zone minutes) :
    ∃ v o, decode (some (String.ofList (withDate family d (t.clockText ++ zone)))) declared format =
        .ok v ∧ v.offset? = some o ∧ o.minutes = minutes := by
  obtain ⟨o, rfl, -⟩ := Zone.read_of_spells h
  have hread := Timestamp.readTime_of_split (Offset.split_clockText_append t h)
  rw [decode_of_family hdeclared]
  rcases hfamily with rfl | rfl
  · have hvalue : readTime declared (String.ofList (t.clockText ++ zone)) =
        .ok (.time t.clock (some o)) :=
      readTime_of_read (by rw [String.toList_ofList]; exact hread)
    exact ⟨_, o, hvalue, rfl, rfl⟩
  · have hspace : ' ' ∉ t.clockText ++ zone := by
      rw [List.mem_append, not_or]
      exact ⟨t.space_not_mem_clockText, Zone.space_not_mem_of_spells h⟩
    obtain ⟨stamp, hstamp, -, -, hoffset⟩ := Timestamp.read_isoText hyear hspace hread
    refine ⟨_, o, readTimestamp_of_read ?_, congrArg some hoffset, rfl⟩
    rw [String.toList_ofList]
    exact hstamp

/-- A cell of times that decodes has nothing after its clock, or what is read as a zone, which is a
zone as it is written or a lax one. Any other cell is refused, whatever else it holds, and all that
is read as a zone is read after every clock. -/
theorem zones_are_spelled {family : Family} (hfamily : family = .time ∨ family = .timestamp)
    {declared : String} (hdeclared : Family.of? declared = some family) (format : Format) :
    (∀ (cell : String) (v : Value), decode (some cell) declared format = .ok v →
      (afterClock family cell = [] ∧ v.offset?.getD .utc = .utc) ∨
        ∃ o, v.offset? = some o ∧ Zone.Spells (afterClock family cell) o.minutes ∧
          ((∃ z : Zone, afterClock family cell = z.text ∧ o.seconds = z.seconds) ∨
            Zone.IsLax (afterClock family cell))) ∧
      (∀ cell : String, afterClock family cell ≠ [] →
        (∀ minutes, ¬ Zone.Spells (afterClock family cell) minutes) →
          ∃ message,
            decode (some cell) declared format = .error (.invalidValue declared cell message)) ∧
      ∀ (d : Date) (t : WrittenTime) (zone : List Char) (minutes : Int),
        0 ≤ d.year ∧ d.year ≤ 9999 → Zone.Spells zone minutes →
          ∃ v o, decode (some (String.ofList (withDate family d (t.clockText ++ zone)))) declared
              format = .ok v ∧ v.offset? = some o ∧ o.minutes = minutes := by
  refine ⟨?_, ?_, ?_⟩
  · intro cell v h
    rcases spells_of_decode hfamily hdeclared h with hnone | ⟨o, hoffset, hspells⟩
    · exact .inl hnone
    · refine .inr ⟨o, hoffset, hspells, ?_⟩
      by_cases hlax : Zone.IsLax (afterClock family cell)
      · exact .inr hlax
      · exact .inl (Zone.exists_text_of_spells hspells hlax)
  · intro cell hne hrefused
    cases h : decode (some cell) declared format with
    | error e =>
        obtain ⟨message, rfl⟩ := invalidValue_of_decode hfamily hdeclared h
        exact ⟨message, rfl⟩
    | ok v =>
        rcases spells_of_decode hfamily hdeclared h with ⟨hnone, -⟩ | ⟨o, -, hspells⟩
        · exact absurd hnone hne
        · exact absurd hspells (hrefused o.minutes)
  · intro d t zone minutes hyear hspells
    exact decode_of_spells hfamily hdeclared format hyear t hspells

/-- A zone of five hours to the west decodes, and one of a whole day does not. -/
theorem zones_of_time_are_spelled :
    ((Family.time = .time ∨ Family.time = .timestamp) ∧ Family.of? "TIME(3)" = some .time) ∧
      (∃ o : Offset, Zone.Spells "-05:00".toList o.minutes ∧ o.minutes = -300 ∧
        ∃ z : Zone, "-05:00".toList = z.text ∧ o.seconds = z.seconds) ∧
      ∃ message, decode (some "12:30:00+24:00") "TIME(3)" .streamed =
        .error (.invalidValue "TIME(3)" "12:30:00+24:00" message) := by
  have hdeclared : Family.of? "TIME(3)" = some .time := by decide
  obtain ⟨hread, hrefused, -⟩ := zones_are_spelled (.inl rfl) hdeclared .streamed
  refine ⟨⟨.inl rfl, hdeclared⟩, ?_, ?_⟩
  · rcases hread "12:30:00-05:00" (.time ⟨12, 30, 0, 0, by decide, by decide, by decide, by decide⟩
      (some ⟨-300, by decide⟩)) (by decide) with ⟨hnone, -⟩ | ⟨o, hoffset, hspells, hzone⟩
    · cases hnone
    · cases hoffset
      rcases hzone with hzone | hlax
      · exact ⟨_, hspells, rfl, hzone⟩
      · exact absurd hlax (Zone.not_isLax_text (.apart .minus 5 0))
  · refine hrefused "12:30:00+24:00" (by decide) ?_
    intro minutes hspells
    obtain ⟨o, -, hread⟩ := Zone.read_of_spells hspells
    cases hread

/-- An hour of more than sixty minutes is read after a sign, and is no zone that can be written. -/
theorem zone_of_many_minutes_is_read :
    Family.of? "TIME" = some .time ∧ afterClock .time "10:00:00+00:99" = "+00:99".toList ∧
      decode (some "10:00:00+00:99") "TIME" .paged =
        .ok (.time { hour := 10, minute := 0, second := 0, nano := 0 } (some { minutes := 99 })) ∧
      ¬ ∃ z : Zone, "+00:99".toList = z.text := by
  refine ⟨by decide, by decide, by decide, ?_⟩
  rintro ⟨z, hz⟩
  apply z.not_isLax_text
  rw [← hz]
  exact ⟨.plus, "00:99".toList, by decide, .inr ⟨0, 99, by decide, by decide⟩⟩

end Tributary.Value
