import Tributary.Proofs.Text.Splitting
import Tributary.Proofs.Time.Calendar
import Tributary.Proofs.Time.Zone
import Tributary.Time.Timestamp

/-!
# Dates and times are read as they are written

A date with a year of four digits, and a time of day with any fraction and any zone, are read as
their own fields. A timestamp is cut at its only space and its time of day where the zone begins:
neither the date nor the fields of the clock hold a space or a character that begins a zone. Texts
with no space or with several are no timestamps.
-/

namespace Tributary

open Text

namespace Date

/-- Writes `YYYY-MM-DD`, with four digits for the year. -/
def isoText (d : Date) : List Char :=
  padded 4 d.year.toNat ++ '-' :: (padded 2 d.month ++ '-' :: padded 2 d.day)

end Date

/-- A time of day as it is written: the second of a leap second is 60, a fraction has any number of
digits, and a zone may follow. -/
structure WrittenTime where
  hour : Fin 24
  minute : Fin 60
  second : Fin 61
  fraction : List (Fin 10) := []
  zone : Option Zone := none
  deriving DecidableEq, Repr

namespace WrittenTime

/-- Writes the fields of the clock. -/
def clockText (t : WrittenTime) : List Char :=
  padded 2 t.hour ++ ':' :: (padded 2 t.minute ++ ':' :: (padded 2 t.second ++
    Time.fractionText t.fraction))

/-- Writes a time of day: its clock, and its zone if there is one. -/
def text (t : WrittenTime) : List Char :=
  t.clockText ++ (t.zone.map Zone.text).getD []

/-- The seconds from universal time to the zone; none, if no zone is written. -/
def zoneSeconds (t : WrittenTime) : Int :=
  (t.zone.map Zone.seconds).getD 0

/-- The time of day that is written, without the digits of the fraction after the ninth. -/
def clock (t : WrittenTime) : Clock where
  hour := t.hour
  minute := t.minute
  second := t.second
  nano := Time.nanoseconds t.fraction
  hour_lt := t.hour.isLt
  minute_lt := t.minute.isLt
  second_le := Nat.le_of_lt_succ t.second.isLt
  nano_lt := Time.nanoseconds_lt t.fraction

end WrittenTime

theorem WrittenTime.zoneSeconds_eq (t : WrittenTime) :
    t.zoneSeconds = ((t.zone.map Zone.offset).getD .utc).seconds := by
  unfold zoneSeconds
  cases t.zone with
  | none => rfl
  | some z => exact z.seconds_offset.symm

/-! ## Characters -/

namespace Time

theorem isDigit_of_mem_padded {width n : Nat} (h : n < 10 ^ (width + 1)) {c : Char}
    (hc : c ∈ padded (width + 1) n) : ∃ v, digit? c = some v := by
  obtain ⟨ds, hds, -, -⟩ := exists_padded width h
  rw [hds] at hc
  exact Decimal.digit?_of_mem_digitsText hc

/-- Digits neither separate the parts of a timestamp nor begin a zone. -/
theorem plain_of_digit {c : Char} {v : Nat} (h : digit? c = some v) :
    c ≠ ' ' ∧ Offset.begins c = false := by
  constructor
  · rintro rfl
    cases h
  · rw [← Bool.not_eq_true]
    intro hbegins
    simp only [Offset.begins, Bool.or_eq_true, beq_iff_eq] at hbegins
    rcases hbegins with (rfl | rfl) | rfl <;> cases h

theorem plain_of_mem_padded {width n : Nat} (h : n < 10 ^ (width + 1)) {c : Char}
    (hc : c ∈ padded (width + 1) n) : c ≠ ' ' ∧ Offset.begins c = false := by
  obtain ⟨v, hv⟩ := isDigit_of_mem_padded h hc
  exact plain_of_digit hv

theorem plain_of_mem_fractionText {ds : List (Fin 10)} {c : Char} (hc : c ∈ fractionText ds) :
    c ≠ ' ' ∧ Offset.begins c = false := by
  cases ds with
  | nil => cases hc
  | cons d ds =>
      rcases List.mem_cons.mp hc with rfl | hc
      · decide
      · obtain ⟨v, hv⟩ := Decimal.digit?_of_mem_digitsText hc
        exact plain_of_digit hv

end Time

/-- The fields of the clock hold no space and no character that begins a zone. -/
theorem WrittenTime.plain_of_mem_clockText (t : WrittenTime) :
    ∀ c ∈ t.clockText, c ≠ ' ' ∧ Offset.begins c = false := by
  have hfield {n : Nat} (h : n < 100) (rest : List Char)
      (hrest : ∀ c ∈ rest, c ≠ ' ' ∧ Offset.begins c = false) :
      ∀ c ∈ padded 2 n ++ rest, c ≠ ' ' ∧ Offset.begins c = false := by
    intro c hc
    rcases List.mem_append.mp hc with hc | hc
    · exact Time.plain_of_mem_padded h hc
    · exact hrest c hc
  have hcolon : ':' ≠ ' ' ∧ Offset.begins ':' = false := by decide
  refine hfield (by omega) _ (List.forall_mem_cons.mpr ⟨hcolon, ?_⟩)
  refine hfield (by omega) _ (List.forall_mem_cons.mpr ⟨hcolon, ?_⟩)
  exact hfield (by omega) _ fun c hc => Time.plain_of_mem_fractionText hc

/-- No space stands in what is read as a zone. -/
theorem Zone.space_not_mem_of_spells {zone : List Char} {minutes : Int}
    (h : Spells zone minutes) : ' ' ∉ zone := by
  have hdigits (n : Fin 100) : ' ' ∉ padded 2 n := fun hc =>
    (Time.plain_of_mem_padded n.isLt hc).1 rfl
  have hsigned (sign : Sign) {rest : List Char} (hrest : ' ' ∉ rest.filter (· != ':')) :
      ' ' ∉ Sign.text (some sign) ++ rest := by
    rw [List.mem_append, not_or]
    constructor
    · cases sign <;> decide
    · intro hc
      exact hrest (List.mem_filter.mpr ⟨hc, by decide⟩)
  cases h with
  | universal => decide
  | hours sign hour hrest =>
      apply hsigned
      rw [hrest]
      exact hdigits ⟨hour, by omega⟩
  | minutes sign hour minute hrest hday =>
      apply hsigned
      rw [hrest, List.mem_append, not_or]
      exact ⟨hdigits hour, hdigits minute⟩

theorem WrittenTime.space_not_mem_clockText (t : WrittenTime) : ' ' ∉ t.clockText := fun h =>
  (t.plain_of_mem_clockText ' ' h).1 rfl

theorem WrittenTime.space_not_mem_text (t : WrittenTime) : ' ' ∉ t.text := by
  rw [text, List.mem_append, not_or]
  refine ⟨t.space_not_mem_clockText, ?_⟩
  cases t.zone with
  | none => exact List.not_mem_nil
  | some z => exact Zone.space_not_mem_of_spells z.spells_offset

/-! ## Times of day -/

/-- A leap second has a thousand million nanoseconds more. -/
theorem WrittenTime.nanoOfSecond_clock (t : WrittenTime) :
    t.clock.nanoOfSecond =
      Time.nanoseconds t.fraction + (if t.second = 60 then 1000000000 else 0) := by
  have hleap : t.clock.isLeap = decide (t.second = 60) := by
    rw [Clock.isLeap, beq_eq_decide, decide_eq_decide, Fin.ext_iff]
    rfl
  unfold Clock.nanoOfSecond
  rw [hleap]
  by_cases h : t.second = 60
  · rw [if_pos (decide_eq_true h), if_pos h, Nat.add_comm]
    rfl
  · rw [if_neg (by rw [decide_eq_true_eq]; exact h), if_neg h]
    rfl

theorem Clock.read_clockText (t : WrittenTime) : Clock.read t.clockText = .ok t.clock := by
  have hhour := Time.field_padded (Nat.zero_le t.hour) (Nat.le_of_lt_succ t.hour.isLt)
    (by omega)
  have hminute := Time.field_padded (Nat.zero_le t.minute) (Nat.le_of_lt_succ t.minute.isLt)
    (by omega)
  have hsecond := Time.field_padded (Nat.zero_le t.second) (Nat.le_of_lt_succ t.second.isLt)
    (by omega)
  have hfields : ofFields? t.hour t.minute t.second (Time.nanoseconds t.fraction) =
      some t.clock := by
    unfold ofFields?
    rw [dif_pos t.hour.isLt, dif_pos t.minute.isLt, dif_pos (Nat.le_of_lt_succ t.second.isLt),
      dif_pos (Time.nanoseconds_lt t.fraction)]
    rfl
  unfold Clock.read WrittenTime.clockText
  simp only [hhour, hminute, hsecond, Time.literal, Time.fraction_fractionText, Time.finish,
    hfields, bind, Except.bind, if_true]

theorem WrittenTime.clockText_before_zone (t : WrittenTime) :
    ∀ c ∈ t.clockText, (!Offset.begins c) = true := by
  intro c hc
  rw [(t.plain_of_mem_clockText c hc).2]
  rfl

/-- A clock is cut off where the zone begins. -/
theorem Offset.split_clockText_append (t : WrittenTime) {zone : List Char} {o : Offset}
    (h : Zone.Spells zone o.minutes) :
    Offset.split (t.clockText ++ zone) = .ok (t.clockText, some o) := by
  obtain ⟨c, rest, hzone, hbegins⟩ := Zone.begins_of_spells h
  obtain ⟨htake, hdrop⟩ := span_append zone t.clockText_before_zone (by
    intro d hd
    rw [hzone] at hd
    cases hd
    rw [hbegins]
    rfl)
  have hread := (Zone.read_eq_ok_iff zone o).mpr h
  rw [hzone] at hread
  unfold Offset.split
  dsimp only
  rw [htake, hdrop, hzone]
  dsimp only
  rw [hread]
  rfl

theorem Offset.split_clockText (t : WrittenTime) :
    Offset.split t.clockText = .ok (t.clockText, none) := by
  obtain ⟨htake, hdrop⟩ := span_append [] t.clockText_before_zone nofun
  rw [List.append_nil] at htake hdrop
  unfold Offset.split
  dsimp only
  rw [htake, hdrop]

namespace Timestamp

theorem readTime_of_split {t : WrittenTime} {text : List Char} {offset : Option Offset}
    (h : Offset.split text = .ok (t.clockText, offset)) :
    readTime text = .ok (t.clock, offset) := by
  unfold readTime
  rw [h, Except.mapError, ok_bind]
  dsimp only
  rw [Clock.read_clockText]
  rfl

/-- A time of day is read as it is written. -/
theorem readTime_text (t : WrittenTime) :
    readTime t.text = .ok (t.clock, t.zone.map Zone.offset) := by
  apply readTime_of_split
  unfold WrittenTime.text
  cases t.zone with
  | none =>
      rw [Option.map_none, Option.getD_none, List.append_nil]
      exact Offset.split_clockText t
  | some z => exact Offset.split_clockText_append t z.spells_offset

end Timestamp

/-! ## Dates -/

theorem Time.year_of_digit {c : Char} {v n : Nat} {cs rest : List Char} (h : digit? c = some v)
    (hnumber : Time.number 4 (c :: cs) = .ok (n, rest)) (hn : n < 10000) :
    Time.year (c :: cs) = .ok ((n : Int), rest) := by
  have hblank : trimStart (c :: cs) = c :: cs :=
    List.dropWhile_cons_of_neg (by rw [isBlank_of_digit? h]; exact Bool.false_ne_true)
  unfold Time.year
  rw [hblank]
  split
  next heq =>
    cases heq
    cases h
  next heq =>
    cases heq
    cases h
  next =>
    rw [hnumber, Except.map, ok_bind]
    dsimp only
    rw [if_pos (by omega)]

/-- A year in four digits is read, whatever follows. -/
theorem Time.year_padded {n : Nat} (h : n < 10000) (rest : List Char) :
    Time.year (padded 4 n ++ rest) = .ok ((n : Int), rest) := by
  obtain ⟨hnumber, -⟩ := Time.number_padded 3 (n := n) (by omega) (by omega) rest
  obtain ⟨ds, hds, hlength, -⟩ := exists_padded 3 (n := n) (by omega)
  obtain ⟨d, ds, rfl⟩ := List.exists_cons_of_length_eq_add_one hlength
  rw [hds] at hnumber ⊢
  exact Time.year_of_digit (digit?_digit d) hnumber h

theorem Time.year_plus {n : Nat} {cs rest : List Char}
    (hnumber : Time.number cs.length cs = .ok (n, rest)) (hn : n < 0x80000000) :
    Time.year ('+' :: cs) = .ok ((n : Int), rest) := by
  show ((Time.number cs.length cs).map fun r => ((r.1 : Int), r.2)).bind _ = _
  have hfits : -0x80000000 ≤ (n : Int) ∧ (n : Int) < 0x80000000 := by omega
  rw [hnumber, Except.map, Except.bind]
  exact if_pos hfits

theorem Time.year_minus {n : Nat} {cs rest : List Char}
    (hnumber : Time.number cs.length cs = .ok (n, rest)) (hn : n ≤ 0x80000000) :
    Time.year ('-' :: cs) = .ok (-(n : Int), rest) := by
  show ((Time.number cs.length cs).map fun r => (-(r.1 : Int), r.2)).bind _ = _
  have hfits : -0x80000000 ≤ -(n : Int) ∧ -(n : Int) < 0x80000000 := by omega
  rw [hnumber, Except.map, Except.bind]
  exact if_pos hfits

/-- A year is read as it is written, with a sign or without one. -/
theorem Time.year_yearText {y : Int} (hy : -0x80000000 ≤ y ∧ y < 0x80000000) {rest : List Char}
    (hrest : ∀ c ∈ rest.head?, digit? c = none) :
    Time.year (Date.yearText y ++ rest) = .ok (y, rest) := by
  unfold Date.yearText
  split
  next hfour =>
    have hyear := Time.year_padded (n := y.toNat) (by omega) rest
    rwa [Int.toNat_of_nonneg hfour.1] at hyear
  next =>
    split
    next hpos =>
      have hnumber := Time.number_digits 4 y.toNat (by omega) hrest
      have hyear := Time.year_plus hnumber (by omega)
      rwa [Int.toNat_of_nonneg hpos] at hyear
    next hneg =>
      have hnumber := Time.number_digits 4 (-y).toNat (by omega) hrest
      have hyear := Time.year_minus hnumber (by omega)
      rwa [Int.toNat_of_nonneg (by omega), neg_neg] at hyear

/-- A date is read as its month and its day are written, whichever way its year is written. -/
theorem Date.read_of_year {d : Date} {yearText : List Char}
    (hyear : ∀ rest, Time.year (yearText ++ '-' :: rest) = .ok (d.year, '-' :: rest)) :
    Date.read (yearText ++ '-' :: (padded 2 d.month ++ '-' :: padded 2 d.day)) = .ok d := by
  have hmonth := Time.field_padded d.month_mem.1 d.month_mem.2 (by have := d.month_mem; omega)
  have hdays := daysInMonth_le d.year d.month
  have hday := Time.field_padded d.day_mem.1 (d.day_mem.2.trans hdays)
    (by have := d.day_mem; omega) []
  have hfields : ofFields? d.year d.month d.day = some d := by
    unfold ofFields?
    rw [dif_pos d.year_mem, dif_pos d.month_mem, dif_pos d.day_mem]
  rw [List.append_nil] at hday
  unfold Date.read
  simp only [hyear, hmonth, hday, Time.literal, Time.finish, hfields, bind, Except.bind, if_true]

/-- A date is read as it is shown. -/
theorem Date.read_text (d : Date) : Date.read d.text = .ok d := by
  have hfits : -0x80000000 ≤ d.year ∧ d.year < 0x80000000 := by
    have := d.year_mem
    omega
  rw [text, List.append_assoc]
  apply Date.read_of_year
  intro rest
  apply Time.year_yearText hfits
  intro c hc
  cases hc
  rfl

/-- A date with a year of four digits is read as it is written. -/
theorem Date.read_isoText {d : Date} (h : 0 ≤ d.year ∧ d.year ≤ 9999) :
    Date.read d.isoText = .ok d := by
  have hyear := Time.year_padded (n := d.year.toNat) (by omega)
  rw [Int.toNat_of_nonneg h.1] at hyear
  exact Date.read_of_year fun rest => hyear ('-' :: rest)

theorem Date.space_not_mem_isoText {d : Date} (h : 0 ≤ d.year ∧ d.year ≤ 9999) :
    ' ' ∉ d.isoText := by
  have hdigits {width n : Nat} (h : n < 10 ^ (width + 1)) : ' ' ∉ padded (width + 1) n :=
    fun hc => (Time.plain_of_mem_padded h hc).1 rfl
  have hmonth := d.month_mem
  have hday := d.day_mem
  have hdays := daysInMonth_le d.year d.month
  simp only [isoText, List.mem_append, List.mem_cons, not_or]
  exact ⟨hdigits (by omega), by decide, hdigits (by omega), by decide, hdigits (by omega)⟩

/-! ## Timestamps -/

namespace Timestamp

/-- A text has two parts where it has exactly one space. -/
theorem spaced?_eq_none_iff (cs : List Char) : spaced? cs = none ↔ cs.count ' ' ≠ 1 := by
  have hfront : (cs.takeWhile (· != ' ')).count ' ' = 0 := by
    rw [List.count_eq_zero]
    intro h
    have := List.mem_takeWhile_imp h
    cases this
  have hcount : cs.count ' ' = (cs.dropWhile (· != ' ')).count ' ' := by
    conv_lhs => rw [← List.takeWhile_append_dropWhile (p := (· != ' ')) (l := cs)]
    rw [List.count_append, hfront, Nat.zero_add]
  rw [hcount]
  unfold spaced?
  cases hdrop : cs.dropWhile (· != ' ') with
  | nil => simp
  | cons c rest =>
      have hc : c = ' ' := by
        have := List.head?_dropWhile_not (· != ' ') cs
        rw [hdrop] at this
        simpa using this
      subst hc
      rw [List.count_cons_self]
      by_cases hmem : ' ' ∈ rest
      · have := List.count_pos_iff.mpr hmem
        simp [hmem]
        omega
      · simp [hmem, List.count_eq_zero.mpr hmem]

theorem spaced?_append {front rest : List Char} (hfront : ' ' ∉ front) (hrest : ' ' ∉ rest) :
    spaced? (front ++ ' ' :: rest) = some (front, rest) := by
  obtain ⟨htake, hdrop⟩ := span_mark hfront rest
  unfold spaced?
  rw [htake, hdrop]
  dsimp only
  rw [if_neg (by simpa using hrest)]

/-- Years of four digits are supported in all zones. -/
theorem isSupported_unixSeconds {d : Date} (h : 0 ≤ d.year ∧ d.year ≤ 9999) (clock : Clock)
    (offset : Offset) : isSupported (unixSeconds d clock offset) = true := by
  have hday := Date.epochDay_mem h
  have hoffset := offset.minutes_mem
  have hhour := clock.hour_lt
  have hminute := clock.minute_lt
  have hfirst : Date.first.epochDay < -1000002 := by decide
  have hlast : 4000002 < Date.last.epochDay := by decide
  unfold isSupported unixSeconds Clock.secondOfDay Offset.seconds
  rw [Bool.and_eq_true, decide_eq_true_eq, decide_eq_true_eq]
  omega

/-- A timestamp is read as it is written; without a zone it is universal time. -/
theorem read_isoText {d : Date} (h : 0 ≤ d.year ∧ d.year ≤ 9999) {text : List Char}
    {clock : Clock} {offset : Option Offset} (hspace : ' ' ∉ text)
    (hread : readTime text = .ok (clock, offset)) :
    ∃ stamp : Timestamp, read (d.isoText ++ ' ' :: text) = .ok stamp ∧ stamp.date = d ∧
      stamp.clock = clock ∧ stamp.offset = offset.getD .utc := by
  have hsupported := isSupported_unixSeconds h clock (offset.getD .utc)
  refine ⟨⟨d, clock, _, hsupported⟩, ?_, rfl, rfl, rfl⟩
  unfold read
  rw [spaced?_append (Date.space_not_mem_isoText h) hspace]
  simp only [Date.read_isoText h, hread, ofParts?, hsupported, bind, Except.bind,
    Except.mapError, dif_pos]

/-- The instant of a timestamp, from what is written. -/
theorem seconds_eq {stamp : Timestamp} {t : WrittenTime} (hclock : stamp.clock = t.clock) :
    stamp.seconds = 86400 * stamp.date.daysSinceEpoch +
      (3600 * t.hour + 60 * t.minute + min t.second.val 59 : Nat) - stamp.offset.seconds := by
  unfold seconds unixSeconds
  rw [Date.epochDay_eq, hclock]
  rfl

end Timestamp

end Tributary
