import Tributary.Proofs.Value.Times

/-!
# Values are read as they are shown

An integer, a truth value, a date and a time of day are shown in a text that decodes into the same
value, however the cell was written that they come from. Dates have a sign if their year does not
have four digits, a fraction of a second is shown in three, six or nine digits, and an offset in
hours and minutes.
-/

namespace Tributary

open Text

/-! ## Integers -/

namespace Integer

/-- A signed word is read as it is written. -/
theorem read_text {v : Int} (h : int64.contains v = true) : read int64 (text v) = .ok v := by
  cases v with
  | ofNat n =>
      obtain ⟨ds, hne, hds, rfl⟩ := exists_toDigits n
      have hread := read_unsigned (b := int64) hne
      rw [readUp_int64, ← hds] at hread
      exact hread.trans (if_pos h)
  | negSucc n =>
      obtain ⟨ds, hne, hds, hvalue⟩ := exists_toDigits (n + 1)
      have hnegative : -(digitsValue (ds.map Fin.val) : Int) = .negSucc n := by
        rw [hvalue]
        rfl
      have hread := readDown_int64 ds
      rw [hnegative, if_pos h, ← hds] at hread
      have hsome : (Nat.toDigits 10 (n + 1)).isEmpty = false := by
        rw [List.isEmpty_eq_false_iff]
        exact Nat.toDigits_ne_nil
      show (if int64.least < 0 then
        afterSign (readDown int64.least 0) (Nat.toDigits 10 (n + 1))
        else .error .invalidDigit) = _
      rw [if_pos (by decide), afterSign, hsome]
      exact hread

end Integer

theorem Decimal.contains_of_truncate? {d : Decimal} {v : Int} (h : d.truncate? = some v) :
    Integer.int64.contains v = true := by
  unfold truncate? at h
  split at h
  · cases h
  · obtain ⟨hword, hv⟩ := Option.ite_none_right_eq_some.mp h
    exact Option.some.inj hv ▸ hword

/-! ## Times of day -/

/-- Digits after the point are a fraction, with zeros for those that are missing. -/
theorem Time.exists_fraction (width : Nat) (hwidth : width < 9) {n : Nat}
    (hn : n < 10 ^ (width + 1)) :
    ∃ ds, '.' :: padded (width + 1) n = fractionText ds ∧
      nanoseconds ds = n * 10 ^ (8 - width) := by
  obtain ⟨ds, hds, hlength, hvalue⟩ := exists_padded width hn
  obtain ⟨d, more, rfl⟩ := List.exists_cons_of_length_eq_add_one hlength
  refine ⟨d :: more, congrArg ('.' :: ·) hds, ?_⟩
  have htake : (d :: more).take 9 = d :: more := List.take_of_length_le (by omega)
  have hplaces : 9 - min 9 (d :: more).length = 8 - width := by omega
  rw [nanoseconds_eq, htake, hvalue, hplaces]

namespace Clock

/-- A fraction is shown in digits that are read as the same number of nanoseconds. -/
theorem exists_fraction {nano : Nat} (h : nano < 1000000000) :
    ∃ ds, fractionText nano = Time.fractionText ds ∧ Time.nanoseconds ds = nano := by
  have hread (width : Nat) (hwidth : width < 9) (hdvd : nano % 10 ^ (8 - width) = 0)
      (hlt : nano / 10 ^ (8 - width) < 10 ^ (width + 1)) :
      ∃ ds, '.' :: padded (width + 1) (nano / 10 ^ (8 - width)) = Time.fractionText ds ∧
        Time.nanoseconds ds = nano := by
    obtain ⟨ds, htext, hvalue⟩ := Time.exists_fraction width hwidth hlt
    exact ⟨ds, htext, hvalue.trans (Nat.div_mul_cancel (Nat.dvd_of_mod_eq_zero hdvd))⟩
  unfold fractionText
  split
  next hzero => exact ⟨[], rfl, hzero.symm⟩
  next =>
    split
    next hmillis => exact hread 2 (by decide) hmillis (by omega)
    next =>
      split
      next hmicros => exact hread 5 (by decide) hmicros (by omega)
      next =>
        have hnanos := hread 8 (by decide) (Nat.mod_one nano) (by omega)
        rwa [Nat.sub_self, Nat.pow_zero, Nat.div_one] at hnanos

/-- What is shown of a clock is written. -/
theorem exists_written (c : Clock) (zone : Option Zone) :
    ∃ t : WrittenTime, t.clockText = c.text ∧ t.clock = c ∧ t.zone = zone := by
  obtain ⟨hour, minute, second, nano, hhour, hminute, hsecond, hnano⟩ := c
  obtain ⟨ds, htext, rfl⟩ := exists_fraction hnano
  refine ⟨⟨⟨hour, hhour⟩, ⟨minute, hminute⟩, ⟨second, Nat.lt_succ_of_le hsecond⟩, ds, zone⟩, ?_,
    rfl, rfl⟩
  unfold WrittenTime.clockText text
  rw [htext]
  simp only [List.append_assoc, List.cons_append]

end Clock

/-- What is shown of an offset is a zone. -/
theorem Offset.exists_zone (o : Offset) : ∃ z : Zone, z.text = o.text ∧ z.offset = o := by
  obtain ⟨minutes, hminutes⟩ := o
  obtain ⟨sign, htext, hsign⟩ : ∃ sign : Sign,
      Sign.text (some sign) = [if minutes < 0 then '-' else '+'] ∧
        sign.apply minutes.natAbs = minutes := by
    split
    next hwest => exact ⟨.minus, rfl, by simp only [Sign.apply]; omega⟩
    next heast => exact ⟨.plus, rfl, by simp only [Sign.apply]; omega⟩
  have hhour : minutes.natAbs / 60 < 24 := by omega
  have hminute : minutes.natAbs % 60 < 60 := Nat.mod_lt _ (by decide)
  let z : Zone := .apart sign ⟨_, hhour⟩ ⟨_, hminute⟩
  have hseconds : z.seconds = 60 * minutes := by
    rw [← hsign]
    exact (sign.sixty_mul_apply (by dsimp only; omega)).symm
  have hoffset : z.seconds / 60 = minutes := by omega
  refine ⟨z, ?_, ?_⟩
  · show Sign.text (some sign) ++ _ = _
    rw [htext]
    rfl
  · unfold Zone.offset
    simp only [hoffset]

/-- A time of day is read as it is shown, with its offset if it has one. -/
theorem Timestamp.readTime_shown (c : Clock) (o : Option Offset) :
    readTime (c.text ++ (o.map Offset.text).getD []) = .ok (c, o) := by
  have hzone : ∃ zone : Option Zone, (zone.map Zone.text).getD [] = (o.map Offset.text).getD [] ∧
      zone.map Zone.offset = o := by
    cases o with
    | none => exact ⟨none, rfl, rfl⟩
    | some o =>
        obtain ⟨z, htext, hoffset⟩ := o.exists_zone
        exact ⟨some z, htext, congrArg some hoffset⟩
  obtain ⟨zone, htext, hoffset⟩ := hzone
  obtain ⟨t, hclock, rfl, rfl⟩ := c.exists_written zone
  have hread := readTime_text t
  rwa [WrittenTime.text, hclock, htext, hoffset] at hread

/-! ## Values -/

/-- The families whose values are shown in full, in the formats where cells are read as them. -/
inductive Family.IsShownInFull : Family → Format → Prop where
  | date : IsShownInFull .date .paged
  | integer (format : Format) : IsShownInFull .integer format
  | bigInt (format : Format) : IsShownInFull .bigInt format
  | time (format : Format) : IsShownInFull .time format
  | boolean (format : Format) : IsShownInFull .boolean format

namespace Value

/-- An integer has to be a signed word of 64 bits. -/
def IsWord : Value → Prop
  | .int64 n => Integer.int64.contains n = true
  | _ => True

theorem isWord_of_ne {v : Value} (h : v.scanType? ≠ some .int64) : v.IsWord := by
  cases v with
  | int64 n => exact absurd rfl h
  | _ => trivial

theorem isWord_of_readInteger {declared cell : String} {v : Value}
    (h : readInteger declared cell = .ok v) : v.IsWord := by
  obtain ⟨n, hread, rfl⟩ := exists_of_map_eq_ok h
  obtain ⟨ds, -, -, -, hword⟩ := Integer.of_read_eq_ok (of_mapError_eq_ok hread)
  exact hword

theorem isWord_of_readDecimal {declared cell : String} {v : Value}
    (h : readDecimal declared cell = .ok v) : v.IsWord := by
  unfold readDecimal at h
  split at h
  · cases h
  next d hd =>
    split at h
    next n htruncate =>
      cases h
      exact Decimal.contains_of_truncate? htruncate
    next => cases h

/-- Integers that are read are signed words. -/
theorem isWord_of_readAs {family : Family} {declared cell : String} {format : Format} {v : Value}
    (h : readAs family declared format cell = .ok v) : v.IsWord := by
  have hkind := scanType?_readAs h
  have hother (hne : family.scanType format ≠ .int64) : v.IsWord :=
    isWord_of_ne (by rw [hkind]; exact fun hsome => hne (Option.some.inj hsome))
  cases family with
  | integer => exact isWord_of_readInteger h
  | bigInt =>
      cases format with
      | paged => exact isWord_of_readInteger h
      | streamed => exact isWord_of_readDecimal h
  | date => exact hother (by cases format <;> decide)
  | _ => exact hother nofun

/-- A value of a family that is shown in full is read as it is shown. -/
theorem readAs_text {family : Family} {format : Format} (hfamily : family.IsShownInFull format)
    (declared : String) {v : Value} (hkind : v.scanType? = some (family.scanType format))
    (hword : v.IsWord) : readAs family declared format v.text = .ok v := by
  have hinteger {n : Int} (hn : Integer.int64.contains n = true) :
      Integer.read Integer.int64 (Value.int64 n).text.toList = .ok n := by
    rw [text, String.toList_ofList]
    exact Integer.read_text hn
  have hreadInteger {n : Int} (hn : Integer.int64.contains n = true) :
      readInteger declared (Value.int64 n).text = .ok (.int64 n) := by
    unfold readInteger
    rw [hinteger hn]
    rfl
  cases hfamily with
  | date =>
      cases v <;> cases hkind
      next d =>
        show readDate (String.ofList d.text) = _
        unfold readDate
        rw [String.toList_ofList, d.read_text]
        rfl
  | integer format =>
      cases v <;> cases hkind
      next n => exact hreadInteger hword
  | bigInt format =>
      cases v <;> cases hkind
      next n =>
        cases format with
        | paged => exact hreadInteger hword
        | streamed =>
            have hsame := readDecimal_of_integer (hinteger hword) declared
            exact hsame.trans (hreadInteger hword)
  | time format =>
      cases v <;> cases hkind
      next clock offset =>
        have htext : (Value.time clock offset).text.toList =
            clock.text ++ (offset.map Offset.text).getD [] := by
          cases offset <;> simp [text]
        exact readTime_of_read (by rw [htext]; exact Timestamp.readTime_shown clock offset)
  | boolean format =>
      cases v <;> cases hkind
      next b =>
        have hread : eqIgnoringCase (Text.truth b) "true" = b := by cases b <;> decide
        exact congrArg (fun b => Except.ok (Value.bool b)) hread

/-- Cells of dates in pages, of integers, of times of day and of truth values decode into values
that are shown in full: what is shown of the value decodes into the same value, with the same type
and in the same format. The values are all those of the kind of the type: every signed word, every
date of the calendar, every time of day with or without an offset, and both truth values. -/
theorem shown_values_decode {family : Family} {declared : String} {format : Format}
    (hdeclared : Family.of? declared = some family) (hfamily : family.IsShownInFull format) :
    (∀ cell v, decode (some cell) declared format = .ok v →
      v.scanType? = some (family.scanType format) ∧ v.IsWord ∧
        decode (some v.text) declared format = .ok v) ∧
      ∀ v : Value, v.scanType? = some (family.scanType format) → v.IsWord →
        decode (some v.text) declared format = .ok v := by
  have hshown (v : Value) (hkind : v.scanType? = some (family.scanType format))
      (hword : v.IsWord) : decode (some v.text) declared format = .ok v := by
    rw [decode_of_family hdeclared]
    exact readAs_text hfamily declared hkind hword
  refine ⟨fun cell v h => ?_, hshown⟩
  rw [decode_of_family hdeclared] at h
  have hkind := scanType?_readAs h
  have hword := isWord_of_readAs h
  exact ⟨hkind, hword, hshown v hkind hword⟩

/-- A date long before our era, a leap second with an offset, and a number with an exponent are
shown otherwise than they were written, and are read as they are shown. So is the least word. -/
theorem unusual_values_decode :
    (Family.of? "DATE;nowrap" = some .date ∧
      ∃ v : Value, decode (some "-04713-11-4") "DATE;nowrap" .paged = .ok v ∧
        v.text = "-4713-11-04" ∧ decode (some v.text) "DATE;nowrap" .paged = .ok v) ∧
      (Family.of? "TIME(3)" = some .time ∧
        ∃ v : Value, decode (some "7:59:60.0250-0530") "TIME(3)" .streamed = .ok v ∧
          v.text = "07:59:60.025-05:30" ∧ decode (some v.text) "TIME(3)" .streamed = .ok v) ∧
      Family.of? "BIGINT" = some .bigInt ∧
        (∃ v : Value, decode (some "+007.9e1") "BIGINT" .streamed = .ok v ∧
          v.text = "79" ∧ decode (some v.text) "BIGINT" .streamed = .ok v) ∧
        decode (some (Value.int64 (-0x8000000000000000)).text) "BIGINT" .streamed =
          .ok (.int64 (-0x8000000000000000)) := by
  have hdate : Family.of? "DATE;nowrap" = some .date := by decide
  have htime : Family.of? "TIME(3)" = some .time := by decide
  have hbigInt : Family.of? "BIGINT" = some .bigInt := by decide
  obtain ⟨hdates, -⟩ := shown_values_decode hdate .date
  obtain ⟨htimes, -⟩ := shown_values_decode htime (.time .streamed)
  obtain ⟨hintegers, hwords⟩ := shown_values_decode hbigInt (.bigInt .streamed)
  let date : Value := .date { year := -4713, month := 11, day := 4 }
  let time : Value :=
    .time { hour := 7, minute := 59, second := 60, nano := 25000000 } (some { minutes := -330 })
  have hdecoded : decode (some "-04713-11-4") "DATE;nowrap" .paged = .ok date := by decide +kernel
  have hdecoded' : decode (some "7:59:60.0250-0530") "TIME(3)" .streamed = .ok time := by
    decide +kernel
  have hdecoded'' : decode (some "+007.9e1") "BIGINT" .streamed = .ok (.int64 79) := by
    decide +kernel
  exact ⟨⟨hdate, date, hdecoded, by decide +kernel, (hdates _ _ hdecoded).2.2⟩,
    ⟨htime, time, hdecoded', by decide +kernel, (htimes _ _ hdecoded').2.2⟩,
    hbigInt, ⟨_, hdecoded'', by decide +kernel, (hintegers _ _ hdecoded'').2.2⟩,
    hwords _ rfl (by unfold IsWord; decide)⟩

end Value

end Tributary
