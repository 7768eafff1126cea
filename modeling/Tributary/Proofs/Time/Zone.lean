import Tributary.Proofs.Text.Splitting
import Tributary.Proofs.Time.Fields
import Tributary.Time.Zone

/-!
# Zones

A zone is written `Z`, or as a sign with two digits of hours and perhaps two of minutes, with or
without a colon between them. All of these are read as the offset that they write. Readers let some
more texts pass: they skip colons wherever they stand, and take minutes up to 99 as long as the
offset is less than a day. All other texts are refused.
-/

namespace Tributary

open Text

/-- Gives a number a sign. -/
def Sign.apply : Sign → Int → Int
  | .plus, n => n
  | .minus, n => -n

theorem Sign.sixty_mul_apply (sign : Sign) {n m : Int} (h : m = 60 * n) :
    60 * sign.apply n = sign.apply m := by
  cases sign with
  | plus => exact h.symm
  | minus =>
      show 60 * -n = -m
      omega

/-- A zone that is written: universal time, or hours to the east or to the west with or without
minutes, which a colon may set apart. -/
inductive Zone where
  | universal
  | hours (sign : Sign) (hour : Fin 24)
  | joined (sign : Sign) (hour : Fin 24) (minute : Fin 60)
  | apart (sign : Sign) (hour : Fin 24) (minute : Fin 60)
  deriving DecidableEq, Repr

namespace Zone

/-- Writes a zone. -/
def text : Zone → List Char
  | universal => ['Z']
  | hours sign hour => Sign.text (some sign) ++ padded 2 hour
  | joined sign hour minute => Sign.text (some sign) ++ (padded 2 hour ++ padded 2 minute)
  | apart sign hour minute => Sign.text (some sign) ++ (padded 2 hour ++ ':' :: padded 2 minute)

/-- The seconds from universal time to the time of a zone. -/
def seconds : Zone → Int
  | universal => 0
  | hours sign hour => sign.apply (3600 * hour)
  | joined sign hour minute => sign.apply (3600 * hour + 60 * minute)
  | apart sign hour minute => sign.apply (3600 * hour + 60 * minute)

/-- What is read as a zone of some minutes. -/
inductive Spells : List Char → Int → Prop where
  | universal : Spells ['Z'] 0
  | hours (sign : Sign) (hour : Fin 24) {rest : List Char}
      (h : rest.filter (· != ':') = padded 2 hour) :
      Spells (Sign.text (some sign) ++ rest) (sign.apply (60 * hour))
  | minutes (sign : Sign) (hour minute : Fin 100) {rest : List Char}
      (h : rest.filter (· != ':') = padded 2 hour ++ padded 2 minute)
      (hday : 60 * hour.val + minute.val < 1440) :
      Spells (Sign.text (some sign) ++ rest) (sign.apply (60 * hour + minute))

/-- What readers let pass: colons elsewhere than between hours and minutes, or more minutes than
an hour has. -/
def IsLax (zone : List Char) : Prop :=
  ∃ (sign : Sign) (rest : List Char), zone = Sign.text (some sign) ++ rest ∧
    ((':' ∈ rest ∧ ¬ ∃ hour minute : Fin 100, rest = padded 2 hour ++ ':' :: padded 2 minute) ∨
      ∃ hour minute : Fin 100, 60 ≤ minute.val ∧
        rest.filter (· != ':') = padded 2 hour ++ padded 2 minute)

/-! ## Two digits -/

theorem exists_two_digits (n : Fin 100) :
    ∃ a b : Fin 10, padded 2 n = digitsText [a, b] ∧ n.val = 10 * a + b := by
  obtain ⟨ds, hds, hlength, hvalue⟩ := exists_padded 1 (n := n) n.isLt
  obtain ⟨a, b, rfl⟩ := List.length_eq_two.mp hlength
  exact ⟨a, b, hds, by simpa [digitsValue] using hvalue.symm⟩

theorem padded_of_digits (a b : Fin 10) :
    ∃ n : Fin 100, padded 2 n = digitsText [a, b] ∧ n.val = 10 * a + b := by
  obtain ⟨a', b', htext, hvalue⟩ := exists_two_digits ⟨10 * a + b, by omega⟩
  dsimp only at hvalue
  obtain rfl : a = a' := by omega
  obtain rfl : b = b' := by omega
  exact ⟨_, htext, rfl⟩

theorem length_padded_two (n : Fin 100) : (padded 2 n).length = 2 := by
  obtain ⟨a, b, htext, -⟩ := exists_two_digits n
  rw [htext]
  rfl

theorem padded_two_injective {m n : Fin 100} (h : padded 2 m = padded 2 n) : m = n := by
  have hread (n : Fin 100) := (Time.number_padded 1 (n := n) n.isLt (by omega) []).1
  have hm := hread m
  rw [h, hread n] at hm
  injection hm with hm
  exact Fin.ext (congrArg Prod.fst hm).symm

theorem colon_not_mem_padded_two (n : Fin 100) : ':' ∉ padded 2 n := by
  revert n
  decide

theorem filter_of_not_mem {cs : List Char} (h : ':' ∉ cs) : cs.filter (· != ':') = cs := by
  rw [List.filter_eq_self]
  exact forall_bne_of_not_mem h

/-- Digits are left where colons are dropped. -/
theorem filter_padded_two (n : Fin 100) : (padded 2 n).filter (· != ':') = padded 2 n :=
  filter_of_not_mem (colon_not_mem_padded_two n)

theorem padded_append_injective {hour minute hour' minute' : Fin 100}
    (h : padded 2 hour ++ padded 2 minute = padded 2 hour' ++ padded 2 minute') :
    hour = hour' ∧ minute = minute' := by
  have hlength : (padded 2 hour).length = (padded 2 hour').length := by
    rw [length_padded_two, length_padded_two]
  obtain ⟨hhour, hminute⟩ := List.append_inj h hlength
  exact ⟨padded_two_injective hhour, padded_two_injective hminute⟩

/-- Two digits are not four. -/
theorem padded_ne_append (n hour minute : Fin 100) :
    padded 2 n ≠ padded 2 hour ++ padded 2 minute := by
  intro h
  have hlength := congrArg List.length h
  rw [List.length_append, length_padded_two, length_padded_two, length_padded_two] at hlength
  omega

theorem filter_apart (hour minute : Fin 100) :
    (padded 2 hour ++ ':' :: padded 2 minute).filter (· != ':') =
      padded 2 hour ++ padded 2 minute := by
  rw [List.filter_append, List.filter_cons_of_neg (by decide), filter_padded_two,
    filter_padded_two]

/-! ## Reading -/

/-- Two digits are hours, and four are hours and minutes. -/
theorem digitMinutes?_eq_some_iff (cs : List Char) (n : Nat) :
    Offset.digitMinutes? cs = some n ↔
      (∃ hour : Fin 100, cs = padded 2 hour ∧ n = 60 * hour) ∨
        ∃ hour minute : Fin 100, cs = padded 2 hour ++ padded 2 minute ∧
          n = 60 * hour + minute := by
  constructor
  · intro h
    unfold Offset.digitMinutes? at h
    split at h
    next x y hdigits =>
      obtain ⟨ds, rfl, hds⟩ := Decimal.eq_digitsText_of_digits? hdigits
      match ds, hds with
      | [a, b], hds =>
        cases hds
        cases h
        obtain ⟨hour, hhour, hvalue⟩ := padded_of_digits a b
        exact .inl ⟨hour, hhour.symm, by rw [hvalue]⟩
    next x y u v hdigits =>
      obtain ⟨ds, rfl, hds⟩ := Decimal.eq_digitsText_of_digits? hdigits
      match ds, hds with
      | [a, b, c, d], hds =>
        cases hds
        cases h
        obtain ⟨hour, hhour, hvalue⟩ := padded_of_digits a b
        obtain ⟨minute, hminute, hvalue'⟩ := padded_of_digits c d
        refine .inr ⟨hour, minute, ?_, by rw [hvalue, hvalue']⟩
        rw [hhour, hminute]
        rfl
    next => cases h
  · have hread (ds : List (Fin 10)) : (digitsText ds).mapM digit? = some (ds.map Fin.val) :=
      Decimal.digits?_digitsText ds
    unfold Offset.digitMinutes?
    rintro (⟨hour, rfl, rfl⟩ | ⟨hour, minute, rfl, rfl⟩)
    · obtain ⟨a, b, hhour, hvalue⟩ := exists_two_digits hour
      rw [hhour, hread, hvalue]
      rfl
    · obtain ⟨a, b, hhour, hvalue⟩ := exists_two_digits hour
      obtain ⟨c, d, hminute, hvalue'⟩ := exists_two_digits minute
      have htext : digitsText [a, b] ++ digitsText [c, d] = digitsText [a, b, c, d] := rfl
      rw [hhour, hminute, htext, hread, hvalue, hvalue']
      rfl

/-- What follows a sign is read as minutes that the sign is given to. -/
theorem readSigned_eq_ok_iff (zone : List Char) (sign : Sign) (rest : List Char) (o : Offset) :
    Offset.readSigned zone (sign.apply 1) rest = .ok o ↔
      ∃ n, Offset.digitMinutes? (rest.filter (· != ':')) = some n ∧ n < 1440 ∧
        o.minutes = sign.apply n := by
  have happly (n : Nat) : sign.apply 1 * n = sign.apply n := by
    cases sign with
    | plus => exact Int.one_mul _
    | minus => exact Int.neg_one_mul _
  have hbounds (n : Nat) : (-1440 < sign.apply n ∧ sign.apply n < 1440) ↔ n < 1440 := by
    cases sign <;> simp only [Sign.apply] <;> omega
  unfold Offset.readSigned
  cases Offset.digitMinutes? (rest.filter (· != ':')) with
  | none =>
      constructor
      · intro h
        cases h
      · rintro ⟨n, hn, -⟩
        cases hn
  | some minutes =>
      dsimp only
      rw [happly]
      unfold Offset.ofMinutes?
      constructor
      · intro h
        split at h
        next offset hoffset =>
          split at hoffset
          next hfits =>
            cases h
            cases hoffset
            exact ⟨minutes, rfl, (hbounds minutes).mp hfits, rfl⟩
          next => cases hoffset
        next => cases h
      · rintro ⟨n, hn, hlt, ho⟩
        cases hn
        rw [dif_pos ((hbounds minutes).mpr hlt)]
        obtain ⟨m, hm⟩ := o
        cases ho
        rfl

theorem read_signed (sign : Sign) (rest : List Char) :
    Offset.read (Sign.text (some sign) ++ rest) =
      Offset.readSigned (Sign.text (some sign) ++ rest) (sign.apply 1) rest := by
  cases sign <;> rfl

/-- What is read as a zone, and what as. -/
theorem read_eq_ok_iff (zone : List Char) (o : Offset) :
    Offset.read zone = .ok o ↔ Spells zone o.minutes := by
  constructor
  · intro h
    have hsigned (sign : Sign) (rest : List Char)
        (h : Offset.read (Sign.text (some sign) ++ rest) = .ok o) :
        Spells (Sign.text (some sign) ++ rest) o.minutes := by
      rw [read_signed, readSigned_eq_ok_iff] at h
      obtain ⟨n, hn, hday, ho⟩ := h
      rw [ho]
      rcases (digitMinutes?_eq_some_iff _ n).mp hn with
        ⟨hour, hrest, rfl⟩ | ⟨hour, minute, hrest, rfl⟩
      · have hhour : hour.val < 24 := by omega
        exact .hours sign ⟨hour.val, hhour⟩ hrest
      · exact .minutes sign hour minute hrest hday
    unfold Offset.read at h
    split at h
    next =>
      cases h
      exact .universal
    next rest => exact hsigned .plus rest h
    next rest => exact hsigned .minus rest h
    next => cases h
  · intro h
    generalize hminutes : o.minutes = minutes at h
    cases h with
    | universal =>
        obtain ⟨m, hm⟩ := o
        cases hminutes
        rfl
    | hours sign hour hrest =>
        rw [read_signed, readSigned_eq_ok_iff]
        refine ⟨60 * hour,
          (digitMinutes?_eq_some_iff _ _).mpr (.inl ⟨⟨hour, by omega⟩, hrest, rfl⟩), by omega, ?_⟩
        rw [hminutes]
        rfl
    | minutes sign hour minute hrest hday =>
        rw [read_signed, readSigned_eq_ok_iff]
        refine ⟨60 * hour + minute,
          (digitMinutes?_eq_some_iff _ _).mpr (.inr ⟨hour, minute, hrest, rfl⟩), hday, ?_⟩
        rw [hminutes]
        rfl

theorem begins_of_spells {zone : List Char} {minutes : Int} (h : Spells zone minutes) :
    ∃ c rest, zone = c :: rest ∧ Offset.begins c = true := by
  cases h with
  | universal => exact ⟨'Z', [], rfl, rfl⟩
  | hours sign hour hrest => cases sign <;> exact ⟨_, _, rfl, rfl⟩
  | minutes sign hour minute hrest hday => cases sign <;> exact ⟨_, _, rfl, rfl⟩

/-- What is read as a zone is read as less than a day. -/
theorem read_of_spells {zone : List Char} {minutes : Int} (h : Spells zone minutes) :
    ∃ o : Offset, o.minutes = minutes ∧ Offset.read zone = .ok o := by
  have hminutes : -1440 < minutes ∧ minutes < 1440 := by
    cases h with
    | universal => decide
    | hours sign hour hrest => cases sign <;> simp only [Sign.apply] <;> omega
    | minutes sign hour minute hrest hday => cases sign <;> simp only [Sign.apply] <;> omega
  exact ⟨⟨minutes, hminutes⟩, rfl, (read_eq_ok_iff zone _).mpr h⟩

/-! ## Zones that are written -/

/-- A zone that is written is read as what it writes. -/
theorem spells_text (z : Zone) : ∃ minutes, Spells z.text minutes ∧ 60 * minutes = z.seconds := by
  cases z with
  | universal => exact ⟨0, .universal, rfl⟩
  | hours sign hour =>
      have hrest := filter_padded_two ⟨hour, by omega⟩
      exact ⟨_, .hours sign hour hrest, sign.sixty_mul_apply (by omega)⟩
  | joined sign hour minute =>
      refine ⟨_, .minutes sign ⟨hour, by omega⟩ ⟨minute, by omega⟩ ?_ (by dsimp only; omega),
        sign.sixty_mul_apply (by dsimp only; omega)⟩
      rw [List.filter_append]
      exact congrArg₂ (· ++ ·) (filter_padded_two ⟨hour, by omega⟩)
        (filter_padded_two ⟨minute, by omega⟩)
  | apart sign hour minute =>
      refine ⟨_, .minutes sign ⟨hour, by omega⟩ ⟨minute, by omega⟩ ?_ (by dsimp only; omega),
        sign.sixty_mul_apply (by dsimp only; omega)⟩
      exact filter_apart ⟨hour, by omega⟩ ⟨minute, by omega⟩

/-- The offset of a zone that is written. -/
def offset (z : Zone) : Offset where
  minutes := z.seconds / 60
  minutes_mem := by
    cases z with
    | universal => decide
    | hours sign hour => cases sign <;> simp only [seconds, Sign.apply] <;> omega
    | joined sign hour minute => cases sign <;> simp only [seconds, Sign.apply] <;> omega
    | apart sign hour minute => cases sign <;> simp only [seconds, Sign.apply] <;> omega

theorem seconds_offset (z : Zone) : z.offset.seconds = z.seconds := by
  obtain ⟨minutes, -, hminutes⟩ := z.spells_text
  show 60 * (z.seconds / 60) = z.seconds
  omega

theorem spells_offset (z : Zone) : Spells z.text z.offset.minutes := by
  obtain ⟨minutes, hspells, hminutes⟩ := z.spells_text
  show Spells z.text (z.seconds / 60)
  rwa [show z.seconds / 60 = minutes by omega]

/-! ## Zones that are let pass -/

theorem sign_text_injective {sign sign' : Sign} {rest rest' : List Char}
    (h : Sign.text (some sign) ++ rest = Sign.text (some sign') ++ rest') : rest = rest' := by
  cases sign <;> cases sign' <;> cases h <;> rfl

/-- No zone that is written is lax. -/
theorem not_isLax_text (z : Zone) : ¬ IsLax z.text := by
  have hfilter {hour minute hour' minute' : Fin 100} (hlt : minute.val < 60)
      (hmany : 60 ≤ minute'.val)
      (h : padded 2 hour ++ padded 2 minute = padded 2 hour' ++ padded 2 minute') : False := by
    have heq := (padded_append_injective h).2
    omega
  rintro ⟨sign', rest, htext, hlax⟩
  cases z with
  | universal => cases sign' <;> cases htext
  | hours sign hour =>
      obtain rfl := sign_text_injective htext
      rcases hlax with ⟨hcolon, -⟩ | ⟨hour', minute', -, h⟩
      · exact colon_not_mem_padded_two ⟨hour, by omega⟩ hcolon
      · rw [filter_padded_two ⟨hour, by omega⟩] at h
        exact padded_ne_append _ _ _ h
  | joined sign hour minute =>
      obtain rfl := sign_text_injective htext
      rcases hlax with ⟨hcolon, -⟩ | ⟨hour', minute', hmany, h⟩
      · rcases List.mem_append.mp hcolon with hcolon | hcolon
        · exact colon_not_mem_padded_two ⟨hour, by omega⟩ hcolon
        · exact colon_not_mem_padded_two ⟨minute, by omega⟩ hcolon
      · rw [List.filter_append, filter_padded_two ⟨hour, by omega⟩,
          filter_padded_two ⟨minute, by omega⟩] at h
        exact hfilter (by dsimp only; omega) hmany h
  | apart sign hour minute =>
      obtain rfl := sign_text_injective htext
      rcases hlax with ⟨-, hnone⟩ | ⟨hour', minute', hmany, h⟩
      · exact hnone ⟨⟨hour, by omega⟩, ⟨minute, by omega⟩, rfl⟩
      · rw [filter_apart ⟨hour, by omega⟩ ⟨minute, by omega⟩] at h
        exact hfilter (by dsimp only; omega) hmany h

/-- What is read as a zone is one that is written, unless it is lax. -/
theorem exists_text_of_spells {zone : List Char} {minutes : Int} (h : Spells zone minutes)
    (hstrict : ¬ IsLax zone) : ∃ z : Zone, zone = z.text ∧ 60 * minutes = z.seconds := by
  cases h with
  | universal => exact ⟨.universal, rfl, rfl⟩
  | hours sign hour hrest =>
      rename_i rest
      -- There are only hours, so that a colon would be lax wherever it stands.
      have hcolon : ':' ∉ rest := by
        intro hcolon
        refine hstrict ⟨sign, rest, rfl, .inl ⟨hcolon, ?_⟩⟩
        rintro ⟨hour', minute', rfl⟩
        rw [filter_apart] at hrest
        exact padded_ne_append ⟨hour, by omega⟩ _ _ hrest.symm
      rw [filter_of_not_mem hcolon] at hrest
      exact ⟨.hours sign hour, by rw [hrest]; rfl, sign.sixty_mul_apply (by omega)⟩
  | minutes sign hour minute hrest hday =>
      rename_i rest
      have hminute : minute.val < 60 := by
        by_contra hmany
        exact hstrict ⟨sign, rest, rfl, .inr ⟨hour, minute, Nat.not_lt.mp hmany, hrest⟩⟩
      have hhour : hour.val < 24 := by omega
      -- A colon that is not lax stands between the hours and the minutes.
      by_cases hcolon : ':' ∈ rest
      · by_cases hapart : ∃ hour minute : Fin 100, rest = padded 2 hour ++ ':' :: padded 2 minute
        · obtain ⟨hour', minute', rfl⟩ := hapart
          rw [filter_apart] at hrest
          obtain ⟨rfl, rfl⟩ := padded_append_injective hrest
          exact ⟨.apart sign ⟨_, hhour⟩ ⟨_, hminute⟩, rfl,
            sign.sixty_mul_apply (by dsimp only; omega)⟩
        · exact absurd ⟨sign, rest, rfl, .inl ⟨hcolon, hapart⟩⟩ hstrict
      · rw [filter_of_not_mem hcolon] at hrest
        exact ⟨.joined sign ⟨_, hhour⟩ ⟨_, hminute⟩, by rw [hrest]; rfl,
          sign.sixty_mul_apply (by dsimp only; omega)⟩

end Zone

end Tributary
