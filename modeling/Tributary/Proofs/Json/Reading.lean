import Tributary.Proofs.Json.Integers
import Tributary.Proofs.Json.Strings
import Tributary.Proofs.Number.Binary64

/-!
# Values are read as they are written

A plain value has texts for its strings and integers for its numbers. Its text is read as the value,
whatever closes it.
-/

namespace Tributary.Json

open Text

/-- A value of texts and integers of 64 bits, that is not nested deeper than a number of levels. -/
inductive Plain : Nat → Json → Prop where
  | null {n : Nat} : Plain n .null
  | bool {n : Nat} (b : Bool) : Plain n (.bool b)
  | integer {n : Nat} {v : Int} (h : Integer.int64.contains v = true) : Plain n (.integer v)
  | text {n : Nat} (s : String) : Plain n (.text s)
  | array {n : Nat} {items : List Json} (h : ∀ j ∈ items, Plain n j) : Plain (n + 1) (.array items)
  | record {n : Nat} {fields : List (String × Json)} (h : ∀ f ∈ fields, Plain n f.2) :
    Plain (n + 1) (.record fields)

theorem plain_record_iff {n : Nat} {fields : List (String × Json)} :
    Plain (n + 1) (.record fields) ↔ ∀ f ∈ fields, Plain n f.2 := by
  refine ⟨fun h f hf => ?_, .record⟩
  -- An object does not show that its names come from a record, so the two lists are compared.
  generalize hj : Json.record fields = j at h
  cases h with
  | @record _ fields' h =>
      have hmem : (some f.1, f.2) ∈ fields'.map fun g => (some g.1, g.2) :=
        Json.object.inj hj ▸ List.mem_map.mpr ⟨f, hf, rfl⟩
      obtain ⟨g, hg, heq⟩ := List.mem_map.mp hmem
      exact (Prod.mk.inj heq).2 ▸ h g hg
  | _ => cases hj

/-! ## Texts of values -/

theorem writeItems_eq (items : List Json) : writeItems items = items.map write := by
  induction items with
  | nil => rfl
  | cons j items ih => rw [writeItems, ih, List.map_cons]

/-- The text of a field. -/
def writeField (f : String × Json) : List Char := writeString f.1 ++ ':' :: f.2.write

theorem writeFields_eq (fields : List (String × Json)) :
    writeFields (fields.map fun f => (some f.1, f.2)) = fields.map writeField := by
  induction fields with
  | nil => rfl
  | cons f fields ih =>
      rw [List.map_cons, writeFields, ih, List.map_cons]
      rfl

theorem utf8_ascii {c : Char} (h : c.toNat < 0x80) (cs : List Char) :
    utf8 (c :: cs) = UInt8.ofNat c.toNat :: utf8 cs := by
  rw [utf8_cons, Utf8.utf8EncodeChar_of_lt h]
  rfl

theorem write_array (items : List Json) :
    utf8 (write (.array items)) =
      0x5B :: (utf8 (commaSeparated (items.map write)) ++ [0x5D]) := by
  rw [write, writeItems_eq, List.cons_append, utf8_ascii (by decide), utf8_append]
  rfl

theorem write_record (fields : List (String × Json)) :
    utf8 (write (.record fields)) =
      0x7B :: (utf8 (commaSeparated (fields.map writeField)) ++ [0x7D]) := by
  rw [record, write, writeFields_eq, List.cons_append, utf8_ascii (by decide), utf8_append]
  rfl

theorem utf8_commaSeparated (cs ds : List Char) (rest : List (List Char)) :
    utf8 (commaSeparated (cs :: ds :: rest)) =
      utf8 cs ++ 0x2C :: utf8 (commaSeparated (ds :: rest)) := by
  rw [commaSeparated, utf8_append, utf8_ascii (by decide)]
  rfl

/-- The text of an integer is that of its absolute value, after a sign if it is negative. -/
theorem text_integer (v : Int) :
    utf8 (Integer.text v) =
      (if v < 0 then [0x2D] else []) ++ utf8 (Nat.toDigits 10 v.natAbs) := by
  cases v with
  | ofNat n =>
      rw [if_neg (show ¬ Int.ofNat n < 0 from Int.not_lt.mpr (Int.natCast_nonneg n))]
      rfl
  | negSucc n =>
      rw [if_pos (Int.negSucc_lt_zero n), Integer.text, utf8_ascii (by decide)]
      rfl

/-! ## First bytes -/

theorem first_toDigits (n : Nat) :
    ∃ b bytes, utf8 (Nat.toDigits 10 n) = b :: bytes ∧ 0x30 ≤ b.toNat ∧ b.toNat ≤ 0x39 := by
  cases hdigits : Nat.toDigits 10 n with
  | nil => exact absurd hdigits Nat.toDigits_ne_nil
  | cons c cs =>
      have hc : c.isDigit = true :=
        Nat.isDigit_of_mem_toDigits (by decide) (by decide) (hdigits ▸ List.mem_cons_self)
      simp only [Char.isDigit, Bool.and_eq_true, decide_eq_true_eq, UInt32.le_iff_toNat_le] at hc
      obtain ⟨hlow, hhigh⟩ : 0x30 ≤ c.toNat ∧ c.toNat ≤ 0x39 := hc
      refine ⟨UInt8.ofNat c.toNat, utf8 cs, utf8_ascii (by omega) cs, ?_⟩
      rw [Utf8.toNat_byte (by omega)]
      exact ⟨hlow, hhigh⟩

/-- A value begins with a byte that is neither white space nor a closing bracket. -/
theorem first_write {n : Nat} {j : Json} (h : Plain n j) :
    ∃ b bytes, utf8 j.write = b :: bytes ∧ isSpace b = false ∧ b ≠ 0x5D := by
  cases h with
  | null => exact ⟨0x6E, _, rfl, by decide, by decide⟩
  | bool b =>
      cases b with
      | true => exact ⟨0x74, _, rfl, by decide, by decide⟩
      | false => exact ⟨0x66, _, rfl, by decide, by decide⟩
  | @integer _ v _ =>
      rw [write, text_integer]
      split
      · exact ⟨0x2D, _, rfl, by decide, by decide⟩
      · obtain ⟨b, bytes, hbytes, hlow, hhigh⟩ := first_toDigits v.natAbs
        refine ⟨b, bytes, hbytes, ?_, ?_⟩
        · simp only [isSpace, Bool.or_eq_false_iff, beq_eq_false_iff_ne, ne_eq]
          refine ⟨⟨⟨?_, ?_⟩, ?_⟩, ?_⟩ <;> rintro rfl <;> exact absurd hlow (by decide)
        · rintro rfl
          exact absurd hhigh (by decide)
  | text s =>
      obtain ⟨bytes, hbytes, -⟩ := readString_writeString s []
      exact ⟨0x22, bytes, by rw [← hbytes, List.append_nil]; rfl, by decide, by decide⟩
  | array h => exact ⟨0x5B, _, write_array _, by decide, by decide⟩
  | record h => exact ⟨0x7B, _, write_record _, by decide, by decide⟩

/-- No white space comes before a value. -/
theorem skipSpace_write {n : Nat} {j : Json} (h : Plain n j) (rest : List UInt8) :
    skipSpace (utf8 j.write ++ rest) = utf8 j.write ++ rest := by
  obtain ⟨b, bytes, hbytes, hspace, -⟩ := first_write h
  rw [hbytes, List.cons_append, skipSpace, List.dropWhile_cons_of_neg (by simp [hspace])]

/-- No white space comes before a string. -/
theorem skipSpace_writeString (s : String) (rest : List UInt8) :
    skipSpace (utf8 (writeString s) ++ rest) = utf8 (writeString s) ++ rest :=
  skipSpace_write (n := 0) (.text s) rest

/-! ## Values -/

/-- The text of a value is read as the value, whatever closes it. Reading takes at most two levels
of recursion for a byte. -/
def ReadBack (j : Json) : Prop :=
  ∀ (fuel : Nat) (rest : List UInt8), 2 * (utf8 j.write).length ≤ fuel → Closes rest →
    readValue fuel (utf8 j.write ++ rest) = some (j, rest)

/-- A byte that is a digit begins a number without a sign. -/
theorem readValue_of_digit {b : UInt8} (hlow : 0x30 ≤ b.toNat) (hhigh : b.toNat ≤ 0x39) (fuel : Nat)
    (rest : List UInt8) : readValue (fuel + 1) (b :: rest) = readUnsigned false (b :: rest) := by
  have hne {x : UInt8} (hx : ¬ (0x30 ≤ x.toNat ∧ x.toNat ≤ 0x39)) (tail : List UInt8)
      (h : b :: rest = x :: tail) : False := by
    cases h
    exact hx ⟨hlow, hhigh⟩
  rw [readValue]
  all_goals exact fun _ => hne (by decide) _

theorem ReadBack.of_succ {n : Nat} {j : Json} (hplain : Plain n j)
    (h : ∀ (fuel : Nat) (rest : List UInt8), 2 * (utf8 j.write).length ≤ fuel + 1 → Closes rest →
      readValue (fuel + 1) (utf8 j.write ++ rest) = some (j, rest)) : ReadBack j := by
  intro fuel rest hfuel hrest
  obtain ⟨b, bytes, hbytes, -, -⟩ := first_write hplain
  cases fuel with
  | zero =>
      rw [hbytes, List.length_cons] at hfuel
      omega
  | succ fuel => exact h fuel rest hfuel hrest

theorem readValue_integer (v : Int) (fuel : Nat) {rest : List UInt8} (hrest : Closes rest) :
    readValue (fuel + 1) (utf8 (write (.integer v)) ++ rest) = some (.integer v, rest) := by
  rw [write, text_integer]
  by_cases hv : v < 0
  · rw [if_pos hv, List.singleton_append, List.cons_append, readValue,
      readUnsigned_toDigits (fun _ => by omega) hrest, if_pos rfl]
    congr 3
    omega
  · obtain ⟨b, bytes, hbytes, hlow, hhigh⟩ := first_toDigits v.natAbs
    rw [if_neg hv, List.nil_append, hbytes, List.cons_append, readValue_of_digit hlow hhigh,
      ← List.cons_append, ← hbytes, readUnsigned_toDigits (fun h => by cases h) hrest,
      if_neg Bool.false_ne_true]
    congr 3
    omega

theorem readValue_text (s : String) (fuel : Nat) (rest : List UInt8) :
    readValue (fuel + 1) (utf8 (write (.text s)) ++ rest) = some (.text s, rest) := by
  obtain ⟨bytes, hbytes, hread⟩ := readString_writeString s rest
  rw [text, write, Option.getD_some, hbytes, readValue, hread]
  rfl

/-! ## Items and fields -/

theorem exists_utf8_commaSeparated (cs : List Char) (rest : List (List Char)) :
    ∃ tail, utf8 (commaSeparated (cs :: rest)) = utf8 cs ++ tail := by
  cases rest with
  | nil => exact ⟨[], (List.append_nil _).symm⟩
  | cons ds rest => exact ⟨_, utf8_commaSeparated cs ds rest⟩

theorem skipSpace_items {n : Nat} {item : Json} (h : Plain n item) (items : List Json)
    (rest : List UInt8) :
    skipSpace (utf8 (commaSeparated ((item :: items).map write)) ++ rest) =
      utf8 (commaSeparated ((item :: items).map write)) ++ rest := by
  obtain ⟨tail, htail⟩ := exists_utf8_commaSeparated item.write (items.map write)
  rw [List.map_cons, htail, List.append_assoc]
  exact skipSpace_write h _

theorem skipSpace_fields (f : String × Json) (fields : List (String × Json)) (rest : List UInt8) :
    skipSpace (utf8 (commaSeparated ((f :: fields).map writeField)) ++ rest) =
      utf8 (commaSeparated ((f :: fields).map writeField)) ++ rest := by
  obtain ⟨tail, htail⟩ := exists_utf8_commaSeparated (writeField f) (fields.map writeField)
  rw [List.map_cons, htail, writeField, utf8_append, List.append_assoc, List.append_assoc]
  exact skipSpace_writeString f.1 _

/-- Items are read up to the closing bracket. The level of recursion that an item takes is paid for
by the comma before it, and that of the first by the bracket. -/
theorem readItems_write (item : Json) (items : List Json) {n : Nat}
    (hplain : ∀ j ∈ item :: items, Plain n j) (hread : ∀ j ∈ item :: items, ReadBack j)
    (fuel : Nat) (rest : List UInt8)
    (hfuel : 2 * (utf8 (commaSeparated ((item :: items).map write))).length + 1 ≤ fuel) :
    readItems fuel (utf8 (commaSeparated ((item :: items).map write)) ++ 0x5D :: rest) =
      some (item :: items, rest) := by
  obtain ⟨fuel, rfl⟩ : ∃ k, fuel = k + 1 := ⟨fuel - 1, by omega⟩
  induction items generalizing item fuel with
  | nil =>
      have hitem := hread item List.mem_cons_self fuel (0x5D :: rest)
        (by simp only [List.map_cons, List.map_nil, commaSeparated] at hfuel; omega)
        (.bracket rest)
      rw [List.map_cons, List.map_nil, commaSeparated, readItems, hitem]
      rfl
  | cons next items ih =>
      rw [List.map_cons, List.map_cons, utf8_commaSeparated, ← List.map_cons] at hfuel ⊢
      simp only [List.length_append, List.length_cons] at hfuel
      obtain ⟨fuel, rfl⟩ : ∃ k, fuel = k + 1 := ⟨fuel - 1, by omega⟩
      have hnext := ih next (fun j hj => hplain j (List.mem_cons_of_mem _ hj))
        (fun j hj => hread j (List.mem_cons_of_mem _ hj)) fuel (by omega)
      rw [← skipSpace_items (hplain next (by simp))] at hnext
      rw [List.append_assoc, List.cons_append, readItems,
        hread item List.mem_cons_self _ _ (by omega) (.comma _)]
      simp only [Option.bind_eq_bind, Option.bind_some]
      change (readItems (fuel + 1) (skipSpace _)).bind _ = _
      rw [hnext]
      rfl

/-- A field is read, and what comes then decides whether there are more. -/
theorem readFields_writeField {f : String × Json} {n : Nat} (hplain : Plain n f.2)
    (hread : ReadBack f.2) {fuel : Nat} (hfuel : 2 * (utf8 (writeField f)).length ≤ fuel)
    {rest : List UInt8} (hrest : Closes rest) :
    readFields (fuel + 1) (utf8 (writeField f) ++ rest) =
      match skipSpace rest with
      | 0x7D :: rest => some ([(some f.1, f.2)], rest)
      | 0x2C :: rest => do
        let (fields, rest) ← readFields fuel (skipSpace rest)
        some ((some f.1, f.2) :: fields, rest)
      | _ => none := by
  rw [writeField, utf8_append, utf8_ascii (by decide)] at hfuel ⊢
  simp only [List.length_append, List.length_cons] at hfuel
  rw [List.append_assoc, List.cons_append]
  obtain ⟨bytes, hbytes, hname⟩ :=
    readString_writeString f.1 (UInt8.ofNat ':'.toNat :: (utf8 f.2.write ++ rest))
  have hvalue := hread fuel rest (by omega) hrest
  rw [← skipSpace_write hplain] at hvalue
  rw [hbytes, readFields, hname]
  simp only [Option.bind_eq_bind, Option.bind_some]
  change (readValue fuel (skipSpace _)).bind _ = _
  rw [hvalue]
  rfl

/-- Fields are read up to the closing brace. -/
theorem readFields_write (f : String × Json) (fields : List (String × Json)) {n : Nat}
    (hplain : ∀ g ∈ f :: fields, Plain n g.2) (hread : ∀ g ∈ f :: fields, ReadBack g.2)
    (fuel : Nat) (rest : List UInt8)
    (hfuel : 2 * (utf8 (commaSeparated ((f :: fields).map writeField))).length + 1 ≤ fuel) :
    readFields fuel (utf8 (commaSeparated ((f :: fields).map writeField)) ++ 0x7D :: rest) =
      some ((f :: fields).map fun g => (some g.1, g.2), rest) := by
  obtain ⟨fuel, rfl⟩ : ∃ k, fuel = k + 1 := ⟨fuel - 1, by omega⟩
  have hf := hplain f List.mem_cons_self
  have hfread := hread f List.mem_cons_self
  induction fields generalizing f fuel with
  | nil =>
      rw [List.map_cons, List.map_nil, commaSeparated] at hfuel ⊢
      exact readFields_writeField hf hfread (by omega) (.brace rest)
  | cons next fields ih =>
      rw [List.map_cons, List.map_cons, utf8_commaSeparated, ← List.map_cons] at hfuel ⊢
      simp only [List.length_append, List.length_cons] at hfuel
      obtain ⟨fuel, rfl⟩ : ∃ k, fuel = k + 1 := ⟨fuel - 1, by omega⟩
      have hnext := ih next (fun g hg => hplain g (List.mem_cons_of_mem _ hg))
        (fun g hg => hread g (List.mem_cons_of_mem _ hg)) fuel (by omega) (hplain next (by simp))
        (hread next (by simp))
      rw [← skipSpace_fields] at hnext
      rw [List.append_assoc, List.cons_append,
        readFields_writeField hf hfread (by omega) (.comma _)]
      change (readFields (fuel + 1) (skipSpace _)).bind _ = _
      rw [hnext]
      rfl

/-! ## Arrays and objects -/

theorem readValue_items {fuel : Nat} {bytes : List UInt8}
    (h : ∀ tail, skipSpace bytes ≠ 0x5D :: tail) :
    readValue (fuel + 1) (0x5B :: bytes) =
      (readItems fuel (skipSpace bytes)).map fun r => (.array r.1, r.2) := by
  rw [readValue]
  split
  next tail heq => exact absurd heq (h tail)
  next => rfl

theorem readValue_fields {fuel : Nat} {bytes : List UInt8}
    (h : ∀ tail, skipSpace bytes ≠ 0x7D :: tail) :
    readValue (fuel + 1) (0x7B :: bytes) =
      (readFields fuel (skipSpace bytes)).map fun r => (.object r.1, r.2) := by
  rw [readValue]
  split
  next tail heq => exact absurd heq (h tail)
  next => rfl

theorem readValue_array {items : List Json} {n : Nat} (hplain : ∀ j ∈ items, Plain n j)
    (hread : ∀ j ∈ items, ReadBack j) {fuel : Nat} (rest : List UInt8)
    (hfuel : 2 * (utf8 (write (.array items))).length ≤ fuel + 1) :
    readValue (fuel + 1) (utf8 (write (.array items)) ++ rest) = some (.array items, rest) := by
  rw [write_array, List.length_cons, List.length_append, List.length_singleton] at hfuel
  rw [write_array, List.cons_append, List.append_assoc]
  cases items with
  | nil => rfl
  | cons item items =>
      have hitem := hplain item List.mem_cons_self
      have hskip := skipSpace_items hitem items (0x5D :: rest)
      have hfirst (tail : List UInt8) :
          skipSpace (utf8 (commaSeparated ((item :: items).map write)) ++ 0x5D :: rest) ≠
            0x5D :: tail := by
        obtain ⟨b, bytes, hbytes, -, hbracket⟩ := first_write hitem
        obtain ⟨more, hmore⟩ := exists_utf8_commaSeparated item.write (items.map write)
        rw [hskip, List.map_cons, hmore, hbytes]
        exact fun h => hbracket (List.cons.inj h).1
      change readValue (fuel + 1) (0x5B :: (_ ++ 0x5D :: rest)) = _
      rw [readValue_items hfirst, hskip,
        readItems_write item items hplain hread fuel rest (by omega)]
      rfl

theorem readValue_record {fields : List (String × Json)} {n : Nat}
    (hplain : ∀ f ∈ fields, Plain n f.2) (hread : ∀ f ∈ fields, ReadBack f.2) {fuel : Nat}
    (rest : List UInt8) (hfuel : 2 * (utf8 (write (.record fields))).length ≤ fuel + 1) :
    readValue (fuel + 1) (utf8 (write (.record fields)) ++ rest) = some (.record fields, rest) := by
  rw [write_record, List.length_cons, List.length_append, List.length_singleton] at hfuel
  rw [write_record, List.cons_append, List.append_assoc]
  cases fields with
  | nil => rfl
  | cons f fields =>
      have hskip := skipSpace_fields f fields (0x7D :: rest)
      have hfirst (tail : List UInt8) :
          skipSpace (utf8 (commaSeparated ((f :: fields).map writeField)) ++ 0x7D :: rest) ≠
            0x7D :: tail := by
        obtain ⟨bytes, hbytes, -⟩ := readString_writeString f.1 []
        obtain ⟨more, hmore⟩ := exists_utf8_commaSeparated (writeField f) (fields.map writeField)
        rw [List.append_nil] at hbytes
        rw [hskip, List.map_cons, hmore, writeField, utf8_append, hbytes]
        exact fun h => absurd (List.cons.inj h).1 (by decide)
      change readValue (fuel + 1) (0x7B :: (_ ++ 0x7D :: rest)) = _
      rw [readValue_fields hfirst, hskip,
        readFields_write f fields hplain hread fuel rest (by omega)]
      rfl

/-- A plain value is read as it is written. -/
theorem readBack {n : Nat} {j : Json} (h : Plain n j) : ReadBack j := by
  induction h with
  | null => exact .of_succ (n := 0) .null fun _ _ _ _ => rfl
  | bool b =>
      refine .of_succ (n := 0) (.bool b) fun _ _ _ _ => ?_
      cases b <;> rfl
  | integer h => exact .of_succ (n := 0) (.integer h) fun fuel _ _ => readValue_integer _ fuel
  | text s => exact .of_succ (n := 0) (.text s) fun fuel rest _ _ => readValue_text s fuel rest
  | array h ih => exact .of_succ (.array h) fun _ rest hfuel _ => readValue_array h ih rest hfuel
  | record h ih => exact .of_succ (.record h) fun _ rest hfuel _ => readValue_record h ih rest hfuel

/-- The text of a plain value is read as the value. -/
theorem ofString?_toString {n : Nat} {j : Json} (h : Plain n j) :
    ofString? j.toString = some j := by
  have hread := readBack h (2 * (utf8 j.write).length + 2) [] (by omega) .nothing
  have hskip := skipSpace_write h []
  rw [List.append_nil] at hread hskip
  rw [ofString?, toString, utf8Bytes, String.toList_ofList, read?, hskip, hread]
  rfl

/-! ## Depth and readability -/

theorem depthOfItems_le {n : Nat} {items : List Json} (h : ∀ j ∈ items, j.depth ≤ n) :
    depthOfItems items ≤ n := by
  induction items with
  | nil => exact Nat.zero_le n
  | cons j items ih =>
      rw [depthOfItems]
      exact Nat.max_le.mpr
        ⟨h j List.mem_cons_self, ih fun j hj => h j (List.mem_cons_of_mem _ hj)⟩

theorem depthOfFields_le {n : Nat} {fields : List (Option String × Json)}
    (h : ∀ f ∈ fields, f.2.depth ≤ n) : depthOfFields fields ≤ n := by
  induction fields with
  | nil => exact Nat.zero_le n
  | cons f fields ih =>
      rw [depthOfFields]
      exact Nat.max_le.mpr
        ⟨h f List.mem_cons_self, ih fun f hf => h f (List.mem_cons_of_mem _ hf)⟩

theorem Plain.depth_le {n : Nat} {j : Json} (h : Plain n j) : j.depth ≤ n := by
  induction h with
  | null => exact Nat.zero_le _
  | bool b => exact Nat.zero_le _
  | integer h => exact Nat.zero_le _
  | text s => exact Nat.zero_le _
  | array _ ih =>
      rw [depth]
      exact Nat.succ_le_succ (depthOfItems_le ih)
  | record _ ih =>
      rw [Json.record, depth]
      refine Nat.succ_le_succ (depthOfFields_le fun f hf => ?_)
      obtain ⟨g, hg, rfl⟩ := List.mem_map.mp hf
      exact ih g hg

theorem areReadable_of {items : List Json} (h : ∀ j ∈ items, j.isReadable = true) :
    areReadable items = true := by
  induction items with
  | nil => rfl
  | cons j items ih =>
      rw [areReadable, h j List.mem_cons_self, ih fun j hj => h j (List.mem_cons_of_mem _ hj)]
      rfl

theorem areReadableFields_of {fields : List (String × Json)}
    (h : ∀ f ∈ fields, f.2.isReadable = true) :
    areReadableFields (fields.map fun f => (some f.1, f.2)) = true := by
  induction fields with
  | nil => rfl
  | cons f fields ih =>
      rw [List.map_cons, areReadableFields, h f List.mem_cons_self,
        ih fun f hf => h f (List.mem_cons_of_mem _ hf)]
      rfl

theorem Plain.isReadable {n : Nat} {j : Json} (h : Plain n j) : j.isReadable = true := by
  induction h with
  | null => rfl
  | bool b => rfl
  | integer h => rw [Json.isReadable, Binary64.isInfinite_nearest h, Bool.not_false]
  | text s => rfl
  | array _ ih =>
      rw [Json.isReadable]
      exact areReadable_of ih
  | record _ ih =>
      rw [Json.record, Json.isReadable]
      exact areReadableFields_of ih

end Tributary.Json
