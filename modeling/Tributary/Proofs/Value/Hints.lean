import Mathlib.Logic.Function.Iterate
import Tributary.Proofs.Text.Splitting
import Tributary.Value.Column

/-!
# Display hints

A declared type is a base, which holds no semicolon, and perhaps hints behind the first one. What a
family is found by holds no semicolon either, so it never reaches into the hints: a type has the
family of its base, with any hints and with none. Every name that is reported for a column is the
base of its declared type, with hints or without. Where hints are enabled nothing of a declared type
is lost, and the hint that a streamed column gains has its own place, so the name tells the type.
-/

namespace Tributary

open Text

/-! ## Bases and hints -/

/-- A type by its base and its hints, if there are any. -/
def withHints (base : String) : Option String → String
  | none => base
  | some hints => base ++ ";" ++ hints

/-- A text without semicolons. -/
def IsBase (base : String) : Prop := ';' ∉ base.toList

theorem toList_withHints (base hints : String) :
    (withHints base (some hints)).toList = base.toList ++ ';' :: hints.toList := by
  simp [withHints]

section

variable {base : String}

/-- The base ends at the first semicolon. -/
theorem span_withHints (h : IsBase base) (hints : Option String) :
    (withHints base hints).toList.takeWhile (· != ';') = base.toList ∧
      (withHints base hints).toList.dropWhile (· != ';') =
        (hints.map fun hints => ';' :: hints.toList).getD [] := by
  cases hints with
  | none =>
      have hspan := span_append [] (forall_bne_of_not_mem h) nofun
      rw [List.append_nil] at hspan
      exact hspan
  | some hints =>
      rw [toList_withHints]
      exact span_mark h hints.toList

/-- A type is split where its hints were put. -/
theorem splitHints_withHints (h : IsBase base) (hints : Option String) :
    splitHints (withHints base hints) = (base, hints) := by
  obtain ⟨htake, hdrop⟩ := span_withHints h hints
  unfold splitHints
  dsimp only
  rw [htake, hdrop]
  cases hints with
  | none => rfl
  | some hints =>
      show (String.ofList base.toList, some (String.ofList hints.toList)) = _
      rw [String.ofList_toList, String.ofList_toList]

end

/-- Every text is a base with hints or without. -/
theorem exists_withHints (declared : String) :
    ∃ base hints, IsBase base ∧ declared = withHints base hints := by
  have hbase : IsBase (String.ofList (declared.toList.takeWhile (· != ';'))) := by
    intro hmem
    rw [String.toList_ofList] at hmem
    have hne := List.mem_takeWhile_imp hmem
    exact absurd hne (by decide)
  have hjoined := List.takeWhile_append_dropWhile (p := (· != ';')) (l := declared.toList)
  cases hrest : declared.toList.dropWhile (· != ';') with
  | nil =>
      rw [hrest, List.append_nil] at hjoined
      refine ⟨_, none, hbase, ?_⟩
      rw [withHints, hjoined, String.ofList_toList]
  | cons c hints =>
      -- What is left begins with the semicolon that ends the base.
      have hc : c = ';' := by
        have hhead := List.head?_dropWhile_not (· != ';') declared.toList
        rw [hrest] at hhead
        simpa using hhead
      rw [hrest, hc] at hjoined
      refine ⟨_, some (String.ofList hints), hbase, String.toList_injective ?_⟩
      rw [toList_withHints, String.toList_ofList, String.toList_ofList, hjoined]

/-! ## Families -/

/-- A text that does not hold a mark does not reach beyond it. -/
theorem isPrefixOf_append_of_not_mem {mark : Char} {stem : List Char} (h : mark ∉ stem)
    (front rest : List Char) :
    stem.isPrefixOf (front ++ mark :: rest) = stem.isPrefixOf front := by
  induction stem generalizing front with
  | nil => rfl
  | cons c stem ih =>
      rw [List.mem_cons, not_or] at h
      cases front with
      | nil =>
          have hc : (c == mark) = false := beq_eq_false_iff_ne.mpr (Ne.symm h.1)
          show (c == mark && stem.isPrefixOf rest) = false
          rw [hc, Bool.false_and]
      | cons d front =>
          show (c == d && stem.isPrefixOf (front ++ mark :: rest)) = _
          rw [ih h.2]
          rfl

/-- Nothing that a family is found by holds a semicolon. -/
theorem Family.isBase_of_mem_stems : ∀ stem ∈ stems, ';' ∉ stem.1.toList := by
  decide

/-- The family of a type is that of its base. -/
theorem Family.of?_withHints (base : String) (hints : Option String) :
    Family.of? (withHints base hints) = Family.of? base := by
  cases hints with
  | none => rfl
  | some hints =>
      have hfind : (stems.find? fun stem =>
            stem.1.toList.isPrefixOf (withHints base (some hints)).toList) =
          stems.find? fun stem => stem.1.toList.isPrefixOf base.toList := by
        rw [← List.head?_filter, ← List.head?_filter]
        refine congrArg List.head? (List.filter_congr fun stem hstem => ?_)
        rw [toList_withHints]
        exact isPrefixOf_append_of_not_mem (isBase_of_mem_stems stem hstem) _ _
      unfold Family.of?
      rw [hfind]

theorem ScanType.of_eq_of_family {declared declared' : String}
    (h : Family.of? declared = Family.of? declared') (format : Format) :
    ScanType.of declared format = ScanType.of declared' format := by
  unfold ScanType.of
  rw [h]

/-! ## Reported names -/

/-- The hints that a streamed column is reported with. -/
def streamedHints : Option String → String
  | none => "streaming=true"
  | some hints => "streaming=true," ++ hints

theorem streamedHints_injective : Function.Injective streamedHints := by
  have hlength (hints : String) :
      (streamedHints (some hints)).length ≠ (streamedHints none).length := by
    show ("streaming=true," ++ hints).length ≠ "streaming=true".length
    rw [String.length_append]
    have hlong : "streaming=true".length < "streaming=true,".length := by decide
    omega
  intro hints hints' h
  cases hints with
  | none =>
      cases hints' with
      | none => rfl
      | some hints' => exact absurd (congrArg String.length h.symm) (hlength hints')
  | some hints =>
      cases hints' with
      | none => exact absurd (congrArg String.length h) (hlength hints)
      | some hints' => exact congrArg some ((String.append_right_inj _).mp h)

section

variable {base : String} (h : IsBase base) (hints : Option String)

include h

theorem reportedType_false (format : Format) :
    reportedType (withHints base hints) false format = base := by
  unfold reportedType
  rw [splitHints_withHints h]

theorem reportedType_streamed :
    reportedType (withHints base hints) true .streamed =
      withHints base (some (streamedHints hints)) := by
  have hmark : ";streaming=true" = ";" ++ "streaming=true" := by decide
  have hmarks : ";streaming=true," = ";" ++ "streaming=true," := by decide
  unfold reportedType
  rw [splitHints_withHints h]
  cases hints with
  | none =>
      show base ++ ";streaming=true" = base ++ ";" ++ "streaming=true"
      rw [hmark, String.append_assoc]
  | some hints =>
      show base ++ ";streaming=true," ++ hints = base ++ ";" ++ ("streaming=true," ++ hints)
      rw [hmarks, String.append_assoc, String.append_assoc, String.append_assoc]

/-- Every name that is reported is the base of the declared type, with hints or without. -/
theorem exists_reportedType (enabled : Bool) (format : Format) : ∃ hints',
    reportedType (withHints base hints) enabled format = withHints base hints' := by
  cases enabled with
  | false => exact ⟨none, reportedType_false h hints format⟩
  | true =>
      cases format with
      | paged => exact ⟨hints, rfl⟩
      | streamed => exact ⟨_, reportedType_streamed h hints⟩

/-- Without hints the base stays as it is. -/
theorem iterate_reportedType (format : Format) (n : Nat) :
    (reportedType · false format)^[n + 1] (withHints base hints) = base := by
  rw [Function.iterate_succ_apply, reportedType_false h]
  exact Function.iterate_fixed (reportedType_false h none format) n

end

/-- With hints, the name tells the declared type. -/
theorem reportedType_injective (format : Format) :
    Function.Injective (reportedType · true format) := by
  intro declared declared' heq
  cases format with
  | paged => exact heq
  | streamed =>
      obtain ⟨base, hints, hbase, rfl⟩ := exists_withHints declared
      obtain ⟨base', hints', hbase', rfl⟩ := exists_withHints declared'
      have hsame : withHints base (some (streamedHints hints)) =
          withHints base' (some (streamedHints hints')) := by
        rw [← reportedType_streamed hbase, ← reportedType_streamed hbase']
        exact heq
      have hsplit := congrArg splitHints hsame
      rw [splitHints_withHints hbase, splitHints_withHints hbase'] at hsplit
      obtain ⟨rfl, hhints⟩ := Prod.mk.inj hsplit
      rw [streamedHints_injective (Option.some.inj hhints)]

/-- Hints do not change what a type means. The name that is reported for a column has the family of
its declared type, and so its kind of values; without hints, taken off once or again and again, it
is the text in front of the first semicolon; and where hints are enabled, different types are never
reported alike. -/
theorem Column.hints_keep_meaning (name : String) (nullable : Bool) :
    (∀ declared enabled format,
      let column := describe name declared nullable enabled format
      Family.of? column.reported = Family.of? declared ∧
        (∀ format', ScanType.of column.reported format' = ScanType.of declared format') ∧
        ScanType.of column.reported format = column.scanType ∧
        ∀ format' n, (fun d => (describe name d nullable false format').reported)^[n + 1]
          column.reported = String.ofList (declared.toList.takeWhile (· != ';'))) ∧
      ∀ format, Function.Injective fun declared =>
        (describe name declared nullable true format).reported := by
  refine ⟨fun declared enabled format => ?_, reportedType_injective⟩
  obtain ⟨base, hints, hbase, rfl⟩ := exists_withHints declared
  obtain ⟨hints', hreported⟩ := exists_reportedType hbase hints enabled format
  have hfamily : Family.of? (reportedType (withHints base hints) enabled format) =
      Family.of? (withHints base hints) := by
    rw [hreported, Family.of?_withHints, Family.of?_withHints]
  have hscan := ScanType.of_eq_of_family hfamily
  refine ⟨hfamily, hscan, hscan format, fun format' n => ?_⟩
  show (reportedType · false format')^[n + 1] (reportedType _ enabled format) = _
  rw [hreported, iterate_reportedType hbase, (span_withHints hbase hints).1, String.ofList_toList]

/-- A type whose hints hold a semicolon of their own. -/
theorem Column.hints_of_decimal_keep_meaning :
    let declared := "DECIMAL(10,2);display=;wide"
    let column := describe "price" declared false true .streamed
    column.reported = "DECIMAL(10,2);streaming=true,display=;wide" ∧
      ScanType.of column.reported .paged = ScanType.of declared .paged ∧
      (describe "price" column.reported false false .paged).reported = "DECIMAL(10,2)" := by
  intro declared column
  obtain ⟨-, hscan, -, hbase⟩ := (hints_keep_meaning "price" false).1 declared true .streamed
  exact ⟨by decide +kernel, hscan .paged, (hbase .paged 0).trans (by decide +kernel)⟩

end Tributary
