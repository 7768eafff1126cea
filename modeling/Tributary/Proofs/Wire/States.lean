import Tributary.Proofs.Wire.RoundTrip

/-!
# Status codes are preserved

Looking up a code loses nothing: the state that is found has that code, so different codes are found
as different states. A code of the table is always held under its name, and any other one as it
came, however close it is to a code of the table. So a state that is read from JSON stays the same
when it is written and read again.
-/

namespace Tributary

open Text

/-! ## The table -/

namespace NamedState

variable {c : String} {named : NamedState}

theorem ofCode?_eq_some_iff : ofCode? c = some named ↔ named.code = c := by
  constructor
  · intro h
    unfold ofCode? at h
    have hcode := List.find?_some h
    exact beq_iff_eq.mp hcode
  · rintro rfl
    exact ofCode?_code named

theorem ofCode?_eq_none_iff : ofCode? c = none ↔ ∀ named : NamedState, named.code ≠ c := by
  simp only [Option.eq_none_iff_forall_ne_some, ne_eq, ofCode?_eq_some_iff]

/-- No two states of the table share a code. -/
theorem code_injective : Function.Injective code := by
  intro named named' h
  have hlookup := ofCode?_code named
  rw [h, ofCode?_code named'] at hlookup
  exact (Option.some.inj hlookup).symm

end NamedState

/-! ## States and codes -/

namespace SqlState

variable {c : String} {named : NamedState}

theorem code_ofCode (c : String) : (ofCode c).code = c := by
  unfold ofCode
  split
  next named h => exact NamedState.ofCode?_eq_some_iff.mp h
  next h => rfl

theorem ofCode_injective : Function.Injective ofCode :=
  Function.LeftInverse.injective code_ofCode

theorem ofCode_eq_named_iff : ofCode c = .named named ↔ named.code = c := by
  constructor
  · intro h
    have hcode := code_ofCode c
    rw [h] at hcode
    exact hcode
  · rintro rfl
    exact ofCode_code (.named named)

/-- A code is held as it came exactly where the table does not have it. -/
theorem exists_ofCode_eq_other_iff :
    (∃ unnamed, ofCode c = .other c unnamed) ↔ ∀ named : NamedState, named.code ≠ c := by
  rw [← NamedState.ofCode?_eq_none_iff]
  constructor
  · rintro ⟨unnamed, -⟩
    exact unnamed
  · intro unnamed
    exact ⟨unnamed, ofCode_code (.other c unnamed)⟩

theorem isSuccess_ofCode_iff : (ofCode c).isSuccess = true ↔ c = "00000" := by
  rw [isSuccess_iff, code_ofCode]

/-- A code between quotes is read as its state, whatever the code is. -/
theorem parse_text (c : String) :
    Message.parse read? (utf8Bytes (Json.text c).toString) = some (ofCode c) := by
  have hread : Message.parse read? (Message.unparse json (ofCode c)) = some (ofCode c) :=
    Message.parse_unparse_of_writes (n := 0) SqlState.writes trivial
  unfold Message.unparse json at hread
  rw [code_ofCode] at hread
  exact hread

/-- Status codes are preserved exactly. The state of a code has that code, and different codes have
different states. No two states of the table share a code, a code of the table is held under its
name, and any other code as it came. Only `00000` is success. Every code can be read; and a state
that is read is found again by its code, is named if its code has a name, and is read again from
the text it is written as. -/
theorem codes_are_preserved :
    (∀ c, (ofCode c).code = c) ∧ Function.Injective ofCode ∧
    Function.Injective NamedState.code ∧
    (∀ c named, ofCode c = .named named ↔ named.code = c) ∧
    (∀ c, (∃ unnamed, ofCode c = .other c unnamed) ↔ ∀ named : NamedState, named.code ≠ c) ∧
    (∀ c, (ofCode c).isSuccess = true ↔ c = "00000") ∧
    (∀ c, Message.parse read? (utf8Bytes (Json.text c).toString) = some (ofCode c)) ∧
    ∀ bytes state, Message.parse read? bytes = some state →
      ofCode state.code = state ∧
        (∀ named : NamedState, named.code = state.code → state = .named named) ∧
        Message.parse read? (Message.unparse json state) = some state := by
  have hroundTrips := Message.roundTrips_of_writes (n := 0) SqlState.writes
  refine ⟨code_ofCode, ofCode_injective, NamedState.code_injective,
    fun _ _ => ofCode_eq_named_iff, fun _ => exists_ofCode_eq_other_iff,
    fun _ => isSuccess_ofCode_iff, parse_text, ?_⟩
  intro bytes state hstate
  refine ⟨ofCode_code state, ?_, hroundTrips.parse_unparse hstate⟩
  intro named hcode
  rw [← ofCode_code state]
  exact ofCode_eq_named_iff.mpr hcode

/-- `42P010` is a code of the table, also where it is written with an escape; `42P01` is none, and
it is not taken for `42P001` either. -/
theorem close_codes_are_preserved :
    let known := utf8Bytes "\"42P0\\u00310\""
    let unknown := utf8Bytes "\"42P01\""
    (Message.parse read? known = some (.named .duplicateSecurityIntegration) ∧
      Message.parse read? (Message.unparse json (.named .duplicateSecurityIntegration)) =
        some (.named .duplicateSecurityIntegration)) ∧
    (Message.parse read? unknown = some (ofCode "42P01") ∧
      ofCode "42P01" ≠ .named .ambiguousOrganization ∧
      Message.parse read? (Message.unparse json (ofCode "42P01")) = some (ofCode "42P01")) := by
  intro known unknown
  have hknown : Message.parse read? known = some (.named .duplicateSecurityIntegration) := by
    decide +kernel
  have hunknown : Message.parse read? unknown = some (ofCode "42P01") := by decide +kernel
  obtain ⟨-, -, -, hnamed, -, -, -, hread⟩ := codes_are_preserved
  refine ⟨⟨hknown, (hread _ _ hknown).2.2⟩, hunknown, ?_, (hread _ _ hunknown).2.2⟩
  rw [ne_eq, hnamed]
  decide

end SqlState

end Tributary
