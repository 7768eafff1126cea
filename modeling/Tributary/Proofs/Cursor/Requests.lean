import Tributary.Proofs.Conversation.Exchanges
import Tributary.Proofs.Conversation.Sendings
import Tributary.Proofs.Cursor.Forward

/-!
# What cursors send

A cursor over partitions sends questions for the partition that the next row lies in, if it does
not hold that. A cursor over a stream sends nothing but what it takes to look up the query of an
error, and what hinders the lookup is not told.
-/

namespace Tributary

open Conversation (Sends)
open Talk (Heeds)

/-- An outcome tells of an error. -/
def Outcome.Tells (e : Error) : Outcome → Prop
  | .failed e' => e' = e
  | .fetched more _ => more = .error e
  | .drained _ ended => ended = .error e
  | .downloaded result _ => result = .error e
  | _ => False

variable {P : Sending → Prop}

/-! ## Streams -/

namespace History

/-- What a lookup makes of a refusal: the error of the query is told without messages. -/
def drops (_ e' : Error) : Prop := ∃ e, e' = fault e none

end History

namespace StreamCursor

end StreamCursor

/-! ## Partitions -/

namespace PagedCursor

end PagedCursor

/-! ## Cursors -/

namespace Cursor

/-- What a cursor makes of a refusal: its fault, but for the lookup of a stream. -/
def makes : Cursor → Error → Error → Prop
  | .paged _ => Eq
  | .streamed _ => History.drops

section

variable {I : Cursor → Prop} {makes : Error → Error → Prop}
  (hnext : ∀ r dest c, I r → Sends P
    (fun e => ∃ e', makes e e' ∧ (next r dest c).1.more = .error e') c (next r dest c).2)
include hnext

variable (hkeeps : ∀ r dest c, I r → I (next r dest c).1.cursor)
include hkeeps

end

end Cursor

/-! ## Opening cursors -/

namespace Socket

/-- Nothing happens, or a socket is to be opened at one address: nobody is there, or a handshake
sends the token and the session. -/
theorem snd_dial_cases (uri token : String) (sessionId : Option String) (timeout : Duration)
    (c : Conversation) :
    (dial uri token sessionId timeout c).2 = c ∨ ∃ url, requestUrl uri = .ok url ∧
      ((dial uri token sessionId timeout c).2 = c.noteAttempt url ∨ ∃ header,
        (dial uri token sessionId timeout c).2 =
          (handshake url header ⟨token, sessionId.getD ""⟩ timeout (c.noteAttempt url)).2) := by
  unfold dial
  cases requestUrl uri with
  | error e => exact .inl rfl
  | ok url =>
      cases header? sessionId with
      | error e => exact .inl rfl
      | ok header =>
          refine .inr ⟨url, rfl, ?_⟩
          simp only [bind, Talk.bind, Talk.ofExcept]
          unfold connect
          dsimp only
          split
          · exact .inl rfl
          split
          · exact .inl rfl
          split
          · exact .inr ⟨header, rfl⟩
          · exact .inl rfl

/-- Opening a socket sends nothing to a service. -/
theorem records_dial (uri token : String) (sessionId : Option String) (timeout : Duration)
    (c : Conversation) : c.Records [] (dial uri token sessionId timeout c).2 := by
  rcases snd_dial_cases uri token sessionId timeout c with
    hsame | ⟨url, -, hattempt | ⟨header, hhandshake⟩⟩
  · rw [hsame]
    exact Conversation.records_nil c
  · rw [hattempt]
    exact Conversation.records_nil_of_eq rfl rfl rfl rfl
  · rw [hhandshake]
    show c.Records ([] ++ []) _
    refine .trans ?_ (Conversation.records_cancelAll _ _)
    exact Conversation.records_nil_of_eq rfl rfl rfl rfl

end Socket

namespace Cursor

variable {id : CancelId} {settings : CursorSettings}

end Cursor

end Tributary
