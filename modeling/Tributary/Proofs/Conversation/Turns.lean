import Mathlib.Logic.Relation
import Tributary.Proofs.Conversation.Exchanges

/-!
# Turns of a conversation

Whatever a client does, its conversation goes on by turns, each of which is one exchange for some
operation. So what each turn keeps, every run keeps.
-/

namespace Tributary

/-- One exchange of a client, whose statements are run by certain runners only. -/
inductive Conversation.Turn (runs : Runner → Prop) (c : Conversation) : Conversation → Prop where
  | submitted {x : Runner} (hx : runs x) (id : CancelId) (request : StatementRequest) :
    Turn runs c
      (x.ask id (.submit (x.body c.context request.statement) request.attachments) c).2
  | polled {x : Runner} (hx : runs x) (id : CancelId) (statementId : Uuid) (part : Int) :
    Turn runs c (x.ask id (.status statementId part x.sessionId) c).2
  | askedVersion (service : Service) (id : CancelId) :
    Turn runs c (service.guarded id service.version c).2
  | downloaded (service : Service) (id : CancelId) (type : ResourceType) (organization : Uuid)
      (name : String) :
    Turn runs c (service.guarded id (service.download type organization name) c).2
  | dialled (uri token : String) (sessionId : Option String) (timeout : Duration) :
    Turn runs c (Socket.dial uri token sessionId timeout c).2

/-- One turn after the other. -/
def Conversation.Turns (runs : Runner → Prop) : Conversation → Conversation → Prop :=
  Relation.ReflTransGen (Turn runs)

instance (runs : Runner → Prop) : IsPreorder Conversation (Conversation.Turns runs) :=
  inferInstanceAs (IsPreorder Conversation (Relation.ReflTransGen _))

/-- Every exchange is a turn. -/
theorem Conversation.turns_allowsExchanges (runs : Runner → Prop) (id : CancelId) :
    AllowsExchanges (Turns runs) runs id where
  submitted hx request _ := .single (.submitted hx id request)
  polled hx statementId part _ := .single (.polled hx id statementId part)
  askedVersion service _ := .single (.askedVersion service id)
  downloaded service type organization name _ :=
    .single (.downloaded service id type organization name)
  dialled uri token sessionId timeout _ _ := .single (.dialled uri token sessionId timeout)

end Tributary
