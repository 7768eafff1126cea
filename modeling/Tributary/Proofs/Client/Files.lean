import Tributary.Proofs.Conversation.Cancellation
import Tributary.Proofs.Text.Splitting

/-!
# Files

A download opens its file only when the content of the resource is there. Before that the connection
may be closed, no organization set, or the operation cancelled; there may be no token, no response,
or one that is not the content; and the operation may be cancelled while the response is on its way.
None of this touches the file. Content replaces whatever the file held.
-/

namespace Tributary

/-! ## Writing a file -/

namespace Destination

variable {d opened : Destination} {bytes : List UInt8}

/-- A file that is opened is empty, and nothing else about its place changes. -/
theorem of_create_eq_ok (h : d.create = .ok opened) : opened = { d with content := some [] } := by
  unfold create at h
  split at h
  · cases h
  · exact (Except.ok.inj h).symm

/-- What is written to a file without a fault is at its end. -/
theorem content_append (h : (d.append bytes).1 = .ok ()) :
    (d.append bytes).2.content = some (d.content.getD [] ++ bytes) := by
  unfold append at h ⊢
  dsimp only at h ⊢
  split at h
  · cases h
  · rfl

/-- A file that can be opened and written holds what was written, whatever it held before. -/
theorem write_of_create (hopened : d.create = .ok opened)
    (hwritten : (opened.append bytes).1 = .ok ()) :
    (d.write bytes).1 = .ok () ∧ (d.write bytes).2.content = some bytes := by
  have hwrite : d.write bytes = opened.append bytes := by
    unfold write
    rw [hopened]
  rw [hwrite]
  refine ⟨hwritten, ?_⟩
  rw [content_append hwritten, of_create_eq_ok hopened]
  rfl

end Destination

/-! ## Cancelling -/

namespace Conversation

theorem isCancelled_cancel (c : Conversation) (id other : CancelId) :
    (c.cancel other).isCancelled id = true ↔ id = other ∨ c.isCancelled id = true := by
  unfold cancel
  split
  next hother =>
    constructor
    · exact .inr
    · rintro (rfl | hid)
      · exact hother
      · exact hid
  · simp [isCancelled]

/-- Just those operations are cancelled that were cancelled before or are cancelled now. -/
theorem isCancelled_cancelAll (c : Conversation) (id : CancelId) (ids : List CancelId) :
    (c.cancelAll ids).isCancelled id = true ↔ id ∈ ids ∨ c.isCancelled id = true := by
  unfold cancelAll
  induction ids generalizing c with
  | nil => simp
  | cons other ids ih =>
      rw [List.foldl_cons, ih, isCancelled_cancel, List.mem_cons]
      constructor
      · rintro (hmem | rfl | hid)
        · exact .inl (.inr hmem)
        · exact .inl (.inl rfl)
        · exact .inr hid
      · rintro ((rfl | hmem) | hid)
        · exact .inr (.inl rfl)
        · exact .inl hmem
        · exact .inr (.inr hid)

end Conversation

/-! ## Responses -/

namespace Service

variable {base : String} {bearer : Bearer} {maintenance : Bool} {q : Question} {c : Conversation}
  {cancels : List CancelId} {id : CancelId}

/-- A question reaches a peer over HTTP, whose next answer is for it. -/
structure Reaches (base : String) (bearer : Bearer) (maintenance : Bool) (q : Question)
    (c : Conversation) (request : HttpRequest) (served : Served HttpAnswer) : Prop where
  built : ∃ t, (token bearer c).1 = .ok t ∧ q.request base t maintenance = .ok request
  answered : ∃ endpoint, c.network.peer? request.url = some endpoint ∧
    (c.http.take endpoint q false).1 = served

/-- What comes of a question over HTTP: the operations that are cancelled while the response is on
its way, and its status and body, or a fault. -/
inductive Responds (base : String) (bearer : Bearer) (maintenance : Bool) (q : Question)
    (c : Conversation) : List CancelId → Except Error HttpResponse → Prop where
  | refused {e} (htoken : (token bearer c).1 = .error e) :
    Responds base bearer maintenance q c [] (.error e)
  | unsendable {t e} (htoken : (token bearer c).1 = .ok t)
    (hrequest : q.request base t maintenance = .error e) :
    Responds base bearer maintenance q c [] (.error (.transport e))
  | unreached {t r} (htoken : (token bearer c).1 = .ok t)
    (hrequest : q.request base t maintenance = .ok r) (hpeer : c.network.peer? r.url = none) :
    Responds base bearer maintenance q c [] (.error (.transport (HttpRequest.unanswered r.url)))
  | dropped {r cancels} (h : Reaches base bearer maintenance q c r ⟨.dropped, cancels⟩) :
    Responds base bearer maintenance q c cancels
      (.error (.transport (HttpRequest.unanswered r.url)))
  | bodiless {r status body complete complaint cancels}
    (h : Reaches base bearer maintenance q c r ⟨.response status body complete complaint, cancels⟩)
    (hstatus : HttpAnswer.isBodiless status = true) :
    Responds base bearer maintenance q c cancels (.ok ⟨status, [], complaint⟩)
  | whole {r status body complaint cancels}
    (h : Reaches base bearer maintenance q c r ⟨.response status body true complaint, cancels⟩)
    (hstatus : HttpAnswer.isBodiless status = false) :
    Responds base bearer maintenance q c cancels (.ok ⟨status, body, complaint⟩)
  | broken {r status body complaint cancels}
    (h : Reaches base bearer maintenance q c r ⟨.response status body false complaint, cancels⟩)
    (hstatus : HttpAnswer.isBodiless status = false) :
    Responds base bearer maintenance q c cancels
      (.error (.transport (.deserialization complaint)))

/-- A response is there or a fault, whatever the peers do. -/
theorem exists_responds (base : String) (bearer : Bearer) (maintenance : Bool) (q : Question)
    (c : Conversation) : ∃ cancels r, Responds base bearer maintenance q c cancels r := by
  cases htoken : (token bearer c).1 with
  | error e => exact ⟨_, _, .refused htoken⟩
  | ok t =>
      cases hrequest : q.request base t maintenance with
      | error e => exact ⟨_, _, .unsendable htoken hrequest⟩
      | ok r =>
          cases hpeer : c.network.peer? r.url with
          | none => exact ⟨_, _, .unreached htoken hrequest hpeer⟩
          | some endpoint =>
              have hreaches (served : Served HttpAnswer)
                  (h : (c.http.take endpoint q false).1 = served) :
                  Reaches base bearer maintenance q c r served :=
                ⟨⟨t, htoken, hrequest⟩, endpoint, hpeer, h⟩
              rcases hserved : (c.http.take endpoint q false).1 with ⟨answer, cancels⟩
              cases answer with
              | dropped => exact ⟨_, _, .dropped (hreaches _ hserved)⟩
              | response status body complete complaint =>
                  cases hstatus : HttpAnswer.isBodiless status with
                  | true => exact ⟨_, _, .bodiless (hreaches _ hserved) hstatus⟩
                  | false =>
                      cases complete with
                      | true => exact ⟨_, _, .whole (hreaches _ hserved) hstatus⟩
                      | false => exact ⟨_, _, .broken (hreaches _ hserved) hstatus⟩

/-- An operation that comes to a result while some operations are cancelled. -/
def Results (cancels : List CancelId) (r : Except Error α) (c : Conversation)
    (p : Except Error α × Conversation) : Prop :=
  p.1 = r ∧ ∀ id, p.2.isCancelled id = true ↔ id ∈ cancels ∨ c.isCancelled id = true

/-- An operation that cancels nothing. -/
theorem results_nil {p : Except Error α × Conversation} {r : Except Error α} (h : p.1 = r)
    (hsame : p.2.cancelled = c.cancelled) : Results [] r c p := by
  refine ⟨h, fun id => ?_⟩
  unfold Conversation.isCancelled
  simp [hsame]

/-- With a token, the request is built and sent; the source of tokens is all that changes before. -/
theorem exchange_of_token (base : String) (maintenance : Bool) (q : Question) {t : String}
    (htoken : (token bearer c).1 = .ok t) :
    ∃ tokens, exchange base bearer maintenance false q c =
      Talk.bind (ofTransport (q.request base t maintenance)) (send q false)
        { c with tokens } := by
  cases bearer with
  | asked =>
      have hanswer : c.tokens.ask.1 = .ok t := htoken
      refine ⟨c.tokens.ask.2, ?_⟩
      rw [exchange_eq]
      unfold Talk.bind
      dsimp only [token, Conversation.askToken]
      rw [hanswer]
  | fixed token =>
      obtain rfl : token.token = t := Except.ok.inj htoken
      exact ⟨c.tokens, rfl⟩

theorem results_of_refused {e : Error} (htoken : (token bearer c).1 = .error e) :
    Results [] (.error e) c (exchange base bearer maintenance false q c) := by
  cases bearer with
  | asked =>
      have hanswer : c.tokens.ask.1 = .error e := htoken
      rw [exchange_eq]
      unfold Talk.bind
      dsimp only [token, Conversation.askToken]
      rw [hanswer]
      exact results_nil rfl rfl
  | fixed token => cases htoken

theorem results_of_reaches {r : HttpRequest} {served : Served HttpAnswer}
    (h : Reaches base bearer maintenance q c r served) :
    Results served.cancels ((served.answer.read r.url).mapError .transport) c
      (exchange base bearer maintenance false q c) := by
  obtain ⟨⟨t, htoken, hrequest⟩, endpoint, hpeer, rfl⟩ := h
  obtain ⟨tokens, hexchange⟩ := exchange_of_token base maintenance q htoken
  have hsend : exchange base bearer maintenance false q c =
      send q false r { c with tokens } := by
    rw [hexchange, hrequest]
    rfl
  rw [hsend]
  unfold send
  dsimp only
  rw [hpeer]
  exact ⟨rfl, fun id => Conversation.isCancelled_cancelAll _ id _⟩

/-- An exchange comes to what is responded, and cancels what is cancelled meanwhile. -/
theorem results_of_responds {r : Except Error HttpResponse}
    (h : Responds base bearer maintenance q c cancels r) :
    Results cancels r c (exchange base bearer maintenance false q c) := by
  cases h with
  | refused htoken => exact results_of_refused htoken
  | unsendable htoken hrequest =>
      obtain ⟨tokens, hexchange⟩ := exchange_of_token base maintenance q htoken
      rw [hexchange, hrequest]
      exact results_nil rfl rfl
  | @unreached t r htoken hrequest hpeer =>
      obtain ⟨tokens, hexchange⟩ := exchange_of_token base maintenance q htoken
      have hsend : send q false r { c with tokens } =
          (.error (.transport (HttpRequest.unanswered r.url)), { c with tokens }) := by
        unfold send
        dsimp only
        rw [hpeer]
      rw [hexchange, hrequest]
      show Results _ _ c (send q false r { c with tokens })
      rw [hsend]
      exact results_nil rfl rfl
  | dropped h => exact results_of_reaches h
  | bodiless h hstatus =>
      have hresults := results_of_reaches h
      rw [HttpAnswer.read, if_pos hstatus] at hresults
      exact hresults
  | whole h hstatus | broken h hstatus =>
      have hresults := results_of_reaches h
      rw [HttpAnswer.read, if_neg (Bool.eq_false_iff.mp hstatus)] at hresults
      exact hresults

/-! ## Replies to downloads -/

/-- What a service replies to the question for a resource, and the operations that are cancelled
while the reply is on its way. Over HTTP only a response with status 200 is the content, which is
its whole body. -/
inductive Replies (q : Question) (c : Conversation) :
    Service → List CancelId → Except Error DownloadReply → Prop where
  | exhausted (h : c.direct.download = []) :
    Replies q c .direct [] (.error (.client "script exhausted"))
  | served {answer cancels rest} (h : c.direct.download = ⟨answer, cancels⟩ :: rest) :
    Replies q c .direct cancels answer
  | content {base bearer maintenance cancels body complaint}
    (h : Responds base bearer maintenance q c cancels (.ok ⟨200, body, complaint⟩)) :
    Replies q c (.rest base bearer maintenance) cancels (.ok (.content body))
  | failure {base bearer maintenance cancels status body complaint}
    (h : Responds base bearer maintenance q c cancels (.ok ⟨status, body, complaint⟩))
    (hstatus : status ≠ 200) :
    Replies q c (.rest base bearer maintenance) cancels (.ok (.failed status (errorMessage body)))
  | fault {base bearer maintenance cancels e}
    (h : Responds base bearer maintenance q c cancels (.error e)) :
    Replies q c (.rest base bearer maintenance) cancels (.error e)

theorem exists_replies (service : Service) (q : Question) (c : Conversation) :
    ∃ cancels r, Replies q c service cancels r := by
  cases service with
  | direct =>
      cases hserved : c.direct.download with
      | nil => exact ⟨_, _, .exhausted hserved⟩
      | cons served rest => exact ⟨_, _, .served hserved⟩
  | rest base bearer maintenance =>
      obtain ⟨cancels, r, h⟩ := exists_responds base bearer maintenance q c
      match r, h with
      | .error e, h => exact ⟨_, _, .fault h⟩
      | .ok ⟨status, body, complaint⟩, h =>
          by_cases hstatus : status = 200
          · subst hstatus
            exact ⟨_, _, .content h⟩
          · exact ⟨_, _, .failure h hstatus⟩

theorem ofResponse_of_ne {response : HttpResponse} (hstatus : response.status ≠ 200) :
    DownloadReply.ofResponse response = .failed response.status (errorMessage response.body) := by
  unfold DownloadReply.ofResponse
  split
  next h => exact absurd h hstatus
  next => rfl

/-- A download over HTTP is made of the response to its question. -/
theorem results_of_response {type : ResourceType} {organization : Uuid} {name : String}
    {r : Except Error HttpResponse}
    (h : Responds base bearer maintenance (.download type organization name) c cancels r) :
    Results cancels (r.map DownloadReply.ofResponse) c
      ((rest base bearer maintenance).download type organization name c) := by
  obtain ⟨hresult, hcancelled⟩ := results_of_responds h
  have hbind : (rest base bearer maintenance).download type organization name c =
    Talk.bind (exchange base bearer maintenance false (.download type organization name))
      (fun response => Talk.pure (DownloadReply.ofResponse response)) c := rfl
  rw [hbind]
  unfold Talk.bind
  split
  all_goals
    next hc =>
      rw [hc] at hresult hcancelled
      subst hresult
      exact ⟨rfl, hcancelled⟩

theorem results_of_replies {service : Service} {type : ResourceType} {organization : Uuid}
    {name : String} {r : Except Error DownloadReply}
    (h : Replies (.download type organization name) c service cancels r) :
    Results cancels r c (service.download type organization name c) := by
  cases h with
  | exhausted h =>
      unfold download
      dsimp only
      rw [h]
      exact results_nil rfl rfl
  | served h =>
      unfold download
      dsimp only
      rw [h]
      exact ⟨rfl, fun id => Conversation.isCancelled_cancelAll _ id _⟩
  | content h => exact results_of_response h
  | failure h hstatus =>
      have hresults := results_of_response h
      rw [Except.map, ofResponse_of_ne hstatus] at hresults
      exact hresults
  | fault h => exact results_of_response h

/-- An operation is cancelled while a response over HTTP is on its way. A reply in memory is there
at once. -/
def Interrupts (service : Service) (cancels : List CancelId) (id : CancelId) : Prop :=
  service ≠ .direct ∧ id ∈ cancels

/-- A call for an operation that is not cancelled comes to its result, unless the operation is
cancelled meanwhile. -/
theorem guarded_of_results (service : Service) {call : Talk α} {r : Except Error α}
    (hgoing : c.isCancelled id = false) (h : Results cancels r c (call c)) :
    (service.Interrupts cancels id → (service.guarded id call c).1 = .error .cancelled) ∧
      (¬ service.Interrupts cancels id → (service.guarded id call c).1 = r) := by
  obtain ⟨hresult, hcancelled⟩ := h
  have hmem : (call c).2.isCancelled id = true ↔ id ∈ cancels := by
    simp [hcancelled, hgoing]
  cases service with
  | direct =>
      have hcall : Service.direct.guarded id call c = call c := by
        unfold guarded Talk.unlessCancelled
        simp only [hgoing, Bool.false_eq_true, if_false]
      refine ⟨fun h => absurd rfl h.1, fun _ => ?_⟩
      rw [hcall, hresult]
  | rest base bearer maintenance =>
      have hcall : (rest base bearer maintenance).guarded id call c =
          (if (call c).2.isCancelled id then .error .cancelled else (call c).1, (call c).2) := by
        unfold guarded Talk.untilCancelled
        simp only [hgoing, Bool.false_eq_true, if_false]
      rw [hcall]
      refine ⟨fun h => if_pos (hmem.mpr h.2), fun h => ?_⟩
      have hnot : id ∉ cancels := fun hid => h ⟨nofun, hid⟩
      exact (if_neg (mt hmem.mp hnot)).trans hresult

end Service

/-! ## Downloads -/

namespace Connection

/-- The fault that the caller is told of where a reply is not the content: a response with another
status is classified, and a fault in moving messages is one of the client. -/
inductive Denies : Except Error DownloadReply → Error → Prop where
  | status (status : Nat) (message : String) :
    Denies (.ok (.failed status message)) (primaryFailure status message)
  | transport (e : TransportError) :
    Denies (.error (.transport e))
      (.client ("unable to send request to server: " ++ e.message))
  | other {e : Error} (h : ∀ t, e ≠ .transport t) : Denies (.error e) e

/-- The question for a resource is put to the service, which replies. -/
structure Asks (k : Connection) (id : CancelId) (type : ResourceType) (name : String)
    (c : Conversation) (cancels : List CancelId) (r : Except Error DownloadReply) : Prop where
  isOpen : k.closed = false
  going : c.isCancelled id = false
  replies : ∃ organization, c.context.organization = some organization ∧
    k.service.Replies (.download type organization name) c cancels r

/-- The ways out of a download without content, with the fault that the caller is told. -/
inductive Exits (k : Connection) (id : CancelId) (type : ResourceType) (name : String)
    (c : Conversation) : Error → Prop where
  | closed (h : k.closed = true) : Exits k id type name c (.connection .closed)
  | unset (hopen : k.closed = false) (h : c.context.organization = none) :
    Exits k id type name c (.client "no organization in context")
  | cancelled {organization} (hopen : k.closed = false)
    (horganization : c.context.organization = some organization) (h : c.isCancelled id = true) :
    Exits k id type name c .cancelled
  | interrupted {cancels r} (hasks : k.Asks id type name c cancels r)
    (h : k.service.Interrupts cancels id) : Exits k id type name c .cancelled
  | denied {cancels r e} (hasks : k.Asks id type name c cancels r)
    (hstays : ¬ k.service.Interrupts cancels id) (h : Denies r e) : Exits k id type name c e

/-- The service answers with the content of the resource, in time. -/
def Receives (k : Connection) (id : CancelId) (type : ResourceType) (name : String)
    (c : Conversation) (bytes : List UInt8) : Prop :=
  ∃ cancels, k.Asks id type name c cancels (.ok (.content bytes)) ∧
    ¬ k.service.Interrupts cancels id

variable {k : Connection} {id : CancelId} {type : ResourceType} {name : String}
  {c : Conversation} {cancels : List CancelId} {r : Except Error DownloadReply} {e : Error}
  {bytes : List UInt8}

/-- A reply is the content, or it denies it. -/
theorem content_or_denies (r : Except Error DownloadReply) :
    (∃ bytes, r = .ok (.content bytes)) ∨ ∃ e, Denies r e := by
  match r with
  | .ok (.content bytes) => exact .inl ⟨bytes, rfl⟩
  | .ok (.failed status message) => exact .inr ⟨_, .status status message⟩
  | .error e =>
      by_cases htransport : ∃ t, e = .transport t
      · obtain ⟨t, rfl⟩ := htransport
        exact .inr ⟨_, .transport t⟩
      · exact .inr ⟨e, .other (not_exists.mp htransport)⟩

theorem exits_or_receives (k : Connection) (id : CancelId) (type : ResourceType) (name : String)
    (c : Conversation) :
    (∃ e, k.Exits id type name c e) ∨ ∃ bytes, k.Receives id type name c bytes := by
  cases hopen : k.closed with
  | true => exact .inl ⟨_, .closed hopen⟩
  | false =>
      cases horganization : c.context.organization with
      | none => exact .inl ⟨_, .unset hopen horganization⟩
      | some organization =>
          cases hgoing : c.isCancelled id with
          | true => exact .inl ⟨_, .cancelled hopen horganization hgoing⟩
          | false =>
              obtain ⟨cancels, r, hreplies⟩ :=
                k.service.exists_replies (.download type organization name) c
              have hasks : k.Asks id type name c cancels r :=
                ⟨hopen, hgoing, organization, horganization, hreplies⟩
              by_cases hinterrupts : k.service.Interrupts cancels id
              · exact .inl ⟨_, .interrupted hasks hinterrupts⟩
              · rcases content_or_denies r with ⟨bytes, rfl⟩ | ⟨e, hdenies⟩
                · exact .inr ⟨bytes, cancels, hasks, hinterrupts⟩
                · exact .inl ⟨e, .denied hasks hinterrupts hdenies⟩

theorem contentOf_of_denies (h : Denies r e) : contentOf r = .error e := by
  cases h with
  | status status message => rfl
  | transport t => rfl
  | other hother =>
      unfold contentOf downloadError
      dsimp only
      split
      · exact absurd rfl (hother _)
      · rfl

/-! ### What is fetched -/

theorem whileOpen_of_open (hopen : k.closed = false) (x : Talk α) : k.whileOpen x = x :=
  if_neg (Bool.eq_false_iff.mp hopen)

theorem fetch_of_organization {organization : Uuid} (hopen : k.closed = false)
    (horganization : c.context.organization = some organization) :
    (k.fetch id type name c).1 =
      contentOf (k.service.guarded id (k.service.download type organization name) c).1 := by
  have hfetch : k.fetch id type name c = _ := congrFun (whileOpen_of_open hopen _) c
  rw [hfetch, horganization]

theorem Asks.guarded (h : k.Asks id type name c cancels r) :
    ∃ organization, c.context.organization = some organization ∧
      (k.service.Interrupts cancels id →
        (k.service.guarded id (k.service.download type organization name) c).1 =
          .error .cancelled) ∧
      (¬ k.service.Interrupts cancels id →
        (k.service.guarded id (k.service.download type organization name) c).1 = r) := by
  obtain ⟨organization, horganization, hreplies⟩ := h.replies
  exact ⟨organization, horganization,
    k.service.guarded_of_results h.going (Service.results_of_replies hreplies)⟩

theorem fetch_of_exits (h : k.Exits id type name c e) :
    (k.fetch id type name c).1 = .error e := by
  cases h with
  | closed hclosed =>
      unfold fetch whileOpen
      rw [hclosed]
      rfl
  | unset hopen horganization =>
      have hfetch : k.fetch id type name c = _ := congrFun (whileOpen_of_open hopen _) c
      rw [hfetch, horganization]
  | cancelled hopen horganization hid =>
      rw [fetch_of_organization hopen horganization, k.service.guarded_of_cancelled _ hid]
      rfl
  | interrupted hasks hinterrupts =>
      obtain ⟨organization, horganization, hguarded, -⟩ := hasks.guarded
      rw [fetch_of_organization hasks.isOpen horganization, hguarded hinterrupts]
      rfl
  | denied hasks hstays hdenies =>
      obtain ⟨organization, horganization, -, hguarded⟩ := hasks.guarded
      rw [fetch_of_organization hasks.isOpen horganization, hguarded hstays]
      exact contentOf_of_denies hdenies

theorem fetch_of_receives (h : k.Receives id type name c bytes) :
    (k.fetch id type name c).1 = .ok bytes := by
  obtain ⟨cancels, hasks, hstays⟩ := h
  obtain ⟨organization, horganization, -, hguarded⟩ := hasks.guarded
  rw [fetch_of_organization hasks.isOpen horganization, hguarded hstays]
  rfl

/-! ### What is done to the file -/

theorem download_of_exits (h : k.Exits id type name c e) (dest : Destination) :
    (k.download id type name dest c).1 = (.error e, dest) := by
  have hfetch := fetch_of_exits h
  unfold download
  split
  next bytes c' hc =>
    rw [hc] at hfetch
    cases hfetch
  next e' c' hc =>
    rw [hc] at hfetch
    cases hfetch
    rfl

theorem download_of_receives (h : k.Receives id type name c bytes) (dest : Destination) :
    (k.download id type name dest c).1 = dest.write bytes := by
  have hfetch := fetch_of_receives h
  unfold download
  split
  next bytes' c' hc =>
    rw [hc] at hfetch
    cases hfetch
    rfl
  next e' c' hc =>
    rw [hc] at hfetch
    cases hfetch

/-- A download leaves its file alone unless the service answers with the content of the resource, in
time; otherwise it is told why there is no content. It comes to one or the other. Once there is
content, the outcome is that of writing the file: a file that can be opened and written holds
just the content, whatever it held before. -/
theorem download_writes_only_content (k : Connection) (id : CancelId) (type : ResourceType)
    (name : String) (c : Conversation) (dest : Destination) :
    let p := (k.download id type name dest c).1
    (∀ e, k.Exits id type name c e → p = (.error e, dest)) ∧
      (∀ bytes, k.Receives id type name c bytes → p = dest.write bytes ∧
        ∀ opened, dest.create = .ok opened → (opened.append bytes).1 = .ok () →
          p.1 = .ok () ∧ p.2.content = some bytes) ∧
      ((∃ e, k.Exits id type name c e) ∨ ∃ bytes, k.Receives id type name c bytes) ∧
      (p.2 ≠ dest → ∃ bytes, k.Receives id type name c bytes) := by
  intro p
  have hexits (e : Error) (h : k.Exits id type name c e) : p = (.error e, dest) :=
    download_of_exits h dest
  have hreceives (bytes : List UInt8) (h : k.Receives id type name c bytes) :
      p = dest.write bytes := download_of_receives h dest
  have hcases := exits_or_receives k id type name c
  refine ⟨hexits, fun bytes h => ⟨hreceives bytes h, fun opened hopened hwritten => ?_⟩, hcases,
    fun hchanged => ?_⟩
  · rw [hreceives bytes h]
    exact Destination.write_of_create hopened hwritten
  · rcases hcases with ⟨e, h⟩ | hcontent
    · rw [hexits e h] at hchanged
      exact absurd rfl hchanged
    · exact hcontent

/-- A file keeps what it holds when the resource is missing, and when its content breaks off.
Content that is there replaces it. -/
theorem download_of_missing_keeps_file :
    let k : Connection :=
      { params :=
          { server := "", tokens := .supplied [], sessionId := none, hints := false,
            insecureTls := false, connectTimeout := 0, pollInterval := 1, handshakeTimeout := 0,
            streamBuffer := 1, connectTimeout_le := by decide, pollInterval_pos := by decide,
            streamBuffer_pos := by decide }
        service := .rest "http://a" .asked false }
    let peers (answer : HttpAnswer) : Conversation :=
      { context := { organization := some ⟨List.replicate 32 1, rfl⟩ }
        tokens := .supplied [.ok "t"]
        network := { reachable := true, primary := ['a'] }
        http := { download := [{ answer }] } }
    let dest : Destination := { content := some [1, 2, 3] }
    let outcome (answer : HttpAnswer) :=
      (k.download 0 .functionSource "f" dest (peers answer)).1
    outcome (.response 404 (Text.utf8Bytes "gone") true) = (.error (.client "gone"), dest) ∧
      outcome (.response 200 [7] false "the body breaks off") =
        (.error (.client ("unable to send request to server: " ++
          "Deserialization error: the body breaks off")), dest) ∧
      outcome (.response 200 [7] true) = (.ok (), { content := some [7] }) := by
  intro k peers dest outcome
  let q : Question := .download .functionSource ⟨List.replicate 32 1, rfl⟩ "f"
  have hsent : ((q.request "http://a" "t" false).toOption.map fun r =>
      (peers .dropped).network.peer? r.url) = some (some .primary) := by decide +kernel
  obtain ⟨r, hrequest, hpeer⟩ := Text.exists_of_toOption_map hsent
  have hreaches (answer : HttpAnswer) :
      Service.Reaches "http://a" .asked false q (peers answer) r { answer } :=
    ⟨⟨"t", rfl, hrequest⟩, .primary, hpeer, rfl⟩
  have hasks {answer : HttpAnswer} {reply : Except Error DownloadReply}
      (h : k.service.Replies q (peers answer) [] reply) :
      k.Asks 0 .functionSource "f" (peers answer) [] reply := ⟨rfl, rfl, _, rfl, h⟩
  have hstays : ¬ k.service.Interrupts [] 0 := nofun
  have hspec (answer : HttpAnswer) :=
    download_writes_only_content k 0 .functionSource "f" (peers answer) dest
  refine ⟨?_, ?_, ?_⟩
  · have herror : primaryFailure 404 (errorMessage (Text.utf8Bytes "gone")) = .client "gone" := by
      decide +kernel
    refine (hspec _).1 _ (herror ▸ .denied (hasks ?_) hstays (.status 404 _))
    exact .failure (.whole (hreaches _) rfl) (by decide)
  · refine (hspec _).1 _ (.denied (hasks (.fault (.broken (hreaches _) rfl))) hstays ?_)
    exact .transport (.deserialization "the body breaks off")
  · refine ((hspec _).2.1 [7] ⟨[], hasks ?_, hstays⟩).1
    exact .content (.whole (hreaches _) rfl)

end Connection

end Tributary
