import Tributary.Proofs.Cursor.Schedules

/-!
# Lookups in the background

The reader of a stream works while other operations go on, so the conversation may be another one
at each of its steps. A stream that comes to an error of its query looks the query up in one step,
in the conversation of that moment. What the receiver is told in the end is what was known then,
and no other step of the stream touches the conversation.
-/

namespace Tributary

/-- A stream comes to an error of its query: at its beginning, or after its columns and some
rows. -/
inductive Signal.ComesTo (e : StreamError) :
    Option (StreamMetadata × List Row) → List Signal → Prop where
  | first (later : List Signal) : ComesTo e none (.reported e :: later)
  | later (m : StreamMetadata) {rows : List Row} {signals : List Signal}
    (h : Signal.rows signals = (rows, .reported e)) :
    ComesTo e (some (m, rows)) (.metadata m :: signals)

/-- It has a fault to tell, or has told all that it is going to tell. -/
def StreamReader.IsPast : StreamReader → Prop
  | .failing _ => True
  | .leaving => True
  | .gone => True
  | _ => False

namespace HandOff

/-! ## Runs among other operations -/

/-- A run of a stream among other operations, which may change the conversation at any time. It
leaves behind the conversations before and after each of its own steps. -/
inductive Runs (capacity : Nat) (s₀ : HandOff) :
    List (Conversation × Conversation) → HandOff → Prop where
  | refl : Runs capacity s₀ [] s₀
  | step {trace : List (Conversation × Conversation)} {s s' : HandOff}
    (h : Runs capacity s₀ trace s) (hstep : Step capacity s s') :
    Runs capacity s₀ (trace ++ [(s.conversation, s'.conversation)]) s'
  | others {trace : List (Conversation × Conversation)} {s : HandOff}
    (h : Runs capacity s₀ trace s) (c : Conversation) :
    Runs capacity s₀ trace { s with conversation := c }

/-- All steps leave the conversation alone. -/
def IsQuiet (trace : List (Conversation × Conversation)) : Prop :=
  ∀ p ∈ trace, p.2 = p.1

/-- One step takes a conversation to another, and all other steps leave theirs alone. -/
def ChangesOnce (trace : List (Conversation × Conversation)) (c c' : Conversation) : Prop :=
  ∃ before after, trace = before ++ (c, c') :: after ∧ IsQuiet (before ++ after)

variable {trace : List (Conversation × Conversation)} {c c' : Conversation}

theorem IsQuiet.concat (h : IsQuiet trace) (d : Conversation) : IsQuiet (trace ++ [(d, d)]) := by
  intro p hp
  rcases List.mem_append.mp hp with hp | hp
  · exact h p hp
  · rw [List.mem_singleton.mp hp]

theorem IsQuiet.changesOnce (h : IsQuiet trace) (c c' : Conversation) :
    ChangesOnce (trace ++ [(c, c')]) c c' :=
  ⟨trace, [], rfl, (List.append_nil trace).symm ▸ h⟩

theorem ChangesOnce.concat (h : ChangesOnce trace c c') (d : Conversation) :
    ChangesOnce (trace ++ [(d, d)]) c c' := by
  obtain ⟨before, after, rfl, hquiet⟩ := h
  refine ⟨before, after ++ [(d, d)], by simp, ?_⟩
  rw [← List.append_assoc]
  exact hquiet.concat d

/-! ## What does not depend on the conversation -/

variable {s s' : HandOff} {e : StreamError} {capacity : Nat}

theorem Phase.withConversation (h : s.Phase) (c : Conversation) :
    { s with conversation := c }.Phase := by
  cases h with
  | early h => exact .early ⟨h.ready, h.receiver, h.reader, h.channel, h.received, h.fault⟩
  | refused h => exact .refused ⟨h.ready, h.receiver, h.reader, h.channel, h.received⟩
  | running h => exact .running ⟨h.ready, h.receiver, h.fault⟩
  | finished h => exact .finished ⟨h.ready, h.receiver, h.reader, h.channel⟩

/-- The columns of a stream and all of its rows, if it can be opened. -/
def content? (s : HandOff) : Option (StreamMetadata × List Row) :=
  s.outcome.toOption.map fun (m, rows, _) => (m, rows)

/-- Only the fault of a stream depends on the conversation. -/
theorem content?_withConversation (s : HandOff) (c : Conversation) :
    { s with conversation := c }.content? = s.content? := by
  obtain ⟨events, lookup, token, _, reader, ready, channel, fault, receiver, received⟩ := s
  unfold content? outcome
  dsimp only
  split
  · rfl
  · rfl
  · unfold toOpen
    cases reader with
    | reading =>
        dsimp only
        split
        · rfl
        · rfl
    | _ => rfl
  · rfl
  · unfold toCome
    cases reader <;> rfl

/-- What comes of a stream is settled once its fault is known. -/
theorem outcome_withConversation (h : s.reader.IsPast) (c : Conversation) :
    { s with conversation := c }.outcome = s.outcome := by
  obtain ⟨events, lookup, token, _, reader, ready, channel, fault, receiver, received⟩ := s
  unfold outcome toOpen toCome
  cases reader with
  | failing e => rfl
  | leaving => rfl
  | gone => rfl
  | reading => exact h.elim
  | handing row => exact h.elim
  | describing e => exact h.elim
  | ending => exact h.elim

/-- A receiver touches neither what is read nor the conversation. -/
theorem receiverStep_eq (h : ReceiverStep s s') : ∃ channel fault receiver received,
    s' = { s with channel, fault, receiver, received } := by
  cases h with
  | opened hreceiver hready => exact ⟨_, _, _, _, rfl⟩
  | refused hreceiver hready => exact ⟨_, _, _, _, rfl⟩
  | deserted hreceiver hready hreader => exact ⟨_, _, _, _, rfl⟩
  | took hreceiver hchannel => exact ⟨_, _, _, _, rfl⟩
  | finished hreceiver hchannel hreader => exact ⟨_, _, _, _, rfl⟩

/-! ## Steps towards an error -/

/-- The reader is going to come to an error of the query, and has not looked it up. -/
def Awaits (s : HandOff) (e : StreamError) : Prop :=
  match s.reader with
  | .reading | .handing _ => (Signal.rows (Signal.all s.events)).2 = .reported e ∧
      (s.ready = none → ∀ row, (Signal.all s.events).head? ≠ some (.data row))
  | .describing e' => e' = e
  | _ => False

/-- Whoever receives the stream does not know yet what has come of it. -/
theorem Awaits.not_done (h : s.Awaits e) (hs : s.Phase) : ¬ s.receiver.IsDone := by
  have hreader : ¬ s.reader.IsDone := by
    intro hdone
    unfold Awaits at h
    cases hreader : s.reader with
    | leaving | gone =>
        rw [hreader] at h
        exact h
    | reading | handing row | describing e | failing e | ending =>
        rw [hreader] at hdone
        exact hdone
  cases hs with
  | early hs =>
      rw [hs.receiver]
      exact id
  | refused hs => exact absurd hs.reader hreader
  | running hs =>
      rcases hs.receiver with ⟨hopening, -⟩ | hreceiving
      · rw [hopening]
        exact id
      · rw [hreceiving]
        exact id
  | finished hs =>
      rw [hs.reader] at hreader
      exact absurd trivial hreader

theorem Awaits.read {event : SocketEvent} {events : List SocketEvent} (h : s.Awaits e)
    (hreader : s.reader = .reading) (hevents : s.events = event :: events) :
    ({ s with events }.read (Signal.ofEvent? event)).Awaits e := by
  obtain ⟨_, lookup, token, c, _, ready, channel, fault, receiver, received⟩ := s
  subst hreader hevents
  obtain ⟨hcomes, hfirst⟩ := h
  dsimp only at hcomes hfirst
  rcases all_cons_cases event events with ⟨hsignal, hall⟩ | ⟨signal, hsignal, hall⟩
  · rw [hall] at hcomes hfirst
    rw [hsignal]
    exact ⟨hcomes, hfirst⟩
  · rw [hall] at hcomes hfirst
    rw [hsignal]
    cases signal with
    | metadata m =>
        cases ready with
        | none => exact ⟨hcomes, nofun⟩
        | some told => exact ⟨hcomes, nofun⟩
    | data row =>
        cases ready with
        | none => exact absurd rfl (hfirst rfl row)
        | some told => exact ⟨hcomes, nofun⟩
    | reported e' => exact Signal.reported.inj hcomes
    | broken fault => cases hcomes
    | ended => cases hcomes

/-- The reader looks the error up in one step. All steps before leave the conversation alone. -/
theorem Awaits.step (h : s.Awaits e) (hstep : Step capacity s s') :
    (s'.Awaits e ∧ s'.conversation = s.conversation) ∨
      (s.reader = .describing e ∧ s'.reader.IsPast ∧
        s'.conversation = (History.report s.lookup s.token e s.conversation).2) := by
  cases hstep with
  | reader hstep =>
      have hnever {reader : StreamReader} (hreader : s.reader = reader)
          (hpast : reader.IsPast ∨ reader = .ending) : False := by
        unfold Awaits at h
        rw [hreader] at h
        rcases hpast with hpast | rfl
        · cases reader <;> trivial
        · exact h
      cases readerStep_of_eq_some hstep with
      | ended hreader hevents =>
          unfold Awaits at h
          rw [hreader, hevents] at h
          cases h.1
      | read hreader hevents =>
          refine .inl ⟨h.read hreader hevents, ?_⟩
          obtain ⟨ready, reader, hread⟩ := read_eq { s with events := _ } _
          rw [hread]
      | handed hreader hroom =>
          unfold Awaits at h
          rw [hreader] at h
          exact .inl ⟨h, rfl⟩
      | described hreader hreport =>
          unfold Awaits at h
          rw [hreader] at h
          obtain rfl := h
          refine .inr ⟨hreader, trivial, ?_⟩
          rw [hreport]
      | failed hreader => exact (hnever hreader (.inl trivial)).elim
      | concluded hreader => exact (hnever hreader (.inr rfl)).elim
      | left hreader => exact (hnever hreader (.inl trivial)).elim
  | receiver hstep =>
      obtain ⟨channel, fault, receiver, received, rfl⟩ :=
        receiverStep_eq (receiverStep_of_eq_some hstep)
      exact .inl ⟨h, rfl⟩

/-- After the lookup, no step touches the conversation. -/
theorem past_of_step (h : s.reader.IsPast) (hstep : Step capacity s s') :
    s'.reader.IsPast ∧ s'.conversation = s.conversation := by
  cases hstep with
  | reader hstep =>
      cases readerStep_of_eq_some hstep with
      | ended hreader hevents => exact (hreader ▸ h).elim
      | read hreader hevents => exact (hreader ▸ h).elim
      | handed hreader hroom => exact (hreader ▸ h).elim
      | described hreader hreport => exact (hreader ▸ h).elim
      | concluded hreader => exact (hreader ▸ h).elim
      | failed hreader =>
          obtain ⟨ready, fault, hfail⟩ := s.fail_eq _
          rw [hfail]
          exact ⟨trivial, rfl⟩
      | left hreader => exact ⟨trivial, rfl⟩
  | receiver hstep =>
      obtain ⟨channel, fault, receiver, received, rfl⟩ :=
        receiverStep_eq (receiverStep_of_eq_some hstep)
      exact ⟨h, rfl⟩

theorem lookup_of_step (hstep : Step capacity s s') :
    s'.lookup = s.lookup ∧ s'.token = s.token := by
  cases hstep with
  | reader hstep =>
      cases readerStep_of_eq_some hstep with
      | ended hreader hevents => exact ⟨rfl, rfl⟩
      | read hreader hevents =>
          obtain ⟨ready, reader, hread⟩ := read_eq { s with events := _ } _
          rw [hread]
          exact ⟨rfl, rfl⟩
      | handed hreader hroom => exact ⟨rfl, rfl⟩
      | described hreader hreport => exact ⟨rfl, rfl⟩
      | failed hreader =>
          obtain ⟨ready, fault, hfail⟩ := s.fail_eq _
          rw [hfail]
          exact ⟨rfl, rfl⟩
      | concluded hreader =>
          obtain ⟨ready, fault, hconclude⟩ := s.conclude_eq
          rw [hconclude]
          exact ⟨rfl, rfl⟩
      | left hreader => exact ⟨rfl, rfl⟩
  | receiver hstep =>
      obtain ⟨channel, fault, receiver, received, rfl⟩ :=
        receiverStep_eq (receiverStep_of_eq_some hstep)
      exact ⟨rfl, rfl⟩

/-! ## What comes of the stream -/

/-- What comes of a stream that ends with an error. -/
def ending : Option (StreamMetadata × List Row) → Error → Outcome
  | none, told => .error told
  | some (m, rows), told => .ok (m, rows, some told)

/-- The receiver knows the error, and has got all that comes before it. -/
def Knows (s : HandOff) : Option (StreamMetadata × List Row) → Error → Prop
  | none, told => s.receiver = .refused told
  | some (m, rows), told => s.receiver = .finished m (some told) ∧ s.received = rows

variable {before : Option (StreamMetadata × List Row)}

theorem Phase.outcome_of_describing (hs : s.Phase) (hreader : s.reader = .describing e) :
    s.outcome = ending s.content? (History.report s.lookup s.token e s.conversation).1 := by
  cases hs with
  | early h =>
      have houtcome : s.outcome =
          .error (History.report s.lookup s.token e s.conversation).1 := by
        rw [h.outcome, toOpen, hreader]
      unfold content?
      rw [houtcome]
      rfl
  | refused h =>
      have hdone := h.reader
      exact (hreader ▸ hdone).elim
  | @running m h =>
      have houtcome : s.outcome = .ok (m, s.received ++ s.channel ++ [],
          some (History.report s.lookup s.token e s.conversation).1) := by
        rw [h.outcome, toCome, hreader]
      unfold content?
      rw [houtcome]
      rfl
  | finished h => cases h.reader.symm.trans hreader

theorem Phase.knows {told : Error} (hs : s.Phase) (houtcome : s.outcome = ending before told)
    (hdone : s.receiver.IsDone) : s.Knows before told := by
  cases before with
  | none =>
      obtain ⟨-, -, hopening | hrefused⟩ := hs.refuses houtcome
      · rw [hopening] at hdone
        exact hdone.elim
      · exact hrefused
  | some content =>
      obtain ⟨m, rows⟩ := content
      have hdelivers := hs.delivers houtcome
      cases hreceiver : s.receiver with
      | opening =>
          rw [hreceiver] at hdone
          exact hdone.elim
      | receiving m' =>
          rw [hreceiver] at hdone
          exact hdone.elim
      | refused fault => exact absurd hreceiver (hdelivers.opened fault)
      | finished m' fault =>
          obtain ⟨rfl, hreceived, rfl⟩ := hdelivers.finished m' fault hreceiver
          exact ⟨hreceiver, hreceived⟩

/-! ## Runs -/

/-- How far a stream is that comes to an error: it has not looked it up and the conversation is
still left alone, or it has done so in a conversation that settles what comes of the stream. -/
inductive Stage (e : StreamError) (before : Option (StreamMetadata × List Row))
    (trace : List (Conversation × Conversation)) (s : HandOff) : Prop where
  | ahead (quiet : IsQuiet trace) (awaits : s.Awaits e) (content : s.content? = before)
  | past {c : Conversation} (once : ChangesOnce trace c (History.report s.lookup s.token e c).2)
    (reader : s.reader.IsPast)
    (outcome : s.outcome = ending before (History.report s.lookup s.token e c).1)

theorem Stage.step (hs : s.Phase) (h : s.Stage e before trace) (hstep : Step capacity s s') :
    s'.Stage e before (trace ++ [(s.conversation, s'.conversation)]) := by
  obtain ⟨hphase, houtcome⟩ := settles_of_step hs hstep
  obtain ⟨hlookup, htoken⟩ := lookup_of_step hstep
  cases h with
  | ahead quiet awaits content =>
      rcases awaits.step hstep with ⟨awaits', hsame⟩ | ⟨hreader, hpast, hchange⟩
      · refine .ahead ?_ awaits' ?_
        · rw [hsame]
          exact quiet.concat s.conversation
        · unfold content? at content ⊢
          rw [houtcome]
          exact content
      · refine .past (c := s.conversation) ?_ hpast ?_
        · rw [hlookup, htoken, hchange]
          exact quiet.changesOnce _ _
        · rw [houtcome, hs.outcome_of_describing hreader, content, hlookup, htoken]
  | @past c once reader outcome =>
      obtain ⟨hpast, hsame⟩ := past_of_step reader hstep
      refine .past (c := c) ?_ hpast ?_
      · rw [hlookup, htoken, hsame]
        exact once.concat s.conversation
      · rw [houtcome, outcome, hlookup, htoken]

theorem Stage.others (h : s.Stage e before trace) (c : Conversation) :
    { s with conversation := c }.Stage e before trace := by
  cases h with
  | ahead quiet awaits content =>
      exact .ahead quiet awaits ((s.content?_withConversation c).trans content)
  | past once reader outcome =>
      exact .past once reader ((outcome_withConversation reader c).trans outcome)

variable {lookup : Option (String × Runner)} {token : CancelId} {events : List SocketEvent}

theorem stage_start (hcomes : Signal.ComesTo e before (Signal.all events)) (c : Conversation) :
    (start lookup token events c).Stage e before [] := by
  have hawaits (hrows : (Signal.rows (Signal.all events)).2 = .reported e)
      (hfirst : ∀ row, (Signal.all events).head? ≠ some (.data row)) :
      (start lookup token events c).Awaits e := ⟨hrows, fun _ => hfirst⟩
  generalize hall : Signal.all events = signals at hcomes hawaits
  cases hcomes with
  | first later =>
      refine .ahead (List.forall_mem_nil _) (hawaits rfl nofun) ?_
      have hhead (m : StreamMetadata) : (Signal.all events).head? ≠ some (.metadata m) := by
        rw [hall]
        exact nofun
      unfold content?
      rw [outcome_start_of_refusal hhead]
      rfl
  | @later m rows signals h =>
      refine .ahead (List.forall_mem_nil _) (hawaits ?_ nofun) ?_
      · show (Signal.rows signals).2 = _
        rw [h]
      · unfold content?
        rw [outcome_start_of_metadata hall, h]
        rfl

theorem Runs.stage {c₀ : Conversation} (hcomes : Signal.ComesTo e before (Signal.all events))
    (h : Runs capacity (start lookup token events c₀) trace s) :
    s.Phase ∧ (s.lookup = lookup ∧ s.token = token) ∧ s.Stage e before trace := by
  induction h with
  | refl => exact ⟨phase_start lookup token events c₀, ⟨rfl, rfl⟩, stage_start hcomes c₀⟩
  | step _ hstep ih =>
      obtain ⟨hphase, ⟨hlookup, htoken⟩, hstage⟩ := ih
      obtain ⟨hlookup', htoken'⟩ := lookup_of_step hstep
      exact ⟨(settles_of_step hphase hstep).phase, ⟨hlookup'.trans hlookup, htoken'.trans htoken⟩,
        hstage.step hphase hstep⟩
  | others _ c ih =>
      obtain ⟨hphase, hlookup, hstage⟩ := ih
      exact ⟨hphase.withConversation c, hlookup, hstage.others c⟩

/-- Whatever happens meanwhile, a stream that comes to an error touches the conversation in one
step alone, and the error that is known in the end is the one that this step reports. -/
theorem Runs.describes_once {c₀ : Conversation}
    (hcomes : Signal.ComesTo e before (Signal.all events))
    (h : Runs capacity (start lookup token events c₀) trace s) :
    (IsQuiet trace ∧ ¬ s.receiver.IsDone) ∨
      ∃ c, ChangesOnce trace c (History.report lookup token e c).2 ∧
        (s.receiver.IsDone → s.Knows before (History.report lookup token e c).1) := by
  obtain ⟨hphase, ⟨rfl, rfl⟩, hstage⟩ := h.stage hcomes
  cases hstage with
  | ahead quiet awaits content => exact .inl ⟨quiet, awaits.not_done hphase⟩
  | @past c once reader outcome => exact .inr ⟨c, once, hphase.knows outcome⟩

theorem Runs.done_of_stuck {c₀ : Conversation} (hcapacity : 0 < capacity)
    (hcomes : Signal.ComesTo e before (Signal.all events))
    (h : Runs capacity (start lookup token events c₀) trace s)
    (hstuck : ∀ s', ¬ Step capacity s s') : s.receiver.IsDone :=
  (HandOff.done_of_stuck hcapacity (h.stage hcomes).1 hstuck).2

end HandOff

end Tributary
