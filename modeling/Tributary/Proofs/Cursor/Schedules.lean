import Mathlib.Logic.Relation
import Tributary.Cursor.HandOff
import Tributary.Proofs.Cursor.Frames

/-!
# Schedules of a stream

A reader and a receiver take steps in any order. What the receiver is told in the end is settled
before the first step: the rows received so far, those in the channel and those that the reader is
still going to hand over are always the rows of the stream, and the fault that is on its way is
always the one that ends it. So no schedule loses or repeats a row, and none lets the fault overtake
one.
-/

namespace Tributary

/-- The fault that a stream ends with, if any. -/
def Signal.fault? (lookup : Option (String × Runner)) (token : CancelId) (c : Conversation) :
    Signal → Option Error
  | .reported e => some (History.report lookup token e c).1
  | .broken e => some e
  | _ => none

/-- The fault is what the receiver is told at the end, and without one it is told the end. -/
theorem Signal.parting_eq (lookup : Option (String × Runner)) (token : CancelId)
    (c : Conversation) (last : Signal) :
    StreamCursor.parting lookup token c last =
      (last.fault? lookup token c).elim (.ok none) .error := by
  cases last <;> rfl

namespace StreamReader

/-- It has neither handed a row over nor come to the end. -/
def IsEarly : StreamReader → Prop
  | .handing _ => False
  | .leaving => False
  | .gone => False
  | _ => True

/-- It has told all that it is going to tell. -/
def IsDone : StreamReader → Prop
  | .leaving => True
  | .gone => True
  | _ => False

/-- How many steps it can still take, apart from those for events that it has not read. -/
def work : StreamReader → Nat
  | .reading => 3
  | .handing _ => 5
  | .describing _ => 3
  | .failing _ => 2
  | .ending => 2
  | .leaving => 1
  | .gone => 0

end StreamReader

namespace StreamReceiver

/-- It knows what has come of the stream. -/
def IsDone : StreamReceiver → Prop
  | .refused _ => True
  | .finished _ _ => True
  | _ => False

/-- How many steps it can still take, apart from those for rows. -/
def work : StreamReceiver → Nat
  | .opening => 2
  | .receiving _ => 1
  | .refused _ => 0
  | .finished _ _ => 0

end StreamReceiver

namespace HandOff

/-! ## What is settled -/

/-- The rows that the reader is still going to hand over, and the fault after them. -/
def toCome (s : HandOff) : List Row × Option Error :=
  let (rows, last) := Signal.rows (Signal.all s.events)
  match s.reader with
  | .reading => (rows, last.fault? s.lookup s.token s.conversation)
  | .handing row => (row :: rows, last.fault? s.lookup s.token s.conversation)
  | .describing e => ([], some (History.report s.lookup s.token e s.conversation).1)
  | .failing e => ([], some e)
  | .ending => ([], none)
  | .leaving => ([], s.fault)
  | .gone => ([], s.fault)

/-- What comes of a stream: it cannot be opened, or it has columns, rows and perhaps a fault. -/
abbrev Outcome := Except Error (StreamMetadata × List Row × Option Error)

/-- What comes of a stream whose beginning has not been told yet. -/
def toOpen (s : HandOff) : Outcome :=
  match s.reader with
  | .reading =>
    match Signal.all s.events with
    | .metadata m :: signals =>
      let (rows, last) := Signal.rows signals
      .ok (m, rows, last.fault? s.lookup s.token s.conversation)
    | signals => .error (StreamCursor.refusal s.lookup s.token s.conversation signals.head?)
  | .describing e => .error (History.report s.lookup s.token e s.conversation).1
  | .failing e => .error e
  | _ => .error (StreamCursor.unready .ended)

/-- What comes of a stream in the end. -/
def outcome (s : HandOff) : Outcome :=
  match s.receiver, s.ready with
  | .refused e, _ => .error e
  | .finished m fault, _ => .ok (m, s.received, fault)
  | _, none => s.toOpen
  | _, some (.error e) => .error e
  | _, some (.ok m) => .ok (m, s.received ++ s.channel ++ s.toCome.1, s.toCome.2)

/-! ## Phases -/

/-- The beginning of the stream has not been told. -/
structure Early (s : HandOff) : Prop where
  ready : s.ready = none
  receiver : s.receiver = .opening
  reader : s.reader.IsEarly
  channel : s.channel = []
  received : s.received = []
  fault : s.fault = none

/-- The stream cannot be opened. -/
structure Refused (s : HandOff) (e : Error) : Prop where
  ready : s.ready = some (.error e)
  receiver : s.receiver = .opening ∨ s.receiver = .refused e
  reader : s.reader.IsDone
  channel : s.channel = []
  received : s.received = []

/-- The rows of the stream are on their way. -/
structure Running (s : HandOff) (m : StreamMetadata) : Prop where
  ready : s.ready = some (.ok m)
  receiver : s.receiver = .opening ∧ s.received = [] ∨ s.receiver = .receiving m
  fault : s.reader.IsDone ∨ s.fault = none

/-- The receiver has come to the end. -/
structure Finished (s : HandOff) (m : StreamMetadata) : Prop where
  ready : s.ready = some (.ok m)
  receiver : ∃ fault, s.receiver = .finished m fault
  reader : s.reader = .gone
  channel : s.channel = []

/-- A stream in one of its phases. -/
inductive Phase (s : HandOff) : Prop where
  | early (h : s.Early)
  | refused {e : Error} (h : s.Refused e)
  | running {m : StreamMetadata} (h : s.Running m)
  | finished {m : StreamMetadata} (h : s.Finished m)

theorem phase_start (lookup : Option (String × Runner)) (token : CancelId)
    (events : List SocketEvent) (c : Conversation) : (start lookup token events c).Phase :=
  .early ⟨rfl, rfl, trivial, rfl, rfl, rfl⟩

variable {s s' : HandOff} {m : StreamMetadata} {e : Error}

theorem Early.outcome (h : s.Early) : s.outcome = s.toOpen := by
  unfold HandOff.outcome
  rw [h.receiver, h.ready]

theorem Refused.outcome (h : s.Refused e) : s.outcome = .error e := by
  unfold HandOff.outcome
  rcases h.receiver with hreceiver | hreceiver
  · rw [hreceiver, h.ready]
  · rw [hreceiver]

theorem Running.outcome (h : s.Running m) :
    s.outcome = .ok (m, s.received ++ s.channel ++ s.toCome.1, s.toCome.2) := by
  unfold HandOff.outcome
  rcases h.receiver with ⟨hreceiver, -⟩ | hreceiver
  · rw [hreceiver, h.ready]
  · rw [hreceiver, h.ready]

/-! ## What a step can do -/

/-- A step of the reader: it finds the end of the events or reads one, hands a row over, looks up
the query of an error, tells a fault or the end, or closes the channel. -/
inductive ReaderStep (capacity : Nat) (s : HandOff) : HandOff → Prop where
  | ended (hreader : s.reader = .reading) (hevents : s.events = []) :
    ReaderStep capacity s { s with reader := .ending }
  | read {event : SocketEvent} {events : List SocketEvent} (hreader : s.reader = .reading)
    (hevents : s.events = event :: events) :
    ReaderStep capacity s ({ s with events }.read (Signal.ofEvent? event))
  | handed {row : Row} (hreader : s.reader = .handing row)
    (hroom : s.channel.length < capacity) :
    ReaderStep capacity s { s with channel := s.channel ++ [row], reader := .reading }
  | described {reported : StreamError} {e : Error} {conversation : Conversation}
    (hreader : s.reader = .describing reported)
    (hreport : History.report s.lookup s.token reported s.conversation = (e, conversation)) :
    ReaderStep capacity s { s with conversation, reader := .failing e }
  | failed {e : Error} (hreader : s.reader = .failing e) :
    ReaderStep capacity s { s.fail e with reader := .leaving }
  | concluded (hreader : s.reader = .ending) :
    ReaderStep capacity s { s.conclude with reader := .leaving }
  | left (hreader : s.reader = .leaving) : ReaderStep capacity s { s with reader := .gone }

variable {capacity : Nat}

theorem readerStep_of_eq_some (h : s.readerStep? capacity = some s') :
    ReaderStep capacity s s' := by
  unfold readerStep? at h
  split at h
  next hreader =>
    split at h
    next hevents =>
      cases h
      exact .ended hreader hevents
    next event events hevents =>
      cases h
      exact .read hreader hevents
  next row hreader =>
    split at h
    next hroom =>
      cases h
      exact .handed hreader hroom
    next => cases h
  next reported hreader =>
    cases h
    exact .described hreader rfl
  next e hreader =>
    cases h
    exact .failed hreader
  next hreader =>
    cases h
    exact .concluded hreader
  next hreader =>
    cases h
    exact .left hreader
  next => cases h

/-- A step of the receiver: it learns of the beginning of the stream, takes a row, or finds the
channel closed and empty. -/
inductive ReceiverStep (s : HandOff) : HandOff → Prop where
  | opened {m : StreamMetadata} (hreceiver : s.receiver = .opening)
    (hready : s.ready = some (.ok m)) : ReceiverStep s { s with receiver := .receiving m }
  | refused {e : Error} (hreceiver : s.receiver = .opening)
    (hready : s.ready = some (.error e)) : ReceiverStep s { s with receiver := .refused e }
  | deserted (hreceiver : s.receiver = .opening) (hready : s.ready = none)
    (hreader : s.reader = .gone) :
    ReceiverStep s { s with receiver := .refused (StreamCursor.unready .ended) }
  | took {m : StreamMetadata} {row : Row} {channel : List Row}
    (hreceiver : s.receiver = .receiving m) (hchannel : s.channel = row :: channel) :
    ReceiverStep s { s with channel, received := s.received ++ [row] }
  | finished {m : StreamMetadata} (hreceiver : s.receiver = .receiving m)
    (hchannel : s.channel = []) (hreader : s.reader = .gone) :
    ReceiverStep s { s with receiver := .finished m s.fault, fault := none }

theorem receiverStep_of_eq_some (h : s.receiverStep? = some s') : ReceiverStep s s' := by
  unfold receiverStep? at h
  split at h
  next hreceiver =>
    split at h
    next hready =>
      cases h
      exact .opened hreceiver hready
    next hready =>
      cases h
      exact .refused hreceiver hready
    next hready hreader =>
      cases h
      exact .deserted hreceiver hready hreader
    next => cases h
  next hreceiver =>
    split at h
    next hchannel =>
      cases h
      exact .took hreceiver hchannel
    next hchannel hreader =>
      cases h
      exact .finished hreceiver hchannel hreader
    next => cases h
  next => cases h
  next => cases h

/-! ## Steps of the reader -/

/-- A step leads to a phase again, and settles nothing new. -/
structure Settles (s s' : HandOff) : Prop where
  phase : s'.Phase
  outcome : s'.outcome = s.outcome

variable {event : SocketEvent} {events : List SocketEvent}

/-- What an event says comes first of what the events say. -/
theorem all_cons_cases (event : SocketEvent) (events : List SocketEvent) :
    (Signal.ofEvent? event = none ∧ Signal.all (event :: events) = Signal.all events) ∨
      ∃ signal, Signal.ofEvent? event = some signal ∧
        Signal.all (event :: events) = signal :: Signal.all events := by
  cases hsignal : Signal.ofEvent? event with
  | none => exact .inl ⟨rfl, List.filterMap_cons_none hsignal⟩
  | some signal => exact .inr ⟨signal, rfl, List.filterMap_cons_some hsignal⟩

theorem Early.read (h : s.Early) (hreader : s.reader = .reading)
    (hevents : s.events = event :: events) :
    s.Settles ({ s with events }.read (Signal.ofEvent? event)) := by
  obtain ⟨_, lookup, token, c, _, _, _, _, _, _⟩ := s
  obtain ⟨rfl, rfl, -, rfl, rfl, rfl⟩ := h
  subst hreader hevents
  have hstill (reader : StreamReader) (hearly : reader.IsEarly) :
      Early { events, lookup, token, conversation := c, reader } :=
    ⟨rfl, rfl, hearly, rfl, rfl, rfl⟩
  rcases all_cons_cases event events with ⟨hsignal, hall⟩ | ⟨signal, hsignal, hall⟩
  · rw [hsignal]
    refine ⟨.early (hstill _ trivial), ?_⟩
    simp only [HandOff.outcome, toOpen, HandOff.read, hall]
  · rw [hsignal]
    cases signal with
    | metadata m =>
        refine ⟨.running ⟨rfl, .inl ⟨rfl, rfl⟩, .inr rfl⟩, ?_⟩
        simp only [HandOff.outcome, toOpen, hall]
        rfl
    | data row =>
        refine ⟨.early (hstill _ trivial), ?_⟩
        simp only [HandOff.outcome, toOpen, hall]
        rfl
    | reported e =>
        refine ⟨.early (hstill _ trivial), ?_⟩
        simp only [HandOff.outcome, toOpen, hall]
        rfl
    | broken e =>
        refine ⟨.early (hstill _ trivial), ?_⟩
        simp only [HandOff.outcome, toOpen, hall]
        rfl
    | ended =>
        refine ⟨.early (hstill _ trivial), ?_⟩
        simp only [HandOff.outcome, toOpen, hall]
        rfl

/-- A step on the way keeps the rows of the stream, and the fault after them. -/
theorem Running.settles (h : s.Running m) (h' : s'.Running m)
    (hrows : s'.received ++ s'.channel ++ s'.toCome.1 = s.received ++ s.channel ++ s.toCome.1)
    (hfault : s'.toCome.2 = s.toCome.2) : s.Settles s' := by
  refine ⟨.running h', ?_⟩
  rw [h'.outcome, h.outcome, hrows, hfault]

/-- Once the beginning has been told, an event moves nothing but the reader, and that as the stream
goes on. -/
theorem read_of_ready {r : Except Error StreamMetadata} (hready : s.ready = some r)
    (hreader : s.reader = .reading) (hevents : s.events = event :: events) :
    ∃ reader, { s with events }.read (Signal.ofEvent? event) = { s with events, reader } ∧
      { s with events, reader }.toCome = s.toCome := by
  obtain ⟨_, lookup, token, c, _, _, channel, fault, receiver, received⟩ := s
  subst hreader hevents hready
  rcases all_cons_cases event events with ⟨hsignal, hall⟩ | ⟨signal, hsignal, hall⟩
  · rw [hsignal]
    exact ⟨.reading, rfl, by simp only [toCome, hall]⟩
  · rw [hsignal]
    cases signal with
    | metadata m =>
        -- The columns are known already; a repetition is passed over.
        refine ⟨.reading, rfl, ?_⟩
        simp only [toCome, hall]
        rfl
    | data row =>
        refine ⟨.handing row, rfl, ?_⟩
        simp only [toCome, hall]
        rfl
    | reported e =>
        refine ⟨.describing e, rfl, ?_⟩
        simp only [toCome, hall]
        rfl
    | broken e =>
        refine ⟨.failing e, rfl, ?_⟩
        simp only [toCome, hall]
        rfl
    | ended =>
        refine ⟨.ending, rfl, ?_⟩
        simp only [toCome, hall]
        rfl

theorem Early.readerStep (h : s.Early) (hstep : ReaderStep capacity s s') : s.Settles s' := by
  have hearly := h.reader
  cases hstep with
  | ended hreader hevents =>
      have h' : Early { s with reader := .ending } :=
        ⟨h.ready, h.receiver, trivial, h.channel, h.received, h.fault⟩
      refine ⟨.early h', ?_⟩
      rw [h'.outcome, h.outcome]
      simp only [toOpen, hreader, hevents]
      rfl
  | read hreader hevents => exact h.read hreader hevents
  | handed hreader hroom => exact (hreader ▸ hearly).elim
  | @described reported e conversation hreader hreport =>
      have h' : Early { s with conversation, reader := .failing e } :=
        ⟨h.ready, h.receiver, trivial, h.channel, h.received, h.fault⟩
      refine ⟨.early h', ?_⟩
      rw [h'.outcome, h.outcome]
      simp only [toOpen, hreader, hreport]
  | @failed e hreader =>
      have hfail : s.fail e = { s with ready := some (.error e) } := by
        unfold fail
        rw [h.ready]
        rfl
      rw [hfail]
      have h' : Refused { s with ready := some (.error e), reader := .leaving } e :=
        ⟨rfl, .inl h.receiver, trivial, h.channel, h.received⟩
      refine ⟨.refused h', ?_⟩
      rw [h'.outcome, h.outcome]
      simp only [toOpen, hreader]
  | concluded hreader =>
      have hconclude :
          s.conclude = { s with ready := some (.error (StreamCursor.unready .ended)) } := by
        unfold conclude fail
        rw [h.ready]
        rfl
      rw [hconclude]
      have h' : Refused
          { s with ready := some (.error (StreamCursor.unready .ended)), reader := .leaving }
          (StreamCursor.unready .ended) :=
        ⟨rfl, .inl h.receiver, trivial, h.channel, h.received⟩
      refine ⟨.refused h', ?_⟩
      rw [h'.outcome, h.outcome]
      simp only [toOpen, hreader]
  | left hreader => exact (hreader ▸ hearly).elim

theorem Refused.readerStep (h : s.Refused e) (hstep : ReaderStep capacity s s') :
    s.Settles s' := by
  have hdone := h.reader
  cases hstep with
  | left hreader =>
      have h' : Refused { s with reader := .gone } e :=
        ⟨h.ready, h.receiver, trivial, h.channel, h.received⟩
      refine ⟨.refused h', ?_⟩
      rw [h'.outcome, h.outcome]
  | ended hreader hevents => exact (hreader ▸ hdone).elim
  | read hreader hevents => exact (hreader ▸ hdone).elim
  | handed hreader hroom => exact (hreader ▸ hdone).elim
  | described hreader hreport => exact (hreader ▸ hdone).elim
  | failed hreader => exact (hreader ▸ hdone).elim
  | concluded hreader => exact (hreader ▸ hdone).elim

theorem Running.readerStep (h : s.Running m) (hstep : ReaderStep capacity s s') :
    s.Settles s' := by
  have hnone (hreader : ¬ s.reader.IsDone) : s.fault = none := h.fault.resolve_left hreader
  cases hstep with
  | ended hreader hevents =>
      have hfault := hnone (hreader ▸ id)
      refine h.settles ⟨h.ready, h.receiver, .inr hfault⟩ ?_ ?_
      · simp only [toCome, hreader, hevents]
        rfl
      · simp only [toCome, hreader, hevents]
        rfl
  | read hreader hevents =>
      have hfault := hnone (hreader ▸ id)
      obtain ⟨reader, hread, htoCome⟩ := read_of_ready h.ready hreader hevents
      rw [hread]
      exact h.settles ⟨h.ready, h.receiver, .inr hfault⟩ (by rw [htoCome]) (by rw [htoCome])
  | handed hreader hroom =>
      have hfault := hnone (hreader ▸ id)
      refine h.settles ⟨h.ready, h.receiver, .inr hfault⟩ ?_ ?_
      · simp only [toCome, hreader]
        simp only [List.append_assoc, List.singleton_append]
      · simp only [toCome, hreader]
  | described hreader hreport =>
      have hfault := hnone (hreader ▸ id)
      refine h.settles ⟨h.ready, h.receiver, .inr hfault⟩ ?_ ?_
      · simp only [toCome, hreader]
      · simp only [toCome, hreader, hreport]
  | @failed e hreader =>
      have hfail : s.fail e = { s with fault := some e } := by
        unfold fail
        rw [h.ready]
        rfl
      rw [hfail]
      refine h.settles ⟨h.ready, h.receiver, .inl trivial⟩ ?_ ?_
      · simp only [toCome, hreader]
      · simp only [toCome, hreader]
  | concluded hreader =>
      have hfault := hnone (hreader ▸ id)
      have hconclude : s.conclude = s := by
        unfold conclude
        rw [h.ready]
        rfl
      rw [hconclude]
      refine h.settles ⟨h.ready, h.receiver, .inl trivial⟩ ?_ ?_
      · simp only [toCome, hreader]
      · simp only [toCome, hreader, hfault]
  | left hreader =>
      refine h.settles ⟨h.ready, h.receiver, .inl trivial⟩ ?_ ?_
      · simp only [toCome, hreader]
      · simp only [toCome, hreader]

/-- The reader is gone already. -/
theorem Finished.not_readerStep (h : s.Finished m) : ¬ ReaderStep capacity s s' := by
  intro hstep
  have hgone := h.reader
  cases hstep with
  | ended hreader hevents => cases hgone.symm.trans hreader
  | read hreader hevents => cases hgone.symm.trans hreader
  | handed hreader hroom => cases hgone.symm.trans hreader
  | described hreader hreport => cases hgone.symm.trans hreader
  | failed hreader => cases hgone.symm.trans hreader
  | concluded hreader => cases hgone.symm.trans hreader
  | left hreader => cases hgone.symm.trans hreader

/-- A step of the reader settles nothing new. -/
theorem settles_of_readerStep (hs : s.Phase) (hstep : ReaderStep capacity s s') :
    s.Settles s' := by
  cases hs with
  | early h => exact h.readerStep hstep
  | refused h => exact h.readerStep hstep
  | running h => exact h.readerStep hstep
  | finished h => exact absurd hstep h.not_readerStep

/-! ## Steps of the receiver -/

/-- A step of the receiver settles nothing new. -/
theorem settles_of_receiverStep (hs : s.Phase) (hstep : ReceiverStep s s') : s.Settles s' := by
  cases hs with
  | early h =>
      have hearly := h.reader
      cases hstep with
      | deserted hreceiver hready hreader => exact (hreader ▸ hearly).elim
      | opened hreceiver hready => cases h.ready.symm.trans hready
      | refused hreceiver hready => cases h.ready.symm.trans hready
      | took hreceiver hchannel => cases h.receiver.symm.trans hreceiver
      | finished hreceiver hchannel hreader => cases h.receiver.symm.trans hreceiver
  | @refused e h =>
      have hready' := h.ready
      cases hstep with
      | refused hreceiver hready =>
          rw [h.ready] at hready
          cases hready
          have h' : Refused { s with receiver := .refused e } e :=
            ⟨h.ready, .inr rfl, h.reader, h.channel, h.received⟩
          refine ⟨.refused h', ?_⟩
          rw [h'.outcome, h.outcome]
      | opened hreceiver hready => cases h.ready.symm.trans hready
      | deserted hreceiver hready hreader => cases h.ready.symm.trans hready
      | took hreceiver hchannel => cases h.channel.symm.trans hchannel
      | finished hreceiver hchannel hreader =>
          rcases h.receiver with hopening | hrefused
          · cases hopening.symm.trans hreceiver
          · cases hrefused.symm.trans hreceiver
  | @running m h =>
      cases hstep with
      | opened hreceiver hready =>
          rw [h.ready] at hready
          cases hready
          exact h.settles ⟨h.ready, .inr rfl, h.fault⟩ rfl rfl
      | @took _ row channel hreceiver hchannel =>
          have hreceiving : s.receiver = .receiving m := by
            rcases h.receiver with ⟨hopening, -⟩ | hreceiving
            · cases hopening.symm.trans hreceiver
            · exact hreceiving
          refine h.settles ⟨h.ready, .inr hreceiving, h.fault⟩ ?_ rfl
          rw [hchannel, List.append_assoc s.received]
          rfl
      | @finished m' hreceiver hchannel hreader =>
          have hreceiving : s.receiver = .receiving m := by
            rcases h.receiver with ⟨hopening, -⟩ | hreceiving
            · cases hopening.symm.trans hreceiver
            · exact hreceiving
          rw [hreceiver] at hreceiving
          cases hreceiving
          refine ⟨.finished ⟨h.ready, ⟨_, rfl⟩, hreader, hchannel⟩, ?_⟩
          rw [h.outcome]
          simp only [HandOff.outcome, toCome, hreader, hchannel, List.append_nil]
      | refused hreceiver hready => cases h.ready.symm.trans hready
      | deserted hreceiver hready hreader => cases h.ready.symm.trans hready
  | finished h =>
      obtain ⟨fault, hfinished⟩ := h.receiver
      cases hstep with
      | opened hreceiver hready => cases hfinished.symm.trans hreceiver
      | refused hreceiver hready => cases hfinished.symm.trans hreceiver
      | deserted hreceiver hready hreader => cases hfinished.symm.trans hreceiver
      | took hreceiver hchannel => cases hfinished.symm.trans hreceiver
      | finished hreceiver hchannel hreader => cases hfinished.symm.trans hreceiver

/-! ## Schedules -/

theorem settles_of_step (hs : s.Phase) (hstep : Step capacity s s') : s.Settles s' := by
  cases hstep with
  | reader h => exact settles_of_readerStep hs (readerStep_of_eq_some h)
  | receiver h => exact settles_of_receiverStep hs (receiverStep_of_eq_some h)

theorem read_eq (s : HandOff) (signal? : Option Signal) :
    ∃ ready reader, s.read signal? = { s with ready, reader } := by
  unfold read
  split
  · exact ⟨_, _, rfl⟩
  · split <;> exact ⟨_, _, rfl⟩
  · split <;> exact ⟨_, _, rfl⟩
  · exact ⟨_, _, rfl⟩
  · exact ⟨_, _, rfl⟩
  · exact ⟨_, _, rfl⟩

theorem fail_eq (s : HandOff) (e : Error) :
    ∃ ready fault, s.fail e = { s with ready, fault } := by
  unfold fail
  split <;> exact ⟨_, _, rfl⟩

theorem conclude_eq (s : HandOff) : ∃ ready fault, s.conclude = { s with ready, fault } := by
  unfold conclude
  split
  · exact s.fail_eq _
  · exact ⟨_, _, rfl⟩

/-- The channel never holds more rows than it has room for. -/
theorem length_channel_step (hstep : Step capacity s s') (h : s.channel.length ≤ capacity) :
    s'.channel.length ≤ capacity := by
  cases hstep with
  | reader hstep =>
      cases readerStep_of_eq_some hstep with
      | ended hreader hevents => exact h
      | read hreader hevents =>
          obtain ⟨ready, reader, hread⟩ := read_eq { s with events := _ } _
          rw [hread]
          exact h
      | handed hreader hroom =>
          rw [List.length_append]
          exact hroom
      | described hreader hreport => exact h
      | failed hreader =>
          obtain ⟨ready, fault, hfail⟩ := s.fail_eq _
          rw [hfail]
          exact h
      | concluded hreader =>
          obtain ⟨ready, fault, hconclude⟩ := s.conclude_eq
          rw [hconclude]
          exact h
      | left hreader => exact h
  | receiver hstep =>
      cases receiverStep_of_eq_some hstep with
      | opened hreceiver hready => exact h
      | refused hreceiver hready => exact h
      | deserted hreceiver hready hreader => exact h
      | took hreceiver hchannel =>
          rw [hchannel] at h
          exact Nat.le_of_succ_le h
      | finished hreceiver hchannel hreader => exact h

/-! ## Getting ahead -/

/-- A reader that is not gone takes a step, unless it waits for room in the channel. -/
theorem exists_readerStep (hreader : s.reader ≠ .gone)
    (hroom : ∀ row, s.reader = .handing row → s.channel.length < capacity) :
    ∃ s', s.readerStep? capacity = some s' := by
  unfold readerStep?
  cases h : s.reader with
  | reading => cases s.events <;> exact ⟨_, rfl⟩
  | handing row => exact ⟨_, if_pos (hroom row h)⟩
  | describing e => exact ⟨_, rfl⟩
  | failing e => exact ⟨_, rfl⟩
  | ending => exact ⟨_, rfl⟩
  | leaving => exact ⟨_, rfl⟩
  | gone => exact absurd h hreader

/-- As long as the receiver does not know what has come of the stream, one of the two takes a
step. -/
theorem done_of_stuck (hcapacity : 0 < capacity) (hs : s.Phase)
    (hstuck : ∀ s', ¬ Step capacity s s') : s.reader = .gone ∧ s.receiver.IsDone := by
  have hgone (hroom : ∀ row, s.reader = .handing row → s.channel.length < capacity) :
      s.reader = .gone := by
    refine Classical.byContradiction fun hreader => ?_
    obtain ⟨s', hs'⟩ := exists_readerStep hreader hroom
    exact hstuck s' (.reader hs')
  have hstays {s' : HandOff} : s.receiverStep? ≠ some s' := fun h => hstuck s' (.receiver h)
  unfold receiverStep? at hstays
  cases hs with
  | early h =>
      have hearly := h.reader
      have hreader := hgone fun row hrow => (hrow ▸ hearly).elim
      exact (hreader ▸ hearly).elim
  | refused h =>
      have hdone := h.reader
      refine ⟨hgone fun row hrow => (hrow ▸ hdone).elim, ?_⟩
      rcases h.receiver with hreceiver | hreceiver
      · rw [hreceiver, h.ready] at hstays
        exact absurd rfl hstays
      · rw [hreceiver]
        trivial
  | running h =>
      rcases h.receiver with ⟨hreceiver, -⟩ | hreceiver
      · rw [hreceiver, h.ready] at hstays
        exact absurd rfl hstays
      · rw [hreceiver] at hstays
        cases hchannel : s.channel with
        | nil =>
            -- There is room in the channel, so nothing has kept the reader from leaving.
            have hreader := hgone fun row _ => by
              rw [hchannel]
              exact hcapacity
            rw [hchannel, hreader] at hstays
            exact absurd rfl hstays
        | cons row channel =>
            rw [hchannel] at hstays
            exact absurd rfl hstays
  | finished h =>
      obtain ⟨fault, hreceiver⟩ := h.receiver
      refine ⟨h.reader, ?_⟩
      rw [hreceiver]
      trivial

/-- How much is left to do. -/
def work (s : HandOff) : Nat :=
  3 * s.events.length + s.reader.work + s.channel.length + s.receiver.work

theorem work_read (hreader : s.reader = .reading) (signal? : Option Signal) :
    (s.read signal?).work ≤ s.work + 2 := by
  unfold read work
  rw [hreader]
  split
  · rw [hreader]
    omega
  · split
    · dsimp only
      omega
    · rw [hreader]
      omega
  · split
    · simp only [StreamReader.work]
      omega
    · simp only [StreamReader.work]
      omega
  · simp only [StreamReader.work]
    omega
  · simp only [StreamReader.work]
    omega
  · simp only [StreamReader.work]
    omega

theorem work_fail (s : HandOff) (e : Error) :
    { s.fail e with reader := .leaving }.work = { s with reader := .leaving }.work := by
  unfold fail
  split <;> rfl

/-- No schedule goes on for ever. -/
theorem work_lt_of_step (hstep : Step capacity s s') : s'.work < s.work := by
  cases hstep with
  | reader hstep =>
      cases readerStep_of_eq_some hstep with
      | ended hreader hevents =>
          simp only [work, hreader, StreamReader.work]
          omega
      | @read event events hreader hevents =>
          refine Nat.lt_of_le_of_lt (work_read (s := { s with events }) hreader _) ?_
          simp only [work, hevents, List.length_cons]
          omega
      | handed hreader hroom =>
          simp only [work, hreader, StreamReader.work, List.length_append, List.length_singleton]
          omega
      | described hreader hreport =>
          simp only [work, hreader, StreamReader.work]
          omega
      | failed hreader =>
          rw [work_fail]
          simp only [work, hreader, StreamReader.work]
          omega
      | concluded hreader =>
          have hleft : { s with reader := .leaving }.work < s.work := by
            simp only [work, hreader, StreamReader.work]
            omega
          unfold conclude
          split
          · rw [work_fail]
            exact hleft
          · exact hleft
      | left hreader =>
          simp only [work, hreader, StreamReader.work]
          omega
  | receiver hstep =>
      cases receiverStep_of_eq_some hstep with
      | opened hreceiver hready =>
          simp only [work, hreceiver, StreamReceiver.work]
          omega
      | refused hreceiver hready =>
          simp only [work, hreceiver, StreamReceiver.work]
          omega
      | deserted hreceiver hready hreader =>
          simp only [work, hreceiver, StreamReceiver.work]
          omega
      | took hreceiver hchannel =>
          simp only [work, hchannel, List.length_cons]
          omega
      | finished hreceiver hchannel hreader =>
          simp only [work, hreceiver, StreamReceiver.work]
          omega

section

variable {lookup : Option (String × Runner)} {token : CancelId} {c : Conversation}

theorem reachable (h : Relation.ReflTransGen (Step capacity) (start lookup token events c) s) :
    s.Phase ∧ s.outcome = (start lookup token events c).outcome ∧
      s.channel.length ≤ capacity := by
  induction h with
  | refl => exact ⟨phase_start lookup token events c, rfl, Nat.zero_le _⟩
  | tail _ hstep ih =>
      obtain ⟨hphase, houtcome, hlength⟩ := ih
      obtain ⟨hphase', houtcome'⟩ := settles_of_step hphase hstep
      exact ⟨hphase', houtcome'.trans houtcome, length_channel_step hstep hlength⟩

theorem outcome_start_of_metadata {signals : List Signal}
    (hall : Signal.all events = .metadata m :: signals) :
    (start lookup token events c).outcome =
      .ok (m, (Signal.rows signals).1, (Signal.rows signals).2.fault? lookup token c) := by
  unfold outcome toOpen start
  dsimp only
  rw [hall]

theorem outcome_start_of_refusal
    (hall : ∀ m, (Signal.all events).head? ≠ some (.metadata m)) :
    (start lookup token events c).outcome =
      .error (StreamCursor.refusal lookup token c (Signal.all events).head?) := by
  unfold outcome toOpen start
  dsimp only
  split
  next m signals hsignals =>
    rw [hsignals] at hall
    exact absurd rfl (hall m)
  next => rfl

/-- What is true of a stream that begins with its columns, at any time. -/
structure Delivers (s : HandOff) (m : StreamMetadata) (rows : List Row) (fault : Option Error) :
    Prop where
  /-- The rows that have been handed over come first, and in order. -/
  handed : s.received ++ s.channel <+: rows
  /-- Whoever finds the channel closed and empty has received all rows, and finds the fault. -/
  drained : ∀ m', s.receiver = .receiving m' → s.channel = [] → s.reader = .gone →
    m' = m ∧ s.received = rows ∧ s.fault = fault
  finished : ∀ m' fault', s.receiver = .finished m' fault' →
    m' = m ∧ s.received = rows ∧ fault' = fault
  opened : ∀ e, s.receiver ≠ .refused e

theorem Phase.delivers {rows : List Row} {fault : Option Error} (hs : s.Phase)
    (houtcome : s.outcome = .ok (m, rows, fault)) : s.Delivers m rows fault := by
  cases hs with
  | early h =>
      have hother {receiver : StreamReceiver} (hne : receiver ≠ .opening)
          (hreceiver : s.receiver = receiver) : False :=
        hne (hreceiver.symm.trans h.receiver)
      refine ⟨?_, ?_, ?_, ?_⟩
      · rw [h.received, h.channel]
        exact List.nil_prefix
      · intro m' hreceiver
        exact (hother (by simp) hreceiver).elim
      · intro m' fault' hreceiver
        exact (hother (by simp) hreceiver).elim
      · intro e hreceiver
        exact hother (by simp) hreceiver
  | refused h =>
      rw [h.outcome] at houtcome
      cases houtcome
  | @running m' h =>
      rw [h.outcome] at houtcome
      cases houtcome
      refine ⟨List.prefix_append _ _, ?_, ?_, ?_⟩
      · intro m'' hreceiver hchannel hreader
        rcases h.receiver with ⟨hopening, -⟩ | hreceiving
        · cases hopening.symm.trans hreceiver
        · cases hreceiving.symm.trans hreceiver
          simp [toCome, hreader, hchannel]
      · intro m'' fault' hreceiver
        rcases h.receiver with ⟨hopening, -⟩ | hreceiving
        · cases hopening.symm.trans hreceiver
        · cases hreceiving.symm.trans hreceiver
      · intro e hreceiver
        rcases h.receiver with ⟨hopening, -⟩ | hreceiving
        · cases hopening.symm.trans hreceiver
        · cases hreceiving.symm.trans hreceiver
  | finished h =>
      obtain ⟨fault', hfinished⟩ := h.receiver
      unfold HandOff.outcome at houtcome
      rw [hfinished] at houtcome
      cases houtcome
      refine ⟨?_, ?_, ?_, ?_⟩
      · exact ⟨[], by rw [h.channel, List.append_nil, List.append_nil]⟩
      · intro m' hreceiver
        cases hfinished.symm.trans hreceiver
      · intro m' fault hreceiver
        cases hfinished.symm.trans hreceiver
        exact ⟨rfl, rfl, rfl⟩
      · intro e hreceiver
        cases hfinished.symm.trans hreceiver

/-- Nothing is handed over of a stream that cannot be opened. -/
theorem Phase.refuses (hs : s.Phase) (houtcome : s.outcome = .error e) :
    s.received = [] ∧ s.channel = [] ∧ (s.receiver = .opening ∨ s.receiver = .refused e) := by
  cases hs with
  | early h => exact ⟨h.received, h.channel, .inl h.receiver⟩
  | refused h =>
      rw [h.outcome] at houtcome
      cases houtcome
      exact ⟨h.received, h.channel, h.receiver⟩
  | running h =>
      rw [h.outcome] at houtcome
      cases houtcome
  | finished h =>
      obtain ⟨fault, hfinished⟩ := h.receiver
      unfold HandOff.outcome at houtcome
      rw [hfinished] at houtcome
      cases houtcome

/-- The hand-over of a stream does not depend on the schedule. The channel never holds more rows
than it has room for. The rows received and those in the channel are always the first rows of the
stream, in order. Whoever finds the channel closed and empty has received all of them, and finds
the fault that ends the stream in its slot, if there is one. Every schedule comes to an end, and
none before the receiver knows what has come of the stream, which is what a cursor over the
stream tells. -/
theorem delivers_under_every_schedule (hcapacity : 0 < capacity)
    (h : Relation.ReflTransGen (Step capacity) (start lookup token events c) s) :
    s.channel.length ≤ capacity ∧
      (∀ m signals, Signal.all events = .metadata m :: signals →
        let (rows, last) := Signal.rows signals
        s.Delivers m rows (last.fault? lookup token c) ∧
          StreamCursor.parting lookup token c last =
            (last.fault? lookup token c).elim (.ok none) .error) ∧
      ((∀ m, (Signal.all events).head? ≠ some (.metadata m)) →
        s.received = [] ∧ s.channel = [] ∧
          (s.receiver = .opening ∨ s.receiver =
            .refused (StreamCursor.refusal lookup token c (Signal.all events).head?))) ∧
      (∀ s', Step capacity s s' → s'.work < s.work) ∧
      ((∀ s', ¬ Step capacity s s') → s.reader = .gone ∧ s.receiver.IsDone) := by
  obtain ⟨hphase, houtcome, hlength⟩ := reachable h
  refine ⟨hlength, ?_, ?_, fun s' => work_lt_of_step, done_of_stuck hcapacity hphase⟩
  · intro m signals hall
    rw [outcome_start_of_metadata hall] at houtcome
    exact ⟨hphase.delivers houtcome, Signal.parting_eq lookup token c _⟩
  · intro hall
    rw [outcome_start_of_refusal hall] at houtcome
    exact hphase.refuses houtcome

end

/-- A stream of two rows that breaks off, in a channel with room for one: the fault is in its slot
before the second row is taken, and is found after it. -/
theorem fault_waits_behind_rows :
    let columns := Text.utf8Bytes
      "\x7b\"type\":\"metadata\",\"columns\":[\x7b\"name\":\"v\",\"type\":\"VARCHAR\"\x7d]\x7d"
    let first := Text.utf8Bytes "\x7b\"type\":\"data\",\"data\":[\"a\"]\x7d"
    let second := Text.utf8Bytes "\x7b\"type\":\"data\",\"data\":[\"b\"]\x7d"
    let events : List SocketEvent :=
      [.message true columns, .message false first, .message false second, .failed "lost"]
    let m : StreamMetadata := { columns := [{ name := "v", declared := "VARCHAR" }] }
    let c := Conversation.withSocket events
    let s : HandOff :=
      { events := [], lookup := none, token := 0, conversation := c, reader := .gone
        ready := some (.ok m), fault := some (.transport (.receive "lost"))
        receiver := .receiving m, received := [[some "a"], [some "b"]] }
    0 < 1 ∧ Relation.ReflTransGen (Step 1) (start none 0 events c) s ∧
      s.Delivers m [[some "a"], [some "b"]] (some (.transport (.receive "lost"))) := by
  intro columns first second events m c s
  have hcolumns : Signal.ofEvent? (.message true columns) = some (.metadata m) := by
    decide +kernel
  have hfirst : Signal.ofEvent? (.message false first) = some (.data [some "a"]) := by
    decide +kernel
  have hsecond : Signal.ofEvent? (.message false second) = some (.data [some "b"]) := by
    decide +kernel
  have hread {s : HandOff} {event : SocketEvent} {events : List SocketEvent} {signal : Signal}
      (hreader : s.reader = .reading) (hevents : s.events = event :: events)
      (hsignal : Signal.ofEvent? event = some signal) :
      Step 1 s ({ s with events }.read (some signal)) := by
    refine .reader ?_
    unfold readerStep?
    rw [hreader, hevents, ← hsignal]
  have h : Relation.ReflTransGen (Step 1) (start none 0 events c) s := by
    refine .head (hread rfl rfl hcolumns) <| .head (hread rfl rfl hfirst) <| .head (.reader rfl) ?_
    -- The reader waits with the second row until the first one has been taken.
    refine .head (hread rfl rfl hsecond) <| .head (.receiver rfl) <| .head (.receiver rfl) ?_
    refine .head (.reader rfl) <| .head (hread rfl rfl rfl) <| .head (.reader rfl) ?_
    exact .head (.reader rfl) <| .head (.receiver rfl) .refl
  have hall : Signal.all events = [.metadata m, .data [some "a"], .data [some "b"],
      .broken (.transport (.receive "lost"))] := by decide +kernel
  obtain ⟨-, hstream, -⟩ := delivers_under_every_schedule (by decide) h
  exact ⟨by decide, h, (hstream m _ hall).1⟩

end HandOff

end Tributary
