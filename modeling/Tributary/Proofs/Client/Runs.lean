import Tributary.Proofs.Conversation.Contexts
import Tributary.Proofs.Statement.Completion

/-!
# Runs of a caller

A caller does one thing after the other, and in between a failed stream may be looked up in the
background. Each step is a sequence of turns of the runners of the connection, unless it sets the
context or cancels an operation. So what turns keep holds after every run.
-/

namespace Tributary

open Conversation (Grows Quiet Turn Turns)

/-- The cursors of a caller run statements by the runners of the connection only. -/
def Session.Sound (s : Session) : Prop :=
  ∀ slot r, (slot, r) ∈ s.cursors → r.RunBy s.connection.Runs

namespace Session

/-- A caller who has just connected. -/
def start (k : Connection) (peers : Conversation) : Session :=
  { connection := k
    conversation := { peers with context := {}, journal := [] } }

/-- One step: the caller does something, or a runner of the connection takes a turn in the
background. -/
inductive Leads (s : Session) : Session → Prop where
  | acts (action : Action) : Leads s (s.step action).2
  | background {c : Conversation} (h : Turn s.connection.Runs s.conversation c) :
    Leads s { s with conversation := c }

/-! ## What a step does -/

theorem runs_close (k : Connection) : k.close.Runs = k.Runs := by
  funext x
  apply propext
  constructor
  · intro h
    cases h with
    | own => exact .own
    | redirected h => exact .redirected h
  · intro h
    cases h with
    | own => exact .own
    | redirected h => exact .redirected h

theorem Sound.of_cursor? {s : Session} (h : s.Sound) {slot : Nat} {r : Cursor}
    (hr : s.cursor? slot = some r) : r.RunBy s.connection.Runs := by
  refine h slot r ?_
  unfold cursor? at hr
  obtain ⟨before, after, hsplit, -⟩ := List.lookup_eq_some_iff.mp hr
  rw [hsplit]
  exact List.mem_append_right _ List.mem_cons_self

theorem Sound.keep {s : Session} (h : s.Sound) {slot : Nat} {r : Cursor}
    (hr : r.RunBy s.connection.Runs) : (s.keep slot r).Sound := by
  intro slot' r' hmem
  rcases List.mem_cons.mp hmem with heq | hmem
  · cases heq
    exact hr
  · exact h slot' r' (List.mem_filter.mp hmem).1

/-- A step is made of turns, unless it sets the context or cancels an operation. -/
theorem step_cases {s : Session} (h : s.Sound) (action : Action) :
    (s.step action).2.Sound ∧ (s.step action).2.connection.Runs = s.connection.Runs ∧
      ((∃ context, action = .setContext context ∧
          (s.step action).2.conversation = s.conversation.setContext context) ∨
        (∀ context, action ≠ .setContext context) ∧
          (Quiet s.conversation (s.step action).2.conversation ∨
            Turns s.connection.Runs s.conversation (s.step action).2.conversation)) := by
  have hsame : Quiet s.conversation s.conversation := refl_of Quiet s.conversation
  have hturns := Conversation.turns_allowsExchanges s.connection.Runs
  cases action with
  | query request token slot =>
      have hturns := Connection.moves_query (hturns token) request s.conversation
      simp only [step, query]
      cases hquery : s.connection.query token request s.conversation with
      | mk result c =>
          rw [hquery] at hturns
          cases result with
          | ok r =>
              exact ⟨Sound.keep h (Connection.of_query_eq_ok hquery).1, rfl,
                .inr ⟨by simp, .inr hturns⟩⟩
          | error e => exact ⟨h, rfl, .inr ⟨by simp, .inr hturns⟩⟩
  | execute request token =>
      exact ⟨h, rfl, .inr ⟨by simp, .inr (Connection.moves_execute (hturns token) request _)⟩⟩
  | ping token => exact ⟨h, rfl, .inr ⟨by simp, .inr (Connection.moves_ping (hturns token) _)⟩⟩
  | version token =>
      exact ⟨h, rfl, .inr ⟨by simp, .inr (Connection.moves_version (hturns token) _)⟩⟩
  | beginTransaction => exact ⟨h, rfl, .inr ⟨by simp, .inl hsame⟩⟩
  | close =>
      -- A closed connection still has the runners of its cursors.
      have hruns : s.connection.close.Runs = s.connection.Runs := runs_close s.connection
      refine ⟨fun slot r hmem => ?_, hruns, .inr ⟨by simp, .inl hsame⟩⟩
      show r.RunBy s.connection.close.Runs
      rw [hruns]
      exact h slot r hmem
  | isClosed => exact ⟨h, rfl, .inr ⟨by simp, .inl hsame⟩⟩
  | context => exact ⟨h, rfl, .inr ⟨by simp, .inl hsame⟩⟩
  | setContext context => exact ⟨h, rfl, .inl ⟨context, rfl, rfl⟩⟩
  | params => exact ⟨h, rfl, .inr ⟨by simp, .inl hsame⟩⟩
  | describe => exact ⟨h, rfl, .inr ⟨by simp, .inl hsame⟩⟩
  | cancel token =>
      exact ⟨h, rfl, .inr ⟨by simp, .inl (s.conversation.quiet_cancel token)⟩⟩
  | download type name dest token =>
      exact ⟨h, rfl,
        .inr ⟨by simp, .inr (Connection.moves_download (hturns token) type name dest _)⟩⟩
  | onCursor slot action =>
      simp only [step, onCursor]
      cases hr : s.cursor? slot with
      | none => exact ⟨h, rfl, .inr ⟨by simp, .inl hsame⟩⟩
      | some r =>
          have hrun := h.of_cursor? hr
          have hmoves := moves_act (hturns r.token) hrun s.conversation action
          exact ⟨Sound.keep h (runBy_act hrun s.conversation action), rfl,
            .inr ⟨by simp, .inr hmoves⟩⟩

/-! ## The law of contexts -/

/-- The runner of a redirect talks to a dataplane endpoint and keeps no context. -/
theorem proper_of_redirect {redirect : Redirect} {settings : CursorSettings} {x : Runner}
    (h : redirect.runner settings = .ok x) : x.Proper := by
  obtain ⟨-, base, token, -, -, -, rfl⟩ := Redirect.of_runner_eq_ok h
  exact ⟨fun h => (nomatch h), fun h => (nomatch h)⟩

theorem proper_of_runs {k : Connection} {x : Runner} (h : k.Runs x) : x.Proper := by
  cases h with
  | own => exact ⟨fun _ => rfl, fun _ => rfl⟩
  | redirected h => exact proper_of_redirect h

/-- What every step keeps: the cursors are run by the connection, and the law of contexts. -/
structure Kept (s : Session) : Prop where
  sound : s.Sound
  lawful : s.conversation.Lawful

theorem kept_start (k : Connection) (peers : Conversation) : (start k peers).Kept := by
  refine ⟨fun slot r hmem => (nomatch hmem), rfl, fun before body attachments after hsplit => ?_⟩
  cases before <;> cases hsplit

theorem Leads.kept {s s' : Session} (h : Leads s s') (hs : s.Kept) : s'.Kept := by
  cases h with
  | acts action =>
      -- The caller sets the context, or something quiet happens, or runners take turns.
      obtain ⟨hsound, -, ⟨context, -, hset⟩ | ⟨-, hquiet | hturns⟩⟩ := step_cases hs.sound action
      · refine ⟨hsound, ?_⟩
        rw [hset]
        exact hs.lawful.setContext context
      · exact ⟨hsound, hs.lawful.of_quiet hquiet⟩
      · exact ⟨hsound, hturns.lawful (fun _ => proper_of_runs) hs.lawful⟩
  | background h => exact ⟨hs.sound, h.lawful (fun _ => proper_of_runs) hs.lawful⟩

/-- Doing one thing after the other is a sequence of steps. -/
theorem leads_run (s : Session) (actions : List Action) :
    Relation.ReflTransGen Leads s (s.run actions).2 := by
  induction actions generalizing s with
  | nil => exact .refl
  | cons action actions ih => exact .head (.acts action) (ih (s.step action).2)

/-- After every run the context is the one that was written last, as a whole, and each statement
that was submitted to the primary service carries the context of its moment. Of the steps of the
caller only setting the context writes one without a success of the primary service, and a
statement that fails leaves the context as it was. -/
theorem contexts_are_lawful {k : Connection} {peers : Conversation} {s : Session}
    (h : Relation.ReflTransGen Leads (start k peers) s) :
    s.conversation.context = latest s.conversation.journal ∧
      (∀ before body attachments after,
        s.conversation.journal =
          before ++ .asked .primary (.submit body attachments) :: after →
        body.Carries (latest before)) ∧
      (∀ action, ∃ entries,
        (s.step action).2.conversation.journal = s.conversation.journal ++ entries ∧
        ∀ context, .replaced context ∈ entries ↔ action = .setContext context) ∧
      ∀ (x : Runner) (id : CancelId) (e : Error),
        (∀ request, (x.submit id request s.conversation).1 = .error e →
          (x.submit id request s.conversation).2.context = s.conversation.context) ∧
        ∀ statementId part, (x.await id statementId part s.conversation).1 = .error e →
          (x.await id statementId part s.conversation).2.context = s.conversation.context := by
  have hs : s.Kept := by
    induction h with
    | refl => exact kept_start k peers
    | tail _ hstep ih => exact hstep.kept ih
  refine ⟨hs.lawful.context, hs.lawful.bodies, ?_, ?_⟩
  · intro action
    obtain ⟨-, -, ⟨context, rfl, hset⟩ | ⟨hother, hmoved⟩⟩ := step_cases hs.sound action
    · refine ⟨[.replaced context], by rw [hset]; rfl, ?_⟩
      intro context'
      rw [List.mem_singleton, Entry.replaced.injEq, Action.setContext.injEq]
      exact eq_comm
    · have hgrows : Grows s.conversation (s.step action).2.conversation := by
        rcases hmoved with hquiet | hturns
        · exact hquiet.grows
        · exact hturns.grows
      obtain ⟨entries, hentries, hnone⟩ := hgrows
      refine ⟨entries, hentries, ?_⟩
      intro context
      constructor
      · intro hmem
        exact absurd hmem (hnone context)
      · intro h
        exact absurd h (hother context)
  · intro x id e
    exact ⟨fun request => Runner.context_submit_of_error,
      fun statementId part => Runner.context_await_of_error⟩

/-- A role that a first statement has set goes with the second one, and stays when that fails. -/
theorem role_stays_when_statement_fails :
    let k : Connection :=
      { params :=
          { server := "", tokens := .supplied [], sessionId := none, hints := false,
            insecureTls := false, connectTimeout := 0, pollInterval := 1, handshakeTimeout := 0,
            streamBuffer := 1, connectTimeout_le := by decide, pollInterval_pos := by decide,
            streamBuffer_pos := by decide }
        service := .direct }
    let result : ResultSet :=
      { statementId := ⟨List.replicate 32 1, rfl⟩
        sqlState := .named .successfulCompletion
        metadata := { context := some { role := some "r" } } }
    let peers := Conversation.withScripts
      [{ answer := .ok (.completed result) }, { answer := .ok (.failed 500 "down") }] []
    let s := ((start k peers).run
      [.execute { statement := "USE ROLE r;" } 0, .execute { statement := "SELECT 1;" } 0]).2
    Relation.ReflTransGen Leads (start k peers) s ∧
      s.conversation.context = { role := some "r" } ∧
      ∃ body, Entry.asked .primary (.submit body []) ∈ s.conversation.journal ∧
        body.statement = "SELECT 1;" ∧ body.Carries { role := some "r" } := by
  intro k result peers s
  have h : Relation.ReflTransGen Leads (start k peers) s := leads_run _ _
  obtain ⟨hcontext, hbodies, -⟩ := contexts_are_lawful h
  have hjournal : s.conversation.journal =
      [.asked .primary (.submit (.inContext {} "USE ROLE r;" none) []),
        .told .primary (.completed result)] ++
      .asked .primary (.submit (.inContext { role := some "r" } "SELECT 1;" none) []) ::
        [.told .primary (.failed 500 "down")] := rfl
  refine ⟨h, ?_, _, ?_, rfl, hbodies _ _ [] _ hjournal⟩
  · rw [hcontext, hjournal]
    rfl
  · rw [hjournal]
    exact List.mem_append_right _ List.mem_cons_self

end Session

end Tributary
