import Tributary.Cursor.Basic
import Tributary.Proofs.Cursor.Partitions
import Tributary.Proofs.Cursor.Rows
import Tributary.Proofs.Statement.Completion

/-!
# Fetching a partitioned result

A cursor over a bounded result has passed a number of rows, and holds the partition of the last of
them. Each fetch keeps this: it gives the row that is next in the concatenation of all partitions,
and asks for a partition just when the first of its rows is next.
-/

namespace Tributary

namespace PagedCursor

variable {parts : List (List Row)}

/-! ## Fetching partitions -/

/-- The status API serves the partitions: every call has an answer, and the answer to a call for a
partition promises another one, or completes with success and the rows of the partition. -/
def Serves (parts : List (List Row)) (calls : List Call) (script : Script) : Prop :=
  ∀ (i : Nat) (call : Call), calls[i]? = some call → ∃ s, script[i]? = some s ∧
    ∀ (statementId : Uuid) (p : Nat) (sessionId : Option String),
      call = Call.direct (.status statementId p sessionId) →
      isPromise s = true ∨ ∃ result, s.answer = .ok (.completed result) ∧
        result.sqlState.code = "00000" ∧ result.rows = parts.getD p []

/-- The calls that fetch partitions, one after the other, and the answers to them: each partition
is asked for as often as it is promised, and once more. -/
inductive Fetches (statementId : Uuid) (sessionId : Option String) :
    List Nat → List Call → Script → Prop where
  | none : Fetches statementId sessionId [] [] []
  | next {ps : List Nat} {calls : List Call} {script : Script}
    (h : Fetches statementId sessionId ps calls script) (p : Nat) {promises : Script}
    (hpromises : ∀ s ∈ promises, isPromise s = true) {last : Served (Except Error Reply)}
    (hlast : isPromise last = false) :
    Fetches statementId sessionId (ps ++ [p])
      (calls ++ List.replicate (promises.length + 1) (.direct (.status statementId p sessionId)))
      (script ++ (promises ++ [last]))

theorem Serves.drop {calls more : List Call} {script : Script}
    (h : Serves parts (calls ++ more) script) :
    Serves parts more (script.drop calls.length) := by
  intro i call hcall
  have hi : (calls ++ more)[calls.length + i]? = some call := by
    rw [List.getElem?_append_right (Nat.le_add_right _ _), Nat.add_sub_cancel_left, hcall]
  obtain ⟨s, hs, hserves⟩ := h _ call hi
  exact ⟨s, by rw [List.getElem?_drop, hs], hserves⟩

/-- A partition that the status API serves arrives after its promises. -/
theorem await_of_serves {x : Runner} (hx : x.service = .direct) {id : CancelId}
    {c : Conversation} (h : c.Scripted id) {statementId : Uuid} {p : Nat}
    (hserves : Serves parts
      ((x.polling statementId p c.direct.statements.status).1.map Call.direct)
      c.direct.statements.status) :
    ∃ promises last rest result c', c.direct.statements.status = promises ++ last :: rest ∧
      (∀ s ∈ promises, isPromise s = true) ∧ isPromise last = false ∧
      x.await id statementId p c = (.ok result, c') ∧ result.rows = parts.getD p [] ∧
      c.After id
        (List.replicate (promises.length + 1) (.direct (.status statementId p x.sessionId)))
        { c.direct.statements with status := rest } c' := by
  obtain ⟨hverdict, hafter⟩ := Runner.await_of_scripted hx h statementId p
  unfold Runner.polling at hserves hverdict hafter
  simp only [List.map_replicate] at hserves hafter
  have hsplit := List.takeWhile_append_dropWhile (p := isPromise)
    (l := c.direct.statements.status)
  generalize hpre : c.direct.statements.status.takeWhile isPromise = promises at *
  have hpromises : ∀ s ∈ promises, isPromise s = true := by
    rw [← hpre]
    exact fun s hs => List.all_eq_true.mp List.all_takeWhile s hs
  obtain ⟨s, hs, hgood⟩ := hserves promises.length _
    (List.getElem?_replicate_of_lt (Nat.lt_succ_self _))
  cases hdrop : c.direct.statements.status.dropWhile isPromise with
  | nil =>
      -- The script cannot end in promises, since the last call has an answer.
      rw [hdrop, List.append_nil] at hsplit
      rw [← hsplit, List.getElem?_eq_none (Nat.le_refl _)] at hs
      cases hs
  | cons last rest =>
      rw [hdrop] at hsplit hverdict hafter
      have hnot : isPromise last = false := by
        have := List.head?_dropWhile_not isPromise c.direct.statements.status
        rw [hdrop] at this
        exact this
      rw [← hsplit, List.getElem?_append_right (Nat.le_refl _), Nat.sub_self] at hs
      obtain rfl : last = s := Option.some.inj hs
      rcases hgood statementId p x.sessionId rfl with hpromise | ⟨result, hanswer, hcode, hrows⟩
      · rw [hnot] at hpromise
        cases hpromise
      · have hok : x.await id statementId p c = (.ok result, (x.await id statementId p c).2) :=
          Prod.ext ((eq_ok_iff_of_verdict hverdict result).mpr ⟨hanswer, hcode⟩) rfl
        exact ⟨promises, last, rest, result, _, hsplit.symm, hpromises, hnot, hok, hrows, hafter⟩

/-! ## One fetch -/

section

variable {r : PagedCursor} {k q : Nat} (hopen : r.closed = false) (dest : List Value)
  (c : Conversation)
include hopen

/-- Behind the last row there is nothing. -/
theorem next_of_none (hlocate : locate r.partitions r.position 0 = none) :
    r.next dest c = (⟨.ok false, dest, r⟩, c) := by
  unfold next
  rw [hopen, hlocate]
  rfl

/-- A row of the partition that is held is served from there. -/
theorem next_of_held (hlocate : locate r.partitions r.position 0 = some (k, r.partition)) :
    r.next dest c = (r.serve k dest, c) := by
  unfold next holding
  rw [hopen, hlocate]
  simp only [Bool.false_eq_true, if_false, if_true]
  rfl

/-- For a row of another partition, the partition is waited for. -/
theorem snd_next_of_other (hlocate : locate r.partitions r.position 0 = some (k, q))
    (hq : q ≠ r.partition) :
    (r.next dest c).2 = (r.runner.await r.token r.statementId (partNumber q) c).2 := by
  unfold next holding
  rw [hopen, hlocate]
  simp only [Bool.false_eq_true, if_false, if_neg hq, bind, Talk.bind]
  cases r.runner.await r.token r.statementId (partNumber q) c with
  | mk result c => cases result <;> rfl

/-- Once it has arrived, the row is served from there. -/
theorem next_of_other {result : ResultSet} {c' : Conversation}
    (hlocate : locate r.partitions r.position 0 = some (k, q)) (hq : q ≠ r.partition)
    (hawait : r.runner.await r.token r.statementId (partNumber q) c = (.ok result, c')) :
    r.next dest c = ({ r with held := result.rows, partition := q }.serve k dest, c') := by
  unfold next holding
  rw [hopen, hlocate]
  simp only [Bool.false_eq_true, if_false, if_neg hq, bind, Talk.bind, hawait]
  rfl

end

/-! ## The state of a cursor -/

/-- A cursor that holds a partition and has passed a number of rows. -/
def standing (r : PagedCursor) (parts : List (List Row)) (partition position : Nat) :
    PagedCursor :=
  { r with held := parts.getD partition [], partition, position }

/-- The cursor has passed `m` rows and holds the partition of the last of them, or the first one.
Until then it has fetched the partitions that are requested, and nothing else has happened. -/
structure Stands (parts : List (List Row)) (r : PagedCursor) (c : Conversation)
    (made : List Call) (partition m : Nat) (c' : Conversation) : Prop where
  place : m = 0 ∧ partition = 0 ∨
    start parts partition < m ∧ m ≤ start parts (partition + 1)
  after : c.After r.token made
    { c.direct.statements with
      status := c.direct.statements.status.drop made.length } c'
  fetches : Fetches r.statementId r.runner.sessionId (requested parts m) made
    (c.direct.statements.status.take made.length)

/-- What a cursor gives for a row that it holds. -/
def placed (r : PagedCursor) (row : Row) (dest : List Value) (cursor : PagedCursor) :
    Fetched PagedCursor :=
  let (more, slots) := Cells.place .paged (r.columns.map (·.declared)) row dest
  ⟨more, slots, cursor⟩

variable {r : PagedCursor} {c c' : Conversation}

theorem serve_standing {partition m k : Nat} {rows : List Row} {row : Row}
    (hpart : parts[partition]? = some rows) (hrow : rows[k]? = some row) (dest : List Value) :
    (r.standing parts partition m).serve k dest =
      r.placed row dest (r.standing parts partition (m + 1)) := by
  have hheld : (parts.getD partition [])[k]? = some row := by
    rw [List.getD_eq_getElem?_getD, hpart]
    exact hrow
  unfold serve standing placed
  simp only [hheld]

/-- A row outside the partition that is held is the first one of a later partition. -/
theorem Stands.first {made : List Call} {partition m q : Nat}
    (h : Stands parts r c made partition m c') (hstart : start parts q ≤ m)
    (hend : m < start parts (q + 1)) (hq : q ≠ partition) : start parts q = m ∧ q ≠ 0 := by
  rcases h.place with ⟨hm, hp⟩ | ⟨hlt, hle⟩
  · omega
  · rcases Nat.lt_or_gt_of_ne hq with hlower | hhigher
    · have hmono : start parts (q + 1) ≤ start parts partition := start_mono parts hlower
      omega
    · have hmono : start parts (partition + 1) ≤ start parts q := start_mono parts hhigher
      omega

/-- Waiting for the partition that is next leads to where it is held and one of its rows is
passed. -/
theorem Stands.await (hx : r.runner.service = .direct) {made : List Call} {partition m q : Nat}
    (h : Stands parts r c made partition m c') (hstart : start parts q = m)
    (hend : m < start parts (q + 1)) (hq : q ≠ 0)
    (hserves : Serves parts
      ((r.runner.await r.token r.statementId q c').2.calls.drop c.calls.length)
      c.direct.statements.status) :
    ∃ result made' c'', r.runner.await r.token r.statementId q c' = (.ok result, c'') ∧
      result.rows = parts.getD q [] ∧ Stands parts r c made' q (m + 1) c'' := by
  have hleft : c'.direct.statements.status = c.direct.statements.status.drop made.length := by
    rw [h.after.left]
  -- The calls of this fetch come after those that were made before, and so do their answers.
  obtain ⟨-, hpolled⟩ := Runner.await_of_scripted hx h.after.scripted r.statementId q
  rw [hpolled.calls, h.after.calls, List.append_assoc, List.drop_left, hleft] at hserves
  have hserves' := hserves.drop
  rw [← hleft] at hserves'
  obtain ⟨promises, last, rest, result, c'', hscript, hpromises, hlast, hawait, hresult, hafter⟩ :=
    await_of_serves hx h.after.scripted hserves'
  rw [hscript] at hleft
  have hlength : (made ++ List.replicate (promises.length + 1)
      (Call.direct (.status r.statementId q r.runner.sessionId))).length =
        made.length + (promises ++ [last]).length := by
    simp
  have hsplit : promises ++ last :: rest = (promises ++ [last]) ++ rest := by simp
  refine ⟨result, made ++ List.replicate (promises.length + 1)
    (.direct (.status r.statementId q r.runner.sessionId)), c'', hawait, hresult,
    .inr ⟨by omega, by omega⟩, ?_, ?_⟩
  · have hall := h.after.trans hafter
    rw [h.after.left] at hall
    rw [hlength, ← List.drop_drop, ← hleft, hsplit, List.drop_left]
    exact hall
  · rw [requested_next hstart hend hq, hlength, List.take_add, ← hleft, hsplit, List.take_left]
    exact h.fetches.next q hpromises hlast

/-- Each fetch passes the row that is next, and asks for its partition where that is not held. -/
theorem next_of_stands (hx : r.runner.service = .direct) (hopen : r.closed = false)
    (hcounts : r.partitions = parts.map fun rows => (rows.length : Int))
    (hsize : parts.length < 0x80000000) {made : List Call} {partition m : Nat}
    (h : Stands parts r c made partition m c') {row : Row} (hrow : parts.flatten[m]? = some row)
    (dest : List Value)
    (hserves : Serves parts
      (((r.standing parts partition m).next dest c').2.calls.drop c.calls.length)
      c.direct.statements.status) :
    ∃ made' partition' c'',
      (r.standing parts partition m).next dest c' =
        (r.placed row dest (r.standing parts partition' (m + 1)), c'') ∧
      Stands parts r c made' partition' (m + 1) c'' := by
  rcases locate_cases parts m 0 with ⟨hle, -⟩ | ⟨q, rows, k, hpart, hk, hsum, hlocate⟩
  · rw [List.getElem?_eq_none hle] at hrow
    cases hrow
  rw [← hcounts, Nat.zero_add] at hlocate
  rw [← hsum, getElem?_flatten hpart hk] at hrow
  have hstart : start parts q ≤ m := by omega
  have hend : m < start parts (q + 1) := by
    rw [start_succ_of_some hpart]
    omega
  by_cases hq : q = partition
  · -- The row lies in the partition that is held.
    subst hq
    refine ⟨made, q, c', ?_, .inr ⟨by omega, by omega⟩, h.after, ?_⟩
    · rw [← serve_standing hpart hrow dest]
      exact next_of_held (r := r.standing parts q m) hopen dest c' hlocate
    · rw [requested_same hstart hend (h.place.imp And.right And.left)]
      exact h.fetches
  · -- The row is the first one of a partition that has to be fetched.
    obtain ⟨hfirst, hpos⟩ := h.first hstart hend hq
    have hnumber : partNumber q = q :=
      partNumber_of_lt (lt_trans (List.getElem?_eq_some_iff.mp hpart).1 hsize)
    rw [snd_next_of_other (r := r.standing parts partition m) hopen dest c' hlocate hq,
      hnumber] at hserves
    obtain ⟨result, made', c'', hawait, hresult, hstands⟩ := h.await hx hfirst hend hpos hserves
    rw [← hnumber] at hawait
    refine ⟨made', q, c'', ?_, hstands⟩
    rw [next_of_other (r := r.standing parts partition m) hopen dest c' hlocate hq hawait, hresult,
      ← serve_standing hpart hrow dest]
    rfl

/-! ## Whole results -/

/-- What a caller is given for a row: its values, if it is as wide as the columns. -/
def given (columns : List ResultColumn) (row : Row) : Except Error (List Value) :=
  if row.length = columns.length then decodeRow .paged (columns.map (·.declared)) row
  else .error (.conversion (.columnCountMismatch row.length columns.length))

/-- What a caller is given for the row with an index among all rows, if there is one. -/
def givenAt (columns : List ResultColumn) (parts : List (List Row)) (g : Nat) :
    Except Error (Option (List Value)) :=
  match parts.flatten[g]? with
  | some row => (given columns row).map some
  | none => .ok none

theorem given_of_placed (r : PagedCursor) (row : Row) (cursor : PagedCursor) :
    let f := r.placed row (List.replicate r.columns.length .null) cursor
    (f.more.map fun more => if more then some f.slots else none) =
      (given r.columns row).map some := by
  intro f
  by_cases hwidth : row.length = r.columns.length
  · have hdest : row.length = (List.replicate r.columns.length Value.null).length := by
      rw [List.length_replicate, hwidth]
    unfold given
    rw [if_pos hwidth]
    rcases Cells.place_of_length .paged (r.columns.map (·.declared)) row _ hdest with
      ⟨values, hvalues, hplace⟩ | ⟨e, he, hplace⟩
    · rw [hvalues]
      simp only [f, placed, hplace]
      rfl
    · rw [he]
      simp only [f, placed, hplace]
      rfl
  · unfold given
    rw [if_neg hwidth]
    simp only [f, placed, Cells.place, List.length_replicate, if_neg hwidth]
    rfl

/-- Fetching rows from a cursor over a partitioned result. -/
abbrev rowFetches (_ : Nat) (r : Cursor) (c : Conversation) :
    (Except Error (Option (List Value)) × Cursor) × Conversation := r.nextRow c

theorem nextRow_paged (r : PagedCursor) (c : Conversation) :
    Cursor.nextRow (.paged r) c =
      let (f, c) := r.next (List.replicate r.columns.length .null) c
      ((f.more.map fun more => if more then some f.slots else none, .paged f.cursor), c) := by
  have hwidth : (Cursor.paged r).width = r.columns.length := by
    simp [Cursor.width, Cursor.describe, describe]
  unfold Cursor.nextRow
  rw [hwidth]
  rfl

/-- One fetch of a row, wherever the cursor stands. -/
theorem nextRow_of_stands (hx : r.runner.service = .direct) (hopen : r.closed = false)
    (hcounts : r.partitions = parts.map fun rows => (rows.length : Int))
    (hsize : parts.length < 0x80000000) {made : List Call} {partition n : Nat}
    (h : Stands parts r c made partition (min n parts.flatten.length) c')
    (hserves : Serves parts
      ((Cursor.nextRow (.paged (r.standing parts partition (min n parts.flatten.length)))
        c').2.calls.drop c.calls.length) c.direct.statements.status) :
    ∃ made' partition' c'',
      Cursor.nextRow (.paged (r.standing parts partition (min n parts.flatten.length))) c' =
        ((givenAt r.columns parts n,
          .paged (r.standing parts partition' (min (n + 1) parts.flatten.length))), c'') ∧
      Stands parts r c made' partition' (min (n + 1) parts.flatten.length) c'' := by
  rw [nextRow_paged] at hserves ⊢
  unfold givenAt
  cases hrow : parts.flatten[n]? with
  | some row =>
      have hlt : n < parts.flatten.length := (List.getElem?_eq_some_iff.mp hrow).1
      rw [Nat.min_eq_left hlt.le] at h hserves ⊢
      rw [Nat.min_eq_left hlt]
      obtain ⟨made', partition', c'', hnext, hstands⟩ :=
        next_of_stands hx hopen hcounts hsize h hrow (List.replicate r.columns.length .null) hserves
      refine ⟨made', partition', c'', ?_, hstands⟩
      rw [show (r.standing parts partition n).columns = r.columns from rfl, hnext]
      dsimp only
      rw [given_of_placed]
      rfl
  | none =>
      have hle : parts.flatten.length ≤ n := List.getElem?_eq_none_iff.mp hrow
      rw [Nat.min_eq_right hle] at h ⊢
      rw [Nat.min_eq_right (hle.trans (Nat.le_succ n))]
      refine ⟨made, partition, c', ?_, h⟩
      rcases locate_cases parts parts.flatten.length 0 with
        ⟨-, hlocate⟩ | ⟨q, rows, k, hpart, hk, hsum, -⟩
      · rw [← hcounts] at hlocate
        rw [next_of_none (r := r.standing parts partition parts.flatten.length) hopen _ c' hlocate]
        rfl
      · -- No partition has a row behind the last one.
        have hend : start parts (q + 1) ≤ start parts parts.length :=
          start_mono parts (List.getElem?_eq_some_iff.mp hpart).1
        rw [start_length, start_succ_of_some hpart] at hend
        omega

theorem stands_zero (parts : List (List Row)) (h : c.Scripted r.token) :
    Stands parts r c [] 0 (min 0 parts.flatten.length) c := by
  have hnone : requested parts 0 = [] := by
    unfold requested
    exact List.filter_eq_nil_iff.mpr fun p _ => by simp
  rw [Nat.zero_min]
  refine ⟨.inl ⟨rfl, rfl⟩, ⟨h, (List.append_nil _).symm, rfl, rfl⟩, ?_⟩
  rw [hnone]
  exact .none

/-- The state of a cursor after any number of fetches. -/
theorem stands_after (hx : r.runner.service = .direct) (hopen : r.closed = false)
    (hcounts : r.partitions = parts.map fun rows => (rows.length : Int))
    (hsize : parts.length < 0x80000000) (hbegin : r = r.standing parts 0 0) (h : c.Scripted r.token)
    (n : Nat)
    (hserves : ∀ m ≤ n, Serves parts
      ((afterFetches rowFetches (.paged r) c m).2.calls.drop c.calls.length)
      c.direct.statements.status) :
    ∃ made partition c',
      afterFetches rowFetches (.paged r) c n =
        (.paged (r.standing parts partition (min n parts.flatten.length)), c') ∧
      Stands parts r c made partition (min n parts.flatten.length) c' := by
  induction n with
  | zero =>
      refine ⟨[], 0, c, ?_, stands_zero parts h⟩
      rw [Nat.zero_min, ← hbegin]
      rfl
  | succ n ih =>
      obtain ⟨made, partition, c', hafter, hstands⟩ :=
        ih fun m hm => hserves m (Nat.le_succ_of_le hm)
      have hstep := hserves (n + 1) (Nat.le_refl _)
      unfold afterFetches at hstep
      rw [hafter] at hstep
      obtain ⟨made', partition', c'', hnext, hstands'⟩ :=
        nextRow_of_stands hx hopen hcounts hsize hstands hstep
      refine ⟨made', partition', c'', ?_, hstands'⟩
      unfold afterFetches
      rw [hafter]
      dsimp only [rowFetches]
      rw [hnext]

theorem requested_min (parts : List (List Row)) (n : Nat) :
    requested parts (min n parts.flatten.length) = requested parts n := by
  rcases Nat.le_total n parts.flatten.length with h | h
  · rw [Nat.min_eq_left h]
  · rw [Nat.min_eq_right h, requested_of_le (Nat.le_refl _), requested_of_le h]

/-- Fetching goes through the rows of all partitions in order: each fetch gives the row that is
next in their concatenation, and nothing behind its end. The status is asked for the partitions
that are requested, in order, and for no others; in the end these are all that have rows, except
the first. -/
theorem fetches_all_partitions {x : Runner} (hx : x.service = .direct) {token : CancelId}
    {c : Conversation} (h : c.Scripted token) {first : ResultSet} {parts : List (List Row)}
    (hcounts : first.metadata.partitions = parts.map fun rows => (rows.length : Int))
    (hfirst : first.rows = parts.headD []) (hsize : parts.length < 0x80000000) (hints : Bool)
    (n : Nat)
    (hserves : ∀ m ≤ n, Serves parts
      ((afterFetches rowFetches (.paged (ofResult x token first hints)) c m).2.calls.drop
        c.calls.length) c.direct.statements.status) :
    let r := ofResult x token first hints
    r.totalRows = parts.flatten.length ∧
      (∀ g < n, fetchedAt rowFetches (.paged r) c g = givenAt first.metadata.columns parts g) ∧
      (∃ made, (afterFetches rowFetches (.paged r) c n).2.calls = c.calls ++ made ∧
        Fetches first.statementId x.sessionId (requested parts n) made
          (c.direct.statements.status.take made.length)) ∧
      (parts.flatten.length ≤ n → requested parts n =
        (List.range parts.length).filter fun p => p ≠ 0 ∧ parts.getD p [] ≠ []) := by
  intro r
  have hbegin : r = r.standing parts 0 0 := by
    have hheld : first.rows = parts.getD 0 [] := by
      rw [hfirst]
      cases parts <;> rfl
    unfold standing
    rw [← hheld]
    rfl
  have hafter (m : Nat) (hm : m ≤ n) := stands_after (r := r) hx rfl hcounts hsize hbegin h m
    fun m' hm' => hserves m' (hm'.trans hm)
  refine ⟨?_, ?_, ?_, requested_of_le⟩
  · show first.metadata.partitions.foldr (· + ·) 0 = _
    rw [hcounts]
    exact sum_lengths parts
  · intro g hg
    obtain ⟨made, partition, c', hstate, hstands⟩ := hafter g hg.le
    have hstep := hserves (g + 1) hg
    unfold afterFetches at hstep
    rw [hstate] at hstep
    obtain ⟨_, _, c'', hnext, -⟩ :=
      nextRow_of_stands (r := r) hx rfl hcounts hsize hstands hstep
    unfold fetchedAt
    rw [hstate]
    dsimp only [rowFetches]
    rw [hnext]
    rfl
  · obtain ⟨made, partition, c', hstate, hstands⟩ := hafter n (Nat.le_refl n)
    refine ⟨made, ?_, ?_⟩
    · rw [hstate]
      exact hstands.after.calls
    · rw [← requested_min]
      exact hstands.fetches

/-- A result of two partitions with one row each: the second one is promised once before it
arrives. -/
theorem two_partitions_are_fetched :
    let x : Runner :=
      { service := .direct, keepsContext := true, sessionId := none, pollInterval := 0 }
    let id : Uuid := ⟨List.replicate 32 1, rfl⟩
    let parts : List (List Row) := [[[some "a"]], [[some "b"]]]
    let first : ResultSet :=
      { statementId := id
        sqlState := .named .successfulCompletion
        metadata :=
          { partitions := [1, 1], columns := [{ name := "v", declared := "VARCHAR" }] }
        data := some [[some "a"]] }
    let second : ResultSet := { first with data := some [[some "b"]] }
    let c := Conversation.withScripts []
      [{ answer := .ok (.accepted { statementId := id }) }, { answer := .ok (.completed second) }]
    let r := ofResult x 0 first true
    (∀ m ≤ 2, Serves parts ((afterFetches rowFetches (.paged r) c m).2.calls.drop 0)
        c.direct.statements.status) ∧
      fetchedAt rowFetches (.paged r) c 0 = .ok (some [.string "a"]) ∧
      fetchedAt rowFetches (.paged r) c 1 = .ok (some [.string "b"]) ∧
      Fetches id none [1] [.direct (.status id 1 none), .direct (.status id 1 none)]
        c.direct.statements.status := by
  intro x id parts first second c r
  have hc : c.Scripted 0 := Conversation.scripted_withScripts (by simp [Spare]) (by simp [Spare])
  have hone : afterFetches rowFetches (.paged r) c 1 = (.paged (r.standing parts 0 1), c) := rfl
  have htwo : (afterFetches rowFetches (.paged r) c 2).2.calls =
      [.direct (.status id 1 none), .direct (.status id 1 none)] := by
    unfold afterFetches
    rw [hone]
    have hmoved := snd_next_of_other (r := r.standing parts 0 1) (k := 0) (q := 1) rfl
      (List.replicate 1 .null) c rfl (by decide)
    exact (congrArg Conversation.calls hmoved).trans
      (Runner.await_of_scripted (x := x) rfl hc id 1).2.calls
  have hserves : ∀ m ≤ 2, Serves parts
      ((afterFetches rowFetches (.paged r) c m).2.calls.drop 0) c.direct.statements.status := by
    intro m hm i call hcall
    obtain rfl | rfl | rfl : m = 0 ∨ m = 1 ∨ m = 2 := by omega
    · exact absurd hcall (by simp [afterFetches, c, Conversation.withScripts])
    · rw [hone] at hcall
      exact absurd hcall (by simp [c, Conversation.withScripts])
    · rw [htwo] at hcall
      rcases i with _ | _ | i
      · exact ⟨_, rfl, fun _ _ _ _ => .inl rfl⟩
      · refine ⟨_, rfl, fun statementId p sessionId hp => .inr ⟨second, rfl, rfl, ?_⟩⟩
        rw [← Option.some.inj hcall] at hp
        have hpart : (1 : Int) = p := by
          cases hp
          rfl
        rw [show p = 1 by omega]
        rfl
      · cases hcall
  obtain ⟨-, hrows, ⟨made, hcalls, hfetches⟩, -⟩ :=
    fetches_all_partitions (x := x) rfl hc
      (show first.metadata.partitions = parts.map fun rows => (rows.length : Int) from rfl) rfl
      (by decide) true 2 hserves
  refine ⟨hserves, (hrows 0 (by decide)).trans rfl, (hrows 1 (by decide)).trans rfl, ?_⟩
  rw [htwo] at hcalls
  obtain rfl : _ = made := hcalls
  exact hfetches

end PagedCursor

end Tributary
