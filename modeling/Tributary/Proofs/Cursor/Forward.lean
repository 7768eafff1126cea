import Mathlib
import Tributary.Proofs.Conversation.Exchanges
import Tributary.Proofs.Cursor.Paging

/-!
# A partitioned cursor moves forward

The counts of the partitions come from the service and need not be right; they may even be negative.
Where a row is found is then still a matter of the sums of the counts, and a row behind another one
is found behind it. So whatever the service answers, a cursor passes rows in order and asks for
partitions in order.
-/

namespace Tributary

namespace PagedCursor

/-! ## Where rows are found -/

section

variable {counts : List Int} {row row' p k k' q q' : Nat}

/-- A row is found in a partition when the counts of the partitions before, however many of them
are taken, never exceed it, and that of the partition does. -/
theorem of_locate_eq_some (h : locate counts row p = some (k, q)) :
    ∃ i count, q = p + i ∧ counts[i]? = some count ∧ (k : Int) < count ∧
      (k : Int) = row - (counts.take i).sum ∧ ∀ j ≤ i, (counts.take j).sum ≤ row := by
  induction counts generalizing row p with
  | nil => cases h
  | cons count counts ih =>
      unfold locate at h
      split at h
      next hrow =>
        cases h
        refine ⟨0, count, rfl, rfl, hrow, by simp, ?_⟩
        intro j hj
        obtain rfl := Nat.le_zero.mp hj
        simp
      next hrow =>
        obtain ⟨i, count', rfl, hcount', hk, hrest, hbefore⟩ := ih h
        have hsub : ((row - count : Int).toNat : Int) = row - count := by omega
        rw [hsub] at hrest hbefore
        refine ⟨i + 1, count', by omega, hcount', hk, ?_, ?_⟩
        · rw [hrest, List.take_succ_cons, List.sum_cons]
          omega
        · intro j hj
          cases j with
          | zero => simp
          | succ j =>
              have := hbefore j (Nat.le_of_succ_le_succ hj)
              rw [List.take_succ_cons, List.sum_cons]
              omega

/-- Behind all rows is where the counts, however many of them are taken, never exceed. -/
theorem locate_eq_none_iff :
    locate counts row p = none ↔ ∀ j, (counts.take j).sum ≤ (row : Int) := by
  induction counts generalizing row p with
  | nil => simp [locate]
  | cons count counts ih =>
      unfold locate
      split
      next hrow =>
        refine iff_of_false (fun h => nomatch h) ?_
        intro h
        have := h 1
        simp at this
        omega
      next hrow =>
        have hsub : ((row - count : Int).toNat : Int) = row - count := by omega
        rw [ih, hsub]
        constructor
        · intro h j
          cases j with
          | zero => simp
          | succ j =>
              have := h j
              rw [List.take_succ_cons, List.sum_cons]
              omega
        · intro h j
          have := h (j + 1)
          rw [List.take_succ_cons, List.sum_cons] at this
          omega

/-- A row behind another one is found behind it: in a later partition, or further down. -/
theorem lex_of_locate (hlt : row < row') (h : locate counts row p = some (k, q))
    (h' : locate counts row' p = some (k', q')) :
    Prod.Lex (· < ·) (· < ·) (q, k) (q', k') := by
  obtain ⟨i, count, rfl, -, -, hk, hbefore⟩ := of_locate_eq_some h
  obtain ⟨i', count', rfl, hcount', hk', hrest, -⟩ := of_locate_eq_some h'
  rcases Nat.lt_trichotomy i i' with hi | rfl | hi
  · exact .left _ _ (Nat.add_lt_add_left hi p)
  · exact .right _ (by omega)
  · -- The earlier row would already have been found in the earlier partition.
    have hsum := hbefore (i' + 1) hi
    rw [List.take_add_one, hcount', List.sum_append] at hsum
    simp at hsum
    omega

theorem lt_length_of_locate (h : locate counts row 0 = some (k, q)) : q < counts.length := by
  obtain ⟨i, count, rfl, hcount, -⟩ := of_locate_eq_some h
  rw [Nat.zero_add]
  exact (List.getElem?_eq_some_iff.mp hcount).1

theorem partition_le_of_locate (hle : row ≤ row') (h : locate counts row p = some (k, q))
    (h' : locate counts row' p = some (k', q')) : q ≤ q' := by
  rcases Nat.lt_or_eq_of_le hle with hlt | rfl
  · rcases Prod.lex_iff.mp (lex_of_locate hlt h h') with hq | ⟨hq, -⟩
    · exact Nat.le_of_lt hq
    · exact Nat.le_of_eq hq
  · rw [h] at h'
    cases h'
    exact Nat.le_refl q

end

end PagedCursor

/-! ## What is asked -/

/-- The question that an entry of a journal asks, if any. -/
def Entry.question? : Entry → Option Question
  | .asked _ q => some q
  | .told _ _ => none
  | .replaced _ => none

namespace Conversation

/-- The questions about statements that were asked. -/
def asked (c : Conversation) : List Question := c.journal.filterMap Entry.question?

theorem asked_write_asked (c : Conversation) (endpoint : Endpoint) (q : Question) :
    (c.write (.asked endpoint q)).asked = c.asked ++ [q] := by
  simp [asked, write, Entry.question?]

/-- One question was asked, any number of times. -/
def Repeats (q : Question) (c c' : Conversation) : Prop :=
  ∃ n, c'.asked = c.asked ++ List.replicate n q

instance (q : Question) : IsPreorder Conversation (Repeats q) where
  refl c := ⟨0, by simp⟩
  trans c c' c'' := by
    rintro ⟨m, hm⟩ ⟨n, hn⟩
    exact ⟨m + n, by rw [hn, hm, List.append_assoc, List.replicate_append_replicate]⟩

end Conversation

namespace Runner

open Conversation (Repeats)

theorem repeats_ask (x : Runner) (id : CancelId) (q : Question) :
    Talk.Moves (Repeats q) (x.ask id q) := by
  intro c
  rcases x.ask_cases id q c with hask | ⟨c₁, hquiet, ⟨e, hask⟩ | ⟨reply, hask⟩⟩
  · rw [hask]
    exact refl_of (Repeats q) c
  all_goals
    have hasked : c₁.asked = c.asked ++ [q] := by
      rw [← c.asked_write_asked x.endpoint q]
      unfold Conversation.asked
      rw [hquiet.journal]
    rw [hask]
    refine ⟨1, ?_⟩
  · exact hasked
  · rw [List.replicate_one, ← hasked]
    unfold Conversation.asked
    rw [x.journal_settle reply c₁, List.filterMap_append]
    exact List.append_nil _

/-- While a runner waits for a part of a statement, it asks for nothing else. -/
theorem repeats_await (x : Runner) (id : CancelId) (statementId : Uuid) (part : Int) :
    Talk.Moves (Repeats (.status statementId part x.sessionId)) (x.await id statementId part) :=
  moves_await (x.repeats_ask id _)

end Runner

namespace PagedCursor

/-! ## One attempt -/

/-- The question for a partition. -/
def request (r : PagedCursor) (partition : Nat) : Question :=
  .status r.statementId (partNumber partition) r.runner.sessionId

variable {r : PagedCursor} {row partition : Nat}

/-- The row that is next lies in the partition that is held or in a later one. -/
structure Ahead (r : PagedCursor) : Prop where
  opened : r.closed = false
  held_le : ∀ row partition, locate r.partitions r.position 0 = some (row, partition) →
    r.partition ≤ partition

theorem more_serve (r : PagedCursor) (row : Nat) (dest : List Value) :
    (r.serve row dest).more ≠ .ok false := by
  unfold serve
  split
  · exact fun h => nomatch h
  next cells _ =>
    dsimp only
    unfold Cells.place
    split
    · dsimp only
      cases (Cells.fill .paged (r.columns.map (·.declared)) 0 cells dest).1 with
      | error e => exact fun h => nomatch h
      | ok u => exact fun h => nomatch h
    · exact fun h => nomatch h

/-- Getting hold of a partition asks for it, unless it is held already. -/
theorem asked_holding (r : PagedCursor) (partition : Nat) (c : Conversation) :
    ∃ n, (n ≠ 0 → partition ≠ r.partition) ∧
      (r.holding partition c).2.asked = c.asked ++ List.replicate n (r.request partition) := by
  by_cases hsame : partition = r.partition
  · refine ⟨0, fun h => absurd rfl h, ?_⟩
    unfold holding
    rw [if_pos hsame, List.replicate_zero, List.append_nil]
    rfl
  · obtain ⟨n, hn⟩ := r.runner.repeats_await r.token r.statementId (partNumber partition) c
    refine ⟨n, fun _ => hsame, ?_⟩
    rw [← show _ = c.asked ++ List.replicate n (r.request partition) from hn]
    unfold holding
    rw [if_neg hsame]
    simp only [bind, Talk.bind]
    cases r.runner.await r.token r.statementId (partNumber partition) c with
    | mk result c' => cases result <;> rfl

/-- A fetch that fails leaves the cursor where it is. -/
theorem next_of_failed (hopen : r.closed = false) (dest : List Value) {c c' : Conversation}
    {e : Error} (hlocate : locate r.partitions r.position 0 = some (row, partition))
    (hother : partition ≠ r.partition)
    (hawait : r.runner.await r.token r.statementId (partNumber partition) c = (.error e, c')) :
    r.next dest c = (⟨.error e, dest, r⟩, c') := by
  unfold next holding
  rw [if_neg (by simp [hopen]), hlocate]
  simp only [if_neg hother, bind, Talk.bind, hawait]

/-- An attempt finds the end, or fails to get hold of the partition that is next, or passes a
row. -/
theorem next_cases (hopen : r.closed = false) (dest : List Value) (c : Conversation) :
    (locate r.partitions r.position 0 = none ∧ r.next dest c = (⟨.ok false, dest, r⟩, c)) ∨
      ∃ row partition, locate r.partitions r.position 0 = some (row, partition) ∧
        ((∃ e, (r.holding partition c).1 = .error e ∧
            r.next dest c = (⟨.error e, dest, r⟩, (r.holding partition c).2)) ∨
          ∃ held, (r.holding partition c).1 = .ok { r with held, partition } ∧
            r.next dest c =
              ({ r with held, partition }.serve row dest, (r.holding partition c).2)) := by
  cases hlocate : locate r.partitions r.position 0 with
  | none => exact .inl ⟨rfl, next_of_none hopen dest c hlocate⟩
  | some place =>
      obtain ⟨row, partition⟩ := place
      refine .inr ⟨row, partition, rfl, ?_⟩
      unfold next
      rw [if_neg (by simp [hopen]), hlocate]
      dsimp only
      cases hheld : r.holding partition c with
      | mk result c' =>
          cases result with
          | error e => exact .inl ⟨e, rfl, rfl⟩
          | ok r' =>
              obtain ⟨held, rfl⟩ := of_holding_eq_ok hheld
              exact .inr ⟨held, rfl, rfl⟩

/-! ## Many attempts -/

/-- An attempt to fetch a row: into which destination, and what the peers are up to. -/
structure Attempt where
  dest : List Value
  conversation : Conversation

/-- The cursor after an attempt. -/
def attempt (r : PagedCursor) (a : Attempt) : PagedCursor := (r.next a.dest a.conversation).1.cursor

/-- The cursor after attempts. -/
def after (r : PagedCursor) (attempts : List Attempt) : PagedCursor := attempts.foldl attempt r

/-- The rows that are passed by attempts, each by its partition and its place in there. -/
def passed (r : PagedCursor) : List Attempt → List (Nat × Nat)
  | [] => []
  | a :: attempts =>
    (if (r.attempt a).position = r.position then []
      else ((locate r.partitions r.position 0).map Prod.swap).toList) ++
    (r.attempt a).passed attempts

/-- The questions that are asked by attempts. -/
def asked (r : PagedCursor) : List Attempt → List Question
  | [] => []
  | a :: attempts =>
    (r.next a.dest a.conversation).2.asked.drop a.conversation.asked.length ++
    (r.attempt a).asked attempts

/-- What an attempt comes to: it asks nothing and changes nothing at the end, it asks for a later
partition and changes nothing, or it passes a row, after having asked for its partition if that was
not held. -/
theorem attempt_cases (hr : r.Ahead) (a : Attempt) :
    (locate r.partitions r.position 0 = none ∧ r.attempt a = r ∧
        ∀ attempts, r.asked (a :: attempts) = r.asked attempts) ∨
      ∃ row partition n, locate r.partitions r.position 0 = some (row, partition) ∧
        (n ≠ 0 → r.partition < partition) ∧
        (∀ attempts, r.asked (a :: attempts) =
          List.replicate n (r.request partition) ++ (r.attempt a).asked attempts) ∧
        (r.attempt a = r ∨
          ∃ held, r.attempt a = { r with held, partition, position := r.position + 1 }) := by
  obtain ⟨dest, c⟩ := a
  rcases next_cases hr.opened dest c with ⟨hlocate, hnext⟩ | ⟨row, partition, hlocate, hnext⟩
  · refine .inl ⟨hlocate, ?_, fun attempts => ?_⟩
    · unfold attempt
      rw [hnext]
    · rw [asked]
      unfold attempt
      rw [hnext, List.drop_length]
      rfl
  · obtain ⟨n, hheld, hasked⟩ := r.asked_holding partition c
    refine .inr ⟨row, partition, n, hlocate, ?_, fun attempts => ?_, ?_⟩
    · intro hn
      exact Nat.lt_of_le_of_ne (hr.held_le _ _ hlocate) (hheld hn).symm
    · have hsnd : (r.next dest c).2 = (r.holding partition c).2 := by
        rcases hnext with ⟨e, -, hnext⟩ | ⟨held, -, hnext⟩
        · rw [hnext]
        · rw [hnext]
      rw [asked, hsnd, hasked, List.drop_left]
    · unfold attempt
      rcases hnext with ⟨e, -, hnext⟩ | ⟨held, -, hnext⟩
      · exact .inl (by rw [hnext])
      · exact .inr ⟨held, by rw [hnext, serve_keeps]⟩

theorem Ahead.attempt (hr : r.Ahead) (a : Attempt) : (r.attempt a).Ahead := by
  rcases attempt_cases hr a with ⟨-, hsame, -⟩ | ⟨row, partition, n, hlocate, -, -, hmove⟩
  · rwa [hsame]
  · rcases hmove with hsame | ⟨held, hmove⟩
    · rwa [hsame]
    · rw [hmove]
      exact ⟨hr.opened, fun row' partition' h =>
        partition_le_of_locate (Nat.le_succ r.position) hlocate h⟩

theorem Ahead.after (hr : r.Ahead) (attempts : List Attempt) : (r.after attempts).Ahead := by
  induction attempts generalizing r with
  | nil => exact hr
  | cons a attempts ih => exact ih (hr.attempt a)

theorem ahead_ofResult (x : Runner) (id : CancelId) (first : ResultSet) (hints : Bool) :
    (ofResult x id first hints).Ahead :=
  ⟨rfl, fun _ _ _ => Nat.zero_le _⟩

/-- An attempt leaves alone what the cursor reads from and whom it asks. -/
theorem attempt_keeps (hr : r.Ahead) (a : Attempt) :
    ∃ held partition position, r.attempt a = { r with held, partition, position } := by
  rcases attempt_cases hr a with ⟨-, hsame, -⟩ | ⟨row, partition, n, -, -, -, hsame | ⟨held, hmove⟩⟩
  · exact ⟨r.held, r.partition, r.position, hsame⟩
  · exact ⟨r.held, r.partition, r.position, hsame⟩
  · exact ⟨held, partition, r.position + 1, hmove⟩

theorem after_keeps (hr : r.Ahead) (attempts : List Attempt) :
    ∃ held partition position, r.after attempts = { r with held, partition, position } := by
  induction attempts generalizing r with
  | nil => exact ⟨r.held, r.partition, r.position, rfl⟩
  | cons a attempts ih =>
      obtain ⟨held, partition, position, hafter⟩ := ih (hr.attempt a)
      obtain ⟨held', partition', position', hattempt⟩ := attempt_keeps hr a
      refine ⟨held, partition, position, ?_⟩
      show (r.attempt a).after attempts = _
      rw [hafter, hattempt]

theorem attempt_partitions (hr : r.Ahead) (a : Attempt) :
    (r.attempt a).partitions = r.partitions := by
  obtain ⟨held, partition, position, hattempt⟩ := attempt_keeps hr a
  rw [hattempt]

theorem attempt_request (hr : r.Ahead) (a : Attempt) : (r.attempt a).request = r.request := by
  obtain ⟨held, partition, position, hattempt⟩ := attempt_keeps hr a
  rw [hattempt]
  rfl

/-- Partitions are asked for in order: behind the one that is held, from that of the next row on. -/
theorem asked_ascending (hr : r.Ahead) (attempts : List Attempt) :
    ∃ ps : List Nat, r.asked attempts = ps.map r.request ∧ ps.Pairwise (· ≤ ·) ∧
      ∀ p ∈ ps, r.partition < p ∧ p < r.partitions.length ∧
        ∀ row q, locate r.partitions r.position 0 = some (row, q) → q ≤ p := by
  induction attempts generalizing r with
  | nil => exact ⟨[], rfl, .nil, fun p hp => (nomatch hp)⟩
  | cons a attempts ih =>
      obtain ⟨ps, hps, hsorted, hbehind⟩ := ih (hr.attempt a)
      rw [attempt_partitions hr a] at hbehind
      rcases attempt_cases hr a with
        ⟨-, hsame, hasked⟩ | ⟨row, partition, n, hlocate, hn, hasked, hmove⟩
      · rw [hsame] at hps hbehind
        exact ⟨ps, by rw [hasked, hps], hsorted, hbehind⟩
      · -- What is asked for later lies behind the partition of this attempt, or is that one again.
        have hlater : ∀ p ∈ ps, r.partition < p ∧ p < r.partitions.length ∧ partition ≤ p := by
          intro p hp
          obtain ⟨hheld, hlength, hnext⟩ := hbehind p hp
          rcases hmove with hsame | ⟨held, hmove⟩
          · rw [hsame] at hheld hnext
            exact ⟨hheld, hlength, hnext row partition hlocate⟩
          · rw [hmove] at hheld
            have := hr.held_le row partition hlocate
            exact ⟨Nat.lt_of_le_of_lt this hheld, hlength, Nat.le_of_lt hheld⟩
        refine ⟨List.replicate n partition ++ ps, ?_, ?_, ?_⟩
        · rw [hasked, hps, List.map_append, List.map_replicate, attempt_request hr a]
        · refine List.pairwise_append.mpr ⟨List.pairwise_replicate.mpr (.inr le_rfl), hsorted, ?_⟩
          intro q hq p hp
          rw [List.eq_of_mem_replicate hq]
          exact (hlater p hp).2.2
        · intro p hp
          have hp' : r.partition < p ∧ p < r.partitions.length ∧ partition ≤ p := by
            rcases List.mem_append.mp hp with hp | hp
            · obtain ⟨hpos, rfl⟩ := List.mem_replicate.mp hp
              exact ⟨hn hpos, lt_length_of_locate hlocate, le_rfl⟩
            · exact hlater p hp
          refine ⟨hp'.1, hp'.2.1, ?_⟩
          intro row' q h
          rw [hlocate] at h
          cases h
          exact hp'.2.2

/-- Behind a position, the rows that attempts pass are found one by one. -/
theorem passed_eq (hr : r.Ahead) (attempts : List Attempt) :
    ∃ n, (r.after attempts).position = r.position + n ∧
      (r.passed attempts).map some =
        (List.range' r.position n).map fun i => (locate r.partitions i 0).map Prod.swap := by
  induction attempts generalizing r with
  | nil => exact ⟨0, rfl, rfl⟩
  | cons a attempts ih =>
      obtain ⟨n, hafter, hpassed⟩ := ih (hr.attempt a)
      rw [attempt_partitions hr a] at hpassed
      have hstays (hsame : r.attempt a = r) :
          ∃ n, (r.after (a :: attempts)).position = r.position + n ∧
            (r.passed (a :: attempts)).map some =
              (List.range' r.position n).map fun i => (locate r.partitions i 0).map Prod.swap := by
        rw [hsame] at hafter hpassed
        refine ⟨n, ?_, ?_⟩
        · rw [← hafter]
          show (List.foldl _ (r.attempt a) _).position = _
          rw [hsame]
          rfl
        · rw [passed, hsame, if_pos rfl, List.nil_append, hpassed]
      rcases attempt_cases hr a with
        ⟨-, hsame, -⟩ | ⟨row, partition, -, hlocate, -, -, hsame | ⟨held, hmove⟩⟩
      · exact hstays hsame
      · exact hstays hsame
      · have hposition : (r.attempt a).position = r.position + 1 := by rw [hmove]
        rw [hposition] at hafter hpassed
        refine ⟨n + 1, ?_, ?_⟩
        · show ((r.attempt a).after attempts).position = _
          omega
        · rw [passed, hposition, if_neg (Nat.succ_ne_self _), hlocate, List.map_append, hpassed,
            List.range'_succ, List.map_cons, hlocate]
          rfl

variable {x : Runner} {id : CancelId} {first : ResultSet} {hints : Bool}

/-- The rows that attempts pass go upwards: within a partition, and from one to a later one. -/
theorem passed_ascending (hr : r.Ahead) (attempts : List Attempt) :
    (r.passed attempts).Pairwise (Prod.Lex (· < ·) (· < ·)) := by
  obtain ⟨n, -, hpassed⟩ := passed_eq hr attempts
  let Below (a b : Option (Nat × Nat)) : Prop :=
    ∀ place ∈ a, ∀ place' ∈ b, Prod.Lex (· < ·) (· < ·) place place'
  have hmap : ((r.passed attempts).map some).Pairwise Below := by
    rw [hpassed, List.pairwise_map]
    refine (List.pairwise_lt_range' 1).imp ?_
    intro i j hlt place hplace place' hplace'
    obtain ⟨⟨row, partition⟩, hi, rfl⟩ := Option.map_eq_some_iff.mp hplace
    obtain ⟨⟨row', partition'⟩, hj, rfl⟩ := Option.map_eq_some_iff.mp hplace'
    exact lex_of_locate hlt hi hj
  exact (List.pairwise_map.mp hmap).imp fun h => h _ rfl _ rfl

/-- What attempts pass are rows that the partitions count. -/
theorem counted_of_mem_passed (hr : r.Ahead) {attempts : List Attempt} {place : Nat × Nat}
    (h : place ∈ r.passed attempts) :
    ∃ count, r.partitions[place.1]? = some count ∧ (place.2 : Int) < count := by
  obtain ⟨n, -, hpassed⟩ := passed_eq hr attempts
  have hmem : some place ∈ (r.passed attempts).map some := List.mem_map_of_mem h
  rw [hpassed] at hmem
  obtain ⟨i, -, hi⟩ := List.mem_map.mp hmem
  obtain ⟨⟨row, partition⟩, hlocate, rfl⟩ := Option.map_eq_some_iff.mp hi
  obtain ⟨partition, count, rfl, hcount, hlt, -⟩ := of_locate_eq_some hlocate
  rw [Nat.zero_add]
  exact ⟨count, hcount, hlt⟩

/-- At every position that attempts have left behind there was a row. -/
theorem exists_of_lt_after (hr : r.Ahead) {attempts : List Attempt} {i : Nat}
    (hfrom : r.position ≤ i) (hlt : i < (r.after attempts).position) :
    locate r.partitions i 0 ≠ none := by
  obtain ⟨n, hafter, hpassed⟩ := passed_eq hr attempts
  have hmem : (locate r.partitions i 0).map Prod.swap ∈ (r.passed attempts).map some := by
    rw [hpassed]
    exact List.mem_map_of_mem (List.mem_range'_1.mpr ⟨hfrom, by omega⟩)
  obtain ⟨place, -, hplace⟩ := List.mem_map.mp hmem
  intro hnone
  rw [hnone] at hplace
  cases hplace

theorem length_passed (hr : r.Ahead) (attempts : List Attempt) :
    (r.after attempts).position = r.position + (r.passed attempts).length := by
  obtain ⟨n, hafter, hpassed⟩ := passed_eq hr attempts
  have hlength := congrArg List.length hpassed
  simp only [List.length_map, List.length_range'] at hlength
  rw [hafter, hlength]

/-- At the end of the rows an attempt changes nothing. -/
theorem after_of_none (hr : r.Ahead) (hlocate : locate r.partitions r.position 0 = none)
    (attempts : List Attempt) : r.after attempts = r := by
  induction attempts with
  | nil => rfl
  | cons a attempts ih =>
      have hsame : r.attempt a = r := by
        unfold attempt
        rw [next_of_none hr.opened a.dest a.conversation hlocate]
      show (r.attempt a).after attempts = r
      rw [hsame, ih]

/-- Whatever the service answers, whatever is cancelled, and however wide the destinations are, a
cursor only moves forward. A fetch that fails leaves it where it is, and every other attempt before
the end passes one row. The rows that are passed are counted by the partitions and go upwards. Only
partitions behind the one that is held are asked for, in order. The end is where the sums of the
counts are never exceeded, and it stays the end. -/
theorem only_moves_forward (x : Runner) (id : CancelId) (first : ResultSet) (hints : Bool)
    (attempts : List Attempt) :
    let counts := first.metadata.partitions
    let r := (ofResult x id first hints).after attempts
    -- One more attempt, before the end and at the end.
    (∀ (dest : List Value) (c : Conversation) (row partition : Nat),
      locate counts r.position 0 = some (row, partition) →
      (r.next dest c).1.more ≠ .ok false ∧
        (partition = r.partition →
          r.next dest c = (r.serve row dest, c) ∧
            (r.serve row dest).cursor = { r with position := r.position + 1 }) ∧
        (partition ≠ r.partition → ∀ c',
          (∀ e, x.await id first.statementId (partNumber partition) c = (.error e, c') →
            r.next dest c = (⟨.error e, dest, r⟩, c')) ∧
          ∀ result : ResultSet,
            x.await id first.statementId (partNumber partition) c = (.ok result, c') →
            r.next dest c = ({ r with held := result.rows, partition }.serve row dest, c') ∧
              (r.next dest c).1.cursor =
                { r with held := result.rows, partition, position := r.position + 1 })) ∧
      (locate counts r.position 0 = none → ∀ later dest c,
        (r.after later).next dest c = (⟨.ok false, dest, r⟩, c)) ∧
      -- The rows that have been passed.
      ((ofResult x id first hints).passed attempts).Pairwise (Prod.Lex (· < ·) (· < ·)) ∧
      (∀ place ∈ (ofResult x id first hints).passed attempts,
        ∃ count, counts[place.1]? = some count ∧ (place.2 : Int) < count) ∧
      r.position = ((ofResult x id first hints).passed attempts).length ∧
      -- The partitions that are asked for from then on.
      (∀ later, ∃ ps : List Nat,
        r.asked later =
            ps.map (fun p => .status first.statementId (partNumber p) x.sessionId) ∧
          ps.Pairwise (· ≤ ·) ∧ ∀ p ∈ ps, r.partition < p ∧ p < counts.length) ∧
      -- Where the end is.
      (locate counts r.position 0 = none ↔ ∀ n, (counts.take n).sum ≤ r.position) ∧
      ∀ i < r.position, ∃ n, (i : Int) < (counts.take n).sum := by
  intro counts r
  have hstart := ahead_ofResult x id first hints
  have hr : r.Ahead := hstart.after attempts
  obtain ⟨held, q, position, hkeeps⟩ := after_keeps hstart attempts
  have hcounts : r.partitions = counts := congrArg partitions hkeeps
  have hawaits (part : Int) :
      r.runner.await r.token r.statementId part = x.await id first.statementId part :=
    congrArg (fun r : PagedCursor => r.runner.await r.token r.statementId part) hkeeps
  have hrequest : r.request =
      fun p => .status first.statementId (partNumber p) x.sessionId := congrArg request hkeeps
  rw [← hcounts]
  refine ⟨?_, ?_, passed_ascending hstart attempts, fun place hplace => ?_, ?_, ?_,
    locate_eq_none_iff, fun i hi => ?_⟩
  · intro dest c row partition hlocate
    refine ⟨?_, ?_, ?_⟩
    · rcases next_cases hr.opened dest c with
        ⟨hnone, -⟩ | ⟨row', q, -, ⟨e, -, hnext⟩ | ⟨held, -, hnext⟩⟩
      · rw [hlocate] at hnone
        cases hnone
      · rw [hnext]
        exact fun h => nomatch h
      · rw [hnext]
        exact more_serve _ row' dest
    · rintro rfl
      exact ⟨next_of_held hr.opened dest c hlocate, serve_keeps r row dest⟩
    · intro hother c'
      rw [← hawaits]
      constructor
      · intro e hawait
        exact next_of_failed hr.opened dest hlocate hother hawait
      · intro result hawait
        have hnext := next_of_other hr.opened dest c hlocate hother hawait
        refine ⟨hnext, ?_⟩
        rw [hnext, serve_keeps]
  · intro hlocate later dest c
    rw [after_of_none hr hlocate]
    exact next_of_none hr.opened dest c hlocate
  · rw [hcounts]
    exact counted_of_mem_passed hstart hplace
  · rw [length_passed hstart]
    exact Nat.zero_add _
  · intro later
    obtain ⟨ps, hps, hsorted, hbehind⟩ := asked_ascending hr later
    exact ⟨ps, by rw [hps, hrequest], hsorted,
      fun p hp => ⟨(hbehind p hp).1, (hbehind p hp).2.1⟩⟩
  · have hsome := exists_of_lt_after hstart (Nat.zero_le i) hi
    rw [ne_eq, locate_eq_none_iff, not_forall] at hsome
    obtain ⟨n, hn⟩ := hsome
    rw [hcounts]
    exact ⟨n, lt_of_not_ge hn⟩

/-- A partition with a negative count puts the next row further down in the one behind it.
The operation is cancelled, so that partition cannot be had, and the cursor stays in front
of the row. -/
theorem stays_before_deferred_row :
    let x : Runner :=
      { service := .direct, keepsContext := false, sessionId := none, pollInterval := 1 }
    let first : ResultSet :=
      { statementId := ⟨List.replicate 32 1, rfl⟩
        sqlState := .named .successfulCompletion
        metadata := { partitions := [1, -2, 4] }
        data := some [[]] }
    let c := (Conversation.withScripts [] []).cancel 0
    let r := (ofResult x 0 first false).after [⟨[], c⟩]
    locate [1, -2, 4] r.position 0 = some (2, 2) ∧
      (ofResult x 0 first false).passed [⟨[], c⟩] = [(0, 0)] ∧
      x.await 0 first.statementId (partNumber 2) c = (.error .cancelled, c) ∧
      r.next [] c = (⟨.error .cancelled, [], r⟩, c) := by
  intro x first c r
  have hlocate : locate [1, -2, 4] r.position 0 = some (2, 2) := by decide
  have hawait : x.await 0 first.statementId (partNumber 2) c = (.error .cancelled, c) := by
    rw [Runner.await_eq]
    rfl
  have hforward := only_moves_forward x 0 first false [⟨[], c⟩]
  obtain ⟨-, -, hfetch⟩ := hforward.1 [] c 2 2 hlocate
  exact ⟨hlocate, by decide, hawait, (hfetch (by decide) c).1 _ hawait⟩

end PagedCursor

end Tributary
