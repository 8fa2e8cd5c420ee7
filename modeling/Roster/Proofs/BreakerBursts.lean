import Roster.Proofs.BreakerRows

/-!
Bursts of failures. As many failures as the policy asks for, all within one window, open a
closed breaker if they are counted in one row. They are not if a row that was going on when
the burst began comes to the end of its window before the burst does; then the burst is
counted in two parts, and neither may be long enough. Nearly twice as many are in any case.
-/

namespace Roster
namespace Watch

/-- The latest outcomes are so many failures within one window, and this is the first of them. -/
structure EndsInBurst (policy : BreakerPolicy) (watch : Watch) (count : Nat) (first : Mark) :
    Prop where
  recorded : (watch.outcomes.take count).length = count
  failed : ∀ mark ∈ watch.outcomes.take count, mark.isFailure = true
  begun : (watch.outcomes.take count).getLast? = some first
  window : watch.now ≤ first.time + policy.rollingWindow

theorem EndsInBurst.split {policy : BreakerPolicy} {watch : Watch} {count : Nat} {first : Mark}
    (ends : watch.EndsInBurst policy count first) :
    ∃ later earlier, watch.outcomes = later ++ first :: earlier ∧ later.length + 1 = count ∧
      ∀ mark ∈ later ++ [first], mark.isFailure = true := by
  obtain ⟨later, burst⟩ := List.getLast?_eq_some_iff.mp ends.begun
  refine ⟨later, watch.outcomes.drop count, ?_, ?_, ?_⟩
  · calc watch.outcomes = watch.outcomes.take count ++ watch.outcomes.drop count :=
        (List.take_append_drop count _).symm
      _ = later ++ first :: watch.outcomes.drop count := by rw [burst, List.append_assoc]; rfl
  · rw [← ends.recorded, burst, List.length_append, List.length_singleton]
  · rw [← burst]
    exact ends.failed

section Rows

variable (policy : BreakerPolicy)

theorem replay_closed_of_append (later earlier : List Mark)
    (closed : (replay policy (later ++ earlier)).phase = .closed) :
    (replay policy earlier).phase = .closed := by
  induction later with
  | nil => exact closed
  | cons mark rest ih => exact ih (replay_closed_back policy mark (rest ++ earlier) closed)

/-- Failures within the window of a row that is going on join it. -/
theorem row_extended (later earlier : List Mark) (started : Nat)
    (closed : (replay policy (later ++ earlier)).phase = .closed)
    (failed : ∀ mark ∈ later, mark.isFailure = true)
    (start : (replay policy earlier).windowStart = some started)
    (within : ∀ mark ∈ later, mark.time ≤ started + policy.rollingWindow) :
    (replay policy (later ++ earlier)).windowStart = some started ∧
      (replay policy (later ++ earlier)).failures =
        (replay policy earlier).failures + later.length := by
  induction later with
  | nil => exact ⟨start, rfl⟩
  | cons mark rest ih =>
      have before := replay_closed_back policy mark (rest ++ earlier) closed
      obtain ⟨window, failures⟩ := ih before
        (fun other member => failed other (List.mem_cons_of_mem mark member))
        (fun other member => within other (List.mem_cons_of_mem mark member))
      have going := Breaker.going_on_within _ policy mark.time started window
        (within mark List.mem_cons_self)
      obtain ⟨more, same⟩ := Breaker.next_of_going _ policy mark.time going
      obtain ⟨counted, begun⟩ := replay_failed policy mark (rest ++ earlier)
        (failed mark List.mem_cons_self) before
      rw [List.cons_append, counted, begun, more, same, failures, List.length_cons]
      exact ⟨window, Nat.add_assoc _ _ _⟩

/-- A row that is begun anew counts no failures from before. -/
theorem row_kept_or_anew (later earlier : List Mark)
    (closed : (replay policy (later ++ earlier)).phase = .closed)
    (failed : ∀ mark ∈ later, mark.isFailure = true) :
    (replay policy (later ++ earlier)).windowStart = (replay policy earlier).windowStart ∨
      (replay policy (later ++ earlier)).failures ≤ later.length := by
  induction later with
  | nil => exact Or.inl rfl
  | cons mark rest ih =>
      have before := replay_closed_back policy mark (rest ++ earlier) closed
      have earlierOrFew := ih before
        (fun other member => failed other (List.mem_cons_of_mem mark member))
      obtain ⟨counted, begun⟩ := replay_failed policy mark (rest ++ earlier)
        (failed mark List.mem_cons_self) before
      rw [List.cons_append, counted, begun, List.length_cons]
      cases isOver : (replay policy (rest ++ earlier)).windowIsOver policy mark.time with
      | true =>
          rw [(Breaker.next_of_over _ policy mark.time isOver).1]
          exact Or.inr (Nat.le_add_left 1 rest.length)
      | false =>
          obtain ⟨more, same⟩ := Breaker.next_of_going _ policy mark.time isOver
          rw [more, same]
          exact earlierOrFew.imp_right Nat.succ_le_succ

/-- What a closed breaker counts with a failure that comes after some others. Either they all
are in one row, or that row was over and the first of them is not counted. -/
theorem failures_of_burst (latest : Mark) (rest : List Mark) (first : Mark) (earlier : List Mark)
    (closed : (replay policy (rest ++ first :: earlier)).phase = .closed)
    (failed : ∀ mark ∈ rest ++ [first], mark.isFailure = true)
    (past : ∀ mark ∈ rest, mark.time ≤ latest.time)
    (window : latest.time ≤ first.time + policy.rollingWindow) :
    let counted := (replay policy (rest ++ first :: earlier)).failuresNext policy latest.time
    ((∀ started, (replay policy earlier).windowStart = some started →
        started + policy.rollingWindow < first.time ∨
          latest.time ≤ started + policy.rollingWindow) → rest.length + 2 ≤ counted) ∧
      (∀ started, (replay policy earlier).windowStart = some started →
        first.time ≤ started + policy.rollingWindow →
        started + policy.rollingWindow < latest.time → counted ≤ rest.length + 1) := by
  have closedFirst := replay_closed_of_append policy rest (first :: earlier) closed
  have before := replay_closed_back policy first earlier closedFirst
  obtain ⟨counted, begun⟩ := replay_failed policy first earlier
    (failed first (List.mem_append_right _ (List.mem_singleton_self first))) before
  have failedRest : ∀ mark ∈ rest, mark.isFailure = true :=
    fun mark member => failed mark (List.mem_append_left _ member)
  -- In a row that lasts until the latest failure all of them are counted.
  have lasting : ∀ started, (replay policy (first :: earlier)).windowStart = some started →
      latest.time ≤ started + policy.rollingWindow →
      rest.length + 2 ≤
        (replay policy (rest ++ first :: earlier)).failuresNext policy latest.time := by
    intro started start inside
    obtain ⟨same, failures⟩ := row_extended policy rest (first :: earlier) started closed failedRest
      start (fun mark member => Nat.le_trans (past mark member) inside)
    have going := Breaker.going_on_within _ policy latest.time started same inside
    have some := Breaker.failuresNext_pos (replay policy earlier) policy first.time
    rw [(Breaker.next_of_going _ policy latest.time going).1, failures, counted]
    omega
  constructor
  · intro oneRow
    cases isOver : (replay policy earlier).windowIsOver policy first.time with
    | true =>
        rw [(Breaker.next_of_over _ policy first.time isOver).2] at begun
        exact lasting first.time begun window
    | false =>
        obtain ⟨started, start, inside⟩ := Breaker.window_going_on _ policy first.time isOver
        rw [(Breaker.next_of_going _ policy first.time isOver).2, start] at begun
        refine lasting started begun ?_
        have := oneRow started start
        omega
  · intro started start inside ended
    have going := Breaker.going_on_within _ policy first.time started start inside
    rw [(Breaker.next_of_going _ policy first.time going).2, start] at begun
    cases isOver : (replay policy (rest ++ first :: earlier)).windowIsOver policy latest.time with
    | true =>
        rw [(Breaker.next_of_over _ policy latest.time isOver).1]
        exact Nat.le_add_left 1 rest.length
    | false =>
        rw [(Breaker.next_of_going _ policy latest.time isOver).1]
        rcases row_kept_or_anew policy rest (first :: earlier) closed failedRest with same | few
        · -- The old row cannot be the one that is going on now.
          obtain ⟨current, isCurrent, lasts⟩ := Breaker.window_going_on _ policy latest.time isOver
          obtain rfl := Option.some.inj ((same.trans begun).symm.trans isCurrent)
          omega
        · exact Nat.succ_le_succ few

theorem row_holds_later (later earlier : List Mark) (started : Nat)
    (closed : (replay policy (later ++ earlier)).phase = .closed)
    (start : (replay policy (later ++ earlier)).windowStart = some started)
    (after : ∀ mark ∈ later, started < mark.time) :
    later.length < (replay policy (later ++ earlier)).failures := by
  have row := replay_row policy (later ++ earlier) closed
  apply Nat.lt_of_not_le
  intro few
  obtain ⟨first, last, isStart⟩ := Option.map_eq_some_iff.mp (row.begun.symm.trans start)
  rw [List.take_append_of_le_length few] at last
  have late := after first (List.mem_of_mem_take (List.mem_of_getLast? last))
  omega

/-- A burst in two parts: if the second one is not counted as a whole, then because a row was
given up after the first one had been counted in it, and that row was too short. -/
theorem burst_in_parts (latest : Mark) (recent : List Mark) (pivot : Mark)
    (older earlier : List Mark)
    (closed : (replay policy (recent ++ pivot :: (older ++ earlier))).phase = .closed)
    (failed : ∀ mark ∈ recent ++ pivot :: older, mark.isFailure = true)
    (past : ∀ mark ∈ recent, mark.time ≤ latest.time)
    (window : ∀ mark ∈ pivot :: older, latest.time ≤ mark.time + policy.rollingWindow) :
    recent.length + 2 ≤
        (replay policy (recent ++ pivot :: (older ++ earlier))).failuresNext policy latest.time ∨
      older.length + 2 < policy.failureThreshold := by
  have failedPivot : ∀ mark ∈ recent ++ [pivot], mark.isFailure = true := by
    intro mark member
    refine failed mark ?_
    rcases List.mem_append.mp member with inRecent | isPivot
    · exact List.mem_append_left _ inRecent
    · simp [List.mem_singleton.mp isPivot]
  have counted := (failures_of_burst policy latest recent pivot (older ++ earlier) closed
    failedPivot past (window pivot List.mem_cons_self)).1
  cases start : (replay policy (older ++ earlier)).windowStart with
  | none => exact Or.inl (counted (by simp [start]))
  | some started =>
      by_cases cut : pivot.time ≤ started + policy.rollingWindow ∧
          started + policy.rollingWindow < latest.time
      · obtain ⟨inside, ended⟩ := cut
        right
        have closedPivot := replay_closed_of_append policy recent _ closed
        have closedOlder := replay_closed_back policy pivot (older ++ earlier) closedPivot
        -- The row began before the burst, so it holds all that came before the pivot.
        have held := row_holds_later policy older earlier started closedOlder start (by
          intro mark member
          have := window mark (List.mem_cons_of_mem pivot member)
          omega)
        have going := Breaker.going_on_within _ policy pivot.time started start inside
        have short : ¬ policy.failureThreshold ≤
            (replay policy (older ++ earlier)).failuresNext policy pivot.time := by
          rw [← Breaker.fail_opens_iff _ policy pivot.time closedOlder]
          rw [replay, failed pivot (by simp), if_pos rfl] at closedPivot
          simp [closedPivot]
        rw [(Breaker.next_of_going _ policy pivot.time going).1] at short
        omega
      · refine Or.inl (counted ?_)
        intro other same
        obtain rfl := Option.some.inj (start.symm.trans same)
        omega

end Rows

theorem recorded_move (policy : BreakerPolicy) (before after : Watch)
    (move : Move policy before after) (closed : before.breaker.phase = .closed)
    (recorded : before.outcomes.length < after.outcomes.length) :
    ∃ latest : Mark, after.outcomes = latest :: before.outcomes ∧ latest.time = after.now ∧
      (latest.isFailure = true → after.breaker = before.breaker.fail policy latest.time) := by
  have silent : ∀ deed calls, (before.markOf deed before.breaker).isOutcome = false →
      ¬ before.outcomes.length < (before.record deed before.breaker calls).outcomes.length := by
    intro deed calls silent
    rw [outcomes_silent before deed _ calls (within_of_closed before deed _ closed) silent]
    exact Nat.lt_irrefl _
  cases move with
  | wait duration => exact absurd recorded (Nat.lt_irrefl _)
  | admission after entered =>
      rw [Breaker.enter_closed _ policy _ closed] at entered
      obtain ⟨rfl, _⟩ := Prod.mk.inj entered
      exact absurd recorded (silent _ _ rfl)
  | refusal after entered => simp [Breaker.enter_closed _ policy _ closed] at entered
  | finish call ending pending =>
      refine ⟨_, outcomes_recorded before _ _ _ (within_of_closed before _ _ closed) rfl, rfl, ?_⟩
      intro failure
      have noAnswer : ending.isAnswer = false := by simpa [Mark.isFailure, markOf] using failure
      exact Breaker.conclude_failure _ _ _ _ noAnswer
  | drop call pending =>
      rw [Breaker.release_other before.breaker (by simp [closed])] at recorded
      exact absurd recorded (silent _ _ rfl)
  | timeOut =>
      exact ⟨_, outcomes_recorded before _ _ _ (within_of_closed before _ _ closed) rfl, rfl,
        fun _ => rfl⟩

structure BurstEnd (policy : BreakerPolicy) (before after : Watch) (latest : Mark) : Prop where
  closed : (replay policy before.outcomes).phase = .closed
  outcomes : after.outcomes = latest :: before.outcomes
  now : latest.time = after.now
  ordered : after.outcomes.Pairwise fun later earlier => earlier.time ≤ later.time
  then' : ∀ later mark earlier, before.outcomes = later ++ mark :: earlier →
    mark.before = replay policy earlier
  opens : latest.isFailure = true → (after.breaker.phase = .opened ↔
    policy.failureThreshold ≤ (replay policy before.outcomes).failuresNext policy latest.time)

theorem burstEnd_of_recorded (policy : BreakerPolicy) (acts : List Act) (act : Act)
    (closed : (run policy acts).breaker.phase = .closed)
    (recorded : (run policy acts).outcomes.length < (run policy (acts ++ [act])).outcomes.length) :
    ∃ latest, BurstEnd policy (run policy acts) (run policy (acts ++ [act])) latest := by
  have replayed := run_replayed policy acts closed
  have dated := run_dated policy (acts ++ [act])
  have move := step_move policy (run policy acts) act
  rw [← run_snoc] at move
  obtain ⟨latest, outcomes, now, follows⟩ := recorded_move policy _ _ move closed recorded
  refine ⟨latest, ?_, outcomes, now, dated.ordered.sublist (outcomes_sublist _), replayed.then', ?_⟩
  · rwa [← replayed.now]
  · intro failure
    rw [follows failure, Breaker.fail_opens_iff _ policy _ closed, ← replayed.now]

theorem cut_at {α : Type} (list : List α) (place : Nat) (inside : place < list.length) :
    ∃ front item back, list = front ++ item :: back ∧ front.length = place ∧
      front.length + 1 + back.length = list.length := by
  refine ⟨list.take place, list[place], list.drop (place + 1), ?_, ?_, ?_⟩
  · rw [← List.drop_eq_getElem_cons inside, List.take_append_drop]
  · simp; omega
  · simp; omega

section Bursts

variable (policy : BreakerPolicy) (before after : Watch) (latest first : Mark)

theorem opened_by_one (burst : BurstEnd policy before after latest)
    (failure : latest.isFailure = true)
    (one : policy.failureThreshold ≤ 1) : after.breaker.phase = .opened :=
  (burst.opens failure).mpr (Nat.le_trans one (Breaker.failuresNext_pos _ policy latest.time))

/-- A burst that is just long enough opens the breaker if and only if it is counted in one row. -/
theorem opened_iff_one_row (burst : BurstEnd policy before after latest)
    (ends : after.EndsInBurst policy (max policy.failureThreshold 1) first) :
    after.breaker.phase = .opened ↔
      ∀ started, first.before.windowStart = some started →
        started + policy.rollingWindow < first.time ∨
          after.now ≤ started + policy.rollingWindow := by
  obtain ⟨later, earlier, split, count, failed⟩ := ends.split
  have window := ends.window
  rw [burst.outcomes] at split
  have ordered := burst.ordered
  rw [burst.outcomes] at ordered
  rw [← burst.now] at window ⊢
  cases later with
  | nil =>
      obtain ⟨rfl, _⟩ := List.cons.inj split
      have failure := failed latest (List.mem_singleton_self latest)
      have opened := opened_by_one policy before after latest burst failure
        (by simp at count; omega)
      refine ⟨fun _ started _ => Nat.lt_or_ge _ _, fun _ => opened⟩
  | cons other rest =>
      obtain ⟨rfl, tail⟩ := List.cons.inj split
      have outcomes : before.outcomes = rest ++ first :: earlier := tail
      have failure := failed latest List.mem_cons_self
      have past : ∀ mark ∈ rest, mark.time ≤ latest.time := by
        intro mark member
        refine (List.pairwise_cons.mp ordered).1 mark ?_
        rw [outcomes]
        exact List.mem_append_left _ member
      have closed := burst.closed
      rw [outcomes] at closed
      obtain ⟨enough, few⟩ := failures_of_burst policy latest rest first earlier closed
        (fun mark member => failed mark (List.mem_cons_of_mem latest member)) past window
      rw [List.length_cons] at count
      rw [burst.then' rest first earlier outcomes, burst.opens failure, outcomes]
      constructor
      · intro full started start
        apply Decidable.byContradiction
        intro cut
        have := few started start (by omega) (by omega)
        omega
      · intro oneRow
        have := enough oneRow
        omega

/-- If a row is given up within a burst, what was counted in it of the burst, and what is
counted after it, are both too short. -/
theorem opened_by_long_burst (burst : BurstEnd policy before after latest)
    (ends : after.EndsInBurst policy (max (2 * max policy.failureThreshold 1 - 2) 1) first) :
    after.breaker.phase = .opened := by
  obtain ⟨later, earlier, split, count, failed⟩ := ends.split
  have window := ends.window
  rw [burst.outcomes] at split
  have ordered := burst.ordered
  rw [burst.outcomes, split] at ordered
  rw [← burst.now] at window
  cases later with
  | nil =>
      obtain ⟨rfl, _⟩ := List.cons.inj split
      have failure := failed latest (List.mem_singleton_self latest)
      exact opened_by_one policy before after latest burst failure (by simp at count; omega)
  | cons other rest =>
      obtain ⟨rfl, tail⟩ := List.cons.inj split
      rw [List.length_cons] at count
      -- The burst is cut at the failure with which its latest part is just long enough.
      obtain ⟨recent, pivot, older, parts, half, whole⟩ := cut_at (rest ++ [first])
        (max policy.failureThreshold 1 - 2) (by simp; omega)
      have outcomes : before.outcomes = recent ++ pivot :: (older ++ earlier) := by
        calc before.outcomes = (rest ++ [first]) ++ earlier := by simpa using tail
          _ = recent ++ pivot :: (older ++ earlier) := by simp [parts]
      have sorted : (latest :: (rest ++ [first])).Pairwise
          fun later earlier => earlier.time ≤ later.time :=
        ordered.sublist (by simp)
      obtain ⟨past, restSorted⟩ := List.pairwise_cons.mp sorted
      have since := time_le_of_mem first _ restSorted List.getLast?_concat
      have closed := burst.closed
      rw [outcomes] at closed
      rw [burst.opens (failed latest List.mem_cons_self), outcomes]
      rw [List.length_append, List.length_singleton] at whole
      rw [parts] at past since
      rcases burst_in_parts policy latest recent pivot older earlier closed
          (by
            rw [← parts]
            exact fun mark member => failed mark (List.mem_cons_of_mem latest member))
          (fun mark member => past mark (List.mem_append_left _ member))
          (fun mark member => Nat.le_trans window
            (Nat.add_le_add_right (since mark (List.mem_append_right _ member)) _)) with
        counted | short
      · omega
      · omega

end Bursts

/-- Once a closed breaker has recorded as many failures within one window as its policy asks for,
it is open if and only if no row that was going on at the first of them came to the end of its
window before the last. Nearly twice as many within one window open it in any case. -/
theorem burst_opens_iff_one_row (policy : BreakerPolicy) (acts : List Act) (act : Act)
    (closed : (run policy acts).breaker.phase = .closed)
    (recorded : (run policy acts).outcomes.length < (run policy (acts ++ [act])).outcomes.length) :
    let watch := run policy (acts ++ [act])
    let needed := max policy.failureThreshold 1
    (∀ first, watch.EndsInBurst policy needed first →
      (watch.breaker.phase = .opened ↔
        ∀ started, first.before.windowStart = some started →
          started + policy.rollingWindow < first.time ∨
            watch.now ≤ started + policy.rollingWindow)) ∧
      ∀ first, watch.EndsInBurst policy (max (2 * needed - 2) 1) first →
        watch.breaker.phase = .opened := by
  obtain ⟨latest, burst⟩ := burstEnd_of_recorded policy acts act closed recorded
  exact ⟨fun first => opened_iff_one_row policy _ _ latest first burst,
    fun first => opened_by_long_burst policy _ _ latest first burst⟩

/-- After an answer the next failure begins a row, and the three of it open the breaker. -/
theorem opened_by_one_row :
    let policy : BreakerPolicy := { failureThreshold := 3, rollingWindow := 10 }
    let acts : List Act := [.timeOut, .start, .finish 0 .permanent, .advance 9, .timeOut,
      .advance 2, .timeOut, .advance 8]
    let watch := run policy (acts ++ [.timeOut])
    let first : Mark := ⟨9, .timedOut, {}, { failures := 1, windowStart := some 9 }⟩
    (run policy acts).breaker.phase = .closed ∧
      (run policy acts).outcomes.length < watch.outcomes.length ∧
        watch.EndsInBurst policy 3 first ∧ watch.breaker.phase = .opened := by
  intro policy acts watch first
  have closed : (run policy acts).breaker.phase = .closed := by decide
  have recorded : (run policy acts).outcomes.length < watch.outcomes.length := by decide
  have ends : watch.EndsInBurst policy 3 first := by
    constructor <;> decide
  have opens := (burst_opens_iff_one_row policy acts .timeOut closed recorded).1 first ends
  exact ⟨closed, recorded, ends, opens.mpr (by simp [first])⟩

/-- A row that began at 0 is given up at 11, and with it the failure at 9: the breaker stays
closed after three failures within 3 ms. -/
theorem closed_after_burst :
    let policy : BreakerPolicy := { failureThreshold := 3, rollingWindow := 10 }
    let watch := run policy [.start, .finish 0 .transient, .advance 9, .start,
      .finish 1 .transient, .advance 2, .start, .finish 2 .transient, .advance 1, .start,
      .finish 3 .transient]
    let first : Mark := ⟨9, .ended 1 .transient, { failures := 1, windowStart := some 0 },
      { failures := 2, windowStart := some 0 }⟩
    (∀ mark ∈ watch.history, mark.before.phase = .closed) ∧ watch.EndsInBurst policy 3 first ∧
      watch.now = 12 ∧ watch.breaker.phase = .closed := by
  intro policy watch first
  refine ⟨by decide, ?_, by decide, by decide⟩
  constructor <;> decide

end Watch
end Roster
