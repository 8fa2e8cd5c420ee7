import Roster.Proofs.BreakerTrials

/-!
Rows of failures. A closed breaker is what the outcomes since it last closed have made of
a new one, whatever else was done to it meanwhile. So what it counts can be read off those
outcomes: the latest of them, all failures, from the one on that began the row. A row that
is long enough opens the breaker, and nothing else does. But a row is given up as a whole
when its window is over, and then failures no longer count that are recent still.
-/

namespace Roster

namespace Breaker

variable (breaker : Breaker) (policy : BreakerPolicy) (now : Nat)

theorem enter_closed_back (after : Breaker) (admitted : Bool)
    (entered : breaker.enter policy now = (after, admitted)) (closed : after.phase = .closed) :
    breaker.phase = .closed ∧ after = breaker := by
  cases phase : breaker.phase with
  | closed =>
      rw [enter_closed breaker policy now phase] at entered
      exact ⟨rfl, (congrArg Prod.fst entered).symm⟩
  | opened =>
      cases cooled : breaker.hasCooled policy now with
      | false =>
          rw [enter_resting breaker policy now phase cooled] at entered
          obtain ⟨rfl, _⟩ := Prod.mk.inj entered
          simp [phase] at closed
      | true =>
          rw [enter_cooled breaker policy now phase cooled] at entered
          obtain ⟨rfl, _⟩ := Prod.mk.inj entered
          cases closed
  | halfOpen =>
      rw [enter_halfOpen breaker policy now phase] at entered
      obtain ⟨rfl, _⟩ := Prod.mk.inj entered
      simp [phase] at closed

/-- A failure leaves only a closed breaker closed. -/
theorem fail_closed_back (closed : (breaker.fail policy now).phase = .closed) :
    breaker.phase = .closed := by
  cases phase : breaker.phase with
  | closed => rfl
  | opened => simp [fail_opened breaker policy now phase, phase] at closed
  | halfOpen => simp [fail_halfOpen breaker policy now phase] at closed

theorem fail_opens_iff (closed : breaker.phase = .closed) :
    (breaker.fail policy now).phase = .opened ↔
      policy.failureThreshold ≤ breaker.failuresNext policy now := by
  rw [fail_closed breaker policy now closed]
  by_cases full : policy.failureThreshold ≤ breaker.failuresNext policy now
  · simp [full]
  · simp [full, closed]

theorem going_on_within (started : Nat) (start : breaker.windowStart = some started)
    (within : now ≤ started + policy.rollingWindow) :
    breaker.windowIsOver policy now = false := by
  simp only [windowIsOver, start, Option.all_some, decide_eq_false_iff_not]
  omega

/-- A window that is not over has begun, and no longer ago than it lasts. -/
theorem window_going_on (going : breaker.windowIsOver policy now = false) :
    ∃ started, breaker.windowStart = some started ∧ now ≤ started + policy.rollingWindow := by
  cases start : breaker.windowStart with
  | none => simp [windowIsOver, start] at going
  | some started =>
      refine ⟨started, rfl, ?_⟩
      simpa [windowIsOver, start] using going

theorem next_of_over (isOver : breaker.windowIsOver policy now = true) :
    breaker.failuresNext policy now = 1 ∧ breaker.windowNext policy now = some now := by
  simp [failuresNext, windowNext, isOver]

theorem next_of_going (going : breaker.windowIsOver policy now = false) :
    breaker.failuresNext policy now = breaker.failures + 1 ∧
      breaker.windowNext policy now = breaker.windowStart := by
  simp [failuresNext, windowNext, going]

theorem failuresNext_pos : 1 ≤ breaker.failuresNext policy now := by
  unfold failuresNext
  split <;> omega

end Breaker

namespace Watch

namespace Mark

def isOutcome (mark : Mark) : Bool :=
  match mark.deed with
  | .ended .. | .timedOut => true
  | _ => false

def isFailure (mark : Mark) : Bool :=
  match mark.deed with
  | .ended _ ending => !ending.isAnswer
  | .timedOut => true
  | _ => false

def closes (mark : Mark) : Bool := mark.before.phase != .closed && mark.after.phase == .closed

theorem isOutcome_of_isFailure (mark : Mark) (failure : mark.isFailure = true) :
    mark.isOutcome = true := by
  cases deed : mark.deed <;> simp_all [isFailure, isOutcome]

end Mark

def sinceClosing : List Mark → List Mark
  | [] => []
  | mark :: earlier => if mark.closes then [] else mark :: sinceClosing earlier

/-- The outcomes recorded since the breaker last closed, the latest first. -/
def outcomes (watch : Watch) : List Mark := (sinceClosing watch.history).filter Mark.isOutcome

/-- What outcomes, given with the latest first, make of a new breaker. -/
def replay (policy : BreakerPolicy) : List Mark → Breaker
  | [] => {}
  | mark :: earlier =>
    if mark.isFailure then (replay policy earlier).fail policy mark.time
    else (replay policy earlier).succeed policy

/-! ### A closed breaker is the replay of its outcomes -/

section Records

variable (watch : Watch) (deed : Deed) (after : Breaker) (calls : List Nat)

theorem outcomes_closing (closes : (watch.markOf deed after).closes = true) :
    (watch.record deed after calls).outcomes = [] := by
  simp [outcomes, record, sinceClosing, closes]

theorem outcomes_recorded (within : (watch.markOf deed after).closes = false)
    (outcome : (watch.markOf deed after).isOutcome = true) :
    (watch.record deed after calls).outcomes = watch.markOf deed after :: watch.outcomes := by
  simp [outcomes, record, sinceClosing, within, outcome]

theorem outcomes_silent (within : (watch.markOf deed after).closes = false)
    (silent : (watch.markOf deed after).isOutcome = false) :
    (watch.record deed after calls).outcomes = watch.outcomes := by
  simp [outcomes, record, sinceClosing, within, silent]

theorem within_of_closed (closed : watch.breaker.phase = .closed) :
    (watch.markOf deed after).closes = false := by
  simp [Mark.closes, markOf, closed]

end Records

/-- The history of a closed breaker since it closed tells its state, now and at every outcome. -/
structure Replayed (policy : BreakerPolicy) (watch : Watch) : Prop where
  now : watch.breaker = replay policy watch.outcomes
  then' : ∀ later mark earlier, watch.outcomes = later ++ mark :: earlier →
    mark.before = replay policy earlier

theorem replayed_silent (policy : BreakerPolicy) (watch : Watch) (deed : Deed) (calls : List Nat)
    (closed : watch.breaker.phase = .closed) (replayed : watch.Replayed policy)
    (silent : (watch.markOf deed watch.breaker).isOutcome = false) :
    (watch.record deed watch.breaker calls).Replayed policy := by
  have same := outcomes_silent watch deed watch.breaker calls
    (within_of_closed watch deed _ closed) silent
  constructor
  · rw [same]
    exact replayed.now
  · rw [same]
    exact replayed.then'

theorem replayed_outcome (policy : BreakerPolicy) (watch : Watch) (deed : Deed) (after : Breaker)
    (calls : List Nat) (closed : watch.breaker.phase = .closed) (replayed : watch.Replayed policy)
    (outcome : (watch.markOf deed after).isOutcome = true)
    (follows : after = if (watch.markOf deed after).isFailure
      then watch.breaker.fail policy watch.now else watch.breaker.succeed policy) :
    (watch.record deed after calls).Replayed policy := by
  have next := outcomes_recorded watch deed after calls
    (within_of_closed watch deed after closed) outcome
  constructor
  · rw [next, record_breaker, replay, ← replayed.now]
    exact follows
  · intro later mark earlier split
    rw [next] at split
    rcases List.append_eq_cons_iff.mp split.symm with ⟨_, first⟩ | ⟨rest, _, old⟩
    · obtain ⟨rfl, rfl⟩ := List.cons.inj first
      exact replayed.now
    · exact replayed.then' rest mark earlier old

theorem replayed_failure (policy : BreakerPolicy) (watch : Watch) (deed : Deed) (calls : List Nat)
    (replayed : watch.breaker.phase = .closed → watch.Replayed policy)
    (failure : (watch.markOf deed (watch.breaker.fail policy watch.now)).isFailure = true)
    (closed : (watch.breaker.fail policy watch.now).phase = .closed) :
    (watch.record deed (watch.breaker.fail policy watch.now) calls).Replayed policy := by
  have before := Breaker.fail_closed_back watch.breaker policy watch.now closed
  refine replayed_outcome policy watch deed _ calls before (replayed before)
    (Mark.isOutcome_of_isFailure _ failure) ?_
  rw [failure, if_pos rfl]

theorem replayed_answer (policy : BreakerPolicy) (watch : Watch) (call : Nat) (ending : Ending)
    (calls : List Nat) (replayed : watch.breaker.phase = .closed → watch.Replayed policy)
    (answer : ending.isAnswer = true) (closed : (watch.breaker.succeed policy).phase = .closed) :
    (watch.record (.ended call ending) (watch.breaker.succeed policy) calls).Replayed policy := by
  cases phase : watch.breaker.phase with
  | closed =>
      refine replayed_outcome policy watch _ _ calls phase (replayed phase) rfl ?_
      simp [Mark.isFailure, markOf, answer]
  | opened => simp [Breaker.succeed_opened _ policy phase, phase] at closed
  | halfOpen =>
      -- Half open and closed afterwards: this answer closed it, and there are no outcomes yet.
      have enough : policy.successThreshold ≤ watch.breaker.successes + 1 := by
        apply Decidable.byContradiction
        intro short
        simp [Breaker.succeed_short _ policy phase (Nat.not_le.mp short), phase] at closed
      have closes : (watch.markOf (.ended call ending) (watch.breaker.succeed policy)).closes =
          true := by
        simp [Mark.closes, markOf, phase, closed]
      have none := outcomes_closing watch (.ended call ending) _ calls closes
      constructor
      · rw [none, record_breaker, Breaker.succeed_enough _ policy phase enough]
        rfl
      · intro later mark earlier split
        simp [none] at split

theorem replayed_move (policy : BreakerPolicy) (before after : Watch)
    (move : Move policy before after)
    (replayed : before.breaker.phase = .closed → before.Replayed policy)
    (closed : after.breaker.phase = .closed) : after.Replayed policy := by
  cases move with
  | wait duration => exact ⟨(replayed closed).now, (replayed closed).then'⟩
  | admission after entered =>
      obtain ⟨phase, same⟩ := Breaker.enter_closed_back _ policy _ after _ entered closed
      subst same
      exact replayed_silent policy before _ _ phase (replayed phase) rfl
  | refusal after entered =>
      obtain ⟨phase, same⟩ := Breaker.enter_closed_back _ policy _ after _ entered closed
      subst same
      exact replayed_silent policy before _ _ phase (replayed phase) rfl
  | finish call ending pending =>
      cases answer : ending.isAnswer with
      | true =>
          rw [Breaker.conclude_answer _ _ _ _ answer] at closed ⊢
          exact replayed_answer policy before call ending _ replayed answer closed
      | false =>
          rw [Breaker.conclude_failure _ _ _ _ answer] at closed ⊢
          exact replayed_failure policy before _ _ replayed
            (by simp [Mark.isFailure, markOf, answer]) closed
  | drop call pending =>
      have phase : before.breaker.phase = .closed := by simpa using closed
      rw [Breaker.release_other before.breaker (by simp [phase])]
      exact replayed_silent policy before _ _ phase (replayed phase) rfl
  | timeOut => exact replayed_failure policy before _ _ replayed rfl closed

theorem run_replayed (policy : BreakerPolicy) (acts : List Act)
    (closed : (run policy acts).breaker.phase = .closed) : (run policy acts).Replayed policy := by
  refine run_invariant policy
    (fun watch => watch.breaker.phase = .closed → watch.Replayed policy) ?_ ?_ acts closed
  · exact fun _ => ⟨rfl, by simp [outcomes, sinceClosing]⟩
  · exact fun before after move replayed => replayed_move policy before after move replayed

/-! ### The times of the marks -/

structure Dated (watch : Watch) : Prop where
  ordered : watch.history.Pairwise fun later earlier => earlier.time ≤ later.time
  past : ∀ mark ∈ watch.history, mark.time ≤ watch.now

theorem dated_record (watch : Watch) (deed : Deed) (after : Breaker) (calls : List Nat)
    (dated : watch.Dated) : (watch.record deed after calls).Dated := by
  constructor
  · exact List.pairwise_cons.mpr ⟨dated.past, dated.ordered⟩
  · intro mark member
    rcases List.mem_cons.mp member with same | old
    · subst same
      exact Nat.le_refl _
    · exact dated.past mark old

theorem dated_move (policy : BreakerPolicy) (before after : Watch)
    (move : Move policy before after) (dated : before.Dated) : after.Dated := by
  cases move with
  | wait duration =>
      exact ⟨dated.ordered, fun mark member => Nat.le_add_right_of_le (dated.past mark member)⟩
  | admission after entered => exact dated_record before _ _ _ dated
  | refusal after entered => exact dated_record before _ _ _ dated
  | finish call ending pending => exact dated_record before _ _ _ dated
  | drop call pending => exact dated_record before _ _ _ dated
  | timeOut => exact dated_record before _ _ _ dated

theorem run_dated (policy : BreakerPolicy) (acts : List Act) : (run policy acts).Dated :=
  run_invariant policy Dated ⟨List.Pairwise.nil, by simp⟩ (dated_move policy) acts

theorem sinceClosing_sublist (marks : List Mark) : (sinceClosing marks).Sublist marks := by
  induction marks with
  | nil => exact List.Sublist.refl _
  | cons mark earlier ih =>
      by_cases closes : mark.closes = true
      · simp [sinceClosing, closes]
      · simpa [sinceClosing, closes] using ih

theorem outcomes_sublist (watch : Watch) : watch.outcomes.Sublist watch.history :=
  List.filter_sublist.trans (sinceClosing_sublist watch.history)

/-! ### What a closed breaker counts -/

section Rows

variable (policy : BreakerPolicy)

theorem replay_not_halfOpen (marks : List Mark) : (replay policy marks).phase ≠ .halfOpen := by
  induction marks with
  | nil => simp [replay]
  | cons mark earlier ih =>
      rw [replay]
      split
      · exact Breaker.fail_not_halfOpen _ policy mark.time
      · exact fun halfOpen => ih (Breaker.succeed_halfOpen_back _ policy halfOpen)

theorem replay_closed_back (mark : Mark) (earlier : List Mark)
    (closed : (replay policy (mark :: earlier)).phase = .closed) :
    (replay policy earlier).phase = .closed := by
  cases phase : (replay policy earlier).phase with
  | closed => rfl
  | halfOpen => exact absurd phase (replay_not_halfOpen policy earlier)
  | opened =>
      rw [replay] at closed
      split at closed
      · simp [Breaker.fail_opened _ policy mark.time phase, phase] at closed
      · simp [Breaker.succeed_opened _ policy phase, phase] at closed

theorem replay_failed (mark : Mark) (earlier : List Mark) (failure : mark.isFailure = true)
    (closed : (replay policy earlier).phase = .closed) :
    (replay policy (mark :: earlier)).failures =
        (replay policy earlier).failuresNext policy mark.time ∧
      (replay policy (mark :: earlier)).windowStart =
        (replay policy earlier).windowNext policy mark.time := by
  rw [replay, failure, if_pos rfl, Breaker.fail_closed _ policy mark.time closed]
  split <;> exact ⟨rfl, rfl⟩

/-- The failures that count are the latest outcomes, and the window began with the first of them. -/
structure Row (marks : List Mark) (breaker : Breaker) : Prop where
  recorded : breaker.failures ≤ marks.length
  failed : ∀ mark ∈ marks.take breaker.failures, mark.isFailure = true
  begun : breaker.windowStart = (marks.take breaker.failures).getLast?.map Mark.time

theorem row_failed (mark : Mark) (earlier : List Mark) (failure : mark.isFailure = true)
    (closed : (replay policy earlier).phase = .closed) (row : Row earlier (replay policy earlier)) :
    Row (mark :: earlier) (replay policy (mark :: earlier)) := by
  obtain ⟨failures, window⟩ := replay_failed policy mark earlier failure closed
  cases isOver : (replay policy earlier).windowIsOver policy mark.time with
  | true =>
      obtain ⟨one, now⟩ := Breaker.next_of_over _ policy mark.time isOver
      rw [one] at failures
      rw [now] at window
      constructor <;> simp [failures, window, failure]
  | false =>
      obtain ⟨more, same⟩ := Breaker.next_of_going _ policy mark.time isOver
      rw [more] at failures
      rw [same] at window
      obtain ⟨started, start, _⟩ := Breaker.window_going_on _ policy mark.time isOver
      have begun := row.begun
      constructor
      · simpa [failures] using row.recorded
      · simpa [failures, failure] using row.failed
      · -- A window is going on, so the row has a first failure already and keeps it.
        rw [failures, window, List.take_succ_cons, begun]
        cases counted : earlier.take (replay policy earlier).failures with
        | nil => simp [start, counted] at begun
        | cons first rest => simp

theorem replay_row (marks : List Mark) (closed : (replay policy marks).phase = .closed) :
    Row marks (replay policy marks) := by
  induction marks with
  | nil => constructor <;> simp [replay]
  | cons mark earlier ih =>
      have before := replay_closed_back policy mark earlier closed
      cases failure : mark.isFailure with
      | true => exact row_failed policy mark earlier failure before (ih before)
      | false =>
          rw [replay, failure, if_neg Bool.false_ne_true, Breaker.succeed_closed _ policy before]
          constructor <;> simp

theorem time_le_of_mem (first : Mark) (marks : List Mark)
    (ordered : marks.Pairwise fun later earlier => earlier.time ≤ later.time)
    (last : marks.getLast? = some first) (mark : Mark) (member : mark ∈ marks) :
    first.time ≤ mark.time := by
  obtain ⟨front, same⟩ := List.getLast?_eq_some_iff.mp last
  subst same
  rcases List.mem_append.mp member with inFront | isFirst
  · exact (List.pairwise_append.mp ordered).2.2 mark inFront first (List.mem_singleton_self first)
  · exact Nat.le_of_eq (congrArg Mark.time (List.mem_singleton.mp isFirst).symm)

/-- All failures that count together with a new one are in one window with it. -/
theorem counted_recent (mark : Mark) (earlier : List Mark) (failure : mark.isFailure = true)
    (closed : (replay policy earlier).phase = .closed)
    (ordered : (mark :: earlier).Pairwise fun later earlier => earlier.time ≤ later.time) :
    let counted := (replay policy earlier).failuresNext policy mark.time
    counted ≤ (mark :: earlier).length ∧
      ∀ other ∈ (mark :: earlier).take counted,
        other.isFailure = true ∧ mark.time ≤ other.time + policy.rollingWindow := by
  have row := replay_row policy earlier closed
  cases isOver : (replay policy earlier).windowIsOver policy mark.time with
  | true => simp [(Breaker.next_of_over _ policy mark.time isOver).1, failure]
  | false =>
      obtain ⟨started, start, recent⟩ := Breaker.window_going_on _ policy mark.time isOver
      simp only [(Breaker.next_of_going _ policy mark.time isOver).1, List.take_succ_cons]
      refine ⟨Nat.succ_le_succ row.recorded, ?_⟩
      intro other member
      rcases List.mem_cons.mp member with same | old
      · subst same
        exact ⟨failure, Nat.le_add_right _ _⟩
      · refine ⟨row.failed other old, ?_⟩
        obtain ⟨first, last, isStart⟩ := Option.map_eq_some_iff.mp (row.begun.symm.trans start)
        have counted := (List.pairwise_cons.mp ordered).2.sublist
          (List.take_sublist (replay policy earlier).failures earlier)
        have since := time_le_of_mem first _ counted last other old
        omega

end Rows

/-- Only a recorded failure opens a closed breaker, and only when enough of them count. -/
theorem opening_move (policy : BreakerPolicy) (before after : Watch)
    (move : Move policy before after) (closed : before.breaker.phase = .closed)
    (opened : after.breaker.phase = .opened) :
    ∃ deed calls, after = before.record deed (before.breaker.fail policy before.now) calls ∧
      (before.markOf deed (before.breaker.fail policy before.now)).isFailure = true ∧
      policy.failureThreshold ≤ before.breaker.failuresNext policy before.now := by
  have full := (Breaker.fail_opens_iff before.breaker policy before.now closed).mp
  cases move with
  | wait duration => simp [advance, closed] at opened
  | admission after entered =>
      rw [Breaker.enter_closed _ policy _ closed] at entered
      obtain ⟨rfl, _⟩ := Prod.mk.inj entered
      simp [closed] at opened
  | refusal after entered => simp [Breaker.enter_closed _ policy _ closed] at entered
  | finish call ending pending =>
      cases answer : ending.isAnswer with
      | true =>
          rw [Breaker.conclude_answer _ _ _ _ answer] at opened
          simp [Breaker.succeed_closed _ policy closed, closed] at opened
      | false =>
          rw [Breaker.conclude_failure _ _ _ _ answer] at opened ⊢
          exact ⟨_, _, rfl, by simp [Mark.isFailure, markOf, answer], full opened⟩
  | drop call pending => simp [closed] at opened
  | timeOut => exact ⟨_, _, rfl, rfl, full opened⟩

/-- A closed breaker opens only on as many failures in a row as its policy asks for: they are
the latest outcomes since it closed, with no answer among or after them, and all of them lie
within one window. -/
theorem opens_on_recent_failures (policy : BreakerPolicy) (acts : List Act) (act : Act)
    (closed : (run policy acts).breaker.phase = .closed)
    (opened : (run policy (acts ++ [act])).breaker.phase = .opened) :
    let watch := run policy (acts ++ [act])
    let latest := watch.outcomes.take (max policy.failureThreshold 1)
    latest.length = max policy.failureThreshold 1 ∧
      ∀ mark ∈ latest, mark.isFailure = true ∧ mark.time ≤ watch.now ∧
        watch.now ≤ mark.time + policy.rollingWindow := by
  have dated := run_dated policy (acts ++ [act])
  have replayed := (run_replayed policy acts closed).now
  rw [run_snoc] at opened dated ⊢
  -- The act that opened it recorded a failure; all it counts with that are recent.
  obtain ⟨deed, calls, same, failure, full⟩ :=
    opening_move policy _ _ (step_move policy _ act) closed opened
  rw [same] at dated ⊢
  generalize run policy acts = before at *
  have within := within_of_closed before deed (before.breaker.fail policy before.now) closed
  have next := outcomes_recorded before deed _ calls within (Mark.isOutcome_of_isFailure _ failure)
  have ordered := dated.ordered.sublist (outcomes_sublist _)
  rw [next] at ordered
  rw [replayed] at closed full
  obtain ⟨recorded, counted⟩ := counted_recent policy _ before.outcomes failure closed ordered
  have enough : max policy.failureThreshold 1 ≤
      (replay policy before.outcomes).failuresNext policy before.now :=
    Nat.max_le.mpr ⟨full, Breaker.failuresNext_pos _ policy before.now⟩
  -- It may count more than the policy asks for, so the latest are among those it counts.
  intro watch latest
  constructor
  · change (List.take _ (before.record deed _ calls).outcomes).length = _
    rw [next, List.length_take]
    exact Nat.min_eq_left (Nat.le_trans enough recorded)
  · intro mark member
    have inTake : mark ∈ (before.markOf deed (before.breaker.fail policy before.now) ::
        before.outcomes).take ((replay policy before.outcomes).failuresNext policy before.now) := by
      rw [← next]
      exact (List.take_sublist_take_left enough).subset member
    obtain ⟨failed, recent⟩ := counted mark inTake
    refine ⟨failed, ?_, recent⟩
    exact dated.past mark ((outcomes_sublist _).subset (List.mem_of_mem_take member))

/-- The first failure is forgotten by then: the two that open the breaker are five apart. -/
theorem opened_by_the_latest_two :
    let policy : BreakerPolicy := { failureThreshold := 2, rollingWindow := 10 }
    let acts : List Act := [.timeOut, .advance 20, .start, .timeOut, .start, .drop 1, .advance 5]
    let watch := run policy (acts ++ [.finish 0 .transient])
    (run policy acts).breaker.phase = .closed ∧ watch.breaker.phase = .opened ∧
      (watch.outcomes.take 2).length = 2 ∧
        ∀ mark ∈ watch.outcomes.take 2, mark.isFailure = true ∧ mark.time ≤ watch.now ∧
          watch.now ≤ mark.time + 10 := by
  intro policy acts watch
  have closed : (run policy acts).breaker.phase = .closed := by decide
  have opened : watch.breaker.phase = .opened := by decide
  exact ⟨closed, opened, opens_on_recent_failures policy acts (.finish 0 .transient) closed opened⟩

end Watch
end Roster
