import Roster.Proofs.BreakerRows

/-!
The form of a breaker. Its phase says what its counters, its times and the flag can be: a
closed breaker counts fewer failures than open it, an open one has its pause begun at the
latest failure, and a half-open one counts fewer answers than close it. So neither counter
ever has to count beyond its threshold, and an open breaker always knows when to let a call
through again.
-/

namespace Roster

namespace BreakerPolicy

/-- How many failures in a row open a breaker. One is needed even if none is asked for. -/
def failuresToOpen (policy : BreakerPolicy) : Nat := max policy.failureThreshold 1

def answersToClose (policy : BreakerPolicy) : Nat := max policy.successThreshold 1

structure FitsWords (policy : BreakerPolicy) : Prop where
  failures : policy.failureThreshold < UInt32.size
  answers : policy.successThreshold < UInt32.size

end BreakerPolicy

namespace Breaker

structure ClosedForm (policy : BreakerPolicy) (breaker : Breaker) : Prop where
  few : breaker.failures < policy.failuresToOpen
  window : breaker.failures = 0 ↔ breaker.windowStart = none
  unanswered : breaker.successes = 0
  unopened : breaker.openedAt = none
  free : breaker.probing = false

/-- `last` is the time of the latest failure. -/
structure OpenForm (policy : BreakerPolicy) (last : Option Nat) (breaker : Breaker) : Prop where
  full : breaker.failures = policy.failuresToOpen
  unanswered : breaker.successes = 0
  since : ∃ time, last = some time ∧ breaker.openedAt = some time
  free : breaker.probing = false

structure HalfOpenForm (policy : BreakerPolicy) (breaker : Breaker) : Prop where
  full : breaker.failures = policy.failuresToOpen
  few : breaker.successes < policy.answersToClose

structure Regular (policy : BreakerPolicy) (last : Option Nat) (breaker : Breaker) : Prop where
  closed : breaker.phase = .closed → breaker.ClosedForm policy
  opened : breaker.phase = .opened → breaker.OpenForm policy last
  halfOpen : breaker.phase = .halfOpen → breaker.HalfOpenForm policy

section Forms

variable (policy : BreakerPolicy) (last : Option Nat) (breaker : Breaker) (now : Nat)

theorem regular_of_closed (phase : breaker.phase = .closed) (form : breaker.ClosedForm policy) :
    breaker.Regular policy last := by
  constructor
  · exact fun _ => form
  · intro opened
    simp [phase] at opened
  · intro halfOpen
    simp [phase] at halfOpen

theorem regular_of_opened (phase : breaker.phase = .opened)
    (form : breaker.OpenForm policy last) : breaker.Regular policy last := by
  constructor
  · intro closed
    simp [phase] at closed
  · exact fun _ => form
  · intro halfOpen
    simp [phase] at halfOpen

theorem regular_of_halfOpen (phase : breaker.phase = .halfOpen)
    (form : breaker.HalfOpenForm policy) : breaker.Regular policy last := by
  constructor
  · intro closed
    simp [phase] at closed
  · intro opened
    simp [phase] at opened
  · exact fun _ => form

theorem regular_new : ({} : Breaker).Regular policy last := by
  apply regular_of_closed policy last {} rfl
  constructor
  · exact Nat.lt_of_lt_of_le Nat.zero_lt_one (Nat.le_max_right _ _)
  · simp
  · rfl
  · rfl
  · rfl

theorem regular_enter (regular : breaker.Regular policy last) :
    (breaker.enter policy now).1.Regular policy last := by
  cases phase : breaker.phase with
  | closed =>
      rw [enter_closed breaker policy now phase]
      exact regular
  | opened =>
      cases cooled : breaker.hasCooled policy now with
      | false =>
          rw [enter_resting breaker policy now phase cooled]
          exact regular
      | true =>
          rw [enter_cooled breaker policy now phase cooled]
          apply regular_of_halfOpen
          · rfl
          · constructor
            · exact (regular.opened phase).full
            · exact Nat.lt_of_lt_of_le Nat.zero_lt_one (Nat.le_max_right _ _)
  | halfOpen =>
      rw [enter_halfOpen breaker policy now phase]
      apply regular_of_halfOpen
      · exact phase
      · exact ⟨(regular.halfOpen phase).full, (regular.halfOpen phase).few⟩

theorem regular_succeed (regular : breaker.Regular policy last) :
    (breaker.succeed policy).Regular policy last := by
  cases phase : breaker.phase with
  | closed =>
      have form := regular.closed phase
      rw [succeed_closed breaker policy phase]
      apply regular_of_closed
      · exact phase
      · constructor
        · exact Nat.lt_of_le_of_lt (Nat.zero_le _) form.few
        · simp
        · exact form.unanswered
        · exact form.unopened
        · exact form.free
  | opened =>
      rw [succeed_opened breaker policy phase]
      exact regular
  | halfOpen =>
      by_cases enough : policy.successThreshold ≤ breaker.successes + 1
      · rw [succeed_enough breaker policy phase enough]
        exact regular_new policy last
      · have short := Nat.not_le.mp enough
        rw [succeed_short breaker policy phase short]
        apply regular_of_halfOpen
        · exact phase
        · constructor
          · exact (regular.halfOpen phase).full
          · exact Nat.lt_of_lt_of_le short (Nat.le_max_left _ _)

theorem failuresNext_le (form : breaker.ClosedForm policy) :
    breaker.failuresNext policy now ≤ policy.failuresToOpen := by
  have few := form.few
  unfold failuresNext
  split <;> omega

theorem windowNext_begun : breaker.windowNext policy now ≠ none := by
  cases isOver : breaker.windowIsOver policy now with
  | true => simp [(next_of_over breaker policy now isOver).2]
  | false =>
      obtain ⟨started, start, _⟩ := window_going_on breaker policy now isOver
      simp [(next_of_going breaker policy now isOver).2, start]

theorem regular_fail_closed (phase : breaker.phase = .closed)
    (form : breaker.ClosedForm policy) : (breaker.fail policy now).Regular policy (some now) := by
  have most := failuresNext_le policy breaker now form
  have least := failuresNext_pos breaker policy now
  rw [fail_closed breaker policy now phase]
  by_cases full : policy.failureThreshold ≤ breaker.failuresNext policy now
  · rw [if_pos full]
    apply regular_of_opened
    · rfl
    · constructor
      · exact Nat.le_antisymm most (Nat.max_le.mpr ⟨full, least⟩)
      · exact form.unanswered
      · exact ⟨now, rfl, rfl⟩
      · exact form.free
  · rw [if_neg full]
    apply regular_of_closed
    · exact phase
    · constructor
      · exact Nat.lt_of_lt_of_le (Nat.not_le.mp full) (Nat.le_max_left _ _)
      · have begun := windowNext_begun policy breaker now
        constructor
        · intro none
          exact absurd none (Nat.ne_of_gt least)
        · exact fun none => absurd none begun
      · exact form.unanswered
      · exact form.unopened
      · exact form.free

theorem regular_fail (regular : breaker.Regular policy last) :
    (breaker.fail policy now).Regular policy (some now) := by
  cases phase : breaker.phase with
  | closed => exact regular_fail_closed policy breaker now phase (regular.closed phase)
  | opened =>
      have form := regular.opened phase
      rw [fail_opened breaker policy now phase]
      apply regular_of_opened
      · exact phase
      · exact ⟨form.full, form.unanswered, ⟨now, rfl, rfl⟩, form.free⟩
  | halfOpen =>
      rw [fail_halfOpen breaker policy now phase]
      apply regular_of_opened
      · rfl
      · exact ⟨(regular.halfOpen phase).full, rfl, ⟨now, rfl, rfl⟩, rfl⟩

theorem regular_release (regular : breaker.Regular policy last) :
    breaker.release.Regular policy last := by
  by_cases phase : breaker.phase = .halfOpen
  · rw [release_halfOpen breaker phase]
    apply regular_of_halfOpen
    · exact phase
    · exact ⟨(regular.halfOpen phase).full, (regular.halfOpen phase).few⟩
  · rw [release_other breaker phase]
    exact regular

theorem counters_fit (regular : breaker.Regular policy last) (fits : policy.FitsWords) :
    breaker.failures < UInt32.size ∧ breaker.successes < UInt32.size ∧
      (breaker.phase = .closed → breaker.failures + 1 < UInt32.size) ∧
      (breaker.phase = .halfOpen → breaker.successes + 1 < UInt32.size) := by
  have one : 1 < UInt32.size := by decide
  have failures : policy.failuresToOpen < UInt32.size := Nat.max_lt.mpr ⟨fits.failures, one⟩
  have answers : policy.answersToClose < UInt32.size := Nat.max_lt.mpr ⟨fits.answers, one⟩
  cases phase : breaker.phase with
  | closed =>
      have few := (regular.closed phase).few
      have unanswered := (regular.closed phase).unanswered
      simp only [reduceCtorEq, false_implies, true_implies, and_true]
      omega
  | opened =>
      have full := (regular.opened phase).full
      have unanswered := (regular.opened phase).unanswered
      simp only [reduceCtorEq, false_implies, and_true]
      omega
  | halfOpen =>
      have full := (regular.halfOpen phase).full
      have few := (regular.halfOpen phase).few
      simp only [reduceCtorEq, false_implies, true_implies, true_and]
      omega

theorem refuses_iff (time : Nat) (phase : breaker.phase = .opened)
    (form : breaker.OpenForm policy (some time)) :
    (breaker.enter policy now).2 = false ↔ now < time + policy.openDuration := by
  obtain ⟨opened, same, since⟩ := form.since
  cases same
  cases cooled : breaker.hasCooled policy now with
  | false =>
      rw [enter_resting breaker policy now phase cooled]
      simpa [hasCooled, since] using cooled
  | true =>
      rw [enter_cooled breaker policy now phase cooled]
      simpa [hasCooled, since, form.free] using cooled

end Forms

end Breaker

namespace Watch

def lastFailure? (watch : Watch) : Option Nat := (watch.history.find? Mark.isFailure).map Mark.time

def Regular (policy : BreakerPolicy) (watch : Watch) : Prop :=
  watch.breaker.Regular policy watch.lastFailure?

section Moves

variable (policy : BreakerPolicy) (watch : Watch) (deed : Deed) (after : Breaker)
  (calls : List Nat)

theorem lastFailure_failed (failure : (watch.markOf deed after).isFailure = true) :
    (watch.record deed after calls).lastFailure? = some watch.now := by
  simp only [lastFailure?, record, List.find?_cons, failure]
  rfl

theorem lastFailure_other (other : (watch.markOf deed after).isFailure = false) :
    (watch.record deed after calls).lastFailure? = watch.lastFailure? := by
  simp only [lastFailure?, record, List.find?_cons, other]

theorem regular_other (other : (watch.markOf deed after).isFailure = false)
    (kept : after.Regular policy watch.lastFailure?) :
    (watch.record deed after calls).Regular policy := by
  rw [Regular, lastFailure_other watch deed after calls other]
  exact kept

theorem regular_failed (regular : watch.Regular policy)
    (failure : (watch.markOf deed (watch.breaker.fail policy watch.now)).isFailure = true) :
    (watch.record deed (watch.breaker.fail policy watch.now) calls).Regular policy := by
  rw [Regular, lastFailure_failed watch deed _ calls failure]
  exact Breaker.regular_fail policy watch.lastFailure? watch.breaker watch.now regular

theorem regular_move (before next : Watch) (move : Move policy before next)
    (regular : before.Regular policy) : next.Regular policy := by
  have entering := Breaker.regular_enter policy _ before.breaker before.now regular
  cases move with
  | wait duration => exact regular
  | admission after entered =>
      rw [entered] at entering
      exact regular_other policy before _ after _ rfl entering
  | refusal after entered =>
      rw [entered] at entering
      exact regular_other policy before _ after _ rfl entering
  | finish call ending pending =>
      cases answer : ending.isAnswer with
      | true =>
          rw [Breaker.conclude_answer _ _ _ _ answer]
          apply regular_other
          · simp [Mark.isFailure, markOf, answer]
          · exact Breaker.regular_succeed policy _ before.breaker regular
      | false =>
          rw [Breaker.conclude_failure _ _ _ _ answer]
          apply regular_failed
          · exact regular
          · simp [Mark.isFailure, markOf, answer]
  | drop call pending =>
      apply regular_other
      · rfl
      · exact Breaker.regular_release policy _ before.breaker regular
  | timeOut => exact regular_failed policy before _ _ regular rfl

theorem run_regular (acts : List Act) : (run policy acts).Regular policy :=
  run_invariant policy (Regular policy) (Breaker.regular_new policy none) (regular_move policy) acts

end Moves

/-- A breaker always has the form of its phase. Hence its counters, if their thresholds fit
into words of 32 bits, always have room for the next count; and an open breaker, which has
recorded a failure, refuses a call exactly if its pause since the latest one is not over. -/
theorem breaker_keeps_form (policy : BreakerPolicy) (acts : List Act) :
    let watch := run policy acts
    watch.breaker.Regular policy watch.lastFailure? ∧
      (policy.FitsWords →
        watch.breaker.failures < UInt32.size ∧ watch.breaker.successes < UInt32.size ∧
          (watch.breaker.phase = .closed → watch.breaker.failures + 1 < UInt32.size) ∧
          (watch.breaker.phase = .halfOpen → watch.breaker.successes + 1 < UInt32.size)) ∧
      (watch.breaker.phase = .opened →
        ∃ time, watch.lastFailure? = some time ∧
          (watch.isAdmitting policy = false ↔ watch.now < time + policy.openDuration)) := by
  intro watch
  have regular : watch.breaker.Regular policy watch.lastFailure? := run_regular policy acts
  constructor
  · exact regular
  · constructor
    · exact Breaker.counters_fit policy _ watch.breaker regular
    · intro phase
      have form := regular.opened phase
      obtain ⟨time, last, _⟩ := form.since
      rw [last] at form
      exact ⟨time, last, Breaker.refuses_iff policy watch.breaker watch.now time phase form⟩

/-- The second failure finds the breaker open and begins its pause anew, so that it refuses
for one more moment; the counters are as far from their ends as the greatest thresholds allow. -/
theorem refusing_since_second_failure :
    let policy : BreakerPolicy :=
      { failureThreshold := 0, openDuration := 10, successThreshold := UInt32.size - 1 }
    let acts : List Act := [.timeOut, .advance 4, .timeOut, .advance 9]
    let watch := run policy acts
    watch.breaker.phase = .opened ∧ watch.breaker.failures < UInt32.size ∧
      watch.isAdmitting policy = false := by
  intro policy acts watch
  have opened : watch.breaker.phase = .opened := by decide
  have fits : policy.FitsWords := ⟨by decide, by decide⟩
  obtain ⟨_, counters, refusing⟩ := breaker_keeps_form policy acts
  obtain ⟨time, last, iff⟩ := refusing opened
  have second : time = 4 := by
    have found : watch.lastFailure? = some 4 := by decide
    exact Option.some.inj (last.symm.trans found)
  subst second
  exact ⟨opened, (counters fits).1, iff.mpr (by decide)⟩

end Watch
end Roster
