import Roster.Proofs.BreakerTrials

/-!
The one place of a half-open breaker. Whoever set its flag is still in flight while
the flag is set, whatever the other calls do; so the place comes free at the latest
when that call ends, and a breaker without calls in flight refuses for no longer
than its pause.
-/

namespace Roster
namespace Watch

/-- The flag belongs to a probe in flight, the one whose admission set it. -/
structure SlotHeld (watch : Watch) : Prop where
  tidy : watch.breaker.Tidy
  owner : watch.breaker.probing = true →
    ∃ call ∈ watch.calls, watch.holder? = some call ∧ watch.isProbe call = true

theorem slotHeld_free (watch : Watch) (free : watch.breaker.probing = false) : watch.SlotHeld where
  tidy := by simp [Breaker.Tidy, free]
  owner := by simp [free]

theorem slotHeld_refused (watch : Watch) (held : watch.SlotHeld) :
    (watch.record .refused watch.breaker watch.calls).SlotHeld := by
  have within : (watch.markOf .refused watch.breaker).beginsTrial = false := by
    simp [Mark.beginsTrial, markOf]
  refine ⟨held.tidy, fun set => ?_⟩
  obtain ⟨call, member, holder, probe⟩ := held.owner set
  refine ⟨call, member, ?_, ?_⟩
  · simpa [holder_record, Mark.slotTaker?, markOf] using holder
  · simp [isProbe_within watch _ _ _ within, probe]

theorem slotHeld_taken (watch : Watch) (after : Breaker) (free : watch.breaker.probing = false)
    (halfOpen : after.phase = .halfOpen) (taken : after.probing = true) :
    (watch.record (.admitted watch.admissions) after
      (watch.admissions :: watch.calls)).SlotHeld := by
  refine ⟨fun _ => halfOpen, fun _ => ⟨watch.admissions, List.mem_cons_self, ?_, ?_⟩⟩
  · simp [holder_record, Mark.slotTaker?, markOf, free, taken]
  · exact isProbe_admitted watch after watch.admissions _

theorem slotHeld_move (policy : BreakerPolicy) (before after : Watch)
    (move : Move policy before after) (held : before.SlotHeld) : after.SlotHeld := by
  cases move with
  | wait duration => exact ⟨held.tidy, held.owner⟩
  | admission after entered =>
      rcases Breaker.enter_admitted before.breaker policy before.now after entered with
        ⟨closed, same⟩ | ⟨_, free, same⟩ | ⟨halfOpen, free, same⟩
      · apply slotHeld_free
        subst same
        exact Breaker.tidy_clear before.breaker held.tidy (by simp [closed])
      · exact slotHeld_taken before after free (by simp [same]) (by simp [same])
      · exact slotHeld_taken before after free (by simp [same, halfOpen]) (by simp [same])
  | refusal after entered =>
      have same := Breaker.enter_refused before.breaker policy before.now after held.tidy entered
      subst same
      exact slotHeld_refused before held
  -- However a call ends, it clears the flag, whoever owned it.
  | finish call ending pending =>
      exact slotHeld_free _
        (Breaker.conclude_frees before.breaker policy before.now ending held.tidy)
  | drop call pending => exact slotHeld_free _ (Breaker.release_frees before.breaker held.tidy)
  | timeOut => exact slotHeld_free _ (Breaker.fail_frees before.breaker policy before.now held.tidy)

theorem run_slotHeld (policy : BreakerPolicy) (acts : List Act) : (run policy acts).SlotHeld :=
  run_invariant policy SlotHeld (slotHeld_free {} rfl) (slotHeld_move policy) acts

def Rested (watch : Watch) : Prop :=
  watch.breaker.phase = .opened →
    ∃ opened, watch.breaker.openedAt = some opened ∧ opened ≤ watch.now

theorem rested_failed (policy : BreakerPolicy) (watch : Watch) (deed : Deed) (calls : List Nat) :
    (watch.record deed (watch.breaker.fail policy watch.now) calls).Rested := by
  intro opened
  rw [record_breaker] at opened ⊢
  refine ⟨watch.now, ?_, Nat.le_refl _⟩
  cases phase : watch.breaker.phase with
  | closed =>
      rw [Breaker.fail_closed _ _ _ phase] at opened ⊢
      -- A failure of a closed breaker may leave it closed; then there is nothing to know.
      by_cases full : policy.failureThreshold ≤ watch.breaker.failuresNext policy watch.now
      · simp [full]
      · simp [full, phase] at opened
  | opened => simp [Breaker.fail_opened _ _ _ phase]
  | halfOpen => simp [Breaker.fail_halfOpen _ _ _ phase]

theorem rested_answered (policy : BreakerPolicy) (watch : Watch) (deed : Deed) (calls : List Nat)
    (rested : watch.Rested) : (watch.record deed (watch.breaker.succeed policy) calls).Rested := by
  intro opened
  rw [record_breaker] at opened ⊢
  cases phase : watch.breaker.phase with
  | closed => simp [Breaker.succeed_closed _ _ phase, phase] at opened
  | opened =>
      rw [Breaker.succeed_opened _ _ phase]
      exact rested phase
  | halfOpen =>
      by_cases enough : policy.successThreshold ≤ watch.breaker.successes + 1
      · simp [Breaker.succeed_enough _ _ phase enough] at opened
      · simp [Breaker.succeed_short _ _ phase (Nat.not_le.mp enough), phase] at opened

theorem rested_move (policy : BreakerPolicy) (before after : Watch)
    (move : Move policy before after) (held : before.SlotHeld) (rested : before.Rested) :
    after.Rested := by
  cases move with
  | wait duration =>
      intro phase
      obtain ⟨opened, since, past⟩ := rested phase
      exact ⟨opened, since, Nat.le_add_right_of_le past⟩
  | admission after entered =>
      intro opened
      rw [record_breaker] at opened
      rcases Breaker.enter_admitted before.breaker policy before.now after entered with
        ⟨closed, same⟩ | ⟨_, _, same⟩ | ⟨halfOpen, _, same⟩
      · simp [same, closed] at opened
      · simp [same] at opened
      · simp [same, halfOpen] at opened
  | refusal after entered =>
      have same := Breaker.enter_refused before.breaker policy before.now after held.tidy entered
      subst same
      exact rested
  | finish call ending pending =>
      cases answer : ending.isAnswer with
      | true =>
          rw [Breaker.conclude_answer _ _ _ _ answer]
          exact rested_answered policy before _ _ rested
      | false =>
          rw [Breaker.conclude_failure _ _ _ _ answer]
          exact rested_failed policy before _ _
  | drop call pending =>
      intro opened
      rw [record_breaker] at opened ⊢
      have phase : before.breaker.phase = .opened := by simpa using opened
      rw [Breaker.release_other before.breaker (by simp [phase])]
      exact rested phase
  | timeOut => exact rested_failed policy before _ _

theorem run_rested (policy : BreakerPolicy) (acts : List Act) : (run policy acts).Rested := by
  have both := run_invariant policy (fun watch => watch.SlotHeld ∧ watch.Rested)
    ⟨slotHeld_free {} rfl, by simp [Rested]⟩
    (fun before after move ⟨held, rested⟩ =>
      ⟨slotHeld_move policy before after move held,
        rested_move policy before after move held rested⟩)
    acts
  exact both.2

/-! Admission into a breaker whose place is free. -/

theorem admitting_closed (policy : BreakerPolicy) (watch : Watch)
    (closed : watch.breaker.phase = .closed) : watch.isAdmitting policy = true := by
  simp [isAdmitting, Breaker.enter_closed _ _ _ closed]

theorem admitting_halfOpen (policy : BreakerPolicy) (watch : Watch)
    (halfOpen : watch.breaker.phase = .halfOpen) (free : watch.breaker.probing = false) :
    watch.isAdmitting policy = true := by
  simp [isAdmitting, Breaker.enter_halfOpen _ _ _ halfOpen, free]

theorem admitting_cooled (policy : BreakerPolicy) (watch : Watch)
    (phase : watch.breaker.phase = .opened) (free : watch.breaker.probing = false)
    (cooled : ∀ opened, watch.breaker.openedAt = some opened →
      opened + policy.openDuration ≤ watch.now) : watch.isAdmitting policy = true := by
  have rested : watch.breaker.hasCooled policy watch.now = true := by
    cases since : watch.breaker.openedAt with
    | none => simp [Breaker.hasCooled, since]
    | some opened => simpa [Breaker.hasCooled, since] using cooled opened since
  simp [isAdmitting, Breaker.enter_cooled _ _ _ phase rested, free]

theorem slot_free_when_idle (watch : Watch) (held : watch.SlotHeld) (idle : watch.calls = []) :
    watch.breaker.probing = false := by
  cases flag : watch.breaker.probing with
  | false => rfl
  | true =>
      obtain ⟨call, member, _⟩ := held.owner flag
      simp [idle] at member

theorem admitting_after_pause (policy : BreakerPolicy) (watch : Watch) (held : watch.SlotHeld)
    (rested : watch.Rested) (idle : watch.calls = []) :
    (watch.advance policy.openDuration).isAdmitting policy = true := by
  have free := slot_free_when_idle watch held idle
  cases phase : watch.breaker.phase with
  | closed => exact admitting_closed policy _ phase
  | halfOpen => exact admitting_halfOpen policy _ phase free
  | opened =>
      obtain ⟨opened, since, past⟩ := rested phase
      apply admitting_cooled policy (watch.advance policy.openDuration) phase free
      intro start same
      -- It opened no later than now, so a whole pause from now on is enough.
      have equal : opened = start := Option.some.inj (since.symm.trans same)
      subst equal
      exact Nat.add_le_add_right past policy.openDuration

/-- A set flag always has its owner in flight. Hence a breaker nobody is waiting in
admits a call while half open, once its pause is over, and in any case after one
more pause. -/
theorem slot_never_leaks (policy : BreakerPolicy) (acts : List Act) :
    let watch := run policy acts
    (watch.breaker.probing = true →
      watch.breaker.phase = .halfOpen ∧ ∃ call ∈ watch.calls, watch.holder? = some call) ∧
    (watch.calls = [] →
      (watch.breaker.phase = .halfOpen → watch.isAdmitting policy = true) ∧
      (watch.breaker.phase = .opened →
        (∀ opened, watch.breaker.openedAt = some opened →
          opened + policy.openDuration ≤ watch.now) → watch.isAdmitting policy = true) ∧
      (watch.advance policy.openDuration).isAdmitting policy = true) := by
  intro watch
  have held : watch.SlotHeld := run_slotHeld policy acts
  constructor
  · intro set
    obtain ⟨call, member, holder, _⟩ := held.owner set
    exact ⟨held.tidy set, call, member, holder⟩
  · intro idle
    have free := slot_free_when_idle watch held idle
    refine ⟨?_, ?_, ?_⟩
    · intro halfOpen
      exact admitting_halfOpen policy watch halfOpen free
    · intro phase cooled
      exact admitting_cooled policy watch phase free cooled
    · exact admitting_after_pause policy watch held (run_rested policy acts) idle

/-- The probe keeps the place while an older call is answered in the open breaker,
and a breaker that was left alone in its trial lets the next call in. -/
theorem slot_kept_and_freed :
    let policy : BreakerPolicy :=
      { failureThreshold := 1, openDuration := 10, successThreshold := 2 }
    let acts : List Act :=
      [.start, .start, .finish 1 .transient, .finish 0 .success, .advance 10, .start]
    (run policy acts).holder? = some 2 ∧ (run policy acts).breaker.phase = .halfOpen ∧
      (run policy (acts ++ [.drop 2])).isAdmitting policy = true := by
  intro policy acts
  have taken := (slot_never_leaks policy acts).1 (by decide)
  have freed := (slot_never_leaks policy (acts ++ [.drop 2])).2 (by decide)
  exact ⟨by decide, taken.1, freed.1 (by decide)⟩

end Watch

/-!
What closes a half-open breaker. It counts every answer that comes while it is half
open, whoever asked: its own probes and calls that were admitted long before. So the
answers of a trial are exactly as many as are needed, and all of them come from
probes only if no other call was answered meanwhile.
-/
namespace Watch

def trialAnswers (watch : Watch) : Nat :=
  (currentTrial watch.history).countP fun mark => mark.answered?.isSome

/-- Every answer is either a probe's or an outsider's. -/
theorem answers_split (marks : List Mark) (chosen : Nat → Bool) :
    marks.countP (fun mark => mark.answered?.any chosen) +
        marks.countP (fun mark => mark.answered?.any fun call => !chosen call) =
      marks.countP (fun mark => mark.answered?.isSome) := by
  induction marks with
  | nil => rfl
  | cons mark rest ih =>
      simp only [List.countP_cons]
      cases answered : mark.answered? with
      | none =>
          simpa using ih
      | some call =>
          cases picked : chosen call <;> simp [picked] <;> omega

theorem answers_of_trial (watch : Watch) :
    watch.probeAnswers + watch.outsiderAnswers = watch.trialAnswers :=
  answers_split (currentTrial watch.history) watch.isProbe

theorem trialAnswers_within (watch : Watch) (deed : Deed) (after : Breaker) (calls : List Nat)
    (within : (watch.markOf deed after).beginsTrial = false) :
    (watch.record deed after calls).trialAnswers =
      watch.trialAnswers + if (watch.markOf deed after).answered?.isSome then 1 else 0 := by
  rw [trialAnswers, trial_within watch deed after calls within]
  exact List.countP_cons

theorem trialAnswers_begun (watch : Watch) (call : Nat) (after : Breaker) (calls : List Nat)
    (begun : (watch.markOf (.admitted call) after).beginsTrial = true) :
    (watch.record (.admitted call) after calls).trialAnswers = 0 := by
  simp [trialAnswers, trial_begun watch _ after calls begun, markOf, Mark.answered?]

/-- A half-open breaker has counted the answers of its trial, and too few to close. -/
def Counted (policy : BreakerPolicy) (watch : Watch) : Prop :=
  watch.breaker.phase = .halfOpen →
    watch.trialAnswers = watch.breaker.successes ∧
      watch.breaker.successes < max policy.successThreshold 1

theorem counted_finish (policy : BreakerPolicy) (watch : Watch) (counted : watch.Counted policy)
    (call : Nat) (ending : Ending) (calls : List Nat) :
    (watch.record (.ended call ending) (watch.breaker.conclude policy watch.now ending)
      calls).Counted policy := by
  intro halfOpen
  -- Who is half open after an ending was so before it: an ending begins no trial.
  have before := Breaker.conclude_halfOpen_back watch.breaker policy watch.now ending halfOpen
  obtain ⟨same, few⟩ := counted before
  rw [trialAnswers_within watch _ _ _ (within_of_halfOpen watch _ _ before)]
  cases answer : ending.isAnswer with
  | false =>
      rw [record_breaker, Breaker.conclude_failure _ _ _ _ answer] at halfOpen
      exact absurd halfOpen (Breaker.fail_not_halfOpen _ _ _)
  | true =>
      rw [record_breaker, Breaker.conclude_answer _ _ _ _ answer] at halfOpen ⊢
      by_cases enough : policy.successThreshold ≤ watch.breaker.successes + 1
      · simp [Breaker.succeed_enough _ _ before enough] at halfOpen
      · rw [Breaker.succeed_short _ _ before (Nat.not_le.mp enough)]
        simp only [markOf, Mark.answered?, answer, ↓reduceIte, Option.isSome_some]
        omega

theorem counted_admission (policy : BreakerPolicy) (watch : Watch)
    (counted : watch.Counted policy) (after : Breaker) (calls : List Nat)
    (entered : watch.breaker.enter policy watch.now = (after, true)) :
    (watch.record (.admitted watch.admissions) after calls).Counted policy := by
  intro halfOpen
  rw [record_breaker] at halfOpen ⊢
  rcases Breaker.enter_admitted watch.breaker policy watch.now after entered with
    ⟨closed, same⟩ | ⟨opened, _, same⟩ | ⟨before, _, same⟩
  · simp [same, closed] at halfOpen
  · have begun : (watch.markOf (.admitted watch.admissions) after).beginsTrial = true :=
      (beginsTrial_iff watch _ after).mpr ⟨by simp [opened], halfOpen⟩
    rw [trialAnswers_begun watch _ after calls begun, same]
    exact ⟨rfl, Nat.lt_of_lt_of_le Nat.zero_lt_one (Nat.le_max_right _ _)⟩
  · rw [trialAnswers_within watch _ after calls (within_of_halfOpen watch _ after before), same]
    simpa [markOf, Mark.answered?] using counted before

theorem counted_move (policy : BreakerPolicy) (before after : Watch)
    (move : Move policy before after) (held : before.SlotHeld)
    (counted : before.Counted policy) : after.Counted policy := by
  cases move with
  | wait duration => exact counted
  | admission after entered => exact counted_admission policy before counted after _ entered
  | refusal after entered =>
      have same := Breaker.enter_refused before.breaker policy before.now after held.tidy entered
      subst same
      intro halfOpen
      rw [record_breaker] at halfOpen ⊢
      rw [trialAnswers_within before _ _ _ (within_of_halfOpen before _ _ halfOpen)]
      simpa [markOf, Mark.answered?] using counted halfOpen
  | finish call ending pending => exact counted_finish policy before counted call ending _
  | drop call pending =>
      intro halfOpen
      rw [record_breaker, Breaker.release_phase] at halfOpen
      rw [trialAnswers_within before _ _ _ (within_of_halfOpen before _ _ halfOpen),
        record_breaker, Breaker.release_halfOpen _ halfOpen]
      simpa [markOf, Mark.answered?] using counted halfOpen
  | timeOut =>
      intro halfOpen
      exact absurd halfOpen (Breaker.fail_not_halfOpen _ _ _)

theorem run_counted (policy : BreakerPolicy) (acts : List Act) :
    (run policy acts).Counted policy := by
  have both := run_invariant policy (fun watch => watch.SlotHeld ∧ watch.Counted policy)
    ⟨slotHeld_free {} rfl, by simp [Counted]⟩
    (fun before after move ⟨held, counted⟩ =>
      ⟨slotHeld_move policy before after move held,
        counted_move policy before after move held counted⟩)
    acts
  exact both.2

/-- Only an answer closes a half-open breaker, and it is the last one needed. -/
theorem closing_move (policy : BreakerPolicy) (before after : Watch)
    (move : Move policy before after) (halfOpen : before.breaker.phase = .halfOpen)
    (closed : after.breaker.phase = .closed) :
    after.trialAnswers = before.trialAnswers + 1 ∧
      policy.successThreshold ≤ before.breaker.successes + 1 := by
  cases move with
  | wait duration =>
      have still : before.breaker.phase = .closed := closed
      simp [halfOpen] at still
  | admission after entered =>
      rw [Breaker.enter_halfOpen _ _ _ halfOpen] at entered
      obtain ⟨rfl, _⟩ := Prod.mk.inj entered
      simp [halfOpen] at closed
  | refusal after entered =>
      rw [Breaker.enter_halfOpen _ _ _ halfOpen] at entered
      obtain ⟨rfl, _⟩ := Prod.mk.inj entered
      simp [halfOpen] at closed
  | finish call ending pending =>
      cases answer : ending.isAnswer with
      | false =>
          simp [Breaker.conclude_failure _ _ _ _ answer, Breaker.fail_halfOpen _ _ _ halfOpen]
            at closed
      | true =>
          rw [record_breaker, Breaker.conclude_answer _ _ _ _ answer] at closed
          by_cases enough : policy.successThreshold ≤ before.breaker.successes + 1
          · refine ⟨?_, enough⟩
            rw [trialAnswers_within before _ _ _ (within_of_halfOpen before _ _ halfOpen)]
            simp [markOf, Mark.answered?, answer]
          · simp [Breaker.succeed_short _ _ halfOpen (Nat.not_le.mp enough), halfOpen] at closed
  | drop call pending => simp [halfOpen] at closed
  | timeOut => simp [Breaker.fail_halfOpen _ _ _ halfOpen] at closed

/-- A breaker closes on exactly as many answers of the trial as its policy asks for.
They are all its probes' own if and only if no call from before the trial was
answered during it. -/
theorem closing_on_own_probes_iff (policy : BreakerPolicy) (acts : List Act) (act : Act)
    (halfOpen : (run policy acts).breaker.phase = .halfOpen)
    (closed : (run policy (acts ++ [act])).breaker.phase = .closed) :
    let watch := run policy (acts ++ [act])
    watch.probeAnswers + watch.outsiderAnswers = max policy.successThreshold 1 ∧
      (max policy.successThreshold 1 ≤ watch.probeAnswers ↔ watch.outsiderAnswers = 0) := by
  intro watch
  have split : watch.probeAnswers + watch.outsiderAnswers = watch.trialAnswers :=
    answers_of_trial watch
  have closing : watch = (run policy acts).step policy act := run_snoc policy acts act
  obtain ⟨one, enough⟩ := closing_move policy _ _ (step_move policy (run policy acts) act)
    halfOpen (by rw [← closing]; exact closed)
  obtain ⟨counted, few⟩ := run_counted policy acts halfOpen
  -- Too few answers before, enough of them now: the last one makes up the number.
  have total : watch.trialAnswers = max policy.successThreshold 1 := by
    rw [closing, one, counted]
    omega
  constructor
  · exact split.trans total
  · omega

/-- Of the two answers that close this breaker one is its probe's, the other one that
of call 0, which was admitted before it opened. -/
theorem closing_on_one_of_each :
    let policy : BreakerPolicy :=
      { failureThreshold := 1, openDuration := 10, successThreshold := 2 }
    let acts : List Act :=
      [.start, .start, .finish 1 .transient, .advance 10, .start, .finish 2 .success]
    let watch := run policy (acts ++ [.finish 0 .permanent])
    watch.probeAnswers + watch.outsiderAnswers = 2 ∧
      (2 ≤ watch.probeAnswers ↔ watch.outsiderAnswers = 0) ∧ watch.outsiderAnswers = 1 := by
  intro policy acts watch
  obtain ⟨total, own⟩ :=
    closing_on_own_probes_iff policy acts (.finish 0 .permanent) (by decide) (by decide)
  exact ⟨total, own, by decide⟩

/-- One late answer closes a breaker whose only probe is still in flight. -/
theorem closed_by_an_outsider :
    let policy : BreakerPolicy := { failureThreshold := 1, openDuration := 10 }
    let acts : List Act := [.start, .start, .finish 1 .transient, .advance 10, .start]
    let watch := run policy (acts ++ [.finish 0 .success])
    (run policy acts).breaker.phase = .halfOpen ∧ watch.breaker.phase = .closed ∧
      watch.probeAnswers = 0 ∧ watch.calls = [2] := by
  decide

end Watch
end Roster
