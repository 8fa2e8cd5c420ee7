import Roster.Proofs.BreakerWatch

/-!
Trials. A trial is a stretch of time during which a breaker is half open; the calls
admitted since it began are its probes, all others in flight are outsiders. Nothing
here is stored: probes and answers are read off what was marked down.
-/

namespace Roster
namespace Watch

/-- The marks since the last trial began, the one that began it included. -/
def currentTrial : List Mark → List Mark
  | [] => []
  | mark :: earlier => if mark.beginsTrial then [mark] else mark :: currentTrial earlier

def trials (watch : Watch) : Nat := watch.history.countP Mark.beginsTrial

def isProbe (watch : Watch) (call : Nat) : Bool :=
  (currentTrial watch.history).any (·.admits call)

def probes (watch : Watch) : List Nat := watch.calls.filter watch.isProbe

def holder? (watch : Watch) : Option Nat := watch.history.findSome? Mark.slotTaker?

def probeAnswers (watch : Watch) : Nat :=
  (currentTrial watch.history).countP fun mark => mark.answered?.any watch.isProbe

/-- How many other calls ended with an answer since the last trial began. -/
def outsiderAnswers (watch : Watch) : Nat :=
  (currentTrial watch.history).countP fun mark => mark.answered?.any fun call => !watch.isProbe call

def isAdmitting (policy : BreakerPolicy) (watch : Watch) : Bool :=
  (watch.breaker.enter policy watch.now).2

theorem currentTrial_subset (marks : List Mark) : currentTrial marks ⊆ marks := by
  induction marks with
  | nil => exact List.Subset.refl _
  | cons mark earlier ih =>
      by_cases begun : mark.beginsTrial = true
      · simp [currentTrial, begun]
      · simpa [currentTrial, begun] using List.subset_cons_of_subset mark ih

/-! What a mark does to the trial it falls into. -/

variable (watch : Watch) (deed : Deed) (after : Breaker) (calls : List Nat)

@[simp]
theorem record_breaker : (watch.record deed after calls).breaker = after := rfl

@[simp]
theorem record_calls : (watch.record deed after calls).calls = calls := rfl

theorem trials_record :
    (watch.record deed after calls).trials =
      watch.trials + if (watch.markOf deed after).beginsTrial then 1 else 0 :=
  List.countP_cons

theorem beginsTrial_iff :
    (watch.markOf deed after).beginsTrial = true ↔
      watch.breaker.phase ≠ .halfOpen ∧ after.phase = .halfOpen := by
  simp [Mark.beginsTrial, markOf]

theorem within_of_halfOpen (halfOpen : watch.breaker.phase = .halfOpen) :
    (watch.markOf deed after).beginsTrial = false := by
  simp [Mark.beginsTrial, markOf, halfOpen]

theorem trial_within (within : (watch.markOf deed after).beginsTrial = false) :
    currentTrial (watch.record deed after calls).history =
      watch.markOf deed after :: currentTrial watch.history := by
  simp [record, currentTrial, within]

theorem trial_begun (begun : (watch.markOf deed after).beginsTrial = true) :
    currentTrial (watch.record deed after calls).history = [watch.markOf deed after] := by
  simp [record, currentTrial, begun]

theorem isProbe_within (within : (watch.markOf deed after).beginsTrial = false) (call : Nat) :
    (watch.record deed after calls).isProbe call =
      (deed == .admitted call || watch.isProbe call) := by
  simp [isProbe, trial_within watch deed after calls within, Mark.admits, markOf]

theorem isProbe_begun (begun : (watch.markOf deed after).beginsTrial = true) (call : Nat) :
    (watch.record deed after calls).isProbe call = (deed == .admitted call) := by
  simp [isProbe, trial_begun watch deed after calls begun, Mark.admits, markOf]

/-- The newest mark lies in the current trial in any case. -/
theorem isProbe_admitted (call : Nat) (calls : List Nat) :
    (watch.record (.admitted call) after calls).isProbe call = true := by
  by_cases begun : (watch.markOf (.admitted call) after).beginsTrial = true
  · simp [isProbe_begun watch _ after calls begun]
  · have within := Bool.eq_false_iff.mpr begun
    simp [isProbe_within watch _ after calls within]

theorem holder_record :
    (watch.record deed after calls).holder? =
      (watch.markOf deed after).slotTaker?.or watch.holder? := by
  cases taker : (watch.markOf deed after).slotTaker? <;>
    simp [holder?, record, taker]

end Watch

/-! Which operations begin a trial: only the admission of a call does. -/

namespace Breaker

variable (breaker : Breaker) (policy : BreakerPolicy) (now : Nat)

theorem succeed_halfOpen_back (halfOpen : (breaker.succeed policy).phase = .halfOpen) :
    breaker.phase = .halfOpen := by
  cases phase : breaker.phase with
  | closed => simp [succeed_closed breaker policy phase, phase] at halfOpen
  | opened => simp [succeed_opened breaker policy phase, phase] at halfOpen
  | halfOpen => rfl

theorem conclude_halfOpen_back (ending : Ending)
    (halfOpen : (breaker.conclude policy now ending).phase = .halfOpen) :
    breaker.phase = .halfOpen := by
  cases answer : ending.isAnswer with
  | true =>
      rw [conclude_answer breaker policy now ending answer] at halfOpen
      exact succeed_halfOpen_back breaker policy halfOpen
  | false =>
      rw [conclude_failure breaker policy now ending answer] at halfOpen
      exact absurd halfOpen (fail_not_halfOpen breaker policy now)

/-- The flag is only set while the breaker is half open. -/
def Tidy (breaker : Breaker) : Prop := breaker.probing = true → breaker.phase = .halfOpen

theorem tidy_clear (tidy : breaker.Tidy) (other : breaker.phase ≠ .halfOpen) :
    breaker.probing = false := by
  cases flag : breaker.probing with
  | false => rfl
  | true => exact absurd (tidy flag) other

theorem release_frees (tidy : breaker.Tidy) : breaker.release.probing = false := by
  by_cases halfOpen : breaker.phase = .halfOpen
  · simp [release_halfOpen breaker halfOpen]
  · rw [release_other breaker halfOpen]
    exact tidy_clear breaker tidy halfOpen

theorem succeed_frees (tidy : breaker.Tidy) : (breaker.succeed policy).probing = false := by
  cases phase : breaker.phase with
  | closed =>
      rw [succeed_closed breaker policy phase]
      exact tidy_clear breaker tidy (by simp [phase])
  | opened =>
      rw [succeed_opened breaker policy phase]
      exact tidy_clear breaker tidy (by simp [phase])
  | halfOpen =>
      by_cases enough : policy.successThreshold ≤ breaker.successes + 1
      · simp [succeed_enough breaker policy phase enough]
      · simp [succeed_short breaker policy phase (Nat.not_le.mp enough)]

theorem fail_frees (tidy : breaker.Tidy) : (breaker.fail policy now).probing = false := by
  cases phase : breaker.phase with
  | closed =>
      have clear := tidy_clear breaker tidy (by simp [phase])
      rw [fail_closed breaker policy now phase]
      split <;> exact clear
  | opened =>
      rw [fail_opened breaker policy now phase]
      exact tidy_clear breaker tidy (by simp [phase])
  | halfOpen => simp [fail_halfOpen breaker policy now phase]

/-- However a call ends, and whatever call it is, the place is free afterwards. -/
theorem conclude_frees (ending : Ending) (tidy : breaker.Tidy) :
    (breaker.conclude policy now ending).probing = false := by
  cases answer : ending.isAnswer with
  | true =>
      rw [conclude_answer breaker policy now ending answer]
      exact succeed_frees breaker policy tidy
  | false =>
      rw [conclude_failure breaker policy now ending answer]
      exact fail_frees breaker policy now tidy

/-- A call is admitted into a closed breaker, or it takes the free place of one that
is half open or becomes so. -/
theorem enter_admitted (after : Breaker) (entered : breaker.enter policy now = (after, true)) :
    (breaker.phase = .closed ∧ after = breaker) ∨
      (breaker.phase = .opened ∧ breaker.probing = false ∧
        after = { breaker with phase := .halfOpen, successes := 0, probing := true }) ∨
      (breaker.phase = .halfOpen ∧ breaker.probing = false ∧
        after = { breaker with probing := true }) := by
  cases phase : breaker.phase with
  | closed =>
      rw [enter_closed breaker policy now phase] at entered
      exact Or.inl ⟨rfl, (congrArg Prod.fst entered).symm⟩
  | opened =>
      cases cooled : breaker.hasCooled policy now with
      | false => simp [enter_resting breaker policy now phase cooled] at entered
      | true =>
          rw [enter_cooled breaker policy now phase cooled] at entered
          obtain ⟨same, free⟩ := Prod.mk.inj entered
          exact Or.inr (Or.inl ⟨rfl, by simpa using free, same.symm⟩)
  | halfOpen =>
      rw [enter_halfOpen breaker policy now phase] at entered
      obtain ⟨same, free⟩ := Prod.mk.inj entered
      exact Or.inr (Or.inr ⟨rfl, by simpa using free, by rw [← same, phase]⟩)

/-- A refused call leaves no trace on a tidy breaker. -/
theorem enter_refused (after : Breaker) (tidy : breaker.Tidy)
    (entered : breaker.enter policy now = (after, false)) : after = breaker := by
  cases phase : breaker.phase with
  | closed => simp [enter_closed breaker policy now phase] at entered
  | opened =>
      have clear := tidy_clear breaker tidy (by simp [phase])
      cases cooled : breaker.hasCooled policy now with
      | false =>
          rw [enter_resting breaker policy now phase cooled] at entered
          exact (congrArg Prod.fst entered).symm
      | true => simp [enter_cooled breaker policy now phase cooled, clear] at entered
  | halfOpen =>
      rw [enter_halfOpen breaker policy now phase] at entered
      obtain ⟨rfl, taken⟩ := Prod.mk.inj entered
      -- A refusal sets the flag once more, which was set already.
      have set : breaker.probing = true := by simpa using taken
      cases breaker
      simp_all

end Breaker
end Roster
