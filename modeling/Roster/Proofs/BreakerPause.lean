import Roster.Proofs.BreakerRows

/-!
The pause of an open breaker. A failure that comes in while a breaker is open begins the
pause anew, and nothing else does; so as long as failures come soon after the opening, the
pause has begun soon after it.
-/

namespace Roster

namespace Breaker

variable (breaker : Breaker) (policy : BreakerPolicy) (now : Nat)

theorem enter_opened_back (opened : (breaker.enter policy now).1.phase = .opened) :
    breaker.phase = .opened ∧ breaker.enter policy now = (breaker, false) := by
  cases phase : breaker.phase with
  | closed => simp [enter_closed breaker policy now phase, phase] at opened
  | halfOpen => simp [enter_halfOpen breaker policy now phase, phase] at opened
  | opened =>
      cases cooled : breaker.hasCooled policy now with
      | false => exact ⟨rfl, enter_resting breaker policy now phase cooled⟩
      | true => simp [enter_cooled breaker policy now phase cooled] at opened

theorem succeed_opened_back (opened : (breaker.succeed policy).phase = .opened) :
    breaker.phase = .opened ∧ breaker.succeed policy = breaker := by
  cases phase : breaker.phase with
  | closed => simp [succeed_closed breaker policy phase, phase] at opened
  | opened => exact ⟨rfl, succeed_opened breaker policy phase⟩
  | halfOpen =>
      by_cases enough : policy.successThreshold ≤ breaker.successes + 1
      · simp [succeed_enough breaker policy phase enough] at opened
      · simp [succeed_short breaker policy phase (Nat.not_le.mp enough), phase] at opened

/-- A breaker that is open after a failure is open since then. -/
theorem fail_openedAt (opened : (breaker.fail policy now).phase = .opened) :
    (breaker.fail policy now).openedAt = some now := by
  cases phase : breaker.phase with
  | opened => rw [fail_opened breaker policy now phase]
  | halfOpen => rw [fail_halfOpen breaker policy now phase]
  | closed =>
      have full := (fail_opens_iff breaker policy now phase).mp opened
      rw [fail_closed breaker policy now phase, if_pos full]

end Breaker

namespace Watch

def Mark.opens (mark : Mark) : Bool := mark.before.phase != .opened && mark.after.phase == .opened

def lastOpening? (watch : Watch) : Option Nat := (watch.history.find? Mark.opens).map Mark.time

structure OpenSince (watch : Watch) (time : Nat) : Prop where
  opened : watch.breaker.phase = .opened
  since : watch.lastOpening? = some time

/-- The pause of an open breaker began soon after it opened. -/
def Rests (limit : Nat) (watch : Watch) : Prop :=
  watch.breaker.phase = .opened →
    ∃ time opened, watch.lastOpening? = some time ∧ watch.breaker.openedAt = some opened ∧
      opened ≤ time + limit

def Act.isFailure : Act → Bool
  | .finish _ ending => !ending.isAnswer
  | .timeOut => true
  | _ => false

section Openings

variable (policy : BreakerPolicy) (limit : Nat) (watch : Watch) (deed : Deed) (after : Breaker)
  (calls : List Nat)

theorem lastOpening_record :
    (watch.record deed after calls).lastOpening? =
      if (watch.markOf deed after).opens then some watch.now else watch.lastOpening? := by
  simp only [lastOpening?, record, List.find?_cons]
  cases (watch.markOf deed after).opens <;> rfl

theorem openSince_record (time : Nat) (since : (watch.record deed after calls).OpenSince time) :
    time = watch.now ∨ watch.OpenSince time := by
  have opening := since.since
  rw [lastOpening_record] at opening
  cases opens : (watch.markOf deed after).opens with
  | true =>
      rw [opens, if_pos rfl] at opening
      exact Or.inl (Option.some.inj opening).symm
  | false =>
      rw [opens, if_neg Bool.false_ne_true] at opening
      refine Or.inr ⟨?_, opening⟩
      have stays : after.phase = .opened := since.opened
      simpa [Mark.opens, markOf, stays] using opens

theorem openSince_move (before next : Watch) (move : Move policy before next) (time : Nat)
    (since : next.OpenSince time) : time = before.now ∨ before.OpenSince time := by
  cases move with
  | wait duration => exact Or.inr ⟨since.opened, since.since⟩
  | admission after entered => exact openSince_record before _ _ _ time since
  | refusal after entered => exact openSince_record before _ _ _ time since
  | finish call ending pending => exact openSince_record before _ _ _ time since
  | drop call pending => exact openSince_record before _ _ _ time since
  | timeOut => exact openSince_record before _ _ _ time since

theorem rests_unchanged (rests : watch.Rests limit)
    (same : after.phase = .opened → watch.breaker.phase = .opened ∧ after = watch.breaker) :
    (watch.record deed after calls).Rests limit := by
  intro opened
  obtain ⟨phase, rfl⟩ := same opened
  obtain ⟨time, start, since, began, soon⟩ := rests phase
  refine ⟨time, start, ?_, began, soon⟩
  rw [lastOpening_record]
  simpa [Mark.opens, markOf] using since

/-- A failure begins the pause again, so it must not come too late after the opening. -/
theorem rests_failed (rests : watch.Rests limit)
    (soon : ∀ time, watch.OpenSince time → watch.now ≤ time + limit) :
    (watch.record deed (watch.breaker.fail policy watch.now) calls).Rests limit := by
  intro opened
  have began := Breaker.fail_openedAt watch.breaker policy watch.now opened
  rw [lastOpening_record]
  by_cases phase : watch.breaker.phase = .opened
  · -- The opening stays where it was, only the pause begins again.
    obtain ⟨time, _, since, _⟩ := rests phase
    refine ⟨time, watch.now, ?_, began, soon time ⟨phase, since⟩⟩
    simpa [Mark.opens, markOf, phase] using since
  · have opens : (watch.markOf deed (watch.breaker.fail policy watch.now)).opens = true := by
      have after : (watch.breaker.fail policy watch.now).phase = .opened := opened
      simp [Mark.opens, markOf, phase, after]
    exact ⟨watch.now, watch.now, if_pos opens, began, Nat.le_add_right _ _⟩

theorem rests_started (rests : watch.Rests limit) : (watch.start policy).Rests limit := by
  have same : (watch.breaker.enter policy watch.now).1.phase = .opened →
      watch.breaker.phase = .opened ∧ (watch.breaker.enter policy watch.now).1 = watch.breaker := by
    intro opened
    obtain ⟨phase, refused⟩ := Breaker.enter_opened_back watch.breaker policy watch.now opened
    exact ⟨phase, congrArg Prod.fst refused⟩
  simp only [start]
  split
  · exact rests_unchanged limit watch _ _ _ rests same
  · exact rests_unchanged limit watch _ _ _ rests same

theorem rests_step (act : Act) (rests : watch.Rests limit)
    (soon : act.isFailure = true → ∀ time, watch.OpenSince time → watch.now ≤ time + limit) :
    (watch.step policy act).Rests limit := by
  cases act with
  | start => exact rests_started policy limit watch rests
  | advance duration => exact rests
  | timeOut => exact rests_failed policy limit watch _ _ rests (soon rfl)
  | finish call ending =>
      simp only [step, finish]
      split
      · cases answer : ending.isAnswer with
        | true =>
            rw [Breaker.conclude_answer _ policy _ ending answer]
            exact rests_unchanged limit watch _ _ _ rests
              (Breaker.succeed_opened_back watch.breaker policy)
        | false =>
            rw [Breaker.conclude_failure _ policy _ ending answer]
            exact rests_failed policy limit watch _ _ rests (soon (by simp [Act.isFailure, answer]))
      · exact rests
  | drop call =>
      simp only [step, drop]
      split
      · refine rests_unchanged limit watch _ _ _ rests fun opened => ?_
        have phase : watch.breaker.phase = .opened := by simpa using opened
        exact ⟨phase, Breaker.release_other watch.breaker (by simp [phase])⟩
      · exact rests

/-! The same for some acts that are done at one time. -/

theorem openSince_fold (acts : List Act) (timeless : ∀ act ∈ acts, act.takesTime = false)
    (time : Nat) (since : (acts.foldl (step policy) watch).OpenSince time) :
    time = watch.now ∨ watch.OpenSince time := by
  induction acts generalizing watch with
  | nil => exact Or.inr since
  | cons act rest ih =>
      have now := step_timeless policy watch act (timeless act List.mem_cons_self)
      rcases ih _ (fun other member => timeless other (List.mem_cons_of_mem act member)) since with
        same | earlier
      · exact Or.inl (same.trans now)
      · exact openSince_move policy watch _ (step_move policy watch act) time earlier

theorem rests_fold (acts : List Act) (timeless : ∀ act ∈ acts, act.takesTime = false)
    (rests : watch.Rests limit)
    (soon : ∀ act ∈ acts, act.isFailure = true →
      ∀ time, watch.OpenSince time → watch.now ≤ time + limit) :
    (acts.foldl (step policy) watch).Rests limit := by
  induction acts generalizing watch with
  | nil => exact rests
  | cons act rest ih =>
      have now := step_timeless policy watch act (timeless act List.mem_cons_self)
      refine ih _ (fun other member => timeless other (List.mem_cons_of_mem act member))
        (rests_step policy limit watch act rests (soon act List.mem_cons_self)) ?_
      intro other member fails time since
      rw [now]
      -- Opened by this act, it is open since now; otherwise it was open before.
      rcases openSince_move policy watch _ (step_move policy watch act) time since with
        same | earlier
      · omega
      · exact soon other (List.mem_cons_of_mem act member) fails time earlier

end Openings

end Watch
end Roster
