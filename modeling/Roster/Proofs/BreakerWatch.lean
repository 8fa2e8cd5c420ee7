import Roster.Breaker

/-!
What the operations of a breaker do, phase by phase. The later modules take these
equations and never look into the operations themselves.
-/

namespace Roster

inductive Ending where
  | success
  | permanent
  | transient
deriving DecidableEq, Repr

/-- Whether an ending shows the other side to be there. -/
def Ending.isAnswer : Ending → Bool
  | .success | .permanent => true
  | .transient => false

namespace Breaker

def conclude (breaker : Breaker) (policy : BreakerPolicy) (now : Nat) (ending : Ending) : Breaker :=
  if ending.isAnswer then breaker.succeed policy else breaker.fail policy now

theorem conclude_answer (breaker : Breaker) (policy : BreakerPolicy) (now : Nat) (ending : Ending)
    (answer : ending.isAnswer = true) :
    breaker.conclude policy now ending = breaker.succeed policy := by
  simp [conclude, answer]

theorem conclude_failure (breaker : Breaker) (policy : BreakerPolicy) (now : Nat) (ending : Ending)
    (failure : ending.isAnswer = false) :
    breaker.conclude policy now ending = breaker.fail policy now := by
  simp [conclude, failure]

theorem enter_closed (breaker : Breaker) (policy : BreakerPolicy) (now : Nat)
    (closed : breaker.phase = .closed) : breaker.enter policy now = (breaker, true) := by
  simp [enter, cool, closed]

theorem enter_resting (breaker : Breaker) (policy : BreakerPolicy) (now : Nat)
    (opened : breaker.phase = .opened) (hot : breaker.hasCooled policy now = false) :
    breaker.enter policy now = (breaker, false) := by
  simp [enter, cool, opened, hot]

-- A flag that is set in an open breaker would refuse the call but not stop the change of phase.
theorem enter_cooled (breaker : Breaker) (policy : BreakerPolicy) (now : Nat)
    (opened : breaker.phase = .opened) (cooled : breaker.hasCooled policy now = true) :
    breaker.enter policy now =
      ({ breaker with phase := .halfOpen, successes := 0, probing := true }, !breaker.probing) := by
  cases flag : breaker.probing <;> simp [enter, cool, opened, cooled, flag]

theorem enter_halfOpen (breaker : Breaker) (policy : BreakerPolicy) (now : Nat)
    (halfOpen : breaker.phase = .halfOpen) :
    breaker.enter policy now = ({ breaker with probing := true }, !breaker.probing) := by
  cases breaker with
  | mk phase failures successes windowStart openedAt probing =>
      cases probing <;> simp_all [enter, cool]

theorem succeed_closed (breaker : Breaker) (policy : BreakerPolicy)
    (closed : breaker.phase = .closed) :
    breaker.succeed policy = { breaker with failures := 0, windowStart := none } := by
  simp [succeed, closed]

theorem succeed_opened (breaker : Breaker) (policy : BreakerPolicy)
    (opened : breaker.phase = .opened) : breaker.succeed policy = breaker := by
  simp [succeed, opened]

theorem succeed_enough (breaker : Breaker) (policy : BreakerPolicy)
    (halfOpen : breaker.phase = .halfOpen)
    (enough : policy.successThreshold ≤ breaker.successes + 1) :
    breaker.succeed policy = { phase := .closed } := by
  simp [succeed, halfOpen, enough]

theorem succeed_short (breaker : Breaker) (policy : BreakerPolicy)
    (halfOpen : breaker.phase = .halfOpen)
    (short : breaker.successes + 1 < policy.successThreshold) :
    breaker.succeed policy =
      { breaker with probing := false, successes := breaker.successes + 1 } := by
  simp [succeed, halfOpen, Nat.not_le.mpr short]

theorem fail_opened (breaker : Breaker) (policy : BreakerPolicy) (now : Nat)
    (opened : breaker.phase = .opened) :
    breaker.fail policy now = { breaker with openedAt := some now } := by
  simp [fail, opened]

theorem fail_halfOpen (breaker : Breaker) (policy : BreakerPolicy) (now : Nat)
    (halfOpen : breaker.phase = .halfOpen) :
    breaker.fail policy now =
      { breaker with
        phase := .opened, probing := false, successes := 0, openedAt := some now } := by
  simp [fail, halfOpen]

def failuresNext (breaker : Breaker) (policy : BreakerPolicy) (now : Nat) : Nat :=
  if breaker.windowIsOver policy now then 1 else breaker.failures + 1

def windowNext (breaker : Breaker) (policy : BreakerPolicy) (now : Nat) : Option Nat :=
  if breaker.windowIsOver policy now then some now else breaker.windowStart

theorem fail_closed (breaker : Breaker) (policy : BreakerPolicy) (now : Nat)
    (closed : breaker.phase = .closed) :
    breaker.fail policy now =
      if policy.failureThreshold ≤ breaker.failuresNext policy now then
        { breaker with
          phase := .opened
          failures := breaker.failuresNext policy now
          windowStart := breaker.windowNext policy now
          openedAt := some now }
      else
        { breaker with
          failures := breaker.failuresNext policy now
          windowStart := breaker.windowNext policy now } := by
  simp [fail, closed, failuresNext, windowNext]

theorem release_halfOpen (breaker : Breaker) (halfOpen : breaker.phase = .halfOpen) :
    breaker.release = { breaker with probing := false } := by
  simp [release, halfOpen]

theorem release_other (breaker : Breaker) (other : breaker.phase ≠ .halfOpen) :
    breaker.release = breaker := by
  simp [release, other]

@[simp]
theorem release_phase (breaker : Breaker) : breaker.release.phase = breaker.phase := by
  by_cases halfOpen : breaker.phase = .halfOpen
  · rw [release_halfOpen breaker halfOpen]
  · rw [release_other breaker halfOpen]

theorem fail_not_halfOpen (breaker : Breaker) (policy : BreakerPolicy) (now : Nat) :
    (breaker.fail policy now).phase ≠ .halfOpen := by
  cases phase : breaker.phase with
  | closed =>
      rw [fail_closed breaker policy now phase]
      split <;> simp [phase]
  | opened =>
      rw [fail_opened breaker policy now phase]
      simp [phase]
  | halfOpen =>
      rw [fail_halfOpen breaker policy now phase]
      simp

end Breaker

/-!
One breaker over time. Calls are started, finished, given up and timed out in any
order and overlap as they like, while time goes on in between. Whatever is done to
the breaker is marked down with its states before and after, so that later
statements speak of what happened and not of a bookkeeping of their own.
-/

inductive Watch.Deed where
  | admitted (call : Nat)
  | refused
  | ended (call : Nat) (ending : Ending)
  | dropped (call : Nat)
  | timedOut
deriving DecidableEq, Repr

def Watch.Deed.call? : Watch.Deed → Option Nat
  | .admitted call | .ended call _ | .dropped call => some call
  | .refused | .timedOut => none

structure Watch.Mark where
  time : Nat
  deed : Watch.Deed
  before : Breaker
  after : Breaker
deriving DecidableEq, Repr

namespace Watch.Mark

def isAdmission (mark : Mark) : Bool :=
  match mark.deed with
  | .admitted _ => true
  | _ => false

def admits (mark : Mark) (call : Nat) : Bool := mark.deed == .admitted call

/-- A trial is the time a breaker spends half open. -/
def beginsTrial (mark : Mark) : Bool :=
  mark.before.phase != .halfOpen && mark.after.phase == .halfOpen

def slotTaker? (mark : Mark) : Option Nat :=
  match mark.deed with
  | .admitted call => if !mark.before.probing && mark.after.probing then some call else none
  | _ => none

def answered? (mark : Mark) : Option Nat :=
  match mark.deed with
  | .ended call ending => if ending.isAnswer then some call else none
  | _ => none

end Watch.Mark

/-- A breaker at a time, the numbers of the calls in flight, and all that was done
to it, the latest first. -/
structure Watch where
  breaker : Breaker := {}
  now : Nat := 0
  calls : List Nat := []
  history : List Watch.Mark := []
deriving DecidableEq, Repr

inductive Watch.Act where
  | start
  | finish (call : Nat) (ending : Ending)
  | drop (call : Nat)
  | timeOut
  | advance (duration : Nat)
deriving DecidableEq, Repr

namespace Watch

def admissions (watch : Watch) : Nat := watch.history.countP Mark.isAdmission

def markOf (watch : Watch) (deed : Deed) (after : Breaker) : Mark where
  time := watch.now
  deed := deed
  before := watch.breaker
  after := after

def record (watch : Watch) (deed : Deed) (after : Breaker) (calls : List Nat) : Watch where
  breaker := after
  now := watch.now
  calls := calls
  history := watch.markOf deed after :: watch.history

def start (policy : BreakerPolicy) (watch : Watch) : Watch :=
  let (after, admitted) := watch.breaker.enter policy watch.now
  if admitted then
    watch.record (.admitted watch.admissions) after (watch.admissions :: watch.calls)
  else watch.record .refused after watch.calls

def finish (policy : BreakerPolicy) (watch : Watch) (call : Nat) (ending : Ending) : Watch :=
  if call ∈ watch.calls then
    watch.record (.ended call ending) (watch.breaker.conclude policy watch.now ending)
      (watch.calls.erase call)
  else watch

def drop (watch : Watch) (call : Nat) : Watch :=
  if call ∈ watch.calls then
    watch.record (.dropped call) watch.breaker.release (watch.calls.erase call)
  else watch

def timeOut (policy : BreakerPolicy) (watch : Watch) : Watch :=
  watch.record .timedOut (watch.breaker.fail policy watch.now) watch.calls

def advance (watch : Watch) (duration : Nat) : Watch := { watch with now := watch.now + duration }

def step (policy : BreakerPolicy) (watch : Watch) : Act → Watch
  | .start => watch.start policy
  | .finish call ending => watch.finish policy call ending
  | .drop call => watch.drop call
  | .timeOut => watch.timeOut policy
  | .advance duration => watch.advance duration

def run (policy : BreakerPolicy) (acts : List Act) : Watch := acts.foldl (step policy) {}

theorem run_append (policy : BreakerPolicy) (acts more : List Act) :
    run policy (acts ++ more) = more.foldl (step policy) (run policy acts) := by
  simp [run, List.foldl_append]

theorem run_snoc (policy : BreakerPolicy) (acts : List Act) (act : Act) :
    run policy (acts ++ [act]) = (run policy acts).step policy act := by
  simp [run_append]

/-- What an act can come to, with what has to hold for it. -/
inductive Move (policy : BreakerPolicy) (watch : Watch) : Watch → Prop where
  | wait (duration : Nat) : Move policy watch (watch.advance duration)
  | admission (after : Breaker) (entered : watch.breaker.enter policy watch.now = (after, true)) :
      Move policy watch
        (watch.record (.admitted watch.admissions) after (watch.admissions :: watch.calls))
  | refusal (after : Breaker) (entered : watch.breaker.enter policy watch.now = (after, false)) :
      Move policy watch (watch.record .refused after watch.calls)
  | finish (call : Nat) (ending : Ending) (pending : call ∈ watch.calls) :
      Move policy watch
        (watch.record (.ended call ending) (watch.breaker.conclude policy watch.now ending)
          (watch.calls.erase call))
  | drop (call : Nat) (pending : call ∈ watch.calls) :
      Move policy watch
        (watch.record (.dropped call) watch.breaker.release (watch.calls.erase call))
  | timeOut :
      Move policy watch
        (watch.record .timedOut (watch.breaker.fail policy watch.now) watch.calls)

theorem step_finish (policy : BreakerPolicy) (watch : Watch) (call : Nat) (ending : Ending)
    (pending : call ∈ watch.calls) :
    watch.step policy (.finish call ending) =
      watch.record (.ended call ending) (watch.breaker.conclude policy watch.now ending)
        (watch.calls.erase call) := by
  simp [step, finish, pending]

theorem step_drop (policy : BreakerPolicy) (watch : Watch) (call : Nat)
    (pending : call ∈ watch.calls) :
    watch.step policy (.drop call) =
      watch.record (.dropped call) watch.breaker.release (watch.calls.erase call) := by
  simp [step, drop, pending]

theorem step_move (policy : BreakerPolicy) (watch : Watch) (act : Act) :
    Move policy watch (watch.step policy act) := by
  cases act with
  | start =>
      cases entered : watch.breaker.enter policy watch.now with
      | mk after admitted =>
          cases admitted with
          | true => simpa [step, start, entered] using Move.admission after entered
          | false => simpa [step, start, entered] using Move.refusal after entered
  | finish call ending =>
      by_cases pending : call ∈ watch.calls
      · rw [step_finish policy watch call ending pending]
        exact Move.finish call ending pending
      · have still : Move policy watch (watch.advance 0) := Move.wait 0
        simpa [step, finish, pending, advance] using still
  | drop call =>
      by_cases pending : call ∈ watch.calls
      · rw [step_drop policy watch call pending]
        exact Move.drop call pending
      · have still : Move policy watch (watch.advance 0) := Move.wait 0
        simpa [step, drop, pending, advance] using still
  | timeOut => exact Move.timeOut
  | advance duration => exact Move.wait duration

/-- What moves keep holds after every run of acts. -/
theorem fold_invariant (policy : BreakerPolicy) (holds : Watch → Prop)
    (kept : ∀ before after, Move policy before after → holds before → holds after)
    (acts : List Act) (watch : Watch) (initial : holds watch) :
    holds (acts.foldl (step policy) watch) := by
  induction acts generalizing watch with
  | nil => exact initial
  | cons act rest ih =>
      exact ih (watch.step policy act) (kept watch _ (step_move policy watch act) initial)

theorem run_invariant (policy : BreakerPolicy) (holds : Watch → Prop) (initial : holds {})
    (kept : ∀ before after, Move policy before after → holds before → holds after)
    (acts : List Act) : holds (run policy acts) :=
  fold_invariant policy holds kept acts {} initial

/-! Every call has a number of its own: those in flight and those marked down were
given out before the next one. -/

structure Numbered (watch : Watch) : Prop where
  distinct : watch.calls.Nodup
  pending : ∀ call ∈ watch.calls, call < watch.admissions
  marked : ∀ mark ∈ watch.history, ∀ call, mark.deed.call? = some call → call < watch.admissions

@[simp]
theorem admissions_record (watch : Watch) (deed : Deed) (after : Breaker) (calls : List Nat) :
    (watch.record deed after calls).admissions =
      watch.admissions + if (watch.markOf deed after).isAdmission then 1 else 0 :=
  List.countP_cons

/-- A deed about a known call, or about none, keeps the numbers. -/
theorem numbered_record (watch : Watch) (deed : Deed) (after : Breaker) (calls : List Nat)
    (numbered : watch.Numbered) (sublist : calls.Sublist watch.calls)
    (known : ∀ call, deed.call? = some call → call ∈ watch.calls) :
    (watch.record deed after calls).Numbered := by
  have grows : watch.admissions ≤ (watch.record deed after calls).admissions := by
    simp
  constructor
  · exact numbered.distinct.sublist sublist
  · intro call member
    exact Nat.lt_of_lt_of_le (numbered.pending call (sublist.subset member)) grows
  · intro mark member call named
    rcases List.mem_cons.mp member with same | old
    · subst mark
      exact Nat.lt_of_lt_of_le (numbered.pending call (known call named)) grows
    · exact Nat.lt_of_lt_of_le (numbered.marked mark old call named) grows

theorem numbered_admission (watch : Watch) (after : Breaker) (numbered : watch.Numbered) :
    (watch.record (.admitted watch.admissions) after
      (watch.admissions :: watch.calls)).Numbered := by
  have next : (watch.record (.admitted watch.admissions) after
      (watch.admissions :: watch.calls)).admissions = watch.admissions + 1 := by
    simp [markOf, Mark.isAdmission]
  constructor
  · refine List.nodup_cons.mpr ⟨?_, numbered.distinct⟩
    intro member
    exact Nat.lt_irrefl _ (numbered.pending _ member)
  · intro call member
    rw [next]
    rcases List.mem_cons.mp member with same | old
    · omega
    · exact Nat.lt_succ_of_lt (numbered.pending call old)
  · intro mark member call named
    rw [next]
    rcases List.mem_cons.mp member with same | old
    · subst mark
      simp only [markOf, Deed.call?, Option.some.injEq] at named
      omega
    · exact Nat.lt_succ_of_lt (numbered.marked mark old call named)

theorem numbered_move (policy : BreakerPolicy) (before after : Watch)
    (move : Move policy before after) (numbered : before.Numbered) : after.Numbered := by
  cases move with
  | wait duration => exact ⟨numbered.distinct, numbered.pending, numbered.marked⟩
  | admission after entered => exact numbered_admission before after numbered
  | refusal after entered =>
      exact numbered_record before _ _ _ numbered (List.Sublist.refl _) (by simp [Deed.call?])
  | finish call ending pending =>
      exact numbered_record before _ _ _ numbered List.erase_sublist
        (by simpa [Deed.call?] using pending)
  | drop call pending =>
      exact numbered_record before _ _ _ numbered List.erase_sublist
        (by simpa [Deed.call?] using pending)
  | timeOut =>
      exact numbered_record before _ _ _ numbered (List.Sublist.refl _) (by simp [Deed.call?])

theorem run_numbered (policy : BreakerPolicy) (acts : List Act) : (run policy acts).Numbered :=
  run_invariant policy Numbered ⟨List.nodup_nil, by simp, by simp⟩ (numbered_move policy) acts

end Watch

/-!
Single acts on a breaker. All but the passing of time are done at once, and none of them ends
a call but its own; so what is done at one time leaves the other calls in flight.
-/
namespace Watch

def waitUntil (watch : Watch) (time : Nat) : Watch := watch.advance (time - watch.now)

theorem waitUntil_now (watch : Watch) (time : Nat) (past : watch.now ≤ time) :
    (watch.waitUntil time).now = time := by
  simp only [waitUntil, advance]
  omega

def Act.call? : Act → Option Nat
  | .finish call _ | .drop call => some call
  | .start | .timeOut | .advance _ => none

def Act.takesTime : Act → Bool
  | .advance _ => true
  | _ => false

variable (policy : BreakerPolicy) (watch : Watch)

theorem start_breaker :
    (watch.start policy).breaker = (watch.breaker.enter policy watch.now).1 := by
  simp only [start]
  split <;> rfl

theorem start_calls :
    (watch.start policy).calls =
      if (watch.breaker.enter policy watch.now).2 then watch.admissions :: watch.calls
      else watch.calls := by
  simp only [start]
  split <;> rfl

theorem step_timeless (act : Act) (timeless : act.takesTime = false) :
    (watch.step policy act).now = watch.now := by
  cases act with
  | start =>
      simp only [step, start]
      split <;> rfl
  | finish call ending =>
      simp only [step, finish]
      split <;> rfl
  | drop call =>
      simp only [step, drop]
      split <;> rfl
  | timeOut => rfl
  | advance duration => cases timeless

theorem step_spares (act : Act) (call : Nat) (pending : call ∈ watch.calls)
    (other : act.call? ≠ some call) : call ∈ (watch.step policy act).calls := by
  cases act with
  | start =>
      rw [step, start_calls]
      split
      · exact List.mem_cons_of_mem _ pending
      · exact pending
  | finish mine ending =>
      simp only [step, finish]
      split
      · exact (List.mem_erase_of_ne fun same => other (congrArg some same.symm)).mpr pending
      · exact pending
  | drop mine =>
      simp only [step, drop]
      split
      · exact (List.mem_erase_of_ne fun same => other (congrArg some same.symm)).mpr pending
      · exact pending
  | timeOut => exact pending
  | advance duration => exact pending

theorem fold_timeless (acts : List Act) (timeless : ∀ act ∈ acts, act.takesTime = false) :
    (acts.foldl (step policy) watch).now = watch.now := by
  induction acts generalizing watch with
  | nil => rfl
  | cons act rest ih =>
      have now := step_timeless policy watch act (timeless act List.mem_cons_self)
      have later := ih (watch.step policy act)
        fun other member => timeless other (List.mem_cons_of_mem act member)
      exact later.trans now

theorem fold_spares (acts : List Act) (call : Nat) (pending : call ∈ watch.calls)
    (others : ∀ act ∈ acts, act.call? ≠ some call) :
    call ∈ (acts.foldl (step policy) watch).calls := by
  induction acts generalizing watch with
  | nil => exact pending
  | cons act rest ih =>
      refine ih _ (step_spares policy watch act call pending (others act List.mem_cons_self)) ?_
      exact fun other member => others other (List.mem_cons_of_mem act member)

end Watch
end Roster
