import Roster.Proofs.PanelNames
import Roster.Traffic

/-!
The breakers of a process in use. A breaker is asked for by its name, as often as anyone
likes; the places that were handed out are kept as handles, and whatever is done to breakers
is done through them, while calls overlap and time goes on. The breakers themselves change in
single updates only, so what updates and requests keep holds as long as the process lives.
-/

namespace Roster

namespace Phase

def leadsTo : Phase → Phase → Bool
  | .closed, .halfOpen | .opened, .closed => false
  | _, _ => true

theorem leadsTo_self (phase : Phase) : phase.leadsTo phase = true := by
  cases phase <;> rfl

end Phase

namespace Breaker

variable (breaker : Breaker) (policy : BreakerPolicy) (now : Nat)

theorem enter_leads : breaker.phase.leadsTo (breaker.enter policy now).1.phase = true := by
  cases phase : breaker.phase with
  | closed =>
      rw [enter_closed breaker policy now phase, phase]
      rfl
  | opened =>
      cases cooled : breaker.hasCooled policy now with
      | false =>
          rw [enter_resting breaker policy now phase cooled, phase]
          rfl
      | true =>
          rw [enter_cooled breaker policy now phase cooled]
          rfl
  | halfOpen =>
      rw [enter_halfOpen breaker policy now phase]
      rfl

theorem succeed_leads : breaker.phase.leadsTo (breaker.succeed policy).phase = true := by
  cases phase : breaker.phase with
  | closed =>
      rw [succeed_closed breaker policy phase, phase]
      rfl
  | opened =>
      rw [succeed_opened breaker policy phase, phase]
      rfl
  | halfOpen =>
      by_cases enough : policy.successThreshold ≤ breaker.successes + 1
      · rw [succeed_enough breaker policy phase enough]
        rfl
      · rw [succeed_short breaker policy phase (Nat.not_le.mp enough)]
        rfl

theorem fail_leads : breaker.phase.leadsTo (breaker.fail policy now).phase = true := by
  have nowhere := fail_not_halfOpen breaker policy now
  cases phase : breaker.phase with
  | closed =>
      cases next : (breaker.fail policy now).phase with
      | closed => rfl
      | opened => rfl
      | halfOpen => exact absurd next nowhere
  | opened =>
      rw [fail_opened breaker policy now phase, phase]
      rfl
  | halfOpen =>
      rw [fail_halfOpen breaker policy now phase]
      rfl

theorem release_leads : breaker.phase.leadsTo breaker.release.phase = true := by
  rw [release_phase]
  exact Phase.leadsTo_self breaker.phase

theorem conclude_leads (ending : Ending) :
    breaker.phase.leadsTo (breaker.conclude policy now ending).phase = true := by
  cases answer : ending.isAnswer with
  | true =>
      rw [conclude_answer breaker policy now ending answer]
      exact succeed_leads breaker policy
  | false =>
      rw [conclude_failure breaker policy now ending answer]
      exact fail_leads breaker policy now

end Breaker

/-- What holds of a panel whatever becomes of its breakers: requests for breakers keep it, and
so does every change of one that its phase allows. -/
structure Panel.Kept (holds : Panel → Prop) : Prop where
  obtain : ∀ panel name policy, holds panel → holds (panel.obtain name policy).1
  update : ∀ panel place change,
    (∀ policy breaker, Phase.leadsTo breaker.phase (change policy breaker).phase = true) →
      holds panel → holds (panel.update place change)

namespace Panel

def Standing (panel next : Panel) : Prop :=
  ∀ place name, panel.Stands place name → next.Stands place name

theorem kept_standing (panel : Panel) : Kept panel.Standing where
  obtain next name policy standing place known stands :=
    next.stands_obtain place name policy known (standing place known stands)
  update next place change _ standing other known stands := by
    rw [stands_update]
    exact standing other known stands

end Panel

namespace Traffic

variable {α : Type} (holds : Panel → Prop) (kept : Panel.Kept holds) (traffic : Traffic)

include kept

theorem keeps_enter (place : Nat) (before : holds traffic.panel) :
    holds (traffic.panel.enter place traffic.now).1 := by
  rw [Panel.enter_eq_update]
  apply kept.update
  · intro policy breaker
    exact breaker.enter_leads policy traffic.now
  · exact before

theorem keeps_release (place : Nat) (before : holds traffic.panel) :
    holds (traffic.panel.release place) := by
  apply kept.update
  · intro policy breaker
    exact breaker.release_leads
  · exact before

theorem keeps_conclude (place : Nat) (outcome : Except Fault α) (before : holds traffic.panel) :
    holds (traffic.panel.conclude place traffic.now Fault.isTransient outcome) := by
  rw [Panel.conclude_eq_update]
  apply kept.update
  · intro policy breaker
    exact breaker.conclude_leads policy traffic.now _
  · exact before

theorem keeps_timeout (place : Nat) (before : holds traffic.panel) :
    holds (traffic.recordTimeout place).panel := by
  change holds (traffic.panel.fail place traffic.now)
  apply kept.update
  · intro policy breaker
    exact breaker.fail_leads policy traffic.now
  · exact before

theorem keeps_drop (id : String) (before : holds traffic.panel) :
    holds (traffic.drop id).panel := by
  unfold drop
  cases traffic.calls.lookup id with
  | none => exact before
  | some place => exact keeps_release holds kept traffic place before

theorem keeps_start (id : String) (place : Nat) (before : holds traffic.panel) :
    holds (traffic.start id place).1.panel := by
  have entered := keeps_enter holds kept traffic place before
  unfold start
  cases enter : traffic.panel.enter place traffic.now with
  | mk panel admitted =>
      rw [enter] at entered
      cases admitted with
      | false => exact entered
      | true => exact keeps_drop holds kept (traffic.withPanel panel) id entered

theorem keeps_finish (id : String) (outcome : Timed (Except Fault α))
    (before : holds traffic.panel) : holds (traffic.finish id outcome).1.panel := by
  unfold finish
  cases traffic.calls.lookup id with
  | none => exact before
  | some place =>
      exact keeps_conclude holds kept (traffic.advance outcome.after) place outcome.value before

theorem keeps_call (place : Nat) (outcome : Timed (Except Fault α)) (patience : Option Nat)
    (before : holds traffic.panel) : holds (traffic.call place outcome patience).1.panel := by
  have entered := keeps_enter holds kept traffic place before
  unfold call
  cases enter : traffic.panel.enter place traffic.now with
  | mk panel admitted =>
      rw [enter] at entered
      cases admitted with
      | false => exact entered
      | true =>
          cases (patience.map waitFor).filter (· < outcome.after) with
          | some limit =>
              exact keeps_release holds kept ((traffic.withPanel panel).advance limit) place entered
          | none =>
              exact keeps_conclude holds kept ((traffic.withPanel panel).advance outcome.after)
                place outcome.value entered

end Traffic

/-- The traffic through the breakers, and the places that were handed out, the latest last. -/
structure Switchboard where
  traffic : Traffic := {}
  handles : List Nat := []

namespace Switchboard

variable {α : Type}

/-- What can be done. A handle is given by how many were handed out before it. -/
inductive Act (α : Type) where
  | obtain (name : String) (policy : BreakerPolicy)
  | advance (duration : Nat)
  | start (id : String) (handle : Nat)
  | finish (id : String) (outcome : Timed (Except Fault α))
  | drop (id : String)
  | call (handle : Nat) (outcome : Timed (Except Fault α)) (patience : Option Nat)
  | recordTimeout (handle : Nat)

def Act.asked? : Act α → Option String
  | .obtain name _ => some name
  | _ => none

inductive Answer (α : Type) where
  | silent
  | admitted (isAdmitted : Bool)
  | ended (result : Option (Guarded α))
  | dropped (wasInFlight : Bool)

def fresh (measured : Bool) : Switchboard where
  traffic := { panel := { measured } }

def panel (board : Switchboard) : Panel := board.traffic.panel

def obtain (board : Switchboard) (name : String) (policy : BreakerPolicy) : Switchboard where
  traffic := board.traffic.withPanel (board.panel.obtain name policy).1
  handles := board.handles ++ [(board.panel.obtain name policy).2]

def withTraffic (board : Switchboard) (traffic : Traffic) : Switchboard := { board with traffic }

def through (board : Switchboard) (handle : Nat) (use : Nat → Traffic × Answer α) :
    Switchboard × Answer α :=
  match board.handles[handle]? with
  | none => (board, .silent)
  | some place => (board.withTraffic (use place).1, (use place).2)

def step (board : Switchboard) : Act α → Switchboard × Answer α
  | .obtain name policy => (board.obtain name policy, .silent)
  | .advance duration => (board.withTraffic (board.traffic.advance duration), .silent)
  | .start id handle =>
    board.through handle fun place =>
      let (traffic, isAdmitted) := board.traffic.start id place
      (traffic, .admitted isAdmitted)
  | .finish id outcome =>
    let (traffic, result) := board.traffic.finish id outcome
    (board.withTraffic traffic, .ended result)
  | .drop id => (board.withTraffic (board.traffic.drop id), .dropped (board.traffic.isInFlight id))
  | .call handle outcome patience =>
    board.through handle fun place =>
      let (traffic, result) := board.traffic.call place outcome patience
      (traffic, .ended result)
  | .recordTimeout handle =>
    board.through handle fun place => (board.traffic.recordTimeout place, .silent)

def run (board : Switchboard) (acts : List (Act α)) : Switchboard :=
  acts.foldl (fun board act => (board.step act).1) board

def answers (board : Switchboard) : List (Act α) → List (Answer α)
  | [] => []
  | act :: rest => (board.step act).2 :: answers (board.step act).1 rest

theorem handles_through (board : Switchboard) (handle : Nat) (use : Nat → Traffic × Answer α) :
    (board.through handle use).1.handles = board.handles := by
  unfold through
  cases board.handles[handle]? with
  | none => rfl
  | some place => rfl

theorem handles_step (board : Switchboard) (act : Act α) (noRequest : act.asked? = none) :
    (board.step act).1.handles = board.handles := by
  cases act with
  | obtain name policy => cases noRequest
  | advance duration => rfl
  | start id handle => exact handles_through board handle _
  | finish id outcome => rfl
  | drop id => rfl
  | call handle outcome patience => exact handles_through board handle _
  | recordTimeout handle => exact handles_through board handle _

section Keeping

variable (holds : Panel → Prop) (kept : Panel.Kept holds) (board : Switchboard)

theorem keeps_through (handle : Nat) (use : Nat → Traffic × Answer α)
    (before : holds board.panel) (after : ∀ place, holds (use place).1.panel) :
    holds (board.through handle use).1.panel := by
  unfold through
  cases board.handles[handle]? with
  | none => exact before
  | some place => exact after place

include kept

theorem step_keeps (act : Act α) (before : holds board.panel) :
    holds (board.step act).1.panel := by
  cases act with
  | obtain name policy => exact kept.obtain _ name policy before
  | advance duration => exact before
  | start id handle =>
      apply keeps_through holds board handle
      · exact before
      · intro place
        exact Traffic.keeps_start holds kept board.traffic id place before
  | finish id outcome => exact Traffic.keeps_finish holds kept board.traffic id outcome before
  | drop id => exact Traffic.keeps_drop holds kept board.traffic id before
  | call handle outcome patience =>
      apply keeps_through holds board handle
      · exact before
      · intro place
        exact Traffic.keeps_call holds kept board.traffic place outcome patience before
  | recordTimeout handle =>
      apply keeps_through holds board handle
      · exact before
      · intro place
        exact Traffic.keeps_timeout holds kept board.traffic place before

theorem run_keeps (acts : List (Act α)) (before : holds board.panel) :
    holds (board.run acts).panel := by
  induction acts generalizing board with
  | nil => exact before
  | cons act rest ih => exact ih _ (step_keeps holds kept board act before)

end Keeping

end Switchboard
end Roster
