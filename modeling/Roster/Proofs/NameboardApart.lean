import Roster.Proofs.Nameboard

/-!
Breakers of different names do not meet. What is done through the handles of others leaves the
breaker of a name and its calls as they are and only takes its time. So that breaker behaves
as if nobody else were there and time had gone on by itself.
-/

namespace Roster
namespace Nameboard

variable {α : Type}

open Switchboard (Act Answer)

/-- Whether an act is done to the breaker of a name: through one of its handles, or to one of
its calls. -/
def concerns (board : Nameboard) (name : String) : Act α → Bool
  | .obtain .. | .advance _ => false
  | .start _ handle | .call handle .. | .recordTimeout handle =>
    board.handles[handle]? == some name
  | .finish id _ | .drop id => board.calls id == some name

/-- What is left of an act for the breakers that it is not done to: the time it takes. But a
call that is let in takes its id from the one that had it; and requests stay, so that handles
are the same ones. -/
def leftOf (board : Nameboard) (act : Act α) : Act α :=
  match act with
  | .obtain name policy => .obtain name policy
  | .start id handle => if (board.handles[handle]?).any board.admits then .drop id else .advance 0
  | _ => .advance ((board.step act).1.now - board.now)

def seenFrom (board : Nameboard) (name : String) (act : Act α) : Act α :=
  if board.concerns name act then act else board.leftOf act

def view (name : String) (board : Nameboard) : List (Act α) → List (Act α)
  | [] => []
  | act :: rest => board.seenFrom name act :: view name (board.step act).1 rest

structure Spares (name : String) (board next : Nameboard) : Prop where
  machine : next.machines name = board.machines name
  calls : ∀ id, next.calls id = some name ↔ board.calls id = some name
  handles : next.handles = board.handles
  now : board.now ≤ next.now

/-- The breaker of a name and its calls are the same on two boards, and there are no other
calls on the first. -/
structure Alike (name : String) (alone board : Nameboard) : Prop where
  machine : alone.machines name = board.machines name
  calls : ∀ id other, alone.calls id = some other ↔ board.calls id = some other ∧ other = name
  handles : alone.handles = board.handles
  now : alone.now = board.now

section Sparing

variable (name : String)

theorem Spares.refl (board : Nameboard) : Spares name board board where
  machine := rfl
  calls := fun _ => Iff.rfl
  handles := rfl
  now := Nat.le_refl _

theorem Spares.trans (board between next : Nameboard) (first : Spares name board between)
    (second : Spares name between next) : Spares name board next where
  machine := second.machine.trans first.machine
  calls := fun id => (second.calls id).trans (first.calls id)
  handles := second.handles.trans first.handles
  now := Nat.le_trans first.now second.now

variable (board : Nameboard)

theorem spares_advance (duration : Nat) : Spares name board (board.advance duration) where
  machine := rfl
  calls := fun _ => Iff.rfl
  handles := rfl
  now := Nat.le_add_right _ _

theorem spares_change (other : String) (next : BreakerPolicy → Breaker → Breaker)
    (apart : other ≠ name) : Spares name board (board.change other next) where
  machine := by
    rw [machines_change, if_neg (Ne.symm apart)]
  calls := fun _ => Iff.rfl
  handles := rfl
  now := Nat.le_refl _

theorem spares_enter (other : String) (apart : other ≠ name) :
    Spares name board (board.enter other) :=
  spares_change name board other _ apart

theorem spares_release (other : String) (apart : other ≠ name) :
    Spares name board (board.release other) :=
  spares_change name board other _ apart

theorem spares_conclude (other : String) (outcome : Except Fault α) (apart : other ≠ name) :
    Spares name board (board.conclude other outcome) :=
  spares_change name board other _ apart

theorem spares_timeout (other : String) (apart : other ≠ name) :
    Spares name board (board.recordTimeout other) :=
  spares_change name board other _ apart

theorem spares_forget (id : String) (foreign : board.calls id ≠ some name) :
    Spares name board (board.note id none) where
  machine := rfl
  calls := by
    intro known
    rw [calls_note]
    by_cases same : known = id
    · rw [if_pos same, same]
      constructor
      · intro its
        cases its
      · exact fun its => absurd its foreign
    · rw [if_neg same]
  handles := rfl
  now := Nat.le_refl _

theorem now_drop (id : String) : (board.drop id).now = board.now := by
  unfold drop
  cases board.calls id with
  | none => rfl
  | some other => rfl

theorem drop_free (id : String) : (board.drop id).calls id = none := by
  unfold drop
  cases known : board.calls id with
  | none => exact known
  | some other => rw [calls_note, if_pos rfl]

theorem spares_drop (id : String) (foreign : board.calls id ≠ some name) :
    Spares name board (board.drop id) := by
  unfold drop
  cases known : board.calls id with
  | none => exact Spares.refl name board
  | some other =>
      have apart : other ≠ name := by
        rintro rfl
        exact foreign known
      apply Spares.trans name _ (board.release other)
      · exact spares_release name board other apart
      · exact spares_forget name (board.release other) id foreign

theorem spares_finish (id : String) (outcome : Timed (Except Fault α))
    (foreign : board.calls id ≠ some name) : Spares name board (board.finish id outcome).1 := by
  unfold finish
  cases known : board.calls id with
  | none => exact Spares.refl name board
  | some other =>
      have apart : other ≠ name := by
        rintro rfl
        exact foreign known
      apply Spares.trans name _ (board.advance outcome.after)
      · exact spares_advance name board outcome.after
      · apply Spares.trans name _ ((board.advance outcome.after).conclude other outcome.value)
        · exact spares_conclude name _ other outcome.value apart
        · exact spares_forget name _ id foreign

theorem spares_call (other : String) (outcome : Timed (Except Fault α)) (patience : Option Nat)
    (apart : other ≠ name) : Spares name board (board.call other outcome patience).1 := by
  have entered := spares_enter name board other apart
  unfold call
  split
  · have waited (duration : Nat) : Spares name board ((board.enter other).advance duration) :=
      entered.trans name _ _ _ (spares_advance name _ duration)
    split
    · exact (waited _).trans name _ _ _ (spares_release name _ other apart)
    · exact (waited _).trans name _ _ _ (spares_conclude name _ other outcome.value apart)
  · exact entered

theorem spares_through (handle : Nat) (use : String → Nameboard × Answer α)
    (foreign : board.handles[handle]? ≠ some name)
    (spared : ∀ other, other ≠ name → Spares name board (use other).1) :
    Spares name board (board.through handle use).1 := by
  unfold through
  cases given : board.handles[handle]? with
  | none => exact Spares.refl name board
  | some other =>
      apply spared
      rintro rfl
      exact foreign given

end Sparing

section Likeness

variable (name : String) (alone board : Nameboard) (alike : Alike name alone board)

include alike

theorem alike_known (id : String) (mine : board.calls id = some name) :
    alone.calls id = some name :=
  (alike.calls id name).mpr ⟨mine, rfl⟩

theorem alike_unknown (id : String) (foreign : board.calls id ≠ some name) :
    alone.calls id = none := by
  cases known : alone.calls id with
  | none => rfl
  | some other =>
      obtain ⟨same, isName⟩ := (alike.calls id other).mp known
      rw [isName] at same
      exact absurd same foreign

/-- What others do leaves nothing but the time it takes. -/
theorem alike_spared (next : Nameboard) (spares : Spares name board next) :
    Alike name (alone.advance (next.now - board.now)) next where
  machine := alike.machine.trans spares.machine.symm
  calls := by
    intro id other
    constructor
    · intro known
      obtain ⟨its, rfl⟩ := (alike.calls id other).mp known
      exact ⟨(spares.calls id).mpr its, rfl⟩
    · rintro ⟨its, rfl⟩
      exact alike_known _ alone board alike id ((spares.calls id).mp its)
  handles := alike.handles.trans spares.handles.symm
  now := by
    have later := spares.now
    have same := alike.now
    simp only [advance]
    omega

theorem alike_at_once (next : Nameboard) (spares : Spares name board next)
    (atOnce : next.now = board.now) : Alike name alone next := by
  have later := alike_spared name alone board alike next spares
  rw [atOnce, Nat.sub_self] at later
  exact later

theorem alike_advance (duration : Nat) :
    Alike name (alone.advance duration) (board.advance duration) where
  machine := alike.machine
  calls := alike.calls
  handles := alike.handles
  now := congrArg (· + duration) alike.now

theorem alike_change (next : BreakerPolicy → Breaker → Breaker) :
    Alike name (alone.change name next) (board.change name next) where
  machine := by
    rw [machines_change, machines_change, if_pos rfl, if_pos rfl, alike.machine]
  calls := alike.calls
  handles := alike.handles
  now := alike.now

theorem alike_note (id : String) (its : Option String)
    (owned : ∀ other, its = some other → other = name) :
    Alike name (alone.note id its) (board.note id its) where
  machine := alike.machine
  calls := by
    intro known other
    rw [calls_note, calls_note]
    by_cases same : known = id
    · rw [if_pos same, if_pos same]
      exact ⟨fun isOther => ⟨isOther, owned other isOther⟩, fun both => both.1⟩
    · rw [if_neg same, if_neg same]
      exact alike.calls known other
  handles := alike.handles
  now := alike.now

theorem alike_forget (id : String) : Alike name (alone.note id none) (board.note id none) := by
  apply alike_note name alone board alike id none
  intro other its
  cases its

theorem alike_note_other (id other : String) (free : alone.calls id = none) (apart : other ≠ name) :
    Alike name alone (board.note id (some other)) where
  machine := alike.machine
  calls := by
    intro known called
    rw [calls_note]
    by_cases same : known = id
    · rw [if_pos same, same, free]
      constructor
      · intro its
        cases its
      · rintro ⟨its, rfl⟩
        exact absurd (Option.some.inj its) apart
    · rw [if_neg same]
      exact alike.calls known called
  handles := alike.handles
  now := alike.now

theorem alike_admits : alone.admits name = board.admits name := by
  rw [admits, admits, alike.machine, alike.now]

theorem alike_enter : Alike name (alone.enter name) (board.enter name) := by
  rw [enter, enter, alike.now]
  exact alike_change name alone board alike _

theorem alike_release : Alike name (alone.release name) (board.release name) :=
  alike_change name alone board alike _

theorem alike_conclude (outcome : Except Fault α) :
    Alike name (alone.conclude name outcome) (board.conclude name outcome) := by
  rw [conclude, conclude, alike.now]
  exact alike_change name alone board alike _

theorem alike_drop (id : String) : Alike name (alone.drop id) (board.drop id) := by
  by_cases mine : board.calls id = some name
  · simp only [drop, mine, alike_known name alone board alike id mine]
    have released := alike_release name alone board alike
    exact alike_forget name _ _ released id
  · have still : Alike name alone (board.drop id) := by
      apply alike_at_once name alone board alike
      · exact spares_drop name board id mine
      · exact now_drop board id
    simp only [drop, alike_unknown name alone board alike id mine]
    exact still

/-! The acts that are done to the breaker. -/

theorem alike_start (id : String) :
    Alike name (alone.start id name).1 (board.start id name).1 ∧
      (alone.start id name).2 = (board.start id name).2 := by
  have entered := alike_enter name alone board alike
  unfold start
  rw [alike_admits name alone board alike]
  split
  · have dropped := alike_drop name _ _ entered id
    constructor
    · apply alike_note name _ _ dropped id (some name)
      intro other same
      exact (Option.some.inj same).symm
    · rfl
  · exact ⟨entered, rfl⟩

theorem alike_finish (id : String) (outcome : Timed (Except Fault α))
    (mine : board.calls id = some name) :
    Alike name (alone.finish id outcome).1 (board.finish id outcome).1 ∧
      (alone.finish id outcome).2 = (board.finish id outcome).2 := by
  have waited := alike_advance name alone board alike outcome.after
  have concluded := alike_conclude name _ _ waited outcome.value
  simp only [finish, mine, alike_known name alone board alike id mine]
  exact ⟨alike_forget name _ _ concluded id, trivial⟩

theorem alike_call (outcome : Timed (Except Fault α)) (patience : Option Nat) :
    Alike name (alone.call name outcome patience).1 (board.call name outcome patience).1 ∧
      (alone.call name outcome patience).2 = (board.call name outcome patience).2 := by
  have entered := alike_enter name alone board alike
  unfold call
  rw [alike_admits name alone board alike]
  split
  · split
    · rename_i limit impatient
      have waited := alike_advance name _ _ entered limit
      exact ⟨alike_release name _ _ waited, rfl⟩
    · have waited := alike_advance name _ _ entered outcome.after
      exact ⟨alike_conclude name _ _ waited outcome.value, rfl⟩
  · exact ⟨entered, rfl⟩

theorem alike_timeout : Alike name (alone.recordTimeout name) (board.recordTimeout name) := by
  rw [recordTimeout, recordTimeout, alike.now]
  exact alike_change name alone board alike _

theorem alike_obtain (other : String) (policy : BreakerPolicy) :
    Alike name (alone.obtain other policy) (board.obtain other policy) where
  machine := by
    rw [machines_obtain, machines_obtain]
    by_cases same : name = other
    · subst same
      rw [if_pos rfl, if_pos rfl, alike.machine]
    · rw [if_neg same, if_neg same, alike.machine]
  calls := alike.calls
  handles := congrArg (· ++ [other]) alike.handles
  now := alike.now

theorem alike_through (handle : Nat) (use useAlone : String → Nameboard × Answer α)
    (mine : board.handles[handle]? = some name)
    (same : Alike name (useAlone name).1 (use name).1 ∧ (useAlone name).2 = (use name).2) :
    Alike name (alone.through handle useAlone).1 (board.through handle use).1 ∧
      (alone.through handle useAlone).2 = (board.through handle use).2 := by
  simp only [through, alike.handles, mine]
  exact same

/-- What is done to the breaker is done to the same one, and answered alike. -/
theorem alike_concerned (act : Act α) (concerned : board.concerns name act = true) :
    Alike name (alone.step act).1 (board.step act).1 ∧
      (alone.step act).2 = (board.step act).2 := by
  cases act with
  | obtain other policy => cases concerned
  | advance duration => cases concerned
  | start id handle =>
      apply alike_through name alone board alike handle _ _ (beq_iff_eq.mp concerned)
      have started := alike_start name alone board alike id
      exact ⟨started.1, congrArg Answer.admitted started.2⟩
  | finish id outcome =>
      have finished := alike_finish name alone board alike id outcome (beq_iff_eq.mp concerned)
      exact ⟨finished.1, congrArg Answer.ended finished.2⟩
  | drop id =>
      have mine : board.calls id = some name := beq_iff_eq.mp concerned
      have its := alike_known name alone board alike id mine
      constructor
      · exact alike_drop name alone board alike id
      · simp only [step, mine, its]
  | call handle outcome patience =>
      apply alike_through name alone board alike handle _ _ (beq_iff_eq.mp concerned)
      have called := alike_call name alone board alike outcome patience
      exact ⟨called.1, congrArg Answer.ended called.2⟩
  | recordTimeout handle =>
      apply alike_through name alone board alike handle _ _ (beq_iff_eq.mp concerned)
      exact ⟨alike_timeout name alone board alike, rfl⟩

theorem alike_start_foreign (id : String) (handle : Nat)
    (foreign : board.handles[handle]? ≠ some name) :
    Alike name (alone.step (board.leftOf (.start id handle : Act α))).1
      (board.step (.start id handle : Act α)).1 := by
  cases given : board.handles[handle]? with
  | none =>
      simp only [leftOf, step, through, given, Option.any_none]
      exact alike
  | some other =>
      have apart : other ≠ name := by
        rintro rfl
        exact foreign given
      have shared : Alike name alone (board.enter other) := by
        apply alike_at_once name alone board alike
        · exact spares_enter name board other apart
        · rfl
      cases admitted : board.admits other with
      | false =>
          simp only [leftOf, step, through, given, Option.any_some, start, admitted]
          exact shared
      | true =>
          simp only [leftOf, step, through, given, Option.any_some, start, admitted]
          -- The id may be taken from a call of the breaker, which is then dropped on both.
          have dropped := alike_drop name alone _ shared id
          exact alike_note_other name _ _ dropped id other (drop_free alone id) apart

/-- Of an act that is not done to the breaker nothing but its time is left. -/
theorem alike_foreign (act : Act α) (foreign : board.concerns name act = false) :
    Alike name (alone.step (board.leftOf act)).1 (board.step act).1 := by
  cases act with
  | obtain other policy => exact alike_obtain name alone board alike other policy
  | start id handle =>
      exact alike_start_foreign name alone board alike id handle (beq_eq_false_iff_ne.mp foreign)
  | advance duration =>
      exact alike_spared name alone board alike _ (spares_advance name board duration)
  | finish id outcome =>
      have known := beq_eq_false_iff_ne.mp foreign
      exact alike_spared name alone board alike _ (spares_finish name board id outcome known)
  | drop id =>
      have known := beq_eq_false_iff_ne.mp foreign
      exact alike_spared name alone board alike _ (spares_drop name board id known)
  | call handle outcome patience =>
      have given := beq_eq_false_iff_ne.mp foreign
      apply alike_spared name alone board alike
      apply spares_through name board handle _ given
      exact fun other apart => spares_call name board other outcome patience apart
  | recordTimeout handle =>
      have given := beq_eq_false_iff_ne.mp foreign
      apply alike_spared name alone board alike
      apply spares_through name board handle _ given
      exact fun other apart => spares_timeout name board other apart

theorem alike_step (act : Act α) :
    Alike name (alone.step (board.seenFrom name act)).1 (board.step act).1 := by
  cases concerned : board.concerns name act with
  | true =>
      rw [seenFrom, concerned]
      exact (alike_concerned name alone board alike act concerned).1
  | false =>
      rw [seenFrom, concerned]
      exact alike_foreign name alone board alike act concerned

theorem alike_run (acts : List (Act α)) :
    Alike name (alone.run (view name board acts)) (board.run acts) := by
  induction acts generalizing alone board with
  | nil => exact alike
  | cons act rest ih => exact ih _ _ (alike_step name alone board alike act)

end Likeness

theorem alike_empty (name : String) : Alike name {} {} where
  machine := rfl
  calls := by
    intro id other
    constructor
    · intro known
      cases known
    · rintro ⟨known, _⟩
      cases known
  handles := rfl
  now := rfl

end Nameboard
end Roster
