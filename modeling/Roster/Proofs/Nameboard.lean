import Mathlib.Data.List.Forall2
import Mathlib.Logic.Function.Basic
import Roster.Proofs.Switchboard

/-!
One breaker to a name. On a nameboard there are no places and no handles to share: there is a
breaker by itself for each name that was asked for, with the policy of whoever asked first,
and whatever is done is done to the breaker of a name. A switchboard cannot be told from it:
each act leaves both alike and is answered alike.
-/

namespace Roster

structure Machine where
  policy : BreakerPolicy
  breaker : Breaker := {}

/-- The breakers by their names, the name of the breaker that each call in flight went
through, and the names that were asked for, the latest last. -/
structure Nameboard where
  machines : String → Option Machine := fun _ => none
  calls : String → Option String := fun _ => none
  now : Nat := 0
  handles : List String := []

namespace Nameboard

variable {α : Type}

open Switchboard (Act Answer)

def advance (board : Nameboard) (duration : Nat) : Nameboard :=
  { board with now := board.now + duration }

def change (board : Nameboard) (name : String) (next : BreakerPolicy → Breaker → Breaker) :
    Nameboard :=
  { board with
    machines := Function.update board.machines name <| (board.machines name).map fun machine =>
      { machine with breaker := next machine.policy machine.breaker } }

/-- From now on the call of an id goes through the breaker of a name, or is over. -/
def note (board : Nameboard) (id : String) (name : Option String) : Nameboard :=
  { board with calls := Function.update board.calls id name }

theorem machines_change (board : Nameboard) (name other : String)
    (next : BreakerPolicy → Breaker → Breaker) :
    (board.change name next).machines other =
      if other = name then
        (board.machines name).map fun machine =>
          { machine with breaker := next machine.policy machine.breaker }
      else board.machines other :=
  Function.update_apply _ _ _ _

theorem calls_note (board : Nameboard) (id other : String) (name : Option String) :
    (board.note id name).calls other = if other = id then name else board.calls other :=
  Function.update_apply _ _ _ _

def admits (board : Nameboard) (name : String) : Bool :=
  (board.machines name).any fun machine => (machine.breaker.enter machine.policy board.now).2

def enter (board : Nameboard) (name : String) : Nameboard :=
  board.change name fun policy breaker => (breaker.enter policy board.now).1

def release (board : Nameboard) (name : String) : Nameboard :=
  board.change name fun _ breaker => breaker.release

def conclude (board : Nameboard) (name : String) (outcome : Except Fault α) : Nameboard :=
  board.change name fun policy breaker =>
    breaker.conclude policy board.now (.ofOutcome Fault.isTransient outcome)

def recordTimeout (board : Nameboard) (name : String) : Nameboard :=
  board.change name fun policy breaker => breaker.fail policy board.now

def obtain (board : Nameboard) (name : String) (policy : BreakerPolicy) : Nameboard :=
  { board with
    machines := Function.update board.machines name <|
      some <| (board.machines name).getD { policy := policy }
    handles := board.handles ++ [name] }

theorem machines_obtain (board : Nameboard) (name other : String) (policy : BreakerPolicy) :
    (board.obtain name policy).machines other =
      if other = name then some ((board.machines name).getD { policy := policy })
      else board.machines other :=
  Function.update_apply _ _ _ _

def drop (board : Nameboard) (id : String) : Nameboard :=
  match board.calls id with
  | none => board
  | some name => (board.release name).note id none

def start (board : Nameboard) (id name : String) : Nameboard × Bool :=
  if board.admits name then (((board.enter name).drop id).note id (some name), true)
  else (board.enter name, false)

def finish (board : Nameboard) (id : String) (outcome : Timed (Except Fault α)) :
    Nameboard × Option (Guarded α) :=
  match board.calls id with
  | none => (board, none)
  | some name =>
    (((board.advance outcome.after).conclude name outcome.value).note id none,
      some (.ofOutcome outcome.value))

def call (board : Nameboard) (name : String) (outcome : Timed (Except Fault α))
    (patience : Option Nat) : Nameboard × Option (Guarded α) :=
  if board.admits name then
    match (patience.map waitFor).filter (· < outcome.after) with
    | some limit => (((board.enter name).advance limit).release name, none)
    | none =>
      (((board.enter name).advance outcome.after).conclude name outcome.value,
        some (.ofOutcome outcome.value))
  else (board.enter name, some .refused)

/-- Through a handle that was never handed out nothing is done. -/
def through (board : Nameboard) (handle : Nat) (use : String → Nameboard × Answer α) :
    Nameboard × Answer α :=
  match board.handles[handle]? with
  | none => (board, .silent)
  | some name => use name

def step (board : Nameboard) : Act α → Nameboard × Answer α
  | .obtain name policy => (board.obtain name policy, .silent)
  | .advance duration => (board.advance duration, .silent)
  | .start id handle =>
    board.through handle fun name =>
      let (next, isAdmitted) := board.start id name
      (next, .admitted isAdmitted)
  | .finish id outcome =>
    let (next, result) := board.finish id outcome
    (next, .ended result)
  | .drop id => (board.drop id, .dropped (board.calls id).isSome)
  | .call handle outcome patience =>
    board.through handle fun name =>
      let (next, result) := board.call name outcome patience
      (next, .ended result)
  | .recordTimeout handle => board.through handle fun name => (board.recordTimeout name, .silent)

def run (board : Nameboard) (acts : List (Act α)) : Nameboard :=
  acts.foldl (fun board act => (board.step act).1) board

def answers (board : Nameboard) : List (Act α) → List (Answer α)
  | [] => []
  | act :: rest => (board.step act).2 :: answers (board.step act).1 rest

/-! What changes of breakers, ends of calls and time leave as it is changes by requests only. -/

section Fixed

variable {β : Type} (observe : Nameboard → β)

structure Fixed : Prop where
  change : ∀ board name next, observe (change board name next) = observe board
  note : ∀ board id name, observe (note board id name) = observe board
  advance : ∀ board duration, observe (advance board duration) = observe board

variable (fixed : Fixed observe) (board : Nameboard)

theorem fixed_through (handle : Nat) (use : String → Nameboard × Answer α)
    (same : ∀ name, observe (use name).1 = observe board) :
    observe (board.through handle use).1 = observe board := by
  unfold through
  cases board.handles[handle]? with
  | none => rfl
  | some name => exact same name

include fixed

theorem fixed_drop (id : String) : observe (board.drop id) = observe board := by
  unfold drop
  cases board.calls id with
  | none => rfl
  | some name => exact (fixed.note _ id none).trans (fixed.change board name _)

theorem fixed_start (id name : String) : observe (board.start id name).1 = observe board := by
  have entered : observe (board.enter name) = observe board := fixed.change board name _
  unfold start
  split
  · exact (fixed.note _ id _).trans ((fixed_drop observe fixed _ id).trans entered)
  · exact entered

theorem fixed_finish (id : String) (outcome : Timed (Except Fault α)) :
    observe (board.finish id outcome).1 = observe board := by
  unfold finish
  cases board.calls id with
  | none => rfl
  | some name =>
      have waited := fixed.advance board outcome.after
      exact (fixed.note _ id none).trans ((fixed.change _ name _).trans waited)

theorem fixed_call (name : String) (outcome : Timed (Except Fault α)) (patience : Option Nat) :
    observe (board.call name outcome patience).1 = observe board := by
  have entered : observe (board.enter name) = observe board := fixed.change board name _
  have waited (duration : Nat) := (fixed.advance (board.enter name) duration).trans entered
  have released (later : Nameboard) : observe (later.release name) = observe later :=
    fixed.change later name _
  have concluded (later : Nameboard) :
      observe (later.conclude name outcome.value) = observe later :=
    fixed.change later name _
  unfold call
  split
  · split
    · exact (released _).trans (waited _)
    · exact (concluded _).trans (waited _)
  · exact entered

theorem fixed_step (act : Act α) (noRequest : act.asked? = none) :
    observe (board.step act).1 = observe board := by
  cases act with
  | obtain name policy => cases noRequest
  | advance duration => exact fixed.advance board duration
  | start id handle =>
      apply fixed_through observe board handle
      exact fun name => fixed_start observe fixed board id name
  | finish id outcome => exact fixed_finish observe fixed board id outcome
  | drop id => exact fixed_drop observe fixed board id
  | call handle outcome patience =>
      apply fixed_through observe board handle
      exact fun name => fixed_call observe fixed board name outcome patience
  | recordTimeout handle =>
      apply fixed_through observe board handle
      intro name
      have failed : observe (board.recordTimeout name) = observe board := fixed.change board name _
      exact failed

end Fixed

theorem fixed_handles : Fixed handles where
  change _ _ _ := rfl
  note _ _ _ := rfl
  advance _ _ := rfl

theorem fixed_policy (name : String) :
    Fixed fun board => (board.machines name).map Machine.policy where
  change board other next := by
    rw [machines_change]
    by_cases same : name = other
    · rw [if_pos same, Option.map_map, same]
      rfl
    · rw [if_neg same]
  note _ _ _ := rfl
  advance _ _ := rfl

end Nameboard

theorem related_at {α β : Type} {related : α → β → Prop} {left : List α} {right : List β}
    (all : List.Forall₂ related left right) (i : Nat) :
    Option.Rel related left[i]? right[i]? := by
  induction all generalizing i with
  | nil => exact Option.Rel.none
  | cons here _ ih =>
      cases i with
      | zero => exact Option.Rel.some here
      | succ i => exact ih i

namespace Traffic

variable {α : Type}

/-- The traffic and the nameboard are alike. -/
structure Shows (traffic : Traffic) (board : Nameboard) : Prop where
  labelled : traffic.panel.Labelled
  now : traffic.now = board.now
  machines : ∀ (place : Nat) (switch : Switch), traffic.panel.switches[place]? = some switch →
    board.machines switch.name = some ⟨switch.policy, switch.breaker⟩
  unknown : ∀ name, name ∉ traffic.panel.names → board.machines name = none
  calls : ∀ id,
    Option.Rel traffic.panel.Stands (traffic.calls.lookup id) (board.calls id)

section Parts

variable (traffic : Traffic) (board : Nameboard) (shows : traffic.Shows board)

include shows

theorem shows_advance (duration : Nat) :
    (traffic.advance duration).Shows (board.advance duration) where
  labelled := shows.labelled
  now := congrArg (· + duration) shows.now
  machines := shows.machines
  unknown := shows.unknown
  calls := shows.calls

variable (place : Nat) (name : String) (stands : traffic.panel.Stands place name)

include stands

theorem shows_update (next : BreakerPolicy → Breaker → Breaker) :
    (traffic.withPanel (traffic.panel.update place next)).Shows (board.change name next) where
  labelled := traffic.panel.labelled_update place next shows.labelled
  now := shows.now
  machines := by
    intro other another there
    obtain ⟨switch, here, rfl⟩ := (traffic.panel.stands_iff place name).mp stands
    rw [Nameboard.machines_change]
    rcases traffic.panel.switch_updated place next shows.labelled switch here other another there
      with ⟨apart, stood⟩ | rfl
    · rw [if_neg apart]
      exact shows.machines other another stood
    · rw [if_pos rfl, shows.machines place switch here]
      rfl
  unknown := by
    intro other missing
    rw [withPanel, Panel.names_update] at missing
    have apart : other ≠ name := by
      rintro rfl
      exact missing (List.mem_of_getElem? stands)
    rw [Nameboard.machines_change, if_neg apart]
    exact shows.unknown other missing
  calls := by
    intro id
    rw [withPanel, Panel.stands_update]
    exact shows.calls id

theorem shows_enter :
    (traffic.withPanel (traffic.panel.enter place traffic.now).1).Shows (board.enter name) ∧
      (traffic.panel.enter place traffic.now).2 = board.admits name := by
  constructor
  · rw [Panel.enter_eq_update, shows.now]
    exact shows_update traffic board shows place name stands _
  · obtain ⟨switch, found, rfl⟩ := (traffic.panel.stands_iff place name).mp stands
    simp [Panel.enter, found, Nameboard.admits, shows.machines place switch found, shows.now]

theorem shows_release :
    (traffic.withPanel (traffic.panel.release place)).Shows (board.release name) :=
  shows_update traffic board shows place name stands _

theorem shows_conclude (outcome : Except Fault α) :
    (traffic.withPanel
      (traffic.panel.conclude place traffic.now Fault.isTransient outcome)).Shows
        (board.conclude name outcome) := by
  rw [Panel.conclude_eq_update, shows.now]
  exact shows_update traffic board shows place name stands _

theorem shows_timeout : (traffic.recordTimeout place).Shows (board.recordTimeout name) := by
  rw [recordTimeout, shows.now]
  exact shows_update traffic board shows place name stands _

theorem shows_list (id : String) :
    Shows { traffic with calls := (id, place) :: traffic.calls } (board.note id (some name)) where
  labelled := shows.labelled
  now := shows.now
  machines := shows.machines
  unknown := shows.unknown
  calls := by
    intro other
    rw [Nameboard.calls_note]
    by_cases same : other = id
    · subst same
      rw [List.lookup_cons_self, if_pos rfl]
      exact Option.Rel.some stands
    · rw [List.lookup_cons, beq_eq_false_iff_ne.mpr same, if_neg same]
      exact shows.calls other

end Parts

theorem lookup_without (calls : List (String × Nat)) (id other : String) :
    (calls.filter (·.1 != id)).lookup other = if other = id then none else calls.lookup other := by
  induction calls with
  | nil => simp
  | cons call rest ih =>
      obtain ⟨known, place⟩ := call
      by_cases gone : known = id
      · subst gone
        rw [List.filter_cons_of_neg (by simp), ih]
        by_cases same : other = known
        · simp [same]
        · simp [same, List.lookup_cons, beq_eq_false_iff_ne.mpr same]
      · by_cases same : other = known
        · subst same
          simp [gone]
        · simp [gone, ih, List.lookup_cons, beq_eq_false_iff_ne.mpr same]

theorem shows_forget (traffic : Traffic) (board : Nameboard) (shows : traffic.Shows board)
    (id : String) :
    Shows { traffic with calls := traffic.calls.filter (·.1 != id) } (board.note id none) where
  labelled := shows.labelled
  now := shows.now
  machines := shows.machines
  unknown := shows.unknown
  calls := by
    intro other
    rw [lookup_without, Nameboard.calls_note]
    by_cases same : other = id
    · rw [if_pos same, if_pos same]
      exact Option.Rel.none
    · rw [if_neg same, if_neg same]
      exact shows.calls other

/-! Whole acts. -/

section Acts

variable (traffic : Traffic) (board : Nameboard) (shows : traffic.Shows board)

include shows

theorem calls_alike (id : String) :
    (traffic.calls.lookup id = none ∧ board.calls id = none) ∨
      ∃ place name, traffic.calls.lookup id = some place ∧ board.calls id = some name ∧
        traffic.panel.Stands place name := by
  have related := shows.calls id
  cases listed : traffic.calls.lookup id with
  | none =>
      rw [listed] at related
      cases known : board.calls id with
      | none => exact .inl ⟨rfl, rfl⟩
      | some name =>
          rw [known] at related
          cases related
  | some place =>
      rw [listed] at related
      cases known : board.calls id with
      | none =>
          rw [known] at related
          cases related
      | some name =>
          rw [known] at related
          cases related with
          | some stands => exact .inr ⟨place, name, rfl, rfl, stands⟩

theorem shows_drop (id : String) :
    (traffic.drop id).Shows (board.drop id) ∧
      traffic.isInFlight id = (board.calls id).isSome := by
  rcases calls_alike traffic board shows id with ⟨listed, known⟩ |
    ⟨place, name, listed, known, stands⟩
  · simp only [drop, isInFlight, Nameboard.drop, listed, known]
    exact ⟨shows, rfl⟩
  · simp only [drop, isInFlight, Nameboard.drop, listed, known]
    have released := shows_release traffic board shows place name stands
    exact ⟨shows_forget _ _ released id, rfl⟩

theorem shows_finish (id : String) (outcome : Timed (Except Fault α)) :
    (traffic.finish id outcome).1.Shows (board.finish id outcome).1 ∧
      (traffic.finish id outcome).2 = (board.finish id outcome).2 := by
  rcases calls_alike traffic board shows id with ⟨listed, known⟩ |
    ⟨place, name, listed, known, stands⟩
  · simp only [finish, Nameboard.finish, listed, known]
    exact ⟨shows, trivial⟩
  · simp only [finish, Nameboard.finish, listed, known]
    have waited := shows_advance traffic board shows outcome.after
    have concluded := shows_conclude _ _ waited place name stands outcome.value
    exact ⟨shows_forget _ _ concluded id, trivial⟩

variable (place : Nat) (name : String) (stands : traffic.panel.Stands place name)

include stands

theorem shows_start (id : String) :
    (traffic.start id place).1.Shows (board.start id name).1 ∧
      (traffic.start id place).2 = (board.start id name).2 := by
  obtain ⟨entered, same⟩ := shows_enter traffic board shows place name stands
  have still : (traffic.panel.enter place traffic.now).1.Stands place name := by
    rw [Panel.enter_eq_update, Panel.stands_update]
    exact stands
  cases enter : traffic.panel.enter place traffic.now with
  | mk panel admitted =>
      rw [enter] at entered same still
      cases admitted with
      | false =>
          simp only [start, enter, Nameboard.start, ← same]
          exact ⟨entered, rfl⟩
      | true =>
          simp only [start, enter, Nameboard.start, ← same, ↓reduceIte]
          -- The older call of the id is dropped, whosever it was; the names stand still.
          have dropped := (shows_drop _ _ entered id).1
          have standing := keeps_drop _ panel.kept_standing (traffic.withPanel panel) id
            fun _ _ stands => stands
          exact ⟨shows_list _ _ dropped place name (standing place name still) id, trivial⟩

theorem shows_call (outcome : Timed (Except Fault α)) (patience : Option Nat) :
    (traffic.call place outcome patience).1.Shows (board.call name outcome patience).1 ∧
      (traffic.call place outcome patience).2 = (board.call name outcome patience).2 := by
  obtain ⟨entered, same⟩ := shows_enter traffic board shows place name stands
  have still : (traffic.panel.enter place traffic.now).1.Stands place name := by
    rw [Panel.enter_eq_update, Panel.stands_update]
    exact stands
  cases enter : traffic.panel.enter place traffic.now with
  | mk panel admitted =>
      rw [enter] at entered same still
      cases admitted with
      | false =>
          simp only [call, enter, Nameboard.call, ← same]
          exact ⟨entered, rfl⟩
      | true =>
          cases impatient : (patience.map waitFor).filter (· < outcome.after) with
          | some limit =>
              simp only [call, enter, Nameboard.call, ← same, impatient, ↓reduceIte]
              have waited := shows_advance _ _ entered limit
              exact ⟨shows_release _ _ waited place name still, rfl⟩
          | none =>
              simp only [call, enter, Nameboard.call, ← same, impatient, ↓reduceIte]
              have waited := shows_advance _ _ entered outcome.after
              exact ⟨shows_conclude _ _ waited place name still outcome.value, rfl⟩

end Acts

theorem shows_obtain (traffic : Traffic) (board : Nameboard) (shows : traffic.Shows board)
    (name : String) (policy : BreakerPolicy) :
    (traffic.withPanel (traffic.panel.obtain name policy).1).Shows (board.obtain name policy) where
  labelled := traffic.panel.labelled_obtain name policy shows.labelled
  now := shows.now
  machines := by
    intro place switch there
    rw [Nameboard.machines_obtain]
    cases asked : traffic.panel.find? name with
    | some known =>
        rw [withPanel, traffic.panel.obtain_known known name policy asked] at there
        have machine := shows.machines place switch there
        by_cases same : switch.name = name
        · rw [if_pos same, ← same, machine]
          rfl
        · rw [if_neg same]
          exact machine
    | none =>
        rcases traffic.panel.switch_new place name policy shows.labelled asked switch there with
          ⟨apart, before, stood⟩ | rfl
        · rw [if_neg apart]
          exact shows.machines before switch stood
        · have missing := traffic.panel.find_none name shows.labelled asked
          rw [if_pos rfl, shows.unknown name missing]
          rfl
  unknown := by
    intro other missing
    have apart : other ≠ name := by
      rintro rfl
      exact missing (List.mem_of_getElem? (traffic.panel.stands_obtained other policy))
    rw [Nameboard.machines_obtain, if_neg apart]
    apply shows.unknown
    intro member
    obtain ⟨place, stands⟩ := List.mem_iff_getElem?.mp member
    have still := traffic.panel.stands_obtain place name policy other stands
    exact missing (List.mem_of_getElem? still)
  calls := by
    intro id
    change Option.Rel _ (traffic.calls.lookup id) (board.calls id)
    rcases calls_alike traffic board shows id with ⟨listed, known⟩ |
      ⟨place, other, listed, known, stands⟩
    · rw [listed, known]
      exact Option.Rel.none
    · rw [listed, known]
      exact Option.Rel.some (traffic.panel.stands_obtain place name policy other stands)

end Traffic

namespace Switchboard

variable {α : Type}

structure Shows (board : Switchboard) (ideal : Nameboard) : Prop where
  traffic : board.traffic.Shows ideal
  handles : List.Forall₂ board.panel.Stands board.handles ideal.handles

theorem shows_fresh (measured : Bool) : (fresh measured).Shows {} where
  traffic :=
    { labelled := Panel.labelled_empty measured
      now := rfl
      machines := by
        intro place switch found
        cases found
      unknown := fun _ _ => rfl
      calls := fun _ => Option.Rel.none }
  handles := List.Forall₂.nil

section Steps

variable (board : Switchboard) (ideal : Nameboard) (shows : board.Shows ideal)

include shows

/-- What is done through a handle is done to the breaker of its name. -/
theorem shows_through (handle : Nat) (use : Nat → Traffic × Answer α)
    (useNamed : String → Nameboard × Answer α)
    (alike : ∀ place name, board.panel.Stands place name →
      (use place).1.Shows (useNamed name).1 ∧ (use place).2 = (useNamed name).2) :
    (board.through handle use).1.traffic.Shows (ideal.through handle useNamed).1 ∧
      (board.through handle use).2 = (ideal.through handle useNamed).2 := by
  have related := related_at shows.handles handle
  unfold through Nameboard.through
  cases given : board.handles[handle]? with
  | none =>
      rw [given] at related
      cases known : ideal.handles[handle]? with
      | none => exact ⟨shows.traffic, rfl⟩
      | some name =>
          rw [known] at related
          cases related
  | some place =>
      rw [given] at related
      cases known : ideal.handles[handle]? with
      | none =>
          rw [known] at related
          cases related
      | some name =>
          rw [known] at related
          cases related with
          | some stands => exact alike place name stands

theorem step_traffic (act : Act α) :
    (board.step act).1.traffic.Shows (ideal.step act).1 ∧
      (board.step act).2 = (ideal.step act).2 := by
  cases act with
  | obtain name policy =>
      exact ⟨board.traffic.shows_obtain ideal shows.traffic name policy, rfl⟩
  | advance duration => exact ⟨board.traffic.shows_advance ideal shows.traffic duration, rfl⟩
  | start id handle =>
      apply shows_through board ideal shows handle
      intro place name stands
      have started := board.traffic.shows_start ideal shows.traffic place name stands id
      exact ⟨started.1, congrArg Answer.admitted started.2⟩
  | finish id outcome =>
      have finished := board.traffic.shows_finish ideal shows.traffic id outcome
      exact ⟨finished.1, congrArg Answer.ended finished.2⟩
  | drop id =>
      have dropped := board.traffic.shows_drop ideal shows.traffic id
      exact ⟨dropped.1, congrArg Answer.dropped dropped.2⟩
  | call handle outcome patience =>
      apply shows_through board ideal shows handle
      intro place name stands
      have called := board.traffic.shows_call ideal shows.traffic place name stands outcome patience
      exact ⟨called.1, congrArg Answer.ended called.2⟩
  | recordTimeout handle =>
      apply shows_through board ideal shows handle
      intro place name stands
      exact ⟨board.traffic.shows_timeout ideal shows.traffic place name stands, rfl⟩

theorem step_shows (act : Act α) : (board.step act).1.Shows (ideal.step act).1 where
  traffic := (step_traffic board ideal shows act).1
  handles := by
    -- No act moves a name, so the old handles stay alike; a request adds one to both.
    have standing := step_keeps _ board.panel.kept_standing board act fun _ _ stands => stands
    have still := shows.handles.imp standing
    cases act with
    | obtain name policy =>
        exact List.rel_append still
          (List.Forall₂.cons (board.panel.stands_obtained name policy) List.Forall₂.nil)
    | _ =>
        rw [handles_step board _ rfl, Nameboard.fixed_step _ Nameboard.fixed_handles ideal _ rfl]
        exact still

end Steps

end Switchboard
end Roster
