import Mathlib.Data.List.Chain
import Roster.Proofs.ReadingRecord

/-!
The attempts of a reading in the course of time, read off a log of what it did and when. An
attempt begins with a question to the backend or with a refusal, and it ends when it is
answered or when the whole reading is given up. They come one after the other: each begins
when the pause after the one before is over, and none is begun beyond the deadline.
-/

namespace Roster
namespace Reading

/-- An attempt: its number, when it began, when it ended if it has, and whether it reached
the backend. -/
structure Try where
  number : Nat
  began : Nat
  ended : Option Nat
  called : Bool
deriving DecidableEq, Repr

def Deed.ends (number : Nat) : Deed → Bool
  | .answered attempt _ => attempt == number
  | .expired | .abandoned => true
  | .asked .. | .refused _ => false

def endOf (number : Nat) (later : List (Nat × Deed)) : Option Nat :=
  (later.find? fun entry => entry.2.ends number).map (·.1)

/-- The attempt that begins with a deed, if one does. A refusal ends it at once. -/
def tryOf? (time : Nat) (deed : Deed) (later : List (Nat × Deed)) : Option Try :=
  match deed with
  | .asked number _ _ _ => some ⟨number, time, endOf number later, true⟩
  | .refused number => some ⟨number, time, some time, false⟩
  | _ => none

def triesOf : List (Nat × Deed) → List Try
  | [] => []
  | (time, deed) :: later => (tryOf? time deed later).toList ++ triesOf later

def Try.goOn (more : List (Nat × Deed)) (attempt : Try) : Try :=
  { attempt with ended := attempt.ended.or (endOf attempt.number more) }

theorem endOf_append (number : Nat) (later more : List (Nat × Deed)) :
    endOf number (later ++ more) = (endOf number later).or (endOf number more) := by
  simp only [endOf, List.find?_append]
  exact Option.map_or

theorem tryOf_append (time : Nat) (deed : Deed) (later more : List (Nat × Deed)) :
    tryOf? time deed (later ++ more) = (tryOf? time deed later).map (Try.goOn more) := by
  cases deed with
  | asked number id options answer => simp [tryOf?, Try.goOn, endOf_append]
  | answered number answer => rfl
  | refused number => simp [tryOf?, Try.goOn]
  | expired => rfl
  | abandoned => rfl

theorem triesOf_append (log more : List (Nat × Deed)) :
    triesOf (log ++ more) = (triesOf log).map (Try.goOn more) ++ triesOf more := by
  induction log with
  | nil => rfl
  | cons entry rest ih =>
      obtain ⟨time, deed⟩ := entry
      simp only [List.cons_append, triesOf, tryOf_append, ih, List.map_append, List.append_assoc]
      cases tryOf? time deed rest <;> rfl

def Quiet (now : Nat) (tries : List Try) : Prop :=
  ∀ attempt ∈ tries, ∃ time ≤ now, attempt.ended = some time

theorem quiet_later (now later : Nat) (tries : List Try) (quiet : Quiet now tries)
    (past : now ≤ later) : Quiet later tries := by
  intro attempt member
  obtain ⟨time, early, ended⟩ := quiet attempt member
  exact ⟨time, Nat.le_trans early past, ended⟩

theorem quiet_snoc (now : Nat) (tries : List Try) (last : Try) (quiet : Quiet now tries)
    (ended : last.ended = some now) : Quiet now (tries ++ [last]) := by
  intro attempt member
  rcases List.mem_append.mp member with old | new
  · exact quiet attempt old
  · cases List.mem_singleton.mp new
    exact ⟨now, Nat.le_refl now, ended⟩

/-- Whatever is done later does not change what has ended. -/
theorem goOn_quiet (now : Nat) (tries : List Try) (more : List (Nat × Deed))
    (quiet : Quiet now tries) : tries.map (Try.goOn more) = tries := by
  induction tries with
  | nil => rfl
  | cons first rest ih =>
      obtain ⟨time, _, ended⟩ := quiet first List.mem_cons_self
      have others := ih fun attempt member => quiet attempt (List.mem_cons_of_mem first member)
      have same : first.goOn more = first := by
        cases first
        simp_all [Try.goOn]
      rw [List.map_cons, same, others]

theorem tries_quiet (now : Nat) (log more : List (Nat × Deed)) (quiet : Quiet now (triesOf log)) :
    triesOf (log ++ more) = triesOf log ++ triesOf more := by
  rw [triesOf_append, goOn_quiet now (triesOf log) more quiet]

theorem tries_ended (now number began time : Nat) (log : List (Nat × Deed)) (deed : Deed)
    (done : List Try) (quiet : Quiet now done)
    (shape : triesOf log = done ++ [⟨number, began, none, true⟩])
    (ends : deed.ends number = true) :
    triesOf (log ++ [(time, deed)]) = done ++ [⟨number, began, some time, true⟩] := by
  have none' : triesOf [(time, deed)] = [] := by
    cases deed <;> simp_all [triesOf, tryOf?, Deed.ends]
  have ended : endOf number [(time, deed)] = some time := by
    simp [endOf, ends]
  rw [triesOf_append, none', List.append_nil, shape, List.map_append,
    goOn_quiet now done _ quiet]
  simp [Try.goOn, ended]

/-! ### One after the other -/

/-- When the attempt after some others is due: the first one at the start, every other one
after a pause from the end of the one before. -/
def due? (backoff : Backoff) (started : Nat) (tries : List Try) : Option Nat :=
  match tries.getLast? with
  | none => some started
  | some last => last.ended.map (· + waitFor (pauseAfter backoff (last.number - 1)))

/-- Attempts in their order. Each is begun when it is due, if that is not beyond the deadline. -/
inductive Orderly (guard : ReadGuard) (started : Nat) : List Try → Prop where
  | none : Orderly guard started []
  | next (tries : List Try) (began : Nat) (ended : Option Nat) (called : Bool)
      (earlier : Orderly guard started tries)
      (left : tries.length < max guard.backoff.maxAttempts 1)
      (due : due? guard.backoff started tries = some began)
      (punctual : began ≤ started + waitFor guard.deadline) :
      Orderly guard started (tries ++ [⟨tries.length + 1, began, ended, called⟩])

def Try.Precedes (pause : Nat → Nat) (first second : Try) : Prop :=
  ∃ time, first.ended = some time ∧ second.began = time + pause first.number

def pauseOf (backoff : Backoff) (number : Nat) : Nat := waitFor (pauseAfter backoff (number - 1))

section Orders

variable (guard : ReadGuard) (started : Nat) (tries : List Try)

theorem orderly_within (orderly : Orderly guard started tries) :
    tries.length ≤ max guard.backoff.maxAttempts 1 := by
  cases orderly with
  | none => exact Nat.zero_le _
  | next tries began ended called earlier left due punctual =>
      rw [List.length_append]
      exact left

theorem orderly_numbered (orderly : Orderly guard started tries) :
    tries.map (·.number) = List.range' 1 tries.length := by
  induction orderly with
  | none => rfl
  | next tries began ended called earlier left due punctual ih =>
      rw [List.map_append, ih, List.length_append, List.length_singleton, List.range'_1_concat,
        Nat.add_comm 1]
      rfl

theorem orderly_punctual (orderly : Orderly guard started tries) :
    ∀ attempt ∈ tries, attempt.began ≤ started + waitFor guard.deadline := by
  induction orderly with
  | none => simp
  | next tries began ended called earlier left due punctual ih =>
      intro attempt member
      rcases List.mem_append.mp member with old | new
      · exact ih attempt old
      · cases List.mem_singleton.mp new
        exact punctual

theorem orderly_first (orderly : Orderly guard started tries) :
    ∀ first, tries.head? = some first → first.began = started := by
  induction orderly with
  | none => simp
  | next tries began ended called earlier left due punctual ih =>
      intro first isFirst
      cases tries with
      | nil =>
          simp only [List.nil_append, List.head?_cons, Option.some.injEq] at isFirst
          subst isFirst
          simpa [due?] using due.symm
      | cons head rest => exact ih first isFirst

theorem orderly_spaced (orderly : Orderly guard started tries) :
    tries.IsChain (Try.Precedes (pauseOf guard.backoff)) := by
  induction orderly with
  | none => exact List.isChain_nil
  | next tries began ended called earlier left due punctual ih =>
      refine List.isChain_append.mpr ⟨ih, List.isChain_singleton _, ?_⟩
      intro last isLast new isNew
      cases isNew
      rw [Option.mem_def] at isLast
      simp only [due?, isLast, Option.map_eq_some_iff] at due
      obtain ⟨time, done, same⟩ := due
      exact ⟨time, done, same.symm⟩

theorem orderly_ended (done : List Try) (number began : Nat) (ended other : Option Nat)
    (called : Bool) (orderly : Orderly guard started (done ++ [⟨number, began, ended, called⟩])) :
    Orderly guard started (done ++ [⟨number, began, other, called⟩]) ∧
      number = done.length + 1 := by
  generalize shape : done ++ [⟨number, began, ended, called⟩] = tries at orderly
  cases orderly with
  | none => simp at shape
  | next tries start until' reached earlier left due punctual =>
      obtain ⟨rfl, last⟩ := List.append_inj' shape rfl
      simp only [List.cons.injEq, Try.mk.injEq, and_true] at last
      obtain ⟨rfl, rfl, rfl, rfl⟩ := last
      exact ⟨Orderly.next done began other called earlier left due punctual, rfl⟩

end Orders

/-! ### Where a reading stands among its attempts -/

/-- What a log of a reading must say for it to stand where it stands now. -/
def Clocked (reading : Reading) (now : Nat) (log : List (Nat × Deed)) : Prop :=
  Orderly reading.guard reading.started (triesOf log) ∧
    match reading.stage with
    | .attempting number _ =>
      Quiet now (triesOf log) ∧ number = (triesOf log).length + 1 ∧
        due? reading.guard.backoff reading.started (triesOf log) = some now
    | .asking number _ _ _ =>
      ∃ done began, Quiet now done ∧ triesOf log = done ++ [⟨number, began, none, true⟩]
    | .pausing number _ due =>
      Quiet now (triesOf log) ∧ number = (triesOf log).length ∧
        due? reading.guard.backoff reading.started (triesOf log) = some due
    | .finished time _ | .abandoned time =>
      Quiet time (triesOf log) ∧ time ≤ reading.deadline

section Clocks

variable (reading next : Reading) (now : Nat) (log : List (Nat × Deed))

theorem clocked_start (id : Id) (options : ReadOptions) (guard : ReadGuard)
    (patience : Option Nat) : (start id options guard now patience).Clocked now [] :=
  ⟨Orderly.none, by simp [Quiet, triesOf], rfl, rfl⟩

/-- The attempt that a reading is about to make is one it has left. -/
theorem left_of_attempting (number delay : Nat) (deeds : List Deed)
    (stage : reading.stage = .attempting number delay) (told : reading.Told now deeds) :
    number ≤ max reading.guard.backoff.maxAttempts 1 ∧
      delay = pauseAfter reading.guard.backoff (number - 1) := by
  simp only [Told, stage] at told
  obtain ⟨failures, rfl, within, pause, _⟩ := told
  exact ⟨within, pause⟩

theorem delay_of_asking (number delay due : Nat) (answer : Except Fault Organization)
    (deeds : List Deed) (stage : reading.stage = .asking number delay due answer)
    (told : reading.Told now deeds) : delay = pauseAfter reading.guard.backoff (number - 1) := by
  simp only [Told, stage] at told
  obtain ⟨failures, after, rfl, within, pause, _⟩ := told
  exact pause

/-- After an answer a reading is through, or it waits as long as the pause after the attempt. -/
theorem clocked_concluded (number delay began : Nat) (answer : Except Fault Organization)
    (done : List Try) (punctual : now ≤ reading.deadline) (quiet : Quiet now done)
    (pause : delay = pauseAfter reading.guard.backoff (number - 1))
    (shape : triesOf log = done ++ [⟨number, began, some now, true⟩])
    (orderly : Orderly reading.guard reading.started (triesOf log))
    (concluded : Concluded now reading number delay answer next) : next.Clocked now log := by
  have ended : Quiet now (triesOf log) := by
    rw [shape]
    exact quiet_snoc now done _ quiet rfl
  cases concluded with
  | last last => exact ⟨orderly, ended, punctual⟩
  | again message failed left =>
      refine ⟨orderly, ended, ?_, ?_⟩
      · rw [shape] at orderly ⊢
        rw [List.length_append]
        exact (orderly_ended _ _ done number began _ none true orderly).2
      · rw [shape, pause]
        simp [due?]

/-- An attempt that is due is made: it may have ended at once. -/
theorem orderly_made (number delay : Nat) (deeds : List Deed) (ended : Option Nat) (called : Bool)
    (clocked : reading.Clocked now log) (stage : reading.stage = .attempting number delay)
    (told : reading.Told now deeds) (punctual : now ≤ reading.deadline) :
    Quiet now (triesOf log) ∧
      Orderly reading.guard reading.started (triesOf log ++ [⟨number, now, ended, called⟩]) := by
  obtain ⟨orderly, stands⟩ := clocked
  simp only [stage] at stands
  obtain ⟨quiet, rfl, due⟩ := stands
  have left := (left_of_attempting reading now _ delay deeds stage told).1
  exact ⟨quiet, Orderly.next (triesOf log) now ended called orderly left due punctual⟩

theorem clocked_moved {σ : Type} (ask : Ask σ) (turn after : Turn σ) (before deeds : List Deed)
    (told : reading.Told turn.now before) (punctual : turn.now ≤ reading.deadline)
    (clocked : reading.Clocked turn.now log) (moved : Moved ask turn reading deeds after next) :
    next.Clocked turn.now (log ++ deeds.map (turn.now, ·)) := by
  cases moved with
  | refused number delay panel stage knocked =>
      obtain ⟨quiet, orderly⟩ := orderly_made reading turn.now log number delay before
        (some turn.now) false clocked stage told punctual
      have shape := tries_quiet turn.now log [(turn.now, .refused number)] quiet
      refine ⟨?_, ?_, punctual⟩
      · rw [List.map_singleton, shape]
        exact orderly
      · rw [List.map_singleton, shape]
        exact quiet_snoc turn.now _ _ quiet rfl
  | asked number delay panel source answer stage knocked asks later =>
      obtain ⟨quiet, orderly⟩ := orderly_made reading turn.now log number delay before none true
        clocked stage told punctual
      have shape := tries_quiet turn.now log
        [(turn.now, .asked number reading.id reading.options answer)] quiet
      refine ⟨?_, triesOf log, turn.now, quiet, ?_⟩
      · rw [List.map_singleton, shape]
        exact orderly
      · rw [List.map_singleton, shape]
        rfl
  | answeredAtOnce number delay panel source answer stage knocked asks atOnce =>
      obtain ⟨quiet, orderly⟩ := orderly_made reading turn.now log number delay before
        (some turn.now) true clocked stage told punctual
      have shape : triesOf (log ++ [(turn.now, .asked number reading.id reading.options answer),
          (turn.now, .answered number answer.value)]) =
          triesOf log ++ [⟨number, turn.now, some turn.now, true⟩] := by
        rw [tries_quiet turn.now log _ quiet]
        simp [triesOf, tryOf?, endOf, Deed.ends]
      have concluded := conclude_concluded turn.now panel reading number delay answer.value
      refine clocked_concluded reading _ turn.now _ number delay turn.now answer.value
        (triesOf log) punctual quiet ?_ shape ?_ concluded
      · exact (left_of_attempting reading turn.now number delay before stage told).2
      · rw [← shape] at orderly
        exact orderly
  | answered number delay due answer stage ends =>
      obtain ⟨orderly, stands⟩ := clocked
      simp only [stage] at stands
      obtain ⟨done, began, quiet, open'⟩ := stands
      have shape := tries_ended turn.now number began turn.now log (.answered number answer) done
        quiet open' (by simp [Deed.ends])
      rw [open'] at orderly
      have ended := (orderly_ended _ _ done number began _ (some turn.now) true orderly).1
      rw [← shape] at ended
      have concluded := conclude_concluded turn.now turn.panel reading number delay answer
      exact clocked_concluded reading _ turn.now _ number delay began answer done punctual quiet
        (delay_of_asking reading turn.now number delay due answer before stage told) shape ended
        concluded
  | resumed number delay due stage ends =>
      obtain ⟨orderly, stands⟩ := clocked
      simp only [stage] at stands
      obtain ⟨quiet, rfl, soon⟩ := stands
      -- A pause ends in the very turn in which it is over.
      have onTime : due = turn.now := by
        simp only [Told, stage] at told
        obtain ⟨_, _, _, _, _, _, early, _⟩ := told
        exact Nat.le_antisymm ((canEnd_iff turn due).mp ends).1 early
      rw [onTime] at soon
      rw [List.map_nil, List.append_nil]
      exact ⟨orderly, quiet, rfl, soon⟩

theorem clocked_given_up (deed : Deed) (ends : ∀ number, deed.ends number = true)
    (clocked : reading.Clocked now log) (open' : reading.isOver = false) :
    Orderly reading.guard reading.started (triesOf (log ++ [(now, deed)])) ∧
      Quiet now (triesOf (log ++ [(now, deed)])) := by
  obtain ⟨orderly, stands⟩ := clocked
  have none' : triesOf [(now, deed)] = [] := by
    have ended := ends 0
    cases deed <;> simp_all [triesOf, tryOf?, Deed.ends]
  -- Unless an attempt is going on, nothing changes.
  have unchanged : Quiet now (triesOf log) → Orderly reading.guard reading.started
      (triesOf (log ++ [(now, deed)])) ∧ Quiet now (triesOf (log ++ [(now, deed)])) := by
    intro quiet
    rw [tries_quiet now log _ quiet, none', List.append_nil]
    exact ⟨orderly, quiet⟩
  cases stage : reading.stage with
  | attempting number delay =>
      simp only [stage] at stands
      exact unchanged stands.1
  | asking number delay due answer =>
      simp only [stage] at stands
      obtain ⟨done, began, quiet, shape⟩ := stands
      rw [tries_ended now number began now log deed done quiet shape (ends number)]
      rw [shape] at orderly
      have ended := (orderly_ended _ _ done number began _ (some now) true orderly).1
      exact ⟨ended, quiet_snoc now done _ quiet rfl⟩
  | pausing number delay due =>
      simp only [stage] at stands
      exact unchanged stands.1
  | finished time answer => simp [isOver, stage] at open'
  | abandoned time => simp [isOver, stage] at open'

theorem clocked_limited {σ : Type} (turn after : Turn σ) (deeds : List Deed)
    (clocked : reading.Clocked turn.now log) (punctual : turn.now ≤ reading.deadline)
    (open' : reading.isOver = false) (limited : Limited turn reading deeds after next) :
    next.Clocked turn.now (log ++ deeds.map (turn.now, ·)) := by
  cases limited with
  | expired due =>
      obtain ⟨orderly, quiet⟩ :=
        clocked_given_up reading turn.now log .expired (fun _ => rfl) clocked open'
      exact ⟨orderly, quiet, punctual⟩
  | abandoned early impatient =>
      obtain ⟨orderly, quiet⟩ :=
        clocked_given_up reading turn.now log .abandoned (fun _ => rfl) clocked open'
      exact ⟨orderly, quiet, punctual⟩
  | kept early patient =>
      rw [List.map_nil, List.append_nil]
      exact clocked

/-- Time passes only while nobody has an attempt to make. -/
theorem clocked_idle (time : Nat) (clocked : reading.Clocked now log)
    (idle : reading.isIdleUntil time = true) : reading.Clocked (max now time) log := by
  have past := Nat.le_max_left now time
  obtain ⟨orderly, stands⟩ := clocked
  refine ⟨orderly, ?_⟩
  cases stage : reading.stage with
  | attempting number delay => simp [isIdleUntil, stage] at idle
  | asking number delay due answer =>
      simp only [stage] at stands ⊢
      obtain ⟨done, began, quiet, shape⟩ := stands
      exact ⟨done, began, quiet_later now _ done quiet past, shape⟩
  | pausing number delay due =>
      simp only [stage] at stands ⊢
      exact ⟨quiet_later now _ _ stands.1 past, stands.2⟩
  | finished ended answer =>
      simp only [stage] at stands ⊢
      exact stands
  | abandoned ended =>
      simp only [stage] at stands ⊢
      exact stands

end Clocks

end Reading
end Roster
