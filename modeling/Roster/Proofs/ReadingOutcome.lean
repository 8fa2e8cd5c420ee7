import Roster.Proofs.ReadingMoves

/-!
How a reading ends. Up to its last attempt it was told the same thing over and over,
that the backend is unavailable; its last attempt decides: it is answered, refused, or
overtaken by the deadline. What a reading did and what it answers belong together in
one of three ways.
-/

namespace Roster
namespace Reading

def attempts (reading : Reading) : Nat := max reading.guard.backoff.maxAttempts 1

def pauseAfter (backoff : Backoff) : Nat → Nat
  | 0 => backoff.initialDelay
  | failures + 1 => backoff.nextDelay (pauseAfter backoff failures)

/-- How long failures last from a number of earlier ones on, with the pause after each. -/
def lasting (backoff : Backoff) : Nat → List (Timed String) → Nat
  | _, [] => 0
  | before, failure :: rest =>
    failure.after + waitFor (pauseAfter backoff before) + lasting backoff (before + 1) rest

theorem lasting_snoc (backoff : Backoff) (before : Nat) (failures : List (Timed String))
    (failure : Timed String) :
    lasting backoff before (failures ++ [failure]) =
      lasting backoff before failures + failure.after +
        waitFor (pauseAfter backoff (before + failures.length)) := by
  induction failures generalizing before with
  | nil => simp [lasting]
  | cons first rest ih =>
      have shifted : before + 1 + rest.length = before + (rest.length + 1) := by omega
      simp only [List.cons_append, lasting, ih, List.length_cons, shifted]
      omega

def attemptAt (reading : Reading) (failures : List (Timed String)) : Nat :=
  reading.started + lasting reading.guard.backoff 0 failures

theorem attemptAt_snoc (reading : Reading) (failures : List (Timed String))
    (failure : Timed String) :
    reading.attemptAt (failures ++ [failure]) =
      reading.attemptAt failures + failure.after +
        waitFor (pauseAfter reading.guard.backoff failures.length) := by
  simp [attemptAt, lasting_snoc, Nat.add_assoc]

def round (id : Id) (options : ReadOptions) (number : Nat) (failure : Timed String) : List Deed :=
  [.asked number id options ⟨failure.after, .error (.backendUnavailable failure.value)⟩,
    .answered number (.error (.backendUnavailable failure.value))]

def rounds (id : Id) (options : ReadOptions) : Nat → List (Timed String) → List Deed
  | _, [] => []
  | number, failure :: rest =>
    round id options number failure ++ rounds id options (number + 1) rest

theorem rounds_snoc (id : Id) (options : ReadOptions) (number : Nat)
    (failures : List (Timed String)) (failure : Timed String) :
    rounds id options number (failures ++ [failure]) =
      rounds id options number failures ++ round id options (number + failures.length) failure := by
  induction failures generalizing number with
  | nil => simp [rounds]
  | cons first rest ih =>
      have shifted : number + 1 + rest.length = number + (rest.length + 1) := by omega
      simp [rounds, ih, shifted]

theorem rounds_mem (id : Id) (options : ReadOptions) (number : Nat)
    (failures : List (Timed String)) (deed : Deed)
    (member : deed ∈ rounds id options number failures) :
    (∃ attempt answer, deed = .asked attempt id options answer ∧
        attempt < number + failures.length) ∨
      ∃ attempt answer, deed = .answered attempt answer := by
  induction failures generalizing number with
  | nil => simp [rounds] at member
  | cons first rest ih =>
      simp only [rounds, round, List.mem_append, List.mem_cons, List.not_mem_nil, or_false]
        at member
      rcases member with (asked | answered) | later
      · exact Or.inl ⟨number, _, asked, by simp⟩
      · exact Or.inr ⟨number, _, answered⟩
      · rcases ih (number + 1) later with ⟨attempt, answer, same, below⟩ | answered
        · refine Or.inl ⟨attempt, answer, same, ?_⟩
          simp only [List.length_cons]
          omega
        · exact Or.inr answered

/-- What decides on the answer of a reading. -/
inductive Way where
  | returned
  | refused
  | expired
deriving DecidableEq, Repr

/-- What a finished reading did, when it ended and what it answers. Who was refused gets a record
that nobody keeps, named after the key alone, from the address of its own guard; who ran out of
time is told so with the key. -/
inductive Outcome (reading : Reading) :
    Way → List Deed → Nat → Except Fault Organization → Prop where
  /-- The answer of the last attempt, unchanged; it is that the backend is unavailable only if
  no attempt is left. -/
  | returned (failures : List (Timed String)) (answer : Timed (Except Fault Organization))
      (within : failures.length < reading.attempts)
      (punctual : reading.attemptAt failures + answer.after ≤ reading.deadline)
      (last : ∀ message, answer.value = .error (.backendUnavailable message) →
        failures.length + 1 = reading.attempts) :
      Outcome reading .returned
        (rounds reading.id reading.options 1 failures ++
          [.asked (failures.length + 1) reading.id reading.options answer,
            .answered (failures.length + 1) answer.value])
        (reading.attemptAt failures + answer.after) answer.value
  | refused (failures : List (Timed String)) (within : failures.length < reading.attempts)
      (punctual : reading.attemptAt failures ≤ reading.deadline) :
      Outcome reading .refused
        (rounds reading.id reading.options 1 failures ++ [.refused (failures.length + 1)])
        (reading.attemptAt failures)
        (.ok {
          id := reading.id
          name := s!"Fallback organization{reading.id}"
          country := s!"Fallback organization{reading.id}"
          originAddress := reading.guard.address })
  /-- The deadline came before the answer to an attempt, -/
  | expiredAsking (failures : List (Timed String)) (pending : Timed (Except Fault Organization))
      (within : failures.length < reading.attempts)
      (first : reading.deadline ≤ reading.attemptAt failures + pending.after) :
      Outcome reading .expired
        (rounds reading.id reading.options 1 failures ++
          [.asked (failures.length + 1) reading.id reading.options pending, .expired])
        reading.deadline
        (.error (.backendUnavailable
          s!"Organization read for organizationId: {reading.id} timed out"))
  /-- or before the end of a pause. -/
  | expiredPausing (failures : List (Timed String)) (within : failures.length < reading.attempts)
      (first : reading.deadline ≤ reading.attemptAt failures) :
      Outcome reading .expired (rounds reading.id reading.options 1 failures ++ [.expired])
        reading.deadline
        (.error (.backendUnavailable
          s!"Organization read for organizationId: {reading.id} timed out"))

theorem refused_notMem_rounds (id : Id) (options : ReadOptions) (number : Nat)
    (failures : List (Timed String)) (attempt : Nat) :
    .refused attempt ∉ rounds id options number failures := by
  intro member
  rcases rounds_mem id options number failures _ member with ⟨_, _, same, _⟩ | ⟨_, _, same⟩ <;>
    cases same

theorem expired_notMem_rounds (id : Id) (options : ReadOptions) (number : Nat)
    (failures : List (Timed String)) : .expired ∉ rounds id options number failures := by
  intro member
  rcases rounds_mem id options number failures _ member with ⟨_, _, same, _⟩ | ⟨_, _, same⟩ <;>
    cases same

section Ways

variable (reading : Reading) (way : Way) (deeds : List Deed) (time : Nat)
  (answer : Except Fault Organization)

theorem way_refused_iff (outcome : Outcome reading way deeds time answer) :
    way = .refused ↔ ∃ attempt, .refused attempt ∈ deeds := by
  cases outcome <;> simp [refused_notMem_rounds]

theorem way_expired_iff (outcome : Outcome reading way deeds time answer) :
    way = .expired ↔ .expired ∈ deeds := by
  cases outcome <;> simp [expired_notMem_rounds]

/-- What was done leaves no doubt about what decided. -/
theorem way_unique (other : Way) (otherTime : Nat) (otherAnswer : Except Fault Organization)
    (outcome : Outcome reading way deeds time answer)
    (again : Outcome reading other deeds otherTime otherAnswer) : other = way := by
  have refused := (way_refused_iff reading other deeds _ _ again).trans
    (way_refused_iff reading way deeds time answer outcome).symm
  have expired := (way_expired_iff reading other deeds _ _ again).trans
    (way_expired_iff reading way deeds time answer outcome).symm
  cases other <;> cases way <;> simp_all

/-- With a refusal a reading is through: the refused attempt asks nothing and none comes after. -/
theorem refused_is_last (outcome : Outcome reading way deeds time answer) (number : Nat)
    (refused : .refused number ∈ deeds) :
    deeds.getLast? = some (.refused number) ∧
      ∀ attempt id options reply, .asked attempt id options reply ∈ deeds → attempt < number := by
  cases outcome with
  | returned failures answer within punctual last => simp [refused_notMem_rounds] at refused
  | refused failures within punctual =>
      simp only [List.mem_append, refused_notMem_rounds, List.mem_singleton, Deed.refused.injEq,
        false_or] at refused
      subst refused
      refine ⟨List.getLast?_concat, ?_⟩
      intro attempt id options reply asked
      simp only [List.mem_append, List.mem_singleton, reduceCtorEq, or_false] at asked
      rcases rounds_mem _ _ _ _ _ asked with ⟨_, _, same, below⟩ | ⟨_, _, same⟩
      · cases same
        omega
      · cases same
  | expiredAsking failures pending within first => simp [refused_notMem_rounds] at refused
  | expiredPausing failures within first => simp [refused_notMem_rounds] at refused

/-- One way, and no other, decided on an answer; what was done says which. -/
structure Decided (reading : Reading) (deeds : List Deed) (time : Nat)
    (answer : Except Fault Organization) (way : Way) : Prop where
  outcome : Outcome reading way deeds time answer
  only : ∀ other, Outcome reading other deeds time answer → other = way
  refused : way = .refused ↔ ∃ attempt, .refused attempt ∈ deeds
  expired : way = .expired ↔ .expired ∈ deeds
  silent : ∀ number, .refused number ∈ deeds →
    deeds.getLast? = some (.refused number) ∧
      ∀ attempt id options reply, .asked attempt id options reply ∈ deeds → attempt < number

theorem outcome_decided (outcome : Outcome reading way deeds time answer) :
    Decided reading deeds time answer way where
  outcome := outcome
  only other again := way_unique reading way deeds time answer other time answer outcome again
  refused := way_refused_iff reading way deeds time answer outcome
  expired := way_expired_iff reading way deeds time answer outcome
  silent := refused_is_last reading way deeds time answer outcome

end Ways

/-- What a reading must have done, and by when, to stand where it stands now. -/
def Told (reading : Reading) (now : Nat) (deeds : List Deed) : Prop :=
  match reading.stage with
  | .attempting number delay =>
    ∃ failures, number = failures.length + 1 ∧ number ≤ reading.attempts ∧
      delay = pauseAfter reading.guard.backoff failures.length ∧
      now = reading.attemptAt failures ∧ deeds = rounds reading.id reading.options 1 failures
  | .asking number delay due answer =>
    ∃ failures after, number = failures.length + 1 ∧ number ≤ reading.attempts ∧
      delay = pauseAfter reading.guard.backoff failures.length ∧
      due = reading.attemptAt failures + after ∧ now ≤ due ∧
      deeds = rounds reading.id reading.options 1 failures ++
        [.asked number reading.id reading.options ⟨after, answer⟩]
  | .pausing number delay due =>
    ∃ failures failure, number = failures.length + 1 ∧ number < reading.attempts ∧
      delay = pauseAfter reading.guard.backoff failures.length ∧
      due = reading.attemptAt (failures ++ [failure]) ∧ now ≤ due ∧
      deeds = rounds reading.id reading.options 1 (failures ++ [failure])
  | .finished time answer => ∃ way, Outcome reading way deeds time answer
  | .abandoned _ => .abandoned ∈ deeds

theorem isLast_iff (backoff : Backoff) (number : Nat) :
    backoff.isLast number = true ↔ backoff.maxAttempts ≤ number := by
  simp [Backoff.isLast]

theorem told_concluded (reading next : Reading) (failures : List (Timed String)) (now delay : Nat)
    (answer : Timed (Except Fault Organization))
    (within : failures.length + 1 ≤ reading.attempts) (punctual : now ≤ reading.deadline)
    (pause : delay = pauseAfter reading.guard.backoff failures.length)
    (onTime : now = reading.attemptAt failures + answer.after)
    (concluded : Concluded now reading (failures.length + 1) delay answer.value next) :
    next.Told now
      (rounds reading.id reading.options 1 failures ++
        [.asked (failures.length + 1) reading.id reading.options answer,
          .answered (failures.length + 1) answer.value]) := by
  cases concluded with
  | last last =>
      rw [onTime]
      refine ⟨.returned, Outcome.returned failures answer within (onTime ▸ punctual) ?_⟩
      intro message same
      have exhausted := (isLast_iff _ _).mp (last _ same rfl)
      have bounds : reading.attempts = max reading.guard.backoff.maxAttempts 1 := rfl
      change failures.length + 1 = reading.attempts
      omega
  | again message failed left =>
      have more : ¬ reading.guard.backoff.maxAttempts ≤ failures.length + 1 := by
        intro exhausted
        simp [(isLast_iff _ _).mpr exhausted] at left
      -- The pause is counted among the failures from its beginning.
      have follows : now + waitFor delay =
          reading.attemptAt (failures ++ [⟨answer.after, message⟩]) := by
        rw [attemptAt_snoc, onTime, pause]
      refine ⟨failures, ⟨answer.after, message⟩, rfl, ?_, pause, follows, Nat.le_add_right _ _, ?_⟩
      · change failures.length + 1 < max reading.guard.backoff.maxAttempts 1
        omega
      · rw [rounds_snoc]
        cases answer
        simp_all [round, Nat.add_comm]

theorem told_moved {σ : Type} (ask : Ask σ) (turn after : Turn σ) (reading next : Reading)
    (before deeds : List Deed) (told : reading.Told turn.now before)
    (punctual : turn.now ≤ reading.deadline) (moved : Moved ask turn reading deeds after next) :
    next.Told turn.now (before ++ deeds) := by
  cases moved with
  | refused number delay panel stage knocked =>
      simp only [Told, stage] at told
      obtain ⟨failures, rfl, within, pause, onTime, rfl⟩ := told
      rw [onTime]
      exact ⟨.refused, Outcome.refused failures within (onTime ▸ punctual)⟩
  | asked number delay panel source answer stage knocked asks later =>
      simp only [Told, stage] at told
      obtain ⟨failures, rfl, within, pause, onTime, rfl⟩ := told
      rw [onTime]
      exact ⟨failures, answer.after, rfl, within, pause, rfl, Nat.le_add_right _ _, rfl⟩
  | answeredAtOnce number delay panel source answer stage knocked asks atOnce =>
      simp only [Told, stage] at told
      obtain ⟨failures, rfl, within, pause, onTime, rfl⟩ := told
      exact told_concluded reading _ failures turn.now delay answer within punctual pause
        (by rw [onTime, atOnce, Nat.add_zero])
        (conclude_concluded turn.now panel reading _ delay answer.value)
  | answered number delay due answer stage ends =>
      simp only [Told, stage] at told
      obtain ⟨failures, latency, rfl, within, pause, follows, early, rfl⟩ := told
      rw [List.append_assoc]
      have come := ((canEnd_iff turn due).mp ends).1
      exact told_concluded reading _ failures turn.now delay ⟨latency, answer⟩ within punctual pause
        (follows ▸ Nat.le_antisymm early come)
        (conclude_concluded turn.now turn.panel reading _ delay answer)
  | resumed number delay due stage ends =>
      simp only [Told, stage] at told
      obtain ⟨failures, failure, rfl, within, pause, follows, early, rfl⟩ := told
      have come := ((canEnd_iff turn due).mp ends).1
      refine ⟨failures ++ [failure], by simp, within, ?_, follows ▸ Nat.le_antisymm early come,
        List.append_nil _⟩
      simp [pause, pauseAfter]

theorem told_limited {σ : Type} (ask : Ask σ) (turn after : Turn σ) (reading next : Reading)
    (before deeds : List Deed) (told : reading.Told turn.now before)
    (punctual : turn.now ≤ reading.deadline) (open' : reading.isOver = false)
    (stuck : step? ask turn reading = none)
    (limited : Limited turn reading deeds after next) : next.Told turn.now (before ++ deeds) := by
  cases limited with
  | expired due =>
      -- No reading passes its deadline, so whoever has reached it is there this very moment.
      have onTime := Nat.le_antisymm punctual due
      rcases stuck_stage ask turn reading open' stuck with
        ⟨number, delay, answerDue, answer, stage, _⟩ | ⟨number, delay, pauseDue, stage, _⟩
      · simp only [Told, stage] at told
        obtain ⟨failures, latency, rfl, within, pause, follows, early, rfl⟩ := told
        rw [onTime, List.append_assoc]
        exact ⟨.expired, Outcome.expiredAsking failures ⟨latency, answer⟩ within
          (follows ▸ onTime ▸ early)⟩
      · simp only [Told, stage] at told
        obtain ⟨failures, failure, rfl, within, pause, follows, early, rfl⟩ := told
        rw [onTime]
        have begun : (failures ++ [failure]).length < reading.attempts := by
          simpa using within
        exact ⟨.expired, Outcome.expiredPausing (failures ++ [failure]) begun
          (follows ▸ onTime ▸ early)⟩
  | abandoned early impatient => simp [Told]
  | kept early patient => simpa using told

theorem told_start (id : Id) (options : ReadOptions) (guard : ReadGuard) (now : Nat)
    (patience : Option Nat) : (start id options guard now patience).Told now [] :=
  ⟨[], rfl, Nat.le_max_right _ _, rfl, rfl, rfl⟩

theorem bound_le (reading : Reading) : reading.bound ≤ reading.deadline := by
  unfold bound
  split
  · exact Nat.le_refl _
  · exact Nat.min_le_left _ _

theorem idle_asking (reading : Reading) (time number delay due : Nat)
    (answer : Except Fault Organization) (stage : reading.stage = .asking number delay due answer)
    (idle : reading.isIdleUntil time = true) : time ≤ due ∧ time ≤ reading.deadline := by
  simp only [isIdleUntil, wake?, stage, Option.all_some, decide_eq_true_eq] at idle
  have latest := bound_le reading
  omega

theorem idle_pausing (reading : Reading) (time number delay due : Nat)
    (stage : reading.stage = .pausing number delay due)
    (idle : reading.isIdleUntil time = true) : time ≤ due ∧ time ≤ reading.deadline := by
  simp only [isIdleUntil, wake?, stage, Option.all_some, decide_eq_true_eq] at idle
  have latest := bound_le reading
  omega

theorem idle_punctual (reading : Reading) (time : Nat) (open' : reading.isOver = false)
    (idle : reading.isIdleUntil time = true) : time ≤ reading.deadline := by
  cases stage : reading.stage with
  | attempting number delay => simp [isIdleUntil, stage] at idle
  | asking number delay due answer =>
      exact (idle_asking reading time number delay due answer stage idle).2
  | pausing number delay due => exact (idle_pausing reading time number delay due stage idle).2
  | finished time answer => simp [isOver, stage] at open'
  | abandoned time => simp [isOver, stage] at open'

/-- Nor does it pass beyond what somebody waits for. -/
theorem told_idle (reading : Reading) (now time : Nat) (deeds : List Deed)
    (told : reading.Told now deeds) (idle : reading.isIdleUntil time = true) :
    reading.Told (max now time) deeds := by
  cases stage : reading.stage with
  | attempting number delay => simp [isIdleUntil, stage] at idle
  | asking number delay due answer =>
      have later := (idle_asking reading time number delay due answer stage idle).1
      simp only [Told, stage] at told ⊢
      obtain ⟨failures, latency, counted, within, pause, follows, early, shape⟩ := told
      exact ⟨failures, latency, counted, within, pause, follows,
        Nat.max_le.mpr ⟨early, later⟩, shape⟩
  | pausing number delay due =>
      have later := (idle_pausing reading time number delay due stage idle).1
      simp only [Told, stage] at told ⊢
      obtain ⟨failures, failure, counted, within, pause, follows, early, shape⟩ := told
      exact ⟨failures, failure, counted, within, pause, follows,
        Nat.max_le.mpr ⟨early, later⟩, shape⟩
  | finished ended answer => simpa only [Told, stage] using told
  | abandoned ended => simpa only [Told, stage] using told

end Reading
end Roster
