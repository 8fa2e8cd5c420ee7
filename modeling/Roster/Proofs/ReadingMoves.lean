import Roster.Reading

/-!
Plays. Readings arrive at any time and share breakers and backend; each makes its
moves, runs into its limits or is left by its caller in whatever order the acts of a
play say. Time passes only as far as nobody has anything to do. A play keeps a record
of what each reading did, in the order in which it happened.
-/

namespace Roster
namespace Reading

/-- What a reading does and meets with. Attempts are numbered from 1. -/
inductive Deed where
  | asked (attempt : Nat) (id : Id) (options : ReadOptions)
      (answer : Timed (Except Fault Organization))
  | answered (attempt : Nat) (answer : Except Fault Organization)
  | refused (attempt : Nat)
  | expired
  | abandoned
deriving Repr

variable {σ : Type}

def deeds (ask : Ask σ) (turn : Turn σ) (reading : Reading) : List Deed :=
  match reading.stage with
  | .attempting number _ =>
    if (knock turn reading number).2 then
      let answer := (ask turn.now reading.id reading.options turn.source).2
      if answer.after = 0 then
        [.asked number reading.id reading.options answer, .answered number answer.value]
      else [.asked number reading.id reading.options answer]
    else [.refused number]
  | .asking number _ _ answer => [.answered number answer]
  | _ => []

def limitDeeds (turn : Turn σ) (reading : Reading) : List Deed :=
  if reading.deadline ≤ turn.now then [.expired]
  else if reading.patience.any (· ≤ turn.now) then [.abandoned]
  else []

def isIdleUntil (reading : Reading) (time : Nat) : Bool :=
  match reading.stage with
  | .attempting .. => false
  | _ => reading.wake?.all (time ≤ ·)

end Reading

/-- Whether time may go on to a moment. A new turn at the same time is always possible. -/
def Scene.canPass {σ : Type} (scene : Scene σ) (time : Nat) : Bool :=
  time ≤ scene.turn.now || scene.readings.all (·.isIdleUntil time)

structure Play.Entry where
  who : Nat
  time : Nat
  panel : Panel
  deed : Reading.Deed
deriving Repr

structure Play (σ : Type) where
  scene : Scene σ
  record : List Play.Entry := []

namespace Play

inductive Act where
  | arrive (id : Id) (options : ReadOptions) (guard : ReadGuard) (patience : Option Nat)
  | move (who : Nat)
  | limit (who : Nat)
  | leave (who : Nat)
  | pass (time : Nat)
deriving Repr

variable {σ : Type}

def deedsOf (play : Play σ) (who : Nat) : List Reading.Deed :=
  (play.record.filter (·.who == who)).map (·.deed)

def entries (turn : Turn σ) (who : Nat) (deeds : List Reading.Deed) : List Entry :=
  deeds.map fun deed => ⟨who, turn.now, turn.panel, deed⟩

def note (play : Play σ) (who : Nat) (turn : Turn σ) (reading : Reading)
    (deeds : List Reading.Deed) : Play σ where
  scene := { turn, readings := play.scene.readings.set who reading }
  record := play.record ++ entries play.scene.turn who deeds

def arrive (play : Play σ) (id : Id) (options : ReadOptions) (guard : ReadGuard)
    (patience : Option Nat) : Play σ :=
  { play with
    scene.readings := play.scene.readings ++
      [Reading.start id options guard play.scene.turn.now patience] }

def move (ask : Reading.Ask σ) (play : Play σ) (who : Nat) (reading : Reading) : Play σ :=
  match reading.step? ask play.scene.turn with
  | none => play
  | some (turn, next) => play.note who turn next (reading.deeds ask play.scene.turn)

/-- Limits are looked at when a reading can move no further. -/
def limit (ask : Reading.Ask σ) (play : Play σ) (who : Nat) (reading : Reading) : Play σ :=
  if reading.isOver || (reading.step? ask play.scene.turn).isSome then play
  else
    let (turn, next) := reading.limit play.scene.turn
    play.note who turn next (reading.limitDeeds play.scene.turn)

def leave (play : Play σ) (who : Nat) (reading : Reading) : Play σ :=
  if reading.isOver then play
  else
    let turn := play.scene.turn
    let (panel, next) := reading.abandon turn.now turn.panel
    play.note who { turn with panel } next [.abandoned]

def pass (play : Play σ) (time : Nat) : Play σ :=
  if play.scene.canPass time then { play with scene.turn := play.scene.turn.next time } else play

def step (ask : Reading.Ask σ) (play : Play σ) : Act → Play σ
  | .arrive id options guard patience => play.arrive id options guard patience
  | .move who => (play.scene.readings[who]?).elim play (play.move ask who)
  | .limit who => (play.scene.readings[who]?).elim play (play.limit ask who)
  | .leave who => (play.scene.readings[who]?).elim play (play.leave who)
  | .pass time => play.pass time

def perform (ask : Reading.Ask σ) (turn : Turn σ) (acts : List Act) : Play σ :=
  acts.foldl (step ask) { scene := { turn } }

end Play

/-!
What a single move of a reading can be, with everything that has to hold for it.
-/
namespace Reading

variable {σ : Type}

inductive Concluded (now : Nat) (reading : Reading) (number delay : Nat)
    (answer : Except Fault Organization) : Reading → Prop where
  | last
      (last : ∀ fault, answer = .error fault → fault.isTransient = true →
        reading.guard.backoff.isLast number = true) :
      Concluded now reading number delay answer (reading.finish now answer)
  | again (message : String) (failed : answer = .error (.backendUnavailable message))
      (left : reading.guard.backoff.isLast number = false) :
      Concluded now reading number delay answer
        { reading with stage := .pausing number delay (now + waitFor delay) }

theorem transient_iff (fault : Fault) :
    fault.isTransient = true ↔ ∃ message, fault = .backendUnavailable message := by
  cases fault <;> simp [Fault.isTransient]

theorem conclude_concluded (now : Nat) (panel : Panel) (reading : Reading) (number delay : Nat)
    (answer : Except Fault Organization) :
    Concluded now reading number delay answer
      (conclude now panel reading number delay answer).2 := by
  cases answer with
  | ok record => exact Concluded.last (by simp)
  | error fault =>
      cases transient : fault.isTransient with
      | false =>
          simp only [conclude, transient, Bool.not_false, ↓reduceIte]
          refine Concluded.last ?_
          intro other same isTransient
          cases same
          simp [transient] at isTransient
      | true =>
          -- Only a transient failure asks how many attempts are left.
          cases exhausted : reading.guard.backoff.isLast number with
          | true =>
              simp only [conclude, transient, exhausted, Bool.not_true, Bool.false_eq_true,
                ↓reduceIte]
              exact Concluded.last (fun _ _ _ => exhausted)
          | false =>
              simp only [conclude, transient, exhausted, Bool.not_true, Bool.false_eq_true,
                ↓reduceIte]
              obtain ⟨message, same⟩ := (transient_iff fault).mp transient
              exact Concluded.again message (by rw [same]) exhausted

/-- All moves there are, with what the reading does in them. -/
inductive Moved (ask : Ask σ) (turn : Turn σ) (reading : Reading) :
    List Deed → Turn σ → Reading → Prop where
  | refused (number delay : Nat) (panel : Panel) (stage : reading.stage = .attempting number delay)
      (knocked : knock turn reading number = (panel, false)) :
      Moved ask turn reading [.refused number]
        { turn with panel := panel.count (.fallbacksServed operation) }
        (reading.finish turn.now (.ok (standIn reading.id reading.guard.address)))
  | asked (number delay : Nat) (panel : Panel) (source : σ)
      (answer : Timed (Except Fault Organization))
      (stage : reading.stage = .attempting number delay)
      (knocked : knock turn reading number = (panel, true))
      (asks : ask turn.now reading.id reading.options turn.source = (source, answer))
      (later : answer.after ≠ 0) :
      Moved ask turn reading [.asked number reading.id reading.options answer]
        { turn with panel, source }
        { reading with stage := .asking number delay (turn.now + answer.after) answer.value }
  | answeredAtOnce (number delay : Nat) (panel : Panel) (source : σ)
      (answer : Timed (Except Fault Organization))
      (stage : reading.stage = .attempting number delay)
      (knocked : knock turn reading number = (panel, true))
      (asks : ask turn.now reading.id reading.options turn.source = (source, answer))
      (atOnce : answer.after = 0) :
      Moved ask turn reading
        [.asked number reading.id reading.options answer, .answered number answer.value]
        { turn with
          panel := (conclude turn.now panel reading number delay answer.value).1
          source }
        (conclude turn.now panel reading number delay answer.value).2
  | answered (number delay due : Nat) (answer : Except Fault Organization)
      (stage : reading.stage = .asking number delay due answer) (ends : turn.canEnd due = true) :
      Moved ask turn reading [.answered number answer]
        { turn.endWait with panel := (conclude turn.now turn.panel reading number delay answer).1 }
        (conclude turn.now turn.panel reading number delay answer).2
  | resumed (number delay due : Nat) (stage : reading.stage = .pausing number delay due)
      (ends : turn.canEnd due = true) :
      Moved ask turn reading [] turn.endWait
        { reading with
          stage := .attempting (number + 1) (reading.guard.backoff.nextDelay delay) }

theorem attempt_moved (ask : Ask σ) (turn : Turn σ) (reading : Reading) (number delay : Nat)
    (stage : reading.stage = .attempting number delay) :
    Moved ask turn reading (reading.deeds ask turn)
      (attempt ask turn reading number delay).1 (attempt ask turn reading number delay).2 := by
  cases knocked : knock turn reading number with
  | mk panel admitted =>
      cases admitted with
      | false =>
          simp only [attempt, deeds, stage, knocked, Bool.false_eq_true, ↓reduceIte]
          exact Moved.refused number delay panel stage knocked
      | true =>
          cases asks : ask turn.now reading.id reading.options turn.source with
          | mk source answer =>
              by_cases atOnce : answer.after = 0
              · simp only [attempt, deeds, stage, knocked, asks, atOnce, ↓reduceIte]
                exact Moved.answeredAtOnce number delay panel source answer stage knocked asks
                  atOnce
              · simp only [attempt, deeds, stage, knocked, asks, atOnce, ↓reduceIte]
                exact Moved.asked number delay panel source answer stage knocked asks atOnce

theorem step_moved (ask : Ask σ) (turn after : Turn σ) (reading next : Reading)
    (stepped : step? ask turn reading = some (after, next)) :
    Moved ask turn reading (reading.deeds ask turn) after next := by
  cases stage : reading.stage with
  | attempting number delay =>
      simp only [step?, stage, Option.some.injEq] at stepped
      have moved := attempt_moved ask turn reading number delay stage
      rwa [stepped] at moved
  | asking number delay due answer =>
      by_cases ends : turn.canEnd due = true
      · simp only [step?, stage, ends, ↓reduceIte, Option.some.injEq, Prod.mk.injEq] at stepped
        obtain ⟨rfl, rfl⟩ := stepped
        simp only [deeds, stage]
        exact Moved.answered number delay due answer stage ends
      · simp [step?, stage, ends] at stepped
  | pausing number delay due =>
      by_cases ends : turn.canEnd due = true
      · simp only [step?, stage, ends, ↓reduceIte, Option.some.injEq, Prod.mk.injEq] at stepped
        obtain ⟨rfl, rfl⟩ := stepped
        simp only [deeds, stage]
        exact Moved.resumed number delay due stage ends
      · simp [step?, stage, ends] at stepped
  | finished time answer => simp [step?, stage] at stepped
  | abandoned time => simp [step?, stage] at stepped

theorem canEnd_iff (turn : Turn σ) (due : Nat) :
    turn.canEnd due = true ↔ due ≤ turn.now ∧ 0 < turn.waits := by
  simp [Turn.canEnd]

/-- Who is not over and cannot move waits for an answer or for the end of a pause. -/
theorem stuck_stage (ask : Ask σ) (turn : Turn σ) (reading : Reading)
    (open' : reading.isOver = false) (stuck : step? ask turn reading = none) :
    (∃ number delay due answer, reading.stage = .asking number delay due answer ∧
        turn.canEnd due = false) ∨
      (∃ number delay due, reading.stage = .pausing number delay due ∧
        turn.canEnd due = false) := by
  cases stage : reading.stage with
  | attempting number delay => simp [step?, stage] at stuck
  | asking number delay due answer =>
      refine Or.inl ⟨number, delay, due, answer, rfl, ?_⟩
      cases ends : turn.canEnd due with
      | false => rfl
      | true => simp [step?, stage, ends] at stuck
  | pausing number delay due =>
      refine Or.inr ⟨number, delay, due, rfl, ?_⟩
      cases ends : turn.canEnd due with
      | false => rfl
      | true => simp [step?, stage, ends] at stuck
  | finished time answer => simp [isOver, stage] at open'
  | abandoned time => simp [isOver, stage] at open'

/-- What looking at the limits of a reading can come to. -/
inductive Limited (turn : Turn σ) (reading : Reading) : List Deed → Turn σ → Reading → Prop where
  | expired (due : reading.deadline ≤ turn.now) :
      Limited turn reading [.expired]
        { turn.endWait with panel := (expire turn.now turn.panel reading).1 }
        (reading.finish turn.now (.error (timedOut reading.id)))
  | abandoned (early : turn.now < reading.deadline)
      (impatient : reading.patience.any (· ≤ turn.now) = true) :
      Limited turn reading [.abandoned]
        { turn.endWait with panel := letGo turn.panel reading }
        { reading with stage := .abandoned turn.now }
  | kept (early : turn.now < reading.deadline)
      (patient : reading.patience.any (· ≤ turn.now) = false) :
      Limited turn reading [] turn reading

theorem limit_limited (turn : Turn σ) (reading : Reading) :
    Limited turn reading (reading.limitDeeds turn) (reading.limit turn).1
      (reading.limit turn).2 := by
  by_cases due : reading.deadline ≤ turn.now
  · simp only [limit, limitDeeds, due, ↓reduceIte]
    exact Limited.expired due
  · have early := Nat.not_le.mp due
    cases impatient : reading.patience.any (· ≤ turn.now) with
    | true =>
        simp only [limit, limitDeeds, due, impatient, ↓reduceIte]
        exact Limited.abandoned early impatient
    | false =>
        simp only [limit, limitDeeds, due, impatient, Bool.false_eq_true, ↓reduceIte]
        exact Limited.kept early impatient

/-! A move leaves alone what a reading came with, and the time. -/

structure SameRequest (reading next : Reading) : Prop where
  id : next.id = reading.id
  options : next.options = reading.options
  guard : next.guard = reading.guard
  started : next.started = reading.started
  patience : next.patience = reading.patience

theorem sameRequest_concluded (now : Nat) (reading next : Reading) (number delay : Nat)
    (answer : Except Fault Organization)
    (concluded : Concluded now reading number delay answer next) : SameRequest reading next := by
  cases concluded <;> exact ⟨rfl, rfl, rfl, rfl, rfl⟩

theorem sameRequest_moved (ask : Ask σ) (turn after : Turn σ) (reading next : Reading)
    (deeds : List Deed) (moved : Moved ask turn reading deeds after next) :
    SameRequest reading next ∧ after.now = turn.now := by
  cases moved with
  | refused number delay panel stage knocked => exact ⟨⟨rfl, rfl, rfl, rfl, rfl⟩, rfl⟩
  | asked number delay panel source answer stage knocked asks later =>
      exact ⟨⟨rfl, rfl, rfl, rfl, rfl⟩, rfl⟩
  | answeredAtOnce number delay panel source answer stage knocked asks atOnce =>
      exact ⟨sameRequest_concluded _ _ _ _ _ _
        (conclude_concluded turn.now panel reading number delay answer.value), rfl⟩
  | answered number delay due answer stage ends =>
      exact ⟨sameRequest_concluded _ _ _ _ _ _
        (conclude_concluded turn.now turn.panel reading number delay answer), rfl⟩
  | resumed number delay due stage ends => exact ⟨⟨rfl, rfl, rfl, rfl, rfl⟩, rfl⟩

theorem sameRequest_limited (turn after : Turn σ) (reading next : Reading)
    (deeds : List Deed) (limited : Limited turn reading deeds after next) :
    SameRequest reading next ∧ after.now = turn.now := by
  cases limited <;> exact ⟨⟨rfl, rfl, rfl, rfl, rfl⟩, rfl⟩

theorem SameRequest.deadline {reading next : Reading} (same : SameRequest reading next) :
    next.deadline = reading.deadline := by
  simp [Reading.deadline, same.started, same.guard]

theorem concluded_not_abandoned (now : Nat) (reading next : Reading) (number delay : Nat)
    (answer : Except Fault Organization) (time : Nat)
    (concluded : Concluded now reading number delay answer next) :
    next.stage ≠ .abandoned time := by
  cases concluded <;> simp [finish]

theorem moved_not_abandoned (ask : Ask σ) (turn after : Turn σ) (reading next : Reading)
    (deeds : List Deed) (time : Nat) (moved : Moved ask turn reading deeds after next) :
    next.stage ≠ .abandoned time := by
  cases moved with
  | refused number delay panel stage knocked => simp [finish]
  | asked number delay panel source answer stage knocked asks later => simp
  | answeredAtOnce number delay panel source answer stage knocked asks atOnce =>
      exact concluded_not_abandoned _ _ _ _ _ _ time
        (conclude_concluded turn.now panel reading number delay answer.value)
  | answered number delay due answer stage ends =>
      exact concluded_not_abandoned _ _ _ _ _ _ time
        (conclude_concluded turn.now turn.panel reading number delay answer)
  | resumed number delay due stage ends => simp

/-- Limits abandon only a reading that came with a patience. -/
theorem limited_abandoned (turn after : Turn σ) (reading next : Reading) (deeds : List Deed)
    (time : Nat) (open' : reading.isOver = false)
    (limited : Limited turn reading deeds after next) (abandoned : next.stage = .abandoned time) :
    reading.patience.isSome = true := by
  cases limited with
  | expired due => cases abandoned
  | abandoned early impatient =>
      cases patience : reading.patience with
      | none => simp [patience] at impatient
      | some limit => rfl
  | kept early patient => simp [isOver, abandoned] at open'

theorem open_of_moved (ask : Ask σ) (turn after : Turn σ) (reading next : Reading)
    (deeds : List Deed) (moved : Moved ask turn reading deeds after next) :
    reading.isOver = false := by
  cases moved <;> simp_all [isOver]

end Reading
end Roster
