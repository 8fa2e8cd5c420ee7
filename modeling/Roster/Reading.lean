import Roster.Backoff
import Roster.Panel
import Roster.Record

/-!
Guarded reads, turn by turn. What happens until everything waits is one turn, and time stands
still in it. Those who take part share the breakers and a source of answers. Only so many waits
come to their end in one turn; what is due beyond that has to wait for the next one, which may
be at the same time.
-/

namespace Roster

structure Turn (σ : Type) where
  now : Nat
  panel : Panel
  source : σ
  waits : Nat
deriving Repr

namespace Turn

variable {σ : Type}

/-- How many waits come to their end in a turn. -/
def capacity : Nat := 128

/-- A wait can end that is due, if the turn is not used up. -/
def canEnd (turn : Turn σ) (due : Nat) : Bool := due ≤ turn.now && 0 < turn.waits

def endWait (turn : Turn σ) : Turn σ := { turn with waits := turn.waits - 1 }

def next (turn : Turn σ) (time : Nat) : Turn σ :=
  { turn with now := max turn.now time, waits := capacity }

end Turn

/-!
The guarded read of an organization makes attempts, each through a breaker,
with pauses between them, and all of it within a deadline. A refused attempt is
answered with a stand-in; a deadline that runs out counts against the breaker; a
caller that gives up counts for nothing. A reading is such a read in the course
of time: it moves on only when it is polled.
-/

/-- The settings of a guarded read: whose address a stand-in carries, the place
of the breaker, the pauses, and how long a read may take. -/
structure ReadGuard where
  address : String
  place : Nat
  backoff : Backoff
  deadline : Nat
deriving Repr

/-- Where a reading stands. Attempts are numbered from 1, `delay` is the pause
that would follow the attempt. -/
inductive Stage where
  | attempting (attempt delay : Nat)
  | asking (attempt delay due : Nat) (answer : Except Fault Organization)
  | pausing (attempt delay due : Nat)
  | finished (time : Nat) (answer : Except Fault Organization)
  | abandoned (time : Nat)
deriving Repr

structure Reading where
  id : Id
  options : ReadOptions
  guard : ReadGuard
  started : Nat
  patience : Option Nat := none
  stage : Stage
deriving Repr

namespace Reading

def operation : String := "organization"

abbrev Ask (σ : Type) := Nat → Id → ReadOptions → σ → σ × Timed (Except Fault Organization)

def start (id : Id) (options : ReadOptions) (guard : ReadGuard) (now : Nat)
    (patience : Option Nat) : Reading where
  id := id
  options := options
  guard := guard
  started := now
  patience := patience.map fun patience => now + waitFor patience
  stage := .attempting 1 guard.backoff.initialDelay

def deadline (reading : Reading) : Nat := reading.started + waitFor reading.guard.deadline

/-- The record served in place of one that could not be asked for. It tells
itself from a real one by its name and country. -/
def standIn (id : Id) (address : String) : Organization :=
  let label := s!"Fallback organization{id}"
  { id, name := label, country := label, originAddress := address }

def timedOut (id : Id) : Fault :=
  .backendUnavailable s!"Organization read for organizationId: {id} timed out"

def isOver (reading : Reading) : Bool :=
  match reading.stage with
  | .finished .. | .abandoned _ => true
  | _ => false

def finish (reading : Reading) (now : Nat) (answer : Except Fault Organization) : Reading :=
  { reading with stage := .finished now answer }

def conclude (now : Nat) (panel : Panel) (reading : Reading) (number delay : Nat)
    (answer : Except Fault Organization) : Panel × Reading :=
  let panel := panel.conclude reading.guard.place now Fault.isTransient answer
  match answer with
  | .ok _ => (panel.count (.retrySuccess operation), reading.finish now answer)
  | .error fault =>
    if !fault.isTransient then (panel, reading.finish now answer)
    else if reading.guard.backoff.isLast number then
      (panel.count (.retryFailure operation), reading.finish now answer)
    else (panel, { reading with stage := .pausing number delay (now + waitFor delay) })

/-- Asks the breaker to let an attempt through. Every attempt but the first is counted. -/
def knock {σ : Type} (turn : Turn σ) (reading : Reading) (number : Nat) : Panel × Bool :=
  let panel := if 1 < number then turn.panel.count (.retryAttempts operation number)
    else turn.panel
  panel.enter reading.guard.place turn.now

def attempt {σ : Type} (ask : Ask σ) (turn : Turn σ) (reading : Reading) (number delay : Nat) :
    Turn σ × Reading :=
  let (panel, admitted) := knock turn reading number
  if admitted then
    let (source, answer) := ask turn.now reading.id reading.options turn.source
    if answer.after = 0 then
      let (panel, reading) := conclude turn.now panel reading number delay answer.value
      ({ turn with panel, source }, reading)
    else
      ({ turn with panel, source },
        { reading with stage := .asking number delay (turn.now + answer.after) answer.value })
  else
    ({ turn with panel := panel.count (.fallbacksServed operation) },
      reading.finish turn.now (.ok (standIn reading.id reading.guard.address)))

/-- One move of a reading, if there is one to make in this turn. -/
def step? {σ : Type} (ask : Ask σ) (turn : Turn σ) (reading : Reading) :
    Option (Turn σ × Reading) :=
  match reading.stage with
  | .attempting number delay => some (attempt ask turn reading number delay)
  | .asking number delay due answer =>
    if turn.canEnd due then
      let (panel, reading) := conclude turn.now turn.panel reading number delay answer
      some ({ turn.endWait with panel }, reading)
    else none
  | .pausing number delay due =>
    if turn.canEnd due then
      let next := reading.guard.backoff.nextDelay delay
      some (turn.endWait, { reading with stage := .attempting (number + 1) next })
    else none
  | .finished .. | .abandoned _ => none

def movesLeft (reading : Reading) : Nat :=
  let attempts := max reading.guard.backoff.maxAttempts 1
  match reading.stage with
  | .attempting number _ => 3 * (attempts - number) + 2
  | .asking number .. => 3 * (attempts - number) + 1
  | .pausing number .. => 3 * (attempts - number)
  | .finished .. | .abandoned _ => 0

def advance {σ : Type} (ask : Ask σ) : Nat → Turn σ → Reading → Turn σ × Reading
  | 0, turn, reading => (turn, reading)
  | moves + 1, turn, reading =>
    match step? ask turn reading with
    | none => (turn, reading)
    | some (turn, reading) => advance ask moves turn reading

def letGo (panel : Panel) (reading : Reading) : Panel :=
  match reading.stage with
  | .asking .. => panel.release reading.guard.place
  | _ => panel

def expire (now : Nat) (panel : Panel) (reading : Reading) : Panel × Reading :=
  let panel := (letGo panel reading).fail reading.guard.place now
  (panel.count (.retryFailure operation), reading.finish now (.error (timedOut reading.id)))

def abandon (now : Nat) (panel : Panel) (reading : Reading) : Panel × Reading :=
  (letGo panel reading, { reading with stage := .abandoned now })

def limit {σ : Type} (turn : Turn σ) (reading : Reading) : Turn σ × Reading :=
  if reading.deadline ≤ turn.now then
    let (panel, reading) := expire turn.now turn.panel reading
    ({ turn.endWait with panel }, reading)
  else if reading.patience.any (· ≤ turn.now) then
    let (panel, reading) := abandon turn.now turn.panel reading
    ({ turn.endWait with panel }, reading)
  else (turn, reading)

/-- Polls a reading: it moves as far as it can in this turn, and if it is not over
then, its limits are looked at. They may use up the turn, but they are not looked
at if it was used up before. -/
def poll {σ : Type} (ask : Ask σ) (turn : Turn σ) (reading : Reading) : Turn σ × Reading :=
  let (after, reading) := advance ask reading.movesLeft turn reading
  if reading.isOver || turn.waits = 0 then (after, reading) else limit after reading

def bound (reading : Reading) : Nat :=
  match reading.patience with
  | none => reading.deadline
  | some patience => min reading.deadline patience

def wake? (reading : Reading) : Option Nat :=
  match reading.stage with
  | .attempting .. => some reading.bound
  | .asking _ _ due _ | .pausing _ _ due => some (min due reading.bound)
  | .finished .. | .abandoned _ => none

end Reading

/-!
Readings side by side. They share one panel and one backend; time stands still
during a turn and then jumps to the next moment at which one has to be polled.
All of them are polled in every turn, in the order of the list.
-/

structure Scene (σ : Type) where
  turn : Turn σ
  readings : List Reading := []

namespace Scene

variable {σ : Type}

def pollAll (ask : Reading.Ask σ) : Turn σ → List Reading → Turn σ × List Reading
  | turn, [] => (turn, [])
  | turn, reading :: rest =>
    let (turn, reading) := reading.poll ask turn
    let (turn, rest) := pollAll ask turn rest
    (turn, reading :: rest)

def poll (ask : Reading.Ask σ) (scene : Scene σ) : Scene σ :=
  let (turn, readings) := pollAll ask scene.turn scene.readings
  { turn, readings }

def wake? (scene : Scene σ) : Option Nat := (scene.readings.filterMap Reading.wake?).min?

def runWithin (ask : Reading.Ask σ) : Nat → Scene σ → Scene σ
  | 0, scene => scene
  | turns + 1, scene =>
    let scene := scene.poll ask
    match scene.wake? with
    | none => scene
    | some time => runWithin ask turns { scene with turn := scene.turn.next time }

/-- Every turn but the first moves or ends a reading, so these turns are enough. -/
def turns (scene : Scene σ) : Nat :=
  scene.readings.foldr (fun reading turns => reading.movesLeft + 1 + turns) 1

def run (ask : Reading.Ask σ) (scene : Scene σ) : Scene σ :=
  scene.runWithin ask scene.turns

end Scene
end Roster
