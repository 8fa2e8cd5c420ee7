import Roster.Backoff
import Roster.Panel

/-!
Calls through breakers over time. A call is admitted or refused when it starts;
an admitted call is in flight until it is finished with an outcome or dropped,
and any number of them may overlap.
-/

namespace Roster

inductive Guarded (α : Type) where
  | done (value : α)
  | refused
  | failed (fault : Fault)
deriving Repr

namespace Guarded

variable {α : Type}

def ofOutcome : Except Fault α → Guarded α
  | .ok value => .done value
  | .error fault => .failed fault

def message : Guarded α → String
  | .done _ => ""
  | .refused => "Circuit breaker is open"
  | .failed fault => "Operation failed: " ++ fault.message

/-- A refused call is final: to repeat it only uses up attempts. -/
def isTransient : Guarded α → Bool
  | .failed fault => fault.isTransient
  | _ => false

end Guarded

/-- A panel at a time, and the calls in flight with the places of their breakers. -/
structure Traffic where
  panel : Panel := {}
  now : Nat := 0
  calls : List (String × Nat) := []
deriving Repr

namespace Traffic

variable {α : Type}

def advance (traffic : Traffic) (duration : Nat) : Traffic :=
  { traffic with now := traffic.now + duration }

def withPanel (traffic : Traffic) (panel : Panel) : Traffic := { traffic with panel }

def isInFlight (traffic : Traffic) (id : String) : Bool := (traffic.calls.lookup id).isSome

def drop (traffic : Traffic) (id : String) : Traffic :=
  match traffic.calls.lookup id with
  | none => traffic
  | some place =>
    { traffic with
      panel := traffic.panel.release place
      calls := traffic.calls.filter (·.1 != id) }

def start (traffic : Traffic) (id : String) (place : Nat) : Traffic × Bool :=
  let (panel, admitted) := traffic.panel.enter place traffic.now
  if admitted then
    let traffic := (traffic.withPanel panel).drop id
    ({ traffic with calls := (id, place) :: traffic.calls }, true)
  else (traffic.withPanel panel, false)

def finish (traffic : Traffic) (id : String) (outcome : Timed (Except Fault α)) :
    Traffic × Option (Guarded α) :=
  match traffic.calls.lookup id with
  | none => (traffic, none)
  | some place =>
    let traffic := traffic.advance outcome.after
    ({ traffic with
        panel := traffic.panel.conclude place traffic.now Fault.isTransient outcome.value
        calls := traffic.calls.filter (·.1 != id) },
      some (.ofOutcome outcome.value))

/-- A whole call, given up after `patience` if its outcome takes longer; a call
that was given up has no result. -/
def call (traffic : Traffic) (place : Nat) (outcome : Timed (Except Fault α))
    (patience : Option Nat) : Traffic × Option (Guarded α) :=
  let (panel, admitted) := traffic.panel.enter place traffic.now
  let traffic := traffic.withPanel panel
  if !admitted then (traffic, some .refused)
  else match (patience.map waitFor).filter (· < outcome.after) with
    | some patience =>
      let traffic := traffic.advance patience
      (traffic.withPanel (traffic.panel.release place), none)
    | none =>
      let traffic := traffic.advance outcome.after
      (traffic.withPanel (traffic.panel.conclude place traffic.now Fault.isTransient outcome.value),
        some (.ofOutcome outcome.value))

def recordTimeout (traffic : Traffic) (place : Nat) : Traffic :=
  traffic.withPanel (traffic.panel.fail place traffic.now)

end Traffic
end Roster
