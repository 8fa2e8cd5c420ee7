import Roster.Fault
import Roster.Metrics

/-!
What the parts of a process share: its metrics and its breakers. There is one
breaker to a name, made with the policy of whoever asked first; every change of
its phase is counted. A breaker may also stand apart, known to its owner alone.
-/

namespace Roster

structure Switch where
  name : String
  policy : BreakerPolicy
  breaker : Breaker := {}
  listed : Bool := true
deriving Repr

structure Panel where
  switches : List Switch := []
  metrics : Metrics := {}
  measured : Bool := true
deriving Repr

namespace Panel

def count (panel : Panel) (counter : Counter) : Panel :=
  { panel with metrics := panel.metrics.bump counter }

def find? (panel : Panel) (name : String) : Option Nat :=
  panel.switches.findIdx? fun switch => switch.listed && switch.name == name

def obtain (panel : Panel) (name : String) (policy : BreakerPolicy) : Panel × Nat :=
  match panel.find? name with
  | some place => (panel, place)
  | none =>
    ({ panel with
        switches := panel.switches ++ [{ name, policy }]
        metrics := if panel.measured then panel.metrics.setPhase name .closed else panel.metrics },
      panel.switches.length)

/-- A breaker that no one else finds and that reports nothing. -/
def setApart (panel : Panel) (name : String) (policy : BreakerPolicy) : Panel × Nat :=
  ({ panel with switches := panel.switches ++ [{ name, policy, listed := false }] },
    panel.switches.length)

def breaker? (panel : Panel) (place : Nat) : Option Breaker :=
  panel.switches[place]?.map Switch.breaker

def replace (panel : Panel) (place : Nat) (switch : Switch) (next : Breaker) : Panel :=
  { panel with
    switches := panel.switches.set place { switch with breaker := next }
    metrics :=
      if switch.listed && panel.measured then
        panel.metrics.transition switch.name switch.breaker.phase next.phase
      else panel.metrics }

def update (panel : Panel) (place : Nat) (change : BreakerPolicy → Breaker → Breaker) : Panel :=
  match panel.switches[place]? with
  | none => panel
  | some switch => panel.replace place switch (change switch.policy switch.breaker)

def enter (panel : Panel) (place now : Nat) : Panel × Bool :=
  match panel.switches[place]? with
  | none => (panel, false)
  | some switch =>
    let (next, admitted) := switch.breaker.enter switch.policy now
    (panel.replace place switch next, admitted)

def succeed (panel : Panel) (place : Nat) : Panel :=
  panel.update place fun policy breaker => breaker.succeed policy

def fail (panel : Panel) (place now : Nat) : Panel :=
  panel.update place fun policy breaker => breaker.fail policy now

def release (panel : Panel) (place : Nat) : Panel :=
  panel.update place fun _ breaker => breaker.release

/-- Records how an admitted call ended. Only a transient failure counts against
the other side: any other answer proves that it is there. -/
def conclude {ε α : Type} (panel : Panel) (place now : Nat) (isTransient : ε → Bool) :
    Except ε α → Panel
  | .ok _ => panel.succeed place
  | .error failure =>
    if isTransient failure then panel.fail place now else panel.succeed place

def snapshot (panel : Panel) : List (String × Phase) :=
  ((panel.switches.filter (·.listed)).map fun switch => (switch.name, switch.breaker.phase)).mergeSort
    fun a b => a.1 ≤ b.1

end Panel
end Roster
