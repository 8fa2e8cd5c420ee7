/-!
Circuit breakers. A breaker counts failures of the calls it let through; too
many within a window open it, and after a pause it lets single probes through
until enough of them succeed. Time is given in milliseconds and never kept.
-/

namespace Roster

inductive Phase where
  | closed
  | opened
  | halfOpen
deriving DecidableEq, Repr

namespace Phase

def name : Phase → String
  | .closed => "closed"
  | .opened => "open"
  | .halfOpen => "half_open"

def code : Phase → Nat
  | .closed => 0
  | .opened => 1
  | .halfOpen => 2

end Phase

structure BreakerPolicy where
  failureThreshold : Nat := 5
  /-- A failure later than this after the first of a row starts a new row. -/
  rollingWindow : Nat := 30000
  openDuration : Nat := 10000
  successThreshold : Nat := 1
deriving DecidableEq, Repr

structure Breaker where
  phase : Phase := .closed
  failures : Nat := 0
  successes : Nat := 0
  windowStart : Option Nat := none
  openedAt : Option Nat := none
  probing : Bool := false
deriving DecidableEq, Repr

namespace Breaker

def hasCooled (breaker : Breaker) (policy : BreakerPolicy) (now : Nat) : Bool :=
  breaker.openedAt.all fun opened => opened + policy.openDuration ≤ now

def cool (breaker : Breaker) (policy : BreakerPolicy) (now : Nat) : Breaker :=
  if breaker.phase = .opened ∧ breaker.hasCooled policy now then
    { breaker with phase := .halfOpen, successes := 0 }
  else breaker

/-- Lets a call through or refuses it. A probe takes the one place there is. -/
def enter (breaker : Breaker) (policy : BreakerPolicy) (now : Nat) : Breaker × Bool :=
  let breaker := breaker.cool policy now
  match breaker.phase with
  | .closed => (breaker, true)
  | .opened => (breaker, false)
  | .halfOpen =>
    if breaker.probing then (breaker, false) else ({ breaker with probing := true }, true)

/-- A call ended well, or in a way that shows the other side to be there. -/
def succeed (breaker : Breaker) (policy : BreakerPolicy) : Breaker :=
  match breaker.phase with
  | .closed => { breaker with failures := 0, windowStart := none }
  | .opened => breaker
  | .halfOpen =>
    if policy.successThreshold ≤ breaker.successes + 1 then
      { phase := .closed }
    else { breaker with probing := false, successes := breaker.successes + 1 }

def windowIsOver (breaker : Breaker) (policy : BreakerPolicy) (now : Nat) : Bool :=
  breaker.windowStart.all fun started => started + policy.rollingWindow < now

def fail (breaker : Breaker) (policy : BreakerPolicy) (now : Nat) : Breaker :=
  match breaker.phase with
  | .closed =>
    let fresh := breaker.windowIsOver policy now
    let failures := if fresh then 1 else breaker.failures + 1
    let windowStart := if fresh then some now else breaker.windowStart
    if policy.failureThreshold ≤ failures then
      { breaker with phase := .opened, failures, windowStart, openedAt := some now }
    else { breaker with failures, windowStart }
  | .halfOpen =>
    { breaker with phase := .opened, probing := false, successes := 0, openedAt := some now }
  | .opened => { breaker with openedAt := some now }

def release (breaker : Breaker) : Breaker :=
  if breaker.phase = .halfOpen then { breaker with probing := false } else breaker

end Breaker
end Roster
