import Roster.Fault
import Roster.Number.Double

/-!
Repeated attempts. An attempt that fails transiently is repeated after a pause
as long as attempts are left; every pause but the first is the one before it
times a factor, and at most the longest allowed.
-/

namespace Roster

open Number (Double)

structure Backoff where
  maxAttempts : Nat := 3
  /-- The pause before the second attempt, in milliseconds. -/
  initialDelay : Nat := 1000
  /-- The bound of every later pause. -/
  maxDelay : Nat := 10000
  multiplier : Double := Double.ofNat 2
deriving Repr

namespace Backoff

def wordLimit : Nat := Nat.pow 2 64 - 1

def nextDelay (backoff : Backoff) (delay : Nat) : Nat :=
  min (((Double.ofNat delay).mul backoff.multiplier).clamp wordLimit) backoff.maxDelay

def isLast (backoff : Backoff) (attempt : Nat) : Bool := backoff.maxAttempts ≤ attempt

end Backoff

inductive Verdict (ε α : Type) where
  | success (value : α)
  | failed (failure : ε)
  | permanent (failure : ε)
deriving Repr

structure Attempts (ε α : Type) where
  starts : List (Nat × Nat)
  verdict : Verdict ε α
  finished : Nat
deriving Repr

namespace Backoff

variable {ε α : Type}

/-- Makes the attempts from number `attempt` on. `left` counts those that may
follow; `outcome` says what the attempt of a number comes to and how long it takes. -/
def attemptsFrom (backoff : Backoff) (isTransient : ε → Bool)
    (outcome : Nat → Timed (Except ε α)) :
    (left attempt delay now : Nat) → Attempts ε α
  | left, attempt, delay, now =>
    let answer := outcome attempt
    let ended := now + answer.after
    match answer.value with
    | .ok value => ⟨[(attempt, now)], .success value, ended⟩
    | .error failure =>
      if !isTransient failure then ⟨[(attempt, now)], .permanent failure, ended⟩
      else match left with
        | 0 => ⟨[(attempt, now)], .failed failure, ended⟩
        | left + 1 =>
          let rest := attemptsFrom backoff isTransient outcome left (attempt + 1)
            (backoff.nextDelay delay) (ended + waitFor delay)
          { rest with starts := (attempt, now) :: rest.starts }

def run (backoff : Backoff) (isTransient : ε → Bool) (outcome : Nat → Timed (Except ε α))
    (now : Nat) : Attempts ε α :=
  attemptsFrom backoff isTransient outcome (backoff.maxAttempts - 1) 1 backoff.initialDelay now

end Backoff
end Roster
