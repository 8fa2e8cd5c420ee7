import Roster.Store

/-!
Channels inside of a process: the way of events to its own backends, and why some of them do
not get through.
-/

namespace Roster.Channel

inductive Failure where
  | closed (name : String)
  | publish (channel reason : String)
  | serialization (detail : String)
  | rejected (fault : Fault)
deriving DecidableEq, Repr

namespace Failure

def message : Failure → String
  | .closed name => s!"channel {name} is closed"
  | .publish channel reason => s!"publish to {channel} failed: {reason}"
  | .serialization detail => s!"failed to serialize event: {detail}"
  | .rejected fault => fault.message

def isTransient : Failure → Bool
  | .publish .. => true
  | _ => false

/-- What the caller of a write is told: the backend's own fault where there is one. -/
def toFault : Failure → Fault
  | .rejected fault => fault
  | failure => .backendUnavailable failure.message

end Failure

/-!
The way of events to one backend inside a process. An event is either handed
over at once, and then the backend's refusal comes back to who sent it, or it is
put into a queue, and then it is on its way however the backend takes it later.
-/

structure Lane (σ α : Type) where
  name : String
  store : σ
  isAlive : Bool := true
  queue : List (Event α) := []
  isOpen : Bool := true
deriving Repr

namespace Lane

variable {σ α : Type}

def handOver [Store σ α] (event : Event α) (lane : Lane σ α) (metrics : Metrics) :
    Lane σ α × Metrics × Except Failure Unit :=
  if !lane.isAlive then (lane, metrics, .error (.closed s!"{lane.name} (Mailbox has closed)"))
  else
    let (store, metrics, result) := Store.process event lane.store metrics
    ({ lane with store }, metrics, result.mapError .rejected)

def enqueue (event : Event α) (lane : Lane σ α) : Lane σ α × Except Failure Unit :=
  if lane.isOpen then ({ lane with queue := lane.queue ++ [event] }, .ok ())
  else (lane, .error (.closed lane.name))

def close (lane : Lane σ α) : Lane σ α := { lane with queue := [], isOpen := false }

/-- Hands over the oldest queued event. A refusal is the backend's own affair; a
backend that is gone closes the queue. -/
def forward [Store σ α] (lane : Lane σ α) (metrics : Metrics) : Lane σ α × Metrics :=
  match lane.queue with
  | [] => (lane, metrics)
  | event :: queue =>
    if !lane.isAlive then (lane.close, metrics)
    else
      let (store, metrics, _) := Store.process event lane.store metrics
      ({ lane with store, queue }, metrics)

def forwardMany [Store σ α] : Nat → Lane σ α → Metrics → Lane σ α × Metrics
  | 0, lane, metrics => (lane, metrics)
  | count + 1, lane, metrics =>
    let (lane, metrics) := lane.forward metrics
    forwardMany count lane metrics

def drain [Store σ α] (lane : Lane σ α) (metrics : Metrics) : Lane σ α × Metrics :=
  lane.forwardMany lane.queue.length metrics

end Lane
end Roster.Channel

/-!
Both channels of a process that keeps both backends itself. Every event that
got through a channel is counted as emitted, whatever the backend makes of it.
-/

namespace Roster

open Calendar (Moment)
open Channel (Failure Lane)

inductive Transport where
  | direct
  | queued
deriving DecidableEq, Repr

structure Bus where
  transport : Transport
  organizations : Lane Organizations Organization
  members : Lane Members Member
  metrics : Metrics := {}
deriving Repr

namespace Bus

variable {σ α : Type}

/-- Sends an event into a channel and counts it if it got through. -/
def publish [Store σ α] (transport : Transport) (event : Event α) (lane : Lane σ α)
    (metrics : Metrics) : Lane σ α × Metrics × Except Failure Unit :=
  let (lane, metrics, result) := match transport with
    | .direct => lane.handOver event metrics
    | .queued => ((lane.enqueue event).1, metrics, (lane.enqueue event).2)
  match result with
  | .ok () => (lane, metrics.bump (.eventsEmitted lane.name event.kind.name), result)
  | .error _ => (lane, metrics, result)

def emit (now : Moment) (emission : Emission) (bus : Bus) : Bus × Except Failure Unit :=
  match emission with
  | .organization change =>
    let (organizations, metrics, result) :=
      publish bus.transport (change.event now) bus.organizations bus.metrics
    ({ bus with organizations, metrics }, result)
  | .member change =>
    let (members, metrics, result) :=
      publish bus.transport (change.event now) bus.members bus.metrics
    ({ bus with members, metrics }, result)

def drain (bus : Bus) : Bus :=
  let (organizations, metrics) := bus.organizations.drain bus.metrics
  let (members, metrics) := bus.members.drain metrics
  { bus with organizations, members, metrics }

end Bus
end Roster
