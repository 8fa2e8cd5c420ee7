import Roster.Bus
import Roster.Panel

/-!
The way of events to a backend through the topic of a broker. A publisher sends
each event once, guarded by a breaker of its own. A consumer takes what its topic
delivers in order: it hands over what it can read, passes over what it cannot,
and pauses when the broker fails. It stops only when its backend is gone.
-/

namespace Roster.Channel

open Json (Wire)
open Text (Bytes)

structure Record where
  topic : String
  key : String
  payload : Bytes
deriving DecidableEq, Repr

/-- Events of one key share the key of their records, so the broker keeps them in order. -/
def Record.ofEvent {α : Type} [Wire α] (topic : String) (event : Event α) : Record where
  topic := topic
  key := toString event.key
  payload := Wire.encode event

/-- What keeps a broker from being used, where anything does: making a publisher,
making a consumer, and giving a consumer its topic. -/
structure Obstacles where
  producer : Option String := none
  consumer : Option String := none
  subscription : Option String := none
deriving DecidableEq, Repr

namespace Obstacles

def check (topic : String) : List (String × Option String) → Except Failure Unit
  | [] => .ok ()
  | (_, none) :: rest => check topic rest
  | (step, some reason) :: _ => .error (.publish topic s!"failed to {step}: {reason}")

def checkPublisher (obstacles : Obstacles) (topic : String) : Except Failure Unit :=
  check topic [("create producer", obstacles.producer)]

def checkConsumer (obstacles : Obstacles) (topic : String) : Except Failure Unit :=
  check topic [("create consumer", obstacles.consumer), ("subscribe", obstacles.subscription)]

end Obstacles

structure Publisher where
  topic : String
  place : Nat
deriving DecidableEq, Repr

namespace Publisher

def policy : BreakerPolicy where
  failureThreshold := 5
  rollingWindow := 60000
  openDuration := 30000
  successThreshold := 3

def install (topic : String) (panel : Panel) : Panel × Publisher :=
  let (panel, place) := panel.obtain s!"kafka-{topic}" policy
  (panel, { topic, place })

/-- How a broker, of whatever state, takes a record. -/
abbrev Send (β : Type) := Record → β → β × Timed (Except String Unit)

/-- Publishes an event. A refused one never reaches the broker. -/
def publish {α β : Type} [Wire α] (send : Send β) (publisher : Publisher) (now : Nat)
    (event : Event α) (panel : Panel) (broker : β) : Panel × β × Timed (Except Failure Unit) :=
  let (panel, admitted) := panel.enter publisher.place now
  if !admitted then
    (panel, broker, .now (.error (.publish publisher.topic "circuit breaker open")))
  else
    let (broker, sent) := send (.ofEvent publisher.topic event) broker
    let result := sent.map fun answer => answer.mapError (Failure.publish publisher.topic)
    (panel.conclude publisher.place (now + sent.after) Failure.isTransient result.value,
      broker, result)

end Publisher

inductive Delivery where
  | record (payload : Option Bytes)
  | failure
deriving DecidableEq, Repr

def Delivery.event? {α : Type} [Wire α] : Delivery → Option (Event α)
  | .record (some payload) => (Event.receive payload).toOption
  | _ => none

structure Consumer (σ : Type) where
  store : σ
  isAlive : Bool := true
  pending : List Delivery := []
  due : Nat := 0
  isRunning : Bool := true
deriving Repr

namespace Consumer

variable {σ α : Type}

def pause : Nat := 500

def take [Store σ α] [Wire α] (now : Nat) (delivery : Delivery) (consumer : Consumer σ)
    (metrics : Metrics) : Consumer σ × Metrics :=
  if delivery = .failure then ({ consumer with due := now + pause }, metrics)
  else match (delivery.event? : Option (Event α)) with
    | none => (consumer, metrics)
    | some event =>
      if consumer.isAlive then
        let (store, metrics, _) := Store.process event consumer.store metrics
        ({ consumer with store }, metrics)
      else ({ consumer with isRunning := false }, metrics)

def takeAll [Store σ α] [Wire α] (now limit : Nat) :
    List Delivery → Consumer σ → Metrics → Consumer σ × Metrics
  | [], consumer, metrics => ({ consumer with pending := [] }, metrics)
  | delivery :: rest, consumer, metrics =>
    let time := max now consumer.due
    if consumer.isRunning && time < limit then
      let (consumer, metrics) := consumer.take time delivery metrics
      takeAll now limit rest consumer metrics
    else ({ consumer with pending := delivery :: rest }, metrics)

def run [Store σ α] [Wire α] (now limit : Nat) (consumer : Consumer σ) (metrics : Metrics) :
    Consumer σ × Metrics :=
  takeAll now limit consumer.pending consumer metrics

end Consumer
end Roster.Channel

/-!
Both backends of a process behind the topics of a broker. A topic gains a record
exactly when a send succeeds, and its consumer gets what the topic holds in
order, each once. Consumers run while time passes.
-/

namespace Roster

open Channel (Consumer Delivery Failure Publisher Record)
open Json (Wire)

structure Relay where
  panel : Panel
  organizationPublisher : Publisher
  memberPublisher : Publisher
  organizations : Consumer Organizations
  members : Consumer Members
  now : Nat := 0
deriving Repr

namespace Relay

def organizationTopic : String := "organizations"
def memberTopic : String := "members"

def start (organizations : Consumer Organizations) (members : Consumer Members) : Relay :=
  let (panel, organizationPublisher) := Publisher.install organizationTopic {}
  let (panel, memberPublisher) := Publisher.install memberTopic panel
  { panel, organizationPublisher, memberPublisher, organizations, members }

/-- Lets time pass. What falls due at the very end of it waits for its turn. -/
def pass (relay : Relay) (duration : Nat) : Relay :=
  let limit := relay.now + duration
  let (organizations, metrics) := relay.organizations.run relay.now limit relay.panel.metrics
  let (members, metrics) := relay.members.run relay.now limit metrics
  { relay with panel := { relay.panel with metrics }, organizations, members, now := limit }

def deliver (relay : Relay) (topic : String) (items : List Delivery) : Relay :=
  if topic = organizationTopic then
    { relay with
      organizations := { relay.organizations with pending := relay.organizations.pending ++ items } }
  else if topic = memberTopic then
    { relay with members := { relay.members with pending := relay.members.pending ++ items } }
  else relay

def send (outcome : Except String Unit) : Publisher.Send (Option Record) :=
  fun record _ => (outcome.toOption.map fun _ => record, .now outcome)

/-- Publishes an event; `outcome` is what a send comes to if there is one. The
record is there if it was sent and taken. -/
def publish {α : Type} [Wire α] (relay : Relay) (publisher : Publisher)
    (outcome : Except String Unit) (event : Event α) :
    Relay × Option Record × Except Failure Unit :=
  let (panel, taken, result) := publisher.publish (send outcome) relay.now event relay.panel none
  let relay := { relay with panel }
  (relay.deliver publisher.topic (taken.toList.map fun record => .record (some record.payload)),
    taken, result.value)

end Relay
end Roster
