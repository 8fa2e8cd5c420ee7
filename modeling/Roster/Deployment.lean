import Roster.Http.Client
import Roster.Http.Routes
import Roster.Reading
import Roster.Relay
import Roster.Settings

/-!
The parts that one node runs, as its settings ask for them: backends with or
without a topic to consume, and the front of a composite service, which knows
where to read and where to send events.
-/

namespace Roster

open Channel (Failure Lane Obstacles Publisher)

inductive Outlet where
  | within (transport : Transport)
  | topics (organizations members : Publisher)
deriving Repr

structure Front where
  address : String
  guard : ReadGuard
  organizationUrl : String
  memberUrl : String
  organizationTimeout : Nat
  memberTimeout : Nat
  outlet : Outlet
deriving Repr

structure Ports where
  composite : Nat
  organization : Nat
  member : Nat
deriving DecidableEq, Repr

structure Node where
  service : String
  ports : Ports
  panel : Panel := {}
  organizations : Option (Lane Organizations Organization) := none
  members : Option (Lane Members Member) := none
  organizationTopic : Option String := none
  memberTopic : Option String := none
  front : Option Front := none
deriving Repr

namespace Node

def addOrganizations (settings : Settings) (node : Node) : Node :=
  { node with
    organizations := some {
      name := "organizations"
      store := { address := settings.address settings.organizationPort } } }

def addMembers (settings : Settings) (node : Node) : Node :=
  { node with
    members := some {
      name := "members"
      store := { address := settings.address settings.memberPort } } }

def consumeOrganizations (settings : Settings) (obstacles : Obstacles) (node : Node) :
    Except Failure Node := do
  obstacles.checkConsumer settings.organizationTopic
  return { node with organizationTopic := some settings.organizationTopic }

def consumeMembers (settings : Settings) (obstacles : Obstacles) (node : Node) :
    Except Failure Node := do
  obstacles.checkConsumer settings.memberTopic
  return { node with memberTopic := some settings.memberTopic }

def addPublishers (settings : Settings) (obstacles : Obstacles) (node : Node) :
    Except Failure (Node × Outlet) := do
  obstacles.checkPublisher settings.organizationTopic
  let (panel, organizations) := Publisher.install settings.organizationTopic node.panel
  obstacles.checkPublisher settings.memberTopic
  let (panel, members) := Publisher.install settings.memberTopic panel
  return ({ node with panel }, .topics organizations members)

def addFront (settings : Settings) (organizationUrl memberUrl : String) (node : Node)
    (outlet : Outlet) : Node :=
  let address := settings.address settings.compositePort
  let (panel, place) := node.panel.obtain Reading.operation settings.breaker
  let guard : ReadGuard :=
    { address, place, backoff := settings.backoff, deadline := settings.readDeadline }
  { node with
    panel
    front := some {
      address
      guard
      organizationUrl
      memberUrl
      organizationTimeout := settings.organizationTimeout
      memberTimeout := settings.memberTimeout
      outlet } }

def loopbackUrl (port : Nat) : String := s!"http://127.0.0.1:{port}"

/-- Starts a node. A composite service that runs beside its backends reads
from the ports they listen on. -/
def start (settings : Settings) (obstacles : Obstacles) (ports : Ports) :
    Except Failure Node := do
  let node : Node := { service := settings.role.name, ports }
  match settings.role with
  | .standalone =>
    let node := (node.addOrganizations settings).addMembers settings
    let addFront := addFront settings (loopbackUrl ports.organization) (loopbackUrl ports.member)
    match settings.bus with
    | .inMemory => return addFront node (.within .queued)
    | .direct => return addFront node (.within .direct)
    | .kafka =>
      let node ← node.consumeOrganizations settings obstacles
      let node ← node.consumeMembers settings obstacles
      let (node, outlet) ← node.addPublishers settings obstacles
      return addFront node outlet
  | .composite =>
    let (node, outlet) ← node.addPublishers settings obstacles
    return node.addFront settings settings.organizationUrl settings.memberUrl outlet
  | .organization => (node.addOrganizations settings).consumeOrganizations settings obstacles
  | .member => (node.addMembers settings).consumeMembers settings obstacles

def serverCount (node : Node) : Nat :=
  [node.front.isSome, node.organizations.isSome, node.members.isSome, true].count true

def record (change : Metrics → Metrics) (node : Node) : Node :=
  { node with panel := { node.panel with metrics := change node.panel.metrics } }

def emitWithin (transport : Transport) (now : Calendar.Moment) (emission : Emission)
    (node : Node) : Node × Except Failure Unit :=
  match emission, node.organizations, node.members with
  | .organization change, some lane, _ =>
    let (lane, metrics, result) :=
      Bus.publish transport (change.event now) lane node.panel.metrics
    ({ node with organizations := some lane }.record fun _ => metrics, result)
  | .member change, _, some lane =>
    let (lane, metrics, result) :=
      Bus.publish transport (change.event now) lane node.panel.metrics
    ({ node with members := some lane }.record fun _ => metrics, result)
  | .organization _, none, _ => (node, .error (.closed "organizations"))
  | .member _, _, none => (node, .error (.closed "members"))

def drain (node : Node) : Node :=
  let node := match node.organizations with
    | none => node
    | some lane =>
      let (lane, metrics) := lane.drain node.panel.metrics
      { node with organizations := some lane }.record fun _ => metrics
  match node.members with
  | none => node
  | some lane =>
    let (lane, metrics) := lane.drain node.panel.metrics
    { node with members := some lane }.record fun _ => metrics

def consume (record : Channel.Record) (node : Node) : Node :=
  let node := match node.organizations with
    | none => node
    | some lane =>
      if node.organizationTopic = some record.topic then
        let (store, metrics, _) := Store.receive record.payload lane.store node.panel.metrics
        { node with organizations := some { lane with store } }.record fun _ => metrics
      else node
  match node.members with
  | none => node
  | some lane =>
    if node.memberTopic = some record.topic then
      let (store, metrics, _) := Store.receive record.payload lane.store node.panel.metrics
      { node with members := some { lane with store } }.record fun _ => metrics
    else node

end Node

/-!
Nodes that reach each other over HTTP and share one broker. Requests come
one after the other, and everything that a request set going is carried out
before the next one comes.
-/

open Channel (Failure Obstacles Publisher Record)
open Http (Request Response)
open Http.Client (Answer)

/-- A broker: what the coming sends fail with, and the records that it took and
that were not yet consumed. -/
structure Broker where
  failures : List (Option String) := []
  records : List Record := []
deriving Repr

def Broker.send : Publisher.Send Broker := fun record broker =>
  let failures := broker.failures.drop 1
  match broker.failures.head?.join with
  | some reason => ({ broker with failures }, .now (.error reason))
  | none => ({ failures, records := broker.records ++ [record] }, .now (.ok ()))

structure Deployment where
  nodes : List Node := []
  broker : Broker := {}
  draw : Nat
  now : Nat := 0
  nextPort : Nat := 49152
deriving Repr

namespace Deployment

def update (deployment : Deployment) (place : Nat) (change : Node → Node) : Deployment :=
  { deployment with nodes := deployment.nodes.modify place change }

def start (deployment : Deployment) (settings : Settings) (obstacles : Obstacles) :
    Except Failure Deployment := do
  let free := deployment.nextPort
  let choose (asked offered : Nat) : Nat := if asked = 0 then offered else asked
  let ports : Ports := {
    composite := choose settings.compositePort free
    organization := choose settings.organizationPort (free + 1)
    member := choose settings.memberPort (free + 2) }
  let node ← Node.start settings obstacles ports
  return { deployment with nodes := deployment.nodes ++ [node], nextPort := free + 3 }

/-! ### Reads from one node to another -/

def location? (url : String) : Option (Nat × String) :=
  let (scheme, rest) := (url.toList.take 7, url.toList.drop 7)
  let authority := rest.takeWhile (· != '/')
  let host := authority.takeWhile (· != ':')
  if scheme = "http://".toList ∧ (host = "127.0.0.1".toList ∨ host = "localhost".toList) then
    (Http.unsigned? 16 (authority.drop (host.length + 1))).map fun port =>
      (port, String.ofList (rest.drop authority.length))
  else none

/-- What the services of a node answer to a read, by port. A front answers no
reads of backends. -/
def listeners (draw : Nat) (node : Node) : List (Nat × (Request → Timed Response)) :=
  (node.organizations.toList.map fun lane =>
    (node.ports.organization, fun request => (lane.store.respond draw request).2)) ++
  (node.members.toList.map fun lane =>
    (node.ports.member, fun request => (lane.store.respond draw request).2)) ++
  node.front.toList.map fun _ => (node.ports.composite, fun _ => .now .unknown)

def exchange {α : Type} [Json.Wire α] (deployment : Deployment) (url : String) (limit : Nat)
    (request : Request) : Timed (Except Fault α) :=
  Http.Client.outcome limit do
    let (port, path) ← location? (Http.Client.baseUrl url)
    let listener ← (deployment.nodes.flatMap (listeners deployment.draw)).lookup port
    let response := listener { request with target := path ++ request.target }
    return response.map fun response =>
      Answer.ofResponse response (default : Calendar.Moment).text

def readOrganization (place : Nat) (front : Front) (id : Id) (options : ReadOptions)
    (deployment : Deployment) : Deployment × Timed (Except Fault Organization) :=
  let ask : Reading.Ask Unit := fun _ id options _ =>
    ((), deployment.exchange front.organizationUrl
      (options.timeout.getD front.organizationTimeout)
      (Http.Client.organizationRequest id options))
  let panel := (deployment.nodes[place]?.map Node.panel).getD {}
  let scene := Scene.run ask {
    turn := { now := deployment.now, panel, source := (), waits := Turn.capacity }
    readings := [.start id options front.guard deployment.now none] }
  let answer := match scene.readings.map Reading.stage with
    | [.finished time answer] => ⟨time - deployment.now, answer⟩
    | _ => .now (.error (Reading.timedOut id))
  (deployment.update place fun node => { node with panel := scene.turn.panel }, answer)

def readMembers (front : Front) (id : Id) (deployment : Deployment) :
    Deployment × Timed (List Member) :=
  (deployment, Http.Client.membersOf (deployment.exchange front.memberUrl front.memberTimeout
    (Http.Client.memberRequest id)))

/-! ### Writes -/

def publish {α : Type} [Json.Wire α] (place : Nat) (publisher : Publisher)
    (change : Change α) (deployment : Deployment) : Deployment × Except Failure Unit :=
  match deployment.nodes[place]? with
  | none => (deployment, .error (.closed publisher.topic))
  | some node =>
    let (panel, broker, result) := publisher.publish Broker.send deployment.now
      (change.event default) node.panel deployment.broker
    let panel := match result.value with
      | .ok () => panel.count (.eventsEmitted publisher.topic change.kind.name)
      | .error _ => panel
    ({ deployment with broker }.update place fun node => { node with panel }, result.value)

def emit (place : Nat) (front : Front) (emission : Emission) (deployment : Deployment) :
    Deployment × Except Failure Unit :=
  match front.outlet, emission with
  | .within transport, _ =>
    match deployment.nodes[place]? with
    | none => (deployment, .error (.closed ""))
    | some node =>
      let (node, result) := node.emitWithin transport default emission
      (deployment.update place fun _ => node, result)
  | .topics publisher _, .organization change => deployment.publish place publisher change
  | .topics _ publisher, .member change => deployment.publish place publisher change

def composite (place : Nat) (front : Front) : Composite Deployment where
  address := front.address
  organization := readOrganization place front
  members := readMembers front
  emit := emit place front
  record change deployment := deployment.update place fun node => node.record change

/-! ### Requests -/

def settle (deployment : Deployment) : Deployment :=
  let consumed (node : Node) : Node :=
    deployment.broker.records.foldl (fun node record => node.consume record) node.drain
  { deployment with
    nodes := deployment.nodes.map consumed
    broker := { deployment.broker with records := [] } }

inductive Service where
  | composite
  | organization
  | member
deriving DecidableEq, Repr

def Service.runsIn (service : Service) (node : Node) : Bool :=
  match service with
  | .composite => node.front.isSome
  | .organization => node.organizations.isSome
  | .member => node.members.isSome

def find? (deployment : Deployment) (service : Service) : Option Nat :=
  ((List.range deployment.nodes.length).filter fun place =>
    (deployment.nodes[place]?).any service.runsIn).getLast?

def respondAt (deployment : Deployment) (service : Service) (place : Nat) (node : Node)
    (request : Request) : Deployment × Timed Response :=
  match service, node.front, node.organizations, node.members with
  | .composite, some front, _, _ => (composite place front).respond request deployment
  | .organization, _, some lane, _ =>
    let (store, response) := lane.store.respond deployment.draw request
    (deployment.update place fun node =>
      { node with organizations := some { lane with store } }, response)
  | .member, _, _, some lane =>
    let (store, response) := lane.store.respond deployment.draw request
    (deployment.update place fun node =>
      { node with members := some { lane with store } }, response)
  | _, _, _, _ => (deployment, .now .unknown)

/-- A request to a service, if it runs anywhere, and all that follows from it. -/
def respond (deployment : Deployment) (service : Service) (request : Request) :
    Deployment × Option Response :=
  let running := do
    let place ← deployment.find? service
    let node ← deployment.nodes[place]?
    return (place, node)
  match running with
  | none => (deployment, none)
  | some (place, node) =>
    let (deployment, response) := deployment.respondAt service place node request
    ({ deployment with now := deployment.now + response.after }.settle, some response.value)

def monitor (deployment : Deployment) (place : Nat) (request : Request) : Option Response :=
  deployment.nodes[place]?.map fun node => node.panel.respond node.service request

end Deployment
end Roster
