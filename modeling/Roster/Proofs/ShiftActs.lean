import Roster.Proofs.FloorRuns
import Roster.Proofs.LaneBooks

/-!
A node at work, with all that can come between. What a request emits is brought to its channel, and
only later the request hears what came of it, counts it if it came through, and goes on. In between
other requests emit, the queues are handed over, backends go away and other things are counted.
-/

namespace Roster

open Calendar (Moment)
open Channel (Failure Forwarder Lane Obstacles)

theorem Change.event_kind {α : Type} (change : Change α) (now : Moment) :
    (change.event now).kind = change.kind := by
  cases change <;> rfl

namespace Node

variable (node : Node)

def bringWithin (transport : Transport) (now : Moment) (emission : Emission) (node : Node) :
    Node × Except Failure Unit :=
  match emission, node.organizations, node.members with
  | .organization change, some lane, _ =>
    let (lane, metrics, result) :=
      Bus.bring transport (change.event now) lane node.panel.metrics
    ({ node with organizations := some lane }.record fun _ => metrics, result)
  | .member change, _, some lane =>
    let (lane, metrics, result) :=
      Bus.bring transport (change.event now) lane node.panel.metrics
    ({ node with members := some lane }.record fun _ => metrics, result)
  | .organization _, none, _ => (node, .error (.closed "organizations"))
  | .member _, _, none => (node, .error (.closed "members"))

def countEmitted (emission : Emission) (node : Node) : Node :=
  match emission, node.organizations, node.members with
  | .organization change, some lane, _ =>
    node.record (·.bump (.eventsEmitted lane.name change.kind.name))
  | .member change, _, some lane =>
    node.record (·.bump (.eventsEmitted lane.name change.kind.name))
  | _, _, _ => node

/-- What the sender of an emission does when it hears what came of it. -/
def hear (emission : Emission) (result : Except Failure Unit) (node : Node) : Node :=
  match result with
  | .ok () => node.countEmitted emission
  | .error _ => node

theorem bring_closed (transport : Transport) (now : Moment) (emission : Emission) (name : String)
    (closed : (node.bringWithin transport now emission).2 = .error (.closed name)) :
    (node.bringWithin transport now emission).1 = node := by
  obtain ⟨service, ports, panel, organizations, members, first, second, front⟩ := node
  cases emission with
  | organization change =>
      cases organizations with
      | none => rfl
      | some lane =>
          simp only [bringWithin] at closed ⊢
          simp only [Bus.bring_closed _ _ _ _ name closed, record]
  | member change =>
      cases members with
      | none => cases organizations <;> rfl
      | some lane =>
          cases organizations <;>
          · simp only [bringWithin] at closed ⊢
            simp only [Bus.bring_closed _ _ _ _ name closed, record]

theorem emitWithin_brings (transport : Transport) (now : Moment) (emission : Emission) :
    node.emitWithin transport now emission =
      let (next, result) := node.bringWithin transport now emission
      (next.hear emission result, result) := by
  cases emission with
  | organization change =>
      unfold emitWithin bringWithin
      cases node.organizations with
      | none => rfl
      | some lane =>
          simp only [Bus.publish_bring, change.event_kind]
          obtain ⟨next, counted, failure | done⟩ :=
            Bus.bring transport (change.event now) lane node.panel.metrics <;> rfl
  | member change =>
      unfold emitWithin bringWithin
      cases node.organizations <;> cases node.members with
      | none => rfl
      | some lane =>
          simp only [Bus.publish_bring, change.event_kind]
          obtain ⟨next, counted, failure | done⟩ :=
            Bus.bring transport (change.event now) lane node.panel.metrics <;> rfl

def alive (node : Node) : Option Bool × Option Bool :=
  (node.organizations.map Lane.isAlive, node.members.map Lane.isAlive)

theorem bringWithin_alive (transport : Transport) (now : Moment) (emission : Emission) :
    (node.bringWithin transport now emission).1.alive = node.alive := by
  obtain ⟨service, ports, panel, organizations, members, first, second, front⟩ := node
  cases emission with
  | organization change =>
      cases organizations with
      | none => rfl
      | some lane => simp [bringWithin, alive, record, Bus.bring_isAlive]
  | member change =>
      cases members with
      | none => cases organizations <;> rfl
      | some lane => cases organizations <;> simp [bringWithin, alive, record, Bus.bring_isAlive]

theorem hear_alive (emission : Emission) (result : Except Failure Unit) :
    (node.hear emission result).alive = node.alive := by
  rcases result with failure | ⟨⟩
  · rfl
  · unfold hear countEmitted
    dsimp only
    split <;> rfl

end Node

theorem Floor.transport_step (floor : Floor) (act : Act) :
    (floor.step act).transport = floor.transport := by
  cases act with
  | arrive write => rfl
  | send place time =>
      simp only [step]
      split <;> rfl
  | takeOrganization | settleOrganization =>
      simp only [step]
      cases floor.node.organizations <;> rfl
  | takeMember | settleMember =>
      simp only [step]
      cases floor.node.members <;> rfl

theorem Floor.alive_step (floor : Floor) (act : Act) :
    (floor.step act).node.alive = floor.node.alive := by
  cases act with
  | arrive write => rfl
  | send place time =>
      simp only [step]
      split
      · next emission rest _ =>
        simp only [send, Node.emitWithin_brings, Node.hear_alive, Node.bringWithin_alive]
      · rfl
  | takeOrganization =>
      simp only [step]
      cases has : floor.node.organizations with
      | none => rfl
      | some lane => simp [takeOrganization, Node.alive, has, take_isAlive]
  | settleOrganization =>
      simp only [step]
      cases has : floor.node.organizations with
      | none => rfl
      | some lane =>
          simp [settleOrganization, Node.alive, Node.record, has,
            settles_isAlive (settle_settles lane _ floor.organizations)]
  | takeMember =>
      simp only [step]
      cases has : floor.node.members with
      | none => rfl
      | some lane => simp [takeMember, Node.alive, has, take_isAlive]
  | settleMember =>
      simp only [step]
      cases has : floor.node.members with
      | none => rfl
      | some lane =>
          simp [settleMember, Node.alive, Node.record, has,
            settles_isAlive (settle_settles lane _ floor.members)]

/-- A node at work, and what was brought to its channels by requests that have not heard of it. -/
structure Shift where
  floor : Floor
  unheard : List (Nat × Sending) := []

inductive Shift.Act where
  /-- Something that is done in one step; to emit and to hear of it is one step as well. -/
  | floor (act : Floor.Act)
  | bring (place : Nat) (time : Moment)
  | hear (index : Nat)
  | loseOrganizations
  | loseMembers
  | count (counter : Counter)

namespace Shift

def awaits (place : Nat) (shift : Shift) : Bool := shift.unheard.any (·.1 == place)

/-- A request that waits for an answer does not go on. -/
def allows (shift : Shift) : Floor.Act → Bool
  | .send place _ => !shift.awaits place
  | _ => true

def bring (place : Nat) (time : Moment) (emission : Emission) (rest : List Emission)
    (shift : Shift) : Shift :=
  let floor := shift.floor
  let (node, result) := floor.node.bringWithin floor.transport time emission
  { floor := { floor with
      node
      requests := floor.requests.set place (if result.isOk then rest else [])
      sent := floor.sent ++ [⟨emission, time, result⟩] }
    unheard := shift.unheard ++ [(place, ⟨emission, time, result⟩)] }

def hear (sending : Sending) (rest : List (Nat × Sending)) (shift : Shift) : Shift where
  floor := { shift.floor with node := shift.floor.node.hear sending.emission sending.result }
  unheard := rest

def step (shift : Shift) : Act → Shift
  | .floor act =>
    if shift.allows act then { shift with floor := shift.floor.step act } else shift
  | .bring place time =>
    match shift.awaits place, shift.floor.requests[place]? with
    | false, some (emission :: rest) => shift.bring place time emission rest
    | _, _ => shift
  | .hear index =>
    match shift.unheard[index]? with
    | some (_, sending) => shift.hear sending (shift.unheard.eraseIdx index)
    | none => shift
  | .loseOrganizations =>
    { shift with floor.node.organizations :=
        shift.floor.node.organizations.map ({ · with isAlive := false }) }
  | .loseMembers =>
    { shift with floor.node.members :=
        shift.floor.node.members.map ({ · with isAlive := false }) }
  | .count counter =>
    if counter.family ∈ Counter.eventFamilies then shift
    else { shift with floor.node := shift.floor.node.record (·.bump counter) }

def run (acts : List Act) (shift : Shift) : Shift := acts.foldl step shift

/-- Emitting in one step is bringing and hearing. -/
theorem send_brings (shift : Shift) (place : Nat) (time : Moment) (emission : Emission)
    (rest : List Emission) :
    let brought := shift.bring place time emission rest
    ∃ sending, brought.unheard = shift.unheard ++ [(place, sending)] ∧
      { shift with floor := shift.floor.send place time emission rest } =
        brought.hear sending shift.unheard := by
  refine ⟨⟨emission, time,
    (shift.floor.node.bringWithin shift.floor.transport time emission).2⟩, rfl, ?_⟩
  simp only [Floor.send, Node.emitWithin_brings, bring, hear]

theorem transport_step (shift : Shift) (act : Act) :
    (shift.step act).floor.transport = shift.floor.transport := by
  cases act with
  | floor act =>
      simp only [step]
      split
      · exact shift.floor.transport_step act
      · rfl
  | loseOrganizations => rfl
  | loseMembers => rfl
  | bring | hear | count =>
      simp only [step]
      split <;> rfl

theorem transport_run (acts : List Act) (shift : Shift) :
    (shift.run acts).floor.transport = shift.floor.transport := by
  induction acts generalizing shift with
  | nil => rfl
  | cons act rest ih => exact (ih (shift.step act)).trans (shift.transport_step act)

def Act.isLoss : Act → Bool
  | .loseOrganizations | .loseMembers => true
  | _ => false

theorem alive_step (shift : Shift) (act : Act) (kept : act.isLoss = false) :
    (shift.step act).floor.node.alive = shift.floor.node.alive := by
  cases act with
  | floor act =>
      simp only [step]
      split
      · exact shift.floor.alive_step act
      · rfl
  | bring place time =>
      simp only [step]
      split
      · simp only [bring, Node.bringWithin_alive]
      · rfl
  | hear index =>
      simp only [step]
      split
      · simp only [hear, Node.hear_alive]
      · rfl
  | count counter =>
      simp only [step]
      split <;> rfl
  | loseOrganizations => cases kept
  | loseMembers => cases kept

theorem alive_run (acts : List Act) (shift : Shift) (kept : ∀ act ∈ acts, act.isLoss = false) :
    (shift.run acts).floor.node.alive = shift.floor.node.alive := by
  induction acts generalizing shift with
  | nil => rfl
  | cons act rest ih =>
      have later := ih (shift.step act) fun other mem => kept other (List.mem_cons_of_mem _ mem)
      exact later.trans (shift.alive_step act (kept act List.mem_cons_self))

end Shift
end Roster
