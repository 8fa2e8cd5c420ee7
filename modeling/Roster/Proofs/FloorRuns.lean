import Roster.Deployment
import Roster.Proofs.EventLedger
import Roster.Proofs.StoreDirectory

/-!
A node at work that keeps both backends itself. Requests to write come at any time and send their
changes one by one, others in between; each of the two queues is handed over in two steps, at its
own pace. All that happens is written down, so that it can be said later what became of it.
-/

namespace Roster

open Calendar (Moment)
open Channel (Failure Forwarder Lane)
open Composite (sendAll)

def Composite.Write.emissions : Composite.Write → List Emission
  | .create aggregate => if aggregate.organizationId < 1 then [] else aggregate.emissions
  | .delete id => Emission.removal id

theorem Composite.Write.emissions_low (aggregate : Aggregate) (low : aggregate.organizationId < 1) :
    emissions (.create aggregate) = [] := by
  simp [emissions, low]

theorem Composite.Write.emissions_valid (aggregate : Aggregate)
    (valid : 1 ≤ aggregate.organizationId) :
    emissions (.create aggregate) = aggregate.emissions := by
  simp [emissions, Int32.not_lt.mpr valid]

/-- A request does to what is around it what sending its emissions does, and then is counted. -/
theorem Composite.perform_sends {σ : Type} (composite : Composite σ) (write : Write) (state : σ) :
    ∃ operation result, (composite.perform write state).1 =
      composite.conclude operation (sendAll composite.emit write.emissions state).1
        (result : Except Fault Unit) := by
  cases write with
  | delete id => exact ⟨"delete", _, rfl⟩
  | create aggregate =>
      refine ⟨"create", (composite.write aggregate state).2, ?_⟩
      rcases Decidable.em (aggregate.organizationId < 1) with low | high
      · rw [Write.emissions_low aggregate low]
        simp [perform, create, write, Fault.checkId_low _ low, sendAll]
      · rw [Write.emissions_valid aggregate (Int32.not_lt.mp high)]
        simp [perform, create, write, Fault.checkId_valid _ (Int32.not_lt.mp high)]

structure Sending where
  emission : Emission
  time : Moment
  result : Except Failure Unit
deriving Repr

namespace Sending

def organization? (sending : Sending) : Option (Event Organization) :=
  match sending.emission, sending.result with
  | .organization change, .ok () => some (change.event sending.time)
  | _, _ => none

def member? (sending : Sending) : Option (Event Member) :=
  match sending.emission, sending.result with
  | .member change, .ok () => some (change.event sending.time)
  | _, _ => none

end Sending

structure Floor where
  node : Node
  transport : Transport
  organizations : Forwarder Organization := {}
  members : Forwarder Member := {}
  requests : List (List Emission) := []
  sent : List Sending := []

inductive Floor.Act where
  | arrive (write : Composite.Write)
  | send (place : Nat) (time : Moment)
  | takeOrganization
  | settleOrganization
  | takeMember
  | settleMember

namespace Floor

def send (place : Nat) (time : Moment) (emission : Emission) (rest : List Emission)
    (floor : Floor) : Floor :=
  let (node, result) := floor.node.emitWithin floor.transport time emission
  { floor with
    node
    requests := floor.requests.set place (if result.isOk then rest else [])
    sent := floor.sent ++ [⟨emission, time, result⟩] }

def takeOrganization (lane : Lane Organizations Organization) (floor : Floor) : Floor :=
  let (lane, organizations) := floor.organizations.take lane
  { floor with node := { floor.node with organizations := some lane }, organizations }

def settleOrganization (lane : Lane Organizations Organization) (floor : Floor) : Floor :=
  let (lane, metrics, organizations) := floor.organizations.settle lane floor.node.panel.metrics
  { floor with
    node := { floor.node with organizations := some lane }.record fun _ => metrics
    organizations }

def takeMember (lane : Lane Members Member) (floor : Floor) : Floor :=
  let (lane, members) := floor.members.take lane
  { floor with node := { floor.node with members := some lane }, members }

def settleMember (lane : Lane Members Member) (floor : Floor) : Floor :=
  let (lane, metrics, members) := floor.members.settle lane floor.node.panel.metrics
  { floor with
    node := { floor.node with members := some lane }.record fun _ => metrics
    members }

def step (floor : Floor) : Act → Floor
  | .arrive write => { floor with requests := floor.requests ++ [write.emissions] }
  | .send place time =>
    match floor.requests[place]? with
    | some (emission :: rest) => floor.send place time emission rest
    | _ => floor
  | .takeOrganization => floor.node.organizations.elim floor floor.takeOrganization
  | .settleOrganization => floor.node.organizations.elim floor floor.settleOrganization
  | .takeMember => floor.node.members.elim floor floor.takeMember
  | .settleMember => floor.node.members.elim floor floor.settleMember

def run (acts : List Act) (floor : Floor) : Floor := acts.foldl step floor

def organizationEvents (floor : Floor) : List (Event Organization) :=
  floor.sent.filterMap Sending.organization?

def memberEvents (floor : Floor) : List (Event Member) := floor.sent.filterMap Sending.member?

theorem run_append (acts more : List Act) (floor : Floor) :
    floor.run (acts ++ more) = (floor.run acts).run more := List.foldl_append

section Sending

variable (floor : Floor) (place : Nat) (time : Moment)

theorem step_send (emission : Emission) (rest : List Emission)
    (ahead : floor.requests[place]? = some (emission :: rest)) :
    floor.step (.send place time) = floor.send place time emission rest := by
  simp [step, ahead]

theorem step_send_done (done : floor.requests[place]? = some []) :
    floor.step (.send place time) = floor := by
  simp [step, done]

theorem sends_done (done : floor.requests[place]? = some []) (count : Nat) :
    floor.run (List.replicate count (.send place time)) = floor := by
  induction count with
  | zero => rfl
  | succ count ih =>
      rw [List.replicate_succ, run, List.foldl_cons, step_send_done floor place time done]
      exact ih

theorem requests_send (emission : Emission) (rest : List Emission)
    (there : place < floor.requests.length) :
    (floor.send place time emission rest).requests[place]? =
      some (if (floor.node.emitWithin floor.transport time emission).2.isOk then rest else []) := by
  simp [send, there]

theorem run_alone (emissions : List Emission) (ahead : floor.requests[place]? = some emissions) :
    (floor.run (List.replicate emissions.length (.send place time))).node =
      (sendAll (fun emission node => node.emitWithin floor.transport time emission) emissions
        floor.node).1 := by
  induction emissions generalizing floor with
  | nil => rfl
  | cons emission rest ih =>
      obtain ⟨there, _⟩ := List.getElem?_eq_some_iff.mp ahead
      have left := floor.requests_send place time emission rest there
      rw [List.length_cons, List.replicate_succ, run, List.foldl_cons,
        step_send floor place time emission rest ahead]
      cases result : (floor.node.emitWithin floor.transport time emission).2 with
      | ok done =>
          rw [result] at left
          rw [Composite.sendAll_sent _ _ _ _ _ (Prod.ext rfl result)]
          exact ih (floor.send place time emission rest) left
      | error failure =>
          rw [result] at left
          rw [Composite.sendAll_failed _ _ _ _ _ failure (Prod.ext rfl result)]
          have stopped := (floor.send place time emission rest).sends_done place time left rest.length
          rw [run] at stopped
          rw [stopped]
          rfl

/-- So a request alone does to the node what the composite service does for it, but for the count
of the request itself. -/
theorem performs_alone (composite : Composite Node) (write : Composite.Write)
    (emits : composite.emit = fun emission node => node.emitWithin floor.transport time emission) :
    ∃ operation result, (composite.perform write floor.node).1 =
      composite.conclude operation (floor.run (.arrive write ::
        List.replicate write.emissions.length (.send floor.requests.length time))).node
        (result : Except Fault Unit) := by
  obtain ⟨operation, result, performed⟩ := composite.perform_sends write floor.node
  refine ⟨operation, result, performed.trans ?_⟩
  rw [emits]
  exact congrArg (composite.conclude operation · result)
    ((floor.step (.arrive write)).run_alone floor.requests.length time write.emissions
      (by simp [step])).symm

end Sending

end Floor

/-!
What holds of a node at work whose changes go by way of queues, however its requests and the two
handovers get mixed: each channel keeps its own order, no sending ever fails, and as each queue
becomes empty its backend holds what the events that were published into it say.
-/

open Calendar (Moment)
open Channel (Failure Forwarder Lane Obstacles)

namespace Emission

def Proper : Emission → Prop
  | .organization change => ∀ time, Organizations.Proper (change.event time)
  | .member change => ∀ time, Members.Proper (change.event time)

theorem removal_proper (id : Id) : ∀ emission ∈ removal id, emission.Proper := by
  intro emission mem
  rcases List.mem_cons.mp mem with rfl | last
  · exact fun time => .deleting id time
  · rw [List.mem_singleton.mp last]
    exact fun time => .deleting id time

end Emission

theorem Composite.Write.emissions_proper (write : Write) :
    ∀ emission ∈ write.emissions, emission.Proper := by
  cases write with
  | delete id => exact Emission.removal_proper id
  | create aggregate =>
      intro emission mem
      rcases Decidable.em (aggregate.organizationId < 1) with low | high
      · rw [emissions_low aggregate low] at mem
        cases mem
      · have valid : 1 ≤ aggregate.organizationId := Int32.not_lt.mp high
        rw [emissions_valid aggregate valid] at mem
        rcases List.mem_cons.mp mem with rfl | listed
        · exact fun time => .creating aggregate.organization time valid rfl
        · obtain ⟨summary, _, rfl⟩ := List.mem_map.mp listed
          exact fun time => .creating (summary.under aggregate.organizationId) time valid rfl

/-- What a queue takes is counted. -/
theorem Bus.publish_queued {σ α : Type} [Store σ α] (event : Event α) (lane : Lane σ α)
    (metrics : Metrics) (taken : (lane.enqueue event).2 = .ok ()) :
    publish .queued event lane metrics = ((lane.enqueue event).1,
      metrics.bump (.eventsEmitted lane.name event.kind.name), .ok ()) := by
  have name : (lane.enqueue event).1.name = lane.name := by
    unfold Lane.enqueue
    split <;> rfl
  simp [publish, taken, name]

namespace Floor

/-- What is known at any time of a node that began with empty stores. -/
structure Keeps (floor : Floor) (organizations : Organizations) (members : Members) : Prop where
  queued : floor.transport = .queued
  organizations : ∃ lane, floor.node.organizations = some lane ∧
    floor.organizations.Keeps lane organizations floor.organizationEvents
  members : ∃ lane, floor.node.members = some lane ∧
    floor.members.Keeps lane members floor.memberEvents
  sent : ∀ sending ∈ floor.sent, sending.emission.Proper ∧ sending.result = .ok ()
  ahead : ∀ request ∈ floor.requests, ∀ emission ∈ request, emission.Proper

variable (floor : Floor) (firstOrganizations : Organizations) (firstMembers : Members)

section Acts

variable (keeps : floor.Keeps firstOrganizations firstMembers)

include keeps

theorem keeps_arrive (write : Composite.Write) :
    (floor.step (.arrive write)).Keeps firstOrganizations firstMembers where
  queued := keeps.queued
  organizations := keeps.organizations
  members := keeps.members
  sent := keeps.sent
  ahead := by
    intro request mem
    rcases List.mem_append.mp mem with earlier | last
    · exact keeps.ahead request earlier
    · rw [List.mem_singleton.mp last]
      exact write.emissions_proper

/-- What a request has yet to send gets shorter by what it sends. -/
theorem ahead_send (place : Nat) (emission : Emission) (rest : List Emission)
    (found : floor.requests[place]? = some (emission :: rest)) :
    emission.Proper ∧ ∀ request ∈ floor.requests.set place rest, ∀ later ∈ request,
      later.Proper := by
  have own := keeps.ahead _ (List.mem_of_getElem? found)
  refine ⟨own emission List.mem_cons_self, ?_⟩
  intro request mem later among
  rcases List.mem_or_eq_of_mem_set mem with other | rfl
  · exact keeps.ahead request other later among
  · exact own later (List.mem_cons_of_mem _ among)

/-- A sending goes to the end of the queue of its own channel and leaves the other alone. -/
theorem keeps_send (place : Nat) (time : Moment) (emission : Emission) (rest : List Emission)
    (found : floor.requests[place]? = some (emission :: rest)) :
    (floor.send place time emission rest).Keeps firstOrganizations firstMembers := by
  obtain ⟨proper, ahead⟩ := floor.ahead_send _ _ keeps place emission rest found
  obtain ⟨organizations, hasOrganizations, keepsOrganizations⟩ := keeps.organizations
  obtain ⟨members, hasMembers, keepsMembers⟩ := keeps.members
  have sent (result : Except Failure Unit) (done : result = .ok ()) :
      ∀ sending ∈ floor.sent ++ [⟨emission, time, result⟩],
        sending.emission.Proper ∧ sending.result = .ok () := by
    intro sending mem
    rcases List.mem_append.mp mem with earlier | last
    · exact keeps.sent sending earlier
    · rw [List.mem_singleton.mp last]
      exact ⟨proper, done⟩
  cases emission with
  | organization change =>
      obtain ⟨taken, keepsTaken⟩ := floor.organizations.keeps_enqueue organizations _ _
        keepsOrganizations (change.event time)
      simp only [send, Node.emitWithin, hasOrganizations, keeps.queued,
        Bus.publish_queued _ _ _ taken]
      refine ⟨rfl, ⟨_, rfl, ?_⟩, ⟨members, hasMembers, ?_⟩, sent _ rfl, ahead⟩
      · rw [organizationEvents, List.filterMap_append]
        exact keepsTaken
      · rw [memberEvents, List.filterMap_append]
        change floor.members.Keeps members firstMembers (floor.memberEvents ++ [])
        rwa [List.append_nil]
  | member change =>
      obtain ⟨taken, keepsTaken⟩ := floor.members.keeps_enqueue members _ _ keepsMembers
        (change.event time)
      simp only [send, Node.emitWithin, hasMembers, keeps.queued, Bus.publish_queued _ _ _ taken]
      refine ⟨rfl, ⟨organizations, hasOrganizations, ?_⟩, ⟨_, rfl, ?_⟩, sent _ rfl, ahead⟩
      · rw [organizationEvents, List.filterMap_append]
        change floor.organizations.Keeps organizations firstOrganizations
          (floor.organizationEvents ++ [])
        rwa [List.append_nil]
      · rw [memberEvents, List.filterMap_append]
        exact keepsTaken

theorem keeps_step (act : Act) :
    (floor.step act).Keeps firstOrganizations firstMembers := by
  obtain ⟨organizations, hasOrganizations, keepsOrganizations⟩ := keeps.organizations
  obtain ⟨members, hasMembers, keepsMembers⟩ := keeps.members
  cases act with
  | arrive write => exact floor.keeps_arrive _ _ keeps write
  | send place time =>
      simp only [step]
      split
      · next emission rest found =>
        exact floor.keeps_send _ _ keeps place time emission rest found
      · exact keeps
  | takeOrganization =>
      simp only [step, hasOrganizations, Option.elim_some]
      exact { keeps with
        organizations := ⟨_, rfl, floor.organizations.keeps_take _ _ _ keepsOrganizations⟩ }
  | settleOrganization =>
      simp only [step, hasOrganizations, Option.elim_some]
      exact { keeps with
        organizations := ⟨_, rfl, floor.organizations.keeps_settle _ _ _ _ keepsOrganizations⟩ }
  | takeMember =>
      simp only [step, hasMembers, Option.elim_some]
      exact { keeps with members := ⟨_, rfl, floor.members.keeps_take _ _ _ keepsMembers⟩ }
  | settleMember =>
      simp only [step, hasMembers, Option.elim_some]
      exact { keeps with members := ⟨_, rfl, floor.members.keeps_settle _ _ _ _ keepsMembers⟩ }

end Acts

theorem keeps_run (acts : List Act) (keeps : floor.Keeps firstOrganizations firstMembers) :
    (floor.run acts).Keeps firstOrganizations firstMembers := by
  induction acts generalizing floor with
  | nil => exact keeps
  | cons act rest ih => exact ih _ (floor.keeps_step _ _ keeps act)

/-! ### Handing over to the end -/

def organizationLoad : Nat :=
  floor.node.organizations.elim 0 fun lane => floor.organizations.load lane

def memberLoad : Nat := floor.node.members.elim 0 fun lane => floor.members.load lane

def Drained : Prop := floor.organizationLoad = 0 ∧ floor.memberLoad = 0

def round : List Act := [.takeOrganization, .settleOrganization, .takeMember, .settleMember]

def rounds (count : Nat) : List Act := (List.replicate count round).flatten

theorem round_load (keeps : floor.Keeps firstOrganizations firstMembers) :
    (floor.run round).organizationLoad = floor.organizationLoad - 1 ∧
      (floor.run round).memberLoad = floor.memberLoad - 1 ∧
      (floor.run round).sent = floor.sent := by
  obtain ⟨organizations, hasOrganizations, keepsOrganizations⟩ := keeps.organizations
  obtain ⟨members, hasMembers, keepsMembers⟩ := keeps.members
  simp only [run, round, List.foldl_cons, List.foldl_nil, step, hasOrganizations, hasMembers,
    Option.elim_some, takeOrganization, settleOrganization, takeMember, settleMember, Node.record,
    organizationLoad, memberLoad]
  exact ⟨floor.organizations.load_round _ _ _ _ keepsOrganizations,
    floor.members.load_round _ _ _ _ keepsMembers, trivial⟩

theorem rounds_load (count : Nat) (keeps : floor.Keeps firstOrganizations firstMembers) :
    (floor.run (rounds count)).organizationLoad = floor.organizationLoad - count ∧
      (floor.run (rounds count)).memberLoad = floor.memberLoad - count ∧
      (floor.run (rounds count)).sent = floor.sent := by
  induction count generalizing floor with
  | zero => exact ⟨rfl, rfl, rfl⟩
  | succ count ih =>
      obtain ⟨organizations, members, sent⟩ := floor.round_load _ _ keeps
      obtain ⟨organizations', members', sent'⟩ := ih _ (floor.keeps_run _ _ round keeps)
      rw [rounds, List.replicate_succ, List.flatten_cons, run_append]
      refine ⟨organizations'.trans ?_, members'.trans ?_, sent'.trans sent⟩
      · rw [organizations]
        omega
      · rw [members]
        omega

/-- As the queues become empty, the stores hold what was published, each channel by itself. -/
theorem drained_stores (keeps : floor.Keeps firstOrganizations firstMembers)
    (drained : floor.Drained) :
    (∃ lane, floor.node.organizations = some lane ∧
      lane.store = Store.afterAll floor.organizationEvents firstOrganizations) ∧
    ∃ lane, floor.node.members = some lane ∧
      lane.store = Store.afterAll floor.memberEvents firstMembers := by
  obtain ⟨organizations, hasOrganizations, keepsOrganizations⟩ := keeps.organizations
  obtain ⟨members, hasMembers, keepsMembers⟩ := keeps.members
  obtain ⟨first, second⟩ := drained
  simp only [organizationLoad, hasOrganizations, Option.elim_some] at first
  simp only [memberLoad, hasMembers, Option.elim_some] at second
  exact ⟨⟨_, hasOrganizations, Forwarder.keeps_drained _ _ _ _ keepsOrganizations first⟩,
    ⟨_, hasMembers, Forwarder.keeps_drained _ _ _ _ keepsMembers second⟩⟩

/-- What comes into a channel is what a backend can take as it is. -/
theorem events_proper (keeps : floor.Keeps firstOrganizations firstMembers) :
    (∀ event ∈ floor.organizationEvents, Organizations.Proper event) ∧
      ∀ event ∈ floor.memberEvents, Members.Proper event := by
  constructor
  · intro event mem
    obtain ⟨⟨emission, time, result⟩, among, shown⟩ := List.mem_filterMap.mp mem
    obtain ⟨proper, rfl⟩ := keeps.sent _ among
    cases emission with
    | organization change =>
        cases shown
        exact proper time
    | member change => cases shown
  · intro event mem
    obtain ⟨⟨emission, time, result⟩, among, shown⟩ := List.mem_filterMap.mp mem
    obtain ⟨proper, rfl⟩ := keeps.sent _ among
    cases emission with
    | organization change => cases shown
    | member change =>
        cases shown
        exact proper time

end Floor
end Roster
