import Roster.Proofs.CompositeWrites
import Roster.Proofs.FloorRuns

/-!
What the stores of a node hold once its queues are empty. It depends on nothing but what was
published into each channel and in which order, however all of it went on at the same time. If
every request was through with sending before the next one came, no members are left without their
organization.
-/

namespace Roster

open Calendar (Moment)
open Channel (Failure Forwarder Lane Obstacles)

theorem Event.created_others {α : Type} (id : Id) (history more : List (Event α))
    (others : ∀ event ∈ more, event.key ≠ id) :
    created id (history ++ more) = created id history := by
  induction more generalizing history with
  | nil => rw [List.append_nil]
  | cons event rest ih =>
      have other := others event List.mem_cons_self
      rw [List.append_cons, ih _ fun later mem => others later (List.mem_cons_of_mem _ mem),
        created_snoc]
      simp [clears, payloadFor?, other]

namespace Floor

/-! ### Requests in turn -/

def Idle (floor : Floor) : Prop := ∀ request ∈ floor.requests, request = []

/-- Requests come only when none is under way. -/
def InTurn : List Act → Floor → Prop
  | [], _ => True
  | .arrive write :: rest, floor => floor.Idle ∧ InTurn rest (floor.step (.arrive write))
  | act :: rest, floor => InTurn rest (floor.step act)

def Act.write? : Act → Option Composite.Write
  | .arrive write => some write
  | _ => none

/-- All requests but the last have sent all, and the sendings are those of the requests so far. -/
def Follows (floor : Floor) (writes : List Composite.Write) : Prop :=
  ∃ count, ∃ current : Option (List Emission),
    floor.requests = List.replicate count [] ++ current.toList ∧
      floor.sent.map Sending.emission ++ current.getD [] =
        writes.flatMap Composite.Write.emissions

theorem follows_arrive (floor : Floor) (writes : List Composite.Write) (write : Composite.Write)
    (idle : floor.Idle) (follows : floor.Follows writes) :
    (floor.step (.arrive write)).Follows (writes ++ [write]) := by
  obtain ⟨count, current, requests, sent⟩ := follows
  have through : current.getD [] = [] := by
    cases current with
    | none => rfl
    | some last => exact idle last (by simp [requests])
  refine ⟨floor.requests.length, some write.emissions, ?_, ?_⟩
  · have empty : floor.requests = List.replicate floor.requests.length [] :=
      List.eq_replicate_iff.mpr ⟨rfl, idle⟩
    exact congrArg (· ++ [write.emissions]) empty
  · rw [through, List.append_nil] at sent
    rw [List.flatMap_append, ← sent]
    exact congrArg (_ ++ ·) (List.append_nil _).symm

theorem follows_send (floor : Floor) (organizations : Organizations) (members : Members)
    (keeps : floor.Keeps organizations members) (writes : List Composite.Write) (place : Nat)
    (time : Moment) (emission : Emission) (rest : List Emission)
    (found : floor.requests[place]? = some (emission :: rest)) (follows : floor.Follows writes) :
    (floor.send place time emission rest).Follows writes := by
  obtain ⟨count, current, requests, sent⟩ := follows
  have succeeded : (floor.node.emitWithin floor.transport time emission).2 = .ok () :=
    ((floor.keeps_send _ _ keeps place time emission rest found).sent _
      (List.mem_append_right _ (List.mem_singleton.mpr rfl))).2
  rw [requests] at found
  -- Requests before the last have nothing to send, so it is the last one that does.
  have later : count ≤ place := by
    rcases Nat.lt_or_ge place count with early | late
    · rw [List.getElem?_append_left (by simpa using early)] at found
      simp [List.getElem?_replicate] at found
    · exact late
  rw [List.getElem?_append_right (by simpa using later), List.length_replicate] at found
  cases current with
  | none => cases found
  | some last =>
      have only : place = count ∧ last = emission :: rest := by
        rcases Nat.eq_or_lt_of_le later with same | beyond
        · subst same
          simpa using found
        · rw [List.getElem?_eq_none (by simp; omega)] at found
          cases found
      obtain ⟨rfl, rfl⟩ := only
      refine ⟨place, some rest, ?_, ?_⟩
      · simp [send, requests, succeeded, Except.isOk, Except.toBool]
      · have sent' : (floor.send place time emission rest).sent.map Sending.emission =
            floor.sent.map Sending.emission ++ [emission] := List.map_append
        rw [sent', List.append_assoc]
        exact sent

/-- Handing over changes nothing of what requests have sent. -/
theorem follows_handover (floor : Floor) (writes : List Composite.Write) (act : Act)
    (handover : act ∈ round) (follows : floor.Follows writes) :
    (floor.step act).Follows writes := by
  have same : (floor.step act).requests = floor.requests ∧ (floor.step act).sent = floor.sent := by
    simp only [round, List.mem_cons, List.not_mem_nil, or_false] at handover
    rcases handover with rfl | rfl | rfl | rfl
    · simp only [step]
      cases floor.node.organizations <;> exact ⟨rfl, rfl⟩
    · simp only [step]
      cases floor.node.organizations <;> exact ⟨rfl, rfl⟩
    · simp only [step]
      cases floor.node.members <;> exact ⟨rfl, rfl⟩
    · simp only [step]
      cases floor.node.members <;> exact ⟨rfl, rfl⟩
  rw [Follows, same.1, same.2]
  exact follows

theorem follows_run (acts : List Act) (floor : Floor) (organizations : Organizations)
    (members : Members) (keeps : floor.Keeps organizations members)
    (writes : List Composite.Write) (follows : floor.Follows writes) (inTurn : floor.InTurn acts) :
    (floor.run acts).Follows (writes ++ acts.filterMap Act.write?) := by
  induction acts generalizing floor writes with
  | nil =>
      rw [List.filterMap_nil, List.append_nil]
      exact follows
  | cons act rest ih =>
      have kept := floor.keeps_step _ _ keeps act
      cases act with
      | arrive write =>
          obtain ⟨idle, later⟩ := inTurn
          have next := ih _ kept _ (floor.follows_arrive writes write idle follows) later
          rwa [List.append_assoc] at next
      | send place time =>
          refine ih _ kept writes ?_ inTurn
          simp only [step]
          split
          · next emission remaining found =>
            exact floor.follows_send _ _ keeps writes place time emission remaining found follows
          · exact follows
      | _ => exact ih _ kept writes (floor.follows_handover writes _ (by simp [round]) follows) inTurn

/-! ### No members left behind -/

/-- Where nothing says that there is an organization, nothing says that it has members. -/
def Whole (sent : List Sending) : Prop :=
  ∀ id, Event.created id (sent.filterMap Sending.organization?) = [] →
    Event.created id (sent.filterMap Sending.member?) = []

theorem whole_removal (before own : List Sending) (key : Id)
    (emissions : own.map Sending.emission = Emission.removal key)
    (succeeded : ∀ sending ∈ own, sending.result = .ok ()) (whole : Whole before) :
    Whole (before ++ own) := by
  obtain ⟨⟨first, time, result⟩, others, rfl, ofFirst, ofOthers⟩ := List.map_eq_cons_iff.mp emissions
  obtain ⟨⟨second, later, answer⟩, rest, rfl, ofSecond, ofRest⟩ := List.map_eq_cons_iff.mp ofOthers
  cases List.map_eq_nil_iff.mp ofRest
  cases ofFirst
  cases ofSecond
  cases succeeded _ List.mem_cons_self
  cases succeeded _ (List.mem_cons_of_mem _ List.mem_cons_self)
  intro id
  rw [List.filterMap_append, List.filterMap_append]
  change Event.created id (_ ++ [Event.deleting key time]) = [] →
    Event.created id (_ ++ [Event.deleting key later]) = []
  rw [Event.created_deleting, Event.created_deleting]
  by_cases same : key = id
  · simp [same]
  · rw [if_neg same, if_neg same]
    exact whole id

theorem whole_creation (before own : List Sending) (aggregate : Aggregate)
    (emissions : own.map Sending.emission = aggregate.emissions)
    (succeeded : ∀ sending ∈ own, sending.result = .ok ()) (whole : Whole before) :
    Whole (before ++ own) := by
  obtain ⟨⟨first, time, result⟩, listed, rfl, ofFirst, ofListed⟩ := List.map_eq_cons_iff.mp emissions
  cases ofFirst
  cases succeeded _ List.mem_cons_self
  have ofMember : ∀ sending ∈ listed, ∃ summary : MemberSummary, sending.emission = .member
      (.create aggregate.organizationId (summary.under aggregate.organizationId)) := by
    intro sending mem
    have among := List.mem_map_of_mem (f := Sending.emission) mem
    rw [ofListed] at among
    obtain ⟨summary, _, same⟩ := List.mem_map.mp among
    exact ⟨summary, same.symm⟩
  have noOrganization : listed.filterMap Sending.organization? = [] := by
    rw [List.filterMap_eq_nil_iff]
    intro sending mem
    obtain ⟨summary, same⟩ := ofMember sending mem
    simp [Sending.organization?, same]
  have ofKey : ∀ event ∈ listed.filterMap Sending.member?, event.key = aggregate.organizationId := by
    intro event mem
    obtain ⟨sending, among, shown⟩ := List.mem_filterMap.mp mem
    obtain ⟨summary, same⟩ := ofMember sending among
    have done := succeeded sending (List.mem_cons_of_mem _ among)
    simp only [Sending.member?, same, done, Option.some.injEq] at shown
    rw [← shown]
    rfl
  intro id
  rw [List.filterMap_append, List.filterMap_append]
  change Event.created id (_ ++ (Event.creating aggregate.organizationId aggregate.organization time
    :: listed.filterMap Sending.organization?)) = [] →
    Event.created id (_ ++ listed.filterMap Sending.member?) = []
  rw [noOrganization, Event.created_creating]
  by_cases same : aggregate.organizationId = id
  · simp [same]
  · rw [if_neg same, Event.created_others id _ _ fun event mem => ofKey event mem ▸ same]
    exact whole id

/-- A whole request leaves no members behind: it puts them under an organization that is there
from then on, or removes them with it. -/
theorem whole_request (before own : List Sending) (write : Composite.Write)
    (emissions : own.map Sending.emission = write.emissions)
    (succeeded : ∀ sending ∈ own, sending.result = .ok ()) (whole : Whole before) :
    Whole (before ++ own) := by
  cases write with
  | delete key => exact whole_removal before own key emissions succeeded whole
  | create aggregate =>
      rcases Decidable.em (aggregate.organizationId < 1) with low | high
      · rw [Composite.Write.emissions_low aggregate low] at emissions
        rw [List.map_eq_nil_iff.mp emissions, List.append_nil]
        exact whole
      · rw [Composite.Write.emissions_valid aggregate (Int32.not_lt.mp high)] at emissions
        exact whole_creation before own aggregate emissions succeeded whole

theorem whole_requests (writes : List Composite.Write) (before sent : List Sending)
    (emissions : sent.map Sending.emission = writes.flatMap Composite.Write.emissions)
    (succeeded : ∀ sending ∈ sent, sending.result = .ok ()) (whole : Whole before) :
    Whole (before ++ sent) := by
  induction writes generalizing before sent with
  | nil =>
      rw [List.map_eq_nil_iff.mp emissions, List.append_nil]
      exact whole
  | cons write rest ih =>
      rw [List.flatMap_cons] at emissions
      obtain ⟨own, others, rfl, ofOwn, ofOthers⟩ := List.map_eq_append_iff.mp emissions
      rw [← List.append_assoc]
      refine ih _ others ofOthers (fun sending mem => succeeded sending ?_) ?_
      · exact List.mem_append_right _ mem
      · exact whole_request before own write ofOwn
          (fun sending mem => succeeded sending (List.mem_append_left _ mem)) whole

/-- When all requests came in turn and were through, what was sent leaves no members behind. -/
theorem whole_run (acts : List Act) (floor : Floor) (organizations : Organizations)
    (members : Members) (keeps : floor.Keeps organizations members) (fresh : floor.sent = [])
    (unasked : floor.requests = []) (inTurn : floor.InTurn acts) (idle : (floor.run acts).Idle) :
    Whole (floor.run acts).sent := by
  have start : floor.Follows [] := ⟨0, none, by simp [unasked], by simp [fresh]⟩
  obtain ⟨count, current, requests, sent⟩ := floor.follows_run acts _ _ keeps [] start inTurn
  have through : current.getD [] = [] := by
    cases current with
    | none => rfl
    | some last => exact idle last (by simp [requests])
  rw [through, List.append_nil] at sent
  have kept := floor.keeps_run _ _ acts keeps
  exact whole_requests _ [] _ sent (fun sending mem => (kept.sent sending mem).2) fun _ _ => rfl

/-! ### The outcome -/

/-- A node that runs all parts and sends its changes by way of queues, whatever requests come to it
and however they get mixed with each other and with what is handed over: every event gets into its
queue, and is there, on its way or handed over, once and in its turn, and the stores are what the
events handed over make of them; no refusal keeps the next event from being handed over; once
nothing is left to hand over, both stores say what was published into their own channel since the
last deletion of a key; and if the requests came in turn and were through, there are no members
without their organization. -/
theorem queues_converge (settings : Settings) (obstacles : Obstacles) (ports : Ports)
    (node : Node) (standalone : settings.role = .standalone) (queued : settings.bus = .inMemory)
    (started : Node.start settings obstacles ports = .ok node) (acts : List Act) :
    let start : Floor := { node, transport := .queued }
    let floor := start.run acts
    (∀ front, node.front = some front → front.outlet = .within .queued) ∧
    (∀ sending ∈ floor.sent, sending.result = .ok ()) ∧
    (∀ count, let later := floor.run (rounds count)
      later.sent = floor.sent ∧ later.organizationLoad = floor.organizationLoad - count ∧
        later.memberLoad = floor.memberLoad - count) ∧
    ∃ organizations members,
      floor.node.organizations = some organizations ∧ floor.node.members = some members ∧
      floor.organizations.Keeps organizations
        { address := settings.address settings.organizationPort } floor.organizationEvents ∧
      floor.members.Keeps members
        { address := settings.address settings.memberPort } floor.memberEvents ∧
      (floor.Drained → ∀ id,
        organizations.store.find? id = (Event.created id floor.organizationEvents).head? ∧
        members.store.under id = Members.firsts (Event.created id floor.memberEvents)) ∧
      (floor.Drained → start.InTurn acts → floor.Idle → ∀ id,
        organizations.store.find? id = none → members.store.under id = []) := by
  intro start floor
  obtain ⟨hasOrganizations, hasMembers, outlet⟩ :=
    node.start_within settings obstacles ports .queued standalone queued started
  let firstOrganizations : Organizations :=
    { address := settings.address settings.organizationPort }
  let firstMembers : Members := { address := settings.address settings.memberPort }
  have first : start.Keeps firstOrganizations firstMembers := {
    queued := rfl
    organizations := ⟨_, hasOrganizations, Forwarder.keeps_start "organizations" _⟩
    members := ⟨_, hasMembers, Forwarder.keeps_start "members" _⟩
    sent := by rintro sending ⟨⟩
    ahead := by rintro request ⟨⟩ }
  have keeps : floor.Keeps firstOrganizations firstMembers := start.keeps_run _ _ acts first
  obtain ⟨organizations, foundOrganizations, keepsOrganizations⟩ := keeps.organizations
  obtain ⟨members, foundMembers, keepsMembers⟩ := keeps.members
  have closed (drained : floor.Drained) (id : Id) :
      organizations.store.find? id = (Event.created id floor.organizationEvents).head? ∧
        members.store.under id = Members.firsts (Event.created id floor.memberEvents) := by
    obtain ⟨⟨lane, found, organizationStore⟩, ⟨lane', found', memberStore⟩⟩ :=
      floor.drained_stores _ _ keeps drained
    cases foundOrganizations.symm.trans found
    cases foundMembers.symm.trans found'
    obtain ⟨properOrganizations, properMembers⟩ := floor.events_proper _ _ keeps
    rw [organizationStore, memberStore]
    exact ⟨Store.afterAll_reflects _ Organizations.Reflects Organizations.reflects_after
        floor.organizationEvents [] firstOrganizations properOrganizations (fun _ => rfl) id,
      Store.afterAll_reflects _ Members.Reflects Members.reflects_after
        floor.memberEvents [] firstMembers properMembers (fun _ => rfl) id⟩
  refine ⟨outlet, fun sending mem => (keeps.sent sending mem).2, ?_, organizations, members,
    foundOrganizations, foundMembers, keepsOrganizations, keepsMembers, closed, ?_⟩
  · intro count
    obtain ⟨organizationLoad, memberLoad, sent⟩ := floor.rounds_load _ _ count keeps
    exact ⟨sent, organizationLoad, memberLoad⟩
  · intro drained inTurn idle id absent
    have whole := start.whole_run acts _ _ first rfl rfl inTurn idle id
    obtain ⟨organization, under⟩ := closed drained id
    rw [under, memberEvents, whole (List.head?_eq_none_iff.mp (organization.symm.trans absent))]
    rfl

/-- Of two requests for one organization the one that is first in the queue gives its name, and
both give their members, though the other organization was refused. -/
theorem members_of_both :
    let settings : Settings := {
      role := .standalone, bus := .inMemory, brokers := "", organizationTopic := ""
      memberTopic := "", consumerGroup := "", host := "", advertisedHost := "localhost"
      compositePort := 7000, organizationPort := 7002, memberPort := 7003, metricsPort := 9090
      httpWorkers := 2, organizationUrl := "", memberUrl := "", organizationTimeout := 2000
      memberTimeout := 2000, readDeadline := 5000, backoff := {}, breaker := {} }
    let node : Node := Node.addFront settings (Node.loopbackUrl 7002) (Node.loopbackUrl 7003)
      ((({ service := "standalone", ports := ⟨7000, 7002, 7003⟩ } : Node).addOrganizations
        settings).addMembers settings) (.within .queued)
    let ada : MemberSummary := ⟨1, "Ada", "A", "s"⟩
    let bob : MemberSummary := ⟨2, "Bob", "B", "s"⟩
    let acts : List Act := [
      .arrive (.create { organizationId := 7, name := "n", country := "c", members := some [ada] }),
      .arrive (.create { organizationId := 7, name := "m", country := "c", members := some [bob] }),
      .send 1 default, .send 0 default, .takeOrganization, .send 1 default, .settleOrganization,
      .send 0 default] ++ rounds 2
    let floor := ({ node, transport := .queued } : Floor).run acts
    floor.Drained ∧ ∃ organizations members,
      floor.node.organizations = some organizations ∧ floor.node.members = some members ∧
      organizations.store.find? 7 = some ⟨7, "m", "c", ""⟩ ∧
      members.store.under 7 = [bob.under 7, ada.under 7] := by
  intro settings node ada bob acts floor
  obtain ⟨_, _, _, organizations, members, hasOrganizations, hasMembers, _, _, closed, _⟩ :=
    queues_converge settings {} ⟨7000, 7002, 7003⟩ node rfl rfl rfl acts
  have drained : floor.Drained := ⟨by decide +kernel, by decide +kernel⟩
  obtain ⟨found, under⟩ := closed drained 7
  -- Comparing states by computing them is far too much; they are the same as they stand.
  refine ⟨drained, organizations, members, ?_, ?_, found.trans ?_, under.trans ?_⟩
  · with_reducible exact hasOrganizations
  · with_reducible exact hasMembers
  · decide +kernel
  · decide +kernel

end Floor
end Roster
