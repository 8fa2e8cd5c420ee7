import Mathlib.Data.List.Perm.Basic
import Roster.Proofs.CompositeWrites
import Roster.Proofs.ShiftActs

/-!
The books of both channels of a node at work, from its start on. Whatever it does, and whatever is
done to its backends, each event that came through is counted as emitted or its sender has yet to
hear of it; and it is counted by its backend, or it is on its way, or it was left behind when its
backend went away.
-/

namespace Roster

open Calendar (Moment)
open Channel (Failure Forwarder Lane Obstacles)

namespace Shift

def unheardOrganizations (shift : Shift) : List (Event Organization) :=
  (shift.unheard.map Prod.snd).filterMap Sending.organization?

def unheardMembers (shift : Shift) : List (Event Member) :=
  (shift.unheard.map Prod.snd).filterMap Sending.member?

end Shift

namespace Sending

def refusesOrganization (sending : Sending) : Bool :=
  match sending.emission with
  | .organization _ => isRefusal sending.result
  | .member _ => false

def refusesMember (sending : Sending) : Bool :=
  match sending.emission with
  | .organization _ => false
  | .member _ => isRefusal sending.result

variable (time : Moment) (result : Except Failure Unit)

/-- What is sent for organizations is for them only. -/
theorem sent_organization (change : Change Organization) :
    [Sending.mk (.organization change) time result].filterMap organization? =
        through (change.event time) result ∧
      [Sending.mk (.organization change) time result].filterMap member? = [] := by
  rcases result with failure | ⟨⟩ <;> exact ⟨rfl, rfl⟩

theorem sent_member (change : Change Member) :
    [Sending.mk (.member change) time result].filterMap member? =
        through (change.event time) result ∧
      [Sending.mk (.member change) time result].filterMap organization? = [] := by
  rcases result with failure | ⟨⟩ <;> exact ⟨rfl, rfl⟩

end Sending

namespace Shift

/-- What is known at any time. -/
structure Kept (shift : Shift) : Prop where
  organizations : ∃ lane, shift.floor.node.organizations = some lane ∧
    Books shift.floor.transport .organizations lane shift.floor.organizations
      shift.floor.node.panel.metrics shift.floor.organizationEvents shift.unheardOrganizations
      (shift.floor.sent.countP Sending.refusesOrganization)
  members : ∃ lane, shift.floor.node.members = some lane ∧
    Books shift.floor.transport .members lane shift.floor.members
      shift.floor.node.panel.metrics shift.floor.memberEvents shift.unheardMembers
      (shift.floor.sent.countP Sending.refusesMember)

section Acts

variable {shift : Shift} (kept : shift.Kept)

include kept

theorem kept_bring (place : Nat) (time : Moment) (emission : Emission) (rest : List Emission) :
    (shift.bring place time emission rest).Kept := by
  obtain ⟨organizations, hasOrganizations, books⟩ := kept.organizations
  obtain ⟨members, hasMembers, others⟩ := kept.members
  -- The channel that the emission is for has it in its books; the other counts as before.
  cases emission with
  | organization change =>
      have brings := Bus.bring_brings shift.floor.transport (change.event time) organizations
        shift.floor.node.panel.metrics
      have brought := books_brought (.inl rfl) rfl brings books
      have touched := brings_touched .organizations rfl brings
      have alike := books_alike touched.members_alike others
      simp only [bring, Node.bringWithin, hasOrganizations]
      obtain ⟨own, foreign⟩ := Sending.sent_organization time
        (Bus.bring shift.floor.transport (change.event time) organizations
          shift.floor.node.panel.metrics).2.2 change
      refine ⟨⟨_, rfl, ?_⟩, ⟨members, hasMembers, ?_⟩⟩
      · simp only [Floor.organizationEvents, unheardOrganizations, List.map_append, List.map_cons,
          List.map_nil, List.filterMap_append, List.countP_append, List.countP_singleton, own]
        exact books_unheard List.perm_append_comm brought
      · simp only [Floor.memberEvents, unheardMembers, List.map_append, List.map_cons,
          List.map_nil, List.filterMap_append, List.countP_append, List.countP_singleton, foreign,
          List.append_nil]
        exact alike
  | member change =>
      have brings := Bus.bring_brings shift.floor.transport (change.event time) members
        shift.floor.node.panel.metrics
      have brought := books_brought (.inr rfl) rfl brings others
      have touched := brings_touched .members rfl brings
      have alike := books_alike touched.organizations_alike books
      simp only [bring, Node.bringWithin, hasOrganizations, hasMembers]
      obtain ⟨own, foreign⟩ := Sending.sent_member time
        (Bus.bring shift.floor.transport (change.event time) members
          shift.floor.node.panel.metrics).2.2 change
      refine ⟨⟨organizations, rfl, ?_⟩, ⟨_, rfl, ?_⟩⟩
      · simp only [Floor.organizationEvents, unheardOrganizations, List.map_append, List.map_cons,
          List.map_nil, List.filterMap_append, List.countP_append, List.countP_singleton, foreign,
          List.append_nil]
        exact alike
      · simp only [Floor.memberEvents, unheardMembers, List.map_append, List.map_cons,
          List.map_nil, List.filterMap_append, List.countP_append, List.countP_singleton, own]
        exact books_unheard List.perm_append_comm brought

/-- A request that hears of its emission counts it if it came through. -/
theorem kept_hear (place : Nat) (sending : Sending) (rest : List (Nat × Sending))
    (among : shift.unheard.Perm ((place, sending) :: rest)) : (shift.hear sending rest).Kept := by
  obtain ⟨organizations, hasOrganizations, books⟩ := kept.organizations
  obtain ⟨members, hasMembers, others⟩ := kept.members
  have books := books_unheard ((among.map Prod.snd).filterMap Sending.organization?) books
  have others := books_unheard ((among.map Prod.snd).filterMap Sending.member?) others
  obtain ⟨emission, time, result⟩ := sending
  rcases result with failure | ⟨⟩
  · -- What did not come through is not counted and was not waited for.
    cases emission <;>
      exact ⟨⟨organizations, hasOrganizations, books⟩, ⟨members, hasMembers, others⟩⟩
  · cases emission with
    | organization change =>
        have heard := books_heard (.inl rfl) (change.event time) books
        have touched : Metrics.Touched .organizations shift.floor.node.panel.metrics _ :=
          .inr ⟨_, Route.organizations.emitted_mem change.kind, rfl⟩
        have alike := books_alike touched.members_alike others
        rw [change.event_kind, ← books.name] at heard
        rw [← books.name] at alike
        simp only [hear, Node.hear, Node.countEmitted, hasOrganizations]
        exact ⟨⟨organizations, hasOrganizations, heard⟩, ⟨members, hasMembers, alike⟩⟩
    | member change =>
        have heard := books_heard (.inr rfl) (change.event time) others
        have touched : Metrics.Touched .members shift.floor.node.panel.metrics _ :=
          .inr ⟨_, Route.members.emitted_mem change.kind, rfl⟩
        have alike := books_alike touched.organizations_alike books
        rw [change.event_kind, ← others.name] at heard
        rw [← others.name] at alike
        simp only [hear, Node.hear, Node.countEmitted, hasOrganizations, hasMembers]
        exact ⟨⟨organizations, hasOrganizations, alike⟩, ⟨members, hasMembers, heard⟩⟩

theorem kept_send (place : Nat) (time : Moment) (emission : Emission) (rest : List Emission) :
    Kept { shift with floor := shift.floor.send place time emission rest } := by
  obtain ⟨sending, waits, same⟩ := shift.send_brings place time emission rest
  rw [same]
  refine kept_hear (kept_bring kept place time emission rest) place sending shift.unheard ?_
  rw [waits]
  exact List.perm_append_singleton _ _

theorem kept_floor (act : Floor.Act) : Kept { shift with floor := shift.floor.step act } := by
  obtain ⟨organizations, hasOrganizations, books⟩ := kept.organizations
  obtain ⟨members, hasMembers, others⟩ := kept.members
  cases act with
  | arrive write => exact ⟨kept.organizations, kept.members⟩
  | send place time =>
      simp only [Floor.step]
      split
      · next emission rest _ => exact kept_send kept place time emission rest
      · exact kept
  | takeOrganization =>
      simp only [Floor.step, hasOrganizations, Option.elim_some, Floor.takeOrganization]
      exact ⟨⟨_, rfl, books_took books⟩, ⟨members, hasMembers, others⟩⟩
  | takeMember =>
      simp only [Floor.step, hasMembers, Option.elim_some, Floor.takeMember]
      exact ⟨⟨organizations, hasOrganizations, books⟩, ⟨_, rfl, books_took others⟩⟩
  | settleOrganization =>
      simp only [Floor.step, hasOrganizations, Option.elim_some, Floor.settleOrganization]
      have settles := settle_settles organizations shift.floor.node.panel.metrics
        shift.floor.organizations
      have alike := (settles_touched .organizations rfl settles).members_alike
      exact ⟨⟨_, rfl, books_settled (.inl rfl) rfl settles books⟩,
        ⟨members, hasMembers, books_alike alike others⟩⟩
  | settleMember =>
      simp only [Floor.step, hasMembers, Option.elim_some, Floor.settleMember]
      have settles := settle_settles members shift.floor.node.panel.metrics shift.floor.members
      have alike := (settles_touched .members rfl settles).organizations_alike
      exact ⟨⟨organizations, hasOrganizations, books_alike alike books⟩,
        ⟨_, rfl, books_settled (.inr rfl) rfl settles others⟩⟩

theorem kept_step (act : Act) : (shift.step act).Kept := by
  obtain ⟨organizations, hasOrganizations, books⟩ := kept.organizations
  obtain ⟨members, hasMembers, others⟩ := kept.members
  cases act with
  | floor act =>
      simp only [step]
      split
      · exact kept_floor kept act
      · exact kept
  | bring place time =>
      simp only [step]
      split
      · next emission rest _ _ => exact kept_bring kept place time emission rest
      · exact kept
  | hear index =>
      simp only [step]
      split
      · next place sending found =>
        refine kept_hear kept place sending _ ?_
        obtain ⟨there, is⟩ := List.getElem?_eq_some_iff.mp found
        rw [← is]
        exact (List.getElem_cons_eraseIdx_perm there).symm
      · exact kept
  | loseOrganizations =>
      simp only [step, hasOrganizations, Option.map_some]
      exact ⟨⟨_, rfl, books_left books⟩, ⟨members, hasMembers, others⟩⟩
  | loseMembers =>
      simp only [step, hasMembers, Option.map_some]
      exact ⟨⟨organizations, hasOrganizations, books⟩, ⟨_, rfl, books_left others⟩⟩
  | count counter =>
      simp only [step]
      split
      · exact kept
      · next apart =>
        exact ⟨⟨organizations, hasOrganizations, books_alike (Metrics.alike_other _ _ apart) books⟩,
          ⟨members, hasMembers, books_alike (Metrics.alike_other _ _ apart) others⟩⟩

end Acts

theorem kept_run (acts : List Act) (shift : Shift) (kept : shift.Kept) : (shift.run acts).Kept := by
  induction acts generalizing shift with
  | nil => exact kept
  | cons act rest ih => exact ih _ (kept_step kept act)

theorem kept_start (settings : Settings) (obstacles : Obstacles) (ports : Ports) (node : Node)
    (transport : Transport) (standalone : settings.role = .standalone)
    (bus : settings.bus = match transport with | .direct => .direct | .queued => .inMemory)
    (started : Node.start settings obstacles ports = .ok node) :
    Kept { floor := { node, transport } } := by
  obtain ⟨organizations, members, _⟩ :=
    node.start_within settings obstacles ports transport standalone bus started
  have none := node.start_uncounted settings obstacles ports transport standalone bus started
  exact ⟨⟨_, organizations, books_start transport .organizations _ none⟩,
    ⟨_, members, books_start transport .members _ none⟩⟩

def Idle (shift : Shift) : Prop :=
  shift.unheard = [] ∧ ∀ request ∈ shift.floor.requests, request = []

/-- What the counters of both channels say of a node that has been at work. -/
structure Accounted (shift : Shift) : Prop where
  direct : shift.floor.transport = .direct → shift.Idle →
    let metrics := shift.floor.node.panel.metrics
    metrics.Matched .organizations (shift.floor.sent.countP Sending.refusesOrganization) ∧
      metrics.Matched .members (shift.floor.sent.countP Sending.refusesMember)
  queued : shift.floor.transport = .queued →
    let metrics := shift.floor.node.panel.metrics
    ∃ organizations members, shift.floor.node.organizations = some organizations ∧
      shift.floor.node.members = some members ∧
      metrics.Balanced .organizations organizations shift.floor.organizations
        shift.unheardOrganizations ∧
      metrics.Balanced .members members shift.floor.members shift.unheardMembers
  closed : ∀ time emission name,
    (shift.floor.node.bringWithin shift.floor.transport time emission).2 = .error (.closed name) →
    (shift.floor.node.bringWithin shift.floor.transport time emission).1 = shift.floor.node ∧
      shift.floor.node.hear emission (.error (.closed name)) = shift.floor.node

theorem kept_accounted (shift : Shift) (kept : shift.Kept) : shift.Accounted where
  direct direct idle := by
    obtain ⟨organizations, _, books⟩ := kept.organizations
    obtain ⟨members, _, others⟩ := kept.members
    rw [direct, unheardOrganizations, idle.1] at books
    rw [direct, unheardMembers, idle.1] at others
    exact ⟨books_matched books, books_matched others⟩
  queued queued := by
    obtain ⟨organizations, hasOrganizations, books⟩ := kept.organizations
    obtain ⟨members, hasMembers, others⟩ := kept.members
    rw [queued] at books others
    exact ⟨organizations, members, hasOrganizations, hasMembers, books_balanced books,
      books_balanced others⟩
  closed time emission name closed :=
    ⟨shift.floor.node.bring_closed shift.floor.transport time emission name closed, rfl⟩

/-- A node that runs all parts counts every event, whatever its requests and the two handovers do
between each other. If events are handed over one by one, then as soon as no request is going on as
many of each kind were emitted as were processed, and as many failed as were refused to their
senders. If they go by way of queues, then at any time between two emissions those that were emitted
are those that were processed, failed, wait or are in hand, unless a backend has gone away, which
can leave some behind but does not happen by itself. An event that finds its channel closed is
counted nowhere. -/
theorem no_event_uncounted (settings : Settings) (obstacles : Obstacles) (ports : Ports)
    (node : Node) (transport : Transport) (standalone : settings.role = .standalone)
    (bus : settings.bus = match transport with | .direct => .direct | .queued => .inMemory)
    (started : Node.start settings obstacles ports = .ok node) (acts : List Act) :
    let shift := Shift.run acts { floor := { node, transport } }
    shift.floor.transport = transport ∧ shift.Accounted ∧
      ((∀ act ∈ acts, act.isLoss = false) → shift.floor.node.alive = (some true, some true)) := by
  intro shift
  have kept := kept_start settings obstacles ports node transport standalone bus started
  refine ⟨transport_run acts _, kept_accounted shift (kept_run acts _ kept), fun lossless => ?_⟩
  obtain ⟨organizations, members, _⟩ :=
    node.start_within settings obstacles ports transport standalone bus started
  rw [alive_run acts _ lossless, Node.alive, organizations, members]
  rfl

/-- Two requests create one organization. Where events are handed over one by one the second hears
of the refusal, and both have come to their end; where they are queued one event is in hand and one
waits. -/
theorem counted_on_both_ways :
    let settings (bus : BusKind) : Settings := {
      role := .standalone, bus, brokers := "", organizationTopic := ""
      memberTopic := "", consumerGroup := "", host := "", advertisedHost := "localhost"
      compositePort := 7000, organizationPort := 7002, memberPort := 7003, metricsPort := 9090
      httpWorkers := 2, organizationUrl := "", memberUrl := "", organizationTimeout := 2000
      memberTimeout := 2000, readDeadline := 5000, backoff := {}, breaker := {} }
    let node (bus : BusKind) (transport : Transport) : Node :=
      Node.addFront (settings bus) (Node.loopbackUrl 7002) (Node.loopbackUrl 7003)
        ((({ service := "standalone", ports := ⟨7000, 7002, 7003⟩ } : Node).addOrganizations
          (settings bus)).addMembers (settings bus)) (.within transport)
    let request : Act :=
      .floor (.arrive (.create { organizationId := 1, name := "n", country := "c" }))
    let both : List Act := [request, request, .bring 0 default, .bring 1 default, .hear 1, .hear 0]
    let direct := Shift.run both { floor := ⟨node .direct .direct, .direct, {}, {}, [], []⟩ }
    let queued := Shift.run (both ++ [.floor .takeOrganization])
      { floor := ⟨node .inMemory .queued, .queued, {}, {}, [], []⟩ }
    direct.Idle ∧ direct.floor.node.panel.metrics.Matched .organizations 1 ∧
      direct.floor.node.panel.metrics.emitted .organizations .create = 1 ∧
      queued.unheard = [] ∧ queued.floor.node.panel.metrics.emitted .organizations .create = 2 ∧
      ∃ organizations, queued.floor.node.organizations = some organizations ∧
        queued.floor.node.panel.metrics.Balanced .organizations organizations
          queued.floor.organizations queued.unheardOrganizations := by
  intro settings node request both direct queued
  have idle : direct.Idle := by
    constructor
    · exact List.isEmpty_iff.mp (by decide +kernel)
    · decide +kernel
  constructor
  · exact idle
  constructor
  · obtain ⟨way, accounted, _⟩ := no_event_uncounted (settings .direct) {} ⟨7000, 7002, 7003⟩
      (node .direct .direct) .direct rfl rfl rfl both
    have accounted : direct.Accounted := accounted
    have refused : direct.floor.sent.countP Sending.refusesOrganization = 1 := by decide +kernel
    exact refused ▸ (accounted.direct way idle).1
  constructor
  · decide +kernel
  constructor
  · exact List.isEmpty_iff.mp (by decide +kernel)
  constructor
  · decide +kernel
  · obtain ⟨way, accounted, _⟩ := no_event_uncounted (settings .inMemory) {} ⟨7000, 7002, 7003⟩
      (node .inMemory .queued) .queued rfl rfl rfl (both ++ [.floor .takeOrganization])
    have accounted : queued.Accounted := accounted
    obtain ⟨organizations, _, has, _, balanced, _⟩ := accounted.queued way
    exact ⟨organizations, has, balanced⟩

end Shift
end Roster
