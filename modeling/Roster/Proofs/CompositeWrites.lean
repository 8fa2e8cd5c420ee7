import Roster.Deployment
import Roster.Proofs.StoreDirectory

/-!
A composite service that runs beside its backends and hands its changes over to them. All
that counts of the node is what its two stores hold; so whatever holds of the stores alone
holds of every such node, whatever else it does with its breakers and counts.
-/

namespace Roster

open Channel (Failure Lane Obstacles)
open Composite (sendAll)

namespace Composite

variable {σ : Type}

/-- A composite service does to the stores that its state shows what is done to stores alone. -/
structure Mirrors (composite : Composite σ) (shows : σ → Stores → Prop) : Prop where
  emit : ∀ emission state stores, shows state stores →
    shows (composite.emit emission state).1 (stores.emit emission).1 ∧
      (composite.emit emission state).2 = (stores.emit emission).2
  record : ∀ change state stores, shows state stores → shows (composite.record change state) stores
  organization : ∀ id options state stores, shows state stores →
    shows (composite.organization id options state).1 stores
  members : ∀ id state stores, shows state stores → shows (composite.members id state).1 stores

section Mirrors

variable (composite : Composite σ) (shows : σ → Stores → Prop) (mirrors : composite.Mirrors shows)
  (address : String) (state : σ) (stores : Stores)

include mirrors

theorem sendAll_mirrors (emissions : List Emission) (shown : shows state stores) :
    shows (sendAll composite.emit emissions state).1 (sendAll Stores.emit emissions stores).1 ∧
      (sendAll composite.emit emissions state).2 = (sendAll Stores.emit emissions stores).2 := by
  induction emissions generalizing state stores with
  | nil => exact ⟨shown, rfl⟩
  | cons emission rest ih =>
      obtain ⟨next, same⟩ := mirrors.emit emission state stores shown
      cases result : (composite.emit emission state).2 with
      | ok sent =>
          rw [sendAll_sent composite.emit emission rest state _ (Prod.ext rfl result),
            sendAll_sent Stores.emit emission rest stores _ (Prod.ext rfl (same.symm.trans result))]
          exact ih _ _ next
      | error failure =>
          rw [sendAll_failed composite.emit emission rest state _ failure (Prod.ext rfl result),
            sendAll_failed Stores.emit emission rest stores _ failure
              (Prod.ext rfl (same.symm.trans result))]
          exact ⟨next, rfl⟩

theorem perform_mirrors (write : Write) (shown : shows state stores) :
    shows (composite.perform write state).1
        ((Stores.composite address).perform write stores).1 ∧
      (composite.perform write state).2 =
        ((Stores.composite address).perform write stores).2 := by
  cases write with
  | delete id =>
      obtain ⟨next, same⟩ := sendAll_mirrors composite shows mirrors state stores
        (Emission.removal id) shown
      exact ⟨mirrors.record _ _ _ next, same⟩
  | create aggregate =>
      have sent := sendAll_mirrors composite shows mirrors state stores aggregate.emissions shown
      have written : shows (composite.write aggregate state).1
            ((Stores.composite address).write aggregate stores).1 ∧
          (composite.write aggregate state).2 =
            ((Stores.composite address).write aggregate stores).2 := by
        unfold write
        cases Fault.checkId aggregate.organizationId with
        | error fault => exact ⟨shown, rfl⟩
        | ok valid => exact sent
      exact ⟨mirrors.record _ _ _ written.1, written.2⟩

theorem performAll_mirrors (writes : List Write) (shown : shows state stores) :
    shows (composite.performAll writes state)
      ((Stores.composite address).performAll writes stores) := by
  induction writes generalizing state stores with
  | nil => exact shown
  | cons write rest ih =>
      exact ih _ _ (perform_mirrors composite shows mirrors address state stores write shown).1

theorem get_mirrors (id : Id) (options : ReadOptions) (shown : shows state stores) :
    shows (composite.get id options state).1 stores := by
  have read : shows (composite.read id options state).1 stores := by
    unfold Composite.read
    cases Fault.checkId id with
    | error fault => exact shown
    | ok valid =>
        have asked := mirrors.organization id options state stores shown
        have both := mirrors.members id _ stores asked
        simp only [readBoth]
        split
        · split
          · exact asked
          · exact both
        · exact both
  exact mirrors.record _ _ _ (mirrors.record _ _ _ read)

end Mirrors

end Composite

/-! ### Nodes -/

section Handing

variable {σ α : Type} [Store σ α] (event : Event α) (lane : Lane σ α) (metrics : Metrics)

theorem publish_settles (alive : lane.isAlive = true) :
    let settled := Store.settle lane.store () (event.apply lane.store)
    ∃ counted, Bus.publish .direct event lane metrics =
      ({ lane with store := settled.1 }, counted, settled.2.mapError .rejected) := by
  cases applied : event.apply lane.store with
  | ok next =>
      simp only [Bus.publish, Lane.handOver, Store.process, Store.settle, alive, applied]
      exact ⟨_, rfl⟩
  | error fault =>
      simp only [Bus.publish, Lane.handOver, Store.process, Store.settle, alive, applied]
      exact ⟨_, rfl⟩

end Handing

/-- The stores of a node that keeps both and whose backends take events. -/
def Node.stores? (node : Node) : Option Stores :=
  match node.organizations, node.members with
  | some organizations, some members =>
    if organizations.isAlive && members.isAlive then
      some { organizations := organizations.store, members := members.store }
    else none
  | _, _ => none

namespace Node

variable (node : Node) (stores : Stores)

theorem stores_iff : node.stores? = some stores ↔
    ∃ organizations members, node.organizations = some organizations ∧
      node.members = some members ∧ organizations.isAlive = true ∧ members.isAlive = true ∧
      stores = { organizations := organizations.store, members := members.store } := by
  constructor
  · intro shown
    unfold stores? at shown
    split at shown
    · next organizations members hasOrganizations hasMembers =>
      split at shown
      · next alive =>
        obtain ⟨first, second⟩ := (Bool.and_eq_true _ _).mp alive
        exact ⟨organizations, members, hasOrganizations, hasMembers, first, second,
          (Option.some.inj shown).symm⟩
      · cases shown
    · cases shown
  · rintro ⟨organizations, members, hasOrganizations, hasMembers, first, second, rfl⟩
    simp [stores?, hasOrganizations, hasMembers, first, second]

/-- What a node hands over within itself, its stores take as they would alone. -/
theorem emitWithin_stores (now : Calendar.Moment) (emission : Emission)
    (shown : node.stores? = some stores) :
    (node.emitWithin .direct now emission).1.stores? = some (stores.emit emission).1 ∧
      (node.emitWithin .direct now emission).2 = (stores.emit emission).2 := by
  obtain ⟨organizations, members, hasOrganizations, hasMembers, first, second, rfl⟩ :=
    (node.stores_iff stores).mp shown
  cases emission with
  | organization change =>
      obtain ⟨counted, published⟩ := publish_settles (change.event now) organizations
        node.panel.metrics first
      rw [Change.event_apply change now organizations.store] at published
      simp [emitWithin, hasOrganizations, hasMembers, published, stores?, record, first, second,
        Stores.emit]
  | member change =>
      obtain ⟨counted, published⟩ := publish_settles (change.event now) members
        node.panel.metrics second
      rw [Change.event_apply change now members.store] at published
      simp [emitWithin, hasOrganizations, hasMembers, published, stores?, record, first, second,
        Stores.emit]

section Start

variable (settings : Settings) (obstacles : Obstacles) (ports : Ports) (transport : Transport)
  (standalone : settings.role = .standalone)
  (bus : settings.bus = match transport with | .direct => .direct | .queued => .inMemory)
  (started : start settings obstacles ports = .ok node)

include standalone bus started

theorem start_made :
    addFront settings (loopbackUrl ports.organization) (loopbackUrl ports.member)
      ((({ service := settings.role.name, ports } : Node).addOrganizations settings).addMembers
        settings) (.within transport) = node := by
  rw [start, standalone] at started
  cases transport <;>
  · simp only [bus] at started
    rw [standalone]
    exact Except.ok.inj started

theorem start_within :
    node.organizations = some {
        name := "organizations"
        store := { address := settings.address settings.organizationPort } } ∧
      node.members = some {
        name := "members"
        store := { address := settings.address settings.memberPort } } ∧
      ∀ front, node.front = some front → front.outlet = .within transport := by
  have made := node.start_made settings obstacles ports transport standalone bus started
  subst made
  refine ⟨rfl, rfl, ?_⟩
  rintro front hasFront
  cases hasFront
  rfl

theorem start_uncounted (counter : Counter) : node.panel.metrics.count counter = 0 := by
  have made := node.start_made settings obstacles ports transport standalone bus started
  subst made
  rfl

end Start

/-- A node that runs all parts begins with empty stores and hands its changes straight over. -/
theorem start_direct (settings : Settings) (obstacles : Obstacles) (ports : Ports)
    (standalone : settings.role = .standalone) (direct : settings.bus = .direct)
    (started : start settings obstacles ports = .ok node) :
    node.stores? = some {
        organizations := { address := settings.address settings.organizationPort }
        members := { address := settings.address settings.memberPort } } ∧
      ∀ front, node.front = some front → front.outlet = .within .direct := by
  obtain ⟨organizations, members, outlet⟩ :=
    node.start_within settings obstacles ports .direct standalone direct started
  refine ⟨?_, outlet⟩
  simp [stores?, organizations, members]

end Node

namespace Deployment

def stores? (place : Nat) (deployment : Deployment) : Option Stores :=
  deployment.nodes[place]?.bind Node.stores?

theorem stores_update (place : Nat) (deployment : Deployment) (stores next : Stores)
    (change : Node → Node) (shown : deployment.stores? place = some stores)
    (changed : ∀ node, deployment.nodes[place]? = some node → node.stores? = some stores →
      (change node).stores? = some next) :
    (deployment.update place change).stores? place = some next := by
  obtain ⟨node, found, shows⟩ := Option.bind_eq_some_iff.mp shown
  refine Option.bind_eq_some_iff.mpr ⟨change node, ?_, changed node found shows⟩
  simp [update, found]

theorem composite_mirrors (place : Nat) (front : Front) (direct : front.outlet = .within .direct) :
    (composite place front).Mirrors fun deployment stores =>
      deployment.stores? place = some stores := by
  constructor
  · intro emission deployment stores shown
    obtain ⟨node, found, shows⟩ := Option.bind_eq_some_iff.mp shown
    have handed := node.emitWithin_stores stores default emission shows
    simp only [composite, emit, direct, found]
    refine ⟨?_, handed.2⟩
    exact stores_update place deployment stores _ _ shown fun _ _ _ => handed.1
  · intro change deployment stores shown
    exact stores_update place deployment stores stores _ shown fun _ _ shows => shows
  · intro id options deployment stores shown
    exact stores_update place deployment stores stores _ shown fun _ _ shows => shows
  · intro id deployment stores shown
    exact shown

/-- A node that runs all parts and hands its changes straight over keeps its two stores as one
directory. It begins empty; every write, after any others, changes it as a whole or leaves the
stores alone, but for a list of members that repeats a key, which is written up to there; no
members are ever left without their organization; and a read that gets its parts from the
services answers by the directory and changes nothing. -/
theorem writes_refine_directory (settings : Settings) (obstacles : Obstacles) (ports : Ports)
    (node : Node) (deployment : Deployment) (place : Nat) (front : Front)
    (standalone : settings.role = .standalone) (direct : settings.bus = .direct)
    (started : Node.start settings obstacles ports = .ok node)
    (found : deployment.nodes[place]? = some node) (hasFront : node.front = some front)
    (writes : List Composite.Write) :
    let composite := composite place front
    let reached := composite.performAll writes deployment
    ∃ stores, reached.stores? place = some stores ∧ stores.Sound ∧
      (writes = [] → stores.directory = fun _ => none) ∧
      (∀ write, ∃ later, (composite.perform write reached).1.stores? place = some later ∧
        stores.Written write later (composite.perform write reached).2) ∧
      ∀ id options, 1 ≤ id →
        (composite.organization id options reached).2.value = stores.organizations.serve id →
        ((stores.directory id).isSome = true →
          (composite.members id (composite.organization id options reached).1).2.value =
            stores.members.serve id) →
        (composite.get id options reached).1.stores? place = some stores ∧
          (composite.get id options reached).2.value =
            stores.directory.answer (stores.addresses front.address) id := by
  intro composite reached
  obtain ⟨holds, outlet⟩ := node.start_direct settings obstacles ports standalone direct started
  let shows (deployment : Deployment) (stores : Stores) : Prop :=
    deployment.stores? place = some stores
  have mirrors : composite.Mirrors shows := composite_mirrors place front (outlet front hasFront)
  -- The same writes to stores alone lead to what the node holds.
  let first : Stores := {
    organizations := { address := settings.address settings.organizationPort }
    members := { address := settings.address settings.memberPort } }
  let stores := (Stores.composite front.address).performAll writes first
  have shown : reached.stores? place = some stores :=
    composite.performAll_mirrors shows mirrors front.address deployment first writes
      (Option.bind_eq_some_iff.mpr ⟨node, found, holds⟩)
  have sound : stores.Sound := first.performAll_sound front.address writes fun _ _ => rfl
  refine ⟨stores, shown, sound, ?_, ?_, ?_⟩
  · rintro rfl
    rfl
  · intro write
    obtain ⟨later, answer⟩ := composite.perform_mirrors shows mirrors front.address reached
      stores write shown
    refine ⟨_, later, ?_⟩
    rw [answer]
    exact (stores.perform_written front.address write sound).1
  · intro id options valid organization members
    exact ⟨composite.get_mirrors shows mirrors reached stores id options shown,
      composite.get_answers stores id valid options reached organization members⟩

/-- The second of two members with one key is refused, and the first one stays and is read. After
that the organization is there, and a key below 1 is never written. -/
theorem written_up_to_a_repeat :
    let settings : Settings := {
      role := .standalone, bus := .direct, brokers := "", organizationTopic := ""
      memberTopic := "", consumerGroup := "", host := "", advertisedHost := "localhost"
      compositePort := 7000, organizationPort := 7002, memberPort := 7003, metricsPort := 9090
      httpWorkers := 2, organizationUrl := "", memberUrl := "", organizationTimeout := 2000
      memberTimeout := 2000, readDeadline := 5000, backoff := {}, breaker := {} }
    let node : Node := Node.addFront settings (Node.loopbackUrl 7002) (Node.loopbackUrl 7003)
      ((({ service := "standalone", ports := ⟨7000, 7002, 7003⟩ } : Node).addOrganizations
        settings).addMembers settings) (.within .direct)
    let front : Front := node.front.get rfl
    let deployment : Deployment := { nodes := [node], draw := 1 }
    let ada : MemberSummary := ⟨1, "Ada", "A", "s"⟩
    let bob : MemberSummary := ⟨1, "Bob", "B", "s"⟩
    let aggregate : Aggregate :=
      { organizationId := 7, name := "n", country := "c", members := some [ada, bob] }
    let made := (composite 0 front).create aggregate deployment
    let again := (composite 0 front).create aggregate made.1
    let low := (composite 0 front).create { aggregate with organizationId := 0 } made.1
    made.2 = .error (.invalidPayload
        "Member with organizationId: 7 and memberId: 1 already exists!") ∧
      again.2 = .error (.invalidPayload "Organization Id: 7 already exists!") ∧
      low.2 = .error (.invalidPayload "Invalid organizationId: 0") ∧
      ((composite 0 front).get 7 {} made.1).2.value = .ok {
        organizationId := 7, name := "n", country := "c", members := some [ada]
        serviceAddresses := some ⟨"localhost:7000", "localhost:7002", "localhost:7003"⟩ } := by
  intro settings node front deployment ada bob aggregate made again low
  have refines := writes_refine_directory settings {} ⟨7000, 7002, 7003⟩ node deployment 0 front
    rfl rfl rfl rfl rfl
  have reached : (composite 0 front).performAll [.create aggregate] deployment = made.1 := rfl
  obtain ⟨stores, shown, _, _, writes, reads⟩ := refines [.create aggregate]
  rw [reached] at shown writes reads
  have left : made.1.stores? 0 = some
      { organizations := ⟨"localhost:7002", [⟨7, "n", "c", ""⟩]⟩
        members := ⟨"localhost:7003", [⟨7, ada, ""⟩]⟩ } := by decide +kernel
  obtain rfl := Option.some.inj (shown.symm.trans left)
  refine ⟨?_, ?_, ?_, ?_⟩
  · obtain ⟨stores, _, _, empty, writes, _⟩ := refines []
    obtain ⟨later, _, written⟩ := writes (.create aggregate)
    have none : stores.directory = fun _ => none := empty rfl
    change stores.Written (.create aggregate) later made.2 at written
    generalize made.2 = answer at written ⊢
    cases written with
    | createRefused _ low => exact absurd low (by decide)
    | taken _ _ present => simp [none] at present
    | created _ _ kept _ _ _ enrolled holds =>
        have upTo : Enrolled 7 [ada, bob] [ada] _ := .upTo [ada] bob [] (by decide) (by decide)
        rw [(enrolled_unique 7 [ada, bob] _ _ _ _ enrolled upTo).2]
        exact congrArg Except.error (by decide +kernel)
  · obtain ⟨later, _, written⟩ := writes (.create aggregate)
    change Stores.Written _ (.create aggregate) later again.2 at written
    rw [(Stores.written_unique _ _ _ _ _ _ written (.taken aggregate (by decide) rfl)).1]
    exact congrArg Except.error (by decide +kernel)
  · obtain ⟨later, _, written⟩ := writes (.create { aggregate with organizationId := 0 })
    change Stores.Written _ (.create { aggregate with organizationId := 0 }) later low.2 at written
    rw [(Stores.written_unique _ _ _ _ _ _ written (.createRefused _ (by decide))).1]
    exact congrArg Except.error (by decide +kernel)
  · have reads := reads 7 {}
    have served : ((composite 0 front).organization 7 {} made.1).2.value.toOption =
        some ⟨7, "n", "c", "localhost:7002"⟩ := by decide +kernel
    have listed : ((composite 0 front).members 7
        ((composite 0 front).organization 7 {} made.1).1).2.value =
        [⟨7, ada, "localhost:7003"⟩] := by decide +kernel
    have address : front.address = "localhost:7000" := by decide +kernel
    have asked : ((composite 0 front).organization 7 {} made.1).2.value =
        .ok ⟨7, "n", "c", "localhost:7002"⟩ := by
      generalize ((composite 0 front).organization 7 {} made.1).2.value = answer at served ⊢
      cases answer with
      | ok record => exact congrArg Except.ok (Option.some.inj served)
      | error fault => cases served
    rw [(reads (by decide) asked (fun _ => listed)).2, address]
    rfl

end Deployment
end Roster
