import Roster.Proofs.EventHistory
import Roster.Proofs.MetricsCounts

/-!
Handing over what is queued, in two steps: an event is taken from the queue, and later the
backend has made of it what it will. In between others may go on putting events into the queue.
Whatever the backend makes of an event, the next one gets its turn; so what was put into the queue
is at any time what was handed over, what is in hand and what still waits, in this order.
-/

namespace Roster.Channel

/-- Where events are between the queue and the backend. -/
structure Forwarder (α : Type) where
  inHand : Option (Event α) := none
  handed : List (Event α) := []
deriving Repr

namespace Forwarder

variable {σ α : Type}

def take (lane : Lane σ α) (forwarder : Forwarder α) : Lane σ α × Forwarder α :=
  match forwarder.inHand, lane.queue with
  | none, event :: queue => ({ lane with queue }, { forwarder with inHand := some event })
  | _, _ => (lane, forwarder)

def settle [Store σ α] (lane : Lane σ α) (metrics : Metrics) (forwarder : Forwarder α) :
    Lane σ α × Metrics × Forwarder α :=
  match forwarder.inHand with
  | none => (lane, metrics, forwarder)
  | some event =>
    match lane.handOver event metrics with
    | (lane, metrics, .error (.closed _)) => (lane.close, metrics, { forwarder with inHand := none })
    | (lane, metrics, _) => (lane, metrics, ⟨none, forwarder.handed ++ [event]⟩)

def load (lane : Lane σ α) (forwarder : Forwarder α) : Nat :=
  lane.queue.length + forwarder.inHand.toList.length

section Take

variable (lane : Lane σ α) (forwarder : Forwarder α)

theorem take_next (event : Event α) (queue : List (Event α)) (free : forwarder.inHand = none)
    (queued : lane.queue = event :: queue) :
    forwarder.take lane = ({ lane with queue }, { forwarder with inHand := some event }) := by
  simp [take, free, queued]

theorem take_busy (event : Event α) (busy : forwarder.inHand = some event) :
    forwarder.take lane = (lane, forwarder) := by
  simp [take, busy]

theorem take_empty (empty : lane.queue = []) : forwarder.take lane = (lane, forwarder) := by
  unfold take
  rw [empty]
  cases forwarder.inHand <;> rfl

end Take

variable [Store σ α] (lane : Lane σ α) (metrics : Metrics) (forwarder : Forwarder α)

theorem settle_free (free : forwarder.inHand = none) :
    forwarder.settle lane metrics = (lane, metrics, forwarder) := by
  simp [settle, free]

theorem settle_alive (event : Event α) (alive : lane.isAlive = true)
    (busy : forwarder.inHand = some event) :
    forwarder.settle lane metrics =
      ({ lane with store := Store.after lane.store event },
        (Store.process event lane.store metrics).2.1, ⟨none, forwarder.handed ++ [event]⟩) := by
  rw [← Store.process_store event lane.store metrics]
  simp only [settle, busy, Lane.handOver, alive]
  cases (Store.process event lane.store metrics).2.2 <;> rfl

theorem settle_gone (event : Event α) (gone : lane.isAlive = false)
    (busy : forwarder.inHand = some event) :
    forwarder.settle lane metrics = (lane.close, metrics, { forwarder with inHand := none }) := by
  simp [settle, busy, Lane.handOver, gone]

/-- Both steps without anything in between hand over the oldest queued event. -/
theorem take_settle (free : forwarder.inHand = none) :
    ((forwarder.take lane).2.settle (forwarder.take lane).1 metrics).1 = (lane.forward metrics).1 ∧
      ((forwarder.take lane).2.settle (forwarder.take lane).1 metrics).2.1 =
        (lane.forward metrics).2 := by
  cases queued : lane.queue with
  | nil =>
      rw [take_empty lane forwarder queued, settle_free lane metrics forwarder free]
      simp [Lane.forward, queued]
  | cons event queue =>
      rw [take_next lane forwarder event queue free queued]
      rcases Bool.eq_false_or_eq_true lane.isAlive with alive | gone
      · rw [settle_alive { lane with queue } metrics { forwarder with inHand := some event } event
          alive rfl]
        simp [Lane.forward, queued, alive, Store.process_store]
      · rw [settle_gone { lane with queue } metrics { forwarder with inHand := some event } event
          gone rfl]
        simp [Lane.forward, queued, gone, Lane.close]

/-- What is known of a channel at any time: `sent` was put into its queue, and its backend began
with `first`. Nothing was lost on the way, doubled or moved past another. -/
structure Keeps (first : σ) (sent : List (Event α)) : Prop where
  alive : lane.isAlive = true
  opened : lane.isOpen = true
  order : sent = forwarder.handed ++ forwarder.inHand.toList ++ lane.queue
  store : lane.store = Store.afterAll forwarder.handed first

section Steps

variable (first : σ) (sent : List (Event α)) (keeps : forwarder.Keeps lane first sent)

include keeps

/-- An open queue takes every event, at its end. -/
theorem keeps_enqueue (event : Event α) :
    (lane.enqueue event).2 = .ok () ∧
      forwarder.Keeps (lane.enqueue event).1 first (sent ++ [event]) := by
  rw [Lane.enqueue, if_pos keeps.opened]
  refine ⟨rfl, keeps.alive, keeps.opened, ?_, keeps.store⟩
  rw [keeps.order, List.append_assoc]

theorem keeps_take :
    (forwarder.take lane).2.Keeps (forwarder.take lane).1 first sent := by
  cases busy : forwarder.inHand with
  | some event => rwa [take_busy lane forwarder event busy]
  | none =>
      cases queued : lane.queue with
      | nil => rwa [take_empty lane forwarder queued]
      | cons event queue =>
          rw [take_next lane forwarder event queue busy queued]
          refine ⟨keeps.alive, keeps.opened, ?_, keeps.store⟩
          rw [keeps.order, busy, queued]
          simp

theorem keeps_settle :
    (forwarder.settle lane metrics).2.2.Keeps (forwarder.settle lane metrics).1 first sent := by
  cases busy : forwarder.inHand with
  | none => rwa [settle_free lane metrics forwarder busy]
  | some event =>
      rw [settle_alive lane metrics forwarder event keeps.alive busy]
      refine ⟨keeps.alive, keeps.opened, ?_, ?_⟩
      · rw [keeps.order, busy]
        simp
      · rw [Store.afterAll_append, keeps.store]
        rfl

/-- Taking and settling once leaves one event less, whatever becomes of it. -/
theorem load_round :
    load ((forwarder.take lane).2.settle (forwarder.take lane).1 metrics).1
        ((forwarder.take lane).2.settle (forwarder.take lane).1 metrics).2.2 =
      load lane forwarder - 1 := by
  cases busy : forwarder.inHand with
  | some event =>
      rw [take_busy lane forwarder event busy]
      rw [settle_alive lane metrics forwarder event keeps.alive busy]
      simp [load, busy]
  | none =>
      cases queued : lane.queue with
      | nil =>
          rw [take_empty lane forwarder queued, settle_free lane metrics forwarder busy]
          simp [load, busy, queued]
      | cons event queue =>
          rw [take_next lane forwarder event queue busy queued]
          rw [settle_alive { lane with queue } metrics { forwarder with inHand := some event } event
            keeps.alive rfl]
          simp [load, busy, queued]

end Steps

theorem keeps_start (name : String) (first : σ) :
    ({} : Forwarder α).Keeps { name, store := first } first [] := ⟨rfl, rfl, rfl, rfl⟩

/-- Once nothing is left, all that was sent has been handed over. -/
theorem keeps_drained (first : σ) (sent : List (Event α)) (keeps : forwarder.Keeps lane first sent)
    (drained : load lane forwarder = 0) : lane.store = Store.afterAll sent first := by
  have queue : lane.queue = [] := List.length_eq_zero_iff.mp (by unfold load at drained; omega)
  have hand : forwarder.inHand.toList = [] :=
    List.length_eq_zero_iff.mp (by unfold load at drained; omega)
  rw [keeps.store, keeps.order, queue, hand, List.append_nil, List.append_nil]

end Forwarder
end Roster.Channel

/-!
What is counted of the events of one channel, against what has become of them. An event that is
brought to its channel is counted as emitted only when its sender hears that it came through; the
backend counts it as processed or as failed when it takes it, which is at once on one way of
transport and later on the other.
-/

namespace Roster

open Channel (Failure Forwarder Lane)

def Counter.eventFamilies : List String :=
  ["events_emitted_total", "events_processed_total", "events_failed_total"]

/-- A channel and the domain at its end, as they are called in metrics. -/
structure Route where
  channel : String
  domain : String
deriving DecidableEq, Repr

namespace Route

def organizations : Route := ⟨"organizations", "organization"⟩

def members : Route := ⟨"members", "member"⟩

def counters (route : Route) : List Counter := Counter.ofChannel route.channel route.domain

/-- One of the routes of a process that keeps both backends. -/
def IsPlain (route : Route) : Prop := route = organizations ∨ route = members

theorem IsPlain.counters {route : Route} (isPlain : route.IsPlain) :
    ∀ counter ∈ route.counters, counter ∈ Counter.plain := by
  intro counter mem
  rcases isPlain with rfl | rfl
  · exact List.mem_append_right _ (List.mem_append_left _ mem)
  · exact List.mem_append_right _ (List.mem_append_right _ mem)

theorem emitted_mem (route : Route) (kind : EventKind) :
    .eventsEmitted route.channel kind.name ∈ route.counters := by
  cases kind <;> simp [counters, Counter.ofChannel, EventKind.name]

theorem processed_mem (route : Route) (kind : EventKind) :
    .eventsProcessed route.domain kind.name ∈ route.counters := by
  cases kind <;> simp [counters, Counter.ofChannel, EventKind.name]

theorem failed_mem (route : Route) (reason : String) (known : reason ∈ Fault.kinds) :
    .eventsFailed route.domain reason ∈ route.counters :=
  List.mem_append_right _ (List.mem_map_of_mem known)

theorem organizations_apart : ∀ counter ∈ organizations.counters, counter ∉ members.counters := by
  decide

theorem members_apart : ∀ counter ∈ members.counters, counter ∉ organizations.counters :=
  fun counter own other => organizations_apart counter other own

theorem counters_family (route : Route) : ∀ counter ∈ route.counters,
    counter.family ∈ Counter.eventFamilies := by
  intro counter mem
  simp only [counters, Counter.ofChannel, Fault.kinds, List.map_cons, List.map_nil,
    List.cons_append, List.nil_append, List.mem_cons, List.not_mem_nil, or_false] at mem
  rcases mem with rfl | rfl | rfl | rfl | rfl | rfl | rfl | rfl <;>
    simp [Counter.family, Counter.eventFamilies]

end Route

theorem EventKind.name_eq_iff (one other : EventKind) : one.name = other.name ↔ one = other := by
  cases one <;> cases other <;> simp [name]

namespace Metrics

def emitted (metrics : Metrics) (route : Route) (kind : EventKind) : Nat :=
  metrics.count (.eventsEmitted route.channel kind.name)

def processed (metrics : Metrics) (route : Route) (kind : EventKind) : Nat :=
  metrics.count (.eventsProcessed route.domain kind.name)

def failed (metrics : Metrics) (route : Route) : Nat :=
  Fault.kinds.foldr
    (fun reason total => metrics.count (.eventsFailed route.domain reason) + total) 0

theorem failed_eq (route : Route) (before after : Metrics)
    (same : ∀ reason ∈ Fault.kinds, after.count (.eventsFailed route.domain reason) =
      before.count (.eventsFailed route.domain reason)) :
    after.failed route = before.failed route := by
  simp only [failed]
  generalize Fault.kinds = reasons at same
  induction reasons with
  | nil => rfl
  | cons reason rest ih =>
      rw [List.foldr_cons, List.foldr_cons, same reason List.mem_cons_self,
        ih fun other mem => same other (List.mem_cons_of_mem _ mem)]

def Alike (route : Route) (before after : Metrics) : Prop :=
  ∀ counter ∈ route.counters, after.count counter = before.count counter

section Alike

variable {route : Route} {before after : Metrics} (alike : Alike route before after)

include alike

theorem Alike.emitted (kind : EventKind) : after.emitted route kind = before.emitted route kind :=
  alike _ (route.emitted_mem kind)

theorem Alike.processed (kind : EventKind) :
    after.processed route kind = before.processed route kind :=
  alike _ (route.processed_mem kind)

theorem Alike.failed : after.failed route = before.failed route :=
  failed_eq route before after fun reason known => alike _ (route.failed_mem reason known)

end Alike

variable (metrics : Metrics) {route : Route}

/-- What else is counted counts for no route. -/
theorem alike_other (counter : Counter)
    (apart : counter.family ∉ Counter.eventFamilies) :
    Alike route metrics (metrics.bump counter) := by
  intro known mem
  refine metrics.count_bump_family counter known fun same => apart ?_
  rw [← same]
  exact route.counters_family known mem

section Plain

variable (isPlain : route.IsPlain)

include isPlain

theorem alike_elsewhere (counter : Counter) (plain : counter ∈ Counter.plain)
    (apart : counter ∉ route.counters) : Alike route metrics (metrics.bump counter) := by
  intro known mem
  have distinct : known ≠ counter := fun same => apart (same ▸ mem)
  rw [metrics.count_bump_plain counter known plain (isPlain.counters known mem), if_neg distinct,
    Nat.add_zero]

theorem count_bump_route (counter other : Counter) (first : counter ∈ route.counters)
    (second : other ∈ route.counters) :
    (metrics.bump counter).count other = metrics.count other + if other = counter then 1 else 0 :=
  metrics.count_bump_plain counter other (isPlain.counters counter first)
    (isPlain.counters other second)

theorem emitted_bump (counter : Counter) (own : counter ∈ route.counters) (kind : EventKind) :
    (metrics.bump counter).emitted route kind = metrics.emitted route kind +
      if .eventsEmitted route.channel kind.name = counter then 1 else 0 :=
  metrics.count_bump_route isPlain counter _ own (route.emitted_mem kind)

theorem processed_bump (counter : Counter) (own : counter ∈ route.counters) (kind : EventKind) :
    (metrics.bump counter).processed route kind = metrics.processed route kind +
      if .eventsProcessed route.domain kind.name = counter then 1 else 0 :=
  metrics.count_bump_route isPlain counter _ own (route.processed_mem kind)

theorem failed_bump (fault : Fault) :
    (metrics.bump (.eventsFailed route.domain fault.kind)).failed route =
      metrics.failed route + 1 := by
  have once : Fault.kinds.count fault.kind = 1 := by cases fault <;> rfl
  have own := route.failed_mem fault.kind fault.kind_mem
  have each : ∀ reason ∈ Fault.kinds,
      (metrics.bump (.eventsFailed route.domain fault.kind)).count
          (.eventsFailed route.domain reason) =
        metrics.count (.eventsFailed route.domain reason) +
          if reason = fault.kind then 1 else 0 := by
    intro reason known
    rw [metrics.count_bump_route isPlain _ _ own (route.failed_mem reason known)]
    simp only [Counter.eventsFailed.injEq, true_and]
  -- The sum goes up once for each time that the kind stands among all kinds.
  rw [← once, failed, failed]
  generalize Fault.kinds = reasons at each
  clear once own
  induction reasons with
  | nil => rfl
  | cons reason rest ih =>
      rw [List.foldr_cons, List.foldr_cons, each reason List.mem_cons_self,
        ih fun other mem => each other (List.mem_cons_of_mem _ mem), List.count_cons]
      simp only [beq_iff_eq]
      omega

theorem failed_bump_other (counter : Counter) (own : counter ∈ route.counters)
    (other : ∀ reason, counter ≠ .eventsFailed route.domain reason) :
    (metrics.bump counter).failed route = metrics.failed route := by
  refine failed_eq route metrics _ fun reason known => ?_
  rw [metrics.count_bump_route isPlain _ _ own (route.failed_mem reason known),
    if_neg (other reason).symm, Nat.add_zero]

/-! What each of the three counts does to all of them. -/

theorem bump_emitted (kind : EventKind) :
    let after := metrics.bump (.eventsEmitted route.channel kind.name)
    (∀ other, after.emitted route other =
        metrics.emitted route other + if other = kind then 1 else 0) ∧
      (∀ other, after.processed route other = metrics.processed route other) ∧
      after.failed route = metrics.failed route := by
  have own := route.emitted_mem kind
  refine ⟨fun other => ?_, fun other => ?_, metrics.failed_bump_other isPlain _ own (by simp)⟩
  · rw [metrics.emitted_bump isPlain _ own]
    simp only [Counter.eventsEmitted.injEq, true_and, EventKind.name_eq_iff]
  · rw [metrics.processed_bump isPlain _ own, if_neg (by simp), Nat.add_zero]

theorem bump_processed (kind : EventKind) :
    let after := metrics.bump (.eventsProcessed route.domain kind.name)
    (∀ other, after.emitted route other = metrics.emitted route other) ∧
      (∀ other, after.processed route other =
        metrics.processed route other + if other = kind then 1 else 0) ∧
      after.failed route = metrics.failed route := by
  have own := route.processed_mem kind
  refine ⟨fun other => ?_, fun other => ?_, metrics.failed_bump_other isPlain _ own (by simp)⟩
  · rw [metrics.emitted_bump isPlain _ own, if_neg (by simp), Nat.add_zero]
  · rw [metrics.processed_bump isPlain _ own]
    simp only [Counter.eventsProcessed.injEq, true_and, EventKind.name_eq_iff]

theorem bump_failed (fault : Fault) :
    let after := metrics.bump (.eventsFailed route.domain fault.kind)
    (∀ other, after.emitted route other = metrics.emitted route other) ∧
      (∀ other, after.processed route other = metrics.processed route other) ∧
      after.failed route = metrics.failed route + 1 := by
  have own := route.failed_mem fault.kind fault.kind_mem
  refine ⟨fun other => ?_, fun other => ?_, metrics.failed_bump isPlain fault⟩
  · rw [metrics.emitted_bump isPlain _ own, if_neg (by simp), Nat.add_zero]
  · rw [metrics.processed_bump isPlain _ own, if_neg (by simp), Nat.add_zero]

end Plain

end Metrics
end Roster
