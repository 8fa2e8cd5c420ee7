import Roster.Proofs.EventLedger

/-!
Events on their way, and the books of their channel. Bringing an event to a channel and hearing what
came of it are two steps, and what publishes does both at once. The books say where each event that
was brought is to be found, and that the counters of its channel say the same; every step of an
event keeps them.
-/

namespace Roster

open Channel (Failure Forwarder Lane)

variable {σ α : Type}

namespace Bus

variable [Store σ α]

def bring (transport : Transport) (event : Event α) (lane : Lane σ α) (metrics : Metrics) :
    Lane σ α × Metrics × Except Failure Unit :=
  match transport with
  | .direct => lane.handOver event metrics
  | .queued => ((lane.enqueue event).1, metrics, (lane.enqueue event).2)

/-- What publishes an event brings it and hears at once what came of it. -/
theorem publish_bring (transport : Transport) (event : Event α) (lane : Lane σ α)
    (metrics : Metrics) :
    publish transport event lane metrics =
      let (next, counted, result) := bring transport event lane metrics
      (next,
        match result with
        | .ok () => counted.bump (.eventsEmitted next.name event.kind.name)
        | .error _ => counted,
        result) := by
  unfold publish bring
  cases transport with
  | direct =>
      obtain ⟨next, counted, failure | done⟩ := lane.handOver event metrics <;> rfl
  | queued =>
      obtain ⟨next, failure | done⟩ := lane.enqueue event <;> rfl

inductive Brings (event : Event α) (lane : Lane σ α) (metrics : Metrics) :
    Transport → Lane σ α → Metrics → Except Failure Unit → Prop where
  | accepted (next : σ) :
      Brings event lane metrics .direct { lane with store := next }
        (metrics.bump (.eventsProcessed (Store.domain σ) event.kind.name)) (.ok ())
  | refused (fault : Fault) :
      Brings event lane metrics .direct lane
        (metrics.bump (.eventsFailed (Store.domain σ) fault.kind)) (.error (.rejected fault))
  | queued (isOpen : lane.isOpen = true) :
      Brings event lane metrics .queued { lane with queue := lane.queue ++ [event] } metrics
        (.ok ())
  | closed (transport : Transport) (name : String) :
      Brings event lane metrics transport lane metrics (.error (.closed name))

theorem bring_brings (transport : Transport) (event : Event α) (lane : Lane σ α)
    (metrics : Metrics) :
    let brought := bring transport event lane metrics
    Brings event lane metrics transport brought.1 brought.2.1 brought.2.2 := by
  intro brought
  cases transport with
  | queued =>
      simp only [brought, bring, Lane.enqueue]
      split
      · next isOpen => exact .queued isOpen
      · exact .closed .queued lane.name
  | direct =>
      simp only [brought, bring, Lane.handOver]
      split
      · exact .closed .direct _
      · unfold Store.process
        cases event.apply lane.store with
        | ok next => exact .accepted next
        | error fault => exact .refused fault

theorem bring_isAlive (transport : Transport) (event : Event α) (lane : Lane σ α)
    (metrics : Metrics) :
    (bring transport event lane metrics).1.isAlive = lane.isAlive := by
  have brings := bring_brings transport event lane metrics
  generalize bring transport event lane metrics = brought at brings ⊢
  obtain ⟨next, counted, result⟩ := brought
  cases brings <;> rfl

theorem bring_closed (transport : Transport) (event : Event α) (lane : Lane σ α)
    (metrics : Metrics) (name : String)
    (closed : (bring transport event lane metrics).2.2 = .error (.closed name)) :
    bring transport event lane metrics = (lane, metrics, .error (.closed name)) := by
  have brings := bring_brings transport event lane metrics
  generalize bring transport event lane metrics = brought at closed brings ⊢
  obtain ⟨next, counted, result⟩ := brought
  cases closed
  cases brings
  rfl

end Bus

inductive Settles [Store σ α] (lane : Lane σ α) (metrics : Metrics) (forwarder : Forwarder α) :
    Lane σ α → Metrics → Forwarder α → Prop where
  | idle : Settles lane metrics forwarder lane metrics forwarder
  | accepted (event : Event α) (next : σ) (busy : forwarder.inHand = some event) :
      Settles lane metrics forwarder { lane with store := next }
        (metrics.bump (.eventsProcessed (Store.domain σ) event.kind.name))
        ⟨none, forwarder.handed ++ [event]⟩
  | refused (event : Event α) (fault : Fault) (busy : forwarder.inHand = some event) :
      Settles lane metrics forwarder lane
        (metrics.bump (.eventsFailed (Store.domain σ) fault.kind))
        ⟨none, forwarder.handed ++ [event]⟩
  | left (event : Event α) (busy : forwarder.inHand = some event) (gone : lane.isAlive = false) :
      Settles lane metrics forwarder lane.close metrics { forwarder with inHand := none }

theorem settle_settles [Store σ α] (lane : Lane σ α) (metrics : Metrics)
    (forwarder : Forwarder α) :
    let settled := forwarder.settle lane metrics
    Settles lane metrics forwarder settled.1 settled.2.1 settled.2.2 := by
  intro settled
  cases busy : forwarder.inHand with
  | none =>
      simp only [settled, Forwarder.settle_free lane metrics forwarder busy]
      exact .idle
  | some event =>
      rcases Bool.eq_false_or_eq_true lane.isAlive with alive | gone
      · simp only [settled, Forwarder.settle_alive lane metrics forwarder event alive busy,
          ← Store.process_store event lane.store metrics]
        unfold Store.process
        cases event.apply lane.store with
        | ok next => exact .accepted event next busy
        | error fault => exact .refused event fault busy
      · simp only [settled, Forwarder.settle_gone lane metrics forwarder event gone busy]
        exact .left event busy gone

def through (event : Event α) : Except Failure Unit → List (Event α)
  | .ok () => [event]
  | .error _ => []

def isRefusal : Except Failure Unit → Bool
  | .error (.rejected _) => true
  | _ => false

def tally (kind : EventKind) (events : List (Event α)) : Nat :=
  events.countP fun event => kind = event.kind

theorem tally_append (kind : EventKind) (events more : List (Event α)) :
    tally kind (events ++ more) = tally kind events + tally kind more := List.countP_append

theorem tally_single (kind : EventKind) (event : Event α) :
    tally kind [event] = if kind = event.kind then 1 else 0 := by
  simp [tally, List.countP_singleton]

theorem length_eq_tally (events : List (Event α)) :
    events.length = tally .create events + tally .delete events := by
  induction events with
  | nil => rfl
  | cons event rest ih =>
      have first := tally_append .create [event] rest
      have second := tally_append .delete [event] rest
      rw [List.singleton_append, tally_single] at first second
      rw [first, second, List.length_cons, ih]
      cases event.kind <;> simp <;> omega

def Metrics.Touched (route : Route) (before after : Metrics) : Prop :=
  after = before ∨ ∃ counter ∈ route.counters, after = before.bump counter

theorem Metrics.Touched.alike {route other : Route} {before after : Metrics}
    (touched : Touched route before after) (plain : route.IsPlain) (isPlain : other.IsPlain)
    (apart : ∀ counter ∈ route.counters, counter ∉ other.counters) : Alike other before after := by
  rcases touched with rfl | ⟨counter, own, rfl⟩
  · exact fun _ _ => rfl
  · exact before.alike_elsewhere isPlain counter (plain.counters counter own) (apart counter own)

theorem Metrics.Touched.members_alike {before after : Metrics}
    (touched : Touched .organizations before after) : Alike .members before after :=
  touched.alike (.inl rfl) (.inr rfl) Route.organizations_apart

theorem Metrics.Touched.organizations_alike {before after : Metrics}
    (touched : Touched .members before after) : Alike .organizations before after :=
  touched.alike (.inr rfl) (.inl rfl) Route.members_apart

/-- What was published and where it is, if events are handed over one by one: each was processed,
and each that was not processed was refused. -/
structure AtOnce (route : Route) (lane : Lane σ α) (forwarder : Forwarder α) (metrics : Metrics)
    (published : List (Event α)) (refused : Nat) : Prop where
  empty : lane.queue = []
  free : forwarder.inHand = none
  processed : ∀ kind, metrics.processed route kind = tally kind published
  failed : metrics.failed route = refused

/-- What was published and where it is, if events go by way of a queue: they were taken and then
processed or failed, or are in hand, or wait, or were left behind by a backend that went away. -/
structure InTurn (route : Route) (lane : Lane σ α) (forwarder : Forwarder α) (metrics : Metrics)
    (published : List (Event α)) : Prop where
  taken : metrics.processed route .create + metrics.processed route .delete +
    metrics.failed route = forwarder.handed.length
  along : ∃ lost, published = forwarder.handed ++ forwarder.inHand.toList ++ lane.queue ++ lost ∧
    (lane.isOpen = true → lost = [])
  opened : lane.isAlive = true → lane.isOpen = true

/-- The books of a channel. Of what was published some is `unheard`: its senders do not know yet
that it is through. -/
structure Books (transport : Transport) (route : Route) (lane : Lane σ α) (forwarder : Forwarder α)
    (metrics : Metrics) (published unheard : List (Event α)) (refused : Nat) : Prop where
  name : lane.name = route.channel
  emitted : ∀ kind, metrics.emitted route kind + tally kind unheard = tally kind published
  way : match transport with
    | .direct => AtOnce route lane forwarder metrics published refused
    | .queued => InTurn route lane forwarder metrics published

section Steps

variable {transport : Transport} {route : Route} {lane : Lane σ α} {forwarder : Forwarder α}
  {metrics : Metrics} {published unheard : List (Event α)} {refused : Nat}

theorem books_alike {after : Metrics} (alike : Metrics.Alike route metrics after)
    (books : Books transport route lane forwarder metrics published unheard refused) :
    Books transport route lane forwarder after published unheard refused := by
  refine ⟨books.name, fun kind => by rw [alike.emitted, books.emitted], ?_⟩
  have way := books.way
  cases transport with
  | direct =>
      exact ⟨way.empty, way.free, fun kind => by rw [alike.processed, way.processed],
        by rw [alike.failed, way.failed]⟩
  | queued =>
      exact ⟨by rw [alike.processed, alike.processed, alike.failed, way.taken], way.along,
        way.opened⟩

theorem books_unheard {rest : List (Event α)} (same : unheard.Perm rest)
    (books : Books transport route lane forwarder metrics published unheard refused) :
    Books transport route lane forwarder metrics published rest refused :=
  ⟨books.name, fun kind => by rw [← books.emitted kind, tally, tally, same.countP_eq], books.way⟩

theorem books_took
    (books : Books transport route lane forwarder metrics published unheard refused) :
    Books transport route (forwarder.take lane).1 (forwarder.take lane).2 metrics published unheard
      refused := by
  cases busy : forwarder.inHand with
  | some event => rwa [Forwarder.take_busy lane forwarder event busy]
  | none =>
      cases queued : lane.queue with
      | nil => rwa [Forwarder.take_empty lane forwarder queued]
      | cons event queue =>
          have way := books.way
          rw [Forwarder.take_next lane forwarder event queue busy queued]
          refine ⟨books.name, books.emitted, ?_⟩
          cases transport with
          | direct => cases queued.symm.trans way.empty
          | queued =>
              obtain ⟨lost, along, kept⟩ := way.along
              refine ⟨way.taken, ⟨lost, ?_, kept⟩, way.opened⟩
              rw [along, busy, queued]
              simp

/-- A backend that goes away changes nothing in the books yet. -/
theorem books_left
    (books : Books transport route lane forwarder metrics published unheard refused) :
    Books transport route { lane with isAlive := false } forwarder metrics published unheard
      refused := by
  have way := books.way
  refine ⟨books.name, books.emitted, ?_⟩
  cases transport with
  | direct => exact ⟨way.empty, way.free, way.processed, way.failed⟩
  | queued => exact ⟨way.taken, way.along, fun alive => by cases alive⟩

variable (isPlain : route.IsPlain)

include isPlain

/-- An event that its sender hears about is counted as emitted from then on. -/
theorem books_heard (event : Event α) {rest : List (Event α)}
    (books : Books transport route lane forwarder metrics published (event :: rest) refused) :
    Books transport route lane forwarder
      (metrics.bump (.eventsEmitted route.channel event.kind.name)) published rest refused := by
  obtain ⟨emitted, processed, failed⟩ := metrics.bump_emitted isPlain event.kind
  constructor
  · exact books.name
  · intro kind
    have before := books.emitted kind
    rw [← List.singleton_append, tally_append, tally_single] at before
    rw [emitted]
    omega
  · have way := books.way
    cases transport with
    | direct =>
        exact ⟨way.empty, way.free, fun kind => by rw [processed, way.processed],
          by rw [failed, way.failed]⟩
    | queued =>
        exact ⟨by rw [processed, processed, failed, way.taken], way.along, way.opened⟩

variable [Store σ α] (home : Store.domain σ = route.domain)

include home

/-- What is brought is published and not yet heard of if it came through, and else it is in the
books only if the backend refused it. -/
theorem books_brought {event : Event α} {next : Lane σ α} {counted : Metrics}
    {result : Except Failure Unit}
    (brings : Bus.Brings event lane metrics transport next counted result)
    (books : Books transport route lane forwarder metrics published unheard refused) :
    Books transport route next forwarder counted (published ++ through event result)
      (through event result ++ unheard) (refused + if isRefusal result then 1 else 0) := by
  have way := books.way
  have heard : ∀ kind, metrics.emitted route kind + tally kind ([event] ++ unheard) =
      tally kind (published ++ [event]) := by
    intro kind
    rw [tally_append, tally_append, ← books.emitted kind]
    omega
  cases brings with
  | accepted stored =>
      rw [home]
      obtain ⟨emitted, processed, failed⟩ := metrics.bump_processed isPlain event.kind
      refine ⟨books.name, fun kind => by rw [emitted]; exact heard kind, way.empty, way.free,
        fun kind => ?_, failed.trans way.failed⟩
      rw [processed, way.processed, through, tally_append, tally_single]
  | refused fault =>
      rw [home]
      obtain ⟨emitted, processed, failed⟩ := metrics.bump_failed isPlain fault
      refine ⟨books.name, fun kind => ?_, way.empty, way.free, fun kind => ?_, ?_⟩
      · rw [emitted, through, List.append_nil]
        exact books.emitted kind
      · rw [processed, through, List.append_nil]
        exact way.processed kind
      · rw [failed, way.failed]
        rfl
  | queued isOpen =>
      obtain ⟨lost, along, kept⟩ := way.along
      refine ⟨books.name, heard, way.taken, ⟨[], ?_, fun _ => rfl⟩, way.opened⟩
      rw [along, kept isOpen, through]
      simp
  | closed =>
      rw [through, List.append_nil]
      exact books

/-- The event in hand is taken by a backend that is there; one that is gone leaves it behind, with
all that waits. -/
theorem books_settled {next : Lane σ α} {counted : Metrics} {later : Forwarder α}
    (settles : Settles lane metrics forwarder next counted later)
    (books : Books transport route lane forwarder metrics published unheard refused) :
    Books transport route next later counted published unheard refused := by
  have way := books.way
  cases transport with
  | direct =>
      -- Nothing is ever in hand where events are handed over at once.
      cases settles with
      | idle => exact books
      | accepted event _ busy | refused event _ busy | left event busy =>
          cases busy.symm.trans way.free
  | queued =>
      obtain ⟨lost, along, kept⟩ := way.along
      cases settles with
      | idle => exact books
      | accepted event stored busy =>
          rw [home]
          obtain ⟨emitted, processed, failed⟩ := metrics.bump_processed isPlain event.kind
          refine ⟨books.name, fun kind => by rw [emitted, books.emitted], ?_, ⟨lost, ?_, kept⟩,
            way.opened⟩
          · rw [processed, processed, failed, List.length_append, ← way.taken]
            cases event.kind <;> simp <;> omega
          · rw [along, busy]
            simp
      | refused event fault busy =>
          rw [home]
          obtain ⟨emitted, processed, failed⟩ := metrics.bump_failed isPlain fault
          refine ⟨books.name, fun kind => by rw [emitted, books.emitted], ?_, ⟨lost, ?_, kept⟩,
            way.opened⟩
          · rw [processed, processed, failed, List.length_append, ← way.taken]
            rfl
          · rw [along, busy]
            simp
      | left event busy gone =>
          refine ⟨books.name, books.emitted, way.taken,
            ⟨event :: (lane.queue ++ lost), ?_, fun isOpen => by cases isOpen⟩, fun alive => ?_⟩
          · rw [along, busy]
            simp [Lane.close]
          · cases gone.symm.trans alive

end Steps

/-! ### Handing over and the backend -/

theorem take_isAlive (lane : Lane σ α) (forwarder : Forwarder α) :
    (forwarder.take lane).1.isAlive = lane.isAlive := by
  unfold Forwarder.take
  split <;> rfl

theorem settles_isAlive [Store σ α] {lane next : Lane σ α} {metrics counted : Metrics}
    {forwarder later : Forwarder α}
    (settles : Settles lane metrics forwarder next counted later) :
    next.isAlive = lane.isAlive := by
  cases settles <;> rfl

/-! ### What the books say of the counters -/

structure Metrics.Matched (metrics : Metrics) (route : Route) (refused : Nat) : Prop where
  processed : ∀ kind, metrics.emitted route kind = metrics.processed route kind
  failed : metrics.failed route = refused

/-- What was emitted was processed or failed, or is on its way. Some of it may be lost, but only if
the backend is gone; and what is unheard of was brought and is to be counted yet. -/
structure Metrics.Balanced (metrics : Metrics) (route : Route) (lane : Lane σ α)
    (forwarder : Forwarder α) (unheard : List (Event α)) : Prop where
  alive : lane.isAlive = true → unheard = [] →
    metrics.emitted route .create + metrics.emitted route .delete =
      metrics.processed route .create + metrics.processed route .delete + metrics.failed route +
        forwarder.load lane
  always : ∃ lost, metrics.emitted route .create + metrics.emitted route .delete + unheard.length =
      metrics.processed route .create + metrics.processed route .delete + metrics.failed route +
        forwarder.load lane + lost ∧
    (lane.isAlive = true → lost = 0)

section Counters

variable {route : Route} {lane : Lane σ α} {forwarder : Forwarder α} {metrics : Metrics}
  {published unheard : List (Event α)} {refused : Nat}

theorem books_start (transport : Transport) (route : Route) (store : σ)
    (none : ∀ counter, metrics.count counter = 0) :
    Books transport route ({ name := route.channel, store } : Lane σ α) {} metrics [] [] 0 := by
  have failed : metrics.failed route = 0 := by simp [Metrics.failed, Fault.kinds, none]
  refine ⟨rfl, fun kind => none _, ?_⟩
  cases transport with
  | direct => exact ⟨rfl, rfl, fun kind => none _, failed⟩
  | queued =>
      refine ⟨?_, ⟨[], rfl, fun _ => rfl⟩, fun _ => rfl⟩
      rw [failed, Metrics.processed, Metrics.processed, none, none]
      rfl

theorem books_matched
    (books : Books .direct route lane forwarder metrics published [] refused) :
    metrics.Matched route refused where
  processed kind := (books.emitted kind).trans (books.way.processed kind).symm
  failed := books.way.failed

theorem books_balanced
    (books : Books .queued route lane forwarder metrics published unheard refused) :
    metrics.Balanced route lane forwarder unheard := by
  have way := books.way
  obtain ⟨lost, along, kept⟩ := way.along
  have total : metrics.emitted route .create + metrics.emitted route .delete + unheard.length =
      metrics.processed route .create + metrics.processed route .delete + metrics.failed route +
        forwarder.load lane + lost.length := by
    calc metrics.emitted route .create + metrics.emitted route .delete + unheard.length
        = published.length := by
          rw [length_eq_tally published, ← books.emitted .create, ← books.emitted .delete,
            length_eq_tally unheard]
          omega
      _ = forwarder.handed.length + forwarder.load lane + lost.length := by
          rw [along, Forwarder.load]
          simp only [List.length_append]
          omega
      _ = _ := by rw [way.taken]
  have none (alive : lane.isAlive = true) : lost.length = 0 := by
    rw [kept (way.opened alive)]
    rfl
  refine ⟨fun alive heard => ?_, ⟨lost.length, total, none⟩⟩
  rw [none alive, heard] at total
  exact total

end Counters

/-! ### Counting for one route only -/

theorem brings_touched [Store σ α] (route : Route) (home : Store.domain σ = route.domain)
    {event : Event α} {lane next : Lane σ α} {metrics counted : Metrics} {transport : Transport}
    {result : Except Failure Unit}
    (brings : Bus.Brings event lane metrics transport next counted result) :
    Metrics.Touched route metrics counted := by
  cases brings with
  | accepted stored => exact .inr ⟨_, home ▸ route.processed_mem event.kind, rfl⟩
  | refused fault => exact .inr ⟨_, home ▸ route.failed_mem fault.kind fault.kind_mem, rfl⟩
  | queued isOpen => exact .inl rfl
  | closed => exact .inl rfl

theorem settles_touched [Store σ α] (route : Route) (home : Store.domain σ = route.domain)
    {lane next : Lane σ α} {metrics counted : Metrics} {forwarder later : Forwarder α}
    (settles : Settles lane metrics forwarder next counted later) :
    Metrics.Touched route metrics counted := by
  cases settles with
  | idle => exact .inl rfl
  | accepted event => exact .inr ⟨_, home ▸ route.processed_mem event.kind, rfl⟩
  | refused event fault => exact .inr ⟨_, home ▸ route.failed_mem fault.kind fault.kind_mem, rfl⟩
  | left => exact .inl rfl

end Roster
