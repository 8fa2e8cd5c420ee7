import Roster.Proofs.WireRecords
import Roster.Relay

/-!
Publishing to a topic, one event after the other. Every event is either sent once, and then its
answer is what the send came to, or it is kept back by the breaker. The broker is whatever takes
records; what is known of it is that its topic grows by a record if and only if it took it.
-/

namespace Roster.Channel

open Json (Wire)
open Json.Wire (Lossless)

def succeeded {γ ε : Type} (rows : List (γ × Except ε Unit)) : List γ :=
  rows.filterMap fun (item, result) => result.toOption.map fun _ => item

theorem succeeded_append {γ ε : Type} (rows more : List (γ × Except ε Unit)) :
    succeeded (rows ++ more) = succeeded rows ++ succeeded more := List.filterMap_append

/-- An event to publish: how long after the answer to the one before, and what happens to the
breakers in between. -/
structure Errand (α : Type) where
  event : Event α
  pause : Nat := 0
  meanwhile : Panel → Panel := id

structure Reply where
  admitted : Bool
  answer : Except Failure Unit

namespace Publisher

variable {α β : Type}

/-- A topic, as `log` sees it, gains a record exactly if it is taken. -/
structure Keeps (send : Send β) (log : β → List Record) : Prop where
  taken : ∀ record broker, (send record broker).2.value = .ok () →
    log (send record broker).1 = log broker ++ [record]
  missed : ∀ record broker reason, (send record broker).2.value = .error reason →
    log (send record broker).1 = log broker

def recorded (send : Send β) : Send (β × List (Record × Except String Unit)) :=
  fun record state =>
    let (broker, sent) := send record state.1
    ((broker, state.2 ++ [(record, sent.value)]), sent)

variable [Wire α] (publisher : Publisher)

def publishAll (send : Send β) : List (Errand α) → Nat → Panel → β → List Reply × β
  | [], _, _, broker => ([], broker)
  | errand :: rest, now, panel, broker =>
    let now := now + errand.pause
    let panel := errand.meanwhile panel
    let admitted := (panel.enter publisher.place now).2
    let (panel, broker, answer) := publisher.publish send now errand.event panel broker
    let (replies, broker) := publishAll send rest (now + answer.after) panel broker
    (⟨admitted, answer.value⟩ :: replies, broker)

/-- What a row of publishes has to do with the sends it makes: a refused publish makes none, any
other one, and then the answer is that of the send. -/
inductive Accounted (topic : String) :
    List (Event α) → List Reply → List (Record × Except String Unit) → Prop where
  | done : Accounted topic [] [] []
  | refused (event : Event α) (events : List (Event α)) (replies : List Reply)
      (sends : List (Record × Except String Unit)) (rest : Accounted topic events replies sends) :
      Accounted topic (event :: events)
        (⟨false, .error (.publish topic "circuit breaker open")⟩ :: replies) sends
  | sent (event : Event α) (outcome : Except String Unit) (events : List (Event α))
      (replies : List Reply) (sends : List (Record × Except String Unit))
      (rest : Accounted topic events replies sends) :
      Accounted topic (event :: events)
        (⟨true, outcome.mapError (.publish topic)⟩ :: replies)
        ((.ofEvent topic event, outcome) :: sends)

section Publish

variable (send : Send β) (now : Nat) (event : Event α) (panel : Panel) (broker : β)

theorem publish_refused (refused : (panel.enter publisher.place now).2 = false) :
    publisher.publish send now event panel broker =
      ((panel.enter publisher.place now).1, broker,
        .now (.error (.publish publisher.topic "circuit breaker open"))) := by
  simp [publish, refused]

theorem publish_admitted (admitted : (panel.enter publisher.place now).2 = true) :
    let taken := send (.ofEvent publisher.topic event) broker
    ∃ left, publisher.publish send now event panel broker =
      (left, taken.1, taken.2.map fun outcome => outcome.mapError (.publish publisher.topic)) := by
  simp only [publish, admitted]
  exact ⟨_, rfl⟩

end Publish

theorem publishAll_accounted (send : Send β) (errands : List (Errand α)) (now : Nat)
    (panel : Panel) (state : β × List (Record × Except String Unit)) :
    let row := publisher.publishAll (recorded send) errands now panel state
    ∃ sends, row.2.2 = state.2 ++ sends ∧
      Accounted publisher.topic (errands.map Errand.event) row.1 sends := by
  induction errands generalizing now panel state with
  | nil => exact ⟨[], (List.append_nil _).symm, .done⟩
  | cons errand rest ih =>
      simp only [publishAll]
      cases asked : ((errand.meanwhile panel).enter publisher.place (now + errand.pause)).2 with
      | false =>
          rw [publish_refused publisher (recorded send) _ errand.event _ state asked]
          obtain ⟨sends, grown, accounted⟩ := ih (now + errand.pause + 0) _ state
          exact ⟨sends, grown, .refused _ _ _ _ accounted⟩
      | true =>
          obtain ⟨left, published⟩ :=
            publish_admitted publisher (recorded send) _ errand.event _ state asked
          rw [published]
          obtain ⟨sends, grown, accounted⟩ := ih _ left _
          refine ⟨_ :: sends, ?_, .sent _ _ _ _ _ accounted⟩
          exact grown.trans (List.append_assoc _ _ _)

theorem recorded_log (send : Send β) (log : β → List Record) (keeps : Keeps send log)
    (record : Record) (state : β × List (Record × Except String Unit)) (before : List Record)
    (known : log state.1 = before ++ succeeded state.2) :
    log (recorded send record state).1.1 = before ++ succeeded (recorded send record state).1.2 := by
  obtain ⟨broker, sends⟩ := state
  change log (send record broker).1 =
    before ++ succeeded (sends ++ [(record, (send record broker).2.value)])
  rw [succeeded_append, ← List.append_assoc, ← known]
  cases outcome : (send record broker).2.value with
  | ok done => exact keeps.taken record broker outcome
  | error reason =>
      rw [keeps.missed record broker reason outcome]
      exact (List.append_nil _).symm

theorem publishAll_log (send : Send β) (log : β → List Record) (keeps : Keeps send log)
    (errands : List (Errand α)) (now : Nat) (panel : Panel)
    (state : β × List (Record × Except String Unit)) (before : List Record)
    (known : log state.1 = before ++ succeeded state.2) :
    let row := publisher.publishAll (recorded send) errands now panel state
    log row.2.1 = before ++ succeeded row.2.2 := by
  induction errands generalizing now panel state with
  | nil => exact known
  | cons errand rest ih =>
      simp only [publishAll]
      cases asked : ((errand.meanwhile panel).enter publisher.place (now + errand.pause)).2 with
      | false =>
          rw [publish_refused publisher (recorded send) _ errand.event _ state asked]
          exact ih _ _ state known
      | true =>
          obtain ⟨left, published⟩ :=
            publish_admitted publisher (recorded send) _ errand.event _ state asked
          rw [published]
          exact ih _ left _ (recorded_log send log keeps _ state before known)

theorem Accounted.succeeded_sends {topic : String} {events : List (Event α)}
    {replies : List Reply} {sends : List (Record × Except String Unit)}
    (accounted : Accounted topic events replies sends) :
    succeeded sends =
      (succeeded (events.zip (replies.map Reply.answer))).map (Record.ofEvent topic) := by
  induction accounted with
  | done => rfl
  | refused event events replies sends rest ih => exact ih
  | sent event outcome events replies sends rest ih =>
      cases outcome with
      | ok done => exact congrArg (_ :: ·) ih
      | error reason => exact ih

end Publisher
end Roster.Channel

/-!
From the publisher of a topic to the backend behind its consumer. The topic holds what the
broker took of the publisher's own records, in order, and among them whatever others put there
and whatever goes wrong in receiving. The consumer hands over the events in it, each once and in
order, and never stops as long as its backend is there.
-/

namespace Roster

variable {σ α : Type} [Store σ α]

def Store.processAll (events : List (Event α)) (store : σ) (metrics : Metrics) : σ × Metrics :=
  events.foldl (fun (store, metrics) event =>
    let (store, metrics, _) := Store.process event store metrics
    (store, metrics)) (store, metrics)

theorem Store.processAll_append (events more : List (Event α)) (store : σ) (metrics : Metrics) :
    Store.processAll (events ++ more) store metrics =
      let (store, metrics) := Store.processAll events store metrics
      Store.processAll more store metrics := by
  rw [processAll, List.foldl_append]
  rfl

namespace Channel

open Json (Wire)
open Json.Wire (Lossless)

def Delivery.events [Wire α] (deliveries : List Delivery) : List (Event α) :=
  deliveries.filterMap Delivery.event?

def Delivery.failures (deliveries : List Delivery) : Nat := deliveries.count .failure

/-- An accepted event comes back out of its record as it was. -/
theorem event_ofEvent [Wire α] [Lossless α] (topic : String) (event : Event α) :
    (Delivery.record (some (Record.ofEvent topic event).payload)).event? = some event := by
  change (Event.receive (Wire.encode event) : Except Fault (Event α)).toOption = some event
  rw [Event.receive_encode]
  rfl

namespace Consumer

variable [Wire α]

structure Ready (consumer : Consumer σ) : Prop where
  alive : consumer.isAlive = true
  running : consumer.isRunning = true

/-- What a consumer has become after it took deliveries. -/
structure Took (deliveries : List Delivery) (before : Consumer σ) (counted : Metrics)
    (after : Consumer σ) (metrics : Metrics) : Prop where
  ready : after.Ready
  handed : (after.store, metrics) =
    Store.processAll (Delivery.events deliveries) before.store counted

variable (consumer : Consumer σ) (metrics : Metrics)

theorem took_nothing (ready : consumer.Ready) : Took [] consumer metrics consumer metrics :=
  ⟨ready, rfl⟩

theorem took_append (deliveries more : List Delivery) (next after : Consumer σ)
    (counted later : Metrics) (first : Took deliveries consumer metrics next counted)
    (second : Took more next counted after later) :
    Took (deliveries ++ more) consumer metrics after later := by
  refine ⟨second.ready, ?_⟩
  rw [Delivery.events, List.filterMap_append, Store.processAll_append]
  have handed := first.handed
  rw [Delivery.events] at handed
  rw [← handed]
  exact second.handed

/-- One delivery, whatever it is, is taken without stopping; only a failure of the broker makes
the next one wait. -/
theorem take_took (now : Nat) (delivery : Delivery) (ready : consumer.Ready) :
    Took [delivery] consumer metrics (consumer.take now delivery metrics).1
        (consumer.take now delivery metrics).2 ∧
      (consumer.take now delivery metrics).1.due =
        if delivery = .failure then now + pause else consumer.due := by
  by_cases failed : delivery = .failure
  · subst failed
    rw [take, if_pos rfl, if_pos rfl]
    exact ⟨⟨⟨ready.alive, ready.running⟩, rfl⟩, rfl⟩
  rw [take, if_neg failed, if_neg failed]
  cases found : (delivery.event? : Option (Event α)) with
  | none =>
      refine ⟨⟨ready, ?_⟩, rfl⟩
      simp [Delivery.events, found, Store.processAll]
  | some event =>
      dsimp only
      rw [if_pos ready.alive]
      refine ⟨⟨⟨ready.alive, ready.running⟩, ?_⟩, rfl⟩
      simp [Delivery.events, found, Store.processAll]

theorem takeAll_next (now limit : Nat) (delivery : Delivery) (rest : List Delivery)
    (ready : consumer.Ready) (inTime : max now consumer.due < limit) :
    consumer.takeAll now limit (delivery :: rest) metrics =
      (consumer.take (max now consumer.due) delivery metrics).1.takeAll now limit rest
        (consumer.take (max now consumer.due) delivery metrics).2 := by
  simp [takeAll, ready.running, inTime]

theorem takeAll_waiting (now limit : Nat) (delivery : Delivery) (rest : List Delivery)
    (waiting : ¬max now consumer.due < limit) :
    consumer.takeAll now limit (delivery :: rest) metrics =
      ({ consumer with pending := delivery :: rest }, metrics) := by
  simp [takeAll, waiting]

/-- Deliveries are taken in order up to some point, and to the end if there is time enough: only
failures of the broker take time. -/
theorem takeAll_took (now limit : Nat) (deliveries : List Delivery) (ready : consumer.Ready) :
    let left := consumer.takeAll now limit deliveries metrics
    ∃ taken rest, deliveries = taken ++ rest ∧ left.1.pending = rest ∧
      Took taken consumer metrics left.1 left.2 ∧
      left.1.due ≤ max consumer.due (limit + pause) ∧
      (max now consumer.due + pause * Delivery.failures deliveries < limit → rest = []) := by
  induction deliveries generalizing consumer metrics with
  | nil =>
      exact ⟨[], [], rfl, rfl, ⟨⟨ready.alive, ready.running⟩, rfl⟩, Nat.le_max_left _ _, fun _ => rfl⟩
  | cons delivery rest ih =>
      by_cases inTime : max now consumer.due < limit
      · obtain ⟨took, due⟩ := take_took consumer metrics (max now consumer.due) delivery ready
        rw [takeAll_next consumer metrics now limit delivery rest ready inTime]
        obtain ⟨taken, left, split, pending, tookMore, late, enough⟩ := ih _ _ took.ready
        refine ⟨delivery :: taken, left, congrArg _ split, pending,
          took_append consumer metrics [delivery] taken _ _ _ _ took tookMore, ?_, ?_⟩
        · rw [due] at late
          split at late <;> omega
        · intro time
          apply enough
          rw [due]
          by_cases failed : delivery = .failure
          · subst failed
            simp only [Delivery.failures, List.count_cons_self, Nat.mul_add] at time
            simp only [if_true, Delivery.failures]
            omega
          · have same : Delivery.failures (delivery :: rest) = Delivery.failures rest :=
              List.count_cons_of_ne failed
            rw [if_neg failed, ← same]
            exact time
      · rw [takeAll_waiting consumer metrics now limit delivery rest inTime]
        refine ⟨[], delivery :: rest, rfl, rfl, ⟨⟨ready.alive, ready.running⟩, rfl⟩,
          Nat.le_max_left _ _, ?_⟩
        intro time
        omega

end Consumer

/-- What stands in a topic: a record that one publisher sent, or anything else there is to
receive, be it a record of others or a failure. -/
inductive Entry where
  | own (record : Record)
  | foreign (delivery : Delivery)
deriving DecidableEq, Repr

namespace Entry

def delivery : Entry → Delivery
  | .own record => .record (some record.payload)
  | .foreign delivery => delivery

def own? : Entry → Option Record
  | .own record => some record
  | .foreign _ => none

end Entry

structure Arrival where
  entries : List Entry
  duration : Nat
deriving Repr

namespace Arrival

def entriesOf (arrivals : List Arrival) : List Entry := arrivals.flatMap Arrival.entries

end Arrival

namespace Consumer

variable [Wire α]

def follow : List Arrival → Nat → Consumer σ → Metrics → Nat × Consumer σ × Metrics
  | [], now, consumer, metrics => (now, consumer, metrics)
  | arrival :: rest, now, consumer, metrics =>
    let pending := consumer.pending ++ arrival.entries.map Entry.delivery
    let (consumer, metrics) :=
      ({ consumer with pending } : Consumer σ).run now (now + arrival.duration) metrics
    follow rest (now + arrival.duration) consumer metrics

/-- In the course of time a consumer takes a growing part of its topic from the front, and
the rest waits for it. It never waits longer than for one pause. -/
theorem follow_took (arrivals : List Arrival) (now : Nat) (consumer : Consumer σ)
    (metrics : Metrics) (ready : consumer.Ready) (timely : consumer.due ≤ now + pause) :
    let reached := follow arrivals now consumer metrics
    ∃ taken, consumer.pending ++ (Arrival.entriesOf arrivals).map Entry.delivery =
        taken ++ reached.2.1.pending ∧
      Took taken consumer metrics reached.2.1 reached.2.2 ∧
      reached.2.1.due ≤ reached.1 + pause := by
  induction arrivals generalizing now consumer metrics with
  | nil => exact ⟨[], List.append_nil _, took_nothing consumer metrics ready, timely⟩
  | cons arrival rest ih =>
      let waiting : Consumer σ :=
        { consumer with pending := consumer.pending ++ arrival.entries.map Entry.delivery }
      obtain ⟨first, left, split, pending, took, late, _⟩ :=
        waiting.takeAll_took metrics now (now + arrival.duration) waiting.pending
          ⟨ready.alive, ready.running⟩
      obtain ⟨more, splitMore, tookMore, lateMore⟩ := ih (now + arrival.duration)
        (waiting.run now (now + arrival.duration) metrics).1
        (waiting.run now (now + arrival.duration) metrics).2 took.ready (by
          have due : waiting.due = consumer.due := rfl
          rw [due] at late
          exact Nat.le_trans late (by omega))
      refine ⟨first ++ more, ?_, ?_, lateMore⟩
      · change (waiting.run now (now + arrival.duration) metrics).1.pending = left at pending
        change waiting.pending = _ at split
        rw [pending] at splitMore
        rw [Arrival.entriesOf, List.flatMap_cons, List.map_append, ← List.append_assoc]
        change waiting.pending ++ (Arrival.entriesOf rest).map Entry.delivery = _
        rw [split, List.append_assoc, splitMore, ← List.append_assoc]
        rfl
      · exact took_append consumer metrics first more _ _ _ _ ⟨took.ready, took.handed⟩ tookMore

/-- A consumer that is left alone has soon taken what its topic still has for it. -/
theorem run_took (now : Nat) (consumer : Consumer σ) (metrics : Metrics) (ready : consumer.Ready)
    (timely : consumer.due ≤ now + pause) :
    let enough := pause * (Delivery.failures consumer.pending + 1) + 1
    let later := consumer.run now (now + enough) metrics
    later.1.pending = [] ∧ Took consumer.pending consumer metrics later.1 later.2 := by
  intro enough later
  obtain ⟨taken, rest, split, pending, took, _, finished⟩ :=
    consumer.takeAll_took metrics now (now + enough) consumer.pending ready
  have none : rest = [] := by
    apply finished
    have bound : enough = pause * Delivery.failures consumer.pending + pause + 1 := by
      rw [← Nat.mul_succ]
    omega
  rw [none] at pending
  rw [none, List.append_nil] at split
  rw [← split] at took
  exact ⟨pending, took⟩

end Consumer

theorem events_ofEvent [Wire α] [Lossless α] (topic : String) (events : List (Event α)) :
    (events.map (Record.ofEvent topic)).map
      (fun record => (Delivery.record (some record.payload)).event?) = events.map some := by
  rw [List.map_map]
  exact List.map_congr_left fun event _ => event_ofEvent topic event

/-- A publish of a row is either refused by the breaker, and then nothing is sent, or sent once
and answered as the send was. What the topic gains by it are the records of the accepted events,
in order. Whatever else stands between them in the topic, and however it comes in, the consumer
hands over the events of a growing part of it, each once and in order, is ready to go on all the
time, and after some time without further arrivals has handed over them all; the accepted events
are among them as they were published. -/
theorem accepted_events_arrive {β : Type} [Wire α] [Lossless α] (send : Publisher.Send β)
    (log : β → List Record) (keeps : Publisher.Keeps send log) (publisher : Publisher)
    (errands : List (Errand α)) (began : Nat) (panel : Panel) (broker : β) :
    let row := publisher.publishAll (Publisher.recorded send) errands began panel (broker, [])
    let events := errands.map Errand.event
    let accepted := succeeded (events.zip (row.1.map Reply.answer))
    Publisher.Accounted publisher.topic events row.1 row.2.2 ∧
      log row.2.1 = log broker ++ accepted.map (Record.ofEvent publisher.topic) ∧
      ∀ (arrivals : List Arrival) (store : σ) (metrics : Metrics) (now : Nat),
        let entries := Arrival.entriesOf arrivals
        let reached := Consumer.follow arrivals now { store } metrics
        let enough := Consumer.pause * (Delivery.failures reached.2.1.pending + 1) + 1
        let later := reached.2.1.run reached.1 (reached.1 + enough) reached.2.2
        (∃ taken, entries.map Entry.delivery = taken ++ reached.2.1.pending ∧
          Consumer.Took taken { store } metrics reached.2.1 reached.2.2) ∧
        later.1.pending = [] ∧
        Consumer.Took (entries.map Entry.delivery) { store } metrics later.1 later.2 ∧
        (log row.2.1 = log broker ++ entries.filterMap Entry.own? →
          (entries.filterMap Entry.own?).map
            (fun record => (Delivery.record (some record.payload)).event?) =
              accepted.map some) := by
  intro row events accepted
  obtain ⟨sends, made, accounted⟩ := publisher.publishAll_accounted send errands began panel
    (broker, [])
  have gained := publisher.publishAll_log send log keeps errands began panel (broker, [])
    (log broker) (List.append_nil _).symm
  have sent : row.2.2 = sends := made
  have grown : log row.2.1 =
      log broker ++ accepted.map (Record.ofEvent publisher.topic) := by
    refine gained.trans (congrArg (log broker ++ ·) ?_)
    rw [sent]
    exact accounted.succeeded_sends
  refine ⟨sent ▸ accounted, grown, ?_⟩
  intro arrivals store metrics now entries reached enough later
  obtain ⟨taken, split, took, timely⟩ :=
    Consumer.follow_took arrivals now { store } metrics ⟨rfl, rfl⟩ (Nat.zero_le _)
  obtain ⟨finished, tookRest⟩ := Consumer.run_took reached.1 reached.2.1 reached.2.2
    took.ready timely
  have all : entries.map Entry.delivery = taken ++ reached.2.1.pending := split
  refine ⟨⟨taken, all, took⟩, finished, ?_, ?_⟩
  · rw [all]
    exact Consumer.took_append _ _ taken _ _ _ _ _ took tookRest
  · intro holds
    rw [List.append_cancel_left (holds.symm.trans grown)]
    exact events_ofEvent publisher.topic accepted

def scripted : Publisher.Send (List Record × List (Timed (Except String Unit))) :=
  fun record (log, script) =>
    match script with
    | [] => ((log, []), .now (.error "gone"))
    | ⟨after, .ok ()⟩ :: rest => ((log ++ [record], rest), ⟨after, .ok ()⟩)
    | ⟨after, .error reason⟩ :: rest => ((log, rest), ⟨after, .error reason⟩)

theorem scripted_keeps : Publisher.Keeps scripted Prod.fst where
  taken := by
    rintro record ⟨log, script⟩ sent
    match script with
    | [] => cases sent
    | ⟨after, .ok ()⟩ :: rest => rfl
    | ⟨after, .error reason⟩ :: rest => cases sent
  missed := by
    rintro record ⟨log, script⟩ reason failed
    match script with
    | [] => rfl
    | ⟨after, .ok ()⟩ :: rest => cases failed
    | ⟨after, .error reason⟩ :: rest => rfl

/-- Of two events one is taken, and it arrives between a failure and a record without payload. -/
theorem arrived_among_failures :
    let organization : Organization := ⟨7, "n", "c", ""⟩
    let created : Event Organization := .creating 7 organization default
    let errands : List (Errand Organization) := [{ event := created },
      { event := .deleting 7 default, pause := 10 }]
    let script : List (Timed (Except String Unit)) := [⟨3, .ok ()⟩, ⟨5, .error "down"⟩]
    let installed := Publisher.install "organizations" {}
    let row := installed.2.publishAll (Publisher.recorded scripted) errands 0 installed.1
      (([], script), [])
    let arrivals : List Arrival := [⟨[.foreign .failure,
      .own (Record.ofEvent "organizations" created), .foreign (.record none)], 100⟩]
    let reached := Consumer.follow arrivals 20 ({ store := ⟨"here", []⟩ } : Consumer Organizations) {}
    let enough := Consumer.pause * (Delivery.failures reached.2.1.pending + 1) + 1
    let later := reached.2.1.run reached.1 (reached.1 + enough) reached.2.2
    row.1.map Reply.answer = [.ok (), .error (.publish "organizations" "down")] ∧
      row.2.1.1 = [Record.ofEvent "organizations" created] ∧
      later.1.store.records = [organization] ∧ later.1.pending = [] := by
  intro organization created errands script installed row arrivals reached enough later
  obtain ⟨_, grown, arrives⟩ := @accepted_events_arrive Organizations Organization _ _ _ _ scripted
    Prod.fst scripted_keeps installed.2 errands 0 installed.1 ([], script)
  obtain ⟨_, finished, took, _⟩ := arrives arrivals ⟨"here", []⟩ {} 20
  have own := event_ofEvent "organizations" created
  have events : (Delivery.events ((Arrival.entriesOf arrivals).map Entry.delivery) :
      List (Event Organization)) = [created] := by
    simp only [Delivery.events, arrivals, Arrival.entriesOf, List.flatMap_cons, List.flatMap_nil,
      List.append_nil, List.map_cons, List.map_nil, Entry.delivery, List.filterMap_cons, own]
    rfl
  have handed := took.handed
  rw [events] at handed
  refine ⟨rfl, grown, ?_, ?_⟩
  · have applied : (Store.processAll [created] (⟨"here", []⟩ : Organizations) {}).1.records =
        [organization] := rfl
    rw [← applied, ← handed]
  · with_reducible exact finished

end Channel
end Roster
