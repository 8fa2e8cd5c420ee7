import Mathlib.Data.List.Nodup
import Roster.Proofs.PanelNames
import Roster.Reading

/-!
What becomes of a count. A counter goes up by one when its series is touched and stays as it
is otherwise; so whatever is done to breakers shows in their transitions alone.
-/

namespace Roster

namespace Metrics

theorem lookup_put {κ ν : Type} [BEq κ] [LawfulBEq κ] [DecidableEq κ] (key other : κ)
    (change : Option ν → ν) (entries : List (κ × ν)) :
    (put key change entries).lookup other =
      if other = key then some (change (entries.lookup key)) else entries.lookup other := by
  induction entries with
  | nil =>
      by_cases same : other = key
      · simp [put, same]
      · simp [put, same, List.lookup_cons, beq_eq_false_iff_ne.mpr same]
  | cons entry rest ih =>
      obtain ⟨first, value⟩ := entry
      by_cases isKey : first = key
      · subst isKey
        by_cases same : other = first
        · simp [put, same]
        · simp [put, same, List.lookup_cons, beq_eq_false_iff_ne.mpr same]
      · have later : (key == first) = false := beq_eq_false_iff_ne.mpr (Ne.symm isKey)
        rw [put, if_neg isKey]
        by_cases isFirst : other = first
        · have apart : other ≠ key := fun same => isKey (isFirst.symm.trans same)
          rw [if_neg apart, isFirst, List.lookup_cons_self, List.lookup_cons_self]
        · have test : (other == first) = false := beq_eq_false_iff_ne.mpr isFirst
          simpa only [List.lookup_cons, test, later] using ih

theorem count_bump (metrics : Metrics) (counter other : Counter) :
    (metrics.bump counter).count other =
      metrics.count other + if other.series = counter.series then 1 else 0 := by
  simp only [count, bump, lookup_put]
  by_cases same : other.series = counter.series
  · simp only [same, ↓reduceIte]
    cases metrics.counts.lookup counter.series <;> simp
  · simp only [same, ↓reduceIte, Nat.add_zero]

theorem count_bump_family (metrics : Metrics) (counter other : Counter)
    (apart : other.family ≠ counter.family) :
    (metrics.bump counter).count other = metrics.count other := by
  have distinct : other.series ≠ counter.series := fun same => apart (congrArg Prod.fst same)
  rw [count_bump, if_neg distinct, Nat.add_zero]

theorem count_transition (metrics : Metrics) (name : String) (source target : Phase)
    (counter : Counter) (apart : counter.family ≠ "circuit_breaker_transitions_total") :
    (metrics.transition name source target).count counter = metrics.count counter := by
  unfold transition
  split
  · rfl
  · exact count_bump_family metrics _ counter apart

end Metrics

namespace Panel

variable (panel : Panel) (counter : Counter)
  (apart : counter.family ≠ "circuit_breaker_transitions_total")

theorem count_count (other : Counter) :
    (panel.count counter).metrics.count other =
      panel.metrics.count other + if other.series = counter.series then 1 else 0 :=
  panel.metrics.count_bump counter other

include apart

theorem count_replace (place : Nat) (switch : Switch) (next : Breaker) :
    (panel.replace place switch next).metrics.count counter = panel.metrics.count counter := by
  unfold replace
  split
  · exact Metrics.count_transition _ _ _ _ counter apart
  · rfl

theorem count_update (place : Nat) (change : BreakerPolicy → Breaker → Breaker) :
    (panel.update place change).metrics.count counter = panel.metrics.count counter := by
  unfold update
  split
  · rfl
  · exact count_replace panel counter apart place _ _

theorem count_enter (place now : Nat) :
    (panel.enter place now).1.metrics.count counter = panel.metrics.count counter := by
  unfold enter
  split
  · rfl
  · exact count_replace panel counter apart place _ _

theorem count_conclude {ε α : Type} (place now : Nat) (isTransient : ε → Bool)
    (answer : Except ε α) :
    (panel.conclude place now isTransient answer).metrics.count counter =
      panel.metrics.count counter := by
  cases answer with
  | ok value => exact count_update panel counter apart place _
  | error failure =>
      simp only [conclude]
      split <;> exact count_update panel counter apart place _

end Panel

/-!
The counters of requests and of events. Each of their labels comes from a short list, and no two of
these counters run together to one series; so each goes up by what is counted under its own labels
and by nothing else. Reads are timed as well, and each of their durations is kept with those of the
same outcome.
-/

namespace Fault

def kinds : List String :=
  ["not_found", "invalid_payload", "backend_unavailable", "event_processing"]

theorem kind_mem (fault : Fault) : fault.kind ∈ kinds := by
  cases fault <;> simp [kind, kinds]

end Fault

def Composite.operations : List String := ["create", "get", "delete"]

def outcomes : List String := "success" :: Fault.kinds

theorem outcomeLabel_mem {α : Type} (result : Except Fault α) : outcomeLabel result ∈ outcomes := by
  cases result with
  | ok value => exact List.mem_cons_self
  | error fault => exact List.mem_cons_of_mem _ fault.kind_mem

namespace Counter

def ofRequests : List Counter :=
  Composite.operations.flatMap fun operation => outcomes.map (compositeRequests operation)

def ofChannel (channel domain : String) : List Counter :=
  [.eventsEmitted channel "CREATE", .eventsEmitted channel "DELETE",
    .eventsProcessed domain "CREATE", .eventsProcessed domain "DELETE"] ++
    Fault.kinds.map (eventsFailed domain)

def plain : List Counter :=
  ofRequests ++ (ofChannel "organizations" "organization" ++ ofChannel "members" "member")

theorem series_distinct : (plain.map series).Nodup := by decide +kernel

theorem series_plain (one other : Counter) (first : one ∈ plain) (second : other ∈ plain) :
    one.series = other.series ↔ one = other :=
  ⟨fun same => List.inj_on_of_nodup_map series_distinct first second same, congrArg series⟩

theorem mem_ofRequests (operation outcome : String) (asked : operation ∈ Composite.operations)
    (told : outcome ∈ outcomes) : compositeRequests operation outcome ∈ ofRequests :=
  List.mem_flatMap.mpr ⟨operation, asked, List.mem_map_of_mem told⟩

end Counter

namespace Metrics

/-- A plain counter goes up when it is touched itself, and only then. -/
theorem count_bump_plain (metrics : Metrics) (counter other : Counter)
    (first : counter ∈ Counter.plain) (second : other ∈ Counter.plain) :
    (metrics.bump counter).count other =
      metrics.count other + if other = counter then 1 else 0 := by
  rw [count_bump]
  simp only [Counter.series_plain other counter second first]

/-- One more request was finished than there were before, and nothing else is counted. -/
structure OneMoreRequest (operation outcome : String) (before after : Metrics) : Prop where
  requests : ∀ asked ∈ Composite.operations, ∀ told ∈ outcomes,
    after.count (.compositeRequests asked told) = before.count (.compositeRequests asked told) +
      if asked = operation ∧ told = outcome then 1 else 0
  others : ∀ counter : Counter, counter.family ≠ "composite_requests_total" →
    after.count counter = before.count counter

theorem oneMoreRequest_bump (metrics : Metrics) (operation outcome : String)
    (asked : operation ∈ Composite.operations) (told : outcome ∈ outcomes) :
    OneMoreRequest operation outcome metrics
      (metrics.bump (.compositeRequests operation outcome)) where
  requests := by
    intro other mem label within
    rw [count_bump_plain]
    · simp only [Counter.compositeRequests.injEq]
    · exact List.mem_append_left _ (Counter.mem_ofRequests operation outcome asked told)
    · exact List.mem_append_left _ (Counter.mem_ofRequests other label mem within)
  others counter apart := metrics.count_bump_family _ counter apart

def timedReads (metrics : Metrics) (outcome : String) : Nat :=
  (metrics.readDurations.lookup outcome).elim 0 Histogram.count

/-- One more read was finished than before and was timed once, both under its outcome, and nothing
else is counted. -/
structure OneMoreRead (outcome : String) (seconds : Number.Double) (before after : Metrics) :
    Prop where
  request : OneMoreRequest "get" outcome before after
  timed : ∀ label, after.timedReads label =
    before.timedReads label + if label = outcome then 1 else 0
  observed : ∀ label, after.readDurations.lookup label =
    if label = outcome then
      some (((before.readDurations.lookup outcome).getD Histogram.empty).observe seconds)
    else before.readDurations.lookup label

theorem oneMoreRead_counted (metrics : Metrics) (outcome : String) (seconds : Number.Double)
    (told : outcome ∈ outcomes) : OneMoreRead outcome seconds metrics
      ((metrics.observeRead outcome seconds).bump (.compositeRequests "get" outcome)) := by
  have observed : ∀ label, ((metrics.observeRead outcome seconds).bump
      (.compositeRequests "get" outcome)).readDurations.lookup label =
        if label = outcome then
          some (((metrics.readDurations.lookup outcome).getD Histogram.empty).observe seconds)
        else metrics.readDurations.lookup label :=
    fun label => lookup_put outcome label _ metrics.readDurations
  have request := oneMoreRequest_bump (metrics.observeRead outcome seconds) "get" outcome
    (by simp [Composite.operations]) told
  refine ⟨⟨request.requests, request.others⟩, fun label => ?_, observed⟩
  rw [timedReads, observed, timedReads]
  by_cases same : label = outcome
  · subst same
    cases metrics.readDurations.lookup label <;> simp [Histogram.observe, Histogram.empty]
  · simp [same]

end Metrics
end Roster
