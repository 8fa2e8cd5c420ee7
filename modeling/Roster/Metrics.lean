import Roster.Breaker
import Roster.Number.Double

/-!
What a process counts about itself: requests and how long reads took, fallbacks,
attempts, the phases of breakers, and events. A counter that was never touched
is absent; the counts of one are the number of times it was. Counters of one
family whose label values run together to the same text are one: it keeps the
labels that it was first touched with.
-/

namespace Roster

open Number (Double)

inductive Counter where
  | compositeRequests (operation outcome : String)
  | fallbacksServed (breaker : String)
  | retryAttempts (operation : String) (attempt : Nat)
  | retrySuccess (operation : String)
  | retryFailure (operation : String)
  | breakerTransitions (breaker source target : String)
  | eventsEmitted (channel kind : String)
  | eventsProcessed (domain kind : String)
  | eventsFailed (domain reason : String)
deriving DecidableEq, Repr

namespace Counter

def family : Counter → String
  | .compositeRequests .. => "composite_requests_total"
  | .fallbacksServed _ => "fallbacks_served_total"
  | .retryAttempts .. => "retry_attempts_total"
  | .retrySuccess _ => "retry_success_total"
  | .retryFailure _ => "retry_failure_total"
  | .breakerTransitions .. => "circuit_breaker_transitions_total"
  | .eventsEmitted .. => "events_emitted_total"
  | .eventsProcessed .. => "events_processed_total"
  | .eventsFailed .. => "events_failed_total"

def labels : Counter → List (String × String)
  | .compositeRequests operation outcome => [("operation", operation), ("outcome", outcome)]
  | .fallbacksServed breaker => [("breaker", breaker)]
  | .retryAttempts operation attempt =>
    [("operation", operation), ("attempt", toString attempt)]
  | .retrySuccess operation => [("operation", operation)]
  | .retryFailure operation => [("operation", operation)]
  | .breakerTransitions breaker source target =>
    [("breaker", breaker), ("from_state", source), ("to_state", target)]
  | .eventsEmitted channel kind => [("channel", channel), ("kind", kind)]
  | .eventsProcessed domain kind => [("domain", domain), ("kind", kind)]
  | .eventsFailed domain reason => [("domain", domain), ("reason", reason)]

/-- What counters are told apart by: the family, and the values of the labels run
together. The library keeps only 64 bits of a hash of these; that no two different
ones come to the same 64 bits is taken for granted here. -/
def series (counter : Counter) : String × String :=
  (counter.family, String.join (counter.labels.map (·.2)))

end Counter

/-- How observed values spread: how many are at most each bound, how many there
are, and their sum. -/
structure Histogram where
  within : List Nat
  count : Nat
  sum : Double
deriving Repr

namespace Histogram

def bounds : List Double :=
  [Double.ofRatio false 5 1000, Double.ofRatio false 1 100, Double.ofRatio false 5 100,
    Double.ofRatio false 1 10, Double.ofRatio false 5 10, Double.ofNat 1,
    Double.ofRatio false 25 10, Double.ofNat 5, Double.ofNat 10]

def empty : Histogram := ⟨bounds.map fun _ => 0, 0, Double.zero⟩

def observe (histogram : Histogram) (value : Double) : Histogram where
  within := histogram.within.zipWith
    (fun n bound => if value.le bound then n + 1 else n) bounds
  count := histogram.count + 1
  sum := histogram.sum.add value

end Histogram

/-- What is counted can be read in two ways: `Metrics.count` asks for a counter by
its series, as the program itself does; an export lists each series under the labels
that it was first touched with. Both go by series, and so does the gauge of phases by
the name of a breaker, hashes being taken as free of collisions. -/
structure Metrics where
  counts : List ((String × String) × Counter × Nat) := []
  breakerPhases : List (String × Phase) := []
  readDurations : List (String × Histogram) := []
deriving Repr

namespace Metrics

def put {κ ν : Type} [DecidableEq κ] (key : κ) (change : Option ν → ν) :
    List (κ × ν) → List (κ × ν)
  | [] => [(key, change none)]
  | (other, value) :: rest =>
    if other = key then (key, change (some value)) :: rest
    else (other, value) :: put key change rest

def count (metrics : Metrics) (counter : Counter) : Nat :=
  (metrics.counts.lookup counter.series).elim 0 (·.2)

/-- The gauge of a breaker, under the hash of its name. -/
def phase? (metrics : Metrics) (breaker : String) : Option Phase :=
  metrics.breakerPhases.lookup breaker

def bump (metrics : Metrics) (counter : Counter) : Metrics :=
  let more (known : Option (Counter × Nat)) : Counter × Nat :=
    match known with
    | none => (counter, 1)
    | some (first, n) => (first, n + 1)
  { metrics with counts := put counter.series more metrics.counts }

def setPhase (metrics : Metrics) (breaker : String) (phase : Phase) : Metrics :=
  { metrics with breakerPhases := put breaker (fun _ => phase) metrics.breakerPhases }

def observeRead (metrics : Metrics) (outcome : String) (seconds : Double) : Metrics :=
  { metrics with
    readDurations :=
      put outcome (fun h => (h.getD Histogram.empty).observe seconds) metrics.readDurations }

def retryOutcome (metrics : Metrics) (operation : String) (succeeded : Bool) : Metrics :=
  metrics.bump (if succeeded then .retrySuccess operation else .retryFailure operation)

def transition (metrics : Metrics) (breaker : String) (source target : Phase) : Metrics :=
  if source = target then metrics
  else (metrics.bump (.breakerTransitions breaker source.name target.name)).setPhase breaker target

end Metrics
end Roster

/-!
Metrics as text: families by name, the samples of a family by the values of
their labels, and the labels of a sample by name. A family without samples is
left out.
-/

namespace Roster.Metrics

open Number (Double)

inductive FamilyKind where
  | counter
  | gauge
  | histogram
deriving DecidableEq, Repr

def FamilyKind.name : FamilyKind → String
  | .counter => "counter"
  | .gauge => "gauge"
  | .histogram => "histogram"

abbrev Labels := List (String × String)

structure Sample where
  suffix : String := ""
  labels : Labels
  value : String
deriving Repr

structure Family where
  name : String
  help : String
  kind : FamilyKind
  groups : List (Labels × List Sample)
deriving Repr

def counterFamilies : List (String × String) :=
  [("circuit_breaker_transitions_total", "Circuit breaker state transitions"),
    ("composite_requests_total", "Composite requests by operation and outcome"),
    ("events_emitted_total", "Events placed on outbound channels"),
    ("events_failed_total", "Events rejected by backend processors"),
    ("events_processed_total", "Events applied by backend processors"),
    ("fallbacks_served_total", "Fallback values returned while a breaker was open"),
    ("retry_attempts_total", "Total retry attempts"),
    ("retry_failure_total", "Operations that failed after all attempts"),
    ("retry_success_total", "Operations that succeeded within the retry budget")]

def byName (labels : Labels) : Labels := labels.mergeSort fun a b => a.1 ≤ b.1

def counterFamily (metrics : Metrics) (name help : String) : Family where
  name := name
  help := help
  kind := .counter
  groups := metrics.counts.filterMap fun (_, counter, n) =>
    if counter.family = name then
      let labels := byName counter.labels
      some (labels, [{ labels, value := toString n }])
    else none

def phaseFamily (metrics : Metrics) : Family where
  name := "circuit_breaker_state"
  help := "Circuit breaker state (0=Closed, 1=Open, 2=HalfOpen)"
  kind := .gauge
  groups := metrics.breakerPhases.map fun (breaker, phase) =>
    let labels := [("breaker", breaker)]
    (labels, [{ labels, value := toString phase.code }])

def histogramSamples (labels : Labels) (histogram : Histogram) : List Sample :=
  let buckets := (Histogram.bounds.zip histogram.within).map fun (bound, n) =>
    { suffix := "_bucket", labels := labels ++ [("le", bound.text)], value := toString n : Sample }
  buckets ++
    [{ suffix := "_bucket", labels := labels ++ [("le", "+Inf")],
        value := toString histogram.count },
      { suffix := "_sum", labels, value := histogram.sum.text },
      { suffix := "_count", labels, value := toString histogram.count }]

def durationFamily (metrics : Metrics) : Family where
  name := "composite_read_duration_seconds"
  help := "Composite read duration"
  kind := .histogram
  groups := metrics.readDurations.map fun (outcome, histogram) =>
    let labels := [("outcome", outcome)]
    (labels, histogramSamples labels histogram)

def valuesAtMost : Labels → Labels → Bool
  | (_, a) :: rest, (_, b) :: others =>
    if a = b then valuesAtMost rest others else a < b
  | [], _ => true
  | _ :: _, [] => false

def Family.sorted (family : Family) : Family :=
  { family with
    groups := family.groups.mergeSort fun a b => valuesAtMost a.1 b.1 }

def families (metrics : Metrics) : List Family :=
  let all := counterFamilies.map (fun (name, help) => counterFamily metrics name help) ++
    [phaseFamily metrics, durationFamily metrics]
  let present := all.filter fun family => !family.groups.isEmpty
  (present.mergeSort fun a b => a.name ≤ b.name).map Family.sorted

def escapeLabel (value : String) : String :=
  String.ofList (value.toList.flatMap fun c =>
    if c = '\\' then ['\\', '\\']
    else if c = '\n' then ['\\', 'n']
    else if c = '"' then ['\\', '"']
    else [c])

def Sample.line (family : String) (sample : Sample) : String :=
  let labels := sample.labels.map fun (name, value) =>
    name ++ "=\"" ++ escapeLabel value ++ "\""
  family ++ sample.suffix ++ "\x7b" ++ String.intercalate "," labels ++ "\x7d " ++ sample.value

def Family.sampleLines (family : Family) : List String :=
  family.groups.flatMap fun (_, samples) => samples.map (Sample.line family.name)

def Family.lines (family : Family) : List String :=
  ("# HELP " ++ family.name ++ " " ++ family.help) ::
    ("# TYPE " ++ family.name ++ " " ++ family.kind.name) :: family.sampleLines

def sampleLines (metrics : Metrics) : List String :=
  (families metrics).flatMap Family.sampleLines

def lines (metrics : Metrics) : List String := (families metrics).flatMap Family.lines

end Roster.Metrics
