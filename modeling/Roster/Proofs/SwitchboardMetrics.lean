import Roster.Proofs.MetricsCounts
import Roster.Proofs.Switchboard

/-!
The counters of changes of phase. Their series run the name of a breaker and the names of both
phases together, but no two changes that breakers make end alike; so each has a series of its
own, and what is counted for a change is the number of times it was made.
-/

namespace Roster

namespace Phase

def changes : List (Phase × Phase) :=
  [(.closed, .opened), (.opened, .halfOpen), (.halfOpen, .opened), (.halfOpen, .closed)]

theorem mem_changes (source target : Phase) (moved : source ≠ target)
    (leads : source.leadsTo target = true) : (source, target) ∈ changes := by
  cases source <;> cases target <;> simp_all [changes, leadsTo]

theorem name_injective : Function.Injective name := by
  intro one other same
  cases one <;> cases other <;> simp_all [name]

end Phase

namespace Counter

def ofChange (name : String) (change : Phase × Phase) : Counter :=
  .breakerTransitions name change.1.name change.2.name

/-- The end of the text that a series runs together, backwards. -/
def ending (change : Phase × Phase) : List Char :=
  (change.1.name.toList ++ change.2.name.toList).reverse

theorem ending_long : ∀ change ∈ Phase.changes, 5 ≤ (ending change).length := by decide

/-- The five last letters tell which change was made. -/
theorem ending_injective : ∀ one ∈ Phase.changes, ∀ other ∈ Phase.changes,
    (ending one).take 5 = (ending other).take 5 → one = other := by decide

theorem series_ofChange (name : String) (change : Phase × Phase) :
    (ofChange name change).series.2.toList.reverse = ending change ++ name.toList.reverse := by
  simp [ofChange, series, labels, ending, String.join]

theorem series_injective (name other : String) (one two : Phase × Phase)
    (first : one ∈ Phase.changes) (second : two ∈ Phase.changes)
    (same : (ofChange name one).series = (ofChange other two).series) :
    name = other ∧ one = two := by
  have text : ending one ++ name.toList.reverse = ending two ++ other.toList.reverse := by
    rw [← series_ofChange, ← series_ofChange, same]
  have tails := congrArg (List.take 5) text
  rw [List.take_append_of_le_length (ending_long one first),
    List.take_append_of_le_length (ending_long two second)] at tails
  have change := ending_injective one first two second tails
  subst change
  have names := List.reverse_injective (List.append_cancel_left text)
  exact ⟨String.toList_injective names, rfl⟩

def arrives (name : String) (phase : Phase) : Counter → Bool
  | .breakerTransitions breaker _ target => breaker == name && target == phase.name
  | _ => false

def departs (name : String) (phase : Phase) : Counter → Bool
  | .breakerTransitions breaker source _ => breaker == name && source == phase.name
  | _ => false

theorem arrives_ofChange (name other : String) (change : Phase × Phase) (phase : Phase) :
    arrives other phase (ofChange name change) = decide (name = other ∧ change.2 = phase) := by
  rw [ofChange, arrives, Bool.decide_and, Bool.eq_iff_iff]
  simp [Phase.name_injective.eq_iff]

theorem departs_ofChange (name other : String) (change : Phase × Phase) (phase : Phase) :
    departs other phase (ofChange name change) = decide (name = other ∧ change.1 = phase) := by
  rw [ofChange, departs, Bool.decide_and, Bool.eq_iff_iff]
  simp [Phase.name_injective.eq_iff]

end Counter

namespace Metrics

theorem mem_put {κ ν : Type} [DecidableEq κ] (key : κ) (change : Option ν → ν)
    (entries : List (κ × ν)) (entry : κ × ν) (member : entry ∈ put key change entries) :
    entry ∈ entries ∨ entry = (key, change none) ∨
      ∃ value, (key, value) ∈ entries ∧ entry = (key, change (some value)) := by
  induction entries with
  | nil => exact .inr (.inl (List.mem_singleton.mp member))
  | cons first rest ih =>
      obtain ⟨other, value⟩ := first
      by_cases isKey : other = key
      · subst isKey
        rw [put, if_pos rfl] at member
        rcases List.mem_cons.mp member with same | later
        · exact .inr (.inr ⟨value, List.mem_cons_self, same⟩)
        · exact .inl (List.mem_cons_of_mem _ later)
      · rw [put, if_neg isKey] at member
        rcases List.mem_cons.mp member with same | later
        · rw [same]
          exact .inl List.mem_cons_self
        · rcases ih later with old | new | ⟨known, listed, same⟩
          · exact .inl (List.mem_cons_of_mem _ old)
          · exact .inr (.inl new)
          · exact .inr (.inr ⟨known, List.mem_cons_of_mem _ listed, same⟩)

def IsPlain (entry : (String × String) × Counter × Nat) : Prop :=
  ∃ name, ∃ change ∈ Phase.changes,
    entry.2.1 = Counter.ofChange name change ∧ entry.1 = entry.2.1.series

def tallyOf (test : Counter → Bool) : List ((String × String) × Counter × Nat) → Nat
  | [] => 0
  | (_, counter, n) :: rest => (if test counter then n else 0) + tallyOf test rest

theorem passed_of_tally (test : Counter → Bool)
    (counts : List ((String × String) × Counter × Nat)) (counted : tallyOf test counts ≠ 0) :
    ∃ entry ∈ counts, test entry.2.1 = true := by
  induction counts with
  | nil => exact absurd rfl counted
  | cons entry rest ih =>
      cases passes : test entry.2.1 with
      | true => exact ⟨entry, List.mem_cons_self, passes⟩
      | false =>
          rw [tallyOf, passes, if_neg Bool.false_ne_true, Nat.zero_add] at counted
          obtain ⟨later, member, passed⟩ := ih counted
          exact ⟨later, List.mem_cons_of_mem entry member, passed⟩

/-- What an export counts under the labels that pass a test. -/
def tally (metrics : Metrics) (test : Counter → Bool) : Nat := tallyOf test metrics.counts

/-- What an export counts under exactly the labels of a counter. `Metrics.count` asks for the
series instead, which may have been touched under other labels first. -/
def shown (metrics : Metrics) (counter : Counter) : Nat := metrics.tally (· == counter)

section Counting

variable (metrics : Metrics) (plain : ∀ entry ∈ metrics.counts, IsPlain entry)
  (name : String) (change : Phase × Phase) (made : change ∈ Phase.changes)

include plain made

theorem plain_bump :
    ∀ entry ∈ (metrics.bump (Counter.ofChange name change)).counts, IsPlain entry := by
  intro entry member
  rcases mem_put _ _ _ _ member with old | rfl | ⟨⟨first, n⟩, listed, rfl⟩
  · exact plain entry old
  · exact ⟨name, change, made, rfl, rfl⟩
  · obtain ⟨known, its, itsMade, isChange, isSeries⟩ := plain _ listed
    exact ⟨known, its, itsMade, isChange, isSeries⟩

theorem tally_bump (test : Counter → Bool) :
    (metrics.bump (Counter.ofChange name change)).tally test =
      metrics.tally test + if test (Counter.ofChange name change) then 1 else 0 := by
  obtain ⟨counts, _, _⟩ := metrics
  simp only [tally, bump] at plain ⊢
  induction counts with
  | nil => simp only [put, tallyOf, Nat.zero_add, Nat.add_zero]
  | cons entry rest ih =>
      have later := ih fun other member => plain other (List.mem_cons_of_mem _ member)
      obtain ⟨series, counter, n⟩ := entry
      obtain ⟨known, its, itsMade, isChange, isSeries⟩ := plain _ List.mem_cons_self
      simp only at isChange isSeries
      by_cases same : series = (Counter.ofChange name change).series
      · -- One series is one change of one breaker, so its first labels are these.
        have isCounter : counter = Counter.ofChange name change := by
          rw [isSeries, isChange] at same
          obtain ⟨rfl, rfl⟩ := Counter.series_injective known name its change itsMade made same
          exact isChange
        rw [put, if_pos same, tallyOf, tallyOf, isCounter]
        split <;> omega
      · rw [put, if_neg same, tallyOf, tallyOf, later, Nat.add_assoc]

end Counting

/-- How often a breaker came into a phase, less how often it left it. -/
def flow (metrics : Metrics) (name : String) (phase : Phase) : Int :=
  (metrics.tally (Counter.arrives name phase) : Int) - metrics.tally (Counter.departs name phase)

theorem flow_bump (metrics : Metrics) (plain : ∀ entry ∈ metrics.counts, IsPlain entry)
    (name other : String) (change : Phase × Phase) (made : change ∈ Phase.changes)
    (phase : Phase) :
    (metrics.bump (Counter.ofChange name change)).flow other phase =
      metrics.flow other phase +
        if name = other then
          (if change.2 = phase then 1 else 0) - (if change.1 = phase then 1 else 0)
        else 0 := by
  rw [flow, tally_bump metrics plain name change made, tally_bump metrics plain name change made,
    Counter.arrives_ofChange, Counter.departs_ofChange, flow]
  by_cases same : name = other
  · simp only [same, true_and, decide_eq_true_eq, ↓reduceIte]
    split <;> split <;> omega
  · simp [same]

theorem made_of_shown (metrics : Metrics) (plain : ∀ entry ∈ metrics.counts, IsPlain entry)
    (counter : Counter) (counted : metrics.shown counter ≠ 0) :
    ∃ name, ∃ change ∈ Phase.changes, counter = Counter.ofChange name change := by
  obtain ⟨entry, member, same⟩ := passed_of_tally _ metrics.counts counted
  obtain ⟨name, change, made, isChange, _⟩ := plain entry member
  exact ⟨name, change, made, (beq_iff_eq.mp same).symm.trans isChange⟩

/-!
Metrics as a mirror of the breakers. Whatever is asked for and done, each breaker that is
found by its name has a gauge with its phase, and the changes that are counted for it are the
way it went: they lead from the closed phase, in which it was made, to the one it is in.
-/

variable (metrics : Metrics) (name : String) (source target : Phase)

theorem phase_setPhase (other : String) (phase : Phase) :
    (metrics.setPhase name phase).phase? other =
      if other = name then some phase else metrics.phase? other :=
  lookup_put name other _ metrics.breakerPhases

theorem transition_moved (moved : source ≠ target) :
    metrics.transition name source target =
      (metrics.bump (Counter.ofChange name (source, target))).setPhase name target := by
  rw [transition, if_neg moved]
  rfl

theorem phase_transition (gauge : metrics.phase? name = some source) (other : String) :
    (metrics.transition name source target).phase? other =
      if other = name then some target else metrics.phase? other := by
  by_cases moved : source = target
  · subst moved
    rw [transition, if_pos rfl]
    by_cases same : other = name
    · rw [if_pos same, same, gauge]
    · rw [if_neg same]
  · rw [transition_moved metrics name source target moved, phase_setPhase]
    rfl

variable (plain : ∀ entry ∈ metrics.counts, IsPlain entry)
  (leads : source.leadsTo target = true)

include plain leads

theorem plain_transition :
    ∀ entry ∈ (metrics.transition name source target).counts, IsPlain entry := by
  by_cases moved : source = target
  · rw [transition, if_pos moved]
    exact plain
  · rw [transition_moved metrics name source target moved]
    exact plain_bump metrics plain name _ (Phase.mem_changes source target moved leads)

theorem flow_transition (other : String) (phase : Phase) :
    (metrics.transition name source target).flow other phase =
      metrics.flow other phase +
        if name = other then
          (if target = phase then 1 else 0) - (if source = phase then 1 else 0)
        else 0 := by
  by_cases moved : source = target
  · subst moved
    rw [transition, if_pos rfl, Int.sub_self, ite_self, Int.add_zero]
  · rw [transition_moved metrics name source target moved]
    have made := Phase.mem_changes source target moved leads
    exact flow_bump metrics plain name other (source, target) made phase

end Metrics

namespace Panel

/-- The metrics show every breaker in its phase, and the way it went there. -/
structure Mirrored (panel : Panel) : Prop where
  labelled : panel.Labelled
  measured : panel.measured = true
  plain : ∀ entry ∈ panel.metrics.counts, Metrics.IsPlain entry
  gauges : ∀ (place : Nat) (switch : Switch), panel.switches[place]? = some switch →
    panel.metrics.phase? switch.name = some switch.breaker.phase
  flows : ∀ (place : Nat) (switch : Switch), panel.switches[place]? = some switch →
    ∀ phase, panel.metrics.flow switch.name phase =
      (if switch.breaker.phase = phase then 1 else 0) - (if phase = .closed then 1 else 0)
  unknown : ∀ name, name ∉ panel.names → ∀ phase, panel.metrics.flow name phase = 0

theorem mirrored_empty : ({} : Panel).Mirrored where
  labelled := labelled_empty true
  measured := rfl
  plain := by
    intro entry member
    cases member
  gauges := by
    intro place switch found
    cases found
  flows := by
    intro place switch found
    cases found
  unknown _ _ _ := rfl

section Changes

variable (panel : Panel) (mirrored : panel.Mirrored)

include mirrored

theorem metrics_new (name : String) (policy : BreakerPolicy)
    (missing : panel.find? name = none) :
    (panel.obtain name policy).1.metrics = panel.metrics.setPhase name .closed := by
  simp only [obtain, missing, mirrored.measured, ↓reduceIte]

theorem mirrored_new (name : String) (policy : BreakerPolicy)
    (missing : panel.find? name = none) : (panel.obtain name policy).1.Mirrored := by
  have unknown := find_none panel name mirrored.labelled missing
  have metrics := metrics_new panel mirrored name policy missing
  have stands := fun place =>
    switch_new panel place name policy mirrored.labelled missing
  constructor
  · exact labelled_obtain panel name policy mirrored.labelled
  · simp only [obtain, missing]
    exact mirrored.measured
  · rw [metrics]
    exact mirrored.plain
  · intro place switch there
    rw [metrics, Metrics.phase_setPhase]
    rcases stands place switch there with ⟨apart, before, stood⟩ | rfl
    · rw [if_neg apart]
      exact mirrored.gauges before switch stood
    · rw [if_pos rfl]
  · intro place switch there phase
    rw [metrics]
    rcases stands place switch there with ⟨_, before, stood⟩ | rfl
    · exact mirrored.flows before switch stood phase
    · -- The new breaker is closed and has no way behind it.
      refine (mirrored.unknown name unknown phase).trans ?_
      simp only [eq_comm, Int.sub_self]
  · intro other unknown phase
    rw [metrics]
    rw [names_new panel name policy missing] at unknown
    exact mirrored.unknown other (fun known => unknown (List.mem_append_left _ known)) phase

theorem mirrored_obtain (name : String) (policy : BreakerPolicy) :
    (panel.obtain name policy).1.Mirrored := by
  cases found : panel.find? name with
  | some place =>
      rw [obtain_known panel place name policy found]
      exact mirrored
  | none => exact mirrored_new panel mirrored name policy found

theorem metrics_update (place : Nat) (change : BreakerPolicy → Breaker → Breaker)
    (switch : Switch) (found : panel.switches[place]? = some switch) :
    (panel.update place change).metrics =
      panel.metrics.transition switch.name switch.breaker.phase
        (change switch.policy switch.breaker).phase := by
  have listed := mirrored.labelled.listed switch (List.mem_of_getElem? found)
  simp only [update, found, replace, listed, mirrored.measured, Bool.and_self, ↓reduceIte]

theorem mirrored_change (place : Nat) (change : BreakerPolicy → Breaker → Breaker)
    (switch : Switch) (found : panel.switches[place]? = some switch)
    (leads : switch.breaker.phase.leadsTo (change switch.policy switch.breaker).phase = true) :
    (panel.update place change).Mirrored := by
  have metrics := metrics_update panel mirrored place change switch found
  have gauge := mirrored.gauges place switch found
  have stands := switch_updated panel place change mirrored.labelled switch found
  have flows := panel.metrics.flow_transition switch.name _ _ mirrored.plain leads
  constructor
  · exact labelled_update panel place change mirrored.labelled
  · simp only [update, found, replace]
    exact mirrored.measured
  · rw [metrics]
    exact panel.metrics.plain_transition _ _ _ mirrored.plain leads
  · intro other another there
    rw [metrics, panel.metrics.phase_transition _ _ _ gauge]
    rcases stands other another there with ⟨apart, stood⟩ | rfl
    · rw [if_neg apart]
      exact mirrored.gauges other another stood
    · rw [if_pos rfl]
  · intro other another there phase
    rw [metrics, flows]
    rcases stands other another there with ⟨apart, stood⟩ | rfl
    · rw [if_neg (Ne.symm apart), Int.add_zero]
      exact mirrored.flows other another stood phase
    · -- The way is one change longer, from the phase before to the one after.
      have way := mirrored.flows place switch found phase
      rw [if_pos rfl]
      simp only
      omega
  · intro other unknown phase
    rw [names_update] at unknown
    have apart : switch.name ≠ other := by
      rintro rfl
      exact unknown (List.mem_map_of_mem (List.mem_of_getElem? found))
    rw [metrics, flows, if_neg apart, Int.add_zero]
    exact mirrored.unknown other unknown phase

theorem mirrored_update (place : Nat) (change : BreakerPolicy → Breaker → Breaker)
    (leads : ∀ policy breaker, Phase.leadsTo breaker.phase (change policy breaker).phase = true) :
    (panel.update place change).Mirrored := by
  cases found : panel.switches[place]? with
  | none =>
      have same : panel.update place change = panel := by
        simp only [update, found]
      rw [same]
      exact mirrored
  | some switch => exact mirrored_change panel mirrored place change switch found (leads _ _)

end Changes

theorem kept_mirrored : Kept Mirrored where
  obtain panel name policy mirrored := mirrored_obtain panel mirrored name policy
  update panel place change leads mirrored := mirrored_update panel mirrored place change leads

end Panel

namespace Switchboard

variable {α : Type}

theorem run_mirrored (acts : List (Act α)) : ((fresh true).run acts).panel.Mirrored :=
  run_keeps Panel.Mirrored Panel.kept_mirrored (fresh true) acts Panel.mirrored_empty

theorem run_finds (acts : List (Act α)) (name : String) (policy : BreakerPolicy)
    (asked : Act.obtain name policy ∈ acts) (board : Switchboard) :
    ∃ place, (board.run acts).panel.Stands place name := by
  induction acts generalizing board with
  | nil => cases asked
  | cons act rest ih =>
      rcases List.mem_cons.mp asked with rfl | later
      · have standing := run_keeps _ (Panel.kept_standing (board.obtain name policy).panel)
          (board.obtain name policy) rest fun _ _ stands => stands
        exact ⟨_, standing _ name (board.panel.stands_obtained name policy)⟩
      · exact ih later _

end Switchboard
end Roster
