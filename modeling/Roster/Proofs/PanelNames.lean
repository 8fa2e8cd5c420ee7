import Mathlib.Data.List.Nodup
import Roster.Http.Routes
import Roster.Proofs.BreakerWatch
import Roster.Proofs.JsonWire

/-!
The breaker at a place of a panel. What is done at its place is done to it, as if it
stood alone; what is done at other places, or to the metrics, leaves it as it is.
-/

namespace Roster

def Ending.ofOutcome {ε α : Type} (isTransient : ε → Bool) : Except ε α → Ending
  | .ok _ => .success
  | .error failure => if isTransient failure then .transient else .permanent

namespace Panel

def Holds (panel : Panel) (place : Nat) (policy : BreakerPolicy) (breaker : Breaker) : Prop :=
  ∃ switch, panel.switches[place]? = some switch ∧ switch.policy = policy ∧
    switch.breaker = breaker

section Places

variable (panel : Panel) (place : Nat) (policy : BreakerPolicy) (breaker : Breaker)

theorem breaker_of_holds (holds : panel.Holds place policy breaker) :
    panel.breaker? place = some breaker := by
  obtain ⟨switch, found, _, rfl⟩ := holds
  simp [breaker?, found]

theorem holds_unique (other : Breaker) (holds : panel.Holds place policy breaker)
    (again : panel.Holds place policy other) : other = breaker := by
  have first := breaker_of_holds panel place policy breaker holds
  have second := breaker_of_holds panel place policy other again
  exact Option.some.inj (second.symm.trans first)

theorem holds_replace (switch : Switch) (next : Breaker)
    (found : panel.switches[place]? = some switch) (same : switch.policy = policy) :
    (panel.replace place switch next).Holds place policy next := by
  have inside := (List.getElem?_eq_some_iff.mp found).1
  refine ⟨{ switch with breaker := next }, ?_, same, rfl⟩
  simp [replace, inside]

theorem holds_replace_elsewhere (other : Nat) (switch : Switch) (next : Breaker)
    (holds : panel.Holds place policy breaker) (apart : other ≠ place) :
    (panel.replace other switch next).Holds place policy breaker := by
  obtain ⟨standing, found, samePolicy, sameBreaker⟩ := holds
  refine ⟨standing, ?_, samePolicy, sameBreaker⟩
  rw [← found]
  exact List.getElem?_set_ne apart

theorem holds_update (change : BreakerPolicy → Breaker → Breaker)
    (holds : panel.Holds place policy breaker) :
    (panel.update place change).Holds place policy (change policy breaker) := by
  obtain ⟨switch, found, rfl, rfl⟩ := holds
  simp only [update, found]
  exact holds_replace panel place switch.policy switch _ found rfl

theorem holds_update_elsewhere (other : Nat) (change : BreakerPolicy → Breaker → Breaker)
    (holds : panel.Holds place policy breaker) (apart : other ≠ place) :
    (panel.update other change).Holds place policy breaker := by
  unfold update
  split
  · exact holds
  · exact holds_replace_elsewhere panel place policy breaker other _ _ holds apart

theorem holds_enter (now : Nat) (holds : panel.Holds place policy breaker) :
    (panel.enter place now).1.Holds place policy (breaker.enter policy now).1 ∧
      (panel.enter place now).2 = (breaker.enter policy now).2 := by
  obtain ⟨switch, found, rfl, rfl⟩ := holds
  simp only [enter, found]
  exact ⟨holds_replace panel place switch.policy switch _ found rfl, trivial⟩

theorem holds_enter_elsewhere (other now : Nat) (holds : panel.Holds place policy breaker)
    (apart : other ≠ place) : (panel.enter other now).1.Holds place policy breaker := by
  unfold enter
  split
  · exact holds
  · exact holds_replace_elsewhere panel place policy breaker other _ _ holds apart

theorem holds_conclude {ε α : Type} (now : Nat) (isTransient : ε → Bool) (outcome : Except ε α)
    (holds : panel.Holds place policy breaker) :
    (panel.conclude place now isTransient outcome).Holds place policy
      (breaker.conclude policy now (.ofOutcome isTransient outcome)) := by
  cases outcome with
  | ok value => exact holds_update panel place policy breaker _ holds
  | error failure =>
      cases transient : isTransient failure with
      | true =>
          simp only [conclude, Ending.ofOutcome, transient, ↓reduceIte]
          exact holds_update panel place policy breaker _ holds
      | false =>
          simp only [conclude, Ending.ofOutcome, transient, Bool.false_eq_true, ↓reduceIte]
          exact holds_update panel place policy breaker _ holds

theorem holds_conclude_elsewhere {ε α : Type} (other now : Nat) (isTransient : ε → Bool)
    (outcome : Except ε α) (holds : panel.Holds place policy breaker) (apart : other ≠ place) :
    (panel.conclude other now isTransient outcome).Holds place policy breaker := by
  cases outcome with
  | ok value => exact holds_update_elsewhere panel place policy breaker other _ holds apart
  | error failure =>
      simp only [conclude]
      split
      · exact holds_update_elsewhere panel place policy breaker other _ holds apart
      · exact holds_update_elsewhere panel place policy breaker other _ holds apart

end Places

end Panel

/-!
The names of a panel. Every name has one place and keeps it, whatever is done to the breakers;
so what the panel tells of its breakers, told in the order of their names, has one entry for
each of them and is true of it.
-/
namespace Panel

def names (panel : Panel) : List String := panel.switches.map Switch.name

def Stands (panel : Panel) (place : Nat) (name : String) : Prop :=
  panel.names[place]? = some name

/-- Every breaker is found by its name, and no two have the same. -/
structure Labelled (panel : Panel) : Prop where
  listed : ∀ switch ∈ panel.switches, switch.listed = true
  distinct : panel.names.Nodup

section Names

variable (panel : Panel) (place : Nat) (name : String)

theorem names_place : panel.names[place]? = panel.switches[place]?.map Switch.name := by
  simp [names]

theorem stands_iff : panel.Stands place name ↔
    ∃ switch, panel.switches[place]? = some switch ∧ switch.name = name := by
  rw [Stands, names_place, Option.map_eq_some_iff]

theorem place_unique (labelled : panel.Labelled) (other : Nat) (here : panel.Stands place name)
    (there : panel.Stands other name) : other = place := by
  have inside := (List.getElem?_eq_some_iff.mp there).1
  exact (List.getElem?_inj inside labelled.distinct).mp (there.trans here.symm)

/-! Every act on a breaker is a change of it, in its place. -/

theorem enter_eq_update (now : Nat) :
    (panel.enter place now).1 =
      panel.update place fun policy breaker => (breaker.enter policy now).1 := by
  unfold enter update
  cases panel.switches[place]? with
  | none => rfl
  | some switch => rfl

theorem conclude_eq_update {ε α : Type} (now : Nat) (isTransient : ε → Bool)
    (outcome : Except ε α) :
    panel.conclude place now isTransient outcome =
      panel.update place fun policy breaker =>
        breaker.conclude policy now (.ofOutcome isTransient outcome) := by
  cases outcome with
  | ok value => rfl
  | error failure =>
      cases transient : isTransient failure with
      | true =>
          simp only [conclude, Ending.ofOutcome, transient, ↓reduceIte]
          rfl
      | false =>
          simp only [conclude, Ending.ofOutcome, transient, Bool.false_eq_true, ↓reduceIte]
          rfl

variable (change : BreakerPolicy → Breaker → Breaker)

theorem switch_update (other : Nat) :
    (panel.update place change).switches[other]? =
      if other = place then
        panel.switches[place]?.map fun switch =>
          { switch with breaker := change switch.policy switch.breaker }
      else panel.switches[other]? := by
  unfold update
  cases found : panel.switches[place]? with
  | none =>
      by_cases same : other = place
      · simp [same, found]
      · simp [same]
  | some switch =>
      have inside := (List.getElem?_eq_some_iff.mp found).1
      by_cases same : other = place
      · subst same
        simp [replace, inside]
      · simp [replace, same, Ne.symm same]

theorem switch_updated (labelled : panel.Labelled) (switch : Switch)
    (found : panel.switches[place]? = some switch) (other : Nat) (another : Switch)
    (there : (panel.update place change).switches[other]? = some another) :
    (another.name ≠ switch.name ∧ panel.switches[other]? = some another) ∨
      another = { switch with breaker := change switch.policy switch.breaker } := by
  rw [switch_update, found] at there
  by_cases same : other = place
  · rw [if_pos same, Option.map_some, Option.some.injEq] at there
    exact .inr there.symm
  · rw [if_neg same] at there
    refine .inl ⟨?_, there⟩
    intro sameName
    apply same
    apply place_unique panel place switch.name labelled other
    · exact (stands_iff panel place switch.name).mpr ⟨switch, found, rfl⟩
    · exact (stands_iff panel other switch.name).mpr ⟨another, there, sameName⟩

@[simp]
theorem names_update : (panel.update place change).names = panel.names := by
  apply List.ext_getElem?
  intro other
  rw [names_place, names_place, switch_update]
  by_cases same : other = place
  · subst same
    rw [if_pos rfl, Option.map_map]
    rfl
  · rw [if_neg same]

@[simp]
theorem stands_update : (panel.update place change).Stands = panel.Stands := by
  funext other known
  rw [Stands, names_update, Stands]

theorem labelled_update (labelled : panel.Labelled) : (panel.update place change).Labelled := by
  constructor
  · intro switch member
    obtain ⟨other, found⟩ := List.mem_iff_getElem?.mp member
    rw [switch_update] at found
    by_cases same : other = place
    · rw [if_pos same, Option.map_eq_some_iff] at found
      obtain ⟨before, stood, rfl⟩ := found
      exact labelled.listed before (List.mem_of_getElem? stood)
    · rw [if_neg same] at found
      exact labelled.listed switch (List.mem_of_getElem? found)
  · rw [names_update]
    exact labelled.distinct

/-! Asking for a breaker by its name. -/

variable (policy : BreakerPolicy)

theorem find_listed (found : panel.find? name = some place) :
    ∃ switch, panel.switches[place]? = some switch ∧ switch.listed = true ∧
      switch.name = name := by
  obtain ⟨inside, test, _⟩ := List.findIdx?_eq_some_iff_getElem.mp found
  rw [Bool.and_eq_true, beq_iff_eq] at test
  exact ⟨_, List.getElem?_eq_getElem inside, test.1, test.2⟩

theorem stands_find (found : panel.find? name = some place) : panel.Stands place name := by
  obtain ⟨switch, stands, _, same⟩ := find_listed panel place name found
  exact (stands_iff panel place name).mpr ⟨switch, stands, same⟩

theorem find_none (labelled : panel.Labelled) (missing : panel.find? name = none) :
    name ∉ panel.names := by
  intro member
  obtain ⟨switch, stands, rfl⟩ := List.mem_map.mp member
  have test := List.findIdx?_eq_none_iff.mp missing switch stands
  simp [labelled.listed switch stands] at test

theorem find_stands (labelled : panel.Labelled) (stands : panel.Stands place name) :
    panel.find? name = some place := by
  cases found : panel.find? name with
  | none => exact absurd (List.mem_of_getElem? stands) (find_none panel name labelled found)
  | some other =>
      have there := stands_find panel other name found
      rw [place_unique panel place name labelled other stands there]

theorem obtain_known (found : panel.find? name = some place) :
    panel.obtain name policy = (panel, place) := by
  simp only [obtain, found]

theorem obtain_new (missing : panel.find? name = none) :
    (panel.obtain name policy).1.switches = panel.switches ++ [{ name := name, policy := policy }] ∧
      (panel.obtain name policy).2 = panel.switches.length := by
  simp only [obtain, missing]
  exact ⟨trivial, trivial⟩

theorem names_new (missing : panel.find? name = none) :
    (panel.obtain name policy).1.names = panel.names ++ [name] := by
  rw [names, (obtain_new panel name policy missing).1, List.map_append]
  rfl

theorem switch_new (labelled : panel.Labelled) (missing : panel.find? name = none)
    (switch : Switch) (there : (panel.obtain name policy).1.switches[place]? = some switch) :
    (switch.name ≠ name ∧ ∃ before : Nat, panel.switches[before]? = some switch) ∨
      switch = { name := name, policy := policy } := by
  rw [(obtain_new panel name policy missing).1] at there
  rcases List.mem_append.mp (List.mem_of_getElem? there) with old | new
  · refine .inl ⟨?_, List.mem_iff_getElem?.mp old⟩
    rintro rfl
    exact find_none panel switch.name labelled missing (List.mem_map_of_mem old)
  · exact .inr (List.mem_singleton.mp new)

theorem stands_obtained :
    (panel.obtain name policy).1.Stands (panel.obtain name policy).2 name := by
  cases found : panel.find? name with
  | some place =>
      rw [obtain_known panel place name policy found]
      exact stands_find panel place name found
  | none =>
      rw [Stands, names_new panel name policy found, (obtain_new panel name policy found).2]
      simp [names]

theorem stands_obtain (other : String) (stands : panel.Stands place other) :
    (panel.obtain name policy).1.Stands place other := by
  cases found : panel.find? name with
  | some place =>
      rw [obtain_known panel place name policy found]
      exact stands
  | none =>
      have inside := (List.getElem?_eq_some_iff.mp stands).1
      rw [Stands, names_new panel name policy found, List.getElem?_append_left inside]
      exact stands

theorem labelled_obtain (labelled : panel.Labelled) :
    (panel.obtain name policy).1.Labelled := by
  cases found : panel.find? name with
  | some place =>
      rw [obtain_known panel place name policy found]
      exact labelled
  | none =>
      constructor
      · rw [(obtain_new panel name policy found).1]
        intro switch member
        rcases List.mem_append.mp member with old | new
        · exact labelled.listed switch old
        · rw [List.mem_singleton.mp new]
      · rw [names_new panel name policy found]
        apply labelled.distinct.append
        · exact List.nodup_singleton name
        · rw [List.disjoint_singleton]
          exact find_none panel name labelled found

theorem labelled_empty (measured : Bool) : ({ measured } : Panel).Labelled := by
  constructor
  · intro switch member
    cases member
  · exact List.nodup_nil

end Names

/-! What the panel tells of its breakers. -/

section Reports

open Json (Value)

variable (panel : Panel)

theorem snapshot_labelled (labelled : panel.Labelled) :
    panel.snapshot =
      (panel.switches.map fun switch => (switch.name, switch.breaker.phase)).mergeSort
        fun a b => a.1 ≤ b.1 := by
  rw [snapshot, List.filter_eq_self.mpr labelled.listed]

theorem mem_snapshot (labelled : panel.Labelled) (name : String) (phase : Phase) :
    (name, phase) ∈ panel.snapshot ↔
      ∃ switch ∈ panel.switches, switch.name = name ∧ switch.breaker.phase = phase := by
  rw [snapshot_labelled panel labelled, List.mem_mergeSort, List.mem_map]
  simp only [Prod.mk.injEq]

theorem snapshot_distinct (labelled : panel.Labelled) : (panel.snapshot.map Prod.fst).Nodup := by
  have sorted := (List.mergeSort_perm (panel.switches.map fun switch =>
    (switch.name, switch.breaker.phase)) fun a b => a.1 ≤ b.1).map Prod.fst
  rw [List.map_map, ← snapshot_labelled panel labelled] at sorted
  exact sorted.nodup_iff.mpr labelled.distinct

theorem snapshot_sorted : panel.snapshot.Pairwise fun a b => a.1 ≤ b.1 := by
  have ordered := @List.pairwise_mergeSort (String × Phase) (fun a b => decide (a.1 ≤ b.1))
    (fun a b c first second => by
      rw [decide_eq_true_eq] at *
      exact String.le_trans first second)
    (fun a b => by
      simp only [Bool.or_eq_true, decide_eq_true_eq]
      exact String.le_total a.1 b.1)
    ((panel.switches.filter (·.listed)).map fun switch => (switch.name, switch.breaker.phase))
  exact ordered.imp of_decide_eq_true

/-- The entries stand in the order of their names, and no name has two. -/
theorem snapshot_increasing (labelled : panel.Labelled) :
    panel.snapshot.Pairwise fun a b => a.1 < b.1 := by
  have apart : panel.snapshot.Pairwise fun a b => a.1 ≠ b.1 :=
    List.pairwise_map.mp (snapshot_distinct panel labelled)
  have both := (snapshot_sorted panel).and apart
  exact both.imp fun entry => Std.lt_of_le_of_ne entry.1 entry.2

theorem mem_degraded (entry : String × Phase) :
    entry ∈ panel.degraded ↔ entry ∈ panel.snapshot ∧ entry.2 ≠ .closed := by
  simp [degraded]

theorem degraded_increasing (labelled : panel.Labelled) :
    panel.degraded.Pairwise fun a b => a.1 < b.1 :=
  (snapshot_increasing panel labelled).sublist List.filter_sublist

theorem health_read (service : String) :
    (panel.health service).shape? ["status", "breakers", "details"] =
      some [some (.ofString (if panel.degraded.isEmpty then "healthy" else "degraded")),
        some (.record (panel.snapshot.map fun entry => (entry.1, .ofString entry.2.name))),
        some (.list (panel.degraded.map fun entry =>
          .ofString (entry.1 ++ ": circuit breaker " ++ entry.2.name)))] := by
  rw [health, Value.shape_record _ _ (by simp)]
  rfl

theorem healthy_iff :
    (if panel.degraded.isEmpty then "healthy" else "degraded") = "healthy" ↔
      ∀ entry ∈ panel.snapshot, entry.2 = .closed := by
  have words : "degraded" ≠ "healthy" := by decide
  rw [ite_eq_left_iff]
  simp only [words, imp_false, not_not, List.isEmpty_iff]
  rw [degraded, List.filter_eq_nil_iff]
  simp

end Reports

end Panel
end Roster
