import Roster.Proofs.BreakerSlot

/-!
How many probes are in flight during a trial. The flag of the one place is cleared
by any call that is answered or given up, its owner or not. One probe at a time is
what comes of it while no outsider leaves; but as soon as a call other than the owner
is in flight, it may leave and let a second probe in.
-/

namespace Roster

namespace Watch

def Mark.leaver? (mark : Mark) : Option Nat :=
  match mark.deed with
  | .ended call ending => if ending.isAnswer then some call else none
  | .dropped call => some call
  | _ => none

theorem Mark.leaver_call (mark : Mark) (call : Nat) (left : mark.leaver? = some call) :
    mark.deed.call? = some call := by
  cases deed : mark.deed with
  | ended other ending =>
      cases answer : ending.isAnswer <;> simp_all [Mark.leaver?, Deed.call?]
  | dropped other => simpa [Mark.leaver?, Deed.call?, deed] using left
  | admitted other => simp [Mark.leaver?, deed] at left
  | refused => simp [Mark.leaver?, deed] at left
  | timedOut => simp [Mark.leaver?, deed] at left

/-- Whether a call from before the current trial was answered or given up in it. -/
def outsiderLeft (watch : Watch) : Bool :=
  (currentTrial watch.history).any fun mark =>
    mark.leaver?.any fun call => !watch.isProbe call

theorem outsiderLeft_eq_false (watch : Watch) :
    watch.outsiderLeft = false ↔
      ∀ mark ∈ currentTrial watch.history, ∀ call, mark.leaver? = some call →
        watch.isProbe call = true := by
  simp only [outsiderLeft, List.any_eq_false]
  apply forall_congr'
  intro mark
  apply forall_congr'
  intro _
  cases left : mark.leaver? <;> simp

theorem quiet_before (watch : Watch) (numbered : watch.Numbered) (deed : Deed) (after : Breaker)
    (calls : List Nat) (within : (watch.markOf deed after).beginsTrial = false)
    (fresh : ∀ call, deed = .admitted call → call = watch.admissions)
    (quiet : (watch.record deed after calls).outsiderLeft = false) :
    watch.outsiderLeft = false ∧
      ∀ call ∈ watch.calls, (watch.markOf deed after).leaver? = some call →
        watch.isProbe call = true := by
  rw [outsiderLeft_eq_false, trial_within watch deed after calls within] at quiet
  -- A known call has a smaller number than the next one, so its standing is the old one.
  have known : ∀ call, call < watch.admissions →
      (watch.record deed after calls).isProbe call = watch.isProbe call := by
    intro call below
    rw [isProbe_within watch deed after calls within]
    have other : deed ≠ .admitted call := by
      intro same
      have := fresh call same
      omega
    simp [other]
  constructor
  · rw [outsiderLeft_eq_false]
    intro mark member call left
    have below := numbered.marked mark (currentTrial_subset _ member) call
      (mark.leaver_call call left)
    rw [← known call below]
    exact quiet mark (List.mem_cons_of_mem _ member) call left
  · intro call pending left
    rw [← known call (numbered.pending call pending)]
    exact quiet _ List.mem_cons_self call left

theorem probes_within (watch : Watch) (deed : Deed) (after : Breaker) (calls : List Nat)
    (within : (watch.markOf deed after).beginsTrial = false)
    (other : ∀ call ∈ calls, deed ≠ .admitted call) :
    (watch.record deed after calls).probes = calls.filter watch.isProbe := by
  apply List.filter_congr
  intro call member
  rw [isProbe_within watch deed after calls within]
  simp [other call member]

theorem probes_admitted_within (watch : Watch) (numbered : watch.Numbered) (after : Breaker)
    (within : (watch.markOf (.admitted watch.admissions) after).beginsTrial = false) :
    (watch.record (.admitted watch.admissions) after (watch.admissions :: watch.calls)).probes =
      watch.admissions :: watch.probes := by
  rw [probes, record_calls, List.filter_cons_of_pos (isProbe_admitted watch after _ _)]
  congr 1
  apply List.filter_congr
  intro call member
  have below := numbered.pending call member
  rw [isProbe_within watch _ after _ within]
  have other : watch.admissions ≠ call := by omega
  simp [other]

theorem probes_admitted_begun (watch : Watch) (numbered : watch.Numbered) (after : Breaker)
    (begun : (watch.markOf (.admitted watch.admissions) after).beginsTrial = true) :
    (watch.record (.admitted watch.admissions) after (watch.admissions :: watch.calls)).probes =
      [watch.admissions] := by
  rw [probes, record_calls, List.filter_cons_of_pos (isProbe_admitted watch after _ _)]
  congr 1
  apply List.filter_eq_nil_iff.mpr
  intro call member
  have below := numbered.pending call member
  rw [isProbe_begun watch _ after _ begun]
  have other : watch.admissions ≠ call := by omega
  simp [other]

/-- In a trial no outsider has left, the probes in flight are just the owner of the place. -/
def Explained (watch : Watch) : Prop :=
  watch.breaker.phase = .halfOpen → watch.outsiderLeft = false →
    watch.probes.length = watch.breaker.probing.toNat

theorem explained_admission (policy : BreakerPolicy) (watch : Watch) (numbered : watch.Numbered)
    (explained : watch.Explained) (after : Breaker)
    (entered : watch.breaker.enter policy watch.now = (after, true)) :
    (watch.record (.admitted watch.admissions) after
      (watch.admissions :: watch.calls)).Explained := by
  intro halfOpen quiet
  rw [record_breaker] at halfOpen ⊢
  rcases Breaker.enter_admitted watch.breaker policy watch.now after entered with
    ⟨closed, same⟩ | ⟨opened, _, same⟩ | ⟨before, free, same⟩
  · simp [same, closed] at halfOpen
  · have begun : (watch.markOf (.admitted watch.admissions) after).beginsTrial = true :=
      (beginsTrial_iff watch _ after).mpr ⟨by simp [opened], halfOpen⟩
    rw [probes_admitted_begun watch numbered after begun, same]
    rfl
  · have within := within_of_halfOpen watch (.admitted watch.admissions) after before
    have none := (quiet_before watch numbered _ after _ within
      (by intro call equal; exact (Deed.admitted.inj equal).symm) quiet).1
    have empty := explained before none
    rw [probes_admitted_within watch numbered after within, List.length_cons, empty, free, same]
    rfl

theorem probes_left (watch : Watch) (numbered : watch.Numbered) (explained : watch.Explained)
    (deed : Deed) (after : Breaker) (call : Nat) (pending : call ∈ watch.calls)
    (before : watch.breaker.phase = .halfOpen)
    (leaves : (watch.markOf deed after).leaver? = some call)
    (quiet : (watch.record deed after (watch.calls.erase call)).outsiderLeft = false) :
    (watch.record deed after (watch.calls.erase call)).probes.length = 0 := by
  have within := within_of_halfOpen watch deed after before
  have noAdmission : ∀ other, deed ≠ .admitted other := by
    intro other same
    simp [Mark.leaver?, markOf, same] at leaves
  obtain ⟨calm, probe⟩ := quiet_before watch numbered deed after _ within
    (by intro other same; exact absurd same (noAdmission other)) quiet
  have member : call ∈ watch.probes := List.mem_filter.mpr ⟨pending, probe call pending leaves⟩
  have few := explained before calm
  have atMost : watch.breaker.probing.toNat ≤ 1 := Bool.toNat_le _
  rw [probes_within watch deed after _ within (fun other _ => noAdmission other)]
  have erased : (watch.calls.erase call).filter watch.isProbe = watch.probes.erase call :=
    List.erase_filter.symm
  rw [erased, List.length_erase_of_mem member]
  omega

theorem explained_move (policy : BreakerPolicy) (before after : Watch)
    (move : Move policy before after) (held : before.SlotHeld) (numbered : before.Numbered)
    (explained : before.Explained) : after.Explained := by
  cases move with
  | wait duration => exact explained
  | admission after entered =>
      exact explained_admission policy before numbered explained after entered
  | refusal after entered =>
      have same := Breaker.enter_refused before.breaker policy before.now after held.tidy entered
      subst same
      intro halfOpen quiet
      rw [record_breaker] at halfOpen
      have within := within_of_halfOpen before .refused before.breaker halfOpen
      have calm := (quiet_before before numbered _ _ _ within (by simp) quiet).1
      rw [probes_within before _ _ _ within (by simp), record_breaker]
      exact explained halfOpen calm
  | finish call ending pending =>
      intro halfOpen quiet
      rw [record_breaker] at halfOpen
      have open' := Breaker.conclude_halfOpen_back _ policy before.now ending halfOpen
      have answer : ending.isAnswer = true := by
        cases failed : ending.isAnswer with
        | true => rfl
        | false =>
            rw [Breaker.conclude_failure _ _ _ _ failed] at halfOpen
            exact absurd halfOpen (Breaker.fail_not_halfOpen _ _ _)
      rw [probes_left before numbered explained _ _ call pending open'
        (by simp [Mark.leaver?, markOf, answer]) quiet, record_breaker,
        Breaker.conclude_frees _ _ _ _ held.tidy]
      rfl
  | drop call pending =>
      intro halfOpen quiet
      rw [record_breaker, Breaker.release_phase] at halfOpen
      rw [probes_left before numbered explained _ _ call pending halfOpen
        (by simp [Mark.leaver?, markOf]) quiet, record_breaker,
        Breaker.release_frees _ held.tidy]
      rfl
  | timeOut =>
      intro halfOpen
      exact absurd halfOpen (Breaker.fail_not_halfOpen _ _ _)

theorem run_explained (policy : BreakerPolicy) (acts : List Act) :
    (run policy acts).Explained := by
  have all := run_invariant policy
    (fun watch => watch.SlotHeld ∧ watch.Numbered ∧ watch.Explained)
    ⟨slotHeld_free {} rfl, ⟨List.nodup_nil, by simp, by simp⟩, by simp [Explained]⟩
    (fun before after move ⟨held, numbered, explained⟩ =>
      ⟨slotHeld_move policy before after move held, numbered_move policy before after move numbered,
        explained_move policy before after move held numbered explained⟩)
    acts
  exact all.2.2

/-! From here on a state is looked at together with all that may follow it in the
same trial. -/

def SlotAccounts (watch : Watch) : Prop := watch.calls.length = watch.breaker.probing.toNat

/-- The trial has gone by, or no call is in flight but the owner of the place. -/
def Alone (trial : Nat) (watch : Watch) : Prop :=
  trial ≤ watch.trials ∧
    (watch.trials = trial → watch.breaker.phase = .halfOpen → watch.SlotAccounts)

theorem accounts_move (policy : BreakerPolicy) (before after : Watch)
    (move : Move policy before after) (halfOpen : before.breaker.phase = .halfOpen)
    (accounts : before.SlotAccounts) (still : after.breaker.phase = .halfOpen) :
    after.SlotAccounts := by
  have tidy : before.breaker.Tidy := fun _ => halfOpen
  have atMost : before.breaker.probing.toNat ≤ 1 := Bool.toNat_le _
  unfold SlotAccounts at accounts ⊢
  cases move with
  | wait duration => exact accounts
  | admission after entered =>
      rw [Breaker.enter_halfOpen _ _ _ halfOpen] at entered
      obtain ⟨rfl, free⟩ := Prod.mk.inj entered
      have clear : before.breaker.probing = false := by simpa using free
      simp [accounts, clear]
  | refusal after entered =>
      have same := Breaker.enter_refused _ policy before.now after tidy entered
      subst same
      exact accounts
  | finish call ending pending =>
      rw [record_breaker, record_calls, Breaker.conclude_frees _ _ _ _ tidy,
        List.length_erase_of_mem pending]
      simp only [Bool.toNat_false]
      omega
  | drop call pending =>
      rw [record_breaker, record_calls, Breaker.release_frees _ tidy,
        List.length_erase_of_mem pending]
      simp only [Bool.toNat_false]
      omega
  | timeOut => exact absurd still (Breaker.fail_not_halfOpen _ _ _)

theorem record_within (watch : Watch) (deed : Deed) (after : Breaker) (calls : List Nat) :
    watch.trials ≤ (watch.record deed after calls).trials ∧
      ((watch.record deed after calls).trials = watch.trials → after.phase = .halfOpen →
        watch.breaker.phase = .halfOpen) := by
  rw [trials_record]
  refine ⟨Nat.le_add_right _ _, fun same still => ?_⟩
  by_cases halfOpen : watch.breaker.phase = .halfOpen
  · exact halfOpen
  · have begun := (beginsTrial_iff watch deed after).mpr ⟨halfOpen, still⟩
    simp [begun] at same

/-- Trials never run backwards, and a half-open breaker of the same trial was half open. -/
theorem move_within (policy : BreakerPolicy) (before after : Watch)
    (move : Move policy before after) :
    before.trials ≤ after.trials ∧
      (after.trials = before.trials → after.breaker.phase = .halfOpen →
        before.breaker.phase = .halfOpen) := by
  cases move with
  | wait duration => exact ⟨Nat.le_refl _, fun _ still => still⟩
  | admission after entered => exact record_within before _ _ _
  | refusal after entered => exact record_within before _ _ _
  | finish call ending pending => exact record_within before _ _ _
  | drop call pending => exact record_within before _ _ _
  | timeOut => exact record_within before _ _ _

theorem alone_move (policy : BreakerPolicy) (trial : Nat) (before after : Watch)
    (move : Move policy before after) (alone : before.Alone trial) : after.Alone trial := by
  obtain ⟨reached, accounts⟩ := alone
  obtain ⟨grows, back⟩ := move_within policy before after move
  refine ⟨Nat.le_trans reached grows, fun same still => ?_⟩
  have sameBefore : before.trials = trial := by omega
  have halfOpen := back (by omega) still
  exact accounts_move policy before after move halfOpen (accounts sameBefore halfOpen) still

theorem start_free (policy : BreakerPolicy) (watch : Watch)
    (halfOpen : watch.breaker.phase = .halfOpen) (free : watch.breaker.probing = false) :
    watch.start policy =
      watch.record (.admitted watch.admissions) { watch.breaker with probing := true }
        (watch.admissions :: watch.calls) := by
  simp [start, Breaker.enter_halfOpen _ _ _ halfOpen, free]

def Overlapping (trial : Nat) (watch : Watch) : Prop :=
  watch.trials = trial ∧ watch.breaker.phase = .halfOpen ∧ 1 < watch.probes.length

theorem overlapping_start (policy : BreakerPolicy) (watch : Watch) (numbered : watch.Numbered)
    (halfOpen : watch.breaker.phase = .halfOpen) (free : watch.breaker.probing = false)
    (probe : Nat) (member : probe ∈ watch.probes) :
    (watch.start policy).Overlapping watch.trials := by
  have within := within_of_halfOpen watch (.admitted watch.admissions)
    { watch.breaker with probing := true } halfOpen
  have some := List.length_pos_of_mem member
  rw [start_free policy watch halfOpen free]
  refine ⟨?_, halfOpen, ?_⟩
  · simp [trials_record, within]
  · rw [probes_admitted_within watch numbered _ within, List.length_cons]
    omega

/-- Any call in flight beside a probe can leave and let a second probe in. -/
theorem overlapping_drop_start (policy : BreakerPolicy) (watch : Watch)
    (numbered : watch.Numbered) (halfOpen : watch.breaker.phase = .halfOpen)
    (probe other : Nat) (member : probe ∈ watch.probes) (pending : other ∈ watch.calls)
    (different : probe ≠ other) :
    (((watch.drop other).start policy)).Overlapping watch.trials := by
  have within := within_of_halfOpen watch (.dropped other) watch.breaker.release halfOpen
  have dropped : watch.drop other =
      watch.record (.dropped other) watch.breaker.release (watch.calls.erase other) := by
    simp [drop, pending]
  have same : (watch.drop other).trials = watch.trials := by
    simp [dropped, trials_record, within]
  rw [← same]
  refine overlapping_start policy (watch.drop other) ?_ ?_ ?_ probe ?_
  · exact numbered_move policy watch _ (step_move policy watch (.drop other)) numbered
  · simpa [dropped] using halfOpen
  · simp [dropped, Breaker.release_halfOpen _ halfOpen]
  · obtain ⟨inFlight, isProbe⟩ := List.mem_filter.mp member
    rw [dropped, probes_within watch _ _ _ within (by simp)]
    exact List.mem_filter.mpr ⟨(List.mem_erase_of_ne different).mpr inFlight, isProbe⟩

theorem exists_other (calls : List Nat) (distinct : calls.Nodup) (call : Nat)
    (member : call ∈ calls) (several : calls.length ≠ 1) : ∃ other ∈ calls, call ≠ other := by
  match calls with
  | [] => simp at member
  | [only] => simp at several
  | first :: second :: rest =>
      have apart : first ≠ second := by
        intro same
        simp [same] at distinct
      by_cases isFirst : call = first
      · exact ⟨second, by simp, by omega⟩
      · exact ⟨first, by simp, isFirst⟩

theorem overlap_possible (policy : BreakerPolicy) (watch : Watch) (numbered : watch.Numbered)
    (held : watch.SlotHeld) (halfOpen : watch.breaker.phase = .halfOpen)
    (unaccounted : ¬ watch.SlotAccounts) :
    ∃ more : List Act, (more.foldl (step policy) watch).Overlapping watch.trials := by
  cases flag : watch.breaker.probing with
  | true =>
      obtain ⟨owner, pending, _, isProbe⟩ := held.owner flag
      obtain ⟨other, alsoPending, different⟩ := exists_other watch.calls numbered.distinct owner
        pending (by simpa [SlotAccounts, flag] using unaccounted)
      refine ⟨[.drop other, .start], ?_⟩
      exact overlapping_drop_start policy watch numbered halfOpen owner other
        (List.mem_filter.mpr ⟨pending, isProbe⟩) alsoPending different
  | false =>
      -- The place is free, so a probe is let in first; then the old call leaves.
      have some : watch.calls ≠ [] := by
        intro none
        simp [SlotAccounts, flag, none] at unaccounted
      obtain ⟨other, pending⟩ := List.exists_mem_of_ne_nil _ some
      have within := within_of_halfOpen watch (.admitted watch.admissions)
        { watch.breaker with probing := true } halfOpen
      have started := start_free policy watch halfOpen flag
      have same : (watch.start policy).trials = watch.trials := by
        simp [started, trials_record, within]
      refine ⟨[.start, .drop other, .start], ?_⟩
      rw [← same]
      refine overlapping_drop_start policy (watch.start policy) ?_ ?_ watch.admissions other
        ?_ ?_ ?_
      · exact numbered_move policy watch _ (step_move policy watch .start) numbered
      · simpa [started] using halfOpen
      · rw [started, probes_admitted_within watch numbered _ within]
        exact List.mem_cons_self
      · rw [started, record_calls]
        exact List.mem_cons_of_mem _ pending
      · have below := numbered.pending other pending
        omega

/-- During a trial in which no call from before it has left, at most one probe is in
flight. And the rest of a trial is sure to stay that way if and only if, as it stands,
no call is in flight but the owner of the place. -/
theorem one_probe_exactly_when_alone (policy : BreakerPolicy) (acts : List Act)
    (halfOpen : (run policy acts).breaker.phase = .halfOpen) :
    let watch := run policy acts
    (watch.outsiderLeft = false → watch.probes.length ≤ 1) ∧
      ((∀ more, let later := run policy (acts ++ more)
          later.trials = watch.trials → later.breaker.phase = .halfOpen →
            later.probes.length ≤ 1) ↔
        watch.calls.length = watch.breaker.probing.toNat) := by
  intro watch
  have numbered : watch.Numbered := run_numbered policy acts
  have held : watch.SlotHeld := run_slotHeld policy acts
  constructor
  · intro quiet
    have few : watch.probes.length = watch.breaker.probing.toNat :=
      run_explained policy acts halfOpen quiet
    have atMost : watch.breaker.probing.toNat ≤ 1 := Bool.toNat_le _
    omega
  constructor
  · intro always
    apply Decidable.byContradiction
    intro unaccounted
    obtain ⟨more, same, still, two⟩ :=
      overlap_possible policy watch numbered held halfOpen unaccounted
    rw [← run_append] at same still two
    have one := always more same still
    omega
  · intro accounts more later same still
    have alone : later.Alone watch.trials := by
      change (run policy (acts ++ more)).Alone watch.trials
      rw [run_append]
      exact fold_invariant policy (Alone watch.trials) (alone_move policy watch.trials) more watch
        ⟨Nat.le_refl _, fun _ _ => accounts⟩
    have settled := alone.2 same still
    have atMost : later.breaker.probing.toNat ≤ 1 := Bool.toNat_le _
    calc later.probes.length ≤ later.calls.length := List.length_filter_le _ _
      _ = later.breaker.probing.toNat := settled
      _ ≤ 1 := atMost

/-- Call 0 is as old as the failure of call 1 that opened the breaker. -/
theorem trial_beside_an_old_call :
    let policy : BreakerPolicy := { failureThreshold := 1, openDuration := 10 }
    let acts : List Act := [.start, .start, .finish 1 .transient, .advance 10, .start]
    (run policy acts).breaker.phase = .halfOpen ∧
      ¬ ∀ more, let later := run policy (acts ++ more)
        later.trials = (run policy acts).trials → later.breaker.phase = .halfOpen →
          later.probes.length ≤ 1 := by
  intro policy acts
  have halfOpen : (run policy acts).breaker.phase = .halfOpen := by decide
  have exact' := (one_probe_exactly_when_alone policy acts halfOpen).2
  exact ⟨halfOpen, fun always => absurd (exact'.mp always) (by decide)⟩

/-- When that call is given up, probe 2 gets company. -/
theorem two_probes_in_flight :
    let watch := run { failureThreshold := 1, openDuration := 10 }
      [.start, .start, .finish 1 .transient, .advance 10, .start, .drop 0, .start]
    watch.breaker.phase = .halfOpen ∧ watch.probes = [3, 2] := by
  decide

end Watch
end Roster
