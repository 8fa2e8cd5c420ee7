import Mathlib.Data.List.Nodup
import Roster.Proofs.BreakerSlot
import Roster.Proofs.PanelNames
import Roster.Traffic

/-!
Calls through the breakers of a panel, each breaker watched by itself. Whatever is done
to the traffic, the breaker of a place goes through what a single breaker goes through in
some run of its own, with as many calls in flight; calls at other places do not matter.
-/

namespace Roster
namespace Traffic

variable {α : Type}

inductive Act (α : Type) where
  | advance (duration : Nat)
  | start (id : String) (place : Nat)
  | finish (id : String) (outcome : Timed (Except Fault α))
  | drop (id : String)
  | call (place : Nat) (outcome : Timed (Except Fault α)) (patience : Option Nat)
  | recordTimeout (place : Nat)

def step (traffic : Traffic) : Act α → Traffic
  | .advance duration => traffic.advance duration
  | .start id place => (traffic.start id place).1
  | .finish id outcome => (traffic.finish id outcome).1
  | .drop id => traffic.drop id
  | .call place outcome patience => (traffic.call place outcome patience).1
  | .recordTimeout place => traffic.recordTimeout place

def callsAt (traffic : Traffic) (place : Nat) : List String :=
  (traffic.calls.filter (·.2 == place)).map (·.1)

/-- A call that is started and ended in one goes unlisted in between. -/
structure Follows (policy : BreakerPolicy) (place : Nat) (unlisted : List Nat) (watch : Watch)
    (traffic : Traffic) : Prop where
  holds : traffic.panel.Holds place policy watch.breaker
  now : watch.now = traffic.now
  numbered : watch.Numbered
  distinct : (traffic.calls.map (·.1)).Nodup
  listed : ∃ names : List (Nat × String), watch.calls = unlisted ++ names.map (·.1) ∧
    traffic.callsAt place = names.map (·.2)

variable (policy : BreakerPolicy) (place : Nat)

theorem callsAt_sublist (traffic : Traffic) :
    (traffic.callsAt place).Sublist (traffic.calls.map (·.1)) :=
  List.Sublist.map _ List.filter_sublist

theorem callsAt_without (traffic : Traffic) (id : String) :
    callsAt { traffic with calls := traffic.calls.filter (·.1 != id) } place =
      (traffic.callsAt place).filter (· != id) := by
  simp only [callsAt, List.filter_map, List.filter_filter, Function.comp_def]
  congr 1
  apply List.filter_congr
  intro call _
  exact Bool.and_comm _ _

theorem mem_callsAt (traffic : Traffic) (id : String)
    (found : traffic.calls.lookup id = some place) : id ∈ traffic.callsAt place := by
  obtain ⟨front, back, calls, _⟩ := List.lookup_eq_some_iff.mp found
  refine List.mem_map.mpr ⟨(id, place), List.mem_filter.mpr ⟨?_, beq_self_eq_true place⟩, rfl⟩
  simp [calls]

theorem notMem_callsAt (traffic : Traffic) (id : String) (other : Nat)
    (distinct : (traffic.calls.map (·.1)).Nodup)
    (found : traffic.calls.lookup id = some other) (apart : other ≠ place) :
    id ∉ traffic.callsAt place := by
  intro member
  obtain ⟨call, listed, rfl⟩ := List.mem_map.mp member
  obtain ⟨inFlight, here⟩ := List.mem_filter.mp listed
  obtain ⟨front, back, calls, _⟩ := List.lookup_eq_some_iff.mp found
  have there : (call.1, other) ∈ traffic.calls := by simp [calls]
  have same := List.inj_on_of_nodup_map distinct inFlight there rfl
  have isPlace : call.2 = place := by simpa using here
  exact apart (isPlace ▸ (congrArg Prod.snd same).symm)

theorem listed_erase (unlisted : List Nat) (names : List (Nat × String)) (call : Nat)
    (id : String) (member : (call, id) ∈ names) (calls : (unlisted ++ names.map (·.1)).Nodup)
    (ids : (names.map (·.2)).Nodup) :
    (unlisted ++ names.map (·.1)).erase call =
        unlisted ++ (names.filter (·.2 != id)).map (·.1) ∧
      (names.map (·.2)).filter (· != id) = (names.filter (·.2 != id)).map (·.2) := by
  obtain ⟨_, callNumbers, apart⟩ := List.nodup_append.mp calls
  have inNames : call ∈ names.map (·.1) := List.mem_map_of_mem member
  have outside : call ∉ unlisted := fun inside => apart call inside call inNames rfl
  -- Numbers and names are each given once, so a pair is known by either of them.
  have sameCalls : ∀ name ∈ names, (name.1 != call) = (name.2 != id) := by
    intro name other
    by_cases isCall : name.1 = call
    · have same := List.inj_on_of_nodup_map callNumbers other member isCall
      simp [same]
    · have apartId : name.2 ≠ id := by
        intro isId
        exact isCall (congrArg Prod.fst (List.inj_on_of_nodup_map ids other member isId))
      rw [bne_iff_ne.mpr isCall, bne_iff_ne.mpr apartId]
  constructor
  · rw [List.erase_append_right _ outside, callNumbers.erase_eq_filter, List.filter_map]
    congr 2
    exact List.filter_congr sameCalls
  · rw [List.filter_map]
    rfl

/-! The parts of an act, in the traffic and in the watch. -/

section Parts

variable (unlisted : List Nat) (watch : Watch) (traffic : Traffic)

theorem follows_advance (duration : Nat) (follows : Follows policy place unlisted watch traffic) :
    Follows policy place unlisted (watch.advance duration) (traffic.advance duration) where
  holds := follows.holds
  now := congrArg (· + duration) follows.now
  numbered := Watch.numbered_move policy _ _ (.wait duration) follows.numbered
  distinct := follows.distinct
  listed := follows.listed

theorem follows_elsewhere (panel : Panel) (follows : Follows policy place unlisted watch traffic)
    (holds : panel.Holds place policy watch.breaker) :
    Follows policy place unlisted watch (traffic.withPanel panel) where
  holds := holds
  now := follows.now
  numbered := follows.numbered
  distinct := follows.distinct
  listed := follows.listed

theorem follows_act (act : Watch.Act) (panel : Panel)
    (follows : Follows policy place unlisted watch traffic)
    (holds : panel.Holds place policy (watch.step policy act).breaker)
    (now : (watch.step policy act).now = watch.now)
    (calls : (watch.step policy act).calls = watch.calls) :
    Follows policy place unlisted (watch.step policy act) (traffic.withPanel panel) where
  holds := holds
  now := now.trans follows.now
  numbered := Watch.numbered_move policy _ _ (Watch.step_move policy watch act) follows.numbered
  distinct := follows.distinct
  listed := by
    rw [calls]
    exact follows.listed

theorem follows_enter (panel : Panel) (admitted : Bool)
    (follows : Follows policy place [] watch traffic)
    (entered : traffic.panel.enter place traffic.now = (panel, admitted)) :
    Follows policy place (if admitted then [watch.admissions] else [])
      (watch.step policy .start) (traffic.withPanel panel) := by
  obtain ⟨holds, same⟩ :=
    traffic.panel.holds_enter place policy watch.breaker traffic.now follows.holds
  rw [entered, ← follows.now] at holds same
  have numbered := Watch.numbered_move policy _ _ (Watch.step_move policy watch .start)
    follows.numbered
  obtain ⟨names, calls, ids⟩ := follows.listed
  cases result : watch.breaker.enter policy watch.now with
  | mk after isAdmitted =>
      rw [result] at holds same
      cases isAdmitted with
      | true =>
          cases same
          have started : watch.step policy .start =
              watch.record (.admitted watch.admissions) after
                (watch.admissions :: watch.calls) := by
            simp [Watch.step, Watch.start, result]
          rw [started] at numbered ⊢
          exact ⟨holds, follows.now, numbered, follows.distinct, names, by simp [calls], ids⟩
      | false =>
          cases same
          have started : watch.step policy .start = watch.record .refused after watch.calls := by
            simp [Watch.step, Watch.start, result]
          rw [started] at numbered ⊢
          exact ⟨holds, follows.now, numbered, follows.distinct, names, by simpa using calls, ids⟩

theorem follows_conclude (outcome : Except Fault α)
    (follows : Follows policy place unlisted watch traffic) :
    (traffic.panel.conclude place traffic.now Fault.isTransient outcome).Holds place policy
      (watch.breaker.conclude policy watch.now (.ofOutcome Fault.isTransient outcome)) := by
  rw [follows.now]
  exact traffic.panel.holds_conclude place policy watch.breaker _ _ outcome follows.holds

theorem follows_unlisted (call : Nat) (next : Watch) (panel : Panel)
    (follows : Follows policy place [call] watch traffic)
    (holds : panel.Holds place policy next.breaker) (now : next.now = watch.now)
    (numbered : next.Numbered) (calls : next.calls = watch.calls.erase call) :
    Follows policy place [] next (traffic.withPanel panel) := by
  obtain ⟨names, before, ids⟩ := follows.listed
  refine ⟨holds, now.trans follows.now, numbered, follows.distinct, names, ?_, ids⟩
  rw [calls, before]
  simp

/-- The end of a listed call at the place is the end of a call in flight of the watch. -/
theorem follows_listed (id : String) (follows : Follows policy place unlisted watch traffic)
    (found : traffic.calls.lookup id = some place) :
    ∃ call ∈ watch.calls, ∀ (next : Watch) (panel : Panel),
      panel.Holds place policy next.breaker → next.now = watch.now → next.Numbered →
      next.calls = watch.calls.erase call →
      Follows policy place unlisted next
        { traffic with panel, calls := traffic.calls.filter (·.1 != id) } := by
  obtain ⟨names, calls, ids⟩ := follows.listed
  have inFlight := mem_callsAt place traffic id found
  rw [ids] at inFlight
  obtain ⟨⟨call, name⟩, member, rfl⟩ := List.mem_map.mp inFlight
  have numbers := follows.numbered.distinct
  rw [calls] at numbers
  have distinctIds : (names.map (·.2)).Nodup := by
    rw [← ids]
    exact follows.distinct.sublist (callsAt_sublist place traffic)
  obtain ⟨erased, without⟩ := listed_erase unlisted names call name member numbers distinctIds
  refine ⟨call, ?_, ?_⟩
  · rw [calls]
    exact List.mem_append_right _ (List.mem_map_of_mem member)
  · intro next panel holds now numbered nextCalls
    refine ⟨holds, now.trans follows.now, numbered, ?_, names.filter (·.2 != name), ?_, ?_⟩
    · exact follows.distinct.sublist (List.Sublist.map _ List.filter_sublist)
    · rw [nextCalls, calls, erased]
    · rw [← without, ← ids]
      exact callsAt_without place { traffic with panel } name

theorem follows_listed_elsewhere (id : String) (other : Nat) (panel : Panel)
    (follows : Follows policy place unlisted watch traffic)
    (found : traffic.calls.lookup id = some other) (apart : other ≠ place)
    (holds : panel.Holds place policy watch.breaker) :
    Follows policy place unlisted watch
      { traffic with panel, calls := traffic.calls.filter (·.1 != id) } := by
  obtain ⟨names, calls, ids⟩ := follows.listed
  refine ⟨holds, follows.now, follows.numbered, ?_, names, calls, ?_⟩
  · exact follows.distinct.sublist (List.Sublist.map _ List.filter_sublist)
  · have notHere := notMem_callsAt place traffic id other follows.distinct found apart
    have unchanged := callsAt_without place { traffic with panel } id
    rw [unchanged, ← ids]
    refine List.filter_eq_self.mpr ?_
    intro name member
    exact bne_iff_ne.mpr (fun same => notHere (same ▸ member))

theorem follows_drop (id : String) (follows : Follows policy place unlisted watch traffic) :
    ∃ acts : List Watch.Act,
      Follows policy place unlisted (acts.foldl (Watch.step policy) watch) (traffic.drop id) := by
  unfold drop
  cases found : traffic.calls.lookup id with
  | none => exact ⟨[], follows⟩
  | some other =>
      by_cases here : other = place
      · subst here
        obtain ⟨call, pending, ends⟩ :=
          follows_listed policy other unlisted watch traffic id follows found
        refine ⟨[.drop call], ?_⟩
        have numbered := Watch.numbered_move policy _ _
          (Watch.step_move policy watch (.drop call)) follows.numbered
        rw [List.foldl_cons, List.foldl_nil]
        rw [Watch.step_drop policy watch call pending] at numbered ⊢
        exact ends _ _ (traffic.panel.holds_update other policy watch.breaker _ follows.holds) rfl
          numbered rfl
      · exact ⟨[], follows_listed_elsewhere policy place unlisted watch traffic id other _ follows
          found here (traffic.panel.holds_update_elsewhere place policy watch.breaker other _
            follows.holds here)⟩

theorem follows_finish (id : String) (outcome : Timed (Except Fault α))
    (follows : Follows policy place unlisted watch traffic) :
    ∃ acts : List Watch.Act,
      Follows policy place unlisted (acts.foldl (Watch.step policy) watch)
        (traffic.finish id outcome).1 := by
  unfold finish
  cases found : traffic.calls.lookup id with
  | none => exact ⟨[], follows⟩
  | some other =>
      have waited := follows_advance policy place unlisted watch traffic outcome.after follows
      by_cases here : other = place
      · subst here
        obtain ⟨call, pending, ends⟩ := follows_listed policy other unlisted _ _ id waited found
        refine ⟨[.advance outcome.after,
          .finish call (.ofOutcome Fault.isTransient outcome.value)], ?_⟩
        have numbered := Watch.numbered_move policy _ _ (Watch.step_move policy
          (watch.advance outcome.after) (.finish call (.ofOutcome Fault.isTransient outcome.value)))
          waited.numbered
        have holds := follows_conclude policy other unlisted _ _ outcome.value waited
        change Follows policy other unlisted
          ((watch.advance outcome.after).step policy (.finish call _)) _
        rw [Watch.step_finish policy (watch.advance outcome.after) call _ pending] at numbered ⊢
        exact ends _ _ holds rfl numbered rfl
      · refine ⟨[.advance outcome.after], ?_⟩
        exact follows_listed_elsewhere policy place unlisted _ _ id other _ waited found here
          ((traffic.advance outcome.after).panel.holds_conclude_elsewhere place policy watch.breaker
            other _ Fault.isTransient outcome.value waited.holds here)

theorem follows_timeout (other : Nat) (follows : Follows policy place unlisted watch traffic) :
    ∃ acts : List Watch.Act,
      Follows policy place unlisted (acts.foldl (Watch.step policy) watch)
        (traffic.recordTimeout other) := by
  by_cases here : other = place
  · subst here
    refine ⟨[.timeOut],
      follows_act policy other unlisted watch traffic .timeOut _ follows ?_ rfl rfl⟩
    simp only [Watch.step, Watch.timeOut, Watch.record_breaker, follows.now]
    exact traffic.panel.holds_update other policy watch.breaker _ follows.holds
  · exact ⟨[], follows_elsewhere policy place unlisted watch traffic _ follows
      (traffic.panel.holds_update_elsewhere place policy watch.breaker other _ follows.holds here)⟩

end Parts

/-! Whole acts. -/

theorem drop_forgets (traffic : Traffic) (id : String) :
    id ∉ (traffic.drop id).calls.map (·.1) := by
  unfold drop
  cases found : traffic.calls.lookup id with
  | none =>
      intro member
      obtain ⟨call, listed, same⟩ := List.mem_map.mp member
      have apart := List.lookup_eq_none_iff.mp found call listed
      simp [same] at apart
  | some other =>
      intro member
      obtain ⟨call, listed, same⟩ := List.mem_map.mp member
      have apart := (List.mem_filter.mp listed).2
      simp [same] at apart

theorem follows_list (watch : Watch) (traffic : Traffic) (call : Nat) (id : String)
    (follows : Follows policy place [call] watch traffic)
    (unknown : id ∉ traffic.calls.map (·.1)) :
    Follows policy place [] watch { traffic with calls := (id, place) :: traffic.calls } := by
  obtain ⟨names, calls, ids⟩ := follows.listed
  refine ⟨follows.holds, follows.now, follows.numbered, ?_, (call, id) :: names, ?_, ?_⟩
  · exact List.nodup_cons.mpr ⟨unknown, follows.distinct⟩
  · simpa using calls
  · have here : callsAt { traffic with calls := (id, place) :: traffic.calls } place =
        id :: traffic.callsAt place := by
      simp [callsAt]
    rw [here, ids]
    rfl

theorem follows_list_elsewhere (watch : Watch) (traffic : Traffic) (id : String) (other : Nat)
    (follows : Follows policy place [] watch traffic) (unknown : id ∉ traffic.calls.map (·.1))
    (apart : other ≠ place) :
    Follows policy place [] watch { traffic with calls := (id, other) :: traffic.calls } := by
  obtain ⟨names, calls, ids⟩ := follows.listed
  refine ⟨follows.holds, follows.now, follows.numbered, ?_, names, calls, ?_⟩
  · exact List.nodup_cons.mpr ⟨unknown, follows.distinct⟩
  · rw [← ids]
    simp [callsAt, apart]

theorem follows_start (watch : Watch) (traffic : Traffic) (id : String) (other : Nat)
    (follows : Follows policy place [] watch traffic) :
    ∃ acts : List Watch.Act,
      Follows policy place [] (acts.foldl (Watch.step policy) watch)
        (traffic.start id other).1 := by
  cases entered : traffic.panel.enter other traffic.now with
  | mk panel admitted =>
      by_cases here : other = place
      · subst here
        have inside := follows_enter policy other watch traffic panel admitted follows entered
        cases admitted with
        | false =>
            refine ⟨[.start], ?_⟩
            simpa [start, entered] using inside
        | true =>
            -- An older call of that name is dropped once the new one has been let in.
            obtain ⟨acts, dropped⟩ := follows_drop policy other _ _ _ id inside
            refine ⟨.start :: acts, ?_⟩
            simp only [start, entered, ↓reduceIte]
            exact follows_list policy other _ _ watch.admissions id dropped (drop_forgets _ id)
      · have holds := traffic.panel.holds_enter_elsewhere place policy watch.breaker other
          traffic.now follows.holds here
        rw [entered] at holds
        have outside := follows_elsewhere policy place [] watch traffic panel follows holds
        cases admitted with
        | false =>
            refine ⟨[], ?_⟩
            simpa [start, entered] using outside
        | true =>
            obtain ⟨acts, dropped⟩ := follows_drop policy place [] _ _ id outside
            refine ⟨acts, ?_⟩
            simp only [start, entered, ↓reduceIte]
            exact follows_list_elsewhere policy place _ _ id other dropped (drop_forgets _ id) here

/-- A call that is begun and ended in one: after a while it is answered or given up. -/
theorem follows_begun (watch : Watch) (traffic : Traffic) (call duration : Nat) (act : Watch.Act)
    (deed : Watch.Deed) (after : Breaker) (panel : Panel)
    (follows : Follows policy place [call] watch traffic)
    (stepped : (watch.advance duration).step policy act =
      (watch.advance duration).record deed after (watch.calls.erase call))
    (holds : panel.Holds place policy after) :
    Follows policy place [] ((watch.advance duration).step policy act)
      ((traffic.advance duration).withPanel panel) := by
  have waited := follows_advance policy place [call] watch traffic duration follows
  have numbered := Watch.numbered_move policy _ _ (Watch.step_move policy _ act) waited.numbered
  rw [stepped] at numbered ⊢
  exact follows_unlisted policy place _ _ call _ panel waited holds rfl numbered rfl

theorem follows_call (watch : Watch) (traffic : Traffic) (outcome : Timed (Except Fault α))
    (patience : Option Nat) (follows : Follows policy place [] watch traffic) :
    ∃ acts : List Watch.Act,
      Follows policy place [] (acts.foldl (Watch.step policy) watch)
        (traffic.call place outcome patience).1 := by
  cases entered : traffic.panel.enter place traffic.now with
  | mk panel admitted =>
      have inside := follows_enter policy place watch traffic panel admitted follows entered
      cases admitted with
      | false =>
          refine ⟨[.start], ?_⟩
          simpa [call, entered] using inside
      | true =>
          have begun : Follows policy place [watch.admissions] (watch.step policy .start)
              (traffic.withPanel panel) := inside
          have pending : watch.admissions ∈ (watch.step policy .start).calls := by
            obtain ⟨names, calls, _⟩ := begun.listed
            simp [calls]
          cases impatient : (patience.map waitFor).filter (· < outcome.after) with
          | some limit =>
              refine ⟨[.start, .advance limit, .drop watch.admissions], ?_⟩
              simp only [call, entered, Bool.not_true, Bool.false_eq_true, ↓reduceIte, impatient]
              exact follows_begun policy place _ _ watch.admissions limit _ _ _ _ begun
                (Watch.step_drop policy (Watch.advance _ limit) _ pending)
                (panel.holds_update place policy _ _ begun.holds)
          | none =>
              refine ⟨[.start, .advance outcome.after, .finish watch.admissions
                (.ofOutcome Fault.isTransient outcome.value)], ?_⟩
              simp only [call, entered, Bool.not_true, Bool.false_eq_true, ↓reduceIte, impatient]
              have waited := follows_advance policy place _ _ _ outcome.after begun
              exact follows_begun policy place _ _ watch.admissions outcome.after _ _ _ _ begun
                (Watch.step_finish policy (Watch.advance _ outcome.after) _ _ pending)
                (follows_conclude policy place _ _ _ outcome.value waited)

theorem follows_call_elsewhere (watch : Watch) (traffic : Traffic) (other : Nat)
    (outcome : Timed (Except Fault α)) (patience : Option Nat)
    (follows : Follows policy place [] watch traffic) (apart : other ≠ place) :
    ∃ acts : List Watch.Act,
      Follows policy place [] (acts.foldl (Watch.step policy) watch)
        (traffic.call other outcome patience).1 := by
  cases entered : traffic.panel.enter other traffic.now with
  | mk panel admitted =>
      have holds := traffic.panel.holds_enter_elsewhere place policy watch.breaker other
        traffic.now follows.holds apart
      rw [entered] at holds
      have outside := follows_elsewhere policy place [] watch traffic panel follows holds
      cases admitted with
      | false =>
          refine ⟨[], ?_⟩
          simpa [call, entered] using outside
      | true =>
          cases impatient : (patience.map waitFor).filter (· < outcome.after) with
          | some limit =>
              refine ⟨[.advance limit], ?_⟩
              simp only [call, entered, Bool.not_true, Bool.false_eq_true, ↓reduceIte, impatient]
              exact follows_elsewhere policy place [] _ _ _
                (follows_advance policy place [] watch _ limit outside)
                (panel.holds_update_elsewhere place policy watch.breaker other _ holds apart)
          | none =>
              refine ⟨[.advance outcome.after], ?_⟩
              simp only [call, entered, Bool.not_true, Bool.false_eq_true, ↓reduceIte, impatient]
              exact follows_elsewhere policy place [] _ _ _
                (follows_advance policy place [] watch _ outcome.after outside)
                (panel.holds_conclude_elsewhere place policy watch.breaker other _
                  Fault.isTransient outcome.value holds apart)

theorem step_followed (watch : Watch) (traffic : Traffic) (act : Act α)
    (follows : Follows policy place [] watch traffic) :
    ∃ acts : List Watch.Act,
      Follows policy place [] (acts.foldl (Watch.step policy) watch) (traffic.step act) := by
  cases act with
  | advance duration =>
      exact ⟨[.advance duration], follows_advance policy place [] watch traffic duration follows⟩
  | start id other => exact follows_start policy place watch traffic id other follows
  | finish id outcome => exact follows_finish policy place [] watch traffic id outcome follows
  | drop id => exact follows_drop policy place [] watch traffic id follows
  | call other outcome patience =>
      by_cases here : other = place
      · subst here
        exact follows_call policy other watch traffic outcome patience follows
      · exact follows_call_elsewhere policy place watch traffic other outcome patience follows here
  | recordTimeout other => exact follows_timeout policy place [] watch traffic other follows

/-- Every history of the traffic is, at every place, the run of a single breaker. -/
theorem traffic_followed (traffic : Traffic) (fresh : traffic.panel.Holds place policy {})
    (idle : traffic.callsAt place = []) (distinct : (traffic.calls.map (·.1)).Nodup)
    (acts : List (Act α)) :
    ∃ run : List Watch.Act,
      Follows policy place [] (Watch.run policy run) (acts.foldl step traffic) := by
  have general : ∀ (acts : List (Act α)) (past : List Watch.Act) (traffic : Traffic),
      Follows policy place [] (Watch.run policy past) traffic →
      ∃ run, Follows policy place [] (Watch.run policy run) (acts.foldl step traffic) := by
    intro acts
    induction acts with
    | nil => exact fun past _ follows => ⟨past, follows⟩
    | cons act rest ih =>
        intro past traffic follows
        obtain ⟨more, further⟩ := step_followed policy place _ traffic act follows
        rw [← Watch.run_append] at further
        exact ih _ _ further
  -- A watch begins at time zero, so it first waits until the traffic begins.
  refine general acts [.advance traffic.now] traffic
    ⟨fresh, Nat.zero_add _, ?_, distinct, [], rfl, idle⟩
  exact Watch.run_numbered policy [.advance traffic.now]

/-- A set flag at a place means that a call is in flight there; and where none is, the next
one is let in after a pause at the latest. -/
theorem place_never_leaks (traffic : Traffic) (fresh : traffic.panel.Holds place policy {})
    (idle : traffic.callsAt place = []) (distinct : (traffic.calls.map (·.1)).Nodup)
    (acts : List (Act α)) (breaker : Breaker)
    (holds : (acts.foldl step traffic).panel.Holds place policy breaker) :
    let later := acts.foldl step traffic
    (breaker.probing = true → breaker.phase = .halfOpen ∧ later.callsAt place ≠ []) ∧
      (later.callsAt place = [] →
        (later.panel.enter place (later.now + policy.openDuration)).2 = true) := by
  intro later
  obtain ⟨run, follows⟩ := traffic_followed policy place traffic fresh idle distinct acts
  have same : (Watch.run policy run).breaker = breaker := by
    obtain ⟨switch, found, _, isBreaker⟩ := holds
    obtain ⟨other, foundToo, _, isWatched⟩ := follows.holds
    rw [found, Option.some.injEq] at foundToo
    rw [← isBreaker, ← isWatched, foundToo]
  obtain ⟨names, calls, ids⟩ := follows.listed
  have held := Watch.run_slotHeld policy run
  constructor
  · intro set
    rw [← same] at set ⊢
    obtain ⟨call, member, _⟩ := held.owner set
    refine ⟨held.tidy set, ?_⟩
    intro none
    rw [ids, List.map_eq_nil_iff] at none
    simp [calls, none] at member
  · intro none
    rw [ids, List.map_eq_nil_iff] at none
    have admitting := Watch.admitting_after_pause policy _ held (Watch.run_rested policy run)
      (by simp [calls, none])
    have entered := (later.panel.holds_enter place policy _ (later.now + policy.openDuration)
      follows.holds).2
    rw [entered, ← follows.now]
    exact admitting

end Traffic
end Roster
