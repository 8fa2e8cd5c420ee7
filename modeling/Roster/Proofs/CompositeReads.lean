import Roster.Proofs.CompositeJoin
import Roster.Proofs.MetricsCounts
import Roster.Proofs.StoreRecords

/-!
What becomes of a composite read, however it is polled. It asks for the organization once and for
the members at most once, and it ends as the answers to these have it, at the time when the last of
them that matters is there.
-/

namespace Roster

open Composite (seconds view)

namespace Composite

variable {σ : Type}

inductive Pending : Part (Except Fault Organization) → Part (List Member) → Prop where
  | organization (time : Nat) (value : Except Fault Organization) (members : Part (List Member)) :
      Pending (.due time value) members
  | members (found : Organization) (time : Nat) (value : List Member) :
      Pending (.here (.ok found)) (.due time value)

namespace Inquiry

variable (inquiry : Inquiry σ) (state : σ)

def organization : σ × Timed (Except Fault Organization) :=
  inquiry.composite.organization inquiry.id inquiry.options state

def members : σ × Timed (List Member) :=
  inquiry.composite.members inquiry.id (inquiry.organization state).1

def read : σ × Timed (Except Fault Aggregate) :=
  inquiry.composite.readBoth inquiry.id inquiry.options state

def get : σ × Timed (Except Fault Aggregate) :=
  inquiry.composite.get inquiry.id inquiry.options state

def asks : List Ask :=
  if inquiry.id < 1 then []
  else match (inquiry.organization state).2 with
    | ⟨0, .error _⟩ => [.organization inquiry.id inquiry.options]
    | _ => [.organization inquiry.id inquiry.options, .members inquiry.id]

structure Ended (fetch : Fetch σ) : Prop where
  answer : fetch.answer = some (inquiry.get state).2
  now : fetch.now = inquiry.start + (inquiry.get state).2.after
  left : fetch.state = (inquiry.get state).1
  asked : fetch.asked = inquiry.asks state

structure Asked (fetch : Fetch σ) : Prop where
  valid : 1 ≤ inquiry.id
  slow : ∀ fault, (inquiry.organization state).2 ≠ ⟨0, .error fault⟩
  answer : fetch.answer = none
  polled : 0 < fetch.polls
  left : fetch.state = (inquiry.members state).1
  asked : fetch.asked = [.organization inquiry.id inquiry.options, .members inquiry.id]
  organization : fetch.organization.Fits inquiry.start fetch.now (inquiry.organization state).2
  members : fetch.members.Fits inquiry.start fetch.now (inquiry.members state).2

/-- How far a read can have come. -/
inductive Stage (fetch : Fetch σ) : Prop where
  | fresh (valid : 1 ≤ inquiry.id) (is : fetch = { now := inquiry.start, state })
  | underWay (asked : inquiry.Asked state fetch)
      (pending : Pending fetch.organization fetch.members)
  | ended (ended : inquiry.Ended state fetch)

/-! ### What a read comes to -/

theorem get_low (low : inquiry.id < 1) : inquiry.get state =
    (inquiry.composite.conclude "get" (inquiry.composite.record
      (·.observeRead (outcomeLabel (.error (.invalidId inquiry.id) : Except Fault Aggregate))
        (seconds 0)) state) (.error (.invalidId inquiry.id) : Except Fault Aggregate),
      .now (.error (.invalidId inquiry.id))) := by
  simp only [get, Composite.get, Composite.read, Fault.checkId_low _ low, Timed.now]

theorem get_counted (valid : 1 ≤ inquiry.id) : inquiry.get state =
    (inquiry.composite.conclude "get" (inquiry.composite.record
      (·.observeRead (outcomeLabel (inquiry.read state).2.value)
        (seconds (inquiry.read state).2.after)) (inquiry.read state).1)
      (inquiry.read state).2.value, (inquiry.read state).2) := by
  simp only [get, Composite.get, Composite.read, Fault.checkId_valid _ valid]
  rfl

theorem get_valid (valid : 1 ≤ inquiry.id) : (inquiry.get state).2 = (inquiry.read state).2 := by
  rw [inquiry.get_counted state valid]

theorem read_failed_at_once (fault : Fault)
    (failed : (inquiry.organization state).2 = ⟨0, .error fault⟩) :
    inquiry.read state = ((inquiry.organization state).1, .now (.error fault)) := by
  have after : (inquiry.organization state).2.after = 0 := by rw [failed]
  have value : (inquiry.organization state).2.value = .error fault := by rw [failed]
  unfold organization at after value ⊢
  simp only [read, readBoth, value, after, if_true]

theorem read_failed (fault : Fault) (failed : (inquiry.organization state).2.value = .error fault)
    (slow : (inquiry.organization state).2.after ≠ 0) :
    inquiry.read state =
      ((inquiry.members state).1, ⟨(inquiry.organization state).2.after, .error fault⟩) := by
  unfold organization at failed slow
  simp only [read, readBoth, failed, if_neg slow]
  rfl

theorem read_found (found : Organization)
    (served : (inquiry.organization state).2.value = .ok found) :
    inquiry.read state = ((inquiry.members state).1,
      ⟨max (inquiry.organization state).2.after (inquiry.members state).2.after,
        .ok (view inquiry.composite.address found (inquiry.members state).2.value)⟩) := by
  unfold organization at served
  simp only [read, readBoth, served]
  rfl

/-- A read leaves what the last of its questions has left. -/
theorem read_left : (inquiry.read state).1 ∈
    [(inquiry.organization state).1, (inquiry.members state).1] := by
  cases answered : (inquiry.organization state).2.value with
  | ok found =>
      rw [inquiry.read_found state found answered]
      simp
  | error fault =>
      by_cases atOnce : (inquiry.organization state).2.after = 0
      · rw [inquiry.read_failed_at_once state fault (congr (congrArg Timed.mk atOnce) answered)]
        simp
      · rw [inquiry.read_failed state fault answered atOnce]
        simp

theorem asks_slow (valid : 1 ≤ inquiry.id)
    (slow : ∀ fault, (inquiry.organization state).2 ≠ ⟨0, .error fault⟩) :
    inquiry.asks state = [.organization inquiry.id inquiry.options, .members inquiry.id] := by
  rw [asks, if_neg (Int32.not_lt.mpr valid)]
  split
  · next fault failed => exact absurd failed (slow fault)
  · rfl

theorem finish_ended (fetch : Fetch σ) (valid : 1 ≤ inquiry.id)
    (left : fetch.state = (inquiry.read state).1)
    (now : fetch.now = inquiry.start + (inquiry.read state).2.after)
    (asked : fetch.asked = inquiry.asks state) :
    inquiry.Ended state (inquiry.finish (inquiry.read state).2.value fetch) := by
  have took : fetch.now - inquiry.start = (inquiry.read state).2.after := by omega
  have got := inquiry.get_counted state valid
  constructor
  · simp only [finish, took, got]
  · rw [got]
    exact now
  · simp only [finish, took, got, left]
  · exact asked

theorem low_ended (low : inquiry.id < 1) : inquiry.Ended state (inquiry.begin state) := by
  have begun : inquiry.begin state = inquiry.finish (.error (.invalidId inquiry.id))
      { now := inquiry.start, state } := by
    simp only [begin, Fault.checkId_low _ low]
  have got := inquiry.get_low state low
  rw [begun]
  constructor
  · simp only [finish, Nat.sub_self, got, Timed.now]
  · rw [got]
    rfl
  · simp only [finish, Nat.sub_self, got]
  · rw [asks, if_pos low]
    rfl

/-! ### From poll to poll -/

variable {inquiry state} {fetch : Fetch σ}

theorem Asked.read_failed (asked : inquiry.Asked state fetch) (fault : Fault)
    (failed : (inquiry.organization state).2.value = .error fault) :
    inquiry.read state =
      ((inquiry.members state).1, ⟨(inquiry.organization state).2.after, .error fault⟩) :=
  inquiry.read_failed state fault failed fun none =>
    asked.slow fault (congr (congrArg Timed.mk none) failed)

theorem Asked.early (asked : inquiry.Asked state fetch)
    (pending : Pending fetch.organization fetch.members) :
    fetch.now ≤ inquiry.start + (inquiry.read state).2.after := by
  have first := asked.organization
  have second := asked.members
  generalize fetch.organization = organization at pending first
  generalize fetch.members = members at pending second
  cases pending with
  | organization time value members =>
      cases first with
      | due early =>
          cases failed : (inquiry.organization state).2.value with
          | error fault =>
              rw [asked.read_failed fault failed]
              exact early
          | ok found =>
              rw [inquiry.read_found state found failed]
              exact Nat.le_trans early (Nat.add_le_add_left (Nat.le_max_left ..) _)
  | members found time value =>
      obtain ⟨served, _⟩ := Part.fits_here _ _ _ _ first
      rw [inquiry.read_found state found served]
      cases second with
      | due early => exact Nat.le_trans early (Nat.add_le_add_left (Nat.le_max_right ..) _)

/-- A read whose parts were seen ends if it can, and else goes on with a part that is due. -/
theorem Asked.settled (asked : inquiry.Asked state fetch)
    (early : fetch.now ≤ inquiry.start + (inquiry.read state).2.after) :
    (inquiry.settle fetch = fetch ∧ Pending fetch.organization fetch.members) ∨
      inquiry.Ended state (inquiry.settle fetch) := by
  have asks : fetch.asked = inquiry.asks state :=
    asked.asked.trans (inquiry.asks_slow state asked.valid asked.slow).symm
  have first := asked.organization
  have second := asked.members
  generalize isFirst : fetch.organization = organization at first
  generalize isSecond : fetch.members = members at second
  unfold settle
  cases first with
  | due =>
      left
      rw [isFirst]
      exact ⟨rfl, .organization ..⟩
  | here there =>
      cases answered : (inquiry.organization state).2.value with
      | error fault =>
          right
          have read := asked.read_failed fault answered
          rw [isFirst, answered]
          rw [read] at early
          have ended := inquiry.finish_ended state fetch asked.valid
            (by rw [read]; exact asked.left)
            (by rw [read]; exact Nat.le_antisymm early there) asks
          rwa [read] at ended
      | ok found =>
          have read := inquiry.read_found state found answered
          cases second with
          | due =>
              left
              rw [isFirst, isSecond, answered]
              exact ⟨rfl, .members ..⟩
          | here listed =>
              right
              rw [isFirst, isSecond, answered]
              rw [read] at early
              have ended := inquiry.finish_ended state fetch asked.valid
                (by rw [read]; exact asked.left) (by rw [read]; simp only at early ⊢; omega) asks
              rwa [read] at ended

theorem Asked.pollOrganization_eq (asked : inquiry.Asked state fetch) :
    inquiry.pollOrganization fetch =
      { fetch with organization := fetch.organization.poll fetch.now } := by
  have first := asked.organization
  generalize is : fetch.organization = organization at first
  unfold pollOrganization
  cases first <;> rw [is]

theorem Asked.pollMembers_eq (asked : inquiry.Asked state fetch) :
    inquiry.pollMembers fetch = { fetch with members := fetch.members.poll fetch.now } := by
  have second := asked.members
  generalize is : fetch.members = members at second
  unfold pollMembers
  cases second <;> rw [is]

theorem Asked.organization_polled (asked : inquiry.Asked state fetch) :
    inquiry.Asked state { fetch with organization := fetch.organization.poll fetch.now } :=
  { asked with organization := Part.fits_poll _ _ _ _ asked.organization }

theorem Asked.members_polled (asked : inquiry.Asked state fetch) :
    inquiry.Asked state { fetch with members := fetch.members.poll fetch.now } :=
  { asked with members := Part.fits_poll _ _ _ _ asked.members }

theorem Asked.polled_parts (asked : inquiry.Asked state fetch) :
    ∃ next, inquiry.poll fetch = inquiry.settle next ∧ inquiry.Asked state next ∧
      next.now = fetch.now ∧ next.organization = fetch.organization.poll fetch.now ∧
      (next.members = fetch.members.poll fetch.now ∨
        ∃ fault, next.organization = .here (.error fault)) := by
  have counted : inquiry.Asked state { fetch with polls := fetch.polls + 1 } :=
    { asked with polled := Nat.succ_pos _ }
  unfold poll
  split
  · have first := counted.organization_polled
    simp only [counted.pollOrganization_eq]
    split
    · next fault failed =>
      refine ⟨_, ?_, first, rfl, rfl, .inr ⟨fault, failed⟩⟩
      simp only [settle, failed]
    · rw [first.pollMembers_eq]
      exact ⟨_, rfl, first.members_polled, rfl, rfl, .inl rfl⟩
  · have second := counted.members_polled
    simp only [counted.pollMembers_eq]
    rw [second.pollOrganization_eq]
    exact ⟨_, rfl, second.organization_polled, rfl, rfl, .inl rfl⟩

theorem Asked.polled_stage (asked : inquiry.Asked state fetch)
    (pending : Pending fetch.organization fetch.members) :
    inquiry.Stage state (inquiry.poll fetch) := by
  obtain ⟨next, polled, still, now, _⟩ := asked.polled_parts
  rw [polled]
  have early : next.now ≤ inquiry.start + (inquiry.read state).2.after := by
    rw [now]
    exact asked.early pending
  rcases still.settled early with ⟨same, pending⟩ | ended
  · rw [same]
    exact .underWay still pending
  · exact .ended ended

def askedFirst (inquiry : Inquiry σ) (state : σ) : Fetch σ where
  now := inquiry.start
  state := (inquiry.organization state).1
  polls := 1
  organization := Part.poll inquiry.start
    (.due (inquiry.start + (inquiry.organization state).2.after)
      (inquiry.organization state).2.value)
  asked := [.organization inquiry.id inquiry.options]

def askedBoth (inquiry : Inquiry σ) (state : σ) : Fetch σ :=
  { inquiry.askedFirst state with
    state := (inquiry.members state).1
    members := Part.poll inquiry.start
      (.due (inquiry.start + (inquiry.members state).2.after) (inquiry.members state).2.value)
    asked := [.organization inquiry.id inquiry.options, .members inquiry.id] }

theorem poll_fresh : inquiry.poll { now := inquiry.start, state } =
    match (inquiry.askedFirst state).organization with
    | .here (.error fault) => inquiry.finish (.error fault) (inquiry.askedFirst state)
    | _ => inquiry.settle (inquiry.askedBoth state) := rfl

theorem failed_at_once_ended (valid : 1 ≤ inquiry.id) (fault : Fault)
    (failed : (inquiry.organization state).2 = ⟨0, .error fault⟩) :
    inquiry.Ended state (inquiry.poll { now := inquiry.start, state }) := by
  have there : (inquiry.askedFirst state).organization = .here (.error fault) := by
    simp only [askedFirst, failed]
    exact Part.poll_there _ _ _ (Nat.le_refl inquiry.start)
  have asks : inquiry.asks state = [.organization inquiry.id inquiry.options] := by
    simp only [Inquiry.asks, if_neg (Int32.not_lt.mpr valid), failed]
  have read := inquiry.read_failed_at_once state fault failed
  have ended := inquiry.finish_ended state (inquiry.askedFirst state) valid (by rw [read]; rfl)
    (by rw [read]; rfl) (by rw [asks]; rfl)
  rw [read] at ended
  rw [poll_fresh, there]
  exact ended

theorem askedBoth_asked (valid : 1 ≤ inquiry.id)
    (slow : ∀ fault, (inquiry.organization state).2 ≠ ⟨0, .error fault⟩) :
    inquiry.Asked state (inquiry.askedBoth state) where
  valid := valid
  slow := slow
  answer := rfl
  polled := Nat.one_pos
  left := rfl
  asked := rfl
  organization := Part.fits_asked inquiry.start _
  members := Part.fits_asked inquiry.start _

theorem fresh_polled (valid : 1 ≤ inquiry.id) :
    let next := inquiry.poll { now := inquiry.start, state }
    inquiry.Ended state next ∨
      (inquiry.Asked state next ∧ Pending next.organization next.members) := by
  intro next
  by_cases failed : ∃ fault, (inquiry.organization state).2 = ⟨0, .error fault⟩
  · obtain ⟨fault, failed⟩ := failed
    exact .inl (failed_at_once_ended valid fault failed)
  · have slow : ∀ fault, (inquiry.organization state).2 ≠ ⟨0, .error fault⟩ :=
      fun fault same => failed ⟨fault, same⟩
    have asked : inquiry.Asked state (inquiry.askedBoth state) := askedBoth_asked valid slow
    have polled : next = inquiry.settle (inquiry.askedBoth state) := by
      change inquiry.poll _ = _
      rw [poll_fresh]
      split
      · next fault there =>
        have first := asked.organization
        change (inquiry.askedFirst state).organization.Fits _ _ _ at first
        rw [there] at first
        obtain ⟨value, after⟩ := Part.fits_here _ _ _ _ first
        have none : (inquiry.organization state).2.after = 0 :=
          Nat.le_zero.mp (Nat.le_of_add_le_add_left after)
        exact absurd (congr (congrArg Timed.mk none) value) (slow fault)
      · rfl
    rw [polled]
    rcases asked.settled (Nat.le_add_right _ _) with ⟨same, pending⟩ | ended
    · rw [same]
      exact .inr ⟨asked, pending⟩
    · exact .inl ended

theorem Asked.waited (asked : inquiry.Asked state fetch) (duration : Nat)
    (may : fetch.mayWait duration = true) :
    inquiry.Asked state { fetch with now := fetch.now + duration } := by
  simp only [Fetch.mayWait, Bool.and_eq_true] at may
  obtain ⟨⟨_, first⟩, second⟩ := may
  have le : fetch.now ≤ fetch.now + duration := Nat.le_add_right ..
  exact { asked with
    organization := Part.fits_later _ _ _ _ _ le first asked.organization
    members := Part.fits_later _ _ _ _ _ le second asked.members }

theorem step_ended (ended : inquiry.Ended state fetch) (act : Fetch.Act) :
    inquiry.step fetch act = fetch := by
  simp only [step, ended.answer]

theorem Asked.step_wait (asked : inquiry.Asked state fetch) (duration : Nat) :
    inquiry.step fetch (.wait duration) =
      if fetch.mayWait duration then { fetch with now := fetch.now + duration } else fetch := by
  simp only [step, asked.answer]

theorem Asked.step_poll (asked : inquiry.Asked state fetch) :
    inquiry.step fetch .poll = inquiry.poll fetch := by
  simp only [step, asked.answer]

theorem stage_step (act : Fetch.Act) (stage : inquiry.Stage state fetch) :
    inquiry.Stage state (inquiry.step fetch act) := by
  cases stage with
  | ended ended =>
      rw [step_ended ended act]
      exact .ended ended
  | fresh valid is =>
      subst is
      cases act with
      | poll =>
          rcases fresh_polled valid with ended | ⟨asked, pending⟩
          · exact .ended ended
          · exact .underWay asked pending
      | wait duration => exact .fresh valid rfl
  | underWay asked pending =>
      cases act with
      | poll =>
          rw [asked.step_poll]
          exact asked.polled_stage pending
      | wait duration =>
          rw [asked.step_wait duration]
          split
          · next may => exact .underWay (asked.waited duration may) pending
          · exact .underWay asked pending

theorem stage_begin : inquiry.Stage state (inquiry.begin state) := by
  rcases Decidable.em (inquiry.id < 1) with low | high
  · exact .ended (inquiry.low_ended state low)
  · have valid : 1 ≤ inquiry.id := Int32.not_lt.mp high
    have begun : inquiry.begin state = { now := inquiry.start, state } := by
      simp only [begin, Fault.checkId_valid _ valid]
    rw [begun]
    exact .fresh valid rfl

theorem stage_run (acts : List Fetch.Act) (stage : inquiry.Stage state fetch) :
    inquiry.Stage state (inquiry.run acts fetch) := by
  induction acts generalizing fetch with
  | nil => exact stage
  | cons act rest ih => exact ih (stage_step act stage)

/-! ### Going on to the end -/

/-- What is pending can be waited for until a part is there that was not. -/
theorem next_due (start now : Nat) (answer : Timed (Except Fault Organization))
    (listed : Timed (List Member)) {organization : Part (Except Fault Organization)}
    {members : Part (List Member)} (pending : Pending organization members)
    (first : organization.Fits start now answer) (second : members.Fits start now listed) :
    ∃ later, now ≤ later ∧ organization.lets later = true ∧ members.lets later = true ∧
      (organization.poll later).waiting + (members.poll later).waiting <
        organization.waiting + members.waiting := by
  cases pending with
  | members found time value =>
      cases second with
      | due early =>
          refine ⟨_, early, rfl, decide_eq_true (Nat.le_refl _), ?_⟩
          rw [Part.poll_there _ _ _ (Nat.le_refl _)]
          exact Nat.one_pos
  | organization time value =>
      cases first with
      | due early =>
          cases second with
          | here there =>
              refine ⟨_, early, decide_eq_true (Nat.le_refl _), rfl, ?_⟩
              rw [Part.poll_there _ _ _ (Nat.le_refl _)]
              exact Nat.one_pos
          | due soon =>
              -- The one that comes first is there then, and the other is not lost.
              rcases Nat.le_total (start + answer.after) (start + listed.after) with le | le
              · refine ⟨_, early, decide_eq_true (Nat.le_refl _), decide_eq_true le, ?_⟩
                rw [Part.poll_there _ _ _ (Nat.le_refl (start + answer.after))]
                exact Nat.add_lt_add_of_lt_of_le Nat.one_pos (Part.waiting_poll_le _ _)
              · refine ⟨_, soon, decide_eq_true le, decide_eq_true (Nat.le_refl _), ?_⟩
                rw [Part.poll_there _ _ _ (Nat.le_refl (start + listed.after))]
                exact Nat.add_lt_add_of_le_of_lt (Part.waiting_poll_le _ _) Nat.one_pos

/-- A wait and a poll bring a read to its end, or see a part more. -/
theorem Asked.goes_on (asked : inquiry.Asked state fetch)
    (pending : Pending fetch.organization fetch.members) :
    ∃ duration, let next := inquiry.run [.wait duration, .poll] fetch
      inquiry.Ended state next ∨ (inquiry.Asked state next ∧
        Pending next.organization next.members ∧
        next.organization.waiting + next.members.waiting <
          fetch.organization.waiting + fetch.members.waiting) := by
  obtain ⟨later, le, lets, allows, fewer⟩ :=
    next_due inquiry.start fetch.now _ _ pending asked.organization asked.members
  obtain ⟨duration, rfl⟩ := Nat.exists_eq_add_of_le le
  have may : fetch.mayWait duration = true := by
    simp only [Fetch.mayWait, decide_eq_true asked.polled, lets, allows, Bool.and_self]
  have waited := asked.waited duration may
  have ran : inquiry.run [.wait duration, .poll] fetch =
      inquiry.poll { fetch with now := fetch.now + duration } := by
    change inquiry.step (inquiry.step fetch (.wait duration)) .poll = _
    rw [asked.step_wait duration, if_pos may, waited.step_poll]
  refine ⟨duration, ?_⟩
  rw [ran]
  obtain ⟨next, polled, still, now, first, second⟩ := waited.polled_parts
  have early : next.now ≤ inquiry.start + (inquiry.read state).2.after := by
    rw [now]
    exact waited.early pending
  rw [polled]
  rcases still.settled early with ⟨same, pending⟩ | ended
  · right
    rw [same]
    refine ⟨still, pending, ?_⟩
    rcases second with second | ⟨fault, failed⟩
    · rw [first, second]
      exact fewer
    · rw [failed] at pending
      cases pending
  · exact .inl ended

theorem Asked.can_end (asked : inquiry.Asked state fetch)
    (pending : Pending fetch.organization fetch.members) :
    ∃ acts, inquiry.Ended state (inquiry.run acts fetch) := by
  -- The induction is on the parts that have still to be seen; each wait and poll sees one more.
  induction left : fetch.organization.waiting + fetch.members.waiting
    using Nat.strongRecOn generalizing fetch with
  | ind count ih =>
      obtain ⟨duration, ended | ⟨later, still, fewer⟩⟩ := asked.goes_on pending
      · exact ⟨_, ended⟩
      · obtain ⟨acts, ended⟩ := ih _ (left ▸ fewer) later still rfl
        exact ⟨[.wait duration, .poll] ++ acts, by rwa [inquiry.run_append]⟩

theorem stage_can_end (stage : inquiry.Stage state fetch) :
    ∃ acts, inquiry.Ended state (inquiry.run acts fetch) := by
  cases stage with
  | ended ended => exact ⟨[], ended⟩
  | underWay asked pending => exact asked.can_end pending
  | fresh valid is =>
      subst is
      rcases fresh_polled valid with ended | ⟨asked, pending⟩
      · exact ⟨[.poll], ended⟩
      · obtain ⟨acts, ended⟩ := asked.can_end pending
        exact ⟨.poll :: acts, ended⟩

/-! ### Reads as a whole -/

/-- What is to be said of a read at any time, however it is polled. -/
structure Joins (inquiry : Inquiry σ) (state : σ) (fetch : Fetch σ) : Prop where
  asked : fetch.asked <+: inquiry.asks state
  early : fetch.now ≤ inquiry.start + (inquiry.get state).2.after
  ended : ∀ answer, fetch.answer = some answer →
    inquiry.Ended state fetch ∧ ∀ acts, inquiry.run acts fetch = fetch
  can_end : ∃ acts, inquiry.Ended state (inquiry.run acts fetch)

theorem stage_joins (stage : inquiry.Stage state fetch) : inquiry.Joins state fetch := by
  have can_end := stage_can_end stage
  cases stage with
  | ended ended =>
      refine ⟨?_, Nat.le_of_eq ended.now, fun answer told => ⟨ended, fun acts => ?_⟩, can_end⟩
      · exact ⟨[], by rw [List.append_nil, ended.asked]⟩
      · exact inquiry.run_ended acts fetch (by rw [told]; rfl)
  | fresh valid is =>
      subst is
      refine ⟨List.nil_prefix, Nat.le_add_right .., fun answer told => ?_, can_end⟩
      cases told
  | underWay asked pending =>
      refine ⟨?_, ?_, fun answer told => ?_, can_end⟩
      · exact ⟨[], by
          rw [List.append_nil, asked.asked, inquiry.asks_slow state asked.valid asked.slow]⟩
      · rw [inquiry.get_valid state asked.valid]
        exact asked.early pending
      · rw [asked.answer] at told
        cases told

structure Zips (inquiry : Inquiry σ) (state : σ) : Prop where
  low : inquiry.id < 1 → inquiry.asks state = [] ∧ (inquiry.get state).2 =
    .now (.error (.invalidPayload s!"Invalid organizationId: {inquiry.id}"))
  failed : 1 ≤ inquiry.id → ∀ fault, (inquiry.organization state).2.value = .error fault →
    (inquiry.get state).2 = ⟨(inquiry.organization state).2.after, .error fault⟩ ∧
    inquiry.asks state = .organization inquiry.id inquiry.options ::
      if (inquiry.organization state).2.after = 0 then [] else [.members inquiry.id]
  found : 1 ≤ inquiry.id → ∀ organization,
    (inquiry.organization state).2.value = .ok organization →
    let members := (inquiry.members state).2.value
    (inquiry.get state).2 =
      ⟨max (inquiry.organization state).2.after (inquiry.members state).2.after, .ok {
        organizationId := organization.id
        name := organization.name
        country := organization.country
        members := some (members.map fun member => member.summary)
        serviceAddresses := some {
          composite := inquiry.composite.address
          organization := organization.originAddress
          member := match members with
            | [] => ""
            | first :: _ => first.originAddress } }⟩ ∧
    inquiry.asks state = [.organization inquiry.id inquiry.options, .members inquiry.id]
  counted : let result := (inquiry.get state).2
    ∃ left ∈ [state, (inquiry.organization state).1, (inquiry.members state).1],
      (inquiry.get state).1 = inquiry.composite.record
        (·.bump (.compositeRequests "get" (outcomeLabel result.value)))
        (inquiry.composite.record
          (·.observeRead (outcomeLabel result.value) (seconds result.after)) left)
  once : ∀ metrics : Metrics, metrics.OneMoreRead (outcomeLabel (inquiry.get state).2.value)
    (seconds (inquiry.get state).2.after)
    ((metrics.observeRead (outcomeLabel (inquiry.get state).2.value)
      (seconds (inquiry.get state).2.after)).bump
        (.compositeRequests "get" (outcomeLabel (inquiry.get state).2.value)))

theorem zips (inquiry : Inquiry σ) (state : σ) : inquiry.Zips state where
  low low := by
    rw [inquiry.get_low state low, asks, if_pos low]
    exact ⟨rfl, rfl⟩
  failed valid fault failed := by
    rw [inquiry.get_valid state valid]
    by_cases atOnce : (inquiry.organization state).2.after = 0
    · have both : (inquiry.organization state).2 = ⟨0, .error fault⟩ :=
        congr (congrArg Timed.mk atOnce) failed
      rw [inquiry.read_failed_at_once state fault both, if_pos atOnce, atOnce, asks,
        if_neg (Int32.not_lt.mpr valid), both]
      exact ⟨rfl, rfl⟩
    · rw [inquiry.read_failed state fault failed atOnce, if_neg atOnce]
      refine ⟨rfl, inquiry.asks_slow state valid fun other same => atOnce ?_⟩
      rw [same]
  found valid organization found := by
    intro members
    rw [inquiry.get_valid state valid, inquiry.read_found state organization found]
    constructor
    · have first : (members.head?.map Member.originAddress).getD "" = match members with
          | [] => ""
          | first :: _ => first.originAddress := by
        cases members <;> rfl
      rw [← first]
      rfl
    · refine inquiry.asks_slow state valid fun fault same => ?_
      rw [same] at found
      cases found
  counted := by
    intro result
    rcases Decidable.em (inquiry.id < 1) with low | high
    · refine ⟨state, List.mem_cons_self, ?_⟩
      simp only [result, inquiry.get_low state low]
      rfl
    · have valid : 1 ≤ inquiry.id := Int32.not_lt.mp high
      refine ⟨(inquiry.read state).1, List.mem_cons_of_mem _ (inquiry.read_left state), ?_⟩
      simp only [result, inquiry.get_counted state valid]
      rfl
  once metrics := metrics.oneMoreRead_counted _ _ (outcomeLabel_mem _)

end Inquiry

/-- However a read is polled, it asks for the organization once, with its options, and for the
members at most once. It goes on until the answers to these allow it to end, and no longer: an
organization that fails ends it with that fault as soon as this is there, whatever the members
would take; one that is found ends it when the members are there as well, with both of them put
together. After that nothing is done any more. A key that cannot be stored is refused with nothing
asked. What the read comes to is counted once and timed once, under one outcome. -/
theorem get_joins_both (composite : Composite σ) (id : Id) (options : ReadOptions) (start : Nat)
    (state : σ) :
    let inquiry : Inquiry σ := ⟨composite, id, options, start⟩
    inquiry.Zips state ∧ ∀ acts, inquiry.Joins state (inquiry.run acts (inquiry.begin state)) := by
  intro inquiry
  exact ⟨inquiry.zips state, fun acts =>
    Inquiry.stage_joins (Inquiry.stage_run acts Inquiry.stage_begin)⟩

/-- An organization that fails after 200 ms is not kept waiting by members that take 5 s. -/
example :
    let composite : Composite (List String) := {
      address := "here:7000"
      organization := fun _ _ log => (log ++ ["organization"], ⟨200, .error (.notFound "none")⟩)
      members := fun _ log => (log ++ ["members"], ⟨5000, []⟩)
      emit := fun _ log => (log, .ok ())
      record := fun _ log => log ++ ["recorded"] }
    let inquiry : Composite.Inquiry (List String) := ⟨composite, 1, {}, 1000⟩
    let ended := inquiry.run [.poll, .wait 150, .wait 5000, .wait 50, .poll, .wait 4800, .poll]
      (inquiry.begin [])
    ended.now = 1200 ∧ ended.answer.map Timed.after = some 200 ∧
      ended.state = ["organization", "members", "recorded", "recorded"] := by
  decide +kernel

end Composite
end Roster
