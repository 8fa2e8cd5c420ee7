import Roster.Proofs.OutageBreaker

/-!
A backend that is down. It fails every read at once, so no answer is ever waited for, and each
act of a play is one of the few things that can befall the breaker.
-/

namespace Roster

open Reading (Ask Moved Limited conclude_concluded)

/-- Every read fails at once, for the reason that the backend is unavailable. -/
def Reading.IsDead {σ : Type} (ask : Ask σ) : Prop :=
  ∀ now id options source, ∃ message,
    (ask now id options source).2 = ⟨0, .error (.backendUnavailable message)⟩

theorem Reading.answer_dead {σ : Type} (ask : Reading.Ask σ) (dead : Reading.IsDead ask)
    (now : Nat) (id : Id) (options : ReadOptions) (before after : σ)
    (answer : Timed (Except Fault Organization))
    (asks : ask now id options before = (after, answer)) :
    ∃ message, answer = ⟨0, .error (.backendUnavailable message)⟩ := by
  obtain ⟨message, isDown⟩ := dead now id options before
  rw [asks] at isDown
  exact ⟨message, isDown⟩

namespace Play

variable {σ : Type}

def callsAt (place : Nat) (play : Play σ) : List Entry :=
  (play.recordAt place).filter (·.deed.isAsking)

/-! ### The acts of a play -/

def calling (turn : Turn σ) (who : Nat) (deeds : List Reading.Deed) : List Entry :=
  (entries turn who deeds).filter (·.deed.isAsking)

theorem callsAt_here (place : Nat) (play : Play σ) (who : Nat) (turn : Turn σ)
    (reading next : Reading) (deeds : List Reading.Deed)
    (found : play.scene.readings[who]? = some reading) (same : next.guard = reading.guard)
    (here : reading.guard.place = place) :
    (play.note who turn next deeds).callsAt place =
      play.callsAt place ++ calling play.scene.turn who deeds := by
  rw [callsAt, recordAt_here place play who turn reading next deeds found same here,
    List.filter_append]
  rfl

section Deeds

variable (ask : Ask σ) (policy : BreakerPolicy) (place : Nat) (turn after : Turn σ)
  (reading next : Reading) (who : Nat) (deeds : List Reading.Deed) (calls : List Entry)
  (breaker : Breaker)

theorem concluded_dead (now number delay : Nat) (panel : Panel) (message : String)
    (holds : panel.Holds place policy breaker) (here : reading.guard.place = place) :
    (Reading.conclude now panel reading number delay
      (.error (.backendUnavailable message))).1.Holds place policy (breaker.fail policy now) :=
  holds_answered policy place breaker now panel reading number delay _ holds here

theorem struck_silent (outage : Outage) (now : Nat) (silent : calling turn who deeds = [])
    (struck : Struck policy place outage ⟨calls, now, breaker⟩) :
    Struck policy place outage ⟨calls ++ calling turn who deeds, now, breaker⟩ := by
  rwa [silent, List.append_nil]

theorem struck_moved (dead : Reading.IsDead ask) (here : reading.guard.place = place)
    (idle : reading.isAsking = false) (holds : turn.panel.Holds place policy breaker)
    (moved : Moved ask turn reading deeds after next) :
    ∃ later, after.panel.Holds place policy later ∧
      Struck policy place ⟨calls, turn.now, breaker⟩
        ⟨calls ++ calling turn who deeds, after.now, later⟩ := by
  cases moved with
  | refused number delay panel stage knocked =>
      obtain ⟨entered, hot⟩ :=
        holds_knock policy place breaker turn reading number panel false knocked holds here
      exact ⟨_, entered, struck_silent policy place turn who _ calls _ _ turn.now rfl
        (Struck.refused hot.symm)⟩
  | asked number delay panel source answer stage knocked asks later =>
      obtain ⟨message, rfl⟩ := Reading.answer_dead ask dead _ _ _ _ _ answer asks
      exact absurd rfl later
  | answeredAtOnce number delay panel source answer stage knocked asks atOnce =>
      obtain ⟨message, rfl⟩ := Reading.answer_dead ask dead _ _ _ _ _ answer asks
      obtain ⟨entered, admitted⟩ :=
        holds_knock policy place breaker turn reading number panel true knocked holds here
      have failed := concluded_dead policy place reading _ turn.now number delay panel message
        entered here
      -- The call and its failure are one act: no time passes between them.
      exact ⟨_, failed, Struck.called ⟨who, turn.now, turn.panel, .asked number _ _ _⟩ rfl holds
        admitted.symm⟩
  | answered number delay due answer stage ends => simp [Reading.isAsking, stage] at idle
  | resumed number delay due stage ends =>
      exact ⟨breaker, holds, struck_silent policy place turn who _ calls _ _ turn.now rfl
        (Struck.spared _ (Nat.le_refl _))⟩

theorem struck_abandoned (here : reading.guard.place = place) (idle : reading.isAsking = false)
    (holds : turn.panel.Holds place policy breaker) :
    (reading.letGo turn.panel).Holds place policy breaker ∧
      Struck policy place ⟨calls, turn.now, breaker⟩
        ⟨calls ++ calling turn who [.abandoned], turn.now, breaker⟩ := by
  constructor
  · have released := holds_letGo policy place breaker turn.panel reading holds here
    rwa [idle] at released
  · exact struck_silent policy place turn who _ calls _ _ turn.now rfl
      (Struck.spared _ (Nat.le_refl _))

theorem struck_met (dead : Reading.IsDead ask) (here : reading.guard.place = place)
    (idle : reading.isAsking = false) (holds : turn.panel.Holds place policy breaker)
    (called : ∀ number delay due, reading.stage = .pausing number delay due → calls ≠ [])
    (met : reading.Met ask turn deeds after next) :
    ∃ later, after.panel.Holds place policy later ∧
      Struck policy place ⟨calls, turn.now, breaker⟩
        ⟨calls ++ calling turn who deeds, after.now, later⟩ := by
  cases met with
  | moved _ _ _ moved =>
      exact struck_moved ask policy place turn after reading next who deeds calls breaker dead here
        idle holds moved
  | left open' =>
      exact ⟨breaker, struck_abandoned policy place turn reading who calls breaker here idle holds⟩
  | limited _ _ _ open' stuck limited =>
      cases limited with
      | kept early patient =>
          exact ⟨breaker, holds, struck_silent policy place turn who _ calls _ _ turn.now rfl
            (Struck.spared _ (Nat.le_refl _))⟩
      | abandoned early impatient =>
          exact ⟨breaker,
            struck_abandoned policy place turn reading who calls breaker here idle holds⟩
      | expired due =>
          obtain ⟨freed, _⟩ :=
            struck_abandoned policy place turn reading who calls breaker here idle holds
          have failed := Panel.holds_update _ place policy breaker
            (fun policy breaker => breaker.fail policy turn.now) freed
          rw [← here] at failed
          -- Nobody waits for an answer, so the deadline runs out in a pause.
          have before : calls ≠ [] := by
            rcases Reading.stuck_stage ask turn reading open' stuck with
              ⟨number, delay, due, answer, stage, _⟩ | ⟨number, delay, due, stage, _⟩
            · simp [Reading.isAsking, stage] at idle
            · exact called number delay due stage
          rw [← here]
          exact ⟨breaker.fail policy turn.now, failed,
            struck_silent policy _ turn who _ calls _ _ turn.now rfl (Struck.expired before)⟩

theorem idle_met (dead : Reading.IsDead ask) (idle : reading.isAsking = false)
    (met : reading.Met ask turn deeds after next) : next.isAsking = false := by
  cases met with
  | left open' => rfl
  | limited _ _ _ open' stuck limited =>
      cases limited with
      | expired due => rfl
      | abandoned early impatient => rfl
      | kept early patient => exact idle
  | moved _ _ _ moved =>
      cases moved with
      | refused number delay panel stage knocked => rfl
      | resumed number delay due stage ends => rfl
      | asked number delay panel source answer stage knocked asks later =>
          obtain ⟨message, rfl⟩ := Reading.answer_dead ask dead _ _ _ _ _ answer asks
          exact absurd rfl later
      | answeredAtOnce number delay panel source answer stage knocked asks atOnce =>
          exact concluded_not_asking _ _ _ _ _ _
            (conclude_concluded turn.now panel reading number delay answer.value)
      | answered number delay due answer stage ends =>
          exact concluded_not_asking _ _ _ _ _ _
            (conclude_concluded turn.now turn.panel reading number delay answer)

end Deeds

/-- What a play shows of an outage, given the breaker at the place. -/
def outage (place : Nat) (breaker : Breaker) (play : Play σ) : Outage where
  calls := play.callsAt place
  now := play.scene.turn.now
  breaker := breaker

section Acts

variable (ask : Ask σ) (policy : BreakerPolicy) (place : Nat) (before after : Play σ)
  (source : σ) (breaker : Breaker)

/-- Who makes a pause has made a call before. -/
theorem called_of_pausing (who : Nat) (reading : Reading) (number delay due : Nat)
    (kept : before.Kept ask source) (found : before.scene.readings[who]? = some reading)
    (here : reading.guard.place = place) (stage : reading.stage = .pausing number delay due) :
    before.callsAt place ≠ [] := by
  have told := kept.told who reading found
  simp only [Reading.Told, stage] at told
  obtain ⟨failures, failure, _, _, _, _, _, shape⟩ := told
  have asked : .asked (1 + failures.length) reading.id reading.options
      ⟨failure.after, .error (.backendUnavailable failure.value)⟩ ∈ before.deedsOf who := by
    rw [shape, Reading.rounds_snoc]
    simp [Reading.round]
  obtain ⟨entry, member, deed⟩ := List.mem_map.mp asked
  obtain ⟨recorded, isWho⟩ := List.mem_filter.mp member
  apply List.ne_nil_of_mem (a := entry)
  have isAt' : before.isAt place entry = true := by
    simp [isAt, beq_iff_eq.mp isWho, found, here]
  exact List.mem_filter.mpr
    ⟨List.mem_filter.mpr ⟨recorded, isAt'⟩, by simp [deed, Reading.Deed.isAsking]⟩

/-- All that an act can do to the breaker of a play while the backend is down. -/
theorem struck_came (dead : Reading.IsDead ask) (act : Act) (came : Came ask before act after)
    (kept : before.Kept ask source)
    (idle : ∀ reading ∈ before.scene.readings, reading.isAsking = false)
    (holds : before.scene.turn.panel.Holds place policy breaker) :
    ∃ later, after.scene.turn.panel.Holds place policy later ∧
      Struck policy place (before.outage place breaker) (after.outage place later) := by
  cases came with
  | idle act => exact ⟨breaker, holds, Struck.spared _ (Nat.le_refl _)⟩
  | passed time => exact ⟨breaker, holds, Struck.spared _ (Nat.le_max_left _ _)⟩
  | arrived id options guard patience =>
      refine ⟨breaker, holds, ?_⟩
      rw [outage, outage, callsAt, callsAt,
        recordAt_arrive place before id options guard patience kept.known]
      exact Struck.spared _ (Nat.le_refl _)
  | met act who reading next turn deeds found met =>
      obtain ⟨same, now⟩ := Reading.sameRequest_met ask _ turn reading next deeds met
      by_cases here : reading.guard.place = place
      · have struck := struck_met ask policy place _ turn reading next who deeds
          (before.callsAt place) breaker dead here (idle reading (List.mem_of_getElem? found)) holds
          (fun number delay due stage => called_of_pausing ask place before source who reading
            number delay due kept found here stage) met
        rwa [← callsAt_here place before who turn reading next deeds found same.guard here]
          at struck
      · refine ⟨breaker, holds_met_elsewhere policy place breaker ask _ turn reading next deeds met
          holds here, ?_⟩
        rw [outage, outage, callsAt, callsAt,
          recordAt_elsewhere place before who turn reading next deeds found same.guard here]
        exact Struck.spared _ (Nat.le_of_eq now.symm)

theorem idle_came (dead : Reading.IsDead ask) (act : Act) (came : Came ask before act after)
    (idle : ∀ reading ∈ before.scene.readings, reading.isAsking = false) :
    ∀ reading ∈ after.scene.readings, reading.isAsking = false := by
  intro standing stands
  cases came with
  | idle act => exact idle standing stands
  | passed time => exact idle standing stands
  | arrived id options guard patience =>
      simp only [arrive, List.mem_append, List.mem_singleton] at stands
      rcases stands with old | rfl
      · exact idle standing old
      · rfl
  | met act who reading next turn deeds found met =>
      rcases List.mem_or_eq_of_mem_set stands with old | rfl
      · exact idle standing old
      · exact idle_met ask _ turn reading standing deeds dead
          (idle reading (List.mem_of_getElem? found)) met

end Acts

/-! ### Whole outages -/

/-- What holds of every play in an outage that found a new breaker. -/
structure Endures (policy : BreakerPolicy) (place : Nat) (play : Play σ) : Prop where
  idle : ∀ reading ∈ play.scene.readings, reading.isAsking = false
  stands : ∃ breaker, play.scene.turn.panel.Holds place policy breaker ∧
    Standing policy (play.outage place breaker)
  few : Few policy place (play.callsAt place)

section Plays

variable (ask : Ask σ) (policy : BreakerPolicy) (place : Nat) (turn : Turn σ)
  (acts more : List Act) (dead : Reading.IsDead ask) (fresh : turn.panel.Holds place policy {})

include dead fresh in
theorem perform_endures : (perform ask turn acts).Endures policy place := by
  apply perform_keeps ask turn acts (Endures policy place)
  · exact ⟨by simp, ⟨{}, fresh, Standing.fresh _⟩, by simp [Few, callsAt, recordAt]⟩
  · intro act _ before after came kept endures
    obtain ⟨idle, ⟨breaker, holds, standing⟩, few⟩ := endures
    obtain ⟨later, holdsLater, struck⟩ := struck_came ask policy place before after turn.source
      breaker dead act came kept idle holds
    constructor
    · exact idle_came ask before after dead act came idle
    · exact ⟨later, holdsLater, standing_struck policy place _ _ standing struck⟩
    · exact few_struck policy place _ _ standing few struck

theorem perform_goes_on (holds : Play σ → Prop) (reached : holds (perform ask turn acts))
    (keeps : ∀ past act, Came ask (perform ask turn past) act (perform ask turn (past ++ [act])) →
      holds (perform ask turn past) → holds (perform ask turn (past ++ [act]))) :
    holds (perform ask turn (acts ++ more)) := by
  induction more generalizing acts with
  | nil => rwa [List.append_nil]
  | cons act rest ih =>
      have next : perform ask turn (acts ++ [act]) = (perform ask turn acts).step ask act := by
        simp [perform]
      have came := step_came ask (perform ask turn acts) act
      rw [← next] at came
      have further := ih (acts ++ [act]) (keeps acts act came reached)
      rwa [List.append_assoc] at further

include dead fresh in
theorem perform_lasts (breaker : Breaker) (opened : Nat)
    (holds : (perform ask turn acts).scene.turn.panel.Holds place policy breaker)
    (phase : breaker.phase = .opened) (began : breaker.openedAt = some opened) :
    ∃ later, (perform ask turn (acts ++ more)).scene.turn.panel.Holds place policy later ∧
      Lasts policy ((perform ask turn acts).callsAt place) opened
        ((perform ask turn (acts ++ more)).outage place later) := by
  apply perform_goes_on ask turn acts more fun play =>
    ∃ later, play.scene.turn.panel.Holds place policy later ∧
      Lasts policy ((perform ask turn acts).callsAt place) opened (play.outage place later)
  · exact ⟨breaker, holds, phase, [], opened, by simp [outage], began, by simp⟩
  · intro past act came lasted
    obtain ⟨now, holdsNow, lasts⟩ := lasted
    obtain ⟨idle, ⟨standing', holds', standing⟩, _⟩ :=
      perform_endures ask policy place turn past dead fresh
    cases Panel.holds_unique _ place policy _ _ holdsNow holds'
    obtain ⟨later, holdsLater, struck⟩ := struck_came ask policy place _ _ turn.source now dead act
      came (perform_kept ask turn past) idle holdsNow
    exact ⟨later, holdsLater, lasts_struck policy place _ _ _ _ standing lasts struck⟩

end Plays

end Play
end Roster
