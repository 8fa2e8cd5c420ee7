import Roster.Proofs.PlayOutage

/-!
How a breaker shields a backend that is down, and the readings from it. A reading that comes in
the pause of the open breaker does not get to the backend: it is served a stand-in there and
then, whatever else goes on.
-/

namespace Roster
namespace Play

open Reading (Ask)

variable {σ : Type}

/-! ### Readings that come in a pause -/

def servedAtOnce (reading : Reading) : Reading :=
  reading.finish reading.started (.ok (Reading.standIn reading.id reading.guard.address))

def Resting (policy : BreakerPolicy) (place : Nat) (play : Play σ) : Prop :=
  ∃ breaker, play.scene.turn.panel.Holds place policy breaker ∧
    Rests policy play.scene.turn.now (play.outage place breaker)

/-- What has become of a reading since it came: it was served a stand-in when it came, and
asked for nothing; or its caller left right then; or no time has passed, and by its next move
it is served a stand-in. -/
inductive Shielded (ask : Ask σ) (policy : BreakerPolicy) (place : Nat) (play : Play σ) (who : Nat)
    (start : Reading) : Prop where
  | served (found : play.scene.readings[who]? = some (servedAtOnce start))
      (deeds : play.deedsOf who = [.refused 1])
  | left (found : play.scene.readings[who]? =
        some { start with stage := .abandoned start.started })
      (deeds : play.deedsOf who = [.abandoned])
  | due (found : play.scene.readings[who]? = some start)
      (now : play.scene.turn.now = start.started) (deeds : play.deedsOf who = [])
      (rests : play.Resting policy place)
      (serves : (play.step ask (.move who)).scene.readings[who]? = some (servedAtOnce start))

section Readings

variable (ask : Ask σ) (policy : BreakerPolicy) (place : Nat) (before after : Play σ)
  (source : σ) (who : Nat) (start : Reading)

theorem resting_came (dead : Reading.IsDead ask) (act : Act) (came : Came ask before act after)
    (kept : before.Kept ask source)
    (idle : ∀ reading ∈ before.scene.readings, reading.isAsking = false)
    (resting : before.Resting policy place)
    (now : after.scene.turn.now = before.scene.turn.now) : after.Resting policy place := by
  obtain ⟨breaker, holds, rests⟩ := resting
  obtain ⟨later, holdsLater, struck⟩ := struck_came ask policy place before after source breaker
    dead act came kept idle holds
  refine ⟨later, holdsLater, ?_⟩
  rw [now]
  exact rests_struck policy place _ _ _ rests struck now

theorem knock_resting (reading : Reading) (number : Nat) (here : reading.guard.place = place)
    (resting : before.Resting policy place) :
    (reading.knock before.scene.turn number).2 = false := by
  obtain ⟨breaker, holds, rests⟩ := resting
  have admitted := (holds_knock policy place breaker before.scene.turn reading number _ _ rfl holds
    here).2
  have enters := rests_enter policy _ _ rests
  simp only [outage] at enters
  rwa [enters] at admitted

theorem now_of_attempting (reading : Reading) (delay : Nat) (kept : before.Kept ask source)
    (found : before.scene.readings[who]? = some reading)
    (stage : reading.stage = .attempting 1 delay) :
    before.scene.turn.now = reading.started := by
  have told := kept.told who reading found
  simp only [Reading.Told, stage] at told
  obtain ⟨failures, first, _, _, onTime, _⟩ := told
  have none : failures = [] := List.eq_nil_of_length_eq_zero (by omega)
  rw [onTime, none]
  rfl

/-- In the pause of the breaker a reading that has just come is served a stand-in next. -/
theorem shielded_due (delay : Nat) (here : start.guard.place = place)
    (stage : start.stage = .attempting 1 delay) (kept : before.Kept ask source)
    (resting : before.Resting policy place)
    (found : before.scene.readings[who]? = some start) (deeds : before.deedsOf who = []) :
    before.Shielded ask policy place who start := by
  have now := now_of_attempting ask before source who start delay kept found stage
  obtain ⟨inside, _⟩ := List.getElem?_eq_some_iff.mp found
  cases knocked : start.knock before.scene.turn 1 with
  | mk panel admitted =>
      have refused := knock_resting policy place before start 1 here resting
      rw [knocked] at refused
      cases refused
      let counted := panel.count (.fallbacksServed Reading.operation)
      have stepped : start.step? ask before.scene.turn =
          some ({ before.scene.turn with panel := counted }, servedAtOnce start) := by
        simp [Reading.step?, stage, Reading.attempt, knocked, servedAtOnce, now, counted]
      apply Shielded.due found now deeds resting
      simp only [step, found, Option.elim, move, stepped, note]
      exact List.getElem?_set_self inside

/-- The first thing a reading meets with in the pause is a refusal, or its caller leaves. -/
theorem met_resting (turn : Turn σ) (next : Reading) (deeds : List Reading.Deed) (delay : Nat)
    (here : start.guard.place = place) (stage : start.stage = .attempting 1 delay)
    (now : before.scene.turn.now = start.started) (resting : before.Resting policy place)
    (met : start.Met ask before.scene.turn deeds turn next) :
    next = servedAtOnce start ∧ deeds = [.refused 1] ∨
      next = { start with stage := .abandoned start.started } ∧ deeds = [.abandoned] := by
  have refused := knock_resting policy place before start 1 here resting
  cases met with
  | left open' => exact Or.inr ⟨by rw [now], rfl⟩
  | limited _ _ _ open' stuck limited => simp [Reading.step?, stage] at stuck
  | moved _ _ _ moved =>
      cases moved with
      | refused number _ panel isStage knocked =>
          cases stage.symm.trans isStage
          exact Or.inl ⟨by rw [servedAtOnce, now], rfl⟩
      | asked number _ panel source answer isStage knocked asks later =>
          cases stage.symm.trans isStage
          rw [knocked] at refused
          cases refused
      | answeredAtOnce number _ panel source answer isStage knocked asks atOnce =>
          cases stage.symm.trans isStage
          rw [knocked] at refused
          cases refused
      | answered number _ due answer isStage ends => cases stage.symm.trans isStage
      | resumed number _ due isStage ends => cases stage.symm.trans isStage

/-- Whatever others do, a reading stays shielded. -/
theorem shielded_others (delay : Nat) (here : start.guard.place = place)
    (stage : start.stage = .attempting 1 delay) (kept : after.Kept ask source)
    (same : after.scene.readings[who]? = before.scene.readings[who]?)
    (deeds : after.deedsOf who = before.deedsOf who)
    (rests : before.Resting policy place →
      after.scene.turn.now = before.scene.turn.now → after.Resting policy place)
    (shielded : before.Shielded ask policy place who start) :
    after.Shielded ask policy place who start := by
  cases shielded with
  | served found did => exact Shielded.served (same.trans found) (deeds.trans did)
  | left found did => exact Shielded.left (same.trans found) (deeds.trans did)
  | due found now did resting serves =>
      have isNow := now_of_attempting ask after source who start delay kept (same.trans found) stage
      exact shielded_due ask policy place after source who start delay here stage kept
        (rests resting (isNow.trans now.symm)) (same.trans found) (deeds.trans did)

theorem shielded_met (mover : Nat) (reading next : Reading) (turn : Turn σ)
    (deeds : List Reading.Deed) (delay : Nat) (here : start.guard.place = place)
    (stage : start.stage = .attempting 1 delay)
    (found : before.scene.readings[mover]? = some reading)
    (met : reading.Met ask before.scene.turn deeds turn next)
    (kept : (before.note mover turn next deeds).Kept ask source)
    (rests : before.Resting policy place →
      turn.now = before.scene.turn.now → (before.note mover turn next deeds).Resting policy place)
    (shielded : before.Shielded ask policy place who start) :
    (before.note mover turn next deeds).Shielded ask policy place who start := by
  by_cases isWho : mover = who
  · subst isWho
    have open' := Reading.open_of_met ask before.scene.turn turn reading next deeds met
    obtain ⟨inside, _⟩ := List.getElem?_eq_some_iff.mp found
    have stands : (before.note mover turn next deeds).scene.readings[mover]? = some next :=
      List.getElem?_set_self inside
    have did := deedsOf_note before mover turn next deeds mover
    rw [if_pos rfl] at did
    -- Who is over makes no move, so this is its first.
    cases shielded with
    | served ended _ =>
        cases found.symm.trans ended
        cases open'
    | left ended _ =>
        cases found.symm.trans ended
        cases open'
    | due isStart now none resting _ =>
        have same : reading = start := Option.some.inj (found.symm.trans isStart)
        rw [none, List.nil_append] at did
        rw [same] at met
        rcases met_resting ask policy place before start turn next deeds delay here stage now
          resting met with ⟨rfl, rfl⟩ | ⟨rfl, rfl⟩
        · exact Shielded.served stands did
        · exact Shielded.left stands did
  · apply shielded_others ask policy place before _ source who start delay here stage kept ?_ ?_
      rests shielded
    · exact List.getElem?_set_ne isWho
    · rw [deedsOf_note, if_neg isWho, List.append_nil]

theorem shielded_came (dead : Reading.IsDead ask) (act : Act) (came : Came ask before act after)
    (delay : Nat) (here : start.guard.place = place)
    (stage : start.stage = .attempting 1 delay) (kept : before.Kept ask source)
    (keptAfter : after.Kept ask source)
    (idle : ∀ reading ∈ before.scene.readings, reading.isAsking = false)
    (shielded : before.Shielded ask policy place who start) :
    after.Shielded ask policy place who start := by
  have rests := resting_came ask policy place before after source dead act came kept idle
  cases came with
  | idle act => exact shielded
  | arrived id options guard patience =>
      apply shielded_others ask policy place before _ source who start delay here stage keptAfter ?_
        rfl rests shielded
      have inside : who < before.scene.readings.length := by
        cases shielded with
        | served found _ => exact (List.getElem?_eq_some_iff.mp found).1
        | left found _ => exact (List.getElem?_eq_some_iff.mp found).1
        | due found _ _ _ _ => exact (List.getElem?_eq_some_iff.mp found).1
      exact List.getElem?_append_left inside
  | passed time =>
      exact shielded_others ask policy place before _ source who start delay here stage keptAfter
        rfl rfl rests shielded
  | met act mover reading next turn deeds found met =>
      exact shielded_met ask policy place before source who start mover reading next turn deeds
        delay here stage found met keptAfter rests shielded

end Readings

section Shielding

variable (ask : Ask σ) (policy : BreakerPolicy) (place : Nat) (turn : Turn σ)
  (acts more : List Act) (dead : Reading.IsDead ask) (fresh : turn.panel.Holds place policy {})

include dead fresh in
theorem perform_shielded (id : Id) (options : ReadOptions) (guard : ReadGuard)
    (patience : Option Nat) (here : guard.place = place)
    (resting : (perform ask turn acts).Resting policy place) :
    (perform ask turn (acts ++ .arrive id options guard patience :: more)).Shielded ask policy place
      (perform ask turn acts).scene.readings.length
      (Reading.start id options guard (perform ask turn acts).scene.turn.now patience) := by
  have arrives : perform ask turn (acts ++ [.arrive id options guard patience]) =
      (perform ask turn acts).arrive id options guard patience := by
    simp [perform, step]
  have split : acts ++ .arrive id options guard patience :: more =
      (acts ++ [.arrive id options guard patience]) ++ more := by
    simp
  rw [split]
  apply perform_goes_on ask turn (acts ++ [Act.arrive id options guard patience]) more
    fun play => play.Shielded ask policy place (perform ask turn acts).scene.readings.length
      (Reading.start id options guard (perform ask turn acts).scene.turn.now patience)
  · -- When it comes the breaker rests, and its first attempt is due.
    have kept := perform_kept ask turn (acts ++ [.arrive id options guard patience])
    have came : Came ask (perform ask turn acts) (.arrive id options guard patience)
        ((perform ask turn acts).arrive id options guard patience) :=
      Came.arrived id options guard patience
    have rests := resting_came ask policy place _ _ turn.source dead _ came
      (perform_kept ask turn acts) (perform_endures ask policy place turn acts dead fresh).idle
      resting rfl
    rw [arrives] at kept ⊢
    apply shielded_due ask policy place _ turn.source _ _ guard.backoff.initialDelay here rfl kept
      rests
    · simp [arrive]
    · exact deedsOf_next ask turn.source _ (perform_kept ask turn acts)
  · intro past act came shielded
    exact shielded_came ask policy place _ _ turn.source _ _ dead act came
      guard.backoff.initialDelay here rfl (perform_kept ask turn past)
      (perform_kept ask turn (past ++ [act]))
      (perform_endures ask policy place turn past dead fresh).idle shielded

/-- A new breaker shields a backend that is down, whatever reads share it and however they
are repeated. Before it opens it lets no more calls through than the failures that open it,
as long as the first one is not too long ago. Once it has opened it stays open, every call
that gets through costs a pause, and a reading that comes in a pause is served a stand-in
when it comes. -/
theorem dead_backend_is_shielded (dead : Reading.IsDead ask)
    (fresh : turn.panel.Holds place policy {}) :
    let play := perform ask turn acts
    let later := perform ask turn (acts ++ more)
    Few policy place (play.callsAt place) ∧
      ∃ breaker, play.scene.turn.panel.Holds place policy breaker ∧
        (breaker.phase = .opened →
          ∃ opened, breaker.openedAt = some opened ∧ opened ≤ play.scene.turn.now ∧
            (∃ after probes, later.scene.turn.panel.Holds place policy after ∧
              after.phase = .opened ∧ later.callsAt place = play.callsAt place ++ probes ∧
              probes.length * policy.openDuration ≤ later.scene.turn.now - opened) ∧
            (breaker.hasCooled policy play.scene.turn.now = false →
              ∀ id options guard patience, guard.place = place →
                (perform ask turn (acts ++ .arrive id options guard patience :: more)).Shielded
                  ask policy place play.scene.readings.length
                  (Reading.start id options guard play.scene.turn.now patience))) := by
  intro play later
  have endures := perform_endures ask policy place turn acts dead fresh
  obtain ⟨breaker, holds, standing⟩ := endures.stands
  refine ⟨endures.few, breaker, holds, ?_⟩
  intro phase
  obtain ⟨opened, began, past⟩ := standing_opened policy _ standing phase
  change breaker.openedAt = some opened at began
  refine ⟨opened, began, past, ?_, ?_⟩
  · obtain ⟨after, holdsAfter, lasts⟩ :=
      perform_lasts ask policy place turn acts more dead fresh breaker opened holds phase began
    obtain ⟨probes, since, made, isSince, costs⟩ := lasts.costs
    -- The last pause began when it was, and not later than it is now.
    have endured := perform_endures ask policy place turn (acts ++ more) dead fresh
    obtain ⟨same, holdsSame, standingLater⟩ := endured.stands
    cases Panel.holds_unique _ place policy _ _ holdsAfter holdsSame
    obtain ⟨again, isAgain, begun⟩ := standing_opened policy _ standingLater lasts.phase
    cases Option.some.inj (isSince.symm.trans isAgain)
    refine ⟨after, probes, holdsAfter, lasts.phase, made, ?_⟩
    change since ≤ later.scene.turn.now at begun
    omega
  · intro hot id options guard patience here
    apply perform_shielded ask policy place turn acts more dead fresh id options guard patience here
    refine ⟨breaker, holds, rfl, phase, opened, began, past, ?_⟩
    simpa [Breaker.hasCooled, began] using hot

/-- Two calls of one reading open the breaker at 5. A reading that comes then is served a
stand-in; one that comes at 15, when the pause is over, makes the third call. -/
theorem shielded_after_two_calls :
    let ask : Ask Unit := fun _ _ _ _ => ((), ⟨0, .error (.backendUnavailable "down")⟩)
    let policy : BreakerPolicy :=
      { failureThreshold := 2, rollingWindow := 100, openDuration := 10 }
    let turn : Turn Unit :=
      { now := 0, source := (), waits := Turn.capacity
        panel := { switches := [{ name := "organization", policy }] } }
    let guard : ReadGuard :=
      { address := "here", place := 0, backoff := { initialDelay := 5 }, deadline := 5000 }
    let acts : List Act := [.arrive 1 {} guard none, .move 0, .pass 5, .move 0, .move 0]
    let comes : Act := .arrive 2 {} guard none
    let probe : List Act := [.leave 0, .pass 15, .arrive 3 {} guard none, .move 1]
    ((perform ask turn acts).callsAt 0).length = 2 ∧
      ((perform ask turn (acts ++ probe)).callsAt 0).length = 3 ∧
      (perform ask turn (acts ++ probe)).scene.turn.now = 15 ∧
      (∃ probes, (perform ask turn (acts ++ probe)).callsAt 0 =
          (perform ask turn acts).callsAt 0 ++ probes ∧
        probes.length * policy.openDuration ≤
          (perform ask turn (acts ++ probe)).scene.turn.now - 5) ∧
      (perform ask turn (acts ++ comes :: [.move 1])).Shielded ask policy 0 1
        (Reading.start 2 {} guard 5 none) := by
  intro ask policy turn guard acts comes probe
  have dead : Reading.IsDead ask := fun _ _ _ _ => ⟨"down", rfl⟩
  have fresh : turn.panel.Holds 0 policy {} := ⟨_, rfl, rfl, rfl⟩
  have stands : ((perform ask turn acts).scene.turn.panel.breaker? 0).map
      (fun breaker => (breaker.phase, breaker.openedAt)) = some (.opened, some 5) := by
    decide +kernel
  have now : (perform ask turn acts).scene.turn.now = 5 := by decide +kernel
  have one : (perform ask turn acts).scene.readings.length = 1 := by decide +kernel
  have shielding := fun more => dead_backend_is_shielded ask policy 0 turn acts more dead fresh
  -- What the breaker is that the theorem speaks of can be read off the panel.
  have isOpen : ∀ breaker, (perform ask turn acts).scene.turn.panel.Holds 0 policy breaker →
      breaker.phase = .opened ∧ breaker.openedAt = some 5 := by
    intro breaker holds
    rw [Panel.breaker_of_holds _ 0 policy breaker holds] at stands
    simpa using stands
  refine ⟨by decide +kernel, by decide +kernel, by decide +kernel, ?_, ?_⟩
  · obtain ⟨_, breaker, holds, shields⟩ := shielding probe
    obtain ⟨phase, began⟩ := isOpen breaker holds
    obtain ⟨opened, isOpened, _, ⟨_, probes, _, _, made, costs⟩, _⟩ := shields phase
    have atFive : opened = 5 := Option.some.inj (isOpened.symm.trans began)
    rw [atFive] at costs
    exact ⟨probes, made, costs⟩
  · obtain ⟨_, breaker, holds, shields⟩ := shielding [.move 1]
    obtain ⟨phase, began⟩ := isOpen breaker holds
    obtain ⟨_, _, _, _, serves⟩ := shields phase
    have hot : breaker.hasCooled policy (perform ask turn acts).scene.turn.now = false := by
      rw [now, Breaker.hasCooled, began]
      rfl
    rw [← now, ← one]
    exact serves hot 2 {} guard none rfl

end Shielding

end Play
end Roster
