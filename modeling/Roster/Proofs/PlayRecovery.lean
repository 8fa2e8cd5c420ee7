import Roster.Proofs.BreakerPause
import Roster.Proofs.PlayBreaker

/-!
How long an outage can go on. Failures that come in while a breaker is open put its pause
off, but only readings that were let in before it opened can still fail, and they all end
by their deadlines. So the pause begins no later than the longest deadline after the
opening, and once it is over a reading is let in again.
-/

namespace Roster

open Reading (Ask Moved Limited)

def Reading.Deed.mayFail : Reading.Deed → Bool
  | .answered .. | .expired => true
  | _ => false

def Reading.isWaiting (reading : Reading) : Bool :=
  match reading.stage with
  | .asking .. | .pausing .. => true
  | _ => false

namespace Play

variable {σ : Type}

section Sights

variable (policy : BreakerPolicy) (place : Nat) (limit : Nat) (sight : Sight) (entry : Entry)

theorem acts_fail (deed : Reading.Deed) (seat : Option Nat) (act : Watch.Act)
    (member : act ∈ deed.acts seat) (fails : act.isFailure = true) : deed.mayFail = true := by
  cases deed with
  | answered attempt answer => rfl
  | expired => rfl
  | asked attempt id options answer =>
      cases List.mem_singleton.mp member
      cases fails
  | refused attempt =>
      cases List.mem_singleton.mp member
      cases fails
  | abandoned =>
      obtain ⟨call, _, rfl⟩ := List.mem_map.mp member
      cases fails

theorem openSince_see (past : sight.watch.now ≤ entry.time) (time : Nat)
    (since : (sight.see policy entry).watch.OpenSince time) :
    time = entry.time ∨ sight.watch.OpenSince time := by
  rcases Watch.openSince_fold policy _ _
    (fun act member => (acts_own entry.deed _ act member).1) time since with same | earlier
  · rw [Watch.waitUntil_now sight.watch entry.time past] at same
    exact Or.inl same
  · exact Or.inr ⟨earlier.opened, earlier.since⟩

theorem rests_see (past : sight.watch.now ≤ entry.time) (rests : sight.watch.Rests limit)
    (soon : entry.deed.mayFail = true →
      ∀ time, sight.watch.OpenSince time → entry.time ≤ time + limit) :
    (sight.see policy entry).watch.Rests limit := by
  refine Watch.rests_fold policy limit _ _
    (fun act member => (acts_own entry.deed _ act member).1) rests ?_
  intro act member fails time since
  rw [Watch.waitUntil_now sight.watch entry.time past]
  exact soon (acts_fail entry.deed _ act member fails) time ⟨since.opened, since.since⟩

end Sights

/-- What a reading leaves behind is a rested breaker, and if that was open before as well,
the reading is not one that waits anew. -/
structure Settles (limit : Nat) (sight next : Sight) (now : Nat) (reading later : Reading) :
    Prop where
  rests : next.watch.Rests limit
  since : ∀ time, next.watch.OpenSince time → time = now ∨ sight.watch.OpenSince time ∧
    (later.isWaiting = true → reading.isWaiting = true)

section Settling

variable (policy : BreakerPolicy) (place limit : Nat) (sight : Sight) (turn after : Turn σ)
  (reading next : Reading) (who : Nat) (deeds : List Reading.Deed) (asking : Nat → Bool)

theorem settles_see (entry : Entry) (past : sight.watch.now ≤ entry.time)
    (rests : sight.watch.Rests limit)
    (soon : entry.deed.mayFail = true →
      ∀ time, sight.watch.OpenSince time → entry.time ≤ time + limit)
    (waits : next.isWaiting = true → reading.isWaiting = true) :
    Settles limit sight (sight.see policy entry) entry.time reading next where
  rests := rests_see policy limit sight entry past rests soon
  since := fun time since => (openSince_see policy sight entry past time since).imp_right
    fun earlier => ⟨earlier, waits⟩

theorem not_open_asked (attempt : Nat) (id : Id) (options : ReadOptions)
    (answer : Timed (Except Fault Organization)) (panel : Panel)
    (fits : Fits policy place sight turn.panel turn.now asking)
    (here : reading.guard.place = place)
    (knocked : reading.knock turn attempt = (panel, true)) (time : Nat) :
    ¬ (sight.see policy
      ⟨who, turn.now, turn.panel, .asked attempt id options answer⟩).watch.OpenSince time := by
  intro since
  have opened := since.opened
  rw [see_breaker policy place sight turn.panel turn.now asking _ fits rfl] at opened
  have refused := (Breaker.enter_opened_back _ policy turn.now opened).2
  have admitted := (holds_knock policy place _ turn reading attempt panel true knocked fits.holds
    here).2
  rw [refused] at admitted
  cases admitted

theorem settles_moved (ask : Ask σ) (fits : Fits policy place sight turn.panel turn.now asking)
    (here : reading.guard.place = place) (rests : sight.watch.Rests limit)
    (soon : reading.isWaiting = true →
      ∀ time, sight.watch.OpenSince time → turn.now ≤ time + limit)
    (moved : Moved ask turn reading deeds after next) :
    Settles limit sight (sight.follow policy turn who deeds) turn.now reading next := by
  cases moved with
  | refused number delay panel stage knocked =>
      exact settles_see policy limit sight reading _ ⟨who, turn.now, turn.panel, .refused number⟩
        fits.past rests nofun nofun
  | asked number delay panel source answer stage knocked asks later =>
      have notOpen := not_open_asked policy place sight turn reading who asking number reading.id
        reading.options answer panel fits here knocked
      constructor
      · exact rests_see policy limit sight ⟨who, turn.now, turn.panel, .asked number _ _ answer⟩
          fits.past rests nofun
      · exact fun time since => absurd since (notOpen time)
  | answeredAtOnce number delay panel source answer stage knocked asks atOnce =>
      let asked : Entry :=
        ⟨who, turn.now, turn.panel, .asked number reading.id reading.options answer⟩
      let answered : Entry := ⟨who, turn.now, turn.panel, .answered number answer.value⟩
      -- Between question and answer the breaker was not open, so it has opened with the answer.
      have notOpen : ∀ time, ¬ (sight.see policy asked).watch.OpenSince time :=
        not_open_asked policy place sight turn reading who asking number reading.id
          reading.options answer panel fits here knocked
      have past : (sight.see policy asked).watch.now ≤ turn.now :=
        Nat.le_of_eq (see_now policy sight asked fits.past)
      constructor
      · exact rests_see policy limit (sight.see policy asked) answered past
          (rests_see policy limit sight asked fits.past rests nofun)
          (fun _ time since => absurd since (notOpen time))
      · intro time since
        rcases openSince_see policy (sight.see policy asked) answered past time since with
          now | earlier
        · exact Or.inl now
        · exact absurd earlier (notOpen time)
  | answered number delay due answer stage ends =>
      have waits : reading.isWaiting = true := by simp [Reading.isWaiting, stage]
      exact settles_see policy limit sight reading _
        ⟨who, turn.now, turn.panel, .answered number answer⟩ fits.past rests
        (fun _ => soon waits) (fun _ => waits)
  | resumed number delay due stage ends =>
      exact ⟨rests, fun time since => Or.inr ⟨since, nofun⟩⟩

theorem settles_abandoned (past : sight.watch.now ≤ turn.now) (rests : sight.watch.Rests limit)
    (ended : next.isWaiting = false) :
    Settles limit sight (sight.follow policy turn who [.abandoned]) turn.now reading next :=
  settles_see policy limit sight reading next ⟨who, turn.now, turn.panel, .abandoned⟩ past rests
    nofun (by simp [ended])

theorem settles_met (ask : Ask σ) (fits : Fits policy place sight turn.panel turn.now asking)
    (here : reading.guard.place = place) (rests : sight.watch.Rests limit)
    (soon : reading.isWaiting = true →
      ∀ time, sight.watch.OpenSince time → turn.now ≤ time + limit)
    (met : reading.Met ask turn deeds after next) :
    Settles limit sight (sight.follow policy turn who deeds) turn.now reading next := by
  cases met with
  | moved _ _ _ moved =>
      exact settles_moved policy place limit sight turn after reading next who deeds asking ask fits
        here rests soon moved
  | left open' =>
      exact settles_abandoned policy limit sight turn reading _ who fits.past rests rfl
  | limited _ _ _ open' stuck limited =>
      cases limited with
      | kept early patient => exact ⟨rests, fun time since => Or.inr ⟨since, id⟩⟩
      | abandoned early impatient =>
          exact settles_abandoned policy limit sight turn reading _ who fits.past rests rfl
      | expired due =>
          -- Only who waits can be stuck; so it was let in before the breaker opened.
          have waits : reading.isWaiting = true := by
            rcases Reading.stuck_stage ask turn reading open' stuck with
              ⟨number, delay, due, answer, stage, _⟩ | ⟨number, delay, due, stage, _⟩
            · simp [Reading.isWaiting, stage]
            · simp [Reading.isWaiting, stage]
          exact settles_see policy limit sight reading _ ⟨who, turn.now, turn.panel, .expired⟩
            fits.past rests (fun _ => soon waits) nofun

end Settling

/-- The breaker at a place is rested, and while it is open nobody waits there who arrived
after it opened. -/
structure Recovering (policy : BreakerPolicy) (place limit : Nat) (play : Play σ) : Prop where
  rests : (play.sight policy place).watch.Rests limit
  arrived : ∀ reading ∈ play.scene.readings, reading.started ≤ play.scene.turn.now
  bounded : ∀ reading ∈ play.scene.readings, reading.guard.place = place →
    reading.guard.deadline ≤ limit
  early : ∀ time, (play.sight policy place).watch.OpenSince time →
    ∀ reading ∈ play.scene.readings, reading.guard.place = place →
      reading.isWaiting = true → reading.started ≤ time

section Recovering

variable (ask : Ask σ) (policy : BreakerPolicy) (place limit : Nat) (source : σ)
  (before after : Play σ)

/-- Who is still waiting fails by its deadline, if at all. -/
theorem soon_of_recovering (reading : Reading) (member : reading ∈ before.scene.readings)
    (here : reading.guard.place = place) (kept : before.Kept ask source)
    (recovering : before.Recovering policy place limit) (waits : reading.isWaiting = true)
    (time : Nat) (since : (before.sight policy place).watch.OpenSince time) :
    before.scene.turn.now ≤ time + limit := by
  have open' : reading.isOver = false := by
    cases stage : reading.stage <;> simp_all [Reading.isWaiting, Reading.isOver]
  have punctual := kept.punctual reading member open'
  have bounded := recovering.bounded reading member here
  have early := recovering.early time since reading member here waits
  have shorter : waitFor reading.guard.deadline ≤ reading.guard.deadline := Nat.min_le_left _ _
  rw [Reading.deadline] at punctual
  omega

/-- Whatever a reading does, the readings that wait in an open breaker were there before. -/
theorem rests_early_note (who : Nat) (reading next : Reading) (turn : Turn σ)
    (deeds : List Reading.Deed) (found : before.scene.readings[who]? = some reading)
    (met : reading.Met ask before.scene.turn deeds turn next) (kept : before.Kept ask source)
    (seen : before.Seen policy place) (recovering : before.Recovering policy place limit) :
    ((before.note who turn next deeds).sight policy place).watch.Rests limit ∧
      ∀ time, ((before.note who turn next deeds).sight policy place).watch.OpenSince time →
        ∀ standing, standing ∈ before.scene.readings ∨ standing = next →
          standing.guard.place = place → standing.isWaiting = true → standing.started ≤ time := by
  have same := (Reading.sameRequest_met ask _ turn reading next deeds met).1
  have member := List.mem_of_getElem? found
  by_cases here : reading.guard.place = place
  · rw [sight_note policy place before who turn reading next deeds found same.guard here]
    have settles := settles_met policy place limit _ _ turn reading next who deeds _ ask seen here
      recovering.rests (soon_of_recovering ask policy place limit source before reading member here
        kept recovering) met
    refine ⟨settles.rests, ?_⟩
    intro time since standing stands there waits
    rcases settles.since time since with rfl | ⟨earlier, waited⟩
    -- It has opened just now, when all of them were there; or it was open already, and then
    -- the reading itself waited before.
    · rcases stands with old | rfl
      · exact recovering.arrived standing old
      · rw [same.started]
        exact recovering.arrived reading member
    · rcases stands with old | rfl
      · exact recovering.early time earlier standing old there waits
      · rw [same.started]
        exact recovering.early time earlier reading member here (waited waits)
  · rw [sight_note_elsewhere policy place before who turn reading next deeds found same.guard here]
    refine ⟨recovering.rests, ?_⟩
    intro time since standing stands there waits
    rcases stands with old | rfl
    · exact recovering.early time since standing old there waits
    · exact absurd (same.guard ▸ there) here

theorem recovering_note (who : Nat) (reading next : Reading) (turn : Turn σ)
    (deeds : List Reading.Deed) (found : before.scene.readings[who]? = some reading)
    (met : reading.Met ask before.scene.turn deeds turn next) (kept : before.Kept ask source)
    (seen : before.Seen policy place) (recovering : before.Recovering policy place limit) :
    (before.note who turn next deeds).Recovering policy place limit := by
  obtain ⟨same, now⟩ := Reading.sameRequest_met ask _ turn reading next deeds met
  have member := List.mem_of_getElem? found
  have oldOrNew : ∀ standing ∈ (before.note who turn next deeds).scene.readings,
      standing ∈ before.scene.readings ∨ standing = next :=
    fun standing => List.mem_or_eq_of_mem_set
  obtain ⟨rests, early⟩ := rests_early_note ask policy place limit source before who reading next
    turn deeds found met kept seen recovering
  refine ⟨rests, ?_, ?_, fun time since standing stands =>
    early time since standing (oldOrNew standing stands)⟩
  · intro standing stands
    change standing.started ≤ turn.now
    rw [now]
    rcases oldOrNew standing stands with old | rfl
    · exact recovering.arrived standing old
    · rw [same.started]
      exact recovering.arrived reading member
  · intro standing stands there
    rcases oldOrNew standing stands with old | rfl
    · exact recovering.bounded standing old there
    · rw [same.guard] at there ⊢
      exact recovering.bounded reading member there

theorem recovering_arrive (id : Id) (options : ReadOptions) (guard : ReadGuard)
    (patience : Option Nat) (short : guard.place = place → guard.deadline ≤ limit)
    (kept : before.Kept ask source) (recovering : before.Recovering policy place limit) :
    (before.arrive id options guard patience).Recovering policy place limit := by
  have unseen := sight_arrive policy place before id options guard patience kept.known
  have oldOrNew : ∀ standing ∈ (before.arrive id options guard patience).scene.readings,
      standing ∈ before.scene.readings ∨
        standing = Reading.start id options guard before.scene.turn.now patience := by
    simp [arrive]
  constructor
  · rw [unseen]
    exact recovering.rests
  · intro standing stands
    rcases oldOrNew standing stands with old | rfl
    · exact recovering.arrived standing old
    · exact Nat.le_refl _
  · intro standing stands there
    rcases oldOrNew standing stands with old | rfl
    · exact recovering.bounded standing old there
    · exact short there
  · intro time since standing stands there waits
    rw [unseen] at since
    rcases oldOrNew standing stands with old | rfl
    · exact recovering.early time since standing old there waits
    · cases waits

theorem recovering_came (act : Act) (came : Came ask before act after)
    (short : ∀ id options guard patience, act = .arrive id options guard patience →
      guard.place = place → guard.deadline ≤ limit)
    (kept : before.Kept ask source) (seen : before.Seen policy place)
    (recovering : before.Recovering policy place limit) :
    after.Recovering policy place limit := by
  cases came with
  | idle act => exact recovering
  | arrived id options guard patience =>
      exact recovering_arrive ask policy place limit source before id options guard patience
        (short id options guard patience rfl) kept recovering
  | met act who reading next turn deeds found met =>
      exact recovering_note ask policy place limit source before who reading next turn deeds found
        met kept seen recovering
  | passed time =>
      refine ⟨recovering.rests, ?_, recovering.bounded, recovering.early⟩
      exact fun reading member => Nat.le_trans (recovering.arrived reading member)
        (Nat.le_max_left _ _)

end Recovering

section Plays

variable (ask : Ask σ) (policy : BreakerPolicy) (place limit : Nat) (turn : Turn σ)
  (acts : List Act)

theorem perform_recovering (fresh : turn.panel.Holds place policy {})
    (short : ∀ id options guard patience, .arrive id options guard patience ∈ acts →
      guard.place = place → guard.deadline ≤ limit) :
    (perform ask turn acts).Recovering policy place limit := by
  have both : (perform ask turn acts).Seen policy place ∧
      (perform ask turn acts).Recovering policy place limit := by
    refine perform_keeps ask turn acts
      (fun play => play.Seen policy place ∧ play.Recovering policy place limit) ?_ ?_
    · refine ⟨perform_seen ask policy place turn fresh [], ?_⟩
      constructor
      · exact nofun
      · simp
      · simp
      · simp
    · intro act member before after came kept both
      refine ⟨seen_came ask policy place act before after came turn.source kept both.1, ?_⟩
      refine recovering_came ask policy place limit turn.source before after act came ?_ kept both.1
        both.2
      rintro id options guard patience rfl
      exact short id options guard patience member
  exact both.2

/-- The next attempt of a reading is let in as a probe, so it asks the backend. -/
structure Probes (ask : Ask σ) (policy : BreakerPolicy) (place : Nat) (play : Play σ) (who : Nat)
    (reading : Reading) (number : Nat) : Prop where
  admitted : ∃ panel, reading.knock play.scene.turn number = (panel, true) ∧
    panel.Holds place policy
      { (play.watch policy place).breaker with
        phase := .halfOpen, successes := 0, probing := true }
  asked : ∃ answer rest, (play.step ask (.move who)).deedsOf who =
    play.deedsOf who ++ .asked number reading.id reading.options answer :: rest

theorem asked_of_admitted (play : Play σ) (who : Nat) (reading : Reading) (number delay : Nat)
    (found : play.scene.readings[who]? = some reading)
    (stage : reading.stage = .attempting number delay)
    (admitted : (reading.knock play.scene.turn number).2 = true) :
    ∃ answer rest, (play.step ask (.move who)).deedsOf who =
      play.deedsOf who ++ .asked number reading.id reading.options answer :: rest := by
  simp only [step, found, Option.elim, move, Reading.step?, stage, deedsOf_note, ↓reduceIte,
    Reading.deeds, admitted]
  split
  · exact ⟨_, _, rfl⟩
  · exact ⟨_, _, rfl⟩

/-- An open breaker whose pause is over lets in whoever asks next. -/
theorem probes_of_cooled (play : Play σ) (who : Nat) (reading : Reading) (number delay opened : Nat)
    (holds : play.scene.turn.panel.Holds place policy (play.watch policy place).breaker)
    (phase : (play.watch policy place).breaker.phase = .opened)
    (began : (play.watch policy place).breaker.openedAt = some opened)
    (ended : opened + policy.openDuration ≤ play.scene.turn.now)
    (found : play.scene.readings[who]? = some reading) (here : reading.guard.place = place)
    (stage : reading.stage = .attempting number delay) :
    play.Probes ask policy place who reading number := by
  -- An open breaker has no probe in flight, as in any run; so the place is free.
  obtain ⟨made, same⟩ := watch_isRun policy place play
  have tidy := (Watch.run_slotHeld policy made).tidy
  rw [← same] at tidy
  have free := Breaker.tidy_clear _ tidy (by simp [phase])
  have cooled : (play.watch policy place).breaker.hasCooled policy play.scene.turn.now = true := by
    simpa [Breaker.hasCooled, began] using ended
  have entered := Breaker.enter_cooled _ policy _ phase cooled
  obtain ⟨after, admitted⟩ := holds_knock policy place _ play.scene.turn reading number _ _ rfl
    holds here
  rw [entered] at after admitted
  rw [free] at admitted
  exact ⟨⟨_, Prod.ext rfl admitted, after⟩,
    asked_of_admitted ask play who reading number delay found stage admitted⟩

/-- The pause of an open breaker begins no later than the longest deadline of its readings
after it opened. So once the pause that began then is over, the next attempt is let in as a
probe and not answered with a stand-in. -/
theorem recovery_is_bounded (fresh : turn.panel.Holds place policy {})
    (short : ∀ id options guard patience, .arrive id options guard patience ∈ acts →
      guard.place = place → guard.deadline ≤ limit) :
    let play := perform ask turn acts
    let watch := play.watch policy place
    play.scene.turn.panel.Holds place policy watch.breaker ∧
      watch.now = play.scene.turn.now ∧
      (watch.breaker.phase = .opened →
        ∃ time opened, watch.lastOpening? = some time ∧ watch.breaker.openedAt = some opened ∧
          opened ≤ time + limit ∧
          (time + limit + policy.openDuration ≤ play.scene.turn.now →
            ∀ who reading number delay, play.scene.readings[who]? = some reading →
              reading.guard.place = place → reading.stage = .attempting number delay →
              play.Probes ask policy place who reading number)) := by
  intro play watch
  have seen : play.Seen policy place := perform_seen ask policy place turn fresh acts
  have recovering : play.Recovering policy place limit :=
    perform_recovering ask policy place limit turn acts fresh short
  refine ⟨seen.holds, Watch.waitUntil_now _ _ seen.past, ?_⟩
  intro phase
  obtain ⟨time, opened, since, began, soon⟩ := recovering.rests phase
  refine ⟨time, opened, since, began, soon, ?_⟩
  intro late who reading number delay found here stage
  exact probes_of_cooled ask policy place play who reading number delay opened seen.holds phase
    began (by omega) found here stage

/-- A reading that ran out of time at 30 began the pause of a breaker anew that had opened at
20; one that comes at 60 is let in all the same. -/
theorem let_in_after_a_straggler :
    let ask : Ask Unit := fun _ id _ _ =>
      ((), ⟨if id = 1 then 20 else 100, .error (.backendUnavailable "down")⟩)
    let policy : BreakerPolicy := { failureThreshold := 1, openDuration := 10 }
    let turn : Turn Unit :=
      { now := 0, source := (), waits := Turn.capacity
        panel := { switches := [{ name := "organization", policy }] } }
    let guard : ReadGuard :=
      { address := "here", place := 0, backoff := { maxAttempts := 1 }, deadline := 30 }
    let outage : List Act :=
      [.arrive 1 {} guard none, .arrive 2 {} guard none, .move 0, .move 1, .pass 20, .move 0,
        .pass 30, .limit 1, .pass 60]
    let acts := outage ++ [.arrive 3 {} guard none]
    let play := perform ask turn acts
    let watch := play.watch policy 0
    let reading : Reading := Reading.start 3 {} guard 60 none
    play.scene.readings[2]? = some reading ∧ watch.breaker.phase = .opened ∧
      watch.lastOpening? = some 20 ∧ watch.breaker.openedAt = some 30 ∧
      play.Probes ask policy 0 2 reading 1 := by
  intro ask policy turn guard outage acts
  have fresh : turn.panel.Holds 0 policy {} := ⟨_, rfl, rfl, rfl⟩
  have short : ∀ id options guard patience, .arrive id options guard patience ∈ acts →
      guard.place = 0 → guard.deadline ≤ 30 := by
    intro id options other patience member _
    have same : other = guard := by
      simp [acts, outage] at member
      rcases member with first | second | third
      · exact first.2.2.1
      · exact second.2.2.1
      · exact third.2.2.1
    exact Nat.le_of_eq (congrArg ReadGuard.deadline same)
  have phase : ((perform ask turn acts).watch policy 0).breaker.phase = .opened := by
    decide +kernel
  have since : ((perform ask turn acts).watch policy 0).lastOpening? = some 20 := by
    decide +kernel
  have began : ((perform ask turn acts).watch policy 0).breaker.openedAt = some 30 := by
    decide +kernel
  have now : (perform ask turn outage).scene.turn.now = 60 := by decide +kernel
  have two : (perform ask turn outage).scene.readings.length = 2 := by decide +kernel
  have last : perform ask turn acts = (perform ask turn outage).arrive 3 {} guard none := by
    simp [perform, acts, step]
  have found : (perform ask turn acts).scene.readings[2]? =
      some (Reading.start 3 {} guard 60 none) := by
    simp [last, arrive, two, now]
  obtain ⟨time, opened, opening, _, _, lets⟩ :=
    (recovery_is_bounded ask policy 0 30 turn acts fresh short).2.2 phase
  have isTime : time = 20 := Option.some.inj (opening.symm.trans since)
  have late : time + 30 + 10 ≤ (perform ask turn acts).scene.turn.now := by
    simp [isTime, last, arrive, now]
  exact ⟨found, phase, since, began, lets late 2 _ 1 _ found rfl rfl⟩

end Plays

end Play
end Roster
