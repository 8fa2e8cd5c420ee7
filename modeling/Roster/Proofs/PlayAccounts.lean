import Roster.Proofs.BreakerRows
import Roster.Proofs.ReadingFates

/-!
What is counted of the readings of a play. A breaker has recorded a failure for each answer
that the backend is unavailable and for each reading that ran out of time, and each reading
that returned something is in at most one of the counts of the process. Whoever is not over
and whoever was given up is in none.
-/

namespace Roster

open Reading (Ask Moved Limited)

namespace Watch

def failures (watch : Watch) : Nat := watch.history.countP Mark.isFailure

section Failures

variable (policy : BreakerPolicy) (watch : Watch)

theorem failures_record (deed : Deed) (after : Breaker) (calls : List Nat) :
    (watch.record deed after calls).failures =
      watch.failures + if (watch.markOf deed after).isFailure then 1 else 0 :=
  List.countP_cons

theorem failures_start : (watch.start policy).failures = watch.failures := by
  simp only [start]
  split <;> rw [failures_record] <;> rfl

theorem failures_finish (call : Nat) (ending : Ending) (pending : call ∈ watch.calls) :
    (watch.finish policy call ending).failures =
      watch.failures + if ending.isAnswer then 0 else 1 := by
  rw [finish, if_pos pending, failures_record]
  cases ending <;> rfl

theorem failures_drop (call : Nat) : (watch.drop call).failures = watch.failures := by
  simp only [drop]
  split
  · rw [failures_record]
    rfl
  · rfl

theorem failures_dropped (seat : Option Nat) :
    ((seat.toList.map Act.drop).foldl (step policy) watch).failures = watch.failures := by
  cases seat with
  | none => rfl
  | some call => exact failures_drop watch call

theorem failures_timeOut : (watch.timeOut policy).failures = watch.failures + 1 :=
  failures_record watch _ _ _

end Failures

end Watch

namespace Play

variable {σ : Type}

/-! ### The failures of a breaker -/

section Failures

variable (ask : Ask σ) (policy : BreakerPolicy) (place : Nat) (sight : Sight)
  (turn after : Turn σ) (reading next : Reading) (who : Nat) (old deeds : List Reading.Deed)
  (asking : Nat → Bool)

/-- An answer of a call in flight and the end of the time can be failures; nothing else is. -/
theorem failures_see (entry : Entry) (panel : Panel) (now : Nat)
    (fits : Fits policy place sight panel now asking)
    (waits : ∀ attempt answer, entry.deed = .answered attempt answer → asking entry.who = true) :
    (sight.see policy entry).watch.failures =
      sight.watch.failures + entry.deed.isUnavailable.toNat + entry.deed.isExpiry.toNat := by
  change _ = (sight.watch.waitUntil entry.time).failures + _ + _
  have seated := fits.seated entry.who
  have inFlight := fits.inFlight entry.who
  cases deed : entry.deed with
  | asked attempt id options answer =>
      simp only [Sight.see, deed, Reading.Deed.acts]
      exact Watch.failures_start policy _
  | refused attempt =>
      simp only [Sight.see, deed, Reading.Deed.acts]
      exact Watch.failures_start policy _
  | answered attempt answer =>
      rw [waits attempt answer deed] at seated
      obtain ⟨call, seat⟩ := Option.isSome_iff_exists.mp seated
      simp only [Sight.see, deed, Reading.Deed.acts, seat]
      refine (Watch.failures_finish policy (sight.watch.waitUntil entry.time) call _
        (inFlight call seat)).trans ?_
      cases answer with
      | ok record => rfl
      | error fault =>
          cases transient : fault.isTransient <;>
            simp [Ending.ofOutcome, Ending.isAnswer, Reading.Deed.isUnavailable,
              Reading.Deed.isExpiry, transient]
  | expired =>
      simp only [Sight.see, deed, Reading.Deed.acts, List.foldl_append]
      refine (Watch.failures_timeOut policy _).trans ?_
      rw [Watch.failures_dropped]
      rfl
  | abandoned =>
      simp only [Sight.see, deed, Reading.Deed.acts]
      exact Watch.failures_dropped policy _ _

theorem ranOut_concluded (now number delay : Nat) (answer : Except Fault Organization)
    (concluded : Reading.Concluded now reading number delay answer next) :
    next.ranOut (old ++ [.answered number answer]) = false := by
  cases concluded with
  | again message failed left => rfl
  | last last => cases answer <;> simp [Reading.ranOut, Reading.finish, Reading.Deed.isExpiry]

def failing (old deeds : List Reading.Deed) (next : Reading) : Nat :=
  deeds.countP Reading.Deed.isUnavailable + (next.ranOut (old ++ deeds)).toNat

theorem failing_answered (now number delay : Nat) (answer : Except Fault Organization)
    (concluded : Reading.Concluded now reading number delay answer next) :
    failing old [.answered number answer] next =
      (Reading.Deed.answered number answer).isUnavailable.toNat := by
  rw [failing, ranOut_concluded reading next old now number delay answer concluded]
  cases unavailable : (Reading.Deed.answered number answer).isUnavailable <;> simp [unavailable]

theorem failing_asked (attempt : Nat) (id : Id) (options : ReadOptions)
    (answer : Timed (Except Fault Organization)) :
    failing old (.asked attempt id options answer :: deeds) next =
      failing (old ++ [.asked attempt id options answer]) deeds next := by
  simp [failing, Reading.Deed.isUnavailable]

theorem failures_moved (fits : Fits policy place sight turn.panel turn.now asking)
    (here : reading.guard.place = place) (asks : asking who = reading.isAsking)
    (moved : Moved ask turn reading deeds after next) :
    (sight.follow policy turn who deeds).watch.failures =
      sight.watch.failures + failing old deeds next := by
  cases moved with
  | refused number delay panel stage knocked =>
      exact failures_see policy place sight asking ⟨who, turn.now, turn.panel, .refused number⟩ _ _
        fits nofun
  | asked number delay panel source answer stage knocked asks later =>
      exact failures_see policy place sight asking
        ⟨who, turn.now, turn.panel, .asked number _ _ answer⟩ _ _ fits nofun
  | answeredAtOnce number delay panel source answer stage knocked asks atOnce =>
      -- One act, but two entries in the record: the call is let in first, then its answer is seen.
      let asked : Entry :=
        ⟨who, turn.now, turn.panel, .asked number reading.id reading.options answer⟩
      have first := failures_see policy place sight asking asked _ _ fits nofun
      have seen := fits_asked policy place sight turn reading who asking fits here number panel
        answer knocked
      have second := failures_see policy place (sight.see policy asked) _
        ⟨who, turn.now, turn.panel, .answered number answer.value⟩ _ _ seen
        (fun _ _ _ => if_pos rfl)
      rw [failing_asked, failing_answered reading _ (old ++ [asked.deed]) turn.now number delay
        answer.value (Reading.conclude_concluded turn.now panel reading number delay answer.value)]
      rw [first] at second
      exact second
  | answered number delay due answer stage ends =>
      have waits : asking who = true := by
        rw [asks]
        simp [Reading.isAsking, stage]
      rw [failing_answered reading _ old turn.now number delay answer
        (Reading.conclude_concluded turn.now turn.panel reading number delay answer)]
      exact failures_see policy place sight asking ⟨who, turn.now, turn.panel, .answered number _⟩
        _ _ fits (fun _ _ _ => waits)
  | resumed number delay due stage ends => rfl

theorem failures_abandoned (fits : Fits policy place sight turn.panel turn.now asking) :
    (sight.follow policy turn who [.abandoned]).watch.failures = sight.watch.failures :=
  failures_see policy place sight asking ⟨who, turn.now, turn.panel, .abandoned⟩ _ _ fits nofun

theorem failures_met (fits : Fits policy place sight turn.panel turn.now asking)
    (here : reading.guard.place = place) (asks : asking who = reading.isAsking)
    (met : reading.Met ask turn deeds after next) :
    (sight.follow policy turn who deeds).watch.failures =
      sight.watch.failures + failing old deeds next := by
  cases met with
  | moved _ _ _ moved =>
      exact failures_moved ask policy place sight turn after reading next who old deeds asking fits
        here asks moved
  | left open' => exact failures_abandoned policy place sight turn who asking fits
  | limited _ _ _ open' stuck limited =>
      cases limited with
      | abandoned early impatient =>
          exact failures_abandoned policy place sight turn who asking fits
      | kept early patient =>
          rw [failing, Reading.ranOut_open reading _ open']
          rfl
      | expired due =>
          have ended : (reading.finish turn.now (.error (Reading.timedOut reading.id))).ranOut
              (old ++ [.expired]) = true := by
            simp [Reading.ranOut, Reading.finish, Reading.Deed.isExpiry]
          rw [failing, ended]
          exact failures_see policy place sight asking ⟨who, turn.now, turn.panel, .expired⟩ _ _
            fits (fun _ _ same => by cases same)

end Failures

/-! ### Tallies -/

def counted (counts : Reading → List Reading.Deed → Bool) (play : Play σ) (who : Nat) : Bool :=
  play.scene.readings[who]?.any fun reading => counts reading (play.deedsOf who)

def tally (counts : Reading → List Reading.Deed → Bool) (play : Play σ) : Nat :=
  (List.range play.scene.readings.length).countP (play.counted counts)

theorem countP_range_one_more (before after : Nat → Bool) (size who : Nat) (inside : who < size)
    (others : ∀ other, other ≠ who → after other = before other) (uncounted : before who = false) :
    (List.range size).countP after = (List.range size).countP before + (after who).toNat := by
  induction size with
  | zero => cases inside
  | succ size ih =>
      simp only [List.range_succ, List.countP_append, List.countP_singleton]
      by_cases isLast : who = size
      · subst isLast
        have same : (List.range who).countP after = (List.range who).countP before := by
          apply List.countP_congr
          intro other member
          rw [others other (Nat.ne_of_lt (List.mem_range.mp member))]
        rw [same, uncounted]
        cases after who <;> rfl
      · rw [ih (by omega), others size (Ne.symm isLast)]
        omega

section Tallies

variable (counts : Reading → List Reading.Deed → Bool) (play : Play σ)

theorem counted_note_other (who other : Nat) (turn : Turn σ) (next : Reading)
    (deeds : List Reading.Deed) (isOther : other ≠ who) :
    (play.note who turn next deeds).counted counts other = play.counted counts other := by
  have deedsOf' := deedsOf_note play who turn next deeds other
  rw [if_neg (Ne.symm isOther), List.append_nil] at deedsOf'
  rw [counted, counted, deedsOf']
  simp [note, Ne.symm isOther]

theorem counted_note (who : Nat) (turn : Turn σ) (next : Reading) (deeds : List Reading.Deed)
    (inside : who < play.scene.readings.length) :
    (play.note who turn next deeds).counted counts who =
      counts next (play.deedsOf who ++ deeds) := by
  have deedsOf' := deedsOf_note play who turn next deeds who
  rw [if_pos rfl] at deedsOf'
  rw [counted, deedsOf']
  simp [note, inside]

/-- What one reading does can only add itself to a tally, if it was not in there. -/
theorem tally_note (who : Nat) (turn : Turn σ) (reading next : Reading) (deeds : List Reading.Deed)
    (found : play.scene.readings[who]? = some reading)
    (uncounted : counts reading (play.deedsOf who) = false) :
    (play.note who turn next deeds).tally counts =
      play.tally counts + (counts next (play.deedsOf who ++ deeds)).toNat := by
  obtain ⟨inside, _⟩ := List.getElem?_eq_some_iff.mp found
  have many : (play.note who turn next deeds).scene.readings.length =
      play.scene.readings.length := List.length_set
  rw [tally, many, ← counted_note counts play who turn next deeds inside]
  apply countP_range_one_more _ _ _ who inside
  · exact fun other isOther => counted_note_other counts play who other turn next deeds isOther
  · simp [counted, found, uncounted]

theorem tally_arrive (id : Id) (options : ReadOptions) (guard : ReadGuard) (patience : Option Nat)
    (uncounted : ∀ deeds, counts
      (Reading.start id options guard play.scene.turn.now patience) deeds = false) :
    (play.arrive id options guard patience).tally counts = play.tally counts := by
  have last : (play.arrive id options guard patience).counted counts
      play.scene.readings.length = false := by
    simp [counted, arrive, uncounted]
  have others : ∀ who ∈ List.range play.scene.readings.length,
      ((play.arrive id options guard patience).counted counts who = true ↔
        play.counted counts who = true) := by
    intro who member
    rw [counted, arrive, List.getElem?_append_left (List.mem_range.mp member)]
    rfl
  have many : (play.arrive id options guard patience).scene.readings.length =
      play.scene.readings.length + 1 := List.length_append
  rw [tally, many, List.range_succ, List.countP_append, List.countP_singleton, last,
    List.countP_congr others]
  rfl

end Tallies

/-! ### Whole plays -/

def expiredAt (place : Nat) (play : Play σ) : Nat :=
  play.tally fun reading deeds => reading.guard.place == place && reading.ranOut deeds

def unavailableAt (place : Nat) (play : Play σ) : Nat :=
  (play.recordAt place).countP fun entry => entry.deed.isUnavailable

def returned (fate : Reading.Fate) (play : Play σ) : Nat :=
  play.tally fun reading deeds => reading.fate? deeds == some fate

/-- Failures and counts agree with what is said of the readings. -/
structure Balanced (policy : BreakerPolicy) (place : Nat) (metrics : Metrics) (play : Play σ) :
    Prop where
  failures : (play.watch policy place).failures = play.unavailableAt place + play.expiredAt place
  counts : ∀ fate : Reading.Fate, play.scene.turn.panel.metrics.count fate.counter =
    metrics.count fate.counter + play.returned fate

section Accounts

variable (ask : Ask σ) (policy : BreakerPolicy) (place : Nat) (before after : Play σ)
  (metrics : Metrics)

theorem failures_note (who : Nat) (turn : Turn σ) (reading next : Reading)
    (deeds : List Reading.Deed) (found : before.scene.readings[who]? = some reading)
    (met : reading.Met ask before.scene.turn deeds turn next) (seen : before.Seen policy place)
    (balanced : before.Balanced policy place metrics) :
    ((before.note who turn next deeds).watch policy place).failures =
      (before.note who turn next deeds).unavailableAt place +
        (before.note who turn next deeds).expiredAt place := by
  have same := (Reading.sameRequest_met ask _ turn reading next deeds met).1
  have open' := Reading.open_of_met ask _ turn reading next deeds met
  have expired : (before.note who turn next deeds).expiredAt place = before.expiredAt place +
      (reading.guard.place == place && next.ranOut (before.deedsOf who ++ deeds)).toNat := by
    have noted := tally_note
      (fun reading deeds => reading.guard.place == place && reading.ranOut deeds) before who turn
      reading next deeds found (by simp [Reading.ranOut_open reading _ open'])
    rwa [same.guard] at noted
  have balance : (before.sight policy place).watch.failures = _ := balanced.failures
  change ((before.note who turn next deeds).sight policy place).watch.failures = _
  -- What is done elsewhere is neither seen by this breaker nor counted for this place.
  by_cases here : reading.guard.place = place
  · have added := failures_met ask policy place _ _ turn reading next who (before.deedsOf who) deeds
      _ seen here (asksAt_here place before who reading found here) met
    have unavailable : (before.note who turn next deeds).unavailableAt place =
        before.unavailableAt place + deeds.countP Reading.Deed.isUnavailable := by
      rw [unavailableAt, recordAt_here place before who turn reading next deeds found same.guard
        here, List.countP_append, entries, List.countP_map]
      rfl
    rw [sight_note policy place before who turn reading next deeds found same.guard here, added,
      balance, expired, unavailable, failing, here]
    simp only [beq_self_eq_true, Bool.true_and]
    omega
  · have unavailable : (before.note who turn next deeds).unavailableAt place =
        before.unavailableAt place := by
      rw [unavailableAt, recordAt_elsewhere place before who turn reading next deeds found
        same.guard here]
      rfl
    rw [sight_note_elsewhere policy place before who turn reading next deeds found same.guard here,
      balance, expired, unavailable, beq_eq_false_iff_ne.mpr here]
    rfl

theorem counts_note (who : Nat) (turn : Turn σ) (reading next : Reading) (deeds : List Reading.Deed)
    (found : before.scene.readings[who]? = some reading)
    (met : reading.Met ask before.scene.turn deeds turn next) (fate : Reading.Fate)
    (balanced : before.Balanced policy place metrics) :
    turn.panel.metrics.count fate.counter =
      metrics.count fate.counter + (before.note who turn next deeds).returned fate := by
  have open' := Reading.open_of_met ask _ turn reading next deeds met
  have noted := tally_note (fun reading deeds => reading.fate? deeds == some fate) before who turn
    reading next deeds found (by simp [Reading.fate_open reading _ open'])
  rw [Reading.count_met ask _ turn reading next (before.deedsOf who) deeds met, balanced.counts,
    returned, returned, noted]
  omega

theorem balanced_came (act : Act) (came : Came ask before act after) (source : σ)
    (kept : before.Kept ask source) (seen : before.Seen policy place)
    (balanced : before.Balanced policy place metrics) : after.Balanced policy place metrics := by
  cases came with
  | idle act => exact balanced
  | passed time => exact ⟨balanced.failures, balanced.counts⟩
  | arrived id options guard patience =>
      have unseen := sight_arrive policy place before id options guard patience kept.known
      constructor
      · change ((before.arrive id options guard patience).sight policy place).watch.failures = _
        rw [unseen, unavailableAt, recordAt_arrive place before id options guard patience kept.known,
          expiredAt, tally_arrive _ before id options guard patience
            (by simp [Reading.ranOut, Reading.start])]
        exact balanced.failures
      · intro fate
        rw [returned, tally_arrive _ before id options guard patience
          (by simp [Reading.fate?, Reading.start])]
        exact balanced.counts fate
  | met act who reading next turn deeds found met =>
      constructor
      · exact failures_note ask policy place before metrics who turn reading next deeds found met
          seen balanced
      · exact fun fate => counts_note ask policy place before metrics who turn reading next deeds
          found met fate balanced

theorem perform_balanced (turn : Turn σ) (acts : List Act)
    (fresh : turn.panel.Holds place policy {}) :
    (perform ask turn acts).Balanced policy place turn.panel.metrics := by
  have both : (perform ask turn acts).Seen policy place ∧
      (perform ask turn acts).Balanced policy place turn.panel.metrics := by
    apply perform_keeps ask turn acts
      fun play => play.Seen policy place ∧ play.Balanced policy place turn.panel.metrics
    · exact ⟨perform_seen ask policy place turn fresh [], rfl, fun fate => rfl⟩
    · intro act _ before after came kept both
      exact ⟨seen_came ask policy place act before after came turn.source kept both.1,
        balanced_came ask policy place before after turn.panel.metrics act came turn.source kept
          both.1 both.2⟩
  exact both.2

/-- Every ending of a reading goes into just one count. The breaker at a place has recorded
one failure for each answer there that the backend is unavailable and one for each reading
there whose deadline ran out, in a call or in a pause; and each counter has gone up by the
readings that returned what it counts. Who was given up is in no count, and what a reading is
counted as is what decided on its answer. A deadline counts as at most thirty years of 365 days,
like every wait. -/
theorem every_ending_is_counted_once (turn : Turn σ) (acts : List Act)
    (fresh : turn.panel.Holds place policy {}) :
    let play := perform ask turn acts
    let watch := play.watch policy place
    play.scene.turn.panel.Holds place policy watch.breaker ∧
      (∃ made, watch = Watch.run policy made) ∧
      watch.failures = play.unavailableAt place + play.expiredAt place ∧
      (∀ fate : Reading.Fate, play.scene.turn.panel.metrics.count fate.counter =
        turn.panel.metrics.count fate.counter + play.returned fate) ∧
      ∀ (who : Nat) (reading : Reading), play.scene.readings[who]? = some reading →
        (∀ time, reading.stage = .abandoned time →
          reading.fate? (play.deedsOf who) = none ∧ reading.ranOut (play.deedsOf who) = false) ∧
        ∀ time answer, reading.stage = .finished time answer →
          ∃ way, reading.Decided (play.deedsOf who) time answer way ∧
            (reading.fate? (play.deedsOf who) = some .standIn ↔ way = .refused) ∧
            (reading.ranOut (play.deedsOf who) = true ↔ way = .expired) := by
  intro play watch
  have seen := perform_seen ask policy place turn fresh acts
  have balanced := perform_balanced ask policy place turn acts fresh
  refine ⟨seen.holds, watch_isRun policy place play, balanced.failures, balanced.counts, ?_⟩
  intro who reading found
  constructor
  · intro time stage
    simp [Reading.fate?, Reading.ranOut, stage]
  · intro time answer stage
    have told := (perform_kept ask turn acts).told who reading found
    simp only [Reading.Told, stage] at told
    obtain ⟨way, outcome⟩ := told
    exact ⟨way, Reading.outcome_decided reading way _ time answer outcome,
      Reading.fate_outcome reading _ way time answer stage outcome⟩

/-- Of five readings the first is told twice that the backend is unavailable, the second gets
a record, the third runs out of time, which opens the breaker, the fourth is given up, and the
last is served a stand-in. -/
theorem five_endings_counted :
    let ask : Ask Unit := fun _ id _ _ =>
      ((), if id = 2 then ⟨0, .ok { id, name := "Clinic", country := "here" }⟩
        else ⟨if id = 3 then 100 else 0, .error (.backendUnavailable "down")⟩)
    let policy : BreakerPolicy := { failureThreshold := 2 }
    let turn : Turn Unit :=
      { now := 0, source := (), waits := Turn.capacity
        panel := { switches := [{ name := "organization", policy }] } }
    let guard : ReadGuard :=
      { address := "here", place := 0, backoff := { maxAttempts := 2, initialDelay := 10 }
        deadline := 30 }
    let acts : List Act :=
      [.arrive 1 {} guard none, .move 0, .arrive 2 {} guard none, .move 1,
        .arrive 3 {} guard none, .move 2, .pass 10, .move 0, .move 0, .arrive 4 {} guard none,
        .leave 3, .pass 30, .limit 2, .arrive 5 {} guard none, .move 4]
    ((perform ask turn acts).watch policy 0).failures = 2 + 1 ∧
      (perform ask turn acts).scene.turn.panel.metrics.count (.retrySuccess "organization") =
        0 + 1 ∧
      (perform ask turn acts).scene.turn.panel.metrics.count (.retryFailure "organization") =
        0 + 2 ∧
      (perform ask turn acts).scene.turn.panel.metrics.count (.fallbacksServed "organization") =
        0 + 1 := by
  intro ask policy turn guard acts
  have fresh : turn.panel.Holds 0 policy {} := ⟨_, rfl, rfl, rfl⟩
  have unavailable : (perform ask turn acts).unavailableAt 0 = 2 := by decide +kernel
  have expired : (perform ask turn acts).expiredAt 0 = 1 := by decide +kernel
  have record : (perform ask turn acts).returned .record = 1 := by decide +kernel
  have failed : (perform ask turn acts).returned .unavailable = 2 := by decide +kernel
  have standIn : (perform ask turn acts).returned .standIn = 1 := by decide +kernel
  obtain ⟨_, _, failures, counts, _⟩ := every_ending_is_counted_once ask policy 0 turn acts fresh
  rw [unavailable, expired] at failures
  have records := counts .record
  have failedOnes := counts .unavailable
  have standIns := counts .standIn
  rw [record] at records
  rw [failed] at failedOnes
  rw [standIn] at standIns
  exact ⟨failures, records, failedOnes, standIns⟩

end Accounts

end Play
end Roster
