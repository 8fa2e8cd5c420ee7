import Roster.Proofs.ReadingProgress
import Roster.Proofs.ReadingRecord

/-!
The run of a scene is a play. Its polls are moves and limits, and it lets time pass only
when nobody can go on; so whatever holds of all plays holds of it, and it goes on until
every reading is over.
-/

namespace Roster
namespace Play

open Reading (Ask Paced)

variable {σ : Type} (ask : Ask σ)

def Act.isOwn : Act → Bool
  | .arrive .. | .leave _ => false
  | _ => true

/-- What own acts can make of a play. -/
def Leads (play : Play σ) (scene : Scene σ) : Prop :=
  ∃ more : List Act, (∀ act ∈ more, act.isOwn = true) ∧ (more.foldl (step ask) play).scene = scene

theorem leads_refl (play : Play σ) : Leads ask play play.scene := ⟨[], by simp, rfl⟩

theorem leads_trans (play : Play σ) (middle last : Scene σ) (earlier : Leads ask play middle)
    (later : ∀ next : Play σ, next.scene = middle → Leads ask next last) :
    Leads ask play last := by
  obtain ⟨first, ownFirst, reached⟩ := earlier
  obtain ⟨second, ownSecond, final⟩ := later _ reached
  refine ⟨first ++ second, ?_, by rw [List.foldl_append, final]⟩
  intro act member
  exact (List.mem_append.mp member).elim (ownFirst act) (ownSecond act)

theorem leads_act (play : Play σ) (act : Act) (own : act.isOwn = true) :
    Leads ask play (play.step ask act).scene := ⟨[act], by simpa using own, rfl⟩

def put (play : Play σ) (who : Nat) (result : Turn σ × Reading) : Scene σ :=
  { turn := result.1, readings := play.scene.readings.set who result.2 }

theorem put_same (play : Play σ) (who : Nat) (reading : Reading)
    (found : play.scene.readings[who]? = some reading) :
    play.put who (play.scene.turn, reading) = play.scene := by
  obtain ⟨inside, standing⟩ := List.getElem?_eq_some_iff.mp found
  simp [put, ← standing]

theorem put_found (play next : Play σ) (who : Nat) (reading : Reading)
    (result : Turn σ × Reading) (found : play.scene.readings[who]? = some reading)
    (reached : next.scene = play.put who result) :
    next.scene.turn = result.1 ∧ next.scene.readings[who]? = some result.2 ∧
      ∀ further, next.put who further = play.put who further := by
  have inside := (List.getElem?_eq_some_iff.mp found).1
  refine ⟨by rw [reached]; rfl, ?_, ?_⟩
  · rw [reached]
    simp [put, inside]
  · intro further
    simp [put, reached]

theorem leads_advance (moves : Nat) (play : Play σ) (who : Nat) (reading : Reading)
    (found : play.scene.readings[who]? = some reading) :
    Leads ask play (play.put who (Reading.advance ask moves play.scene.turn reading)) := by
  induction moves generalizing play reading with
  | zero =>
      rw [Reading.advance, put_same play who reading found]
      exact leads_refl ask play
  | succ moves ih =>
      cases stepped : reading.step? ask play.scene.turn with
      | none =>
          simp only [Reading.advance, stepped]
          rw [put_same play who reading found]
          exact leads_refl ask play
      | some moved =>
          simp only [Reading.advance, stepped]
          have act : (play.step ask (.move who)).scene = play.put who moved := by
            simp [step, found, move, stepped, note, put]
          have acted := leads_act ask play (.move who) rfl
          rw [act] at acted
          refine leads_trans ask play _ _ acted ?_
          intro next reached
          obtain ⟨turn, stands, puts⟩ := put_found play next who reading moved found reached
          have further := ih next moved.2 stands
          rwa [puts, turn] at further

theorem leads_poll (play : Play σ) (who : Nat) (reading : Reading)
    (found : play.scene.readings[who]? = some reading) (paced : Paced reading) :
    Leads ask play (play.put who (reading.poll ask play.scene.turn)) := by
  have advanced := leads_advance ask reading.movesLeft play who reading found
  rcases Reading.poll_cases ask play.scene.turn reading with ⟨same, _⟩ | ⟨limits, open'⟩
  · rwa [same]
  · have stuck := (Reading.advance_progress ask reading.movesLeft play.scene.turn reading paced
      (Nat.le_refl _)).2.1
    rw [limits]
    generalize Reading.advance ask reading.movesLeft play.scene.turn reading = middle at *
    refine leads_trans ask play _ _ advanced ?_
    intro next reached
    -- The advance has left the reading stuck, which is when a play may look at its limits.
    obtain ⟨turn, stands, puts⟩ := put_found play next who reading middle found reached
    have act : (next.step ask (.limit who)).scene = play.put who (middle.2.limit middle.1) := by
      rw [← puts]
      simp [step, stands, limit, open', turn, stuck, note, put]
    have acted := leads_act ask next (.limit who) rfl
    rwa [act] at acted

theorem leads_pollAll (front rest : List Reading) (play : Play σ)
    (split : play.scene.readings = front ++ rest) (paced : ∀ reading ∈ rest, Paced reading) :
    Leads ask play
      { turn := (Scene.pollAll ask play.scene.turn rest).1
        readings := front ++ (Scene.pollAll ask play.scene.turn rest).2 } := by
  induction rest generalizing front play with
  | nil =>
      simp only [Scene.pollAll]
      rw [← split]
      exact leads_refl ask play
  | cons reading rest ih =>
      have found : play.scene.readings[front.length]? = some reading := by
        simp [split]
      have first := leads_poll ask play front.length reading found
        (paced reading List.mem_cons_self)
      refine leads_trans ask play _ _ first ?_
      intro next reached
      have others := ih (front ++ [(reading.poll ask play.scene.turn).2]) next
        (by simp [reached, put, split])
        (fun other member => paced other (List.mem_cons_of_mem reading member))
      have turn : next.scene.turn = (reading.poll ask play.scene.turn).1 := by
        rw [reached]
        rfl
      simpa [Scene.pollAll, turn] using others

theorem leads_pollScene (play : Play σ) (paced : ∀ reading ∈ play.scene.readings, Paced reading) :
    Leads ask play (play.scene.poll ask) := by
  simpa [Scene.poll] using leads_pollAll ask [] play.scene.readings play rfl paced

theorem waits_of_stuck (turn : Turn σ) (reading : Reading)
    (stuck : reading.step? ask turn = none) (number delay : Nat) :
    reading.stage ≠ .attempting number delay := by
  intro stage
  simp [Reading.step?, stage] at stuck

theorem poll_waits (turn : Turn σ) (reading : Reading) (paced : Paced reading)
    (number delay : Nat) : (reading.poll ask turn).2.stage ≠ .attempting number delay := by
  have stuck := (Reading.advance_progress ask reading.movesLeft turn reading paced
    (Nat.le_refl _)).2.1
  have waits := waits_of_stuck ask _ _ stuck number delay
  rcases Reading.poll_cases ask turn reading with ⟨same, _⟩ | ⟨limits, _⟩
  · rwa [same]
  · rw [limits]
    generalize Reading.advance ask reading.movesLeft turn reading = middle at *
    rcases Reading.limit_progress middle.1 middle.2 with same | ended
    · rwa [same]
    · intro stage
      simp [Reading.isOver, stage] at ended

theorem pollAll_waits (turn : Turn σ) (readings : List Reading)
    (paced : ∀ reading ∈ readings, Paced reading) :
    ∀ reading ∈ (Scene.pollAll ask turn readings).2, ∀ number delay,
      reading.stage ≠ .attempting number delay := by
  induction readings generalizing turn with
  | nil => simp [Scene.pollAll]
  | cons first rest ih =>
      intro reading member
      rcases List.mem_cons.mp member with same | later
      · rw [same]
        exact poll_waits ask turn first (paced first List.mem_cons_self)
      · exact ih (first.poll ask turn).1
          (fun other inRest => paced other (List.mem_cons_of_mem first inRest)) reading later

/-- Who has no attempt to make only waits, so the next turn may be when the first of them is due. -/
theorem canPass_wake (scene : Scene σ) (time : Nat) (wakes : scene.wake? = some time)
    (waits : ∀ reading ∈ scene.readings, ∀ number delay,
      reading.stage ≠ .attempting number delay) : scene.canPass time = true := by
  simp only [Scene.canPass, Bool.or_eq_true, List.all_eq_true]
  right
  intro reading member
  -- The time is the least of all, so it is no later than that of any reading.
  have first : ∀ other, reading.wake? = some other → time ≤ other := by
    intro other isOther
    exact (List.min?_eq_some_iff.mp wakes).2 other
      (List.mem_filterMap.mpr ⟨reading, member, isOther⟩)
  have idle : reading.wake?.all (time ≤ ·) = true := by
    cases wake : reading.wake? with
    | none => rfl
    | some other => simpa using first other wake
  unfold Reading.isIdleUntil
  split
  · next number delay stage => exact absurd stage (waits reading member number delay)
  · exact idle

theorem leads_runWithin (turns : Nat) (play : Play σ)
    (paced : ∀ reading ∈ play.scene.readings, Paced reading) :
    Leads ask play (play.scene.runWithin ask turns) := by
  induction turns generalizing play with
  | zero => exact leads_refl ask play
  | succ turns ih =>
      have polled := leads_pollScene ask play paced
      have stillPaced : ∀ reading ∈ (play.scene.poll ask).readings, Paced reading :=
        (Scene.pollAll_progress ask play.scene.turn play.scene.readings paced).1
      cases wakes : (play.scene.poll ask).wake? with
      | none =>
          simp only [Scene.runWithin, wakes]
          exact polled
      | some time =>
          simp only [Scene.runWithin, wakes]
          refine leads_trans ask play _ _ polled ?_
          intro next reached
          have can := canPass_wake _ time wakes
            (pollAll_waits ask play.scene.turn play.scene.readings paced)
          have passed : (next.step ask (.pass time)).scene =
              { play.scene.poll ask with turn := (play.scene.poll ask).turn.next time } := by
            simp [step, pass, reached, can]
          have acted := leads_act ask next (.pass time) rfl
          rw [passed] at acted
          refine leads_trans ask next _ _ acted ?_
          intro later reachedLater
          have further := ih later (by rw [reachedLater]; exact stillPaced)
          rwa [reachedLater] at further

theorem perform_paced (turn : Turn σ) (acts : List Act) :
    ∀ reading ∈ (perform ask turn acts).scene.readings, Paced reading := by
  intro reading member
  obtain ⟨who, found⟩ := List.mem_iff_getElem?.mp member
  exact Reading.paced_told reading _ _ ((perform_kept ask turn acts).told who reading found)

/-- However a play went so far, it can go on as the run of its scene, and then all are over. -/
theorem perform_run (turn : Turn σ) (acts : List Act) :
    ∃ more, (∀ act ∈ more, act.isOwn = true) ∧
      (perform ask turn (acts ++ more)).scene = (perform ask turn acts).scene.run ask ∧
      ∀ reading ∈ ((perform ask turn acts).scene.run ask).readings, reading.isOver = true := by
  have paced := perform_paced ask turn acts
  obtain ⟨more, own, reached⟩ := leads_runWithin ask (perform ask turn acts).scene.turns
    (perform ask turn acts) paced
  refine ⟨more, own, ?_, Scene.run_over ask _ paced⟩
  rw [perform, List.foldl_append]
  exact reached

/-- Readings come as they were asked for, and the record is true to the backend and to the
breakers. A reading that has an answer has it in exactly one of three ways: it is the answer
of the last attempt; or a breaker refused an attempt, which asked nothing and was the last;
or the deadline came first. A reading that has none was given up by its caller or gets one,
for a play can always go on until all readings are over. Like every wait, a deadline counts as
at most thirty years of 365 days, however long it is set. -/
theorem every_reading_is_decided (turn : Turn σ) (acts : List Act) :
    (perform ask turn acts).scene.readings.map Reading.request = acts.filterMap Act.request? ∧
      Replays ask (perform ask turn acts).record turn.source
        (perform ask turn acts).scene.turn.source ∧
      (∀ who reading, (perform ask turn acts).scene.readings[who]? = some reading →
        (∀ entry ∈ (perform ask turn acts).record, entry.who = who → entry.Heard reading) ∧
        (∀ time answer, reading.stage = .finished time answer →
          ∃ way, reading.Decided ((perform ask turn acts).deedsOf who) time answer way) ∧
        ∀ time, reading.stage = .abandoned time →
          .leave who ∈ acts ∨ reading.patience.isSome = true) ∧
      ∃ more, (∀ act ∈ more, act.isOwn = true) ∧
        (perform ask turn (acts ++ more)).scene = (perform ask turn acts).scene.run ask ∧
        ∀ reading ∈ ((perform ask turn acts).scene.run ask).readings, reading.isOver = true := by
  have kept := perform_kept ask turn acts
  refine ⟨perform_requests ask turn acts, kept.replays, ?_, perform_run ask turn acts⟩
  intro who reading found
  refine ⟨?_, ?_, ?_⟩
  · rintro entry member rfl
    exact kept.heard entry member reading found
  · intro time answer stage
    have told := kept.told who reading found
    simp only [Reading.Told, stage] at told
    obtain ⟨way, outcome⟩ := told
    exact ⟨way, Reading.outcome_decided reading way _ time answer outcome⟩
  · intro time abandoned
    exact abandoned_by_caller ask turn acts who reading time found abandoned

/-- A first attempt opens the breaker, which refuses the second one; and an answer that takes
longer than the deadline. -/
theorem refused_and_timed_out :
    let down : Except Fault Organization := .error (.backendUnavailable "down")
    let ask (latency : Nat) : Ask Unit := fun _ _ _ _ => ((), ⟨latency, down⟩)
    let turn : Turn Unit :=
      { now := 0, source := (), waits := Turn.capacity
        panel := { switches := [{ name := "organization", policy := { failureThreshold := 1 } }] } }
    let guard : ReadGuard :=
      { address := "here", place := 0, backoff := { initialDelay := 10 }, deadline := 50 }
    let acts : List Act := [.arrive 7 {} guard none, .move 0, .pass 10, .move 0, .move 0]
    let answer : Except Fault Organization := .ok {
      id := 7, name := "Fallback organization7", country := "Fallback organization7"
      originAddress := "here" }
    let refused : Reading := (Reading.start 7 {} guard 0 none).finish 10 answer
    let lateActs : List Act := [.arrive 8 {} guard none, .move 0, .pass 50, .limit 0]
    let late : Except Fault Organization :=
      .error (.backendUnavailable "Organization read for organizationId: 8 timed out")
    let expired : Reading := (Reading.start 8 {} guard 0 none).finish 50 late
    ((perform (ask 0) turn acts).scene.readings[0]? = some refused ∧
      refused.Decided [.asked 1 7 {} ⟨0, down⟩, .answered 1 down, .refused 2] 10 answer .refused) ∧
    (perform (ask 60) turn lateActs).scene.readings[0]? = some expired ∧
      expired.Decided [.asked 1 8 {} ⟨60, down⟩, .expired] 50 late .expired := by
  intro down ask turn guard acts answer refused lateActs late expired
  -- The texts are put together apart from the plays.
  have standIn : answer = .ok (Reading.standIn 7 "here") :=
    congrArg Except.ok (by decide +kernel)
  have timedOut : late = .error (Reading.timedOut 8) := congrArg Except.error (by decide +kernel)
  have found : (perform (ask 0) turn acts).scene.readings[0]? = some refused := by
    change _ = some ((Reading.start 7 {} guard 0 none).finish 10 answer)
    rw [standIn]
    rfl
  have deeds : (perform (ask 0) turn acts).deedsOf 0 =
      [.asked 1 7 {} ⟨0, down⟩, .answered 1 down, .refused 2] := by
    rfl
  have found' : (perform (ask 60) turn lateActs).scene.readings[0]? = some expired := by
    change _ = some ((Reading.start 8 {} guard 0 none).finish 50 late)
    rw [timedOut]
    rfl
  have deeds' : (perform (ask 60) turn lateActs).deedsOf 0 =
      [.asked 1 8 {} ⟨60, down⟩, .expired] := by
    rfl
  obtain ⟨way, decided⟩ :=
    ((every_reading_is_decided (ask 0) turn acts).2.2.1 0 refused found).2.1 10 answer rfl
  obtain ⟨way', decided'⟩ :=
    ((every_reading_is_decided (ask 60) turn lateActs).2.2.1 0 expired found').2.1 50 late rfl
  rw [deeds] at decided
  rw [deeds'] at decided'
  have isRefused : way = .refused := decided.refused.mpr ⟨2, by simp⟩
  have isExpired : way' = .expired := decided'.expired.mpr (by simp)
  exact ⟨⟨found, isRefused ▸ decided⟩, found', isExpired ▸ decided'⟩

end Play
end Roster
