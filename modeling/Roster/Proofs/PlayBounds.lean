import Roster.Proofs.PlayWatch
import Roster.Proofs.ReadingTries
import Roster.Proofs.ScenePlay

/-!
What bounds a reading, whoever else reads at the same time. It is over by its deadline, its
attempts are few and come one after the other with the pauses of its backoff between them,
and when it is over nothing of it goes on. No pause can last longer than the longest wait
there is, whatever the backoff says.
-/

namespace Roster

open Reading (Ask Try SameRequest Moved Limited sameRequest_moved sameRequest_limited
  open_of_moved triesOf)

namespace Reading

def endedAt? (reading : Reading) : Option Nat :=
  match reading.stage with
  | .finished time _ | .abandoned time => some time
  | _ => none

/-- The bounds of a reading that was asked for at a time, given what it tried up to now. -/
structure Bounded (guard : ReadGuard) (begun now : Nat) (reading : Reading) (tries : List Try) :
    Prop where
  timely : begun + guard.deadline < now → reading.isOver = true
  inTime : ∀ time, reading.endedAt? = some time → time ≤ begun + guard.deadline
  few : tries.length ≤ max guard.backoff.maxAttempts 1
  numbered : tries.map (·.number) = List.range' 1 tries.length
  early : ∀ attempt ∈ tries, attempt.began ≤ begun + guard.deadline
  first : ∀ first, tries.head? = some first → first.began = begun
  spaced : tries.IsChain (Try.Precedes (pauseOf guard.backoff))
  asking : reading.isAsking = tries.any (·.ended.isNone)
  stopped : ∀ time, reading.endedAt? = some time → Quiet time tries

theorem waitFor_le (duration : Nat) : waitFor duration ≤ duration := Nat.min_le_left _ _

theorem ended_of_quiet (now : Nat) (tries : List Try) (quiet : Quiet now tries) :
    tries.any (·.ended.isNone) = false := by
  rw [List.any_eq_false]
  intro attempt member
  obtain ⟨time, _, ended⟩ := quiet attempt member
  simp [ended]

theorem asking_clocked (reading : Reading) (now : Nat) (log : List (Nat × Deed))
    (clocked : reading.Clocked now log) :
    reading.isAsking = (triesOf log).any (·.ended.isNone) := by
  obtain ⟨_, stands⟩ := clocked
  cases stage : reading.stage with
  | attempting number delay =>
      simp only [stage] at stands
      rw [ended_of_quiet now _ stands.1]
      simp [isAsking, stage]
  | asking number delay due answer =>
      simp only [stage] at stands
      obtain ⟨done, began, _, shape⟩ := stands
      rw [shape]
      simp [isAsking, stage]
  | pausing number delay due =>
      simp only [stage] at stands
      rw [ended_of_quiet now _ stands.1]
      simp [isAsking, stage]
  | finished time answer =>
      simp only [stage] at stands
      rw [ended_of_quiet time _ stands.1]
      simp [isAsking, stage]
  | abandoned time =>
      simp only [stage] at stands
      rw [ended_of_quiet time _ stands.1]
      simp [isAsking, stage]

theorem stopped_clocked (reading : Reading) (now time : Nat) (log : List (Nat × Deed))
    (clocked : reading.Clocked now log) (ended : reading.endedAt? = some time) :
    Quiet time (triesOf log) ∧ time ≤ reading.deadline := by
  obtain ⟨_, stands⟩ := clocked
  cases stage : reading.stage with
  | attempting number delay => simp [endedAt?, stage] at ended
  | asking number delay due answer => simp [endedAt?, stage] at ended
  | pausing number delay due => simp [endedAt?, stage] at ended
  | finished last answer =>
      simp only [endedAt?, stage, Option.some.injEq] at ended
      subst ended
      simpa only [stage] using stands
  | abandoned last =>
      simp only [endedAt?, stage, Option.some.injEq] at ended
      subst ended
      simpa only [stage] using stands

theorem bounded_clocked (reading : Reading) (now : Nat) (log : List (Nat × Deed))
    (clocked : reading.Clocked now log)
    (punctual : reading.isOver = false → now ≤ reading.deadline) :
    Bounded reading.guard reading.started now reading (triesOf log) := by
  have latest : reading.deadline ≤ reading.started + reading.guard.deadline :=
    Nat.add_le_add_left (waitFor_le _) _
  have orderly := clocked.1
  constructor
  · intro late
    cases open' : reading.isOver with
    | true => rfl
    | false =>
        have early := punctual open'
        omega
  · intro time ended
    exact Nat.le_trans (stopped_clocked reading now time log clocked ended).2 latest
  · exact orderly_within reading.guard reading.started _ orderly
  · exact orderly_numbered reading.guard reading.started _ orderly
  · intro attempt member
    exact Nat.le_trans (orderly_punctual _ reading.started _ orderly attempt member) latest
  · exact orderly_first reading.guard reading.started _ orderly
  · exact orderly_spaced reading.guard reading.started _ orderly
  · exact asking_clocked reading now log clocked
  · intro time ended
    exact (stopped_clocked reading now time log clocked ended).1

end Reading

namespace Play

variable {σ : Type} (ask : Ask σ)

def log (play : Play σ) (who : Nat) : List (Nat × Reading.Deed) :=
  (play.record.filter (·.who == who)).map fun entry => (entry.time, entry.deed)

/-! ### A reading stays what it was asked to be -/

def Stays (reading : Reading) (who : Nat) (play : Play σ) : Prop :=
  ∃ next, play.scene.readings[who]? = some next ∧ SameRequest reading next

theorem stays_note (play : Play σ) (who other : Nat) (turn : Turn σ) (reading stood next : Reading)
    (deeds : List Reading.Deed) (stays : play.Stays reading who)
    (found : play.scene.readings[other]? = some stood) (same : SameRequest stood next) :
    (play.note other turn next deeds).Stays reading who := by
  obtain ⟨now, place, since⟩ := stays
  by_cases isOther : other = who
  · subst isOther
    cases Option.some.inj (place.symm.trans found)
    have inside := (List.getElem?_eq_some_iff.mp found).1
    refine ⟨next, by simp [note, inside], ?_⟩
    constructor
    · exact same.id.trans since.id
    · exact same.options.trans since.options
    · exact same.guard.trans since.guard
    · exact same.started.trans since.started
    · exact same.patience.trans since.patience
  · refine ⟨now, ?_, since⟩
    simpa [note, isOther] using place

theorem stays_acted (act : Act) (before after : Play σ) (reading : Reading) (who : Nat)
    (acted : Acted ask before act after) (stays : before.Stays reading who) :
    after.Stays reading who := by
  cases acted with
  | idle act silent => exact stays
  | arrived id options guard patience =>
      obtain ⟨now, place, since⟩ := stays
      have inside := (List.getElem?_eq_some_iff.mp place).1
      exact ⟨now, by simpa [arrive, List.getElem?_append_left inside] using place, since⟩
  | moved other stood next turn deeds found moved =>
      exact stays_note before who other turn reading stood next deeds stays found
        (sameRequest_moved ask _ turn stood next deeds moved).1
  | limited other stood next turn deeds found open' stuck limited =>
      exact stays_note before who other turn reading stood next deeds stays found
        (sameRequest_limited _ turn stood next deeds limited).1
  | left other stood panel found open' =>
      exact stays_note before who other _ reading stood _ _ stays found ⟨rfl, rfl, rfl, rfl, rfl⟩
  | passed time can => exact stays

theorem stays_fold (acts : List Act) (play : Play σ) (reading : Reading) (who : Nat)
    (stays : play.Stays reading who) : (acts.foldl (step ask) play).Stays reading who := by
  induction acts generalizing play with
  | nil => exact stays
  | cons act rest ih =>
      exact ih (play.step ask act) (stays_acted ask act play _ reading who
        (step_acted ask play act) stays)

/-! ### Every reading stands where its log says -/

def Clocked (play : Play σ) : Prop :=
  ∀ (who : Nat) (reading : Reading), play.scene.readings[who]? = some reading →
    reading.Clocked play.scene.turn.now (play.log who)

section Clocks

variable (play : Play σ)

theorem log_note (who other : Nat) (turn : Turn σ) (next : Reading) (deeds : List Reading.Deed) :
    (play.note who turn next deeds).log other =
      play.log other ++ if who = other then deeds.map (play.scene.turn.now, ·) else [] := by
  simp only [log, note, entries, List.filter_append, List.map_append, List.filter_map]
  congr 1
  by_cases same : who = other
  · subst same
    simp [Function.comp_def]
  · simp [Function.comp_def, same]

theorem clocked_note (who : Nat) (turn : Turn σ) (next : Reading) (deeds : List Reading.Deed)
    (clocked : play.Clocked) (now : turn.now = play.scene.turn.now)
    (noted : next.Clocked play.scene.turn.now
      (play.log who ++ deeds.map (play.scene.turn.now, ·))) :
    (play.note who turn next deeds).Clocked := by
  intro other standing place
  change standing.Clocked turn.now _
  rw [log_note, now]
  rcases note_reading play who turn next deeds other standing place with
    ⟨rfl, rfl⟩ | ⟨isOther, unmoved⟩
  · rw [if_pos rfl]
    exact noted
  · rw [if_neg isOther, List.append_nil]
    exact clocked other standing unmoved

theorem clocked_arrive (source : σ) (id : Id) (options : ReadOptions) (guard : ReadGuard)
    (patience : Option Nat) (kept : play.Kept ask source) (clocked : play.Clocked) :
    (play.arrive id options guard patience).Clocked := by
  intro who reading place
  simp only [arrive, List.getElem?_append, List.getElem?_singleton] at place
  split at place
  · exact clocked who reading place
  · split at place
    · cases place
      have isLast : who = play.scene.readings.length := by omega
      -- The record does not speak of a reading that comes just now.
      have silent : play.log who = [] := by
        have none' := deedsOf_next ask source play kept
        rw [deedsOf, List.map_eq_nil_iff] at none'
        rw [log, isLast, none', List.map_nil]
      change Reading.Clocked _ play.scene.turn.now (play.log who)
      rw [silent]
      exact Reading.clocked_start play.scene.turn.now id options guard patience
    · cases place

theorem clocked_pass (time : Nat) (clocked : play.Clocked)
    (can : play.scene.canPass time = true) :
    Clocked { play with scene.turn := play.scene.turn.next time } := by
  simp only [Scene.canPass, Bool.or_eq_true, decide_eq_true_eq, List.all_eq_true] at can
  intro who reading place
  have before := clocked who reading place
  change reading.Clocked (max play.scene.turn.now time) (play.log who)
  rcases can with past | idle
  · rwa [Nat.max_eq_left past]
  · exact Reading.clocked_idle reading _ _ time before
      (idle reading (List.mem_of_getElem? place))

theorem clocked_acted (act : Act) (after : Play σ) (source : σ) (acted : Acted ask play act after)
    (kept : play.Kept ask source) (clocked : play.Clocked) : after.Clocked := by
  cases acted with
  | idle act silent => exact clocked
  | arrived id options guard patience =>
      exact clocked_arrive ask play source id options guard patience kept clocked
  | moved who reading next turn deeds found moved =>
      have open' := open_of_moved ask _ turn reading next deeds moved
      apply clocked_note play who turn next deeds clocked
      · exact (sameRequest_moved ask _ turn reading next deeds moved).2
      · exact Reading.clocked_moved reading next _ ask _ turn _ deeds (kept.told who reading found)
          (kept.punctual reading (List.mem_of_getElem? found) open') (clocked who reading found)
          moved
  | limited who reading next turn deeds found open' stuck limited =>
      apply clocked_note play who turn next deeds clocked
      · exact (sameRequest_limited _ turn reading next deeds limited).2
      · exact Reading.clocked_limited reading next _ _ turn deeds (clocked who reading found)
          (kept.punctual reading (List.mem_of_getElem? found) open') open' limited
  | left who reading panel found open' =>
      apply clocked_note play who _ _ _ clocked
      · rfl
      · obtain ⟨orderly, quiet⟩ := Reading.clocked_given_up reading play.scene.turn.now
          (play.log who) .abandoned (fun _ => rfl) (clocked who reading found) open'
        exact ⟨orderly, quiet, kept.punctual reading (List.mem_of_getElem? found) open'⟩
  | passed time can => exact clocked_pass play time clocked can

end Clocks

theorem perform_clocked (turn : Turn σ) (acts : List Act) : (perform ask turn acts).Clocked := by
  have both := perform_invariant ask turn
    (fun _ play => play.Kept ask turn.source ∧ play.Clocked)
    ⟨perform_kept ask turn [], by simp [Clocked]⟩
    (fun _ act before after acted ⟨kept, clocked⟩ =>
      ⟨kept_acted ask turn.source before act after acted kept,
        clocked_acted ask before act after turn.source acted kept clocked⟩)
    acts
  exact both.2

theorem arrived_stays (turn : Turn σ) (before later : List Act) (id : Id) (options : ReadOptions)
    (guard : ReadGuard) (patience : Option Nat) :
    (perform ask turn (before ++ .arrive id options guard patience :: later)).Stays
      (Reading.start id options guard (perform ask turn before).scene.turn.now patience)
      (perform ask turn before).scene.readings.length := by
  have arrived : ((perform ask turn before).arrive id options guard patience).Stays
      (Reading.start id options guard (perform ask turn before).scene.turn.now patience)
      (perform ask turn before).scene.readings.length :=
    ⟨_, by simp [arrive], rfl, rfl, rfl, rfl, rfl⟩
  have goesOn := stays_fold ask later _ _ _ arrived
  simpa [perform, List.foldl_append, step] using goesOn

/-- However it goes on after a reading was asked for, the reading is bounded: it is over by its
deadline; it makes no more attempts than it may, numbered from one, the first at once and each
other after the pause that follows the one before, all of them begun by the deadline; and none
goes on when it is over. It is over in the end, for a play can always go on until it is. -/
theorem reading_keeps_bounds (turn : Turn σ) (before later : List Act) (id : Id)
    (options : ReadOptions) (guard : ReadGuard) (patience : Option Nat) :
    let acts := before ++ .arrive id options guard patience :: later
    let who := (perform ask turn before).scene.readings.length
    let begun := (perform ask turn before).scene.turn.now
    let play := perform ask turn acts
    ∃ reading, play.scene.readings[who]? = some reading ∧
      reading.request = (id, options, guard) ∧
      reading.Bounded guard begun play.scene.turn.now (triesOf (play.log who)) ∧
      ∃ more, (∀ act ∈ more, act.isOwn = true) ∧
        ∃ last, (perform ask turn (acts ++ more)).scene.readings[who]? = some last ∧
          last.isOver = true := by
  intro acts who begun play
  obtain ⟨reading, found, same⟩ := arrived_stays ask turn before later id options guard patience
  have bounded : reading.Bounded reading.guard reading.started play.scene.turn.now
      (triesOf (play.log who)) := by
    apply Reading.bounded_clocked
    · exact perform_clocked ask turn acts who reading found
    · intro open'
      exact (perform_kept ask turn acts).punctual reading (List.mem_of_getElem? found) open'
  refine ⟨reading, found, ?_, ?_, ?_⟩
  · rw [Reading.request, same.id, same.options, same.guard]
    rfl
  · rw [same.guard, same.started] at bounded
    exact bounded
  · obtain ⟨more, own, scene, allOver⟩ := perform_run ask turn acts
    obtain ⟨last, stands, _⟩ :=
      arrived_stays ask turn before (later ++ more) id options guard patience
    have joined : before ++ Act.arrive id options guard patience :: (later ++ more) =
        acts ++ more := by
      simp [acts]
    rw [joined] at stands
    refine ⟨more, own, last, stands, ?_⟩
    rw [scene] at stands
    exact allOver last (List.mem_of_getElem? stands)

-- The second attempt takes longer than the deadline allows, and the reading ends with it.
example :
    let ask : Ask Unit := fun now _ _ _ =>
      ((), ⟨if now = 0 then 0 else 100, .error (.backendUnavailable "down")⟩)
    let turn : Turn Unit :=
      { now := 0, source := (), waits := Turn.capacity
        panel := { switches := [{ name := "organization", policy := {} }] } }
    let guard : ReadGuard :=
      { address := "here", place := 0, backoff := { initialDelay := 10 }, deadline := 30 }
    let acts : List Act :=
      [.arrive 7 {} guard none, .move 0, .pass 10, .move 0, .move 0, .pass 30, .limit 0]
    triesOf ((perform ask turn acts).log 0) = [⟨1, 0, some 0, true⟩, ⟨2, 10, some 30, true⟩] := by
  decide +kernel

/-- The pause of this backoff is longer than any wait, so the second attempt is made before the
deadline, which the pause as it is configured would have missed. -/
theorem pause_cut_short :
    let ask : Ask Unit := fun now id _ _ =>
      ((), ⟨0, if now = 0 then .error (.backendUnavailable "down")
        else .ok { id, name := "Clinic", country := "here" }⟩)
    let turn : Turn Unit :=
      { now := 0, source := (), waits := Turn.capacity
        panel := { switches := [{ name := "organization", policy := {} }] } }
    let guard : ReadGuard :=
      { address := "here", place := 0, deadline := 950000000000
        backoff := { maxAttempts := 2, initialDelay := 1000000000000 } }
    let acts : List Act :=
      [.arrive 1 {} guard none, .move 0, .pass 946080000000, .move 0, .move 0]
    let tries := triesOf ((perform ask turn acts).log 0)
    tries = [⟨1, 0, some 0, true⟩, ⟨2, 946080000000, some 946080000000, true⟩] ∧
      ¬ tries.IsChain (Try.Precedes fun number => Reading.pauseAfter guard.backoff (number - 1)) := by
  intro ask turn guard acts tries
  have made : tries = [⟨1, 0, some 0, true⟩, ⟨2, 946080000000, some 946080000000, true⟩] := by
    decide +kernel
  refine ⟨made, ?_⟩
  rw [made]
  intro spaced
  obtain ⟨time, ended, began⟩ := (List.isChain_cons_cons.mp spaced).1
  cases ended
  -- The configured pause is the initial delay, which is more than has passed.
  simp [Reading.pauseAfter, guard] at began

end Play
end Roster
