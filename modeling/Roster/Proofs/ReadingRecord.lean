import Roster.Proofs.ReadingOutcome

/-!
What the record of a play is good for. It lists every question the backend was ever
asked, in order and with what came of it; and what it says of one reading is just what
that reading must have done to stand where it stands, however the others moved.
-/

namespace Roster

open Reading (Ask Moved Limited SameRequest sameRequest_moved sameRequest_limited
  moved_not_abandoned limited_abandoned open_of_moved)

def Reading.Deed.isAsking : Reading.Deed → Bool
  | .asked .. => true
  | _ => false

def Reading.request (reading : Reading) : Id × ReadOptions × ReadGuard :=
  (reading.id, reading.options, reading.guard)

namespace Play

def Act.request? : Act → Option (Id × ReadOptions × ReadGuard)
  | .arrive id options guard _ => some (id, options, guard)
  | _ => none

variable {σ : Type}

/-- The backend, asked what a record says in its order, gives the answers it says. -/
inductive Replays (ask : Ask σ) : List Entry → σ → σ → Prop where
  | done (source : σ) : Replays ask [] source source
  | asked (entry : Entry) (attempt : Nat) (id : Id) (options : ReadOptions)
      (answer : Timed (Except Fault Organization)) (rest : List Entry) (before middle after : σ)
      (deed : entry.deed = .asked attempt id options answer)
      (asks : ask entry.time id options before = (middle, answer))
      (later : Replays ask rest middle after) : Replays ask (entry :: rest) before after
  | silent (entry : Entry) (rest : List Entry) (before after : σ)
      (silent : entry.deed.isAsking = false) (later : Replays ask rest before after) :
      Replays ask (entry :: rest) before after

theorem replays_append (ask : Ask σ) (first second : List Entry) (before middle after : σ)
    (earlier : Replays ask first before middle) (later : Replays ask second middle after) :
    Replays ask (first ++ second) before after := by
  induction earlier with
  | done source => exact later
  | asked entry attempt id options answer rest before middle after deed asks _ ih =>
      exact Replays.asked entry attempt id options answer _ before middle _ deed asks (ih later)
  | silent entry rest before after silent _ ih =>
      exact Replays.silent entry _ before _ silent (ih later)

theorem replays_silent (ask : Ask σ) (turn : Turn σ) (who : Nat) (deeds : List Reading.Deed)
    (source : σ) (silent : ∀ deed ∈ deeds, deed.isAsking = false) :
    Replays ask (entries turn who deeds) source source := by
  induction deeds with
  | nil => exact Replays.done source
  | cons deed rest ih =>
      refine Replays.silent _ _ source source (silent deed List.mem_cons_self) ?_
      exact ih (fun other member => silent other (List.mem_cons_of_mem deed member))

/-- A move asks the backend as often as it says, and hands on what that left of it. -/
theorem replays_moved (ask : Ask σ) (turn after : Turn σ) (reading next : Reading) (who : Nat)
    (deeds : List Reading.Deed) (moved : Moved ask turn reading deeds after next) :
    Replays ask (entries turn who deeds) turn.source after.source := by
  cases moved with
  | refused number delay panel stage knocked =>
      exact replays_silent ask turn who _ _ (by simp [Reading.Deed.isAsking])
  | asked number delay panel source answer stage knocked asks later =>
      exact Replays.asked _ number _ _ answer [] _ source _ rfl asks (Replays.done source)
  | answeredAtOnce number delay panel source answer stage knocked asks atOnce =>
      refine Replays.asked _ number _ _ answer _ _ source _ rfl asks ?_
      exact replays_silent ask turn who [.answered number answer.value] source
        (by simp [Reading.Deed.isAsking])
  | answered number delay due answer stage ends =>
      exact replays_silent ask turn who _ _ (by simp [Reading.Deed.isAsking])
  | resumed number delay due stage ends => exact Replays.done _

theorem replays_limited (ask : Ask σ) (turn after : Turn σ) (reading next : Reading) (who : Nat)
    (deeds : List Reading.Deed) (limited : Limited turn reading deeds after next) :
    Replays ask (entries turn who deeds) turn.source after.source := by
  cases limited with
  | expired due => exact replays_silent ask turn who _ _ (by simp [Reading.Deed.isAsking])
  | abandoned early impatient =>
      exact replays_silent ask turn who _ _ (by simp [Reading.Deed.isAsking])
  | kept early patient => exact Replays.done _

def Entry.Heard (entry : Entry) (reading : Reading) : Prop :=
  match entry.deed with
  | .asked .. => (entry.panel.enter reading.guard.place entry.time).2 = true
  | .refused _ => (entry.panel.enter reading.guard.place entry.time).2 = false
  | _ => True

theorem heard_same (entry : Entry) (reading next : Reading) (same : SameRequest reading next) :
    entry.Heard next ↔ entry.Heard reading := by
  simp only [Entry.Heard, same.guard]

/-- Whether a breaker lets an attempt through does not depend on what is counted. -/
theorem knock_enters (turn : Turn σ) (reading : Reading) (number : Nat) :
    (reading.knock turn number).2 = (turn.panel.enter reading.guard.place turn.now).2 := by
  simp only [Reading.knock]
  split
  · simp only [Panel.enter, Panel.count]
    split <;> rfl
  · rfl

theorem heard_moved (ask : Ask σ) (turn after : Turn σ) (reading next : Reading) (who : Nat)
    (deeds : List Reading.Deed) (moved : Moved ask turn reading deeds after next) :
    ∀ entry ∈ entries turn who deeds, entry.Heard reading := by
  intro entry member
  obtain ⟨deed, did, rfl⟩ := List.mem_map.mp member
  cases moved with
  | refused number delay panel stage knocked =>
      cases List.mem_singleton.mp did
      exact (knock_enters turn reading number).symm.trans (congrArg Prod.snd knocked)
  | asked number delay panel source answer stage knocked asks later =>
      cases List.mem_singleton.mp did
      exact (knock_enters turn reading number).symm.trans (congrArg Prod.snd knocked)
  | answeredAtOnce number delay panel source answer stage knocked asks atOnce =>
      rcases List.mem_cons.mp did with rfl | answered
      · exact (knock_enters turn reading number).symm.trans (congrArg Prod.snd knocked)
      · cases List.mem_singleton.mp answered
        trivial
  | answered number delay due answer stage ends =>
      cases List.mem_singleton.mp did
      trivial
  | resumed number delay due stage ends => cases did

theorem heard_limited (turn after : Turn σ) (reading next : Reading) (who : Nat)
    (deeds : List Reading.Deed) (limited : Limited turn reading deeds after next) :
    ∀ entry ∈ entries turn who deeds, entry.Heard reading := by
  intro entry member
  obtain ⟨deed, did, rfl⟩ := List.mem_map.mp member
  cases limited with
  | expired due =>
      cases List.mem_singleton.mp did
      trivial
  | abandoned early impatient =>
      cases List.mem_singleton.mp did
      trivial
  | kept early patient => cases did

/-! What an act can come to. -/

inductive Acted (ask : Ask σ) (play : Play σ) : Act → Play σ → Prop where
  | idle (act : Act) (silent : act.request? = none) : Acted ask play act play
  | arrived (id : Id) (options : ReadOptions) (guard : ReadGuard) (patience : Option Nat) :
      Acted ask play (.arrive id options guard patience) (play.arrive id options guard patience)
  | moved (who : Nat) (reading next : Reading) (after : Turn σ) (deeds : List Reading.Deed)
      (found : play.scene.readings[who]? = some reading)
      (moved : Moved ask play.scene.turn reading deeds after next) :
      Acted ask play (.move who) (play.note who after next deeds)
  | limited (who : Nat) (reading next : Reading) (after : Turn σ) (deeds : List Reading.Deed)
      (found : play.scene.readings[who]? = some reading) (open' : reading.isOver = false)
      (stuck : reading.step? ask play.scene.turn = none)
      (limited : Limited play.scene.turn reading deeds after next) :
      Acted ask play (.limit who) (play.note who after next deeds)
  | left (who : Nat) (reading : Reading) (panel : Panel)
      (found : play.scene.readings[who]? = some reading) (open' : reading.isOver = false) :
      Acted ask play (.leave who)
        (play.note who { play.scene.turn with panel }
          { reading with stage := .abandoned play.scene.turn.now } [.abandoned])
  | passed (time : Nat) (can : play.scene.canPass time = true) :
      Acted ask play (.pass time) { play with scene.turn := play.scene.turn.next time }

theorem step_acted (ask : Ask σ) (play : Play σ) (act : Act) :
    Acted ask play act (play.step ask act) := by
  cases act with
  | arrive id options guard patience => exact Acted.arrived id options guard patience
  | move who =>
      cases found : play.scene.readings[who]? with
      | none => simpa [step, found] using Acted.idle (.move who) rfl
      | some reading =>
          cases stepped : reading.step? ask play.scene.turn with
          | none => simpa [step, found, move, stepped] using Acted.idle (.move who) rfl
          | some moved =>
              have how := Reading.step_moved ask play.scene.turn moved.1 reading moved.2 stepped
              simpa [step, found, move, stepped] using Acted.moved who reading _ _ _ found how
  | limit who =>
      cases found : play.scene.readings[who]? with
      | none => simpa [step, found] using Acted.idle (.limit who) rfl
      | some reading =>
          cases open' : reading.isOver with
          | true => simpa [step, found, limit, open'] using Acted.idle (.limit who) rfl
          | false =>
              cases stuck : reading.step? ask play.scene.turn with
              | some moved => simpa [step, found, limit, stuck] using Acted.idle (.limit who) rfl
              | none =>
                  have how := Reading.limit_limited play.scene.turn reading
                  simpa [step, found, limit, open', stuck] using
                    Acted.limited who reading _ _ _ found open' stuck how
  | leave who =>
      cases found : play.scene.readings[who]? with
      | none => simpa [step, found] using Acted.idle (.leave who) rfl
      | some reading =>
          cases open' : reading.isOver with
          | true => simpa [step, found, leave, open'] using Acted.idle (.leave who) rfl
          | false =>
              simpa [step, found, leave, open', Reading.abandon] using
                Acted.left who reading (reading.letGo play.scene.turn.panel) found open'
  | pass time =>
      cases can : play.scene.canPass time with
      | true => simpa [step, pass, can] using Acted.passed time can
      | false => simpa [step, pass, can] using Acted.idle (.pass time) rfl

/-- What acts keep holds after every play, given all that was done up to it. -/
theorem perform_invariant (ask : Ask σ) (turn : Turn σ) (holds : List Act → Play σ → Prop)
    (initial : holds [] { scene := { turn } })
    (kept : ∀ past act before after, Acted ask before act after → holds past before →
      holds (past ++ [act]) after)
    (acts : List Act) : holds acts (perform ask turn acts) := by
  -- What was done grows at its end while the rest is taken from the front.
  have general : ∀ (rest past : List Act) (play : Play σ), holds past play →
      holds (past ++ rest) (rest.foldl (step ask) play) := by
    intro rest
    induction rest with
    | nil =>
        intro past play held
        simpa using held
    | cons act rest ih =>
        intro past play held
        have further := ih (past ++ [act]) _ (kept past act play _ (step_acted ask play act) held)
        simpa using further
  exact general acts [] _ initial

/-! Readings come in the order of their arrival and stay what they were asked to be. -/

theorem requests_set (readings : List Reading) (who : Nat) (reading next : Reading)
    (found : readings[who]? = some reading) (same : SameRequest reading next) :
    (readings.set who next).map Reading.request = readings.map Reading.request := by
  have unchanged : next.request = reading.request := by
    simp [Reading.request, same.id, same.options, same.guard]
  obtain ⟨inside, standing⟩ := List.getElem?_eq_some_iff.mp found
  apply List.ext_getElem?
  intro place
  by_cases isWho : who = place
  · subst isWho
    simp [inside, standing, unchanged]
  · simp [isWho]

theorem requests_acted (ask : Ask σ) (act : Act) (before after : Play σ)
    (acted : Acted ask before act after) :
    after.scene.readings.map Reading.request =
      before.scene.readings.map Reading.request ++ act.request?.toList := by
  cases acted with
  | idle act silent => simp [silent]
  | arrived id options guard patience =>
      simp [arrive, Act.request?, Reading.request, Reading.start]
  | moved who reading next after deeds found moved =>
      have same := (sameRequest_moved ask _ after reading next deeds moved).1
      simpa [Act.request?, note] using requests_set _ who reading next found same
  | limited who reading next after deeds found open' stuck limited =>
      have same := (sameRequest_limited _ after reading next deeds limited).1
      simpa [Act.request?, note] using requests_set _ who reading next found same
  | left who reading panel found open' =>
      have same := requests_set _ who reading
        { reading with stage := .abandoned before.scene.turn.now } found ⟨rfl, rfl, rfl, rfl, rfl⟩
      simpa [Act.request?, note] using same
  | passed time can => simp [Act.request?]

theorem perform_requests (ask : Ask σ) (turn : Turn σ) (acts : List Act) :
    (perform ask turn acts).scene.readings.map Reading.request = acts.filterMap Act.request? := by
  refine perform_invariant ask turn
    (fun past play => play.scene.readings.map Reading.request = past.filterMap Act.request?)
    rfl ?_ acts
  intro past act before after acted requests
  rw [requests_acted ask act before after acted, requests, List.filterMap_append]
  cases request : act.request? <;> simp [request]

/-! The record, reading by reading. -/

section Notes

variable (play : Play σ) (who : Nat) (turn : Turn σ) (next : Reading) (deeds : List Reading.Deed)

theorem note_reading (other : Nat) (standing : Reading)
    (place : (play.note who turn next deeds).scene.readings[other]? = some standing) :
    (who = other ∧ standing = next) ∨
      (who ≠ other ∧ play.scene.readings[other]? = some standing) := by
  simp only [note, List.getElem?_set] at place
  by_cases isWho : who = other
  · simp only [isWho, ↓reduceIte] at place
    split at place
    · cases place
      exact Or.inl ⟨isWho, rfl⟩
    · cases place
  · simp only [isWho, ↓reduceIte] at place
    exact Or.inr ⟨isWho, place⟩

theorem deedsOf_note (other : Nat) :
    (play.note who turn next deeds).deedsOf other =
      play.deedsOf other ++ if who = other then deeds else [] := by
  simp only [deedsOf, note, entries, List.filter_append, List.map_append, List.filter_map]
  congr 1
  by_cases same : who = other
  · subst same
    simp [Function.comp_def]
  · simp [Function.comp_def, same]

end Notes

/-- Only its caller gives a reading up: by leaving, or by the patience it came with. -/
theorem abandoned_by_caller (ask : Ask σ) (turn : Turn σ) (acts : List Act) (who : Nat)
    (reading : Reading) (time : Nat)
    (found : (perform ask turn acts).scene.readings[who]? = some reading)
    (abandoned : reading.stage = .abandoned time) :
    .leave who ∈ acts ∨ reading.patience.isSome = true := by
  refine perform_invariant ask turn
    (fun past play => ∀ who reading time, play.scene.readings[who]? = some reading →
      reading.stage = .abandoned time → .leave who ∈ past ∨ reading.patience.isSome = true)
    (by simp) ?_ acts who reading time found abandoned
  intro past act before after acted held who reading time found abandoned
  -- Whoever stood there before has been given up before.
  have earlier : before.scene.readings[who]? = some reading →
      .leave who ∈ past ++ [act] ∨ reading.patience.isSome = true := fun stood =>
    (held who reading time stood abandoned).imp_left (List.mem_append_left _)
  cases acted with
  | idle act silent => exact earlier found
  | arrived id options guard patience =>
      simp only [arrive, List.getElem?_append, List.getElem?_singleton] at found
      split at found
      · exact earlier found
      · split at found
        · cases found
          simp [Reading.start] at abandoned
        · cases found
  | moved mover stood next after deeds place moved =>
      rcases note_reading before mover after next deeds who reading found with
        ⟨rfl, rfl⟩ | ⟨_, unmoved⟩
      · exact absurd abandoned (moved_not_abandoned ask _ after stood _ deeds time moved)
      · exact earlier unmoved
  | limited limiter stood next after deeds place open' stuck limited =>
      rcases note_reading before limiter after next deeds who reading found with
        ⟨rfl, rfl⟩ | ⟨_, unmoved⟩
      · right
        rw [(sameRequest_limited _ after stood _ deeds limited).1.patience]
        exact limited_abandoned _ after stood _ deeds time open' limited abandoned
      · exact earlier unmoved
  | left leaver stood panel place open' =>
      rcases note_reading before leaver _ _ _ who reading found with ⟨rfl, rfl⟩ | ⟨_, unmoved⟩
      · exact Or.inl List.mem_concat_self
      · exact earlier unmoved
  | passed time can => exact earlier found

/-- What holds of every play: readings stand where their deeds have brought them, and
who is not over has not missed its deadline. -/
structure Kept (ask : Ask σ) (source : σ) (play : Play σ) : Prop where
  replays : Replays ask play.record source play.scene.turn.source
  known : ∀ entry ∈ play.record, entry.who < play.scene.readings.length
  heard : ∀ entry ∈ play.record, ∀ reading, play.scene.readings[entry.who]? = some reading →
    entry.Heard reading
  told : ∀ (who : Nat) (reading : Reading), play.scene.readings[who]? = some reading →
    reading.Told play.scene.turn.now (play.deedsOf who)
  punctual : ∀ reading ∈ play.scene.readings, reading.isOver = false →
    play.scene.turn.now ≤ reading.deadline

section Kept

variable (ask : Ask σ) (source : σ) (play : Play σ)

theorem heard_note (who : Nat) (turn : Turn σ) (reading next : Reading)
    (deeds : List Reading.Deed) (kept : play.Kept ask source)
    (found : play.scene.readings[who]? = some reading)
    (heard : ∀ entry ∈ entries play.scene.turn who deeds, entry.Heard reading)
    (same : SameRequest reading next) :
    ∀ entry ∈ (play.note who turn next deeds).record, ∀ standing,
      (play.note who turn next deeds).scene.readings[entry.who]? = some standing →
        entry.Heard standing := by
  intro entry member standing place
  -- Old entries were true before, new ones are about the reading that moved.
  have heardBefore : ∀ stood, play.scene.readings[entry.who]? = some stood →
      entry.Heard stood := by
    intro stood where'
    rcases List.mem_append.mp member with old | fresh
    · exact kept.heard entry old stood where'
    · have isWho : entry.who = who := by
        obtain ⟨deed, _, made⟩ := List.mem_map.mp fresh
        rw [← made]
      rw [isWho, found, Option.some.injEq] at where'
      exact where' ▸ heard entry fresh
  rcases note_reading play who turn next deeds entry.who standing place with
    ⟨isWho, rfl⟩ | ⟨_, unmoved⟩
  · exact (heard_same entry reading standing same).mpr (heardBefore reading (isWho ▸ found))
  · exact heardBefore standing unmoved

theorem kept_note (who : Nat) (turn : Turn σ) (reading next : Reading) (deeds : List Reading.Deed)
    (kept : play.Kept ask source) (found : play.scene.readings[who]? = some reading)
    (replays : Replays ask (entries play.scene.turn who deeds) play.scene.turn.source turn.source)
    (heard : ∀ entry ∈ entries play.scene.turn who deeds, entry.Heard reading)
    (told : next.Told play.scene.turn.now (play.deedsOf who ++ deeds))
    (now : turn.now = play.scene.turn.now)
    (same : SameRequest reading next) (open' : reading.isOver = false) :
    (play.note who turn next deeds).Kept ask source := by
  have inside := (List.getElem?_eq_some_iff.mp found).1
  constructor
  · exact replays_append ask play.record _ source _ _ kept.replays replays
  · intro entry member
    simp only [note, List.length_set] at member ⊢
    rcases List.mem_append.mp member with old | fresh
    · exact kept.known entry old
    · obtain ⟨deed, _, made⟩ := List.mem_map.mp fresh
      simpa [← made] using inside
  · exact heard_note ask source play who turn reading next deeds kept found heard same
  · intro other standing place
    change standing.Told turn.now _
    rw [deedsOf_note, now]
    rcases note_reading play who turn next deeds other standing place with
      ⟨rfl, rfl⟩ | ⟨isOther, unmoved⟩
    · simpa using told
    · simpa [isOther] using kept.told other standing unmoved
  · intro standing member stands
    simp only [note] at member ⊢
    rw [now]
    rcases List.mem_or_eq_of_mem_set member with old | fresh
    · exact kept.punctual standing old stands
    · rw [fresh, same.deadline]
      exact kept.punctual reading (List.mem_of_getElem? found) open'

/-- The record speaks only of readings that have arrived, so not of the next one. -/
theorem deedsOf_next (kept : play.Kept ask source) :
    play.deedsOf play.scene.readings.length = [] := by
  simp only [deedsOf, List.map_eq_nil_iff, List.filter_eq_nil_iff, beq_iff_eq]
  intro entry member
  exact Nat.ne_of_lt (kept.known entry member)

theorem kept_arrive (id : Id) (options : ReadOptions) (guard : ReadGuard) (patience : Option Nat)
    (kept : play.Kept ask source) : (play.arrive id options guard patience).Kept ask source := by
  have fresh := deedsOf_next ask source play kept
  constructor
  · exact kept.replays
  · intro entry member
    simp only [arrive, List.length_append, List.length_singleton]
    exact Nat.lt_succ_of_lt (kept.known entry member)
  · intro entry member reading place
    simp only [arrive, List.getElem?_append, kept.known entry member, ↓reduceIte] at place
    exact kept.heard entry member reading place
  · intro who reading place
    simp only [arrive, List.getElem?_append, List.getElem?_singleton] at place
    split at place
    · exact kept.told who reading place
    · split at place
      · cases place
        have isLast : who = play.scene.readings.length := by omega
        change Reading.Told _ play.scene.turn.now (play.deedsOf who)
        rw [isLast, fresh]
        exact Reading.told_start id options guard play.scene.turn.now patience
      · cases place
  · intro reading member stands
    simp only [arrive, List.mem_append, List.mem_singleton] at member
    rcases member with old | isNew
    · exact kept.punctual reading old stands
    · rw [isNew]
      exact Nat.le_add_right _ _

theorem kept_pass (time : Nat) (kept : play.Kept ask source)
    (can : play.scene.canPass time = true) :
    Kept ask source { play with scene.turn := play.scene.turn.next time } := by
  simp only [Scene.canPass, Bool.or_eq_true, decide_eq_true_eq, List.all_eq_true] at can
  refine ⟨kept.replays, kept.known, kept.heard, ?_, ?_⟩
  · intro who reading place
    have told := kept.told who reading place
    rcases can with past | idle
    · change reading.Told (max play.scene.turn.now time) (play.deedsOf who)
      rwa [Nat.max_eq_left past]
    · exact Reading.told_idle reading _ time _ told (idle reading (List.mem_of_getElem? place))
  · intro reading member stands
    have early := kept.punctual reading member stands
    refine Nat.max_le.mpr ⟨early, ?_⟩
    rcases can with past | idle
    · exact Nat.le_trans past early
    · exact Reading.idle_punctual reading time stands (idle reading member)

theorem kept_acted (act : Act) (after : Play σ) (acted : Acted ask play act after)
    (kept : play.Kept ask source) : after.Kept ask source := by
  cases acted with
  | idle act silent => exact kept
  | arrived id options guard patience =>
      exact kept_arrive ask source play id options guard patience kept
  | moved who reading next after deeds found moved =>
      have open' := open_of_moved ask _ after reading next deeds moved
      have punctual := kept.punctual reading (List.mem_of_getElem? found) open'
      have same := sameRequest_moved ask _ after reading next deeds moved
      exact kept_note ask source play who after reading next deeds kept found
        (replays_moved ask _ after reading next who deeds moved)
        (heard_moved ask _ after reading next who deeds moved)
        (Reading.told_moved ask _ after reading next _ deeds (kept.told who reading found)
          punctual moved)
        same.2 same.1 open'
  | limited who reading next after deeds found open' stuck limited =>
      have punctual := kept.punctual reading (List.mem_of_getElem? found) open'
      have same := sameRequest_limited _ after reading next deeds limited
      exact kept_note ask source play who after reading next deeds kept found
        (replays_limited ask _ after reading next who deeds limited)
        (heard_limited _ after reading next who deeds limited)
        (Reading.told_limited ask _ after reading next _ deeds (kept.told who reading found)
          punctual open' stuck limited)
        same.2 same.1 open'
  | left who reading panel found open' =>
      refine kept_note ask source play who _ reading _ _ kept found ?_ ?_ ?_ rfl
        ⟨rfl, rfl, rfl, rfl, rfl⟩ open'
      · exact replays_silent ask _ who _ _ (by simp [Reading.Deed.isAsking])
      · simp [entries, Entry.Heard]
      · simp [Reading.Told]
  | passed time can => exact kept_pass ask source play time kept can

end Kept

theorem perform_kept (ask : Ask σ) (turn : Turn σ) (acts : List Act) :
    (perform ask turn acts).Kept ask turn.source := by
  refine perform_invariant ask turn (fun _ play => play.Kept ask turn.source) ?_ ?_ acts
  · exact ⟨Replays.done _, by simp, by simp, by simp, by simp⟩
  · intro _ act before after acted kept
    exact kept_acted ask turn.source before act after acted kept

end Play
end Roster
