import Roster.Proofs.PlayWatch

/-!
The breaker at a place of a play. What the record makes of a new breaker is just what stands
at that place of the panel. So whatever holds of all runs of a breaker holds of it there, and
each reading that waits for an answer has one of the calls in flight.
-/

namespace Roster

open Reading (Ask Moved Limited SameRequest sameRequest_moved sameRequest_limited
  conclude_concluded)

namespace Reading

variable {σ : Type}

/-- What a reading can do or meet with in an act of a play. -/
inductive Met (ask : Ask σ) (turn : Turn σ) (reading : Reading) :
    List Deed → Turn σ → Reading → Prop where
  | moved (deeds : List Deed) (after : Turn σ) (next : Reading)
      (moved : Moved ask turn reading deeds after next) : Met ask turn reading deeds after next
  | limited (deeds : List Deed) (after : Turn σ) (next : Reading)
      (open' : reading.isOver = false) (stuck : reading.step? ask turn = none)
      (limited : Limited turn reading deeds after next) : Met ask turn reading deeds after next
  | left (open' : reading.isOver = false) :
      Met ask turn reading [.abandoned] { turn with panel := letGo turn.panel reading }
        { reading with stage := .abandoned turn.now }

theorem sameRequest_met (ask : Ask σ) (turn after : Turn σ) (reading next : Reading)
    (deeds : List Deed) (met : Met ask turn reading deeds after next) :
    SameRequest reading next ∧ after.now = turn.now := by
  cases met with
  | moved _ _ _ moved => exact sameRequest_moved ask turn after reading next deeds moved
  | limited _ _ _ open' stuck limited =>
      exact sameRequest_limited turn after reading next deeds limited
  | left open' => exact ⟨⟨rfl, rfl, rfl, rfl, rfl⟩, rfl⟩

theorem open_of_met (ask : Ask σ) (turn after : Turn σ) (reading next : Reading)
    (deeds : List Deed) (met : Met ask turn reading deeds after next) :
    reading.isOver = false := by
  cases met with
  | moved _ _ _ moved => exact open_of_moved ask turn after reading next deeds moved
  | limited _ _ _ open' stuck limited => exact open'
  | left open' => exact open'

end Reading

namespace Play

variable {σ : Type}

/-! ### Moves, limits and leaving -/

section Steps

variable (policy : BreakerPolicy) (place : Nat) (breaker : Breaker)

theorem holds_retried (panel : Panel) (number : Nat) (holds : panel.Holds place policy breaker) :
    (if 1 < number then panel.count (.retryAttempts Reading.operation number) else panel).Holds
      place policy breaker := by
  split <;> exact holds

theorem holds_knock (turn : Turn σ) (reading : Reading) (number : Nat) (panel : Panel)
    (admitted : Bool) (knocked : reading.knock turn number = (panel, admitted))
    (holds : turn.panel.Holds place policy breaker) (here : reading.guard.place = place) :
    panel.Holds place policy (breaker.enter policy turn.now).1 ∧
      admitted = (breaker.enter policy turn.now).2 := by
  have counted := holds_retried policy place breaker turn.panel number holds
  obtain ⟨after, same⟩ := Panel.holds_enter _ place policy breaker turn.now counted
  rw [Reading.knock, here] at knocked
  rw [knocked] at after same
  exact ⟨after, same⟩

theorem holds_knock_elsewhere (turn : Turn σ) (reading : Reading) (number : Nat) (panel : Panel)
    (admitted : Bool) (knocked : reading.knock turn number = (panel, admitted))
    (holds : turn.panel.Holds place policy breaker) (apart : reading.guard.place ≠ place) :
    panel.Holds place policy breaker := by
  have counted := holds_retried policy place breaker turn.panel number holds
  have after := Panel.holds_enter_elsewhere _ place policy breaker reading.guard.place turn.now
    counted apart
  rw [Reading.knock] at knocked
  rwa [knocked] at after

theorem conclude_switches (now : Nat) (panel : Panel) (reading : Reading) (number delay : Nat)
    (answer : Except Fault Organization) :
    (Reading.conclude now panel reading number delay answer).1.switches =
      (panel.conclude reading.guard.place now Fault.isTransient answer).switches := by
  cases answer with
  | ok record => rfl
  | error fault =>
      simp only [Reading.conclude]
      split
      · rfl
      · split <;> rfl

theorem holds_of_switches (panel other : Panel) (same : other.switches = panel.switches)
    (holds : panel.Holds place policy breaker) : other.Holds place policy breaker := by
  obtain ⟨switch, found, isPolicy, isBreaker⟩ := holds
  exact ⟨switch, same ▸ found, isPolicy, isBreaker⟩

theorem holds_answered (now : Nat) (panel : Panel) (reading : Reading) (number delay : Nat)
    (answer : Except Fault Organization) (holds : panel.Holds place policy breaker)
    (here : reading.guard.place = place) :
    (Reading.conclude now panel reading number delay answer).1.Holds place policy
      (breaker.conclude policy now (.ofOutcome Fault.isTransient answer)) := by
  refine holds_of_switches policy place _ _ _
    (conclude_switches now panel reading number delay answer) ?_
  rw [here]
  exact panel.holds_conclude place policy breaker now Fault.isTransient answer holds

theorem holds_answered_elsewhere (now : Nat) (panel : Panel) (reading : Reading)
    (number delay : Nat) (answer : Except Fault Organization)
    (holds : panel.Holds place policy breaker) (apart : reading.guard.place ≠ place) :
    (Reading.conclude now panel reading number delay answer).1.Holds place policy breaker :=
  holds_of_switches policy place _ _ _ (conclude_switches now panel reading number delay answer)
    (panel.holds_conclude_elsewhere place policy breaker _ now Fault.isTransient answer holds apart)

theorem holds_letGo (panel : Panel) (reading : Reading) (holds : panel.Holds place policy breaker)
    (here : reading.guard.place = place) :
    (reading.letGo panel).Holds place policy
      (if reading.isAsking then breaker.release else breaker) := by
  unfold Reading.letGo Reading.isAsking
  cases reading.stage with
  | asking number delay due answer =>
      rw [here]
      exact panel.holds_update place policy breaker _ holds
  | _ => exact holds

theorem holds_letGo_elsewhere (panel : Panel) (reading : Reading)
    (holds : panel.Holds place policy breaker) (apart : reading.guard.place ≠ place) :
    (reading.letGo panel).Holds place policy breaker := by
  unfold Reading.letGo
  cases reading.stage with
  | asking number delay due answer =>
      exact panel.holds_update_elsewhere place policy breaker _ _ holds apart
  | _ => exact holds

theorem concluded_not_asking (now : Nat) (reading next : Reading) (number delay : Nat)
    (answer : Except Fault Organization)
    (concluded : Reading.Concluded now reading number delay answer next) :
    next.isAsking = false := by
  cases concluded <;> rfl

/-- Nothing that a reading at another place does is seen here. -/
theorem holds_moved_elsewhere (ask : Ask σ) (turn after : Turn σ) (reading next : Reading)
    (deeds : List Reading.Deed) (moved : Moved ask turn reading deeds after next)
    (holds : turn.panel.Holds place policy breaker) (apart : reading.guard.place ≠ place) :
    after.panel.Holds place policy breaker := by
  cases moved with
  | refused number delay panel stage knocked =>
      exact holds_knock_elsewhere policy place breaker turn reading number panel false knocked holds
        apart
  | asked number delay panel source answer stage knocked asks later =>
      exact holds_knock_elsewhere policy place breaker turn reading number panel true knocked holds
        apart
  | answeredAtOnce number delay panel source answer stage knocked asks atOnce =>
      exact holds_answered_elsewhere policy place breaker _ panel reading _ _ _
        (holds_knock_elsewhere policy place breaker turn reading number panel true knocked holds
          apart) apart
  | answered number delay due answer stage ends =>
      exact holds_answered_elsewhere policy place breaker _ _ reading _ _ _ holds apart
  | resumed number delay due stage ends => exact holds

theorem holds_met_elsewhere (ask : Ask σ) (turn after : Turn σ) (reading next : Reading)
    (deeds : List Reading.Deed) (met : reading.Met ask turn deeds after next)
    (holds : turn.panel.Holds place policy breaker) (apart : reading.guard.place ≠ place) :
    after.panel.Holds place policy breaker := by
  cases met with
  | moved _ _ _ moved =>
      exact holds_moved_elsewhere policy place breaker ask turn after reading next deeds moved holds
        apart
  | limited _ _ _ open' stuck limited =>
      cases limited with
      | expired due =>
          exact Panel.holds_update_elsewhere _ place policy breaker _ _
            (holds_letGo_elsewhere policy place breaker turn.panel reading holds apart) apart
      | abandoned early impatient =>
          exact holds_letGo_elsewhere policy place breaker turn.panel reading holds apart
      | kept early patient => exact holds
  | left open' => exact holds_letGo_elsewhere policy place breaker turn.panel reading holds apart

end Steps

def Sight.follow (policy : BreakerPolicy) (sight : Sight) (turn : Turn σ) (who : Nat)
    (deeds : List Reading.Deed) : Sight :=
  (entries turn who deeds).foldl (Sight.see policy) sight

section Following

variable (policy : BreakerPolicy) (place : Nat) (sight : Sight) (turn after : Turn σ)
  (reading next : Reading) (who : Nat) (deeds : List Reading.Deed) (asking : Nat → Bool)

def changed (asking : Nat → Bool) (who : Nat) (isAsking : Bool) : Nat → Bool :=
  fun other => if other = who then isAsking else asking other

theorem changed_same (isAsking : Bool) (same : asking who = isAsking) :
    changed asking who isAsking = asking := by
  funext other
  unfold changed
  split
  · next isWho => rw [isWho, same]
  · rfl

theorem changed_twice (first second : Bool) :
    changed (changed asking who first) who second = changed asking who second := by
  funext other
  unfold changed
  split <;> rfl

theorem fits_asked (fits : Fits policy place sight turn.panel turn.now asking)
    (here : reading.guard.place = place) (number : Nat) (panel : Panel)
    (answer : Timed (Except Fault Organization))
    (knocked : reading.knock turn number = (panel, true)) :
    Fits policy place
      (sight.see policy ⟨who, turn.now, turn.panel, .asked number reading.id reading.options answer⟩)
      panel turn.now (changed asking who true) := by
  obtain ⟨entered, admitted⟩ :=
    holds_knock policy place _ turn reading number panel true knocked fits.holds here
  exact fits_see policy place sight _ _ asking
    ⟨who, turn.now, turn.panel, .asked number _ _ answer⟩ _ fits rfl entered
    (fun _ => admitted.symm)

theorem fits_moved (ask : Ask σ) (fits : Fits policy place sight turn.panel turn.now asking)
    (here : reading.guard.place = place) (asks : asking who = reading.isAsking)
    (moved : Moved ask turn reading deeds after next) :
    Fits policy place (sight.follow policy turn who deeds) after.panel turn.now
      (changed asking who next.isAsking) := by
  cases moved with
  | refused number delay panel stage knocked =>
      have entered := (holds_knock policy place _ turn reading number panel false knocked fits.holds
        here).1
      exact fits_see policy place sight _ _ asking ⟨who, turn.now, turn.panel, .refused number⟩ _
        fits rfl entered (by simp [Reading.Deed.isAsking])
  | asked number delay panel source answer stage knocked asks later =>
      exact fits_asked policy place sight turn reading who asking fits here number panel answer
        knocked
  | answeredAtOnce number delay panel source answer stage knocked asks atOnce =>
      -- Question and answer are two entries: the answer is seen on what the question left.
      have first := fits_asked policy place sight turn reading who asking fits here number panel
        answer knocked
      have told := holds_answered policy place _ turn.now panel reading number delay answer.value
        first.holds here
      have second := fits_see policy place _ _ _ _
        ⟨who, turn.now, turn.panel, .answered number answer.value⟩ _ first rfl
        (by simpa [Reading.Deed.effect, changed] using told)
        (by simp [Reading.Deed.isAsking])
      rw [concluded_not_asking _ _ _ _ _ _
        (conclude_concluded turn.now panel reading number delay answer.value)]
      rw [← changed_twice who asking true false]
      exact second
  | answered number delay due answer stage ends =>
      have isAsking : asking who = true := by
        rw [asks]
        simp [Reading.isAsking, stage]
      rw [concluded_not_asking _ _ _ _ _ _
        (conclude_concluded turn.now turn.panel reading number delay answer)]
      refine fits_see policy place sight _ _ asking
        ⟨who, turn.now, turn.panel, .answered number answer⟩ _ fits rfl ?_
        (by simp [Reading.Deed.isAsking])
      simp only [Reading.Deed.effect, isAsking, ↓reduceIte]
      exact holds_answered policy place _ turn.now turn.panel reading number delay answer fits.holds
        here
  | resumed number delay due stage ends =>
      have idle : asking who = false := by
        rw [asks]
        simp [Reading.isAsking, stage]
      change Fits policy place sight turn.panel turn.now (changed asking who false)
      rw [changed_same who asking false idle]
      exact fits

/-- A call that is given up, for whatever reason, leaves its place to others. -/
theorem fits_abandoned (fits : Fits policy place sight turn.panel turn.now asking)
    (here : reading.guard.place = place) (asks : asking who = reading.isAsking) :
    Fits policy place (sight.follow policy turn who [.abandoned]) (reading.letGo turn.panel)
      turn.now (changed asking who false) := by
  refine fits_see policy place sight _ _ asking ⟨who, turn.now, turn.panel, .abandoned⟩ _ fits rfl
    ?_ (by simp [Reading.Deed.isAsking])
  simp only [Reading.Deed.effect, asks]
  exact holds_letGo policy place _ turn.panel reading fits.holds here

theorem fits_limited (fits : Fits policy place sight turn.panel turn.now asking)
    (here : reading.guard.place = place) (asks : asking who = reading.isAsking)
    (limited : Limited turn reading deeds after next) :
    Fits policy place (sight.follow policy turn who deeds) after.panel turn.now
      (changed asking who next.isAsking) := by
  cases limited with
  | expired due =>
      refine fits_see policy place sight _ _ asking ⟨who, turn.now, turn.panel, .expired⟩ _ fits rfl
        ?_ (by simp [Reading.Deed.isAsking])
      simp only [Reading.Deed.effect, asks]
      have freed := holds_letGo policy place _ turn.panel reading fits.holds here
      have failed := Panel.holds_update _ place policy _
        (fun policy breaker => breaker.fail policy turn.now) freed
      rw [← here] at failed ⊢
      exact failed
  | abandoned early impatient =>
      exact fits_abandoned policy place sight turn reading who asking fits here asks
  | kept early patient =>
      change Fits policy place sight turn.panel turn.now (changed asking who reading.isAsking)
      rw [changed_same who asking reading.isAsking asks]
      exact fits

/-- Whatever a reading at the place does or meets with, it is seen there. -/
theorem fits_met (ask : Ask σ) (fits : Fits policy place sight turn.panel turn.now asking)
    (here : reading.guard.place = place) (asks : asking who = reading.isAsking)
    (met : reading.Met ask turn deeds after next) :
    Fits policy place (sight.follow policy turn who deeds) after.panel turn.now
      (changed asking who next.isAsking) := by
  cases met with
  | moved _ _ _ moved =>
      exact fits_moved policy place sight turn after reading next who deeds asking ask fits here
        asks moved
  | limited _ _ _ open' stuck limited =>
      exact fits_limited policy place sight turn after reading next who deeds asking fits here asks
        limited
  | left open' => exact fits_abandoned policy place sight turn reading who asking fits here asks

end Following

/-! ### Whole plays -/

/-- What an act can come to, seen from the one reading it is about. -/
inductive Came (ask : Ask σ) (play : Play σ) : Act → Play σ → Prop where
  | idle (act : Act) : Came ask play act play
  | arrived (id : Id) (options : ReadOptions) (guard : ReadGuard) (patience : Option Nat) :
      Came ask play (.arrive id options guard patience) (play.arrive id options guard patience)
  | met (act : Act) (who : Nat) (reading next : Reading) (after : Turn σ)
      (deeds : List Reading.Deed) (found : play.scene.readings[who]? = some reading)
      (met : reading.Met ask play.scene.turn deeds after next) :
      Came ask play act (play.note who after next deeds)
  | passed (time : Nat) : Came ask play (.pass time)
      { play with scene.turn := play.scene.turn.next time }

theorem came_left (ask : Ask σ) (play : Play σ) (who : Nat) :
    Came ask play (.leave who) (play.step ask (.leave who)) := by
  cases found : play.scene.readings[who]? with
  | none => simpa [step, found] using Came.idle (.leave who)
  | some reading =>
      cases open' : reading.isOver with
      | true => simpa [step, found, leave, open'] using Came.idle (.leave who)
      | false =>
          simpa [step, found, leave, open', Reading.abandon] using
            Came.met (.leave who) who reading _ _ _ found (Reading.Met.left open')

theorem step_came (ask : Ask σ) (play : Play σ) (act : Act) :
    Came ask play act (play.step ask act) := by
  -- Of a leaving `Acted` does not say what becomes of the panel.
  have acted := step_acted ask play act
  generalize reached : play.step ask act = after at acted ⊢
  cases acted with
  | idle act silent => exact Came.idle act
  | arrived id options guard patience => exact Came.arrived id options guard patience
  | moved who reading next after deeds found moved =>
      exact Came.met _ who reading next after deeds found (.moved deeds after next moved)
  | limited who reading next after deeds found open' stuck limited =>
      exact Came.met _ who reading next after deeds found
        (.limited deeds after next open' stuck limited)
  | left who reading panel found open' =>
      rw [← reached]
      exact came_left ask play who
  | passed time can => exact Came.passed time

/-- What acts keep holds after every play; what is known of all plays may be used for it. -/
theorem perform_keeps (ask : Ask σ) (turn : Turn σ) (acts : List Act) (holds : Play σ → Prop)
    (initial : holds { scene := { turn } })
    (keeps : ∀ act ∈ acts, ∀ before after, Came ask before act after →
      before.Kept ask turn.source → holds before → holds after) :
    holds (perform ask turn acts) := by
  -- The induction is over the acts still to come, so it is of any play that has been reached.
  have general : ∀ rest ⊆ acts, ∀ play : Play σ, play.Kept ask turn.source → holds play →
      holds (rest.foldl (step ask) play) := by
    intro rest
    induction rest with
    | nil => exact fun _ _ _ held => held
    | cons act rest ih =>
        intro among play kept held
        obtain ⟨member, others⟩ := List.cons_subset.mp among
        refine ih others (play.step ask act) ?_ ?_
        · exact kept_acted ask turn.source play act _ (step_acted ask play act) kept
        · exact keeps act member play _ (step_came ask play act) kept held
  exact general acts (fun _ member => member) _ (perform_kept ask turn []) initial

def recordAt (place : Nat) (play : Play σ) : List Entry := play.record.filter (play.isAt place)

section Noting

variable (policy : BreakerPolicy) (place : Nat) (play : Play σ) (who : Nat) (turn : Turn σ)
  (reading next : Reading) (deeds : List Reading.Deed)

theorem isAt_note (found : play.scene.readings[who]? = some reading)
    (same : next.guard = reading.guard) :
    (play.note who turn next deeds).isAt place = play.isAt place := by
  obtain ⟨inside, standing⟩ := List.getElem?_eq_some_iff.mp found
  funext entry
  simp only [isAt, note]
  by_cases isWho : who = entry.who
  · subst isWho
    simp [inside, standing, same]
  · simp [isWho]

theorem sight_recordAt :
    play.sight policy place = (play.recordAt place).foldl (Sight.see policy) {} := rfl

/-- Of what is noted a place gets all or nothing. -/
theorem recordAt_note (found : play.scene.readings[who]? = some reading)
    (same : next.guard = reading.guard) :
    (play.note who turn next deeds).recordAt place =
      play.recordAt place ++
        if reading.guard.place = place then entries play.scene.turn who deeds else [] := by
  have noted : ∀ entry ∈ entries play.scene.turn who deeds,
      play.isAt place entry = decide (reading.guard.place = place) := by
    intro entry member
    obtain ⟨deed, _, rfl⟩ := List.mem_map.mp member
    simp [isAt, found, Bool.beq_eq_decide_eq]
  rw [recordAt, isAt_note place play who turn reading next deeds found same]
  simp only [note, List.filter_append]
  rw [List.filter_congr noted]
  by_cases here : reading.guard.place = place <;> simp [here, recordAt]

theorem recordAt_here (found : play.scene.readings[who]? = some reading)
    (same : next.guard = reading.guard) (here : reading.guard.place = place) :
    (play.note who turn next deeds).recordAt place =
      play.recordAt place ++ entries play.scene.turn who deeds := by
  rw [recordAt_note place play who turn reading next deeds found same, if_pos here]

theorem recordAt_elsewhere (found : play.scene.readings[who]? = some reading)
    (same : next.guard = reading.guard) (apart : reading.guard.place ≠ place) :
    (play.note who turn next deeds).recordAt place = play.recordAt place := by
  rw [recordAt_note place play who turn reading next deeds found same, if_neg apart,
    List.append_nil]

theorem recordAt_arrive (id : Id) (options : ReadOptions) (guard : ReadGuard)
    (patience : Option Nat)
    (known : ∀ entry ∈ play.record, entry.who < play.scene.readings.length) :
    (play.arrive id options guard patience).recordAt place = play.recordAt place := by
  refine List.filter_congr fun entry member => ?_
  simp [isAt, arrive, List.getElem?_append, known entry member]

theorem sight_note (found : play.scene.readings[who]? = some reading)
    (same : next.guard = reading.guard) (here : reading.guard.place = place) :
    (play.note who turn next deeds).sight policy place =
      (play.sight policy place).follow policy play.scene.turn who deeds := by
  rw [sight_recordAt, recordAt_here place play who turn reading next deeds found same here,
    List.foldl_append]
  rfl

theorem sight_note_elsewhere (found : play.scene.readings[who]? = some reading)
    (same : next.guard = reading.guard) (apart : reading.guard.place ≠ place) :
    (play.note who turn next deeds).sight policy place = play.sight policy place := by
  rw [sight_recordAt, recordAt_elsewhere place play who turn reading next deeds found same apart]
  rfl

theorem sight_arrive (id : Id) (options : ReadOptions) (guard : ReadGuard) (patience : Option Nat)
    (known : ∀ entry ∈ play.record, entry.who < play.scene.readings.length) :
    (play.arrive id options guard patience).sight policy place = play.sight policy place := by
  rw [sight_recordAt, recordAt_arrive place play id options guard patience known]
  rfl

theorem asksAt_here (found : play.scene.readings[who]? = some reading)
    (here : reading.guard.place = place) :
    asksAt play.scene.readings place who = reading.isAsking := by
  simp [asksAt, found, here]

theorem asksAt_note (found : play.scene.readings[who]? = some reading)
    (same : next.guard = reading.guard) (here : reading.guard.place = place) :
    asksAt (play.note who turn next deeds).scene.readings place =
      changed (asksAt play.scene.readings place) who next.isAsking := by
  obtain ⟨inside, _⟩ := List.getElem?_eq_some_iff.mp found
  funext other
  unfold changed
  split
  · next isWho =>
    subst isWho
    simp [asksAt, note, inside, same, here]
  · next isOther => simp [asksAt, note, Ne.symm isOther]

theorem asksAt_note_elsewhere (found : play.scene.readings[who]? = some reading)
    (same : next.guard = reading.guard) (apart : reading.guard.place ≠ place) :
    asksAt (play.note who turn next deeds).scene.readings place =
      asksAt play.scene.readings place := by
  obtain ⟨inside, standing⟩ := List.getElem?_eq_some_iff.mp found
  funext other
  by_cases isWho : who = other
  · subst isWho
    have other : (reading.guard.place == place) = false := by simpa using apart
    simp [asksAt, note, inside, standing, same, other]
  · simp [asksAt, note, isWho]

theorem asksAt_arrive (id : Id) (options : ReadOptions) (guard : ReadGuard)
    (patience : Option Nat) :
    asksAt (play.arrive id options guard patience).scene.readings place =
      asksAt play.scene.readings place := by
  funext other
  simp only [asksAt, arrive, List.getElem?_append, List.getElem?_singleton]
  split
  · rfl
  · next outside =>
    rw [List.getElem?_eq_none (Nat.le_of_not_lt outside)]
    split <;> simp [Reading.start, Reading.isAsking]

end Noting

/-- A play is seen as it is. -/
def Seen (policy : BreakerPolicy) (place : Nat) (play : Play σ) : Prop :=
  Fits policy place (play.sight policy place) play.scene.turn.panel play.scene.turn.now
    (asksAt play.scene.readings place)

theorem seen_came (ask : Ask σ) (policy : BreakerPolicy) (place : Nat) (act : Act)
    (before after : Play σ) (came : Came ask before act after)
    (source : σ) (kept : before.Kept ask source) (seen : before.Seen policy place) :
    after.Seen policy place := by
  cases came with
  | idle act => exact seen
  | arrived id options guard patience =>
      unfold Seen
      rw [sight_arrive policy place before id options guard patience kept.known,
        asksAt_arrive place before id options guard patience]
      exact seen
  | met act who reading next after deeds found met =>
      obtain ⟨same, now⟩ := Reading.sameRequest_met ask _ after reading next deeds met
      change Fits policy place _ after.panel after.now _
      rw [now]
      by_cases here : reading.guard.place = place
      · rw [sight_note policy place before who after reading next deeds found same.guard here,
          asksAt_note place before who after reading next deeds found same.guard here]
        exact fits_met policy place _ _ after reading next who deeds _ ask seen here
          (asksAt_here place before who reading found here) met
      · rw [sight_note_elsewhere policy place before who after reading next deeds found same.guard
            here,
          asksAt_note_elsewhere place before who after reading next deeds found same.guard here]
        have holds := holds_met_elsewhere policy place _ ask _ after reading next deeds met
          seen.holds here
        exact { seen with holds }
  | passed time => exact { seen with past := Nat.le_trans seen.past (Nat.le_max_left _ _) }

theorem perform_seen (ask : Ask σ) (policy : BreakerPolicy) (place : Nat) (turn : Turn σ)
    (fresh : turn.panel.Holds place policy {}) (acts : List Act) :
    (perform ask turn acts).Seen policy place := by
  refine perform_keeps ask turn acts _ ?_ ?_
  · constructor
    · exact fresh
    · exact Nat.zero_le _
    · exact Watch.run_numbered policy []
    · intro who
      simp [sight, asksAt]
    · intro who call seat
      simp [sight] at seat
    · intro who other call mine
      simp [sight] at mine
  · intro act member before after came kept seen
    exact seen_came ask policy place act before after came turn.source kept seen

/-- The breaker at a place is one that was run by some acts. -/
theorem watch_isRun (policy : BreakerPolicy) (place : Nat) (play : Play σ) :
    ∃ made, play.watch policy place = Watch.run policy made := by
  have general : ∀ (record : List Entry) (made : List Watch.Act) (sight : Sight),
      sight.watch = Watch.run policy made →
      ∃ more, (record.foldl (Sight.see policy) sight).watch = Watch.run policy more := by
    intro record
    induction record with
    | nil => exact fun made sight same => ⟨made, same⟩
    | cons entry rest ih =>
        intro made sight same
        refine ih (made ++ .advance (entry.time - sight.watch.now) ::
          entry.deed.acts (sight.seats entry.who)) _ ?_
        rw [Watch.run_append, ← same]
        rfl
  obtain ⟨made, same⟩ := general (play.record.filter (play.isAt place)) [] {} rfl
  refine ⟨made ++ [.advance (play.scene.turn.now - (play.sight policy place).watch.now)], ?_⟩
  rw [Watch.run_snoc, ← same]
  rfl

end Play
end Roster
