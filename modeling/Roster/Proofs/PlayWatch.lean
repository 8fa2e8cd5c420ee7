import Roster.Proofs.BreakerSlot
import Roster.Proofs.PanelNames
import Roster.Proofs.ReadingRecord

/-!
A play as one breaker sees it. The record of a play says what the readings at a place did
and met with, and all of it can be taken as acts on a single breaker. Single deeds are shown
here to be to that breaker what they were to the one at the place.
-/

namespace Roster

def Reading.isAsking (reading : Reading) : Bool :=
  match reading.stage with
  | .asking .. => true
  | _ => false

def Reading.Deed.acts (seat : Option Nat) : Reading.Deed → List Watch.Act
  | .asked .. | .refused _ => [.start]
  | .answered _ answer =>
    seat.toList.map fun call => .finish call (.ofOutcome Fault.isTransient answer)
  | .expired => seat.toList.map .drop ++ [.timeOut]
  | .abandoned => seat.toList.map .drop

/-- What a deed makes of the breaker, given whether a call is in flight. -/
def Reading.Deed.effect (policy : BreakerPolicy) (now : Nat) (isAsking : Bool)
    (breaker : Breaker) : Reading.Deed → Breaker
  | .asked .. | .refused _ => (breaker.enter policy now).1
  | .answered _ answer =>
    if isAsking then breaker.conclude policy now (.ofOutcome Fault.isTransient answer)
    else breaker
  | .expired => (if isAsking then breaker.release else breaker).fail policy now
  | .abandoned => if isAsking then breaker.release else breaker

namespace Play

/-- What is seen of a breaker: all that was done to it, and which reading has which call. -/
structure Sight where
  watch : Watch := {}
  seats : Nat → Option Nat := fun _ => none

def Sight.see (policy : BreakerPolicy) (sight : Sight) (entry : Entry) : Sight where
  watch := (entry.deed.acts (sight.seats entry.who)).foldl (Watch.step policy)
    (sight.watch.waitUntil entry.time)
  seats := fun who =>
    if who = entry.who then
      if entry.deed.isAsking then some sight.watch.admissions else none
    else sight.seats who

variable {σ : Type}

def isAt (play : Play σ) (place : Nat) (entry : Entry) : Bool :=
  (play.scene.readings[entry.who]?).any (·.guard.place == place)

def sight (policy : BreakerPolicy) (place : Nat) (play : Play σ) : Sight :=
  (play.record.filter (play.isAt place)).foldl (Sight.see policy) {}

def watch (policy : BreakerPolicy) (place : Nat) (play : Play σ) : Watch :=
  (play.sight policy place).watch.waitUntil play.scene.turn.now

def asksAt (readings : List Reading) (place who : Nat) : Bool :=
  (readings[who]?).any fun reading => reading.guard.place == place && reading.isAsking

/-! ### Single deeds -/

section Deeds

variable (policy : BreakerPolicy) (deed : Reading.Deed) (seat : Option Nat) (watch : Watch)

theorem acts_own (act : Watch.Act) (member : act ∈ deed.acts seat) :
    act.takesTime = false ∧ ∀ call, act.call? = some call → seat = some call := by
  -- Whatever ends a call ends that of the seat.
  have ended : ∀ (act' : Nat → Watch.Act), act ∈ seat.toList.map act' →
      (∀ call, (act' call).takesTime = false ∧ (act' call).call? = some call) →
      act.takesTime = false ∧ ∀ call, act.call? = some call → seat = some call := by
    intro act' isEnd about
    obtain ⟨mine, isSeat, rfl⟩ := List.mem_map.mp isEnd
    refine ⟨(about mine).1, ?_⟩
    intro call same
    rw [(about mine).2] at same
    rw [← Option.some.inj same]
    exact Option.mem_toList.mp isSeat
  cases deed with
  | asked attempt id options answer =>
      cases List.mem_singleton.mp member
      exact ⟨rfl, by simp [Watch.Act.call?]⟩
  | refused attempt =>
      cases List.mem_singleton.mp member
      exact ⟨rfl, by simp [Watch.Act.call?]⟩
  | answered attempt answer => exact ended _ member fun _ => ⟨rfl, rfl⟩
  | expired =>
      rcases List.mem_append.mp member with dropped | timedOut
      · exact ended _ dropped fun _ => ⟨rfl, rfl⟩
      · cases List.mem_singleton.mp timedOut
        exact ⟨rfl, by simp [Watch.Act.call?]⟩
  | abandoned => exact ended _ member fun _ => ⟨rfl, rfl⟩

theorem acts_breaker (pending : ∀ call, seat = some call → call ∈ watch.calls) :
    ((deed.acts seat).foldl (Watch.step policy) watch).breaker =
      deed.effect policy watch.now seat.isSome watch.breaker := by
  cases seat with
  | none =>
      cases deed <;> simp [Reading.Deed.acts, Reading.Deed.effect, Watch.step, Watch.timeOut,
        Watch.start_breaker]
  | some call =>
      have inFlight := pending call rfl
      cases deed <;> simp [Reading.Deed.acts, Reading.Deed.effect, Watch.start_breaker,
        Watch.step, Watch.finish, Watch.drop, Watch.timeOut, inFlight, Watch.record]

end Deeds

/-- A sight that is true to a panel at a time: the breaker at the place stands as it was seen
to, and every reading that waits for an answer has a call in flight of its own. -/
structure Fits (policy : BreakerPolicy) (place : Nat) (sight : Sight) (panel : Panel) (now : Nat)
    (asking : Nat → Bool) : Prop where
  holds : panel.Holds place policy sight.watch.breaker
  past : sight.watch.now ≤ now
  numbered : sight.watch.Numbered
  seated : ∀ who, (sight.seats who).isSome = asking who
  inFlight : ∀ who call, sight.seats who = some call → call ∈ sight.watch.calls
  apart : ∀ who other call, sight.seats who = some call → sight.seats other = some call →
    who = other

section Fitting

variable (policy : BreakerPolicy) (place : Nat) (sight : Sight) (panel : Panel) (now : Nat)
  (asking : Nat → Bool)

theorem numbered_fold (acts : List Watch.Act) (watch : Watch) (numbered : watch.Numbered) :
    (acts.foldl (Watch.step policy) watch).Numbered :=
  Watch.fold_invariant policy Watch.Numbered (Watch.numbered_move policy) acts watch numbered

theorem see_now (entry : Entry) (past : sight.watch.now ≤ entry.time) :
    (sight.see policy entry).watch.now = entry.time := by
  have still := Watch.fold_timeless policy (sight.watch.waitUntil entry.time) _
    fun act member => (acts_own entry.deed (sight.seats entry.who) act member).1
  exact still.trans (Watch.waitUntil_now sight.watch entry.time past)

theorem see_breaker (entry : Entry) (fits : Fits policy place sight panel now asking)
    (onTime : entry.time = now) :
    (sight.see policy entry).watch.breaker =
      entry.deed.effect policy now (asking entry.who) sight.watch.breaker := by
  subst onTime
  have breaker := acts_breaker policy entry.deed (sight.seats entry.who)
    (sight.watch.waitUntil entry.time) (fits.inFlight entry.who)
  rwa [Watch.waitUntil_now _ _ fits.past, fits.seated] at breaker

theorem seat_see (entry : Entry) (who call : Nat)
    (seat : (sight.see policy entry).seats who = some call) :
    who = entry.who ∧ entry.deed.isAsking = true ∧ call = sight.watch.admissions ∨
      who ≠ entry.who ∧ sight.seats who = some call := by
  simp only [Sight.see] at seat
  split at seat
  · next isWho =>
    split at seat
    · next asked => exact Or.inl ⟨isWho, asked, (Option.some.inj seat).symm⟩
    · cases seat
  · next isOther => exact Or.inr ⟨isOther, seat⟩

/-- A deed that was done to the panel and to what is seen of it keeps the two together. -/
theorem fits_see (entry : Entry) (next : Panel) (fits : Fits policy place sight panel now asking)
    (onTime : entry.time = now)
    (holds : next.Holds place policy
      (entry.deed.effect policy now (asking entry.who) sight.watch.breaker))
    (admitted : entry.deed.isAsking = true → (sight.watch.breaker.enter policy now).2 = true) :
    Fits policy place (sight.see policy entry) next now
      (fun who => if who = entry.who then entry.deed.isAsking else asking who) := by
  subst onTime
  have waited := Watch.waitUntil_now sight.watch entry.time fits.past
  have own := acts_own entry.deed (sight.seats entry.who)
  -- The calls of all others go on, and a reading that was let in has the new one.
  have spared : ∀ call ∈ sight.watch.calls, sight.seats entry.who ≠ some call →
      call ∈ (sight.see policy entry).watch.calls := by
    intro call pending other
    refine Watch.fold_spares policy _ _ call pending ?_
    exact fun act member same => other ((own act member).2 call same)
  have taken : entry.deed.isAsking = true →
      sight.watch.admissions ∈ (sight.see policy entry).watch.calls := by
    intro asked
    cases deed : entry.deed with
    | asked attempt id options answer =>
        have lets : ((sight.watch.waitUntil entry.time).breaker.enter policy
            (sight.watch.waitUntil entry.time).now).2 = true := by
          rw [waited]
          exact admitted asked
        simp only [Sight.see, deed, Reading.Deed.acts, List.foldl_cons, List.foldl_nil,
          Watch.step, Watch.start_calls]
        rw [if_pos lets]
        exact List.mem_cons_self
    | _ => simp [deed, Reading.Deed.isAsking] at asked
  -- The new call has a number that no call in flight has.
  have fresh : ∀ who call, sight.seats who = some call → call ≠ sight.watch.admissions :=
    fun who call seat => Nat.ne_of_lt (fits.numbered.pending call (fits.inFlight who call seat))
  refine ⟨?_, ?_, ?_, ?_, ?_, ?_⟩
  · rwa [see_breaker policy place sight panel _ asking entry fits rfl]
  · exact Nat.le_of_eq (see_now policy sight entry fits.past)
  · exact numbered_fold policy _ _ (Watch.numbered_move policy _ _ (.wait _) fits.numbered)
  · intro who
    simp only [Sight.see]
    split
    · cases entry.deed.isAsking <;> rfl
    · exact fits.seated who
  · intro who call seat
    rcases seat_see policy sight entry who call seat with ⟨_, asked, rfl⟩ | ⟨isOther, earlier⟩
    · exact taken asked
    · refine spared call (fits.inFlight who call earlier) ?_
      exact fun same => isOther (fits.apart who entry.who call earlier same)
  · intro who other call mine theirs
    rcases seat_see policy sight entry who call mine with ⟨rfl, _, new⟩ | ⟨_, old⟩
    · rcases seat_see policy sight entry other call theirs with ⟨same, _⟩ | ⟨_, earlier⟩
      · exact same.symm
      · exact absurd new (fresh other call earlier)
    · rcases seat_see policy sight entry other call theirs with ⟨_, _, new⟩ | ⟨_, earlier⟩
      · exact absurd new (fresh who call old)
      · exact fits.apart who other call old earlier

end Fitting

end Play
end Roster
