import Roster.Proofs.MetricsCounts
import Roster.Proofs.PlayBreaker

/-!
What a reading is counted as. A reading that is over may have returned a record, a stand-in, or
only that the backend is unavailable; each of these has its counter, which goes up by one in the
act that ends the reading. All other endings are counted nowhere.
-/

namespace Roster

namespace Reading

namespace Deed

def isUnavailable : Deed → Bool
  | .answered _ (.error fault) => fault.isTransient
  | _ => false

def isRefusal : Deed → Bool
  | .refused _ => true
  | _ => false

def isExpiry : Deed → Bool
  | .expired => true
  | _ => false

end Deed

/-- What a reading returned, as far as that is counted. -/
inductive Fate where
  | record
  | standIn
  | unavailable
deriving DecidableEq, Repr

def Fate.counter : Fate → Counter
  | .record => .retrySuccess operation
  | .standIn => .fallbacksServed operation
  | .unavailable => .retryFailure operation

/-- What became of a reading that did so much. A stand-in comes from a refusal. -/
def fate? (reading : Reading) (deeds : List Deed) : Option Fate :=
  match reading.stage with
  | .finished _ (.ok _) => if deeds.getLast?.any Deed.isRefusal then some .standIn else some .record
  | .finished _ (.error fault) => if fault.isTransient then some .unavailable else none
  | _ => none

def ranOut (reading : Reading) (deeds : List Deed) : Bool :=
  match reading.stage with
  | .finished _ (.error _) => deeds.getLast?.any Deed.isExpiry
  | _ => false

section Fates

variable {σ : Type} (ask : Ask σ) (turn after : Turn σ) (reading next : Reading)
  (old deeds : List Deed)

theorem fate_open (open' : reading.isOver = false) : reading.fate? deeds = none := by
  cases stage : reading.stage <;> simp_all [fate?, isOver]

theorem ranOut_open (open' : reading.isOver = false) : reading.ranOut deeds = false := by
  cases stage : reading.stage <;> simp_all [ranOut, isOver]

/-- The refusal and the end of the time decide on what is returned; nothing else does both. -/
theorem fate_outcome (way : Way) (time : Nat) (answer : Except Fault Organization)
    (stage : reading.stage = .finished time answer)
    (outcome : Outcome reading way deeds time answer) :
    (reading.fate? deeds = some .standIn ↔ way = .refused) ∧
      (reading.ranOut deeds = true ↔ way = .expired) := by
  cases outcome with
  | returned failures answer within punctual last =>
      cases value : answer.value with
      | ok record => simp [fate?, ranOut, stage, value, Deed.isRefusal]
      | error fault => simp [fate?, ranOut, stage, value, Deed.isExpiry]
  | refused failures within punctual => simp [fate?, ranOut, stage, Deed.isRefusal]
  | expiredAsking failures pending within first =>
      simp [fate?, ranOut, stage, Fault.isTransient, Deed.isExpiry]
  | expiredPausing failures within first =>
      simp [fate?, ranOut, stage, Fault.isTransient, Deed.isExpiry]

theorem counter_family (fate : Fate) :
    fate.counter.family ≠ "circuit_breaker_transitions_total" ∧
      fate.counter.family ≠ "retry_attempts_total" := by
  cases fate <;> decide

theorem count_fate (panel : Panel) (fate other : Fate) :
    (panel.count other.counter).metrics.count fate.counter =
      panel.metrics.count fate.counter + (some other == some fate).toNat := by
  have apart : (if fate.counter.series = other.counter.series then 1 else 0) =
      (some other == some fate).toNat := by
    cases fate <;> cases other <;> decide
  rw [Panel.count_count, apart]

theorem count_knock (number : Nat) (panel : Panel) (admitted : Bool)
    (knocked : reading.knock turn number = (panel, admitted)) (fate : Fate) :
    panel.metrics.count fate.counter = turn.panel.metrics.count fate.counter := by
  obtain ⟨notTransition, notAttempt⟩ := counter_family fate
  have entered := congrArg Prod.fst knocked
  simp only [knock] at entered
  rw [← entered, Panel.count_enter _ _ notTransition]
  split
  · exact Metrics.count_bump_family _ _ _ notAttempt
  · rfl

theorem count_letGo (panel : Panel) (fate : Fate) :
    (reading.letGo panel).metrics.count fate.counter = panel.metrics.count fate.counter := by
  unfold letGo
  split
  · exact Panel.count_update panel _ (counter_family fate).1 _ _
  · rfl

/-- An answer is counted if it is the end, and as what it is. -/
theorem count_conclude (now : Nat) (panel : Panel) (number delay : Nat)
    (answer : Except Fault Organization) (fate : Fate) :
    (conclude now panel reading number delay answer).1.metrics.count fate.counter =
      panel.metrics.count fate.counter +
        ((conclude now panel reading number delay answer).2.fate?
          (old ++ [.answered number answer]) == some fate).toNat := by
  have told := Panel.count_conclude panel fate.counter (counter_family fate).1 reading.guard.place
    now Fault.isTransient answer
  cases answer with
  | ok record =>
      have ended :
          (reading.finish now (.ok record)).fate? (old ++ [.answered number (.ok record)]) =
            some .record := by
        simp [fate?, finish, Deed.isRefusal]
      rw [← told]
      change _ = _ + (((reading.finish now (.ok record)).fate? _) == _).toNat
      rw [ended]
      exact count_fate _ fate .record
  | error fault =>
      have ended : (reading.finish now (.error fault)).fate?
          (old ++ [.answered number (.error fault)]) =
          if fault.isTransient then some .unavailable else none := by
        simp [fate?, finish]
      cases transient : fault.isTransient with
      | false =>
          simp only [conclude, transient, Bool.not_false, ↓reduceIte]
          rw [told, ended, transient]
          rfl
      | true =>
          -- Only after the last attempt is the fault returned; before it a pause begins.
          cases exhausted : reading.guard.backoff.isLast number with
          | true =>
              simp only [conclude, transient, exhausted, Bool.not_true, Bool.false_eq_true,
                ↓reduceIte]
              rw [← told, ended, transient]
              exact count_fate _ fate .unavailable
          | false =>
              simp only [conclude, transient, exhausted, Bool.not_true, Bool.false_eq_true,
                ↓reduceIte]
              rw [told]
              rfl

theorem count_moved (moved : Moved ask turn reading deeds after next) (fate : Fate) :
    after.panel.metrics.count fate.counter =
      turn.panel.metrics.count fate.counter +
        (next.fate? (old ++ deeds) == some fate).toNat := by
  cases moved with
  | refused number delay panel stage knocked =>
      have ended : (reading.finish turn.now (.ok (standIn reading.id reading.guard.address))).fate?
          (old ++ [.refused number]) = some .standIn := by
        simp [fate?, finish, Deed.isRefusal]
      have knockedAt := count_knock turn reading number panel false knocked fate
      rw [ended, ← knockedAt]
      exact count_fate panel fate .standIn
  | asked number delay panel source answer stage knocked asks later =>
      exact count_knock turn reading number panel true knocked fate
  | answeredAtOnce number delay panel source answer stage knocked asks atOnce =>
      have concluded := count_conclude reading
        (old ++ [.asked number reading.id reading.options answer]) turn.now panel number delay
        answer.value fate
      rw [count_knock turn reading number panel true knocked fate] at concluded
      simpa using concluded
  | answered number delay due answer stage ends =>
      exact count_conclude reading old turn.now turn.panel number delay answer fate
  | resumed number delay due stage ends => rfl

theorem count_met (met : reading.Met ask turn deeds after next) (fate : Fate) :
    after.panel.metrics.count fate.counter =
      turn.panel.metrics.count fate.counter +
        (next.fate? (old ++ deeds) == some fate).toNat := by
  cases met with
  | moved _ _ _ moved => exact count_moved ask turn after reading next old deeds moved fate
  | left open' => exact count_letGo reading turn.panel fate
  | limited _ _ _ open' stuck limited =>
      cases limited with
      | abandoned early impatient => exact count_letGo reading turn.panel fate
      | kept early patient =>
          rw [fate_open reading _ open']
          rfl
      | expired due =>
          have failed := Panel.count_update (reading.letGo turn.panel) fate.counter
            (counter_family fate).1 reading.guard.place
            fun policy breaker => breaker.fail policy turn.now
          rw [count_letGo] at failed
          rw [← failed]
          exact count_fate _ fate .unavailable

end Fates

end Reading
end Roster
