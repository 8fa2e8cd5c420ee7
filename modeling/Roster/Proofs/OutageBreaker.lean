import Roster.Proofs.BreakerRows
import Roster.Proofs.PlayBreaker

/-!
The breaker of a backend that is down. All that can befall it is that a call is let through and
fails, that one is refused, or that a deadline runs out between two attempts. It opens after a
few failures and never closes again; from then on a call gets through only when a pause is over,
and its failure begins the next one.
-/

namespace Roster

def Play.Entry.foundClosed (place : Nat) (entry : Play.Entry) : Bool :=
  (entry.panel.breaker? place).any (·.phase = .closed)

namespace Play

/-- What an outage comes to: the calls that were made in it, the time, and the breaker. -/
structure Outage where
  calls : List Entry
  now : Nat
  breaker : Breaker

/-! ### The breaker in an outage -/

/-- All that an act can do to a breaker while the backend is down. -/
inductive Struck (policy : BreakerPolicy) (place : Nat) (outage : Outage) : Outage → Prop where
  | spared (later : Nat) (onwards : outage.now ≤ later) :
      Struck policy place outage { outage with now := later }
  | refused (hot : (outage.breaker.enter policy outage.now).2 = false) :
      Struck policy place outage
        { outage with breaker := (outage.breaker.enter policy outage.now).1 }
  | called (call : Entry) (onTime : call.time = outage.now)
      (found : call.panel.Holds place policy outage.breaker)
      (admitted : (outage.breaker.enter policy outage.now).2 = true) :
      Struck policy place outage
        { outage with
          calls := outage.calls ++ [call]
          breaker := (outage.breaker.enter policy outage.now).1.fail policy outage.now }
  | expired (called : outage.calls ≠ []) :
      Struck policy place outage
        { outage with breaker := outage.breaker.fail policy outage.now }

/-- While the first failure is not too long ago, so many are counted in its row and have not
opened the breaker. -/
def Counting (policy : BreakerPolicy) (first : Entry) (calls now : Nat)
    (breaker : Breaker) : Prop :=
  now ≤ first.time + policy.rollingWindow →
    breaker.windowStart = some first.time ∧ calls ≤ breaker.failures ∧
      breaker.failures < policy.failureThreshold

/-- How a breaker can stand in an outage. A closed one counts all calls. -/
inductive Standing (policy : BreakerPolicy) : Outage → Prop where
  | fresh (now : Nat) : Standing policy ⟨[], now, {}⟩
  | closed (first : Entry) (rest : List Entry) (now : Nat) (breaker : Breaker)
      (phase : breaker.phase = .closed) (quiet : breaker.probing = false)
      (row : Counting policy first (first :: rest).length now breaker) :
      Standing policy ⟨first :: rest, now, breaker⟩
  | opened (calls : List Entry) (now opened : Nat) (breaker : Breaker)
      (phase : breaker.phase = .opened) (quiet : breaker.probing = false)
      (began : breaker.openedAt = some opened) (past : opened ≤ now) (called : calls ≠ []) :
      Standing policy ⟨calls, now, breaker⟩

section Outages

variable (policy : BreakerPolicy) (place : Nat) (outage next : Outage)

theorem standing_failed (first : Entry) (rest : List Entry) (now : Nat) (breaker : Breaker)
    (phase : breaker.phase = .closed) (quiet : breaker.probing = false)
    (row : now ≤ first.time + policy.rollingWindow →
      breaker.windowNext policy now = some first.time ∧
        (first :: rest).length ≤ breaker.failuresNext policy now) :
    Standing policy ⟨first :: rest, now, breaker.fail policy now⟩ := by
  rw [Breaker.fail_closed breaker policy now phase]
  by_cases enough : policy.failureThreshold ≤ breaker.failuresNext policy now
  · rw [if_pos enough]
    exact Standing.opened _ now now _ rfl quiet rfl (Nat.le_refl now) (by simp)
  · rw [if_neg enough]
    apply Standing.closed
    · exact phase
    · exact quiet
    · intro within
      obtain ⟨start, counted⟩ := row within
      exact ⟨start, counted, Nat.not_le.mp enough⟩

/-- The next failure belongs to the row as well. -/
theorem counting_next (first : Entry) (calls now : Nat) (breaker : Breaker)
    (within : now ≤ first.time + policy.rollingWindow)
    (row : Counting policy first calls now breaker) :
    breaker.windowNext policy now = some first.time ∧
      calls + 1 ≤ breaker.failuresNext policy now := by
  obtain ⟨start, counted, _⟩ := row within
  have going := Breaker.going_on_within breaker policy now first.time start within
  obtain ⟨failures, window⟩ := Breaker.next_of_going breaker policy now going
  rw [failures, window]
  exact ⟨start, Nat.succ_le_succ counted⟩

/-- Who gets through an open breaker finds its pause over, and fails as the probe it is. -/
theorem probe_failed (now opened : Nat) (breaker : Breaker) (phase : breaker.phase = .opened)
    (began : breaker.openedAt = some opened)
    (admitted : (breaker.enter policy now).2 = true) :
    opened + policy.openDuration ≤ now ∧
      (breaker.enter policy now).1.fail policy now =
        { breaker with
          phase := .opened, successes := 0, probing := false, openedAt := some now } := by
  cases cooled : breaker.hasCooled policy now with
  | false =>
      rw [Breaker.enter_resting breaker policy now phase cooled] at admitted
      cases admitted
  | true =>
      rw [Breaker.enter_cooled breaker policy now phase cooled, Breaker.fail_halfOpen _ _ _ rfl]
      refine ⟨?_, rfl⟩
      simpa [Breaker.hasCooled, began] using cooled

/-- Whom an open breaker refuses whose place is free, it refuses in its pause. -/
theorem refused_resting (now : Nat) (breaker : Breaker) (phase : breaker.phase = .opened)
    (quiet : breaker.probing = false) (hot : (breaker.enter policy now).2 = false) :
    (breaker.enter policy now).1 = breaker := by
  cases cooled : breaker.hasCooled policy now with
  | false => rw [Breaker.enter_resting breaker policy now phase cooled]
  | true =>
      rw [Breaker.enter_cooled breaker policy now phase cooled, quiet] at hot
      cases hot

theorem standing_struck (standing : Standing policy outage)
    (struck : Struck policy place outage next) : Standing policy next := by
  cases standing with
  | fresh now =>
      cases struck with
      | spared later onwards => exact Standing.fresh later
      | refused hot => cases hot
      | called call onTime found admitted =>
          apply standing_failed policy call [] now {} rfl rfl
          intro _
          exact ⟨congrArg some onTime.symm, Nat.le_refl 1⟩
      | expired called => exact absurd rfl called
  | closed first rest now breaker phase quiet row =>
      have enters := Breaker.enter_closed breaker policy now phase
      cases struck with
      | spared later onwards =>
          apply Standing.closed first rest later breaker phase quiet
          exact fun within => row (Nat.le_trans onwards within)
      | refused hot =>
          rw [enters] at hot
          cases hot
      | called call onTime found admitted =>
          rw [enters]
          apply standing_failed policy first (rest ++ [call]) now breaker phase quiet
          intro within
          simpa using counting_next policy first _ now breaker within row
      | expired called =>
          apply standing_failed policy first rest now breaker phase quiet
          intro within
          obtain ⟨start, counted⟩ := counting_next policy first _ now breaker within row
          exact ⟨start, Nat.le_of_succ_le counted⟩
  | opened calls now opened breaker phase quiet began past called =>
      cases struck with
      | spared later onwards =>
          exact Standing.opened calls later opened breaker phase quiet began
            (Nat.le_trans past onwards) called
      | refused hot =>
          rw [refused_resting policy now breaker phase quiet hot]
          exact Standing.opened calls now opened breaker phase quiet began past called
      | called call onTime found admitted =>
          -- The probe fails, and the breaker is open again before anyone else comes.
          rw [(probe_failed policy now opened breaker phase began admitted).2]
          exact Standing.opened _ now now _ rfl rfl rfl (Nat.le_refl now) (by simp)
      | expired called =>
          rw [Breaker.fail_opened breaker policy now phase]
          exact Standing.opened calls now now _ phase quiet rfl (Nat.le_refl now) called

theorem standing_opened (standing : Standing policy outage)
    (phase : outage.breaker.phase = .opened) :
    ∃ opened, outage.breaker.openedAt = some opened ∧ opened ≤ outage.now := by
  cases standing with
  | fresh now => cases phase
  | closed first rest now breaker closed quiet row =>
      rw [closed] at phase
      cases phase
  | opened calls now opened breaker _ quiet began past called => exact ⟨opened, began, past⟩

/-- Whether a call was made before the breaker opened and not too long after another one. -/
def isEarly (policy : BreakerPolicy) (place : Nat) (first call : Entry) : Bool :=
  call.foundClosed place && call.time ≤ first.time + policy.rollingWindow

def Few (policy : BreakerPolicy) (place : Nat) (calls : List Entry) : Prop :=
  ∀ first ∈ calls.head?,
    calls.countP (isEarly policy place first) ≤ max policy.failureThreshold 1

theorem few_append (calls : List Entry) (call : Entry) (called : calls ≠ [])
    (few : Few policy place calls)
    (late : ∀ first ∈ calls.head?, isEarly policy place first call = false) :
    Few policy place (calls ++ [call]) := by
  cases calls with
  | nil => exact absurd rfl called
  | cons first rest =>
      intro other isFirst
      cases isFirst
      rw [List.countP_append, List.countP_singleton, late first rfl]
      exact few first rfl

theorem few_struck (standing : Standing policy outage) (few : Few policy place outage.calls)
    (struck : Struck policy place outage next) : Few policy place next.calls := by
  cases struck with
  | spared later onwards => exact few
  | refused hot => exact few
  | expired called => exact few
  | called call onTime found admitted =>
      have finds : call.panel.breaker? place = some outage.breaker :=
        Panel.breaker_of_holds _ place policy _ found
      cases standing with
      | fresh now =>
          -- It is the first call of all.
          intro first isFirst
          cases isFirst
          exact Nat.le_trans List.countP_le_length (Nat.le_max_right _ 1)
      | closed first rest now breaker phase quiet row =>
          by_cases within : now ≤ first.time + policy.rollingWindow
          · -- All calls so far are among the failures, which have not opened the breaker yet.
            obtain ⟨_, counted, below⟩ := row within
            intro other isFirst
            have all : ((first :: rest) ++ [call]).countP (isEarly policy place other) ≤
                (first :: rest).length + 1 := by
              simpa using (List.countP_le_length (p := isEarly policy place other)
                (l := (first :: rest) ++ [call]))
            exact Nat.le_trans all (by omega)
          · apply few_append policy place (first :: rest) call (by simp) few
            intro other isFirst
            cases isFirst
            simp only at onTime
            simp [isEarly, onTime, Nat.not_le.mp within]
      | opened calls now opened breaker phase quiet began past called =>
          apply few_append policy place calls call called few
          intro first _
          simp [isEarly, Entry.foundClosed, finds, phase]

/-- An outage that goes on with an open breaker: every call has cost a pause. -/
structure Lasts (policy : BreakerPolicy) (calls : List Entry) (opened : Nat) (outage : Outage) :
    Prop where
  phase : outage.breaker.phase = .opened
  costs : ∃ probes since, outage.calls = calls ++ probes ∧ outage.breaker.openedAt = some since ∧
    opened + probes.length * policy.openDuration ≤ since

theorem lasts_struck (calls : List Entry) (opened : Nat) (standing : Standing policy outage)
    (lasts : Lasts policy calls opened outage) (struck : Struck policy place outage next) :
    Lasts policy calls opened next := by
  obtain ⟨phase, probes, since, made, began, costs⟩ := lasts
  cases standing with
  | fresh now => cases phase
  | closed first rest now breaker closed quiet row =>
      rw [closed] at phase
      cases phase
  | opened all now reopened breaker _ quiet isSince past called =>
      cases Option.some.inj (began.symm.trans isSince)
      cases struck with
      | spared later onwards => exact ⟨phase, probes, since, made, began, costs⟩
      | refused hot =>
          rw [refused_resting policy now breaker phase quiet hot]
          exact ⟨phase, probes, since, made, began, costs⟩
      | called call onTime found admitted =>
          -- The pause that began with the last failure is over, and the next one begins.
          obtain ⟨rested, after⟩ := probe_failed policy now since breaker phase began admitted
          rw [after]
          refine ⟨rfl, probes ++ [call], now, ?_, rfl, ?_⟩
          · rw [made, List.append_assoc]
          · rw [List.length_append, List.length_singleton, Nat.succ_mul]
            omega
      | expired called =>
          rw [Breaker.fail_opened breaker policy now phase]
          exact ⟨phase, probes, now, made, rfl, Nat.le_trans costs past⟩

structure Rests (policy : BreakerPolicy) (time : Nat) (outage : Outage) : Prop where
  now : outage.now = time
  phase : outage.breaker.phase = .opened
  hot : ∃ opened, outage.breaker.openedAt = some opened ∧ opened ≤ time ∧
    time < opened + policy.openDuration

theorem rests_enter (time : Nat) (rests : Rests policy time outage) :
    outage.breaker.enter policy time = (outage.breaker, false) := by
  obtain ⟨opened, began, _, before⟩ := rests.hot
  apply Breaker.enter_resting _ _ _ rests.phase
  simp [Breaker.hasCooled, began, before]

/-- In its pause a breaker refuses everybody, until time goes on. -/
theorem rests_struck (time : Nat) (rests : Rests policy time outage)
    (struck : Struck policy place outage next) (now : next.now = time) :
    Rests policy time next := by
  have enters := rests_enter policy outage time rests
  obtain ⟨opened, began, past, before⟩ := rests.hot
  rw [← rests.now] at enters
  cases struck with
  | spared later onwards => exact ⟨now, rests.phase, opened, began, past, before⟩
  | refused hot =>
      rw [enters]
      exact rests
  | called call onTime found admitted =>
      rw [enters] at admitted
      cases admitted
  | expired called =>
      -- The failure begins the pause anew at this very moment.
      rw [Breaker.fail_opened _ policy _ rests.phase]
      have sameTime := rests.now
      exact ⟨now, rests.phase, outage.now, rfl, Nat.le_of_eq sameTime, by omega⟩

end Outages

end Play
end Roster
