import Mathlib.Order.Bounds.Defs
import Roster.Proofs.ReadingTries

/-!
How a row of attempts goes, for any backoff and any outcomes. The attempts are numbered from
one without a gap up to the first whose outcome is not a transient failure, or to the end of
the budget; each begins when the pause after the one before it is over. The budget is met in
two ways, by the numbers that attempts may have and by the test whether an attempt is the last
one; both agree, so no row comes to the end of its numbers without a verdict.

The longest pause bounds every pause but the first, which is taken as it is configured.
-/

namespace Roster

def Attempts.behind {ε α : Type} (first : Nat × Nat) (rest : Attempts ε α) : Attempts ε α :=
  { rest with starts := first :: rest.starts }

namespace Backoff

open Reading (pauseAfter pauseOf)

section Rows

variable {ε α : Type} (backoff : Backoff) (isTransient : ε → Bool)
  (outcome : Nat → Timed (Except ε α)) (now : Nat)

def budget : Nat := max backoff.maxAttempts 1

def failsTransiently (number : Nat) : Bool :=
  match (outcome number).value with
  | .ok _ => false
  | .error failure => isTransient failure

def verdictOf : Except ε α → Verdict ε α
  | .ok value => .success value
  | .error failure => if isTransient failure then .failed failure else .permanent failure

/-- When the attempt begins that follows so many others. -/
def beginning : Nat → Nat
  | 0 => now
  | earlier + 1 =>
    beginning earlier + (outcome (earlier + 1)).after + pauseOf backoff (earlier + 1)

def startsBetween (earlier last : Nat) : List (Nat × Nat) :=
  (List.range' earlier (last - earlier)).map fun before =>
    (before + 1, beginning backoff outcome now before)

def rowTo (earlier last : Nat) : Attempts ε α where
  starts := startsBetween backoff outcome now earlier last
  verdict := verdictOf isTransient (outcome last).value
  finished := beginning backoff outcome now (last - 1) + (outcome last).after

/-- Where a row ends that may go on to a limit: there, or before it at the first outcome that
is no transient failure. -/
def Ends (earlier limit last : Nat) : Prop :=
  IsLeast {number | earlier < number ∧
    (number = limit ∨ failsTransiently isTransient outcome number = false)} last

theorem startsBetween_next (earlier last : Nat) (more : earlier < last) :
    startsBetween backoff outcome now earlier last =
      (earlier + 1, beginning backoff outcome now earlier) ::
        startsBetween backoff outcome now (earlier + 1) last := by
  obtain ⟨others, rfl⟩ := Nat.exists_eq_add_of_lt more
  have many : earlier + others + 1 - earlier = others + 1 := by omega
  have fewer : earlier + others + 1 - (earlier + 1) = others := by omega
  simp only [startsBetween, many, fewer, List.range'_succ, List.map_cons]

theorem startsBetween_single (earlier : Nat) :
    startsBetween backoff outcome now earlier (earlier + 1) =
      [(earlier + 1, beginning backoff outcome now earlier)] := by
  rw [startsBetween_next backoff outcome now earlier _ (Nat.lt_succ_self earlier), startsBetween,
    Nat.sub_self]
  rfl

theorem ends_here (earlier limit : Nat)
    (stops : earlier + 1 = limit ∨ failsTransiently isTransient outcome (earlier + 1) = false) :
    Ends isTransient outcome earlier limit (earlier + 1) :=
  ⟨⟨Nat.lt_succ_self earlier, stops⟩, fun _ later => later.1⟩

theorem ends_later (earlier limit last : Nat) (below : earlier + 1 < limit)
    (transient : failsTransiently isTransient outcome (earlier + 1) = true)
    (ends : Ends isTransient outcome (earlier + 1) limit last) :
    Ends isTransient outcome earlier limit last := by
  refine ⟨⟨Nat.lt_of_succ_lt ends.1.1, ends.1.2⟩, ?_⟩
  rintro number ⟨later, stops⟩
  refine ends.2 ⟨Nat.lt_of_le_of_ne later ?_, stops⟩
  -- The attempt in between neither reaches the limit nor ends the row.
  rintro rfl
  rcases stops with limited | settled
  · omega
  · simp [transient] at settled

theorem attemptsFrom_last (left number delay now : Nat)
    (stops : left = 0 ∨ failsTransiently isTransient outcome number = false) :
    attemptsFrom backoff isTransient outcome left number delay now =
      ⟨[(number, now)], verdictOf isTransient (outcome number).value,
        now + (outcome number).after⟩ := by
  rw [attemptsFrom.eq_def]
  cases value : (outcome number).value with
  | ok result => simp only [value, verdictOf]
  | error failure =>
      cases transient : isTransient failure with
      | false => simp [value, verdictOf, transient]
      | true =>
          have none' : left = 0 := by simpa [failsTransiently, value, transient] using stops
          subst none'
          simp [value, verdictOf, transient]

theorem attemptsFrom_more (left number delay now : Nat)
    (transient : failsTransiently isTransient outcome number = true) :
    attemptsFrom backoff isTransient outcome (left + 1) number delay now =
      (attemptsFrom backoff isTransient outcome left (number + 1) (backoff.nextDelay delay)
        (now + (outcome number).after + waitFor delay)).behind (number, now) := by
  rw [attemptsFrom]
  cases value : (outcome number).value with
  | ok result => simp [failsTransiently, value] at transient
  | error failure =>
      have again : isTransient failure = true := by
        simpa [failsTransiently, value] using transient
      simp [again, Attempts.behind]

theorem attemptsFrom_ends (left earlier : Nat) :
    ∃ last, Ends isTransient outcome earlier (earlier + left + 1) last ∧
      attemptsFrom backoff isTransient outcome left (earlier + 1) (pauseAfter backoff earlier)
          (beginning backoff outcome now earlier) =
        rowTo backoff isTransient outcome now earlier last := by
  induction left generalizing earlier with
  | zero =>
      refine ⟨earlier + 1, ends_here isTransient outcome earlier _ (Or.inl rfl), ?_⟩
      rw [attemptsFrom_last _ _ _ _ _ _ _ (Or.inl rfl), rowTo, startsBetween_single]
      rfl
  | succ left ih =>
      cases transient : failsTransiently isTransient outcome (earlier + 1) with
      | false =>
          refine ⟨earlier + 1, ends_here isTransient outcome earlier _ (Or.inr transient), ?_⟩
          rw [attemptsFrom_last _ _ _ _ _ _ _ (Or.inr transient), rowTo, startsBetween_single]
          rfl
      | true =>
          obtain ⟨last, ends, made⟩ := ih (earlier + 1)
          have limit : earlier + 1 + left + 1 = earlier + (left + 1) + 1 := by omega
          rw [limit] at ends
          refine ⟨last,
            ends_later isTransient outcome earlier _ last (by omega) transient ends, ?_⟩
          rw [attemptsFrom_more _ _ _ _ _ _ _ transient]
          -- The next attempt begins when the pause after this one is over.
          refine (congrArg (Attempts.behind _) made).trans ?_
          simp only [Attempts.behind, rowTo]
          rw [startsBetween_next _ _ _ earlier last (Nat.lt_of_succ_lt ends.1.1)]

/-- The attempts as a loop over the numbers that they may have. Whether one of them is the last
is asked of its number; there is no answer when the numbers come to an end before that. -/
def loop : List Nat → (delay now : Nat) → Option (Attempts ε α)
  | [], _, _ => none
  | number :: others, delay, now =>
    let ended := now + (outcome number).after
    match (outcome number).value with
    | .ok value => some ⟨[(number, now)], .success value, ended⟩
    | .error failure =>
      if !isTransient failure then some ⟨[(number, now)], .permanent failure, ended⟩
      else if backoff.isLast number then some ⟨[(number, now)], .failed failure, ended⟩
      else (loop others (backoff.nextDelay delay) (ended + waitFor delay)).map
        (Attempts.behind (number, now))

/-- An attempt within the budget is taken for the last one just when no number is left. -/
theorem isLast_budget (number left : Nat) (later : 0 < number)
    (within : number + left = backoff.budget) : backoff.isLast number = decide (left = 0) := by
  simp only [isLast, budget] at *
  rw [decide_eq_decide]
  omega

theorem loop_answers (left number delay now : Nat) (later : 0 < number)
    (within : number + left = backoff.budget) :
    loop backoff isTransient outcome (List.range' number (left + 1)) delay now =
      some (attemptsFrom backoff isTransient outcome left number delay now) := by
  induction left generalizing number delay now with
  | zero =>
      have last := isLast_budget backoff number 0 later within
      rw [List.range'_succ, loop, attemptsFrom]
      cases value : (outcome number).value with
      | ok result => rfl
      | error failure => cases transient : isTransient failure <;> simp [last, transient]
  | succ left ih =>
      have last := isLast_budget backoff number (left + 1) later within
      rw [List.range'_succ, loop, attemptsFrom]
      cases value : (outcome number).value with
      | ok result => rfl
      | error failure =>
          cases transient : isTransient failure with
          | false => simp [transient]
          | true =>
              have rest := ih (number + 1) (backoff.nextDelay delay)
                (now + (outcome number).after + waitFor delay) (Nat.succ_pos number) (by omega)
              simp [last, transient, rest, Attempts.behind]

theorem run_ends :
    ∃ last, Ends isTransient outcome 0 backoff.budget last ∧
      backoff.run isTransient outcome now = rowTo backoff isTransient outcome now 0 last := by
  have limit : 0 + (backoff.maxAttempts - 1) + 1 = backoff.budget := by
    simp only [budget]
    omega
  obtain ⟨last, ends, made⟩ :=
    attemptsFrom_ends backoff isTransient outcome now (backoff.maxAttempts - 1) 0
  rw [limit] at ends
  exact ⟨last, ends, made⟩

theorem loop_run :
    loop backoff isTransient outcome (List.range' 1 backoff.budget) backoff.initialDelay now =
      some (backoff.run isTransient outcome now) := by
  have many : backoff.budget = backoff.maxAttempts - 1 + 1 := by
    simp only [budget]
    omega
  rw [many]
  exact loop_answers backoff isTransient outcome (backoff.maxAttempts - 1) 1
    backoff.initialDelay now Nat.one_pos (by omega)

/-- What a row of attempts comes to, whatever the backoff and the outcomes: it has a last
attempt, at the end of the budget or before it at the first outcome that is no transient
failure; the attempts are those from one to the last, each begun when the pause after the one
before was over; the verdict is on the last outcome, and the row is over as soon as that is
there. Taken as a loop over the numbers within the budget it never runs out of numbers. -/
theorem row_runs_to_verdict :
    ∃ last, Ends isTransient outcome 0 backoff.budget last ∧
      backoff.run isTransient outcome now = rowTo backoff isTransient outcome now 0 last ∧
      loop backoff isTransient outcome (List.range' 1 backoff.budget) backoff.initialDelay now =
        some (backoff.run isTransient outcome now) := by
  obtain ⟨last, ends, made⟩ := run_ends backoff isTransient outcome now
  exact ⟨last, ends, made, loop_run backoff isTransient outcome now⟩

end Rows

/-- The first pause of this backoff is longer than any wait, so the second attempt begins before
the delay that is configured for it is over. -/
theorem delay_beyond_any_wait :
    let backoff : Backoff := { maxAttempts := 2, initialDelay := 1000000000000 }
    let outcome : Nat → Timed (Except Fault String) := fun number =>
      ⟨0, if number = 1 then .error (.backendUnavailable "down") else .ok "v"⟩
    let attempts := backoff.run Fault.isTransient outcome 0
    attempts.starts = [(1, 0), (2, 946080000000)] ∧
      (2, 0 + (outcome 1).after + pauseAfter backoff 0) ∉ attempts.starts := by
  decide +kernel

/-! ### How long pauses are -/

section Pauses

variable {ε α : Type} (backoff : Backoff) (isTransient : ε → Bool)
  (outcome : Nat → Timed (Except ε α)) (now : Nat)

def pauses (attempts : Attempts ε α) : List Nat :=
  attempts.starts.zipWith (fun one next => next.2 - (one.2 + (outcome one.1).after))
    attempts.starts.tail

theorem nextDelay_le (delay : Nat) : backoff.nextDelay delay ≤ backoff.maxDelay :=
  Nat.min_le_right _ _

/-- Every pause but the first comes from another one, and is bounded as it is made. -/
theorem pauseOf_later (number : Nat) : pauseOf backoff (number + 2) ≤ backoff.maxDelay :=
  Nat.le_trans (Nat.min_le_left _ _) (nextDelay_le backoff _)

theorem pauses_rowTo (earlier last : Nat) (some' : earlier < last) :
    pauses outcome (rowTo backoff isTransient outcome now earlier last) =
      (List.range' (earlier + 1) (last - (earlier + 1))).map (pauseOf backoff) := by
  obtain ⟨others, rfl⟩ := Nat.exists_eq_add_of_lt some'
  induction others generalizing earlier with
  | zero =>
      rw [pauses, rowTo, Nat.add_zero, startsBetween_single, Nat.sub_self]
      rfl
  | succ others ih =>
      have next := ih (earlier + 1) (by omega)
      have same : earlier + 1 + others + 1 = earlier + (others + 1) + 1 := by omega
      have fewer : earlier + (others + 1) + 1 - (earlier + 1) = others + 1 := by omega
      have rest : earlier + (others + 1) + 1 - (earlier + 1 + 1) = others := by omega
      rw [same, rest] at next
      simp only [pauses, rowTo] at next ⊢
      rw [startsBetween_next _ _ _ earlier _ (by omega), List.tail_cons, fewer,
        List.range'_succ, List.map_cons, ← next,
        startsBetween_next _ _ _ (earlier + 1) _ (by omega), List.zipWith_cons_cons,
        List.tail_cons]
      congr 1
      simp only [beginning]
      omega

/-- The longest pause bounds a row of attempts just when there is no pause in it or the first
delay is not longer: the first pause is the initial delay, as long as one can be, and the bound
is put to the later ones only, whatever the factor is. -/
theorem pauses_bounded_iff :
    let pauses := pauses outcome (backoff.run isTransient outcome now)
    ((∀ pause ∈ pauses, pause ≤ backoff.maxDelay) ↔
      pauses = [] ∨ waitFor backoff.initialDelay ≤ backoff.maxDelay) ∧
    pauses.length + 1 = (backoff.run isTransient outcome now).starts.length ∧
    (∀ first ∈ pauses.head?, first = waitFor backoff.initialDelay) ∧
    ∀ pause ∈ pauses.tail, pause ≤ backoff.maxDelay := by
  obtain ⟨last, ends, made⟩ := run_ends backoff isTransient outcome now
  obtain ⟨more, rfl⟩ := Nat.exists_eq_add_of_lt ends.1.1
  have shape := pauses_rowTo backoff isTransient outcome now 0 _ ends.1.1
  have many : 0 + more + 1 - (0 + 1) = more := by omega
  rw [many] at shape
  have count : (rowTo backoff isTransient outcome now 0 (0 + more + 1)).starts.length = more + 1 := by
    simp [rowTo, startsBetween]
  have later : ∀ pause ∈ (List.range' 2 (more - 1)).map (pauseOf backoff),
      pause ≤ backoff.maxDelay := by
    intro pause member
    obtain ⟨number, among, rfl⟩ := List.mem_map.mp member
    obtain ⟨others, rfl⟩ := Nat.exists_eq_add_of_le (List.mem_range'_1.mp among).1
    rw [Nat.add_comm]
    exact pauseOf_later backoff others
  simp only [made, shape, count]
  cases more with
  | zero => simp
  | succ more =>
      have first : pauseOf backoff 1 = waitFor backoff.initialDelay := rfl
      simp only [List.range'_succ, List.map_cons, List.forall_mem_cons, first] at later ⊢
      refine ⟨⟨fun all => Or.inr all.1, ?_⟩, by simp, by simp, later⟩
      rintro (none' | bounded)
      · cases none'
      · exact ⟨bounded, later⟩

/-- The first delay is five times the longest pause, and the pause lasts all of it. -/
theorem first_pause_unbounded :
    let backoff : Backoff := { maxAttempts := 3, initialDelay := 50, maxDelay := 10 }
    let outcome : Nat → Timed (Except Fault String) := fun number =>
      ⟨0, if number < 3 then .error (.backendUnavailable "down") else .ok "v"⟩
    let attempts := backoff.run Fault.isTransient outcome 0
    attempts.starts = [(1, 0), (2, 50), (3, 60)] ∧
      ¬ ∀ pause ∈ pauses outcome attempts, pause ≤ backoff.maxDelay := by
  decide +kernel

end Pauses
end Backoff
end Roster
