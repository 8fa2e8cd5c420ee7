import Roster.Proofs.ReadingOutcome

/-!
How a scene comes to its end. Every move leaves a reading fewer moves to make, and when
it can make none its limits take over. A turn in which somebody is due brings the scene
nearer to its end, so the turns it is given are enough for all readings to be over.
-/

namespace Roster
namespace Reading

variable {σ : Type} (ask : Ask σ)

def Paced (reading : Reading) : Prop :=
  ∀ number delay due, reading.stage = .pausing number delay due → number < reading.attempts

/-- What is still to come of a reading: its moves and its end. -/
def weight (reading : Reading) : Nat :=
  if reading.isOver then 0 else reading.movesLeft + 1

theorem weight_over (reading : Reading) (ended : reading.isOver = true) : reading.weight = 0 := by
  simp [weight, ended]

theorem weight_open (reading : Reading) (open' : reading.isOver = false) :
    reading.weight = reading.movesLeft + 1 := by
  simp [weight, open']

theorem weight_le (reading : Reading) : reading.weight ≤ reading.movesLeft + 1 := by
  unfold weight
  split <;> omega

theorem paced_over (reading : Reading) (ended : reading.isOver = true) : reading.Paced := by
  intro number delay due stage
  simp [isOver, stage] at ended

theorem paced_told (reading : Reading) (now : Nat) (deeds : List Deed)
    (told : reading.Told now deeds) : reading.Paced := by
  intro number delay due stage
  simp only [Told, stage] at told
  obtain ⟨_, _, _, within, _⟩ := told
  exact within

theorem concluded_progress (now : Nat) (reading next : Reading) (number delay : Nat)
    (answer : Except Fault Organization)
    (concluded : Concluded now reading number delay answer next) :
    next.Paced ∧ next.movesLeft ≤ 3 * (reading.attempts - number) := by
  cases concluded with
  | last last => exact ⟨paced_over _ rfl, Nat.zero_le _⟩
  | again message failed left =>
      refine ⟨?_, Nat.le_refl _⟩
      intro pausing pause due stage
      cases stage
      have more : ¬ reading.guard.backoff.maxAttempts ≤ number := by
        intro exhausted
        simp [(isLast_iff _ _).mpr exhausted] at left
      exact Nat.lt_of_lt_of_le (Nat.lt_of_not_le more) (Nat.le_max_left _ _)

theorem moved_progress (turn after : Turn σ) (reading next : Reading) (deeds : List Deed)
    (paced : reading.Paced) (moved : Moved ask turn reading deeds after next) :
    next.Paced ∧ next.movesLeft < reading.movesLeft := by
  cases moved with
  | refused number delay panel stage knocked =>
      refine ⟨paced_over _ rfl, ?_⟩
      simp [movesLeft, stage, finish]
  | asked number delay panel source answer stage knocked asks later =>
      refine ⟨?_, ?_⟩
      · intro pausing pause due isPausing
        cases isPausing
      · simp [movesLeft, stage]
  | answeredAtOnce number delay panel source answer stage knocked asks atOnce =>
      have progress := concluded_progress _ _ _ _ _ _
        (conclude_concluded turn.now panel reading number delay answer.value)
      refine ⟨progress.1, Nat.lt_of_le_of_lt progress.2 ?_⟩
      simp only [movesLeft, stage, attempts]
      omega
  | answered number delay due answer stage ends =>
      have progress := concluded_progress _ _ _ _ _ _
        (conclude_concluded turn.now turn.panel reading number delay answer)
      refine ⟨progress.1, Nat.lt_of_le_of_lt progress.2 ?_⟩
      simp only [movesLeft, stage, attempts]
      omega
  | resumed number delay due stage ends =>
      have left := paced number delay due stage
      refine ⟨?_, ?_⟩
      · intro pausing pause due isPausing
        cases isPausing
      · simp only [attempts] at left
        simp only [movesLeft, stage]
        omega

theorem weight_moved (turn after : Turn σ) (reading next : Reading) (deeds : List Deed)
    (paced : reading.Paced) (moved : Moved ask turn reading deeds after next) :
    next.weight < reading.weight := by
  rw [weight_open reading (open_of_moved ask turn after reading next deeds moved)]
  have fewer := (moved_progress ask turn after reading next deeds paced moved).2
  have bound := weight_le next
  omega

/-- Advancing goes on until no move is left, and either finds none at all or brings the
reading nearer to its end. -/
theorem advance_progress (moves : Nat) (turn : Turn σ) (reading : Reading)
    (paced : reading.Paced) (enough : reading.movesLeft ≤ moves) :
    (advance ask moves turn reading).2.Paced ∧
      step? ask (advance ask moves turn reading).1 (advance ask moves turn reading).2 = none ∧
      (advance ask moves turn reading = (turn, reading) ∨
        (advance ask moves turn reading).2.weight < reading.weight) := by
  induction moves generalizing turn reading with
  | zero =>
      refine ⟨paced, ?_, Or.inl rfl⟩
      cases stepped : step? ask turn reading with
      | none => exact stepped
      | some moved =>
          have how := step_moved ask turn moved.1 reading moved.2 stepped
          have fewer := (moved_progress ask turn moved.1 reading moved.2 _ paced how).2
          omega
  | succ moves ih =>
      cases stepped : step? ask turn reading with
      | none =>
          simp only [advance, stepped]
          exact ⟨paced, trivial, Or.inl trivial⟩
      | some moved =>
          have how := step_moved ask turn moved.1 reading moved.2 stepped
          have progress := moved_progress ask turn moved.1 reading moved.2 _ paced how
          have lighter := weight_moved ask turn moved.1 reading moved.2 _ paced how
          obtain ⟨stillPaced, stuck, further⟩ := ih moved.1 moved.2 progress.1 (by omega)
          simp only [advance, stepped]
          refine ⟨stillPaced, stuck, Or.inr ?_⟩
          rcases further with same | less
          · rwa [same]
          · exact Nat.lt_trans less lighter

theorem limit_progress (turn : Turn σ) (reading : Reading) :
    reading.limit turn = (turn, reading) ∨ (reading.limit turn).2.isOver = true := by
  have limited := limit_limited turn reading
  generalize limitDeeds turn reading = deeds at limited
  cases result : reading.limit turn with
  | mk after next =>
      rw [result] at limited
      cases limited with
      | expired due => exact Or.inr rfl
      | abandoned early impatient => exact Or.inr rfl
      | kept early patient => exact Or.inl rfl

theorem limit_weight_le (turn : Turn σ) (reading : Reading) :
    (reading.limit turn).2.weight ≤ reading.weight := by
  rcases limit_progress turn reading with same | ended
  · exact Nat.le_of_eq (by rw [same])
  · rw [weight_over _ ended]
    exact Nat.zero_le _

/-- A poll is an advance, after which the limits are looked at unless it is over or its turn
was used up. -/
theorem poll_cases (turn : Turn σ) (reading : Reading) :
    (poll ask turn reading = advance ask reading.movesLeft turn reading ∧
        ((advance ask reading.movesLeft turn reading).2.isOver = true ∨ turn.waits = 0)) ∨
      (poll ask turn reading =
          (advance ask reading.movesLeft turn reading).2.limit
            (advance ask reading.movesLeft turn reading).1 ∧
        (advance ask reading.movesLeft turn reading).2.isOver = false) := by
  generalize advanced : advance ask reading.movesLeft turn reading = middle
  cases ended : middle.2.isOver with
  | true => exact Or.inl ⟨by simp [poll, advanced, ended], Or.inl rfl⟩
  | false =>
      by_cases used : turn.waits = 0
      · exact Or.inl ⟨by simp [poll, advanced, used], Or.inr used⟩
      · exact Or.inr ⟨by simp [poll, advanced, ended, used], rfl⟩

theorem poll_progress (turn : Turn σ) (reading : Reading) (paced : reading.Paced) :
    (poll ask turn reading).2.Paced ∧
      (poll ask turn reading = (turn, reading) ∨
        (poll ask turn reading).2.weight < reading.weight) := by
  obtain ⟨stillPaced, _, further⟩ :=
    advance_progress ask reading.movesLeft turn reading paced (Nat.le_refl _)
  rcases poll_cases ask turn reading with ⟨same, _⟩ | ⟨limits, open'⟩
  · rw [same]
    exact ⟨stillPaced, further⟩
  · rw [limits]
    generalize advance ask reading.movesLeft turn reading = middle at *
    rcases limit_progress middle.1 middle.2 with same | ended
    · rw [same]
      exact ⟨stillPaced, further⟩
    · refine ⟨paced_over _ ended, Or.inr ?_⟩
      rw [weight_over _ ended]
      have alive : 0 < middle.2.weight := by
        rw [weight_open middle.2 open']
        omega
      -- A limit that ends a reading takes the last of its weight.
      rcases further with same | less
      · rw [same] at alive
        exact alive
      · exact Nat.lt_trans alive less

/-- When a reading that can make no move is due, a limit of it has come. -/
theorem limit_due (turn : Turn σ) (reading : Reading) (time : Nat)
    (open' : reading.isOver = false) (stuck : step? ask turn reading = none)
    (wakes : reading.wake? = some time) (due : time ≤ turn.now) (fresh : 0 < turn.waits) :
    (reading.limit turn).2.isOver = true := by
  -- With waits left, what cannot end is not yet due, so it must be the bound that has come.
  have notYet : ∀ answerDue, turn.canEnd answerDue = false → turn.now < answerDue := by
    intro answerDue cannot
    apply Nat.lt_of_not_le
    intro come
    simp [(canEnd_iff turn answerDue).mpr ⟨come, fresh⟩] at cannot
  have bounded : ∀ end', turn.now < end' → min end' reading.bound = time →
      (reading.limit turn).2.isOver = true := by
    intro end' later wake
    have come : reading.bound ≤ turn.now := by omega
    by_cases expired : reading.deadline ≤ turn.now
    · simp [limit, expired, expire, finish, isOver]
    · have impatient : reading.patience.any (· ≤ turn.now) = true := by
        unfold bound at come
        split at come
        · exact absurd come expired
        · next patience came =>
            simp only [came, Option.any_some, decide_eq_true_eq]
            omega
      simp only [limit, expired, impatient, ↓reduceIte]
      rfl
  rcases stuck_stage ask turn reading open' stuck with
    ⟨number, delay, answerDue, answer, stage, cannot⟩ | ⟨number, delay, pauseDue, stage, cannot⟩
  · simp only [wake?, stage, Option.some.injEq] at wakes
    exact bounded answerDue (notYet answerDue cannot) wakes
  · simp only [wake?, stage, Option.some.injEq] at wakes
    exact bounded pauseDue (notYet pauseDue cannot) wakes

theorem open_of_wake (reading : Reading) (time : Nat) (wakes : reading.wake? = some time) :
    reading.isOver = false := by
  cases stage : reading.stage <;> simp_all [wake?, isOver]

theorem over_iff_no_wake (reading : Reading) : reading.isOver = true ↔ reading.wake? = none := by
  cases stage : reading.stage <;> simp [wake?, isOver, stage]

/-- Who is due in a turn with waits left comes nearer to its end when it is polled. -/
theorem poll_due (turn : Turn σ) (reading : Reading) (time : Nat) (paced : reading.Paced)
    (wakes : reading.wake? = some time) (due : time ≤ turn.now) (fresh : 0 < turn.waits) :
    (poll ask turn reading).2.weight < reading.weight := by
  obtain ⟨_, stuck, further⟩ :=
    advance_progress ask reading.movesLeft turn reading paced (Nat.le_refl _)
  have open' := open_of_wake reading time wakes
  rcases further with still | lighter
  · rcases poll_cases ask turn reading with ⟨_, through⟩ | ⟨limits, _⟩
    · rw [still] at through
      rcases through with ended | used
      · simp [open'] at ended
      · omega
    · rw [still] at stuck limits
      rw [limits, weight_over _ (limit_due ask turn reading time open' stuck wakes due fresh),
        weight_open reading open']
      omega
  · refine Nat.lt_of_le_of_lt ?_ lighter
    rcases poll_cases ask turn reading with ⟨same, _⟩ | ⟨limits, _⟩
    · exact Nat.le_of_eq (by rw [same])
    · rw [limits]
      exact limit_weight_le _ _

end Reading

namespace Scene

open Reading (Ask Paced)

variable {σ : Type} (ask : Ask σ)

def total : List Reading → Nat
  | [] => 0
  | reading :: rest => reading.weight + total rest

theorem pollAll_progress (turn : Turn σ) (readings : List Reading)
    (paced : ∀ reading ∈ readings, Paced reading) :
    (∀ reading ∈ (pollAll ask turn readings).2, Paced reading) ∧
      (pollAll ask turn readings = (turn, readings) ∨
        total (pollAll ask turn readings).2 < total readings) := by
  induction readings generalizing turn with
  | nil => exact ⟨paced, Or.inl rfl⟩
  | cons reading rest ih =>
      have first := Reading.poll_progress ask turn reading (paced reading List.mem_cons_self)
      have others := ih (Reading.poll ask turn reading).1
        (fun other member => paced other (List.mem_cons_of_mem reading member))
      refine ⟨?_, ?_⟩
      · intro polled member
        rcases List.mem_cons.mp member with same | later
        · exact same ▸ first.1
        · exact others.1 polled later
      · simp only [pollAll, total]
        rcases first.2 with still | lighter
        · rw [still] at others ⊢
          rcases others.2 with same | less
          · rw [same]
            exact Or.inl rfl
          · exact Or.inr (Nat.add_lt_add_left less _)
        · right
          rcases others.2 with same | less
          · rw [same]
            exact Nat.add_lt_add_right lighter _
          · exact Nat.add_lt_add lighter less

/-- If anybody is due in a turn with waits left, the turn brings the scene nearer to its end. -/
theorem pollAll_due (turn : Turn σ) (readings : List Reading) (reading : Reading) (time : Nat)
    (paced : ∀ reading ∈ readings, Paced reading) (member : reading ∈ readings)
    (wakes : reading.wake? = some time) (due : time ≤ turn.now) (fresh : 0 < turn.waits) :
    total (pollAll ask turn readings).2 < total readings := by
  induction readings with
  | nil => cases member
  | cons first rest ih =>
      have pacedRest : ∀ other ∈ rest, Paced other :=
        fun other later => paced other (List.mem_cons_of_mem first later)
      have head := Reading.poll_progress ask turn first (paced first List.mem_cons_self)
      have tail := pollAll_progress ask (Reading.poll ask turn first).1 rest pacedRest
      -- The rest never gets heavier, so it is enough that somebody gets lighter.
      have tail_le : total (pollAll ask (Reading.poll ask turn first).1 rest).2 ≤ total rest := by
        rcases tail.2 with same | less
        · exact Nat.le_of_eq (by rw [same])
        · exact Nat.le_of_lt less
      simp only [pollAll, total]
      rcases List.mem_cons.mp member with same | later
      · subst same
        have lighter := Reading.poll_due ask turn reading time
          (paced reading List.mem_cons_self) wakes due fresh
        exact Nat.add_lt_add_of_lt_of_le lighter tail_le
      · rcases head.2 with still | lighter
        · rw [still]
          exact Nat.add_lt_add_left (ih pacedRest later) _
        · exact Nat.add_lt_add_of_lt_of_le lighter tail_le

theorem over_of_no_wake (scene : Scene σ) (none' : scene.wake? = none) :
    ∀ reading ∈ scene.readings, reading.isOver = true := by
  intro reading member
  apply (Reading.over_iff_no_wake reading).mpr
  simp only [wake?, List.min?_eq_none_iff, List.filterMap_eq_nil_iff] at none'
  exact none' reading member

/-- Whoever sets the time of the next turn is due in it. -/
theorem due_of_wake (scene : Scene σ) (time : Nat) (wakes : scene.wake? = some time) :
    ∃ reading ∈ scene.readings, reading.wake? = some time := by
  have first := List.min?_mem wakes
  simpa using first

theorem runWithin_over (turns : Nat) (scene : Scene σ)
    (paced : ∀ reading ∈ scene.readings, Paced reading)
    (enough : total (scene.poll ask).readings < turns) :
    ∀ reading ∈ (scene.runWithin ask turns).readings, reading.isOver = true := by
  induction turns generalizing scene with
  | zero => exact absurd enough (Nat.not_lt_zero _)
  | succ turns ih =>
      have stillPaced : ∀ reading ∈ (scene.poll ask).readings, Paced reading :=
        (pollAll_progress ask scene.turn scene.readings paced).1
      cases wakes : (scene.poll ask).wake? with
      | none =>
          simp only [runWithin, wakes]
          exact over_of_no_wake _ wakes
      | some time =>
          simp only [runWithin, wakes]
          obtain ⟨reading, member, isDue⟩ := due_of_wake _ time wakes
          -- Every turn but the first has somebody who is due, and so a weight to take off.
          have nearer := pollAll_due ask ((scene.poll ask).turn.next time)
            (scene.poll ask).readings reading time stillPaced member isDue
            (Nat.le_max_right _ _) (by decide : 0 < Turn.capacity)
          exact ih { scene.poll ask with turn := (scene.poll ask).turn.next time } stillPaced
            (Nat.lt_of_lt_of_le nearer (Nat.le_of_lt_succ enough))

theorem total_lt_turns (scene : Scene σ) : total scene.readings < scene.turns := by
  unfold turns
  induction scene.readings with
  | nil => exact Nat.zero_lt_one
  | cons reading rest ih =>
      have first := Reading.weight_le reading
      simp only [total, List.foldr_cons]
      omega

/-- The turns that a run is given are enough for all of its readings. -/
theorem run_over (scene : Scene σ) (paced : ∀ reading ∈ scene.readings, Paced reading) :
    ∀ reading ∈ (scene.run ask).readings, reading.isOver = true := by
  refine runWithin_over ask scene.turns scene paced ?_
  have fewer : total (scene.poll ask).readings ≤ total scene.readings := by
    rcases (pollAll_progress ask scene.turn scene.readings paced).2 with same | less
    · exact Nat.le_of_eq (by simp [poll, same])
    · exact Nat.le_of_lt less
  exact Nat.lt_of_le_of_lt fewer (total_lt_turns scene)

end Scene
end Roster
