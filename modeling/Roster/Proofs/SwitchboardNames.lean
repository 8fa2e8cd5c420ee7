import Roster.Proofs.NameboardApart

/-!
One breaker to a name, and true reports of it. Whatever is asked for and done, a process with
breakers cannot be told from a nameboard that was used in the same way; what it reports of its
breakers is what they are.
-/

namespace Roster

namespace Switchboard

variable {α : Type}

def Act.policyFor? (name : String) : Act α → Option BreakerPolicy
  | .obtain other policy => if other = name then some policy else none
  | _ => none

def firstPolicy? (name : String) (acts : List (Act α)) : Option BreakerPolicy :=
  acts.findSome? (Act.policyFor? name)

theorem firstPolicy_isSome (name : String) (acts : List (Act α)) :
    (firstPolicy? name acts).isSome = true ↔ ∃ policy, Act.obtain name policy ∈ acts := by
  rw [firstPolicy?, List.findSome?_isSome_iff]
  constructor
  · rintro ⟨act, member, asked⟩
    cases act with
    | obtain other policy =>
        by_cases same : other = name
        · exact ⟨policy, same ▸ member⟩
        · simp [Act.policyFor?, same] at asked
    | _ => cases asked
  · rintro ⟨policy, member⟩
    exact ⟨.obtain name policy, member, by simp [Act.policyFor?]⟩

end Switchboard

namespace Nameboard

variable {α : Type}

open Switchboard (Act firstPolicy?)

/-- The first to ask for a name decides on its policy. -/
theorem policy_step (board : Nameboard) (name : String) (act : Act α) :
    ((board.step act).1.machines name).map Machine.policy =
      ((board.machines name).map Machine.policy).or (act.policyFor? name) := by
  cases act with
  | obtain other policy =>
      rw [step, machines_obtain]
      by_cases same : name = other
      · subst same
        rw [if_pos rfl, Act.policyFor?, if_pos rfl]
        cases board.machines name with
        | none => rfl
        | some machine => rfl
      · rw [if_neg same, Act.policyFor?, if_neg (Ne.symm same), Option.or_none]
  | _ =>
      rw [Act.policyFor?, Option.or_none]
      · exact fixed_step _ (fixed_policy name) board _ rfl
      · intro other policy same
        cases same

theorem policy_run (board : Nameboard) (name : String) (acts : List (Act α)) :
    ((board.run acts).machines name).map Machine.policy =
      ((board.machines name).map Machine.policy).or (firstPolicy? name acts) := by
  induction acts generalizing board with
  | nil => exact (Option.or_none).symm
  | cons act rest ih =>
      have later := ih (board.step act).1
      rw [policy_step, Option.or_assoc] at later
      have first : firstPolicy? name (act :: rest) =
          (act.policyFor? name).or (firstPolicy? name rest) := by
        rw [firstPolicy?, List.findSome?_cons]
        cases act.policyFor? name <;> rfl
      rw [first]
      exact later

end Nameboard

/-- What a panel tells of its breakers is true of the breakers of a nameboard. In reports a phase
is a word. -/
structure Panel.Tells (panel : Panel) (board : Nameboard) : Prop where
  increasing : panel.snapshot.Pairwise fun a b => a.1 < b.1
  entries : ∀ name phase, (name, phase) ∈ panel.snapshot ↔
    ∃ machine, board.machines name = some machine ∧ machine.breaker.phase = phase
  health : ∀ service, ∃ (status : String) (broken : List (String × Phase)),
    let word : Phase → String
      | .closed => "closed"
      | .opened => "open"
      | .halfOpen => "half_open"
    (panel.health service).shape? ["status", "breakers", "details"] =
        some [some (.ofString status),
          some (.record (panel.snapshot.map fun entry => (entry.1, .ofString (word entry.2)))),
          some (.list (broken.map fun entry =>
            .ofString (entry.1 ++ ": circuit breaker " ++ word entry.2)))] ∧
      (status = "healthy" ↔
        ∀ name machine, board.machines name = some machine → machine.breaker.phase = .closed) ∧
      broken.Pairwise (fun a b => a.1 < b.1) ∧
      ∀ entry, entry ∈ broken ↔ entry ∈ panel.snapshot ∧ entry.2 ≠ .closed

namespace Switchboard

variable {α : Type}

section Runs

variable (board : Switchboard) (ideal : Nameboard) (shows : board.Shows ideal)

include shows

theorem run_shows (acts : List (Act α)) : (board.run acts).Shows (ideal.run acts) := by
  induction acts generalizing board ideal with
  | nil => exact shows
  | cons act rest ih => exact ih _ _ (step_shows board ideal shows act)

theorem answers_alike (acts : List (Act α)) : board.answers acts = ideal.answers acts := by
  induction acts generalizing board ideal with
  | nil => rfl
  | cons act rest ih =>
      rw [answers, Nameboard.answers, (step_traffic board ideal shows act).2]
      exact congrArg _ (ih _ _ (step_shows board ideal shows act))

theorem found_breaker (name : String) :
    (board.panel.find? name).bind board.panel.breaker? =
      (ideal.machines name).map Machine.breaker := by
  cases found : board.panel.find? name with
  | none =>
      have missing := board.panel.find_none name shows.traffic.labelled found
      rw [shows.traffic.unknown name missing]
      rfl
  | some place =>
      obtain ⟨switch, stands, _, rfl⟩ := board.panel.find_listed place name found
      rw [shows.traffic.machines place switch stands, Option.bind_some, Panel.breaker?, stands]
      rfl

theorem mem_snapshot_iff (name : String) (phase : Phase) :
    (name, phase) ∈ board.panel.snapshot ↔
      ∃ machine, ideal.machines name = some machine ∧ machine.breaker.phase = phase := by
  rw [board.panel.mem_snapshot shows.traffic.labelled]
  constructor
  · rintro ⟨switch, member, rfl, rfl⟩
    obtain ⟨place, found⟩ := List.mem_iff_getElem?.mp member
    exact ⟨_, shows.traffic.machines place switch found, rfl⟩
  · rintro ⟨machine, known, rfl⟩
    by_cases asked : name ∈ board.panel.names
    · obtain ⟨switch, member, rfl⟩ := List.mem_map.mp asked
      obtain ⟨place, found⟩ := List.mem_iff_getElem?.mp member
      have its := shows.traffic.machines place switch found
      rw [known, Option.some.injEq] at its
      exact ⟨switch, member, rfl, by rw [its]⟩
    · rw [shows.traffic.unknown name asked] at known
      cases known

theorem tells_of_shows : board.panel.Tells ideal where
  increasing := board.panel.snapshot_increasing shows.traffic.labelled
  entries := mem_snapshot_iff board ideal shows
  health := by
    intro service
    let status := if board.panel.degraded.isEmpty then "healthy" else "degraded"
    refine ⟨status, board.panel.degraded, ?_⟩
    intro word
    have words : word = Phase.name := by
      funext phase
      cases phase <;> rfl
    refine ⟨words ▸ board.panel.health_read service, ?_, ?_, ?_⟩
    · rw [board.panel.healthy_iff]
      constructor
      · intro closed name machine known
        exact closed (name, machine.breaker.phase)
          ((mem_snapshot_iff board ideal shows name _).mpr ⟨machine, known, rfl⟩)
      · rintro closed ⟨name, phase⟩ member
        obtain ⟨machine, known, rfl⟩ := (mem_snapshot_iff board ideal shows name phase).mp member
        exact closed name machine known
    · exact board.panel.degraded_increasing shows.traffic.labelled
    · exact board.panel.mem_degraded

end Runs

/-- What is done through the handles of others is for the breaker of a name as if it were not
done and only its time had passed: it is the same breaker, and it answers alike. -/
theorem apart_run (measured : Bool) (name : String) (acts : List (Act α)) :
    let board := (fresh measured).run acts
    let alone := (fresh measured).run (Nameboard.view name {} acts)
    (alone.panel.find? name).bind alone.panel.breaker? =
        (board.panel.find? name).bind board.panel.breaker? ∧
      ∀ act : Act α, (Nameboard.run {} acts).concerns name act = true →
        (alone.step act).2 = (board.step act).2 := by
  intro board alone
  have shown := run_shows (fresh measured) {} (shows_fresh measured) acts
  have shownAlone := run_shows (fresh measured) {} (shows_fresh measured)
    (Nameboard.view name {} acts)
  have alike := Nameboard.alike_run name {} {} (Nameboard.alike_empty name) acts
  constructor
  · rw [found_breaker board _ shown, found_breaker alone _ shownAlone, alike.machine]
  · intro act concerned
    rw [(step_traffic alone _ shownAlone act).2, (step_traffic board _ shown act).2]
    exact (Nameboard.alike_concerned name _ _ alike act concerned).2

/-- However breakers are asked for and used, a process has one breaker to a name: each handle
is the breaker of its name, made with the policy that the name was first asked for with, and
all acts are answered as such breakers by themselves answer them. What is done through the
handles of other names is no more to a breaker than the time it takes. The process reports
each name that was asked for once, in order and with its phase; and it reports its health
accordingly. -/
theorem one_breaker_per_name (measured : Bool) (acts : List (Act α)) :
    let board := (fresh measured).run acts
    let ideal : Nameboard := Nameboard.run {} acts
    (board.Shows ideal ∧ (fresh measured).answers acts = Nameboard.answers {} acts ∧
        ∀ name, (ideal.machines name).map Machine.policy = firstPolicy? name acts) ∧
      (∀ name,
        let alone := (fresh measured).run (Nameboard.view name {} acts)
        (alone.panel.find? name).bind alone.panel.breaker? =
            (board.panel.find? name).bind board.panel.breaker? ∧
          ∀ act : Act α, ideal.concerns name act = true →
            (alone.step act).2 = (board.step act).2) ∧
      board.panel.Tells ideal ∧
      ∀ name, (∃ phase, (name, phase) ∈ board.panel.snapshot) ↔
        ∃ policy, Act.obtain name policy ∈ acts := by
  intro board ideal
  have shown : board.Shows ideal := run_shows (fresh measured) {} (shows_fresh measured) acts
  have policies (name : String) :
      (ideal.machines name).map Machine.policy = firstPolicy? name acts :=
    Nameboard.policy_run {} name acts
  constructor
  · constructor
    · exact shown
    · exact ⟨answers_alike (fresh measured) {} (shows_fresh measured) acts, policies⟩
  · constructor
    · exact fun name => apart_run measured name acts
    · constructor
      · exact tells_of_shows board ideal shown
      · intro name
        rw [← firstPolicy_isSome, ← policies name, Option.isSome_map, Option.isSome_iff_exists]
        simp only [mem_snapshot_iff board ideal shown]
        constructor
        · rintro ⟨_, machine, known, _⟩
          exact ⟨machine, known⟩
        · rintro ⟨machine, known⟩
          exact ⟨_, machine, known, rfl⟩

-- The second to ask for a name is given the same breaker, whatever policy it asks for.
example :
    (fresh true).answers ([.obtain "a" { failureThreshold := 1 }, .obtain "b" {}, .obtain "a" {},
      .recordTimeout 0, .start "x" 2, .start "y" 1] : List (Act Unit)) =
      [.silent, .silent, .silent, .silent, .admitted false, .admitted true] := by
  rfl

end Switchboard
end Roster
