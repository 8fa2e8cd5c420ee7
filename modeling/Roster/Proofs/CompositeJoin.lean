import Roster.Composite

/-!
A composite read as it goes on. Its two parts are polled by turns, and each is asked for when it is
first polled. The read ends as soon as the organization turns out to fail, whatever has become of
the members, or else once both parts are there; then both are given up, and the read is counted.
Time passes while the parts are waited for, but never beyond the next that is due.
-/

namespace Roster

open Composite (seconds view)

/-- A part of a read: not asked for yet, there from some time on, or there and seen. -/
inductive Part (α : Type) where
  | unasked
  | due (time : Nat) (value : α)
  | here (value : α)
deriving Repr

namespace Part

variable {α : Type}

def poll (now : Nat) : Part α → Part α
  | .due time value => if time ≤ now then .here value else .due time value
  | part => part

def lets (time : Nat) : Part α → Bool
  | .due there _ => time ≤ there
  | _ => true

def waiting : Part α → Nat
  | .due .. => 1
  | _ => 0

section Poll

variable (now time : Nat) (value : α)

theorem poll_there (there : time ≤ now) : poll now (.due time value) = .here value := if_pos there

theorem poll_early (early : now < time) : poll now (.due time value) = .due time value :=
  if_neg (Nat.not_le_of_lt early)

end Poll

inductive Fits (asked now : Nat) (answer : Timed α) : Part α → Prop where
  | due (early : now ≤ asked + answer.after) :
      Fits asked now answer (.due (asked + answer.after) answer.value)
  | here (there : asked + answer.after ≤ now) : Fits asked now answer (.here answer.value)

theorem fits_here (asked now : Nat) (answer : Timed α) (value : α)
    (fits : Fits asked now answer (.here value)) :
    answer.value = value ∧ asked + answer.after ≤ now := by
  cases fits with
  | here there => exact ⟨rfl, there⟩

theorem fits_poll (asked now : Nat) (answer : Timed α) (part : Part α)
    (fits : part.Fits asked now answer) : (part.poll now).Fits asked now answer := by
  cases fits with
  | here there => exact .here there
  | due early =>
      rcases Nat.lt_or_ge now (asked + answer.after) with sooner | there
      · rw [poll_early now _ _ sooner]
        exact .due early
      · rw [poll_there now _ _ there]
        exact .here there

theorem fits_asked (now : Nat) (answer : Timed α) :
    Fits now now answer (poll now (.due (now + answer.after) answer.value)) :=
  fits_poll now now answer _ (.due (Nat.le_add_right now answer.after))

theorem fits_later (asked now later : Nat) (answer : Timed α) (part : Part α) (le : now ≤ later)
    (lets : part.lets later = true) (fits : part.Fits asked now answer) :
    part.Fits asked later answer := by
  cases fits with
  | here there => exact .here (Nat.le_trans there le)
  | due early => exact .due (of_decide_eq_true lets)

theorem waiting_poll_le (now : Nat) (part : Part α) : (part.poll now).waiting ≤ part.waiting := by
  cases part with
  | unasked => exact Nat.le_refl 0
  | here value => exact Nat.le_refl 0
  | due time value =>
      rcases Nat.lt_or_ge now time with sooner | there
      · exact Nat.le_of_eq (congrArg waiting (poll_early now time value sooner))
      · rw [poll_there now time value there]
        exact Nat.zero_le 1

end Part

namespace Composite

variable {σ : Type}

inductive Ask where
  | organization (id : Id) (options : ReadOptions)
  | members (id : Id)
deriving DecidableEq, Repr

structure Inquiry (σ : Type) where
  composite : Composite σ
  id : Id
  options : ReadOptions
  start : Nat

structure Fetch (σ : Type) where
  now : Nat
  state : σ
  polls : Nat := 0
  organization : Part (Except Fault Organization) := .unasked
  members : Part (List Member) := .unasked
  asked : List Ask := []
  answer : Option (Timed (Except Fault Aggregate)) := none

inductive Fetch.Act where
  | poll
  | wait (duration : Nat)

/-- A read is waited for only once it was polled, and it is woken when something is due. -/
def Fetch.mayWait (duration : Nat) (fetch : Fetch σ) : Bool :=
  decide (0 < fetch.polls) && fetch.organization.lets (fetch.now + duration) &&
    fetch.members.lets (fetch.now + duration)

namespace Inquiry

variable (inquiry : Inquiry σ)

def finish (result : Except Fault Aggregate) (fetch : Fetch σ) : Fetch σ :=
  let took := fetch.now - inquiry.start
  let observed := inquiry.composite.record
    (·.observeRead (outcomeLabel result) (seconds took)) fetch.state
  { fetch with
    state := inquiry.composite.conclude "get" observed result
    answer := some ⟨took, result⟩ }

def begin (state : σ) : Fetch σ :=
  let fetch : Fetch σ := { now := inquiry.start, state }
  match Fault.checkId inquiry.id with
  | .error fault => inquiry.finish (.error fault) fetch
  | .ok () => fetch

def pollOrganization (fetch : Fetch σ) : Fetch σ :=
  match fetch.organization with
  | .unasked =>
    let (state, answer) := inquiry.composite.organization inquiry.id inquiry.options fetch.state
    { fetch with
      state
      asked := fetch.asked ++ [.organization inquiry.id inquiry.options]
      organization := Part.poll fetch.now (.due (fetch.now + answer.after) answer.value) }
  | part => { fetch with organization := part.poll fetch.now }

def pollMembers (fetch : Fetch σ) : Fetch σ :=
  match fetch.members with
  | .unasked =>
    let (state, answer) := inquiry.composite.members inquiry.id fetch.state
    { fetch with
      state
      asked := fetch.asked ++ [.members inquiry.id]
      members := Part.poll fetch.now (.due (fetch.now + answer.after) answer.value) }
  | part => { fetch with members := part.poll fetch.now }

def settle (fetch : Fetch σ) : Fetch σ :=
  match fetch.organization, fetch.members with
  | .here (.error fault), _ => inquiry.finish (.error fault) fetch
  | .here (.ok found), .here members =>
    inquiry.finish (.ok (view inquiry.composite.address found members)) fetch
  | _, _ => fetch

/-- The organization goes first in every other poll, beginning with the first poll of all. Once it
has failed, what would come after it is not polled any more. -/
def poll (fetch : Fetch σ) : Fetch σ :=
  let next := { fetch with polls := fetch.polls + 1 }
  if fetch.polls % 2 = 0 then
    let first := inquiry.pollOrganization next
    match first.organization with
    | .here (.error fault) => inquiry.finish (.error fault) first
    | _ => inquiry.settle (inquiry.pollMembers first)
  else inquiry.settle (inquiry.pollOrganization (inquiry.pollMembers next))

/-- What cannot happen leaves everything as it is; and nothing happens to a read that has ended. -/
def step (fetch : Fetch σ) (act : Fetch.Act) : Fetch σ :=
  match fetch.answer, act with
  | some _, _ => fetch
  | none, .poll => inquiry.poll fetch
  | none, .wait duration =>
    if fetch.mayWait duration then { fetch with now := fetch.now + duration } else fetch

def run (acts : List Fetch.Act) (fetch : Fetch σ) : Fetch σ := acts.foldl inquiry.step fetch

theorem run_append (acts more : List Fetch.Act) (fetch : Fetch σ) :
    inquiry.run (acts ++ more) fetch = inquiry.run more (inquiry.run acts fetch) :=
  List.foldl_append

theorem run_ended (acts : List Fetch.Act) (fetch : Fetch σ)
    (ended : fetch.answer.isSome = true) : inquiry.run acts fetch = fetch := by
  induction acts with
  | nil => rfl
  | cons act rest ih =>
      obtain ⟨answer, told⟩ := Option.isSome_iff_exists.mp ended
      have still : inquiry.step fetch act = fetch := by
        simp only [step, told]
      rw [run, List.foldl_cons, still]
      exact ih

end Inquiry
end Composite
end Roster
