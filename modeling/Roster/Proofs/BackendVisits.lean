import Mathlib.Data.List.Forall2
import Roster.Proofs.BackendErrands

/-!
A backend under traffic of every kind: requests, events, and events as they arrive in bytes. Of
all that comes, only the writes it answers with success count for what it keeps, in the order in
which they came, whichever way that was.
-/

namespace Roster.Backend

open Http (Request Response)
open Store (Write)

/-! ### Visits and replies -/

/-- What comes to a backend. -/
inductive Visit (α : Type) where
  | request (draw : Nat) (request : Request)
  | event (event : Event α)
  | delivery (bytes : Text.Bytes)

inductive Reply where
  | response (response : Timed Response)
  | result (result : Except Fault Unit)

def Reply.isSuccess : Reply → Bool
  | .response answer => answer.value.isSuccess
  | .result told => told.isOk

structure Desk (σ : Type) where
  store : σ
  metrics : Metrics

variable {σ α ρ β : Type} [Store σ α] [Json.Wire α] [Json.Wire ρ] (backend : Backend σ α ρ)
  (visit : Visit α) (desk : Desk σ)

def attend : Desk σ × Reply :=
  match visit with
  | .request draw request =>
    let (store, response) := backend.respond draw request desk.store
    ({ desk with store }, .response response)
  | .event event =>
    let (store, metrics, result) := Store.process event desk.store desk.metrics
    ({ store, metrics }, .result result)
  | .delivery bytes =>
    let (store, metrics, result) := Store.receive bytes desk.store desk.metrics
    ({ store, metrics }, .result result)

theorem attend_request (draw : Nat) (request : Request) :
    let answer := backend.respond draw request desk.store
    backend.attend (.request draw request) desk =
      ({ desk with store := answer.1 }, .response answer.2) := rfl

theorem attend_event (event : Event α) :
    let processed := Store.process event desk.store desk.metrics
    backend.attend (.event event) desk =
      ({ store := processed.1, metrics := processed.2.1 }, .result processed.2.2) := rfl

def attendAll : List (Visit α) → Desk σ → Desk σ × List (Visit α × Reply)
  | [], desk => (desk, [])
  | visit :: rest, desk =>
    let (next, reply) := backend.attend visit desk
    let (last, log) := attendAll rest next
    (last, (visit, reply) :: log)

def write? : Visit α → Option (Write α)
  | .request _ request => (backend.errand? request).bind Errand.write?
  | .event event => event.write?
  | .delivery bytes => (Event.receive bytes : Except Fault (Event α)).toOption.bind Event.write?

def accepted (log : List (Visit α × Reply)) : List (Write α) :=
  log.filterMap fun (visit, reply) => if reply.isSuccess then backend.write? visit else none

def Tells (result : Except Fault Unit) : Visit α → Reply → Prop
  | .request _ request, .response response => match result with
    | .ok () => response.after = 0 ∧ response.value.isSuccess = true
    | .error fault => response = .now (.ofFault request.path fault)
  | .event _, .result told | .delivery _, .result told => told = result
  | _, _ => False

omit [Json.Wire α] in
theorem isSuccess_of_tells (result : Except Fault Unit) (reply : Reply)
    (tells : Tells result visit reply) : reply.isSuccess = result.isOk := by
  cases visit <;> cases reply <;> try exact tells.elim
  · cases result with
    | ok done =>
        rw [Reply.isSuccess, tells.2]
        rfl
    | error fault =>
        rw [Tells] at tells
        rw [Reply.isSuccess, tells]
        exact Response.ofFault_refuses _ fault
  · rw [Reply.isSuccess, show _ = result from tells]
  · rw [Reply.isSuccess, show _ = result from tells]

/-! ### One visit -/

omit [Json.Wire α] in
theorem process_settles (event : Event α) :
    let settled := Store.settle desk.store () (event.apply desk.store)
    (Store.process event desk.store desk.metrics).1 = settled.1 ∧
      (Store.process event desk.store desk.metrics).2.2 = settled.2 := by
  unfold Store.process
  cases event.apply desk.store <;> exact ⟨rfl, rfl⟩

theorem attend_readable (bytes : Text.Bytes) (event : Event α)
    (read : Event.receive bytes = .ok event) :
    backend.attend (.delivery bytes) desk = backend.attend (.event event) desk := by
  simp only [attend, Store.receive, read]

theorem attend_unreadable (bytes : Text.Bytes) (fault : Fault)
    (read : (Event.receive bytes : Except Fault (Event α)) = .error fault) :
    backend.attend (.delivery bytes) desk = (desk, .result (.error fault)) := by
  simp only [attend, Store.receive, read]

theorem write_readable (bytes : Text.Bytes) (event : Event α)
    (read : Event.receive bytes = .ok event) :
    backend.write? (.delivery bytes) = event.write? := by
  simp [write?, read, Except.toOption]

theorem carryOut_write (draw : Nat) (request : Request) (store : σ) (write : Write α) :
    let settled := Store.settle store () (write.apply store)
    let answer := backend.carryOut draw request.path store (.write write)
    answer.1 = settled.1 ∧
      Tells settled.2 (.request draw request : Visit α) (.response answer.2) := by
  cases write with
  | create record =>
      rw [Store.Write.apply, Service.carryOut_create]
      cases Store.create record store with
      | ok next => exact ⟨rfl, rfl, rfl⟩
      | error fault => exact ⟨rfl, rfl⟩
  | delete id =>
      rw [Store.Write.apply, Service.carryOut_delete]
      cases (Store.delete id store : Except Fault σ) with
      | ok next => exact ⟨rfl, rfl, rfl⟩
      | error fault => exact ⟨rfl, rfl⟩

theorem attend_write (write : Write α) (asked : backend.write? visit = some write) :
    let settled := Store.settle desk.store () (write.apply desk.store)
    (backend.attend visit desk).1.store = settled.1 ∧
      Tells settled.2 visit (backend.attend visit desk).2 := by
  cases visit with
  | request draw request =>
      obtain ⟨errand, seen, told⟩ := Option.bind_eq_some_iff.mp asked
      cases errand with
      | read id staging => cases told
      | write same =>
          obtain rfl := Option.some.inj told
          rw [attend_request, backend.respond_errand draw request desk.store _ seen]
          exact carryOut_write backend draw request desk.store same
  | event event =>
      have settles := process_settles desk event
      rw [Event.apply_write event desk.store write asked] at settles
      exact settles
  | delivery bytes =>
      cases read : (Event.receive bytes : Except Fault (Event α)) with
      | error fault => simp [write?, read, Except.toOption] at asked
      | ok event =>
          rw [write_readable backend bytes event read] at asked
          rw [attend_readable backend desk bytes event read]
          have settles := process_settles desk event
          rw [Event.apply_write event desk.store write asked] at settles
          exact settles

theorem attend_none (none : backend.write? visit = none) :
    (backend.attend visit desk).1.store = desk.store := by
  cases visit with
  | request draw request =>
      rw [attend_request]
      cases asked : backend.errand? request with
      | none =>
          obtain ⟨response, answered, _⟩ := backend.respond_none draw request desk.store asked
          rw [answered]
      | some errand =>
          rw [backend.respond_errand draw request desk.store errand asked]
          cases errand with
          | read id staging => rfl
          | write write => simp [write?, asked, Errand.write?] at none
  | event event =>
      obtain ⟨message, failed⟩ := Event.apply_none event desk.store none
      rw [show (backend.attend (.event event) desk).1.store = _ from (process_settles desk event).1,
        failed]
      rfl
  | delivery bytes =>
      cases read : (Event.receive bytes : Except Fault (Event α)) with
      | error fault => rw [attend_unreadable backend desk bytes fault read]
      | ok event =>
          rw [write_readable backend bytes event read] at none
          obtain ⟨message, failed⟩ := Event.apply_none event desk.store none
          rw [attend_readable backend desk bytes event read,
            show (backend.attend (.event event) desk).1.store = _ from
              (process_settles desk event).1, failed]
          rfl

/-- All that a visit can do to the store: a write that is answered with success does to it what
it does by itself, and whatever else comes leaves it alone. -/
theorem attend_cases :
    (∃ write next, backend.write? visit = some write ∧ write.apply desk.store = .ok next ∧
        (backend.attend visit desk).1.store = next ∧
        (backend.attend visit desk).2.isSuccess = true) ∨
      (backend.attend visit desk).1.store = desk.store ∧
        ((backend.attend visit desk).2.isSuccess = false ∨ backend.write? visit = none) := by
  cases asked : backend.write? visit with
  | none => exact .inr ⟨attend_none backend visit desk asked, .inr rfl⟩
  | some write =>
      obtain ⟨stored, tells⟩ := attend_write backend visit desk write asked
      have replied := isSuccess_of_tells visit _ _ tells
      cases applied : write.apply desk.store with
      | ok next =>
          rw [applied] at stored replied
          exact .inl ⟨write, next, rfl, applied, stored, replied⟩
      | error fault =>
          rw [applied] at stored replied
          exact .inr ⟨stored, .inl replied⟩

theorem attend_read (draw : Nat) (request : Request) (id : Id) (staging : Staging)
    (asked : backend.errand? request = some (.read id staging)) :
    backend.attend (.request draw request) desk = (desk,
      .response ((backend.read desk.store staging draw id).map (.ofRead request.path))) := by
  rw [attend_request, backend.respond_errand draw request desk.store _ asked]
  rfl

/-! ### What is not kept -/

def change (event : Event α) : EventKind × Id × Option α :=
  (event.kind, event.key, event.payload.map backend.kept)

/-- Two visits that differ at most in how a record is written down, in what of it is not kept,
and in when an event was made. -/
inductive Alike : Visit α → Visit α → Prop where
  | request (draw : Nat) (first second : Request)
      (alike : Request.Alike backend.kept first second) :
      Alike (.request draw first) (.request draw second)
  | event (first second : Event α) (same : backend.change first = backend.change second) :
      Alike (.event first) (.event second)
  | delivery (first second : Text.Bytes)
      (same : (Event.receive first).map backend.change =
        (Event.receive second).map backend.change) :
      Alike (.delivery first) (.delivery second)

theorem apply_alike (first second : Event α) (store : σ)
    (same : backend.change first = backend.change second) :
    first.apply store = second.apply store := by
  obtain ⟨kind, key, payload, now⟩ := first
  obtain ⟨kind', key', payload', now'⟩ := second
  obtain ⟨rfl, rest⟩ := Prod.mk.inj same
  obtain ⟨rfl, payloads⟩ := Prod.mk.inj rest
  cases payload with
  | none =>
      obtain rfl := Option.map_eq_none_iff.mp payloads.symm
      rfl
  | some record =>
      obtain ⟨record', rfl, kept⟩ := Option.map_eq_some_iff.mp payloads.symm
      cases kind with
      | delete => rfl
      | create =>
          change Store.create record store = Store.create record' store
          rw [← backend.create_kept record, ← kept, backend.create_kept]

theorem attend_event_alike (first second : Event α)
    (same : backend.change first = backend.change second) :
    backend.attend (.event first) desk = backend.attend (.event second) desk := by
  have kinds : first.kind = second.kind := congrArg Prod.fst same
  simp only [attend_event, Store.process, backend.apply_alike first second desk.store same, kinds]

/-- Neither the store nor the counts nor the reply tell two such visits apart. -/
theorem attend_alike (first second : Visit α) (alike : backend.Alike first second) :
    backend.attend first desk = backend.attend second desk := by
  cases alike with
  | request draw first second alike =>
      rw [attend_request, attend_request, backend.respond_alike draw first second desk.store alike]
  | event first second same => exact attend_event_alike backend desk first second same
  | delivery first second same =>
      cases one : (Event.receive first : Except Fault (Event α)) with
      | error fault =>
          cases other : (Event.receive second : Except Fault (Event α)) with
          | ok event => rw [one, other] at same; cases same
          | error fault' =>
              rw [one, other] at same
              rw [attend_unreadable backend desk first fault one,
                attend_unreadable backend desk second fault' other, Except.error.inj same]
      | ok event =>
          cases other : (Event.receive second : Except Fault (Event α)) with
          | error fault => rw [one, other] at same; cases same
          | ok event' =>
              rw [one, other] at same
              rw [attend_readable backend desk first event one,
                attend_readable backend desk second event' other]
              exact attend_event_alike backend desk event event' (Except.ok.inj same)

theorem attendAll_alike (visits others : List (Visit α))
    (alike : List.Forall₂ backend.Alike visits others) :
    (backend.attendAll visits desk).1 = (backend.attendAll others desk).1 ∧
      (backend.attendAll visits desk).2.map Prod.snd =
        (backend.attendAll others desk).2.map Prod.snd := by
  induction alike generalizing desk with
  | nil => exact ⟨rfl, rfl⟩
  | @cons visit other _ _ first rest ih =>
      have same := attend_alike backend desk visit other first
      obtain ⟨last, replies⟩ := ih (backend.attend visit desk).1
      simp only [attendAll, ← same, List.map_cons, last, replies, and_self]

end Roster.Backend
