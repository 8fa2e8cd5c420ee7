import Roster.Http.Routes
import Roster.Proofs.StoreRecords

/-!
What is asked of a backend, whichever way it came. A request or an event comes down to an
errand: a read of one key, or a write that creates a record or deletes what is under a key. A
backend looks at nothing else of it, and what comes down to no errand is turned away.
-/

namespace Roster

open Http (Request Response)

variable {σ α ρ : Type}

inductive Store.Write (α : Type) where
  | create (record : α)
  | delete (id : Id)
deriving DecidableEq, Repr

namespace Store.Write

def apply [Store σ α] (write : Write α) (store : σ) : Except Fault σ :=
  match write with
  | .create record => Store.create record store
  | .delete id => Store.delete id store

end Store.Write

namespace Event

def write? (event : Event α) : Option (Store.Write α) :=
  match event.kind, event.payload with
  | .create, some record => some (.create record)
  | .delete, none => some (.delete event.key)
  | _, _ => none

variable [Store σ α] (event : Event α) (store : σ)

theorem apply_write (write : Store.Write α) (told : event.write? = some write) :
    event.apply store = write.apply store := by
  obtain ⟨kind, key, payload, now⟩ := event
  cases kind <;> cases payload <;> cases told <;> rfl

theorem apply_none (illFormed : event.write? = none) :
    ∃ message, event.apply store = .error (.eventProcessing message) := by
  obtain ⟨kind, key, payload, now⟩ := event
  cases kind <;> cases payload
  · exact ⟨_, rfl⟩
  · cases illFormed
  · cases illFormed
  · exact ⟨_, rfl⟩

end Event

inductive Errand (α : Type) where
  | read (id : Id) (staging : Staging)
  | write (write : Store.Write α)
deriving DecidableEq, Repr

namespace Http

def Response.isSuccess (response : Response) : Bool := response.status == 200

theorem Response.ofFault_refuses (path : String) (fault : Fault) :
    (ofFault path fault).isSuccess = false := by
  cases fault <;> rfl

/-- Two requests that differ at most in how a record is written down, and in what of it is not
kept. -/
structure Request.Alike [Json.Wire α] (kept : α → α) (first second : Request) : Prop where
  method : first.method = second.method
  target : first.target = second.target
  record : (first.readJson : Except Fault α).map kept = (second.readJson : Except Fault α).map kept

variable [Json.Wire α] {kept : α → α} {first second : Request}

theorem Request.Alike.path_eq (alike : Request.Alike kept first second) :
    first.path = second.path := by
  rw [Request.path, Request.path, Request.place, Request.place, alike.target]

theorem Request.Alike.pieces_eq (alike : Request.Alike kept first second) :
    first.pieces = second.pieces := by
  rw [Request.pieces, Request.pieces, alike.path_eq]

theorem Request.Alike.fields_eq (alike : Request.Alike kept first second) :
    first.fields = second.fields := by
  rw [Request.fields, Request.fields, Request.query, Request.query, Request.place, Request.place,
    alike.target]

end Http

/-! ### Errands of requests -/

namespace Errand

def carried [Json.Wire α] (request : Request) : Option (Errand α) :=
  (request.readJson : Except Fault α).toOption.map fun record => .write (.create record)

def reading (id : Option Id) (staging : Option Staging) : Option (Errand α) :=
  match id, staging with
  | some id, some staging => some (.read id staging)
  | _, _ => none

def deleting (id : Option Id) : Option (Errand α) := id.map fun id => .write (.delete id)

def write? : Errand α → Option (Store.Write α)
  | .read _ _ => none
  | .write asked => some asked

theorem reading_write (id : Option Id) (staging : Option Staging) :
    (reading id staging : Option (Errand α)).bind write? = none := by
  cases id <;> cases staging <;> rfl

end Errand

/-- One kind of backend: what it keeps of a record, what a read gives, how it answers requests,
and what errand it sees in one. -/
structure Backend.Service (σ α ρ : Type) where
  kept : α → α
  read : σ → Staging → Nat → Id → Timed (Except Fault ρ)
  respond : Nat → Request → σ → σ × Timed Response
  errand? : Request → Option (Errand α)

namespace Backend.Service

variable [Store σ α] [Json.Wire α] [Json.Wire ρ] (service : Service σ α ρ)

def carryOut (draw : Nat) (path : String) (store : σ) : Errand α → σ × Timed Response
  | .read id staging => (store, (service.read store staging draw id).map (.ofRead path))
  | .write (.create record) =>
    let (store, result) := Store.settle store (service.kept record) (Store.create record store)
    (store, .now (.ofRead path result))
  | .write (.delete id) =>
    let (store, result) := Store.settle store () (Store.delete id store)
    (store, .now (.ofWrite path result))

variable (draw : Nat) (path : String) (store : σ)

theorem carryOut_create (record : α) :
    let settled := Store.settle store (service.kept record) (Store.create record store)
    service.carryOut draw path store (.write (.create record)) =
      (settled.1, .now (.ofRead path settled.2)) := rfl

theorem carryOut_delete (id : Id) :
    let settled := Store.settle store () (Store.delete id store)
    service.carryOut draw path store (.write (.delete id)) =
      (settled.1, .now (.ofWrite path settled.2)) := rfl

inductive Answered : Option (Errand α) → σ × Timed Response → Prop where
  | carriedOut (errand : Errand α) :
      Answered (some errand) (service.carryOut draw path store errand)
  | turnedAway (response : Response) (refused : response.isSuccess = false) :
      Answered none (store, .now response)

theorem answered_errand (errand : Errand α) (answer : σ × Timed Response)
    (answered : service.Answered draw path store (some errand) answer) :
    answer = service.carryOut draw path store errand := by
  cases answered
  rfl

theorem answered_none (answer : σ × Timed Response)
    (answered : service.Answered draw path store none answer) :
    ∃ response : Response, answer = (store, .now response) ∧ response.isSuccess = false := by
  cases answered with
  | turnedAway response refused => exact ⟨response, rfl, refused⟩

end Backend.Service

structure Backend (σ α ρ : Type) [Store σ α] [Json.Wire α] [Json.Wire ρ] extends
    Backend.Service σ α ρ where
  create_kept : ∀ record (store : σ), Store.create (kept record) store = Store.create record store
  answered : ∀ draw request store, toService.Answered draw request.path store (errand? request)
    (respond draw request store)
  errand_get : ∀ request, request.method = "GET" → (errand? request).bind Errand.write? = none
  respond_alike : ∀ draw first second store, Request.Alike kept first second →
    respond draw first store = respond draw second store

namespace Backend

variable [Store σ α] [Json.Wire α] [Json.Wire ρ] (backend : Backend σ α ρ) (draw : Nat)
  (request : Request) (store : σ)

theorem respond_errand (errand : Errand α) (asked : backend.errand? request = some errand) :
    backend.respond draw request store = backend.carryOut draw request.path store errand := by
  have answered := backend.answered draw request store
  rw [asked] at answered
  exact backend.answered_errand draw request.path store errand _ answered

theorem respond_none (asked : backend.errand? request = none) :
    ∃ response : Response, backend.respond draw request store = (store, .now response) ∧
      response.isSuccess = false := by
  have answered := backend.answered draw request store
  rw [asked] at answered
  exact backend.answered_none draw request.path store _ answered

end Backend

/-! ### Organizations -/

namespace Organizations

def errand? (request : Request) : Option (Errand Organization) :=
  match request.pieces.map String.ofList, request.pieces.getLast? with
  | ["", "organization"], _ => if request.method = "POST" then Errand.carried request else none
  | ["", "organization", _], some piece@(_ :: _) =>
    if request.method = "GET" then
      Errand.reading (Http.key? piece) (Http.staging? request.fields)
    else if request.method = "DELETE" then Errand.deleting (Http.key? piece)
    else none
  | _, _ => none

abbrev service : Backend.Service Organizations Organization Organization :=
  { kept, read, respond, errand? }

variable (draw : Nat) (request : Request) (piece : List Char) (store : Organizations)

theorem create_kept (record : Organization) : create (kept record) store = create record store := by
  rw [create, create]
  rfl

theorem add_kept (record : Organization) : store.add (kept record) = store.add record := by
  rw [add, add, create_kept]
  rfl

theorem respondCreate_answered : service.Answered draw request.path store
    (Errand.carried request) (respondCreate request store) := by
  rw [Errand.carried, respondCreate]
  cases (request.readJson : Except Fault Organization) with
  | error fault => exact .turnedAway _ (Response.ofFault_refuses request.path fault)
  | ok record => exact .carriedOut (.write (.create record))

theorem respondRead_answered : service.Answered draw request.path store
    (Errand.reading (Http.key? piece) (Http.staging? request.fields))
    (store, respondRead draw request piece store) := by
  rw [respondRead]
  cases Http.key? piece with
  | none => exact .turnedAway _ rfl
  | some id =>
      cases Http.staging? request.fields with
      | none => exact .turnedAway _ rfl
      | some staging => exact .carriedOut (.read id staging)

theorem respondDelete_answered : service.Answered draw request.path store
    (Errand.deleting (Http.key? piece)) (respondDelete request piece store) := by
  rw [respondDelete]
  cases Http.key? piece with
  | none => exact .turnedAway _ rfl
  | some id => exact .carriedOut (.write (.delete id))

theorem respond_answered : service.Answered draw request.path store (errand? request)
    (respond draw request store) := by
  unfold errand?
  split
  · next root =>
    simp only [respond, root]
    split
    · exact respondCreate_answered draw request store
    · exact .turnedAway .wrongMethod rfl
  · next keyed last =>
    simp only [respond, keyed, last]
    split
    · exact respondRead_answered draw request _ store
    · split
      · exact respondDelete_answered draw request _ store
      · exact .turnedAway .wrongMethod rfl
  · next notRoot notKeyed =>
    unfold respond
    split
    · next root => exact (notRoot root).elim
    · next keyed last => exact (notKeyed _ _ _ keyed last).elim
    · exact .turnedAway .unknown rfl

theorem respond_read (id : Id) (staging : Staging)
    (asked : errand? request = some (.read id staging)) : respond draw request store =
      (store, (store.read staging draw id).map (.ofRead request.path)) := by
  have answered := respond_answered draw request store
  rw [asked] at answered
  exact service.answered_errand draw request.path store _ _ answered

theorem errand_get (get : request.method = "GET") :
    (errand? request).bind Errand.write? = none := by
  unfold errand?
  rw [get]
  split
  · rfl
  · rw [if_pos rfl]
    exact Errand.reading_write _ _
  · rfl

theorem respondCreate_kept : respondCreate request store =
    match (request.readJson : Except Fault Organization).map kept with
    | .error fault => (store, .now (.ofFault request.path fault))
    | .ok record =>
      let (store, result) := store.add record
      (store, .now (.ofRead request.path result)) := by
  rw [respondCreate]
  cases (request.readJson : Except Fault Organization) with
  | error fault => rfl
  | ok record => simp only [Except.map, add_kept]

theorem respond_alike (first second : Request) (alike : Request.Alike kept first second) :
    respond draw first store = respond draw second store := by
  unfold respond respondRead respondDelete
  rw [alike.pieces_eq, alike.fields_eq, alike.method, alike.path_eq, respondCreate_kept,
    respondCreate_kept, alike.record, alike.path_eq]

def backend : Backend Organizations Organization Organization where
  kept := kept
  read := read
  respond := respond
  errand? := errand?
  create_kept record store := create_kept store record
  answered := respond_answered
  errand_get := errand_get
  respond_alike draw first second store := respond_alike draw store first second

end Organizations

/-! ### Members -/

namespace Members

def errand? (request : Request) : Option (Errand Member) :=
  match request.pieces.map String.ofList with
  | ["", "member"] =>
    if request.method = "GET" then
      Errand.reading (Http.organizationId? request.fields) (Http.staging? request.fields)
    else if request.method = "POST" then Errand.carried request
    else if request.method = "DELETE" then Errand.deleting (Http.organizationId? request.fields)
    else none
  | _ => none

abbrev service : Backend.Service Members Member (List Member) := { kept, read, respond, errand? }

variable (draw : Nat) (request : Request) (store : Members)

theorem create_kept (record : Member) : create (kept record) store = create record store := by
  rw [create, create]
  rfl

theorem add_kept (record : Member) : store.add (kept record) = store.add record := by
  rw [add, add, create_kept]
  rfl

theorem respondCreate_answered : service.Answered draw request.path store
    (Errand.carried request) (respondCreate request store) := by
  rw [Errand.carried, respondCreate]
  cases (request.readJson : Except Fault Member) with
  | error fault => exact .turnedAway _ (Response.ofFault_refuses request.path fault)
  | ok record => exact .carriedOut (.write (.create record))

theorem respondRead_answered : service.Answered draw request.path store
    (Errand.reading (Http.organizationId? request.fields) (Http.staging? request.fields))
    (store, respondRead draw request store) := by
  rw [respondRead]
  cases Http.organizationId? request.fields with
  | none => exact .turnedAway _ rfl
  | some id =>
      cases Http.staging? request.fields with
      | none => exact .turnedAway _ rfl
      | some staging => exact .carriedOut (.read id staging)

theorem respondDelete_answered : service.Answered draw request.path store
    (Errand.deleting (Http.organizationId? request.fields)) (respondDelete request store) := by
  rw [respondDelete]
  cases Http.organizationId? request.fields with
  | none => exact .turnedAway _ rfl
  | some id => exact .carriedOut (.write (.delete id))

theorem respond_answered : service.Answered draw request.path store (errand? request)
    (respond draw request store) := by
  unfold errand?
  split
  · next root =>
    simp only [respond, root]
    split
    · exact respondRead_answered draw request store
    · split
      · exact respondCreate_answered draw request store
      · split
        · exact respondDelete_answered draw request store
        · exact .turnedAway .wrongMethod rfl
  · next notRoot =>
    unfold respond
    split
    · next root => exact (notRoot root).elim
    · exact .turnedAway .unknown rfl

theorem respond_read (id : Id) (staging : Staging)
    (asked : errand? request = some (.read id staging)) : respond draw request store =
      (store, (store.read staging draw id).map (.ofRead request.path)) := by
  have answered := respond_answered draw request store
  rw [asked] at answered
  exact service.answered_errand draw request.path store _ _ answered

theorem errand_get (get : request.method = "GET") :
    (errand? request).bind Errand.write? = none := by
  unfold errand?
  rw [get]
  split
  · rw [if_pos rfl]
    exact Errand.reading_write _ _
  · rfl

theorem respondCreate_kept : respondCreate request store =
    match (request.readJson : Except Fault Member).map kept with
    | .error fault => (store, .now (.ofFault request.path fault))
    | .ok record =>
      let (store, result) := store.add record
      (store, .now (.ofRead request.path result)) := by
  rw [respondCreate]
  cases (request.readJson : Except Fault Member) with
  | error fault => rfl
  | ok record => simp only [Except.map, add_kept]

theorem respond_alike (first second : Request) (alike : Request.Alike kept first second) :
    respond draw first store = respond draw second store := by
  unfold respond respondRead respondDelete
  rw [alike.pieces_eq, alike.fields_eq, alike.method, alike.path_eq, respondCreate_kept,
    respondCreate_kept, alike.record, alike.path_eq]

def backend : Backend Members Member (List Member) where
  kept := kept
  read := read
  respond := respond
  errand? := errand?
  create_kept record store := create_kept store record
  answered := respond_answered
  errand_get := errand_get
  respond_alike draw first second store := respond_alike draw store first second

end Members
end Roster
