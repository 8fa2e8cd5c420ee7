import Roster.Event
import Roster.Metrics

/-!
Stores that events are applied to. A store takes a create or a delete as a
whole or refuses it with a fault; a refused one has no state to show, so the
store stays what it was. What a backend does with an event is counted.
-/

namespace Roster

class Store (σ : Type) (α : outParam Type) where
  domain : String
  create : α → σ → Except Fault σ
  delete : Id → σ → Except Fault σ

variable {σ α : Type}

/-- Applies an event. One that creates must carry a payload, and the payload
alone says what is stored; one that deletes must carry none. -/
def Event.apply [Store σ α] (event : Event α) (store : σ) : Except Fault σ :=
  match event.kind, event.payload with
  | .create, some payload => Store.create payload store
  | .create, none =>
    .error (.eventProcessing s!"Invalid event! CREATE for key {event.key} carries no payload")
  | .delete, none => Store.delete event.key store
  | .delete, some _ =>
    .error (.eventProcessing s!"Invalid event! DELETE for key {event.key} carries a payload")

namespace Store

/-- A write that was accepted changes the store and has an answer; any other
leaves the store as it was. -/
def settle {β : Type} (store : σ) (answer : β) : Except Fault σ → σ × Except Fault β
  | .ok next => (next, .ok answer)
  | .error fault => (store, .error fault)

def process [Store σ α] (event : Event α) (store : σ) (metrics : Metrics) :
    σ × Metrics × Except Fault Unit :=
  match event.apply store with
  | .ok next =>
    (next, metrics.bump (.eventsProcessed (domain σ) event.kind.name), .ok ())
  | .error fault =>
    (store, metrics.bump (.eventsFailed (domain σ) fault.kind), .error fault)

/-- What a backend makes of an event as it arrives. One that cannot be read is
not processed and not counted. -/
def receive [Store σ α] [Json.Wire α] (bytes : Text.Bytes) (store : σ) (metrics : Metrics) :
    σ × Metrics × Except Fault Unit :=
  match (Event.receive bytes : Except Fault (Event α)) with
  | .ok event => process event store metrics
  | .error fault => (store, metrics, .error fault)

end Store

/-!
The organizations of one backend: at most one record to a key, kept without an
origin and served with the address of the backend.
-/

structure Organizations where
  address : String
  records : List Organization := []
deriving DecidableEq, Repr

namespace Organizations

def find? (store : Organizations) (id : Id) : Option Organization :=
  store.records.find? (·.id == id)

def size (store : Organizations) : Nat := store.records.length

def taken (id : Id) : Fault := .invalidPayload s!"Organization Id: {id} already exists!"

def missing (id : Id) : Fault := .notFound s!"No organization found for organizationId: {id}"

def kept (record : Organization) : Organization := record.servedBy ""

def create (record : Organization) (store : Organizations) : Except Fault Organizations := do
  Fault.checkId record.id
  if (store.find? record.id).isSome then .error (taken record.id)
  else .ok { store with records := store.records ++ [kept record] }

def delete (id : Id) (store : Organizations) : Except Fault Organizations := do
  Fault.checkId id
  .ok { store with records := store.records.filter (·.id != id) }

instance : Store Organizations Organization where
  domain := "organization"
  create := create
  delete := delete

def add (record : Organization) (store : Organizations) :
    Organizations × Except Fault Organization :=
  Store.settle store (kept record) (store.create record)

def remove (id : Id) (store : Organizations) : Organizations × Except Fault Unit :=
  Store.settle store () (store.delete id)

def serve (id : Id) (store : Organizations) : Except Fault Organization :=
  match store.find? id with
  | some record => .ok (record.servedBy store.address)
  | none => .error (missing id)

def read (store : Organizations) (staging : Staging) (draw : Nat) (id : Id) :
    Timed (Except Fault Organization) :=
  let gate := staging.gate draw id
  ⟨gate.after, gate.value.bind fun _ => store.serve id⟩

end Organizations

/-!
The members of one backend, in the order they came. Within an organization no
two have the same key. They are kept without an origin and served with the
address of the backend.
-/

structure Members where
  address : String
  records : List Member := []
deriving DecidableEq, Repr

namespace Members

def under (store : Members) (id : Id) : List Member :=
  store.records.filter (·.organizationId == id)

def size (store : Members) : Nat := store.records.length

def taken (organizationId memberId : Id) : Fault :=
  .invalidPayload
    s!"Member with organizationId: {organizationId} and memberId: {memberId} already exists!"

def kept (record : Member) : Member := record.servedBy ""

def has (store : Members) (record : Member) : Bool :=
  (store.under record.organizationId).any (·.summary.memberId == record.summary.memberId)

def create (record : Member) (store : Members) : Except Fault Members := do
  Fault.checkId record.organizationId
  if store.has record then .error (taken record.organizationId record.summary.memberId)
  else .ok { store with records := store.records ++ [kept record] }

def delete (id : Id) (store : Members) : Except Fault Members := do
  Fault.checkId id
  .ok { store with records := store.records.filter (·.organizationId != id) }

instance : Store Members Member where
  domain := "member"
  create := create
  delete := delete

def add (record : Member) (store : Members) : Members × Except Fault Member :=
  Store.settle store (kept record) (store.create record)

def remove (id : Id) (store : Members) : Members × Except Fault Unit :=
  Store.settle store () (store.delete id)

def serve (id : Id) (store : Members) : List Member :=
  (store.under id).map (·.servedBy store.address)

/-- A read while nothing else goes on. An organization without members has an
empty list of them. -/
def read (store : Members) (staging : Staging) (draw : Nat) (id : Id) :
    Timed (Except Fault (List Member)) :=
  let gate := staging.gate draw id
  ⟨gate.after, gate.value.map fun _ => store.serve id⟩

end Members
end Roster
