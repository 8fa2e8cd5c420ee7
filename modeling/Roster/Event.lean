import Roster.Calendar.Moment
import Roster.Fault
import Roster.Record

/-!
Events: one intent to create or delete what stands under a key. An event built
in process carries a payload exactly when it creates; one that was received may
be ill formed, and then the backend refuses it.
-/

namespace Roster

open Json
open Calendar (Moment)
open Text (Bytes)

inductive EventKind where
  | create
  | delete
deriving DecidableEq, Repr

namespace EventKind

def name : EventKind → String
  | .create => "CREATE"
  | .delete => "DELETE"

def ofName? (name : String) : Option EventKind :=
  if name = "CREATE" then some .create else if name = "DELETE" then some .delete else none

instance : Wire EventKind where
  toValue kind := .ofString kind.name
  ofValue? value := value.name?.bind ofName?

end EventKind

structure Event (α : Type) where
  kind : EventKind
  key : Id
  payload : Option α
  createdAt : Moment
deriving DecidableEq, Repr

namespace Event

variable {α : Type}

def creating (key : Id) (payload : α) (now : Moment) : Event α := ⟨.create, key, some payload, now⟩

def deleting (key : Id) (now : Moment) : Event α := ⟨.delete, key, none, now⟩

/-- Two events describe the same change whenever they were built. -/
def sameChange [DecidableEq α] (a b : Event α) : Bool :=
  a.kind = b.kind && a.key = b.key && a.payload = b.payload

def fieldNames : List String := ["kind", "key", "payload", "createdAt"]

def momentValue? (value : Value) : Option Moment := do
  let text ← value.string?
  Moment.read? text

def ofMoment (moment : Moment) : Value := .ofString moment.text

instance [Wire α] : Wire (Event α) where
  toValue event := .record [("kind", Wire.toValue event.kind), ("key", .ofInt32 event.key),
    ("payload", event.payload.elim .null Wire.toValue), ("createdAt", ofMoment event.createdAt)]
  ofValue? value := do
    match ← value.shape? fieldNames with
    | [kind, key, payload, createdAt] =>
      return {
        kind := ← Value.required? Wire.ofValue? kind
        key := ← Value.required? Value.int32? key
        payload := ← Value.optional? Wire.ofValue? payload
        createdAt := ← Value.required? momentValue? createdAt }
    | _ => none

def receive [Wire α] (bytes : Bytes) : Except Fault (Event α) :=
  match Wire.decode? bytes with
  | some event => .ok event
  | none => .error (.eventProcessing s!"Invalid event! {unreadableDetail}")

end Event

/-!
Changes that a composite service asks its two backends for. A change becomes an
event once it is sent; writing or deleting a whole organization is a list of
changes, in the order in which they are to be sent.
-/

open Calendar (Moment)

inductive Change (α : Type) where
  | create (key : Id) (payload : α)
  | delete (key : Id)
deriving DecidableEq, Repr

namespace Change

variable {α : Type}

def event (change : Change α) (now : Moment) : Event α :=
  match change with
  | .create key payload => .creating key payload now
  | .delete key => .deleting key now

def kind : Change α → EventKind
  | .create .. => .create
  | .delete _ => .delete

end Change

inductive Emission where
  | organization (change : Change Organization)
  | member (change : Change Member)
deriving DecidableEq, Repr

def MemberSummary.under (summary : MemberSummary) (organizationId : Id) : Member :=
  { organizationId, summary }

def Aggregate.emissions (aggregate : Aggregate) : List Emission :=
  .organization (.create aggregate.organizationId aggregate.organization) ::
    aggregate.memberList.map fun summary =>
      .member (.create aggregate.organizationId (summary.under aggregate.organizationId))

/-- The organization first, then all of its members at once. -/
def Emission.removal (id : Id) : List Emission := [.organization (.delete id), .member (.delete id)]

end Roster
