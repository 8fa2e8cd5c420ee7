import Roster.Bus

/-!
The composite service. A write is sent as one change after the other, and what
was sent stays sent when a later change fails. A read asks both backends at
once: without the organization there is no answer, without members there is one
with none.
-/

namespace Roster

open Number (Double)

/-- What a composite service stands among; `σ` is the state of all of it. -/
structure Composite (σ : Type) where
  address : String
  organization : Id → ReadOptions → σ → σ × Timed (Except Fault Organization)
  members : Id → σ → σ × Timed (List Member)
  emit : Emission → σ → σ × Except Channel.Failure Unit
  record : (Metrics → Metrics) → σ → σ

namespace Composite

variable {σ : Type}

def sendAll (emit : Emission → σ → σ × Except Channel.Failure Unit) :
    List Emission → σ → σ × Except Fault Unit
  | [], state => (state, .ok ())
  | emission :: rest, state =>
    match emit emission state with
    | (state, .ok ()) => sendAll emit rest state
    | (state, .error failure) => (state, .error failure.toFault)

def conclude {α : Type} (composite : Composite σ) (operation : String) (state : σ)
    (result : Except Fault α) : σ :=
  composite.record (·.bump (.compositeRequests operation (outcomeLabel result))) state

/-- A key that cannot be stored is refused before anything is sent. -/
def write (composite : Composite σ) (aggregate : Aggregate) (state : σ) : σ × Except Fault Unit :=
  match Fault.checkId aggregate.organizationId with
  | .error fault => (state, .error fault)
  | .ok () => sendAll composite.emit aggregate.emissions state

def create (composite : Composite σ) (aggregate : Aggregate) (state : σ) :
    σ × Except Fault Unit :=
  let (state, result) := composite.write aggregate state
  (composite.conclude "create" state result, result)

def delete (composite : Composite σ) (id : Id) (state : σ) : σ × Except Fault Unit :=
  let (state, result) := sendAll composite.emit (Emission.removal id) state
  (composite.conclude "delete" state result, result)

/-- What a read answers. The first member speaks for where all were served. -/
def view (address : String) (organization : Organization) (members : List Member) : Aggregate where
  organizationId := organization.id
  name := organization.name
  country := organization.country
  members := some (members.map Member.summary)
  serviceAddresses := some {
    composite := address
    organization := organization.originAddress
    member := (members.head?.map Member.originAddress).getD "" }

/-- Asks for both parts. An organization that fails at once keeps the members
from being asked for; one that fails later ends the read then and there. -/
def readBoth (composite : Composite σ) (id : Id) (options : ReadOptions) (state : σ) :
    σ × Timed (Except Fault Aggregate) :=
  let (state, organization) := composite.organization id options state
  match organization.value with
  | .error fault =>
    if organization.after = 0 then (state, .now (.error fault))
    else ((composite.members id state).1, ⟨organization.after, .error fault⟩)
  | .ok found =>
    let (state, members) := composite.members id state
    (state, ⟨max organization.after members.after,
      .ok (view composite.address found members.value)⟩)

/-- Milliseconds as seconds: whole seconds and the rest in nanoseconds, each rounded to a double
before they are added and rounded again. This is not always the double next to the exact value. -/
def seconds (duration : Nat) : Double :=
  (Double.ofNat (duration / 1000)).add
    (Double.ofRatio false (duration % 1000 * 1000000) 1000000000)

def read (composite : Composite σ) (id : Id) (options : ReadOptions) (state : σ) :
    σ × Timed (Except Fault Aggregate) :=
  match Fault.checkId id with
  | .error fault => (state, .now (.error fault))
  | .ok () => composite.readBoth id options state

def get (composite : Composite σ) (id : Id) (options : ReadOptions) (state : σ) :
    σ × Timed (Except Fault Aggregate) :=
  let (state, result) := composite.read id options state
  let state := composite.record
    (·.observeRead (outcomeLabel result.value) (seconds result.after)) state
  (composite.conclude "get" state result.value, result)

end Composite
end Roster
