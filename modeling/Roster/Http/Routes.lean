import Roster.Composite
import Roster.Http.Request
import Roster.Http.Response
import Roster.Panel

/-!
What the services of a process answer over HTTP. The organization backend: `POST /organization`,
and `GET` and `DELETE` under `/organization/` and a key.
-/

namespace Roster.Organizations

open Http (Request Response)

def respondCreate (request : Request) (store : Organizations) : Organizations × Timed Response :=
  match (request.readJson : Except Fault Organization) with
  | .error fault => (store, .now (.ofFault request.path fault))
  | .ok record =>
    let (store, result) := store.add record
    (store, .now (.ofRead request.path result))

def respondRead (draw : Nat) (request : Request) (piece : List Char) (store : Organizations) :
    Timed Response :=
  match Http.key? piece, Http.staging? request.fields with
  | some id, some staging => (store.read staging draw id).map (.ofRead request.path)
  | _, _ => .now (.mismatch request.path)

def respondDelete (request : Request) (piece : List Char) (store : Organizations) :
    Organizations × Timed Response :=
  match Http.key? piece with
  | some id =>
    let (store, result) := store.remove id
    (store, .now (.ofWrite request.path result))
  | none => (store, .now (.mismatch request.path))

def respond (draw : Nat) (request : Request) (store : Organizations) :
    Organizations × Timed Response :=
  match request.pieces.map String.ofList, request.pieces.getLast? with
  | ["", "organization"], _ =>
    if request.method = "POST" then respondCreate request store else (store, .now .wrongMethod)
  | ["", "organization", _], some piece@(_ :: _) =>
    if request.method = "GET" then (store, respondRead draw request piece store)
    else if request.method = "DELETE" then respondDelete request piece store
    else (store, .now .wrongMethod)
  | _, _ => (store, .now .unknown)

end Roster.Organizations

/-!
The member backend over HTTP: `GET`, `POST` and `DELETE` under `/member`, the key
of the organization being a field of the query.
-/

namespace Roster.Members

open Http (Request Response)

def respondCreate (request : Request) (store : Members) : Members × Timed Response :=
  match (request.readJson : Except Fault Member) with
  | .error fault => (store, .now (.ofFault request.path fault))
  | .ok record =>
    let (store, result) := store.add record
    (store, .now (.ofRead request.path result))

def respondRead (draw : Nat) (request : Request) (store : Members) : Timed Response :=
  match Http.organizationId? request.fields, Http.staging? request.fields with
  | some id, some staging => (store.read staging draw id).map (.ofRead request.path)
  | _, _ => .now (.mismatch request.path)

def respondDelete (request : Request) (store : Members) : Members × Timed Response :=
  match Http.organizationId? request.fields with
  | some id =>
    let (store, result) := store.remove id
    (store, .now (.ofWrite request.path result))
  | none => (store, .now (.mismatch request.path))

def respond (draw : Nat) (request : Request) (store : Members) : Members × Timed Response :=
  match request.pieces.map String.ofList with
  | ["", "member"] =>
    if request.method = "GET" then (store, respondRead draw request store)
    else if request.method = "POST" then respondCreate request store
    else if request.method = "DELETE" then respondDelete request store
    else (store, .now .wrongMethod)
  | _ => (store, .now .unknown)

end Roster.Members

/-!
The composite service over HTTP: `POST /aggregate`, and `GET` and `DELETE` under
`/aggregate/` and a key.
-/

namespace Roster.Composite

open Http (Request Response)

variable {σ : Type}

def respondCreate (composite : Composite σ) (request : Request) (state : σ) :
    σ × Timed Response :=
  match (request.readJson : Except Fault Aggregate) with
  | .error fault => (state, .now (.ofFault request.path fault))
  | .ok aggregate =>
    let (state, result) := composite.create aggregate state
    (state, .now (.ofWrite request.path result))

def respondRead (composite : Composite σ) (request : Request) (piece : List Char) (state : σ) :
    σ × Timed Response :=
  match Http.key? piece, Http.options? request.fields with
  | some id, some options =>
    let (state, result) := composite.get id options state
    (state, result.map (.ofRead request.path))
  | _, _ => (state, .now (.mismatch request.path))

def respondDelete (composite : Composite σ) (request : Request) (piece : List Char) (state : σ) :
    σ × Timed Response :=
  match Http.key? piece with
  | some id =>
    let (state, result) := composite.delete id state
    (state, .now (.ofWrite request.path result))
  | none => (state, .now (.mismatch request.path))

def respond (composite : Composite σ) (request : Request) (state : σ) : σ × Timed Response :=
  match request.pieces.map String.ofList, request.pieces.getLast? with
  | ["", "aggregate"], _ =>
    if request.method = "POST" then respondCreate composite request state
    else (state, .now .wrongMethod)
  | ["", "aggregate", _], some piece@(_ :: _) =>
    if request.method = "GET" then respondRead composite request piece state
    else if request.method = "DELETE" then respondDelete composite request piece state
    else (state, .now .wrongMethod)
  | _, _ => (state, .now .unknown)

end Roster.Composite

/-!
What a process tells about itself over HTTP: its metrics, and the state of its
breakers. An open breaker does not make a process unhealthy, only degraded.
-/

namespace Roster.Panel

open Http (Request Response)
open Json (Value)

def degraded (panel : Panel) : List (String × Phase) :=
  panel.snapshot.filter fun entry => entry.2 ≠ .closed

def health (panel : Panel) (service : String) : Value :=
  .record [
    ("breakers", .record (panel.snapshot.map fun (name, phase) => (name, .ofString phase.name))),
    ("details", .list (panel.degraded.map fun (name, phase) =>
      .ofString s!"{name}: circuit breaker {phase.name}")),
    ("service", .ofString service),
    ("status", .ofString (if panel.degraded.isEmpty then "healthy" else "degraded"))]

def exposition (panel : Panel) : String :=
  String.join (panel.metrics.lines.map (· ++ "\n"))

def respond (service : String) (request : Request) (panel : Panel) : Response :=
  let answer (response : Response) : Response :=
    if request.method = "GET" then response else .unknown
  match request.pieces.map String.ofList with
  | ["", "metrics"] =>
    answer { status := 200, body := .text "text/plain; version=0.0.4" panel.exposition }
  | ["", "health"] => answer { status := 200, body := .value (panel.health service) }
  | _ => .unknown

end Roster.Panel
