import Roster.Http.Request
import Roster.Http.Response

/-!
Reads over HTTP, from the side that asks. A status from 200 to 299 promises a
record; any other answer is a fault. A member read that fails, in whatever way,
finds no members.
-/

namespace Roster.Http.Client

open Json (Wire)
open Text (Bytes)

structure Answer where
  status : Nat
  body : Bytes

def Answer.ofResponse (response : Response) (time : String) : Answer :=
  ⟨response.status, response.bytes time⟩

def baseUrl (address : String) : String :=
  String.ofList (address.toList.reverse.dropWhile (· == '/')).reverse

def organizationRequest (id : Id) (options : ReadOptions) : Request where
  method := "GET"
  target := s!"/organization/{id}?delay={options.delay}&faultPercent={options.fault}"

def memberRequest (id : Id) : Request where
  method := "GET"
  target := s!"/member?organizationId={id}"

/-- What stands in a message for the reason why an exchange broke off. That
there is one is promised, its words are not. -/
def transportFault : Fault := .backendUnavailable "<transport error>"

def lateFault (limit : Nat) : Fault :=
  .backendUnavailable s!"Backend did not answer within {limit}ms"

def receive {α : Type} [Wire α] (answer : Answer) : Except Fault α :=
  if 200 ≤ answer.status ∧ answer.status < 300 then
    match Wire.decode? answer.body with
    | some a => .ok a
    | none => .error transportFault
  else
    let body := Text.Utf8.encode (Text.Utf8.decodeLossy answer.body)
    .error (faultOfAnswer answer.status body s!"HTTP {statusLine answer.status}")

/-- Waits for an answer within a limit; one that comes just then still counts. -/
def await {α : Type} [Wire α] (limit : Nat) (answer : Timed Answer) : Timed (Except Fault α) :=
  if limit < answer.after then ⟨limit, .error (lateFault limit)⟩ else answer.map receive

def outcome {α : Type} [Wire α] (limit : Nat) : Option (Timed Answer) → Timed (Except Fault α)
  | none => .now (.error transportFault)
  | some answer => await limit answer

/-- Members are not worth a fault. -/
def membersOf (result : Timed (Except Fault (List Member))) : Timed (List Member) :=
  result.map fun
    | .ok members => members
    | .error _ => []

end Roster.Http.Client
