/-!
What can go wrong with a request, on whichever side it is noticed, how long one waits for an
answer, and how trouble is staged. Each kind of fault has one name and one HTTP status; the
message travels unchanged.
-/

namespace Roster

inductive Fault where
  | notFound (message : String)
  | invalidPayload (message : String)
  | backendUnavailable (message : String)
  | eventProcessing (message : String)
deriving DecidableEq, Repr

namespace Fault

def message : Fault → String
  | .notFound message | .invalidPayload message | .backendUnavailable message
  | .eventProcessing message => message

def kind : Fault → String
  | .notFound _ => "not_found"
  | .invalidPayload _ => "invalid_payload"
  | .backendUnavailable _ => "backend_unavailable"
  | .eventProcessing _ => "event_processing"

def status : Fault → Nat
  | .notFound _ => 404
  | .invalidPayload _ => 422
  | .backendUnavailable _ => 503
  | .eventProcessing _ => 500

def isTransient : Fault → Bool
  | .backendUnavailable _ => true
  | _ => false

def invalidId (id : Int32) : Fault := .invalidPayload s!"Invalid organizationId: {id}"

def checkId (id : Int32) : Except Fault Unit :=
  if id < 1 then .error (invalidId id) else .ok ()

end Fault

/-- What stands in a message for the reason why a text could not be read. That
there is one is promised, its words are not. -/
def unreadableDetail : String := "<detail>"

def outcomeLabel {α : Type} : Except Fault α → String
  | .ok _ => "success"
  | .error fault => fault.kind

/-!
Values that are not there at once. Durations are in milliseconds throughout, and
no wait lasts longer than thirty years.
-/

def longestWait : Nat := 30 * 365 * 86400 * 1000

/-- How long a wait for a duration lasts, be it a pause or a deadline: no longer than thirty years
of 365 days. -/
def waitFor (duration : Nat) : Nat := min duration longestWait

structure Timed (α : Type) where
  after : Nat
  value : α
deriving DecidableEq, Repr

namespace Timed

variable {α β : Type}

def now (value : α) : Timed α := ⟨0, value⟩

def map (f : α → β) (timed : Timed α) : Timed β := ⟨timed.after, f timed.value⟩

end Timed

/-!
What a read asks for beyond the record. It may have the backend stage trouble,
so that the other side can be tried against a slow or failing one, and it may
bring a time limit of its own.
-/

structure Staging where
  delay : UInt64 := 0
  fault : UInt32 := 0
deriving DecidableEq, Repr

namespace Staging

def pause (staging : Staging) : Nat := waitFor (staging.delay.toNat * 1000)

/-- Whether a fault strikes. Chance draws a number from 1 to 100; up to the
asked percentage it strikes. -/
def strikes (staging : Staging) (draw : Nat) : Bool := draw ≤ staging.fault.toNat

def fault? (staging : Staging) (draw : Nat) : Except Fault Unit :=
  if staging.strikes draw then .error (.backendUnavailable "Something went wrong...") else .ok ()

/-- What a read of a key goes through before it sees the store. A key that
cannot be stored is refused at once. -/
def gate (staging : Staging) (draw : Nat) (id : Int32) : Timed (Except Fault Unit) :=
  match Fault.checkId id with
  | .error fault => ⟨0, .error fault⟩
  | .ok () => ⟨staging.pause, staging.fault? draw⟩

end Staging

structure ReadOptions extends Staging where
  timeout : Option Nat := none
deriving DecidableEq, Repr

end Roster
