import Roster.Http.Client
import Roster.Proofs.WireRecords
import Roster.Reading

/-!
What becomes of a fault between the service that answers with it and the client that asked.
The message and the kind come through whatever the path, the time and the message are; only a
failure of the processing looks like an unavailable backend on the other side. Breakers and
repeated attempts therefore see the same faults as if they stood in the service.
-/

namespace Roster

open Calendar (Moment)
open Json (Wire)

namespace Fault

/-- The fault that reaches the client of a service. There is no kind for a failure within the
service, so it stands for an outage. -/
def acrossHttp : Fault → Fault
  | .eventProcessing message => .backendUnavailable message
  | fault => fault

def isOutage : Fault → Bool
  | .backendUnavailable _ | .eventProcessing _ => true
  | .notFound _ | .invalidPayload _ => false

theorem isTransient_acrossHttp (fault : Fault) :
    fault.acrossHttp.isTransient = fault.isOutage := by
  cases fault <;> rfl

/-- No fault is answered as a success. -/
theorem status_unsuccessful (fault : Fault) : ¬(200 ≤ fault.status ∧ fault.status < 300) := by
  cases fault <;> simp [status]

end Fault

namespace Http

theorem write_toValueAt (path message : String) (time : Moment) :
    (Problem.toValueAt path message time.text).write =
      Wire.encode ({ path, message, timestamp := time } : Problem) := rfl

theorem problem_isText (path message : String) (time : Moment) :
    Text.Utf8.IsText (Problem.toValueAt path message time.text).write := by
  rw [write_toValueAt]
  exact Wire.encode_isText _

theorem faultOfAnswer_problem (status : Nat) (path message : String) (time : Moment)
    (fallback : String) :
    faultOfAnswer status (Problem.toValueAt path message time.text).write fallback =
      if status = 404 then .notFound message
      else if status = 422 then .invalidPayload message
      else .backendUnavailable message := by
  rw [faultOfAnswer, write_toValueAt, Wire.decode_encode]
  rfl

theorem faultOfAnswer_ofFault (path : String) (fault : Fault) (time : Moment)
    (fallback : String) :
    faultOfAnswer (Response.ofFault path fault).status
      ((Response.ofFault path fault).bytes time.text) fallback = fault.acrossHttp := by
  rw [Response.ofFault, Response.bytes, faultOfAnswer_problem]
  cases fault <;> rfl

namespace Client

variable {α : Type} [Wire α]

/-- The text of a body is what was written into it, so nothing is lost on the way to its reader. -/
theorem receive_ofFault (path : String) (fault : Fault) (time : Moment) :
    (receive (Answer.ofResponse (Response.ofFault path fault) time.text) : Except Fault α) =
      .error fault.acrossHttp := by
  have unsuccessful : ¬(200 ≤ (Answer.ofResponse (Response.ofFault path fault) time.text).status ∧
      (Answer.ofResponse (Response.ofFault path fault) time.text).status < 300) :=
    fault.status_unsuccessful
  have body : Text.Utf8.encode (Text.Utf8.decodeLossy
      (Answer.ofResponse (Response.ofFault path fault) time.text).body) =
      (Response.ofFault path fault).bytes time.text :=
    Text.Utf8.encode_decodeLossy _ (problem_isText path fault.message time)
  rw [receive, if_neg unsuccessful, body]
  exact congrArg Except.error (faultOfAnswer_ofFault path fault time _)

end Client
end Http

namespace Panel

theorem conclude_acrossHttp {α : Type} (panel : Panel) (place now : Nat) (fault : Fault) :
    panel.conclude place now Fault.isTransient (.error fault.acrossHttp : Except Fault α) =
      if fault.isOutage then panel.fail place now else panel.succeed place := by
  rw [conclude, Fault.isTransient_acrossHttp]

end Panel

namespace Reading

/-- A reading goes on after an outage of the service as long as attempts are left, and ends with
any other fault. -/
theorem conclude_acrossHttp (now : Nat) (panel : Panel) (reading : Reading) (number delay : Nat)
    (fault : Fault) :
    (reading.conclude now panel number delay (.error fault.acrossHttp)).2 =
      if fault.isOutage && !reading.guard.backoff.isLast number then
        { reading with stage := .pausing number delay (now + waitFor delay) }
      else reading.finish now (.error fault.acrossHttp) := by
  rw [conclude]
  simp only [Fault.isTransient_acrossHttp]
  cases fault.isOutage <;> cases reading.guard.backoff.isLast number <;> rfl

end Reading

namespace Http

/-- A fault that a service answers with reaches its client as the same fault, a failure of the
processing as an outage with the same message, whatever text the client has at hand for an
answer that it cannot read. For the breaker and for the attempts of the client it counts exactly
if it is an outage in the service. -/
theorem faults_survive_the_hop (path fallback : String) (fault : Fault) (time : Moment) :
    let response := Response.ofFault path fault
    let answer : Except Fault Organization :=
      Client.receive (Client.Answer.ofResponse response time.text)
    let reached : Fault := match fault with
      | .notFound message => .notFound message
      | .invalidPayload message => .invalidPayload message
      | .backendUnavailable message => .backendUnavailable message
      | .eventProcessing message => .backendUnavailable message
    faultOfAnswer response.status (response.bytes time.text) fallback = reached ∧
    answer = .error reached ∧
    (∀ panel place now, Panel.conclude panel place now Fault.isTransient answer =
      if fault.isOutage then panel.fail place now else panel.succeed place) ∧
    (∀ now panel reading number delay,
      (Reading.conclude now panel reading number delay answer).2 =
        if fault.isOutage && !reading.guard.backoff.isLast number then
          { reading with stage := .pausing number delay (now + waitFor delay) }
        else reading.finish now (.error reached)) := by
  intro response answer reached
  have same : reached = fault.acrossHttp := by cases fault <;> rfl
  have received : answer = .error fault.acrossHttp := Client.receive_ofFault path fault time
  rw [same, received]
  refine ⟨faultOfAnswer_ofFault path fault time fallback, rfl, ?_, ?_⟩
  · intro panel place now
    exact panel.conclude_acrossHttp place now fault
  · intro now panel reading number delay
    exact Reading.conclude_acrossHttp now panel reading number delay fault

end Http
end Roster
