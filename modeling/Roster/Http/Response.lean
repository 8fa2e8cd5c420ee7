import Roster.Calendar.Moment
import Roster.Fault
import Roster.Json.Wire

/-!
HTTP answers, from the registered phrase of a status to the body.
-/

namespace Roster.Http

def reasons : List (Nat × String) :=
  [(100, "Continue"), (101, "Switching Protocols"), (102, "Processing"), (200, "OK"),
    (201, "Created"), (202, "Accepted"), (203, "Non Authoritative Information"),
    (204, "No Content"), (205, "Reset Content"), (206, "Partial Content"), (207, "Multi-Status"),
    (208, "Already Reported"), (226, "IM Used"), (300, "Multiple Choices"),
    (301, "Moved Permanently"), (302, "Found"), (303, "See Other"), (304, "Not Modified"),
    (305, "Use Proxy"), (307, "Temporary Redirect"), (308, "Permanent Redirect"),
    (400, "Bad Request"), (401, "Unauthorized"), (402, "Payment Required"), (403, "Forbidden"),
    (404, "Not Found"), (405, "Method Not Allowed"), (406, "Not Acceptable"),
    (407, "Proxy Authentication Required"), (408, "Request Timeout"), (409, "Conflict"),
    (410, "Gone"), (411, "Length Required"), (412, "Precondition Failed"),
    (413, "Payload Too Large"), (414, "URI Too Long"), (415, "Unsupported Media Type"),
    (416, "Range Not Satisfiable"), (417, "Expectation Failed"), (418, "I'm a teapot"),
    (421, "Misdirected Request"), (422, "Unprocessable Entity"), (423, "Locked"),
    (424, "Failed Dependency"), (425, "Too Early"), (426, "Upgrade Required"),
    (428, "Precondition Required"), (429, "Too Many Requests"),
    (431, "Request Header Fields Too Large"), (451, "Unavailable For Legal Reasons"),
    (500, "Internal Server Error"), (501, "Not Implemented"), (502, "Bad Gateway"),
    (503, "Service Unavailable"), (504, "Gateway Timeout"), (505, "HTTP Version Not Supported"),
    (506, "Variant Also Negotiates"), (507, "Insufficient Storage"), (508, "Loop Detected"),
    (510, "Not Extended"), (511, "Network Authentication Required")]

def statusLine (status : Nat) : String :=
  s!"{status} " ++ (reasons.lookup status).getD "<unknown status code>"

/-!
Error bodies of HTTP answers. The service writes the message of a fault into a
problem and sends it with the fault's status; a client makes a fault of both
again. The time of a problem says when it was answered and nothing else depends
on it.
-/

open Json
open Calendar (Moment)
open Text (Bytes)

structure Problem where
  path : String
  message : String
  timestamp : Moment
deriving DecidableEq, Repr

namespace Problem

def fieldNames : List String := ["path", "message", "timestamp"]

def toValueAt (path message time : String) : Value :=
  .record [("path", .ofString path), ("message", .ofString message), ("timestamp", .ofString time)]

instance : Wire Problem where
  toValue p := toValueAt p.path p.message p.timestamp.text
  ofValue? value := do
    match ← value.shape? fieldNames with
    | [path, message, timestamp] =>
      return {
        path := ← Value.required? Value.string? path
        message := ← Value.required? Value.string? message
        timestamp := ← Value.required?
          (fun value => value.string?.bind Moment.read?) timestamp }
    | _ => none

end Problem

/-- The fault that an unsuccessful answer stands for. `fallback` is the message
when the body is not a problem. -/
def faultOfAnswer (status : Nat) (body : Bytes) (fallback : String) : Fault :=
  let message := ((Wire.decode? body : Option Problem).map Problem.message).getD fallback
  if status = 404 then .notFound message
  else if status = 422 then .invalidPayload message
  else .backendUnavailable message

/-!
HTTP answers. A body is a record, a problem, plain text or nothing.
-/

open Json (Value Wire)
open Text (Bytes)

inductive Body where
  | empty
  | value (value : Value)
  | problem (path message : String)
  | text (mediaType content : String)

structure Response where
  status : Nat
  body : Body := .empty

namespace Response

def unknown : Response := { status := 404 }

def wrongMethod : Response := { status := 405 }

def done : Response := { status := 200 }

def found {α : Type} [Wire α] (a : α) : Response := { status := 200, body := .value (Wire.toValue a) }

def ofFault (path : String) (fault : Fault) : Response :=
  { status := fault.status, body := .problem path fault.message }

def mismatch (path : String) : Response :=
  { status := 400, body := .problem path "Type mismatch." }

def ofRead {α : Type} [Wire α] (path : String) : Except Fault α → Response
  | .ok a => found a
  | .error fault => ofFault path fault

def ofWrite (path : String) : Except Fault Unit → Response
  | .ok () => done
  | .error fault => ofFault path fault

def mediaType? (response : Response) : Option String :=
  match response.body with
  | .empty => none
  | .value _ | .problem .. => some "application/json"
  | .text mediaType _ => some mediaType

def bytes (response : Response) (time : String) : Bytes :=
  match response.body with
  | .empty => []
  | .value value => value.write
  | .problem path message => (Problem.toValueAt path message time).write
  | .text _ content => Text.Utf8.encode content

end Response
end Roster.Http
