import Roster.Caller
import Roster.Coding
import Roster.Fault
import Roster.Record

/-!
HTTP requests and what services take from them: the pieces of the path, numbers
in paths and queries, and records in bodies. A number that cannot be read is a
mismatch, whatever is wrong with it. A body may be coded; one beyond the limit is not
read.
-/

namespace Roster.Http

open Json (Wire)
open Text (Bytes)

/-! ### Numbers in texts -/

def signed? (text : List Char) : Option Id :=
  match Text.readInteger Int32.maxValue.toInt.toNat text with
  | .ok n => some (Int32.ofInt n)
  | .error _ => none

def unsigned? (bits : Nat) (text : List Char) : Option Nat :=
  (Text.readNatural (Nat.pow 2 bits - 1) text).toOption

/-! ### Requests -/

structure Request where
  method : String
  target : String
  headers : Headers := []
  body : Bytes := []
deriving DecidableEq, Repr

namespace Request

def lengthHeader : String := "content-length"

def carrying (request : Request) (body : Bytes) : Request :=
  { request with body, headers := (lengthHeader, toString body.length) :: request.headers }

/-- The target from its path on. One that names a host has its path behind the
host, and the root for a path if nothing or only a query stands there. -/
def place (request : Request) : List Char :=
  let target := request.target.toList
  match target.dropWhile fun c => c != ':' && c != '/' with
  | ':' :: '/' :: '/' :: rest =>
    let rest := rest.dropWhile fun c => c != '/' && c != '?' && c != '#'
    if rest.head? = some '/' then rest else '/' :: rest
  | _ => target

def path (request : Request) : String :=
  String.ofList (request.place.takeWhile fun c => c != '?' && c != '#')

def query (request : Request) : String :=
  String.ofList (((request.place.takeWhile (· != '#')).dropWhile (· != '?')).drop 1)

/-- The escapes of `%`, `/` and `+` have no part in finding a route. -/
def keptInPath : Bytes := [0x25, 0x2F, 0x2B]

def pieces (request : Request) : List (List Char) :=
  (Text.Utf8.decodeLossy
    (Text.percentDecode keptInPath (Text.Utf8.encode request.path))).toList.splitOnP (· == '/')

def fields (request : Request) : List (String × String) :=
  Text.formFields (Text.Utf8.encode request.query)

def header? (request : Request) (name : String) : Option String :=
  (request.headers.get? name).bind Headers.readable?

def toldLength? (request : Request) : Option Nat :=
  (request.header? lengthHeader).bind fun value => unsigned? 64 value.toList

def bodyLimit : Nat := 2097152

def coding (request : Request) : Coding :=
  ((request.header? "content-encoding").map Coding.ofName).getD .identity

def carriesJson (request : Request) : Bool :=
  ((request.header? "content-type").bind fun value => MediaType.parse? value.toList).any
    MediaType.isJson

/-- The body as it was before it was coded, if it can be read and is not too long. The
length that is told counts before the body is decoded, the true one after that. -/
def content (request : Request) : Except String Bytes := do
  if let some length := request.toldLength?.filter (bodyLimit < ·) then
    throw s!"JSON payload ({length} bytes) is larger than allowed (limit: {bodyLimit} bytes)."
  let unreadable (flaw : Coding.Flaw) : String := "Error that occur during reading payload: " ++
    s!"payload reached EOF before completing: Some({flaw.text})"
  match request.coding.decode request.body with
  | .error flaw => throw (unreadable flaw)
  | .ok decoded =>
    if bodyLimit < decoded.content.length then
      throw s!"JSON payload has exceeded limit ({bodyLimit} bytes)."
    if let some flaw := decoded.flaw? then throw (unreadable flaw)
    return decoded.content

/-- Reads the body as a record. What kind of body it is counts first, then whether it
can be read. -/
def readJson {α : Type} [Wire α] (request : Request) : Except Fault α :=
  if !request.carriesJson then .error (.invalidPayload "Content type error")
  else match request.content with
    | .error reason => .error (.invalidPayload reason)
    | .ok content => match Wire.decode? content with
      | some a => .ok a
      | none => .error (.invalidPayload s!"Json deserialize error: {unreadableDetail}")

end Request

/-! ### Keys and queries -/

def key? (piece : List Char) : Option Id :=
  signed? (Text.Utf8.decodeLossy
    (Text.percentDecode [] (Text.Utf8.encodeChars piece))).toList

def field? {α : Type} (name : String) (read? : List Char → Option α)
    (fields : List (String × String)) : Option (Option α) :=
  match fields.filter (·.1 == name) with
  | [] => some none
  | [(_, value)] => (read? value.toList).map some
  | _ => none

def staging? (fields : List (String × String)) : Option Staging := do
  let delay ← field? "delay" (unsigned? 64) fields
  let fault ← field? "faultPercent" (unsigned? 32) fields
  return { delay := UInt64.ofNat (delay.getD 0), fault := UInt32.ofNat (fault.getD 0) }

/-- A time limit is given in whole seconds. -/
def options? (fields : List (String × String)) : Option ReadOptions := do
  let staging ← staging? fields
  let timeout ← field? "timeout" (unsigned? 64) fields
  return { staging with timeout := timeout.map (· * 1000) }

def organizationId? (fields : List (String × String)) : Option Id := do
  let id ← field? "organizationId" signed? fields
  id

end Roster.Http
