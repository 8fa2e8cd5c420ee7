import Roster.Http.MediaType
import Roster.Text.Plain
import Roster.Text.Utf8

/-!
Who is calling, as two request headers say. Of a repeated header the first value
counts, and a value with bytes outside of visible ASCII, blank and tab counts as
absent.
-/

namespace Roster

/-- What stands behind the name of a header: bytes, which need not make up a text. -/
structure HeaderValue where
  bytes : Text.Bytes
deriving DecidableEq, Repr

namespace HeaderValue

def ofText (text : String) : HeaderValue := ⟨Text.Utf8.encode text⟩

instance : Coe String HeaderValue := ⟨ofText⟩

def isLegal (value : HeaderValue) : Bool :=
  value.bytes.all fun byte => byte == 0x09 || (0x20 ≤ byte && byte != 0x7F)

end HeaderValue

abbrev Headers := List (String × HeaderValue)

namespace Headers

def lower (name : String) : List Char := name.toList.map Char.toLower

/-- The first value under a name, in any case of its letters. -/
def get? (headers : Headers) (name : String) : Option HeaderValue :=
  (headers.find? fun header => lower header.1 == lower name).map Prod.snd

def isLegal (header : String × HeaderValue) : Bool :=
  Http.isToken header.1 && header.2.isLegal

def readable? (value : HeaderValue) : Option String :=
  if value.bytes.all fun byte => byte == 0x09 || (0x20 ≤ byte && byte < 0x7F) then
    some (String.ofList (value.bytes.map fun byte => Char.ofNat byte.toNat))
  else none

end Headers

structure Caller where
  subject : Option String
  scopes : List String
deriving DecidableEq, Repr

namespace Caller

def subjectHeader : String := "X-Authenticated-Subject"
def scopesHeader : String := "X-Authenticated-Scopes"

def ofHeaders (headers : Headers) : Caller where
  subject := do
    let value ← headers.get? subjectHeader
    let value ← Headers.readable? value
    let subject := Text.trim value
    if subject.isEmpty then none else some subject
  scopes := (((headers.get? scopesHeader).bind Headers.readable?).map Text.words).getD []

def isAnonymous (caller : Caller) : Bool := caller.subject.isNone && caller.scopes.isEmpty

end Caller
end Roster
