/-!
Media types, and the tokens that they and the names of headers are made of.
-/

namespace Roster.Http

def isTokenChar (c : Char) : Bool :=
  c.isAlphanum || "!#$%&'*+-.^_`|~".toList.contains c

def isToken (text : String) : Bool := !text.isEmpty && text.toList.all isTokenChar

/-!
A media type is a text such as `application/vnd.api+json; charset=utf-8`. The part behind the
last plus of a subtype is its suffix. Letters count in any case.
-/

structure MediaType where
  kind : List Char
  subtype : List Char
  suffix : Option (List Char)
deriving DecidableEq, Repr

namespace MediaType

def isQuotable (c : Char) : Bool := 0x20 ≤ c.toNat && c.toNat != 0x7F

inductive Place where
  | start
  | name
  | value
  | bare
  | opened
  | quoted
  | closed
deriving DecidableEq, Repr

namespace Place

def next? : Place → Char → Option Place
  | .start, c => if c = ' ' then some .start else if isTokenChar c then some .name else none
  | .name, c => if isTokenChar c then some .name else if c = '=' then some .value else none
  | .value, c => if c = '"' then some .opened else if isTokenChar c then some .bare else none
  | .bare, c => if isTokenChar c then some .bare else if c = ';' then some .start else none
  -- A quoted value is not empty, so a second quote belongs to it.
  | .opened, c => if isQuotable c then some .quoted else none
  | .quoted, c => if c = '"' then some .closed else if isQuotable c then some .quoted else none
  | .closed, c => if c = ';' then some .start else if c = ' ' then some .closed else none

def isEnd : Place → Bool
  | .start | .value | .bare | .closed => true
  | .name | .opened | .quoted => false

end Place

def areParameters (text : List Char) : Bool :=
  (text.foldlM Place.next? Place.start).any Place.isEnd

/-- Parts a subtype from its suffix. A plus in the first place parts nothing. -/
def splitSuffix (text : List Char) : List Char × Option (List Char) :=
  let suffix := (text.reverse.takeWhile (· != '+')).reverse
  if suffix.length + 1 < text.length then
    (text.take (text.length - suffix.length - 1), some suffix)
  else (text, none)

def parse? (text : List Char) : Option MediaType :=
  let kind := text.takeWhile isTokenChar
  match kind, text.drop kind.length with
  | _ :: _, '/' :: rest =>
    let name := rest.takeWhile isTokenChar
    let (subtype, suffix) := splitSuffix (name.map Char.toLower)
    let found : MediaType := { kind := kind.map Char.toLower, subtype, suffix }
    match name, rest.drop name.length with
    | _, [] => some found
    | _ :: _, ';' :: parameters => if areParameters parameters then some found else none
    | _, _ => none
  | _, _ => none

def isJson (media : MediaType) : Bool :=
  media.subtype = "json".toList || media.suffix = some "json".toList

end MediaType
end Roster.Http
