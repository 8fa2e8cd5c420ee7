import Roster.Json.Token
import Roster.Text.Plain

/-!
JSON values and the machine that builds one from its tokens. The machine keeps
the containers that are still open on a stack of its own and takes one token per
step, so the depth of a value costs no recursion.
-/

namespace Roster.Json

open Text (Bytes)

/-- A value as it is spelled. Field names and strings are bodies, numbers are
lexemes; the fields of an object keep their order and may repeat a name. -/
inductive Value where
  | null
  | bool (value : Bool)
  | number (lexeme : Bytes)
  | text (body : Bytes)
  | list (items : List Value)
  | object (fields : List (Bytes × Value))
deriving Repr

namespace Value

/-- An open container with what it holds so far, the latest first. An open
object waits for the value of the field that was named last. -/
inductive Frame where
  | list (before : List Value)
  | object (before : List (Bytes × Value)) (name : Bytes)

/-- What the machine expects next, and the containers around it, innermost first. -/
inductive State where
  | value (stack : List Frame)
  | firstItem (stack : List Frame)
  | firstName (stack : List Frame)
  | nextName (before : List (Bytes × Value)) (stack : List Frame)
  | colon (before : List (Bytes × Value)) (name : Bytes) (stack : List Frame)
  | after (complete : Value) (stack : List Frame)

def start : State := .value []

def open? (stack : List Frame) : Token → Option State
  | .null => some (.after .null stack)
  | .bool value => some (.after (.bool value) stack)
  | .number lexeme => some (.after (.number lexeme) stack)
  | .text body => some (.after (.text body) stack)
  | .bracketOpen => some (.firstItem stack)
  | .braceOpen => some (.firstName stack)
  | _ => none

def step? : State → Token → Option State
  | .value stack, token => open? stack token
  | .firstItem stack, .bracketClose => some (.after (.list []) stack)
  | .firstItem stack, token => open? (.list [] :: stack) token
  | .firstName stack, .braceClose => some (.after (.object []) stack)
  | .firstName stack, .text name => some (.colon [] name stack)
  | .nextName before stack, .text name => some (.colon before name stack)
  | .colon before name stack, .colon => some (.value (.object before name :: stack))
  | .after complete (.list before :: stack), .comma =>
    some (.value (.list (complete :: before) :: stack))
  | .after complete (.list before :: stack), .bracketClose =>
    some (.after (.list (complete :: before).reverse) stack)
  | .after complete (.object before name :: stack), .comma =>
    some (.nextName ((name, complete) :: before) stack)
  | .after complete (.object before name :: stack), .braceClose =>
    some (.after (.object ((name, complete) :: before).reverse) stack)
  | _, _ => none

def finish? : State → Option Value
  | .after complete [] => some complete
  | _ => none

def ofTokens? (tokens : List Token) : Option Value := do
  let last ← tokens.foldlM step? start
  finish? last

def parse? (bytes : Bytes) : Option Value := do
  let tokens ← Token.scan? bytes
  ofTokens? tokens

mutual
def tokens : Value → List Token
  | .null => [.null]
  | .bool value => [.bool value]
  | .number lexeme => [.number lexeme]
  | .text body => [.text body]
  | .list items => .bracketOpen :: itemTokens items
  | .object fields => .braceOpen :: fieldTokens fields

def itemTokens : List Value → List Token
  | [] => [.bracketClose]
  | [item] => item.tokens ++ [.bracketClose]
  | item :: rest => item.tokens ++ .comma :: itemTokens rest

def fieldTokens : List (Bytes × Value) → List Token
  | [] => [.braceClose]
  | [(name, value)] => .text name :: .colon :: value.tokens ++ [.braceClose]
  | (name, value) :: rest =>
    .text name :: .colon :: value.tokens ++ .comma :: fieldTokens rest
end

def write (value : Value) : Bytes := value.tokens.flatMap Token.write

end Value

/-!
Records as JSON. A record is read from an object, by the names of its fields in
any order, or from a list, by their places; unknown fields are passed over and a
known one may stand only once. It is written as an object in one order.
-/

open Text (Bytes)

namespace Value

/-- What a value gives for each of the known names, in the order of the names. -/
def shape? (names : List String) : Value → Option (List (Option Value))
  | .object fields => do
    let fields ← fields.mapM fun (name, value) => (Literal.read? name).map (·, value)
    if names.all fun name => fields.countP (·.1 == name) ≤ 1 then
      some (names.map fun name => fields.lookup name)
    else none
  | .list items =>
    if items.length ≤ names.length then
      some (items.map some ++ List.replicate (names.length - items.length) none)
    else none
  | _ => none

def required? {α : Type} (read? : Value → Option α) (given : Option Value) : Option α :=
  given.bind read?

def defaulted? {α : Type} (read? : Value → Option α) (default : α) : Option Value → Option α
  | none => some default
  | some value => read? value

def optional? {α : Type} (read? : Value → Option α) : Option Value → Option (Option α)
  | none => some none
  | some .null => some none
  | some value => (read? value).map some

def string? : Value → Option String
  | .text body => Literal.read? body
  | _ => none

def ofString (text : String) : Value := .text (Literal.body text)

def lexemeChars (lexeme : Bytes) : List Char := lexeme.map fun byte => Char.ofNat byte.toNat

/-- A whole number spelled without point or exponent. The spelling `-0` is none. -/
def integer? : Value → Option Int
  | .number lexeme =>
    match lexemeChars lexeme with
    | '-' :: run =>
      if run.all Char.isDigit && Nat.ofDigitChars 10 run 0 != 0 then
        some (-(Nat.ofDigitChars 10 run 0 : Int))
      else none
    | run => if run.all Char.isDigit then some (Nat.ofDigitChars 10 run 0 : Int) else none
  | _ => none

def int32? (value : Value) : Option Int32 := do
  let n ← value.integer?
  if Int32.minValue.toInt ≤ n ∧ n ≤ Int32.maxValue.toInt then some (Int32.ofInt n) else none

def intChars (n : Int) : List Char :=
  if n < 0 then '-' :: Text.digits n.natAbs else Text.digits n.natAbs

def ofInt32 (n : Int32) : Value := .number (Text.Utf8.encodeChars (intChars n.toInt))

def items? {α : Type} (read? : Value → Option α) : Value → Option (List α)
  | .list items => items.mapM read?
  | _ => none

/-- A name out of a fixed set, as a string or as the one field of an object that is null. -/
def name? : Value → Option String
  | .text body => Literal.read? body
  | .object [(name, .null)] => Literal.read? name
  | _ => none

def record (fields : List (String × Value)) : Value :=
  .object (fields.map fun (name, value) => (Literal.body name, value))

end Value

class Wire (α : Type) where
  toValue : α → Value
  ofValue? : Value → Option α

namespace Wire

variable {α : Type} [Wire α]

def encode (a : α) : Bytes := (toValue a).write

def decode? (bytes : Bytes) : Option α := do
  let value ← Value.parse? bytes
  ofValue? value

end Wire

instance {α : Type} [Wire α] : Wire (List α) where
  toValue items := .list (items.map Wire.toValue)
  ofValue? := Value.items? Wire.ofValue?

end Roster.Json
