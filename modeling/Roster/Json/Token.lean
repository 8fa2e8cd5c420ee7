import Roster.Text.Utf8

/-!
What JSON texts are made of. First the inside of a string: `body` writes a text with the
shortest escapes; `read?` reads any well formed body whose bytes are UTF-8 and whose surrogate
escapes are paired. A body is the bytes between the quotes, escapes included.
-/

namespace Roster.Json

open Text (Bytes hexValue? Utf8.encodeChar Utf8.decode?)

def hexFour? (a b c d : UInt8) : Option Nat := do
  let a ← hexValue? a
  let b ← hexValue? b
  let c ← hexValue? c
  let d ← hexValue? d
  return a * 0x1000 + b * 0x100 + c * 0x10 + d

namespace Literal

def shortEscapes : List (UInt8 × Nat) :=
  [(0x22, 0x22), (0x5C, 0x5C), (0x2F, 0x2F), (0x62, 0x08), (0x66, 0x0C), (0x6E, 0x0A),
    (0x72, 0x0D), (0x74, 0x09)]

inductive Symbol where
  | byte (value : UInt8)
  | unit (value : Nat)
deriving DecidableEq, Repr

def symbols? : Bytes → Option (List Symbol)
  | [] => some []
  | [byte] => if byte = 0x5C then none else some [.byte byte]
  | first :: second :: rest =>
    if first = 0x5C then
      if second = 0x75 then
        match rest with
        | a :: b :: c :: d :: tail => do
          let unit ← hexFour? a b c d
          let others ← symbols? tail
          return .unit unit :: others
        | _ => none
      else do
        let code ← shortEscapes.lookup second
        let others ← symbols? rest
        return .unit code :: others
    else (symbols? (second :: rest)).map (.byte first :: ·)

def isLeading (unit : Nat) : Bool := 0xD800 ≤ unit && unit < 0xDC00
def isTrailing (unit : Nat) : Bool := 0xDC00 ≤ unit && unit < 0xE000

def pairedChar (leading trailing : Nat) : Char :=
  Char.ofNat (0x10000 + (leading - 0xD800) * 0x400 + (trailing - 0xDC00))

def resolve? : List Symbol → Option Bytes
  | [] => some []
  | .byte byte :: rest => (resolve? rest).map (byte :: ·)
  | .unit unit :: rest =>
    if isLeading unit then
      match rest with
      | .unit trailing :: tail =>
        if isTrailing trailing then
          (resolve? tail).map (Utf8.encodeChar (pairedChar unit trailing) ++ ·)
        else none
      | _ => none
    else if isTrailing unit then none
    else (resolve? rest).map (Utf8.encodeChar (Char.ofNat unit) ++ ·)

def read? (body : Bytes) : Option String := do
  let symbols ← symbols? body
  let bytes ← resolve? symbols
  Utf8.decode? bytes

def hexDigit (n : Nat) : UInt8 := UInt8.ofNat (if n < 10 then 0x30 + n else 0x57 + n)

/-- Quotes, backslashes and control characters are escaped, the rest is written as it is. -/
def escapeChar (c : Char) : Bytes :=
  let n := c.toNat
  if n = 0x22 then [0x5C, 0x22]
  else if n = 0x5C then [0x5C, 0x5C]
  else if n = 0x08 then [0x5C, 0x62]
  else if n = 0x09 then [0x5C, 0x74]
  else if n = 0x0A then [0x5C, 0x6E]
  else if n = 0x0C then [0x5C, 0x66]
  else if n = 0x0D then [0x5C, 0x72]
  else if n < 0x20 then [0x5C, 0x75, 0x30, 0x30, hexDigit (n / 16), hexDigit (n % 16)]
  else Utf8.encodeChar c

def body (text : String) : Bytes := text.toList.flatMap escapeChar

end Literal

/-!
The tokens of a JSON text. White space ends here: `Token.scan?` drops it and
`Token.write` puts none back. Strings and numbers are kept as they are spelled,
so a value that nobody looks into need only be well formed.
-/

open Text (Bytes)

inductive Token where
  | braceOpen
  | braceClose
  | bracketOpen
  | bracketClose
  | colon
  | comma
  | null
  | bool (value : Bool)
  | number (lexeme : Bytes)
  | text (body : Bytes)
deriving DecidableEq, Repr

def isSpace (byte : UInt8) : Bool :=
  byte == 0x20 || byte == 0x09 || byte == 0x0A || byte == 0x0D

def isDigit (byte : UInt8) : Bool := 0x30 ≤ byte && byte ≤ 0x39

namespace Token

/-- Splits behind the closing quote. A backslash takes the escape with it. -/
def stringBody? : Bytes → Option (Bytes × Bytes)
  | [] => none
  | first :: rest =>
    if first = 0x22 then some ([], rest)
    else if first = 0x5C then
      match rest with
      | [] => none
      | second :: rest =>
        if second = 0x75 then
          match rest with
          | a :: b :: c :: d :: tail => do
            let _ ← hexFour? a b c d
            let (body, after) ← stringBody? tail
            return (first :: second :: a :: b :: c :: d :: body, after)
          | _ => none
        else do
          let _ ← Literal.shortEscapes.lookup second
          let (body, after) ← stringBody? rest
          return (first :: second :: body, after)
    else if first < 0x20 then none
    else do
      let (body, after) ← stringBody? rest
      return (first :: body, after)

def digitRun (bytes : Bytes) : Bytes × Bytes :=
  (bytes.takeWhile isDigit, bytes.dropWhile isDigit)

def digits? (bytes : Bytes) : Option (Bytes × Bytes) :=
  let (run, rest) := digitRun bytes
  if run.isEmpty then none else some (run, rest)

def wholePart? (bytes : Bytes) : Option (Bytes × Bytes) :=
  match bytes with
  | [] => none
  | first :: rest =>
    if first = 0x30 then some ([first], rest) else digits? bytes

def fractionPart? (bytes : Bytes) : Option (Bytes × Bytes) :=
  match bytes with
  | [] => some ([], [])
  | first :: rest =>
    if first = 0x2E then (digits? rest).map fun (run, after) => (first :: run, after)
    else some ([], bytes)

def exponentPart? (bytes : Bytes) : Option (Bytes × Bytes) :=
  match bytes with
  | [] => some ([], [])
  | mark :: rest =>
    if mark = 0x65 || mark = 0x45 then
      match rest with
      | [] => none
      | sign :: tail =>
        if sign = 0x2B || sign = 0x2D then
          (digits? tail).map fun (run, after) => (mark :: sign :: run, after)
        else (digits? rest).map fun (run, after) => (mark :: run, after)
    else some ([], bytes)

def numberLexeme? (bytes : Bytes) : Option (Bytes × Bytes) := do
  let (sign, bytes) := match bytes with
    | [] => ([], [])
    | first :: rest => if first = 0x2D then ([first], rest) else ([], bytes)
  let (whole, bytes) ← wholePart? bytes
  let (fraction, bytes) ← fractionPart? bytes
  let (exponent, bytes) ← exponentPart? bytes
  return (sign ++ whole ++ fraction ++ exponent, bytes)

def nullWord : Bytes := [0x6E, 0x75, 0x6C, 0x6C]
def trueWord : Bytes := [0x74, 0x72, 0x75, 0x65]
def falseWord : Bytes := [0x66, 0x61, 0x6C, 0x73, 0x65]

def word? (word bytes : Bytes) (token : Token) : Option (Token × Bytes) :=
  if word.isPrefixOf bytes then some (token, bytes.drop word.length) else none

def first? (bytes : Bytes) : Option (Token × Bytes) :=
  match bytes with
  | [] => none
  | first :: rest =>
    if first = 0x7B then some (.braceOpen, rest)
    else if first = 0x7D then some (.braceClose, rest)
    else if first = 0x5B then some (.bracketOpen, rest)
    else if first = 0x5D then some (.bracketClose, rest)
    else if first = 0x3A then some (.colon, rest)
    else if first = 0x2C then some (.comma, rest)
    else if first = 0x22 then (stringBody? rest).map fun (body, after) => (.text body, after)
    else if first = 0x6E then word? nullWord bytes .null
    else if first = 0x74 then word? trueWord bytes (.bool true)
    else if first = 0x66 then word? falseWord bytes (.bool false)
    else (numberLexeme? bytes).map fun (lexeme, after) => (.number lexeme, after)

/-- Every token takes at least one byte, so as many rounds as there are bytes are enough. -/
def scanWithin? : Nat → Bytes → Option (List Token)
  | 0, bytes => if bytes.all isSpace then some [] else none
  | rounds + 1, bytes =>
    match bytes.dropWhile isSpace with
    | [] => some []
    | bytes => do
      let (token, rest) ← first? bytes
      let others ← scanWithin? rounds rest
      return token :: others

def scan? (bytes : Bytes) : Option (List Token) := scanWithin? bytes.length bytes

def write : Token → Bytes
  | .braceOpen => [0x7B]
  | .braceClose => [0x7D]
  | .bracketOpen => [0x5B]
  | .bracketClose => [0x5D]
  | .colon => [0x3A]
  | .comma => [0x2C]
  | .null => nullWord
  | .bool true => trueWord
  | .bool false => falseWord
  | .number lexeme => lexeme
  | .text body => 0x22 :: body ++ [0x22]

end Token
end Roster.Json
