/-!
Texts as lists of bytes: UTF-8, and percent encoding on top of it. `encode` writes a text,
`decode?` reads well formed bytes and refuses all others, and `decodeLossy` puts one replacement
character in the place of each longest ill formed piece.
-/

namespace Roster.Text

abbrev Bytes := List UInt8

namespace Utf8

def encodeChar (c : Char) : Bytes :=
  let n := c.toNat
  if n < 0x80 then [UInt8.ofNat n]
  else if n < 0x800 then
    [UInt8.ofNat (0xC0 + n / 0x40), UInt8.ofNat (0x80 + n % 0x40)]
  else if n < 0x10000 then
    [UInt8.ofNat (0xE0 + n / 0x1000), UInt8.ofNat (0x80 + n / 0x40 % 0x40),
      UInt8.ofNat (0x80 + n % 0x40)]
  else
    [UInt8.ofNat (0xF0 + n / 0x40000), UInt8.ofNat (0x80 + n / 0x1000 % 0x40),
      UInt8.ofNat (0x80 + n / 0x40 % 0x40), UInt8.ofNat (0x80 + n % 0x40)]

def encodeChars (text : List Char) : Bytes := text.flatMap encodeChar

def encode (text : String) : Bytes := encodeChars text.toList

/-- How many bytes follow a lead byte, and between which bounds the first of
them lies. The bounds keep out overlong forms, surrogates and everything past
the last code point. -/
def follow? (lead : Nat) : Option (Nat × Nat × Nat) :=
  if lead < 0x80 then some (0, 0, 0)
  else if lead < 0xC2 then none
  else if lead < 0xE0 then some (1, 0x80, 0xBF)
  else if lead = 0xE0 then some (2, 0xA0, 0xBF)
  else if lead = 0xED then some (2, 0x80, 0x9F)
  else if lead < 0xF0 then some (2, 0x80, 0xBF)
  else if lead = 0xF0 then some (3, 0x90, 0xBF)
  else if lead < 0xF4 then some (3, 0x80, 0xBF)
  else if lead = 0xF4 then some (3, 0x80, 0x8F)
  else none

def within (low high byte : Nat) : Bool := low ≤ byte && byte ≤ high

/-- A byte sequence as characters and ill formed pieces (`none`). A piece that
cannot be completed ends before the first byte that does not belong to it. -/
def pieces : Bytes → List (Option Char)
  | [] => []
  | lead :: rest =>
    let a := lead.toNat
    match follow? a, rest with
    | none, rest => none :: pieces rest
    | some (0, _, _), rest => some (Char.ofNat a) :: pieces rest
    | some (1, low, high), second :: tail =>
      let b := second.toNat
      if within low high b then
        some (Char.ofNat ((a - 0xC0) * 0x40 + (b - 0x80))) :: pieces tail
      else none :: pieces (second :: tail)
    | some (2, low, high), second :: third :: tail =>
      let b := second.toNat
      let c := third.toNat
      if within low high b then
        if within 0x80 0xBF c then
          some (Char.ofNat ((a - 0xE0) * 0x1000 + (b - 0x80) * 0x40 + (c - 0x80))) :: pieces tail
        else none :: pieces (third :: tail)
      else none :: pieces (second :: third :: tail)
    | some (_, low, high), second :: third :: fourth :: tail =>
      let b := second.toNat
      let c := third.toNat
      let d := fourth.toNat
      if within low high b then
        if within 0x80 0xBF c then
          if within 0x80 0xBF d then
            some (Char.ofNat ((a - 0xF0) * 0x40000 + (b - 0x80) * 0x1000 + (c - 0x80) * 0x40
              + (d - 0x80))) :: pieces tail
          else none :: pieces (fourth :: tail)
        else none :: pieces (third :: fourth :: tail)
      else none :: pieces (second :: third :: fourth :: tail)
    | some (_, low, high), second :: tail =>
      -- The text ends inside the piece: what still belongs to it goes with it.
      if within low high second.toNat then
        match tail with
        | [] => [none]
        | third :: last =>
          if within 0x80 0xBF third.toNat then none :: pieces last
          else none :: pieces (third :: last)
      else none :: pieces (second :: tail)
    | some _, [] => [none]

def decodeChars? (bytes : Bytes) : Option (List Char) := (pieces bytes).mapM id

def decode? (bytes : Bytes) : Option String := (decodeChars? bytes).map String.ofList

def replacement : Char := Char.ofNat 0xFFFD

def decodeLossy (bytes : Bytes) : String :=
  String.ofList ((pieces bytes).map (·.getD replacement))

end Utf8

/-!
Hexadecimal digits among bytes.
-/

def hexValue? (byte : UInt8) : Option Nat :=
  let n := byte.toNat
  if 0x30 ≤ n && n ≤ 0x39 then some (n - 0x30)
  else if 0x41 ≤ n && n ≤ 0x46 then some (n - 0x37)
  else if 0x61 ≤ n && n ≤ 0x66 then some (n - 0x57)
  else none

def hexBytes? : Bytes → Option Bytes
  | [] => some []
  | [_] => none
  | high :: low :: rest => do
    let a ← hexValue? high
    let b ← hexValue? low
    return UInt8.ofNat (a * 16 + b) :: (← hexBytes? rest)

def hexPadded (width n : Nat) : List Char :=
  let digits := Nat.toDigits 16 n
  List.replicate (width - digits.length) '0' ++ digits

/-!
Percent encoding, read. Two hexadecimal digits behind a percent sign stand for
one byte; a percent sign without them stands for itself. Forms build on it: in a
form a plus is a blank, `&` parts the fields, and the first `=` of a field parts
its name from its value.
-/

/-- Decodes every escaped byte but those in `kept`, whose escapes stay. -/
def percentDecode (kept : Bytes) : Bytes → Bytes
  | [] => []
  | byte :: high :: low :: rest =>
    if byte = 0x25 then
      match hexValue? high, hexValue? low with
      | some a, some b =>
        let decoded := UInt8.ofNat (a * 16 + b)
        if kept.contains decoded then byte :: percentDecode kept (high :: low :: rest)
        else decoded :: percentDecode kept rest
      | _, _ => byte :: percentDecode kept (high :: low :: rest)
    else byte :: percentDecode kept (high :: low :: rest)
  | byte :: rest => byte :: percentDecode kept rest

def formText (bytes : Bytes) : String :=
  Utf8.decodeLossy (percentDecode [] (bytes.map fun byte => if byte = 0x2B then 0x20 else byte))

def formField (piece : Bytes) : String × String :=
  let name := piece.takeWhile (· != 0x3D)
  (formText name, formText (piece.drop (name.length + 1)))

def formFields (bytes : Bytes) : List (String × String) :=
  ((bytes.splitOnP (· == 0x26)).filter fun piece => !piece.isEmpty).map formField

end Roster.Text
