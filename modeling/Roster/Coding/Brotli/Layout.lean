import Roster.Coding.Tape

/-!
How a block of commands is laid out. The two bytes before a literal tell which code it is
read with. There are four ways of sorting them into 64 classes, and copies have four classes
by their length.
-/

namespace Roster.Coding.Brotli

inductive ContextMode where
  | lowBits
  | highBits
  | text
  | signed
deriving DecidableEq, Repr

def asciiShapes : Array Nat :=
  #[2, 3, 4, 3, 3, 5, 3, 4, 6, 7, 3, 3, 8, 3, 9, 3, 11, 11, 11, 11, 11, 11, 11, 11, 11, 11, 8,
    8, 6, 10, 7, 3, 3, 12, 13, 13, 13, 12, 13, 13, 13, 12, 13, 13, 13, 13, 13, 12, 13, 13, 13,
    13, 13, 12, 13, 13, 13, 13, 13, 6, 3, 7, 3, 3, 3, 14, 15, 15, 15, 14, 15, 15, 15, 14, 15,
    15, 15, 15, 15, 14, 15, 15, 15, 15, 15, 14, 15, 15, 15, 15, 15, 6, 3, 7, 3, 0]

def lastShare (byte : Nat) : Nat :=
  if 192 ≤ byte then 2 + byte % 2
  else if 128 ≤ byte then byte % 2
  else if byte < 32 then (if byte = 9 ∨ byte = 10 ∨ byte = 13 then 4 else 0)
  else 4 * asciiShapes.getD (byte - 32) 0

def secondShare (byte : Nat) : Nat :=
  if byte ≤ 32 ∨ byte = 127 ∨ (128 ≤ byte ∧ byte < 224) then 0
  else if (48 ≤ byte ∧ byte ≤ 57) ∨ (65 ≤ byte ∧ byte ≤ 90) ∨ 224 ≤ byte then 2
  else if 97 ≤ byte ∧ byte ≤ 122 then 3
  else 1

def signedSize (byte : Nat) : Nat :=
  if byte = 0 then 0
  else if byte < 16 then 1
  else if byte < 64 then 2
  else if byte < 128 then 3
  else if byte < 192 then 4
  else if byte < 240 then 5
  else if byte < 255 then 6
  else 7

namespace ContextMode

def ofNumber : Nat → ContextMode
  | 0 => lowBits
  | 1 => highBits
  | 2 => text
  | _ => signed

def classOf (mode : ContextMode) (last second : UInt8) : Nat :=
  let (last, second) := (last.toNat, second.toNat)
  match mode with
  | lowBits => last % 64
  | highBits => last / 4
  | text => lastShare last ||| secondShare second
  | signed => 8 * signedSize last + signedSize second

end ContextMode

def copyClass (length : Nat) : Nat := min length 5 - 2

/-!
What stands before the commands of a block: prefix codes, how the block is split into
runs of one type, and which code belongs to which type and class.
-/

open Decoder (number bit require corrupt)

def valueIn (classes : List (Nat × Nat)) (symbol : Nat) : Decoder Nat := do
  let (first, extra) := classes.getD symbol (0, 0)
  return first + (← number extra)

def smallNumber : Decoder Nat := do
  if (← bit) = 0 then return 0
  let bits ← number 3
  return Nat.pow 2 bits + (← number bits)

/-! ### Prefix codes -/

def symbols (width alphabet : Nat) : Nat → Decoder (List Nat)
  | 0 => return []
  | count + 1 => do
    let symbol ← number width
    require (symbol < alphabet)
    return symbol :: (← symbols width alphabet count)

def simpleCode (alphabet : Nat) : Decoder PrefixCode := do
  let count := 1 + (← number 2)
  let told ← symbols ((alphabet - 1).log2 + 1) alphabet count
  require (decide told.Nodup)
  let sorted (symbols : List Nat) : List Nat := symbols.mergeSort (· ≤ ·)
  match count with
  | 1 => return .single (told.headD 0)
  | 2 => return ⟨[2], (sorted told).toArray⟩
  | 3 => return ⟨[1, 2], (told.take 1 ++ sorted (told.drop 1)).toArray⟩
  | _ =>
    if (← bit) = 0 then return ⟨[0, 4], (sorted told).toArray⟩
    return ⟨[1, 1, 2], (told.take 2 ++ sorted (told.drop 2)).toArray⟩

def lengthOrder : List Nat := [1, 2, 3, 4, 0, 5, 17, 6, 16, 7, 8, 9, 10, 11, 12, 13, 14, 15]

def lengthLength : Decoder Nat := do
  match ← number 2 with
  | 0 => return 0
  | 1 => return 4
  | 2 => return 3
  | _ =>
    if (← bit) = 0 then return 2
    if (← bit) = 0 then return 1
    return 5

/-- The lengths of the code of lengths, told until nothing is left of the `space`. What
is left, and the lengths that are not zero. -/
def lengthLengths : List Nat → Int → Decoder (Int × List (Nat × Nat))
  | [], space => return (space, [])
  | symbol :: rest, space => do
    if space ≤ 0 then return (space, [])
    let length ← lengthLength
    if length = 0 then lengthLengths rest space
    else
      let (space, known) ← lengthLengths rest (space - Nat.pow 2 (5 - length))
      return (space, (symbol, length) :: known)

/-- A row of lengths on its way: what was told last, how often in a row, and what is
left of the space. The lengths are in reverse order. -/
structure Lengths where
  known : List Nat := []
  lastUsed : Nat := 8
  repeated : Nat := 0
  run : Nat := 0
  space : Int := Nat.pow 2 PrefixCode.longest

def spaceOf (length count : Nat) : Int :=
  if length = 0 then 0 else count * Nat.pow 2 (PrefixCode.longest - length)

def Lengths.add (lengths : Lengths) (length : Nat) : Lengths :=
  { lengths with
    known := length :: lengths.known
    lastUsed := if length = 0 then lengths.lastUsed else length
    run := 0
    space := lengths.space - spaceOf length 1 }

/-- Repeats a length. Each of several such orders in a row stands for more. -/
def Lengths.extend (lengths : Lengths) (length extra told : Nat) : Lengths :=
  let run := if lengths.repeated = length then lengths.run else 0
  let longer := (if run = 0 then 0 else (run - 2) * Nat.pow 2 extra) + told + 3
  let count := longer - run
  { lengths with
    known := List.replicate count length ++ lengths.known
    repeated := length
    run := longer
    space := lengths.space - spaceOf length count }

/-- Lengths for a whole alphabet, or for as much of it as uses up the space. Each round
adds one at least. -/
def tellLengths (code : PrefixCode) (alphabet : Nat) : Nat → Lengths → Decoder Lengths
  | 0, lengths => return lengths
  | fuel + 1, lengths => do
    if alphabet ≤ lengths.known.length || lengths.space = 0 then return lengths
    let lengths ← match ← code.read with
      | 16 => pure (lengths.extend lengths.lastUsed 2 (← number 2))
      | 17 => pure (lengths.extend 0 3 (← number 3))
      | length => pure (lengths.add length)
    require (lengths.known.length ≤ alphabet)
    tellLengths code alphabet fuel lengths

def complexCode (alphabet skipped : Nat) : Decoder PrefixCode := do
  let (space, known) ← lengthLengths (lengthOrder.drop skipped) 32
  require (known.length = 1 || space = 0)
  let code := match known with
    | [(symbol, _)] => .single symbol
    | _ => .ofLengths ((List.range 18).map fun symbol => (known.lookup symbol).getD 0)
  let lengths ← tellLengths code alphabet alphabet {}
  require (lengths.space = 0)
  return .ofLengths lengths.known.reverse

def code (alphabet : Nat) : Decoder PrefixCode := do
  match ← number 2 with
  | 1 => simpleCode alphabet
  | skipped => complexCode alphabet skipped

def codes (alphabet : Nat) : Nat → Decoder (List PrefixCode)
  | 0 => return []
  | count + 1 => do
    let first ← code alphabet
    return first :: (← codes alphabet count)

/-! ### Runs of one type -/

def runClasses : List (Nat × Nat) :=
  classes 1 [2, 2, 2, 2, 3, 3, 3, 3, 4, 4, 4, 4, 5, 5, 5, 5, 6, 6, 7, 8, 9, 10, 11, 12, 13, 24]

/-- How the symbols of a kind are split into runs, the type of the run at hand and of
the one before, and how many symbols are left of it. -/
structure Split where
  types : Nat
  typeCode : PrefixCode
  runCode : PrefixCode
  type : Nat := 0
  before : Nat := 1
  left : Nat

def split : Decoder Split := do
  let types := 1 + (← smallNumber)
  if types = 1 then
    return { types, typeCode := .single 0, runCode := .single 0, left := Nat.pow 2 24 }
  let typeCode ← code (types + 2)
  let runCode ← code 26
  let left ← valueIn runClasses (← runCode.read)
  return { types, typeCode, runCode, left }

def Split.ready (split : Split) : Decoder Split := do
  if 0 < split.left then return split
  let type := match ← split.typeCode.read with
    | 0 => split.before
    | 1 => (split.type + 1) % split.types
    | symbol => symbol - 2
  let left ← valueIn runClasses (← split.runCode.read)
  return { split with type, before := split.type, left }

def Split.spend (split : Split) : Split := { split with left := split.left - 1 }

/-! ### Which code belongs where -/

def moveToFront (row : List Nat) : List Nat → List Nat
  | [] => []
  | place :: rest =>
    let value := row.getD place 0
    value :: moveToFront (value :: row.eraseIdx place) rest

def tellMap (code : PrefixCode) (longestRun wanted : Nat) : Nat → List Nat → Decoder (List Nat)
  | 0, known => return known.reverse
  | fuel + 1, known => do
    if wanted ≤ known.length then
      require (known.length = wanted)
      return known.reverse
    let symbol ← code.read
    let more ←
      if symbol = 0 then pure [0]
      else if symbol ≤ longestRun then
        pure (List.replicate (Nat.pow 2 symbol + (← number symbol)) 0)
      else pure [symbol - longestRun]
    tellMap code longestRun wanted fuel (more ++ known)

def codeMap (wanted : Nat) : Decoder (Nat × Array Nat) := do
  let count := 1 + (← smallNumber)
  if count = 1 then return (1, Array.replicate wanted 0)
  let longestRun ← if (← bit) = 0 then pure 0 else pure (1 + (← number 4))
  let code ← code (count + longestRun)
  let told ← tellMap code longestRun wanted (wanted + 1) []
  if (← bit) = 0 then return (count, told.toArray)
  return (count, (moveToFront (List.range 256) told).toArray)

end Roster.Coding.Brotli
