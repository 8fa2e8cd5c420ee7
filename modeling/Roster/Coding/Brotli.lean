import Roster.Coding.Brotli.Layout
import Roster.Coding.Brotli.Words

/-!
Decoding of the Brotli format. All streams share a table of words. A stream names a word
together with a shape: cut at an end or raised to upper case, with something before and
after it.
-/

namespace Roster.Coding.Brotli

open Text (Bytes)

inductive Shape where
  | keep
  | dropFirst (count : Nat)
  | dropLast (count : Nat)
  | raiseFirst
  | raiseAll
deriving DecidableEq, Repr

/-- Raises the character at the head of a word, as far as it is one byte of ASCII;
longer characters change in a way that suits some of their scripts. The raised
character and what is behind it. -/
def raiseHead : Bytes → Bytes × Bytes
  | [] => ([], [])
  | a :: rest =>
    if a < 0xC0 then ([if 0x61 ≤ a && a ≤ 0x7A then a ^^^ 0x20 else a], rest)
    else match rest with
      | b :: rest =>
        if a < 0xE0 then ([a, b ^^^ 0x20], rest)
        else match rest with
          | c :: rest => ([a, b, c ^^^ 5], rest)
          | [] => ([a, b], [])
      | [] => ([a], [])

def raiseWithin : Nat → Bytes → Bytes
  | 0, word => word
  | count + 1, word =>
    let (head, rest) := raiseHead word
    head ++ raiseWithin count rest

def Shape.apply (shape : Shape) (word : Bytes) : Bytes :=
  match shape with
  | .keep => word
  | .dropFirst count => word.drop count
  | .dropLast count => word.take (word.length - count)
  | .raiseFirst => (raiseHead word).1 ++ (raiseHead word).2
  | .raiseAll => raiseWithin word.length word

structure Transform where
  before : String
  shape : Shape
  after : String
deriving Repr

def transforms : List Transform :=
  [⟨"", .keep, ""⟩, ⟨"", .keep, " "⟩, ⟨" ", .keep, " "⟩, ⟨"", .dropFirst 1, ""⟩,
    ⟨"", .raiseFirst, " "⟩, ⟨"", .keep, " the "⟩, ⟨" ", .keep, ""⟩, ⟨"s ", .keep, " "⟩,
    ⟨"", .keep, " of "⟩, ⟨"", .raiseFirst, ""⟩, ⟨"", .keep, " and "⟩, ⟨"", .dropFirst 2, ""⟩,
    ⟨"", .dropLast 1, ""⟩, ⟨", ", .keep, " "⟩, ⟨"", .keep, ", "⟩, ⟨" ", .raiseFirst, " "⟩,
    ⟨"", .keep, " in "⟩, ⟨"", .keep, " to "⟩, ⟨"e ", .keep, " "⟩, ⟨"", .keep, "\""⟩,
    ⟨"", .keep, "."⟩, ⟨"", .keep, "\">"⟩, ⟨"", .keep, "\n"⟩, ⟨"", .dropLast 3, ""⟩,
    ⟨"", .keep, "]"⟩, ⟨"", .keep, " for "⟩, ⟨"", .dropFirst 3, ""⟩, ⟨"", .dropLast 2, ""⟩,
    ⟨"", .keep, " a "⟩, ⟨"", .keep, " that "⟩, ⟨" ", .raiseFirst, ""⟩, ⟨"", .keep, ". "⟩,
    ⟨".", .keep, ""⟩, ⟨" ", .keep, ", "⟩, ⟨"", .dropFirst 4, ""⟩, ⟨"", .keep, " with "⟩,
    ⟨"", .keep, "'"⟩, ⟨"", .keep, " from "⟩, ⟨"", .keep, " by "⟩, ⟨"", .dropFirst 5, ""⟩,
    ⟨"", .dropFirst 6, ""⟩, ⟨" the ", .keep, ""⟩, ⟨"", .dropLast 4, ""⟩, ⟨"", .keep, ". The "⟩,
    ⟨"", .raiseAll, ""⟩, ⟨"", .keep, " on "⟩, ⟨"", .keep, " as "⟩, ⟨"", .keep, " is "⟩,
    ⟨"", .dropLast 7, ""⟩, ⟨"", .dropLast 1, "ing "⟩, ⟨"", .keep, "\n\t"⟩, ⟨"", .keep, ":"⟩,
    ⟨" ", .keep, ". "⟩, ⟨"", .keep, "ed "⟩, ⟨"", .dropFirst 9, ""⟩, ⟨"", .dropFirst 7, ""⟩,
    ⟨"", .dropLast 6, ""⟩, ⟨"", .keep, "("⟩, ⟨"", .raiseFirst, ", "⟩, ⟨"", .dropLast 8, ""⟩,
    ⟨"", .keep, " at "⟩, ⟨"", .keep, "ly "⟩, ⟨" the ", .keep, " of "⟩, ⟨"", .dropLast 5, ""⟩,
    ⟨"", .dropLast 9, ""⟩, ⟨" ", .raiseFirst, ", "⟩, ⟨"", .raiseFirst, "\""⟩, ⟨".", .keep, "("⟩,
    ⟨"", .raiseAll, " "⟩, ⟨"", .raiseFirst, "\">"⟩, ⟨"", .keep, "=\""⟩, ⟨" ", .keep, "."⟩,
    ⟨".com/", .keep, ""⟩, ⟨" the ", .keep, " of the "⟩, ⟨"", .raiseFirst, "'"⟩,
    ⟨"", .keep, ". This "⟩, ⟨"", .keep, ","⟩, ⟨".", .keep, " "⟩, ⟨"", .raiseFirst, "("⟩,
    ⟨"", .raiseFirst, "."⟩, ⟨"", .keep, " not "⟩, ⟨" ", .keep, "=\""⟩, ⟨"", .keep, "er "⟩,
    ⟨" ", .raiseAll, " "⟩, ⟨"", .keep, "al "⟩, ⟨" ", .raiseAll, ""⟩, ⟨"", .keep, "='"⟩,
    ⟨"", .raiseAll, "\""⟩, ⟨"", .raiseFirst, ". "⟩, ⟨" ", .keep, "("⟩, ⟨"", .keep, "ful "⟩,
    ⟨" ", .raiseFirst, ". "⟩, ⟨"", .keep, "ive "⟩, ⟨"", .keep, "less "⟩, ⟨"", .raiseAll, "'"⟩,
    ⟨"", .keep, "est "⟩, ⟨" ", .raiseFirst, "."⟩, ⟨"", .raiseAll, "\">"⟩, ⟨" ", .keep, "='"⟩,
    ⟨"", .raiseFirst, ","⟩, ⟨"", .keep, "ize "⟩, ⟨"", .raiseAll, "."⟩, ⟨"\u00a0", .keep, ""⟩,
    ⟨" ", .keep, ","⟩, ⟨"", .raiseFirst, "=\""⟩, ⟨"", .raiseAll, "=\""⟩, ⟨"", .keep, "ous "⟩,
    ⟨"", .raiseAll, ", "⟩, ⟨"", .raiseFirst, "='"⟩, ⟨" ", .raiseFirst, ","⟩,
    ⟨" ", .raiseAll, "=\""⟩, ⟨" ", .raiseAll, ", "⟩, ⟨"", .raiseAll, ","⟩, ⟨"", .raiseAll, "("⟩,
    ⟨"", .raiseAll, ". "⟩, ⟨" ", .raiseAll, "."⟩, ⟨"", .raiseAll, "='"⟩, ⟨" ", .raiseAll, ". "⟩,
    ⟨" ", .raiseFirst, "=\""⟩, ⟨" ", .raiseAll, "='"⟩, ⟨" ", .raiseFirst, "='"⟩]

def Transform.apply (transform : Transform) (word : Bytes) : Bytes :=
  Text.Utf8.encode transform.before ++ transform.shape.apply word ++
    Text.Utf8.encode transform.after

/-- The text that a length and an address name. The low bits of the address are the
place of the word, the high bits the number of the transform. -/
def namedText? (length address : Nat) : Option Bytes := do
  let (bits, _) ← wordsOfLength? length
  let transform ← transforms[address / Nat.pow 2 bits]?
  return transform.apply (← word? length (address % Nat.pow 2 bits))

/-!
Streams: how far copies reach back, and blocks. A block is skipped,
stored or a row of commands; a command writes some literals and then copies what was
written before, or words of a table that all streams share.
-/

open Decoder (number bit align require corrupt)

/-! ### Commands -/

def insertClasses : List (Nat × Nat) :=
  classes 0 [0, 0, 0, 0, 0, 0, 1, 1, 2, 2, 3, 3, 4, 4, 5, 5, 6, 7, 8, 9, 10, 12, 14, 24]

def copyClasses : List (Nat × Nat) :=
  classes 2 [0, 0, 0, 0, 0, 0, 0, 0, 1, 1, 2, 2, 3, 3, 4, 4, 5, 5, 6, 7, 8, 9, 10, 24]

def commandCells : List (Nat × Nat) :=
  [(0, 0), (0, 8), (0, 0), (0, 8), (8, 0), (8, 8), (0, 16), (16, 0), (8, 16), (16, 8), (16, 16)]

/-- Commands below this one take the last distance. -/
def farCommand : Nat := 128

def commandLengths (symbol : Nat) : Decoder (Nat × Nat) := do
  let (insert, copy) := commandCells.getD (symbol / 64) (0, 0)
  let inserted ← valueIn insertClasses (insert + symbol / 8 % 8)
  let copied ← valueIn copyClasses (copy + symbol % 8)
  return (inserted, copied)

abbrev Recent := List Nat

/-- What the symbols from 4 on add to the last distance and to the one before it. -/
def nearby : List Int := [-1, 1, -2, 2, -3, 3]

def recentDistance? (recent : Recent) (symbol : Nat) : Option Nat :=
  if symbol < 4 then recent[symbol]?
  else
    let distance := (recent.getD (if symbol < 10 then 0 else 1) 0 : Int) +
      nearby.getD ((symbol - 4) % 6) 0
    if 0 < distance then some distance.toNat else none

/-- How distances are told: the low bits that are told apart from the others, and the
distances that have a symbol of their own. -/
structure DistanceForm where
  lowBits : Nat
  direct : Nat
deriving Repr

def DistanceForm.alphabet (form : DistanceForm) (bits : Nat) : Nat :=
  16 + form.direct + bits * Nat.pow 2 (form.lowBits + 1)

def DistanceForm.read (form : DistanceForm) (symbol : Nat) : Decoder Nat := do
  if symbol < 16 + form.direct then return symbol - 15
  let place := symbol - 16 - form.direct
  let bits := 1 + place / Nat.pow 2 (form.lowBits + 1)
  let high := place / Nat.pow 2 form.lowBits
  let offset := (2 + high % 2) * Nat.pow 2 bits - 4 + (← number bits)
  return offset * Nat.pow 2 form.lowBits + place % Nat.pow 2 form.lowBits + form.direct + 1

/-! ### Blocks of commands -/

structure Layout where
  modes : Array ContextMode
  literalMap : Array Nat
  distanceMap : Array Nat
  literalCodes : Array PrefixCode
  commandCodes : Array PrefixCode
  distanceCodes : Array PrefixCode
  form : DistanceForm
  reach : Nat

def codeAt (codes : Array PrefixCode) (place : Nat) : PrefixCode :=
  codes.getD place (.single 0)

/-- Where a block of commands stands: how each kind of symbol is split, the recent
distances, and how many bytes are still to be written. -/
structure Course where
  literals : Split
  commands : Split
  distances : Split
  recent : Recent
  left : Nat

def literals (layout : Layout) : Nat → Split → Decoder Split
  | 0, split => return split
  | count + 1, split => do
    let split ← split.ready
    let tape ← get
    let mode := layout.modes.getD split.type .lowBits
    let place := layout.literalMap.getD
      (split.type * 64 + mode.classOf (tape.back 1) (tape.back 2)) 0
    Decoder.write (UInt8.ofNat (← (codeAt layout.literalCodes place).read))
    literals layout count split.spend

def distance (layout : Layout) (command copied : Nat) (course : Course) :
    Decoder (Course × Nat × Bool) := do
  if command < farCommand then return (course, course.recent.headD 0, false)
  let split ← course.distances.ready
  let course := { course with distances := split.spend }
  let place := layout.distanceMap.getD (split.type * 4 + copyClass copied) 0
  let symbol ← (codeAt layout.distanceCodes place).read
  if 16 ≤ symbol then return (course, ← layout.form.read symbol, true)
  match recentDistance? course.recent symbol with
  | some distance => return (course, distance, symbol != 0)
  | none => corrupt

def longestDistance : Nat := 0x7FFFFFFC

/-- Copies what was written before. What lies before the reach of copies are words. -/
def copy (layout : Layout) (copied distance : Nat) (isNew : Bool) (course : Course) :
    Decoder Course := do
  let reach := min (← get).output.size layout.reach
  if distance ≤ reach then
    require (copied ≤ course.left)
    Decoder.copyOutput distance copied
    let recent := if isNew then distance :: course.recent.take 3 else course.recent
    return { course with recent, left := course.left - copied }
  require (distance ≤ longestDistance)
  match namedText? copied (distance - reach - 1) with
  | some text =>
    require (text.length ≤ course.left)
    text.forM Decoder.write
    return { course with left := course.left - text.length }
  | none => corrupt

def commands (layout : Layout) : Nat → Course → Decoder Recent
  | 0, _ => corrupt
  | fuel + 1, course => do
    let split ← course.commands.ready
    let course := { course with commands := split.spend }
    let command ← (codeAt layout.commandCodes split.type).read
    let (inserted, copied) ← commandLengths command
    require (inserted ≤ course.left)
    let course := { course with
      literals := ← literals layout inserted course.literals
      left := course.left - inserted }
    if course.left = 0 then return course.recent
    let (course, distance, isNew) ← distance layout command copied course
    let course ← copy layout copied distance isNew course
    if course.left = 0 then return course.recent
    commands layout fuel course

def modes : Nat → Decoder (List ContextMode)
  | 0 => return []
  | count + 1 => do
    let first := ContextMode.ofNumber (← number 2)
    return first :: (← modes count)

structure Window where
  reach : Nat
  bits : Nat
deriving Repr

def filled (window : Window) (recent : Recent) (length : Nat) : Decoder Recent := do
  let literals ← split
  let commandSplit ← split
  let distances ← split
  let lowBits ← number 2
  let form : DistanceForm := ⟨lowBits, (← number 4) * Nat.pow 2 lowBits⟩
  let modes ← modes literals.types
  let (literalCount, literalMap) ← codeMap (literals.types * 64)
  let (distanceCount, distanceMap) ← codeMap (distances.types * 4)
  let literalCodes ← codes 256 literalCount
  let commandCodes ← codes 704 commandSplit.types
  let distanceCodes ← codes (form.alphabet window.bits) distanceCount
  commands {
    modes := modes.toArray
    literalMap, distanceMap, form
    literalCodes := literalCodes.toArray
    commandCodes := commandCodes.toArray
    distanceCodes := distanceCodes.toArray
    reach := window.reach } (length + (← get).room + 1)
    { literals, commands := commandSplit, distances, recent, left := length }

/-! ### Streams -/

def padding : Decoder Unit := do require ((← align) = 0)

/-- A number in pieces of so many bits, the low ones first. The last piece of several
is not zero, or the number would be shorter; `least` pieces may hold any number. -/
def pieces (bits least : Nat) (count : Nat) : Decoder Nat := do
  let value ← number (bits * (count - 1))
  let last ← number bits
  require (count ≤ least || last != 0)
  return value + last * Nat.pow 2 (bits * (count - 1))

def passOver : Nat → Decoder Unit
  | 0 => return
  | count + 1 => do
    let _ ← number 8
    passOver count

def skipped : Decoder Unit := do
  require ((← bit) = 0)
  let count ← number 2
  let length ← if count = 0 then pure 0 else pure (1 + (← pieces 8 1 count))
  padding
  passOver length

def block (window : Window) (isLast : Bool) (recent : Recent) : Decoder Recent := do
  let size ← number 2
  if size = 3 then
    skipped
    return recent
  let length := 1 + (← pieces 4 4 (size + 4))
  let isStored ← if isLast then pure 0 else bit
  if isStored = 1 then
    padding
    Decoder.copyInput length
    return recent
  filled window recent length

def blocks (window : Window) : Nat → Recent → Decoder Unit
  | 0, _ => throw .starved
  | fuel + 1, recent => do
    let isLast := (← bit) = 1
    if isLast then
      let isEmpty := (← bit) = 1
      if !isEmpty then
        let _ ← block window true recent
      padding
    else
      blocks window fuel (← block window false recent)

def windowBits : Decoder (Nat × Bool) := do
  if (← bit) = 0 then return (16, false)
  let wide ← number 3
  if wide != 0 then return (17 + wide, false)
  match ← number 3 with
  | 0 => return (17, false)
  | 1 =>
    require ((← bit) = 0)
    let bits ← number 6
    require (10 ≤ bits && bits ≤ 30)
    return (bits, true)
  | narrow => return (8 + narrow, false)

def stream : Decoder Unit := do
  let (bits, isLarge) ← windowBits
  let window : Window := ⟨Nat.pow 2 bits - 16, if isLarge then 62 else 24⟩
  blocks window ((← get).room + 1) [4, 11, 15, 16]

end Roster.Coding.Brotli
