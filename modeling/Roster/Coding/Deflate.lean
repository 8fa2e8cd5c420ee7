import Roster.Coding.Tape

/-!
Streams of deflated bytes: a header, blocks that are stored or hold literals and copies
under two prefix codes, and the checksum of what was written. Headers and checksums are
of two kinds, those of zlib and those of gzip.
-/

namespace Roster.Coding.Deflate

open Text (Bytes)
open Decoder (number numbers align require corrupt)

/-! ### Copies -/

def lengthClass (symbol : Nat) : Nat × Nat :=
  if symbol < 8 then (3 + symbol, 0)
  else if symbol = 28 then (258, 0)
  else
    let extra := symbol / 4 - 1
    (3 + (4 + symbol % 4) * Nat.pow 2 extra, extra)

def distanceClass (symbol : Nat) : Nat × Nat :=
  if symbol < 4 then (1 + symbol, 0)
  else
    let extra := symbol / 2 - 1
    (1 + (2 + symbol % 2) * Nat.pow 2 extra, extra)

def spread (least : Nat × Nat) : Decoder Nat := return least.1 + (← number least.2)

/-! ### Blocks -/

structure Codes where
  literals : PrefixCode
  distances : PrefixCode

/-- The symbol at which a block ends. Lower ones are literals, higher ones copies. -/
def blockEnd : Nat := 256

def fixedCodes : Codes where
  literals := .ofLengths (List.replicate 144 8 ++ List.replicate 112 9 ++ List.replicate 24 7 ++
    List.replicate 8 8)
  distances := .ofLengths (List.replicate 32 5)

/-- The content of a block. Every symbol takes a bit, so fuel of as many units as there
are bits is enough. -/
def content (codes : Codes) : Nat → Decoder Unit
  | 0 => throw .starved
  | fuel + 1 => do
    let symbol ← codes.literals.read
    if symbol = blockEnd then return
    if symbol < blockEnd then
      Decoder.write (UInt8.ofNat symbol)
    else
      require (symbol ≤ 285)
      let length ← spread (lengthClass (symbol - 257))
      let distance ← codes.distances.read
      require (distance ≤ 29)
      Decoder.copyOutput (← spread (distanceClass distance)) length
    content codes fuel

/-- Lengths make up a code if they are complete or those of a single symbol. -/
def code? (lengths : List Nat) : Decoder PrefixCode := do
  require (PrefixCode.isComplete lengths || lengths.countP (0 < ·) ≤ 1)
  return .ofLengths lengths

def lengthOrder : List Nat := [16, 17, 18, 0, 8, 7, 9, 6, 10, 5, 11, 4, 12, 3, 13, 2, 14, 1, 15]

/-- So many lengths, the last one told first in `known`: each told itself, or as
repetitions of the one before or of zero. -/
def lengths (code : PrefixCode) (wanted : Nat) : Nat → List Nat → Decoder (List Nat)
  | 0, _ => throw .starved
  | fuel + 1, known => do
    if wanted ≤ known.length then
      require (known.length = wanted)
      return known.reverse
    let symbol ← code.read
    let more ← match symbol, known with
      | 16, [] => corrupt
      | 16, last :: _ => pure (List.replicate (3 + (← number 2)) last)
      | 17, _ => pure (List.replicate (3 + (← number 3)) 0)
      | 18, _ => pure (List.replicate (11 + (← number 7)) 0)
      | length, _ => pure [length]
    lengths code wanted fuel (more ++ known)

def toldCodes : Decoder Codes := do
  let literals := 257 + (← number 5)
  let distances := 1 + (← number 5)
  let told := 4 + (← number 4)
  require (literals ≤ 286 && distances ≤ 30)
  let lengthLengths := lengthOrder.zip (← numbers 3 told)
  let code ← code? ((List.range 19).map fun symbol => (lengthLengths.lookup symbol).getD 0)
  let all ← lengths code (literals + distances) (literals + distances + 1) []
  return ⟨← code? (all.take literals), ← code? (all.drop literals)⟩

def stored : Decoder Unit := do
  let _ ← align
  let length ← number 16
  require ((← number 16) = 0xFFFF - length)
  Decoder.copyInput length

def blocks : Nat → Decoder Unit
  | 0 => throw .starved
  | fuel + 1 => do
    let isLast ← number 1
    match ← number 2 with
    | 0 => stored
    | 1 => content fixedCodes ((← get).room + 1)
    | 2 => content (← toldCodes) ((← get).room + 1)
    | _ => corrupt
    if isLast = 1 then return
    blocks fuel

/-! ### Streams of zlib -/

/-- The checksum of bytes: their sum and the sum of all sums on the way, both from 1 on. -/
def checksum (bytes : Array UInt8) : Nat :=
  let (sum, sums) := bytes.foldl (fun (sum, sums) byte =>
    let sum := (sum + byte.toNat) % 65521
    (sum, (sums + sum) % 65521)) (1, 0)
  sums * 0x10000 + sum

/-- The header names the method and the reach of copies; it is a multiple of 31 and
asks for no words that are agreed on beforehand. -/
def header : Decoder Unit := do
  let method ← number 8
  let flags ← number 8
  require (method % 16 = 8 && method / 16 ≤ 7 && (method * 256 + flags) % 31 = 0 &&
    flags / 32 % 2 = 0)

def stream : Decoder Unit := do
  header
  blocks ((← get).room + 1)
  let _ ← align
  let told ← numbers 8 4
  require (told.foldl (fun sum byte => sum * 256 + byte) 0 = checksum (← get).output)

/-! ### Streams of gzip -/

def shiftRemainder (remainder : UInt32) : UInt32 :=
  if remainder &&& 1 = 1 then remainder >>> 1 ^^^ 0xEDB88320 else remainder >>> 1

def remainder (bytes : Bytes) : Nat :=
  (~~~ bytes.foldl (fun remainder byte =>
    (List.range 8).foldl (fun remainder _ => shiftRemainder remainder)
      (remainder ^^^ byte.toUInt32)) 0xFFFFFFFF).toNat

def skipText : Nat → Decoder Unit
  | 0 => do if (← number 8) ≠ 0 then throw (.refused .gzipField)
  | room + 1 => do if (← number 8) ≠ 0 then skipText room

/-- The header begins with a mark, the method and flags, which say what else stands in it;
the last of that may be a remainder of the header itself. Nothing of it is looked at before
its first ten bytes are there. -/
def gzipHeader : Decoder Unit := do
  let whole := (← get).input
  match ← numbers 8 10 with
  | 0x1F :: 0x8B :: 8 :: flags :: _ =>
    if 0x20 ≤ flags then throw (.refused .gzipHeader)
    if flags / 4 % 2 = 1 then let _ ← numbers 8 (← number 16)
    if flags / 8 % 2 = 1 then skipText 65535
    if flags / 16 % 2 = 1 then skipText 65535
    if flags / 2 % 2 = 1 then
      let passed := whole.take (whole.length - (← get).input.length)
      if (← number 16) ≠ remainder passed % 0x10000 then throw (.refused .gzipChecksum)
  | _ => throw (.refused .gzipHeader)

def gzip : Decoder Unit := do
  gzipHeader
  blocks ((← get).room + 1)
  let _ ← align
  let told ← numbers 32 2
  let written := (← get).output.toList
  if told ≠ [remainder written, written.length % Nat.pow 2 32] then throw .unsound

end Roster.Coding.Deflate
