import Roster.Text.Utf8

/-!
Decoders of compressed bytes. A decoder reads bits, the low ones of a byte first,
and writes bytes. What it has written stands even if its input ends too early.

Most formats use prefix codes that are told by the lengths of their codewords: shorter
codewords come before longer ones, and among those of one length lower symbols before
higher ones.
-/

namespace Roster.Coding

open Text (Bytes)

inductive Flaw where
  | gzipHeader
  | gzipField
  | gzipChecksum
  | deflated
  | brotli
  | frame (words : String)
  | excess
deriving DecidableEq, Repr

namespace Flaw

def kind : Flaw → String
  | .gzipHeader | .gzipField | .gzipChecksum | .deflated => "InvalidInput"
  | .brotli => "InvalidData"
  | .frame _ => "Other"
  | .excess => "WriteZero"

def words : Flaw → String
  | .gzipHeader => "invalid gzip header"
  | .gzipField => "gzip header field too long"
  | .gzipChecksum => "corrupt gzip stream does not have a matching checksum"
  | .deflated => "corrupt deflate stream"
  | .brotli => "Invalid Data"
  | .frame words => words
  | .excess => "failed to write whole buffer"

def text (flaw : Flaw) : String :=
  let (name, field) := if flaw = .excess then ("Error", "message") else ("Custom", "error")
  s!"{name} \x7b kind: {flaw.kind}, {field}: \"{flaw.words}\" \x7d"

end Flaw

inductive Halt where
  | starved
  | corrupt
  | refused (flaw : Flaw)
  /-- The stream has its end, but what was written is not what was meant. -/
  | unsound
deriving DecidableEq, Repr

/-- What is left of the input, and what was written. Of the byte at hand `held` bits
are left, the low bits of `bits`. -/
structure Tape where
  bits : Nat := 0
  held : Nat := 0
  input : Bytes
  output : Array UInt8 := #[]
deriving Repr

abbrev Decoder := ExceptT Halt (StateM Tape)

namespace Tape

def room (tape : Tape) : Nat := tape.held + 8 * tape.input.length

def back (tape : Tape) (distance : Nat) : UInt8 :=
  if distance ≤ tape.output.size then tape.output.getD (tape.output.size - distance) 0 else 0

end Tape

namespace Decoder

def corrupt {α : Type} : Decoder α := throw .corrupt

def require (condition : Bool) : Decoder Unit := if condition then pure () else corrupt

def bit : Decoder Nat := do
  let tape ← get
  match tape.held, tape.input with
  | held + 1, _ =>
    set { tape with bits := tape.bits / 2, held }
    return tape.bits % 2
  | 0, byte :: input =>
    set { tape with bits := byte.toNat / 2, held := 7, input }
    return byte.toNat % 2
  | 0, [] => throw .starved

def number : Nat → Decoder Nat
  | 0 => return 0
  | count + 1 => do
    let low ← bit
    return low + 2 * (← number count)

def align : Decoder Nat := modifyGet fun tape => (tape.bits, { tape with bits := 0, held := 0 })

def write (byte : UInt8) : Decoder Unit :=
  modify fun tape => { tape with output := tape.output.push byte }

def numbers (bits : Nat) : Nat → Decoder (List Nat)
  | 0 => return []
  | count + 1 => do
    let first ← number bits
    return first :: (← numbers bits count)

def bytes (count : Nat) : Decoder Bytes := do
  let tape ← get
  if tape.input.length < count then throw .starved
  set { tape with input := tape.input.drop count }
  return tape.input.take count

def copyInput : Nat → Decoder Unit
  | 0 => return
  | count + 1 => do
    write (UInt8.ofNat (← number 8))
    copyInput count

def copyOutput (distance : Nat) : Nat → Decoder Unit
  | 0 => return
  | count + 1 => do
    modify fun tape => { tape with output := tape.output.push (tape.back distance) }
    copyOutput distance count

end Decoder

def classes (first : Nat) : List Nat → List (Nat × Nat)
  | [] => []
  | extra :: rest => (first, extra) :: classes (first + Nat.pow 2 extra) rest

/-- How many codewords there are of length 1, 2 and so on, and the symbols in the
order of their codewords. Where there are no lengths, the one symbol takes no bits. -/
structure PrefixCode where
  counts : List Nat
  symbols : Array Nat
deriving Repr

namespace PrefixCode

def longest : Nat := 15

def single (symbol : Nat) : PrefixCode := ⟨[], #[symbol]⟩

/-- The code in which the symbols from 0 on have these lengths; 0 is the length of a
symbol that does not occur. -/
def ofLengths (lengths : List Nat) : PrefixCode where
  counts := (List.range longest).map fun n => lengths.count (n + 1)
  symbols := ((List.range longest).flatMap fun n =>
    (lengths.zipIdx.filter (·.1 == n + 1)).map (·.2)).toArray

/-- The part of all codewords that lengths take up, in units of the longest one. -/
def weight (lengths : List Nat) : Nat :=
  (lengths.map fun n => if n = 0 then 0 else Nat.pow 2 (longest - n)).foldl (· + ·) 0

def isComplete (lengths : List Nat) : Bool := weight lengths = Nat.pow 2 longest

/-- Reads on in a codeword: `offset` counts from the first codeword of the length,
whose symbol stands at `index`. -/
def walk (symbols : Array Nat) : List Nat → Nat → Nat → Decoder Nat
  | [], _, _ => Decoder.corrupt
  | count :: counts, offset, index => do
    let offset := 2 * offset + (← Decoder.bit)
    if offset < count then return symbols.getD (index + offset) 0
    else walk symbols counts (offset - count) (index + count)

def read (code : PrefixCode) : Decoder Nat :=
  match code.counts with
  | [] => return code.symbols.getD 0 0
  | counts => walk code.symbols counts 0 0

end PrefixCode
end Roster.Coding
