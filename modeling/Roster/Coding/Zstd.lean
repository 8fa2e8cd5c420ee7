import Roster.Coding.Tape

/-!
Rows of frames as zstd makes them. A frame holds blocks, which stand as they are, repeat one byte
or are compressed: then they hold literals, mostly under a prefix code, and sequences, each of
which takes some of the literals and copies what was written before. Codes and sequences are read
from the end of their bytes backwards, sequences by tables of states. Other frames are passed over.
-/

namespace Roster.Coding.Zstd

open Text (Bytes)
open Decoder (number bytes align require corrupt)

def refuse {α : Type} (words : String) : Decoder α := throw (.refused (.frame words))

def orCorrupt {α : Type} : Option α → Decoder α
  | some a => pure a
  | none => corrupt

def ifStarved {α : Type} (halt : Halt) (decoder : Decoder α) : Decoder α :=
  tryCatch decoder fun
    | .starved => throw halt
    | other => throw other

/-! ### Bits from behind -/

/-- Bits that are read from behind. Beyond the last one there are zeros, and `owed` counts those
that were read. -/
structure Bits where
  left : List Bool
  owed : Nat := 0
deriving Repr

namespace Bits

/-- The bits of bytes, the last byte first and of each byte the high bits. They begin behind the
first bit that is set, and there has to be one in the last byte. -/
def ofBytes? (bytes : Bytes) : Option Bits :=
  if bytes.getLast?.getD 0 = 0 then none
  else
    let bits := bytes.reverse.flatMap fun byte =>
      (List.range 8).map fun n => byte.toNat.testBit (7 - n)
    some { left := (bits.dropWhile (!·)).drop 1 }

def peek (bits : Bits) (count : Nat) : Nat :=
  let there := bits.left.take count
  there.foldl (fun n bit => 2 * n + bit.toNat) 0 * Nat.pow 2 (count - there.length)

def drop (bits : Bits) (count : Nat) : Bits where
  left := bits.left.drop count
  owed := bits.owed + (count - (bits.left.take count).length)

def isSpent (bits : Bits) : Bool := bits.left.isEmpty && bits.owed == 0

end Bits

/-! ### Tables of states -/

/-- A state: its symbol, and the states that may follow, which are as many as some bits can tell
apart, from `first` on. -/
structure Cell where
  symbol : Nat
  bits : Nat
  first : Nat
deriving Repr

structure Table where
  log : Nat
  cells : Array Cell
deriving Repr

namespace Table

def cell (table : Table) (state : Nat) : Cell := table.cells.getD state ⟨0, 0, 0⟩

def next (table : Table) (state : Nat) (bits : Bits) : Nat × Bits :=
  let cell := table.cell state
  (cell.first + bits.peek cell.bits, bits.drop cell.bits)

def start (table : Table) (bits : Bits) : Nat × Bits := (bits.peek table.log, bits.drop table.log)

def single (symbol : Nat) : Table := ⟨0, #[⟨symbol, 0, 0⟩]⟩

/-- The symbols of the states, if each symbol has a share of them. A share of -1 is one state at
the end of the table; the others go round in fixed steps. -/
def spread (log : Nat) (shares : List Int) : List Nat :=
  let size := Nat.pow 2 log
  let rare := (shares.zipIdx.filter (·.1 == -1)).map (·.2)
  let common := shares.zipIdx.flatMap fun (share, symbol) => List.replicate share.toNat symbol
  let step := size / 2 + size / 8 + 3
  let places := ((List.range size).map fun n => n * step % size).filter (· < size - rare.length)
  let placed := places.zip common ++ ((List.range rare.length).map (size - 1 - ·)).zip rare
  (placed.foldl (fun symbols (place, symbol) => symbols.setIfInBounds place symbol)
    (Array.replicate size 0)).toList

/-- The states of a symbol have the numbers from its share on, in their order; what such a number
lacks to the size of the table is told by bits. -/
def ofShares (log : Nat) (shares : List Int) : Table where
  log := log
  cells :=
    let counts := (shares.map Int.natAbs).toArray
    ((spread log shares).foldl (fun (cells, counts) symbol =>
      let number := counts.getD symbol 0
      let bits := log - number.log2
      (cells.push ⟨symbol, bits, number * Nat.pow 2 bits - Nat.pow 2 log⟩,
        counts.setIfInBounds symbol (number + 1))) ((#[] : Array Cell), counts)).1

def gap : Nat → Decoder Nat
  | 0 => corrupt
  | fuel + 1 => do
    let more ← number 2
    if more < 3 then return more
    return 3 + (← gap fuel)

/-- Shares until none of the states are left, the last one told first in `known`. Values that
leave a bit unused take a bit less. -/
def shares (most : Nat) : Nat → Nat → List Int → Decoder (List Int)
  | _, 0, known => return known.reverse
  | 0, _, _ => corrupt
  | fuel + 1, left, known => do
    let bits := (left + 1).log2
    let spare := Nat.pow 2 (bits + 1) - 2 - left
    let low ← number bits
    let value ← if low < spare then pure low else
      do pure (if (← number 1) = 1 then low + Nat.pow 2 bits - spare else low)
    if value = 1 then
      shares most fuel left (List.replicate (1 + (← gap most)) 0 ++ known)
    else
      let share : Int := value - 1
      shares most fuel (left - share.natAbs) (share :: known)

def told (longest most : Nat) : Decoder Table := do
  let log := 5 + (← number 4)
  require (log ≤ longest)
  let all ← shares (most + 1) (most + 1) (Nat.pow 2 log) []
  require (all.length ≤ most + 1)
  let _ ← align
  return ofShares log all

end Table

/-! ### Prefix codes -/

structure Tree where
  log : Nat
  cells : Array (UInt8 × Nat)
deriving Repr

namespace Tree

def longest : Nat := 12

/-- The code of symbols with these weights, where a weight more is a bit less. The weight of the
last symbol is what the others leave over. -/
def ofWeights? (weights : List Nat) : Option Tree :=
  let total := weights.foldl (fun total weight => total + Nat.pow 2 weight / 2) 0
  let log := total.log2 + 1
  let rest := Nat.pow 2 log - total
  let all := weights ++ [rest.log2 + 1]
  if weights.all (· ≤ longest) && total != 0 && log ≤ longest && rest == Nat.pow 2 rest.log2 &&
      2 ≤ all.count 1 && all.count 1 % 2 == 0 then
    some {
      log
      cells := ((List.range log).flatMap fun n =>
        (all.zipIdx.filter (·.1 == n + 1)).flatMap fun (_, symbol) =>
          List.replicate (Nat.pow 2 n) (UInt8.ofNat symbol, log - n)).toArray }
  else none

/-- Weights under two states in turn, until there are no bits for the next one. -/
def weave (table : Table) : Nat → Nat → Nat → Bits → Option (List Nat)
  | 0, _, _, _ => none
  | fuel + 1, own, other, bits =>
    let (next, bits) := table.next own bits
    let symbol := (table.cell own).symbol
    if bits.owed = 0 then (symbol :: ·) <$> weave table fuel other next bits
    else some [symbol, (table.cell other).symbol]

def weights : Decoder (List Nat) := do
  let head ← number 8
  if 128 ≤ head then
    let count := head - 127
    let halves := (← bytes ((count + 1) / 2)).flatMap fun byte =>
      [byte.toNat / 16, byte.toNat % 16]
    return halves.take count
  else
    let behind := (← get).input.drop head
    modify fun tape => { tape with input := tape.input.take head }
    let table ← Table.told 6 255
    let bits ← orCorrupt (Bits.ofBytes? (← get).input)
    let (own, bits) := table.start bits
    let (other, bits) := table.start bits
    modify fun tape => { tape with input := behind }
    orCorrupt (weave table 254 own other bits)

def read (tree : Tree) : Nat → Bits → Array UInt8 → Option (Array UInt8)
  | 0, bits, known => if bits.isSpent then some known else none
  | count + 1, bits, known =>
    let (symbol, length) := tree.cells.getD (bits.peek tree.log) (0, 0)
    read tree count (bits.drop length) (known.push symbol)

end Tree

/-! ### Literals -/

/-- What a block leaves to the next one: its code, its tables and the three last distances. -/
structure Memory where
  tree : Option Tree := none
  tables : Option (Table × Table × Table) := none
  recent : Nat × Nat × Nat := (1, 4, 8)

def coded (tree : Tree) (inFour : Bool) (size : Nat) (input : Bytes) : Option (Array UInt8) := do
  if inFour then
    let length (n : Nat) : Nat :=
      (input.getD (2 * n) 0).toNat + 256 * (input.getD (2 * n + 1) 0).toNat
    let quarter := (size + 3) / 4
    if input.length < 10 || input.length < 6 + length 0 + length 1 + length 2 ||
        size < 3 * quarter then none
    let streams := input.drop 6
    let read (count skipped length : Nat) : Option (Array UInt8) := do
      tree.read count (← Bits.ofBytes? ((streams.drop skipped).take length)) #[]
    let first ← read quarter 0 (length 0)
    let second ← read quarter (length 0) (length 1)
    let third ← read quarter (length 0 + length 1) (length 2)
    let fourth ← read (size - 3 * quarter) (length 0 + length 1 + length 2) input.length
    return first ++ second ++ third ++ fourth
  else tree.read size (← Bits.ofBytes? input) #[]

def literals (tree? : Option Tree) : Decoder (Bytes × Option Tree) := do
  let kind ← number 2
  if kind < 2 then
    let size ← number (← match ← number 1 with
      | 0 => pure 5
      | _ => do pure (if (← number 1) = 0 then 12 else 20))
    if kind = 0 then return (← bytes size, tree?)
    return (List.replicate size (UInt8.ofNat (← number 8)), tree?)
  else
    let format ← number 2
    let width := [10, 10, 14, 18].getD format 0
    let size ← number width
    let packed ← number width
    if kind = 3 && tree?.isNone then refuse "Dictionary is corrupted"
    require (size ≤ 0x20000)
    if format != 0 && size < 6 then
      refuse "Header of Literals' block doesn't respect format specification"
    let input ← bytes packed
    let behind := (← get).input
    modify fun tape => { tape with input }
    let tree ← if kind = 3 then orCorrupt tree?
      else do orCorrupt (Tree.ofWeights? (← Tree.weights))
    let symbols ← orCorrupt (coded tree (format != 0) size (← get).input)
    modify fun tape => { tape with input := behind }
    return (symbols.toList, some tree)

/-! ### Sequences -/

structure Sequence where
  literals : Nat
  /-- A distance and 3, or up to 3 one of the last distances. -/
  distance : Nat
  length : Nat
deriving Repr

def literalClasses : List (Nat × Nat) :=
  classes 0 (List.replicate 16 0 ++
    [1, 1, 1, 1, 2, 2, 3, 3, 4, 6, 7, 8, 9, 10, 11, 12, 13, 14, 15, 16])

def lengthClasses : List (Nat × Nat) :=
  classes 3 (List.replicate 32 0 ++
    [1, 1, 1, 1, 2, 2, 3, 3, 4, 4, 5, 7, 8, 9, 10, 11, 12, 13, 14, 15, 16])

def valueIn (classes : List (Nat × Nat)) (symbol : Nat) (bits : Bits) : Nat × Bits :=
  let (first, extra) := classes.getD symbol (0, 0)
  (first + bits.peek extra, bits.drop extra)

def literalShares : List Int :=
  [4, 3, 2, 2, 2, 2, 2, 2, 2, 2, 2, 2, 2, 1, 1, 1, 2, 2, 2, 2, 2, 2, 2, 2, 2, 3, 2, 1, 1, 1, 1, 1,
    -1, -1, -1, -1]

def distanceShares : List Int :=
  [1, 1, 1, 1, 1, 1, 2, 2, 2, 1, 1, 1, 1, 1, 1, 1, 1, 1, 1, 1, 1, 1, 1, 1, -1, -1, -1, -1, -1]

def lengthShares : List Int :=
  [1, 4, 3, 2, 2, 2, 2, 2, 2] ++ List.replicate 37 1 ++ List.replicate 7 (-1)

/-- A table is agreed on, has one symbol, stands here, or is the last one of its kind. -/
def table (mode : Nat) (agreed : Table) (longest most : Nat) (last? : Option Table) :
    Decoder Table := do
  match mode with
  | 0 => return agreed
  | 1 =>
    let symbol ← number 8
    require (symbol ≤ most)
    return .single symbol
  | 2 => Table.told longest most
  | _ => orCorrupt last?

/-- Sequences under three states. The last one has no state behind it, and all bits are read with
it. -/
def unpack (tables : Table × Table × Table) : Nat → Nat × Nat × Nat → Bits → Array Sequence →
    Option (List Sequence)
  | 0, _, bits, known => if bits.isSpent then some known.toList else none
  | count + 1, (literalState, distanceState, lengthState), bits, known =>
    let (literalTable, distanceTable, lengthTable) := tables
    -- The bits of the distance come first, those of the next states in another order.
    let extra := (distanceTable.cell distanceState).symbol
    let (distance, bits) := (Nat.pow 2 extra + bits.peek extra, bits.drop extra)
    let (length, bits) := valueIn lengthClasses (lengthTable.cell lengthState).symbol bits
    let (literals, bits) := valueIn literalClasses (literalTable.cell literalState).symbol bits
    let known := known.push { literals, distance, length }
    if count = 0 then unpack tables count (literalState, distanceState, lengthState) bits known
    else
      let (literalState, bits) := literalTable.next literalState bits
      let (lengthState, bits) := lengthTable.next lengthState bits
      let (distanceState, bits) := distanceTable.next distanceState bits
      unpack tables count (literalState, distanceState, lengthState) bits known

def sequencesHead : Decoder (Nat × Nat) := do
  let count ← match ← number 8 with
    | 255 => do pure ((← number 16) + 0x7F00)
    | first => if first < 128 then pure first else do pure ((first - 128) * 256 + (← number 8))
  return (count, ← if count = 0 then pure 0 else number 8)

def sequences (last? : Option (Table × Table × Table)) :
    Decoder (List Sequence × Option (Table × Table × Table)) := do
  let (count, modes) ← ifStarved (.refused (.frame "Src size is incorrect")) sequencesHead
  if count = 0 then
    require (← get).input.isEmpty
    return ([], last?)
  let literalTable ← table (modes / 64) (.ofShares 6 literalShares) 9 35 (last?.map (·.1))
  let distanceTable ← table (modes / 16 % 4) (.ofShares 5 distanceShares) 8 31 (last?.map (·.2.1))
  let lengthTable ← table (modes / 4 % 4) (.ofShares 6 lengthShares) 9 52 (last?.map (·.2.2))
  let tables := (literalTable, distanceTable, lengthTable)
  let bits ← orCorrupt (Bits.ofBytes? (← get).input)
  let (literalState, bits) := literalTable.start bits
  let (distanceState, bits) := distanceTable.start bits
  let (lengthState, bits) := lengthTable.start bits
  let all ← orCorrupt (unpack tables count (literalState, distanceState, lengthState) bits #[])
  return (all, some tables)

/-- The distance that a sequence tells, and the three last ones after it. Where no literals stand
between two copies, the last distance is not meant, but the one before it, and at last the last
one less 1. -/
def resolve (sequence : Sequence) (recent : Nat × Nat × Nat) : Nat × Nat × Nat :=
  let (first, second, third) := recent
  if 3 < sequence.distance then (sequence.distance - 3, first, second)
  else match sequence.distance + if sequence.literals = 0 then 1 else 0 with
    | 1 => (first, second, third)
    | 2 => (second, first, third)
    | 3 => (third, first, second)
    | _ => (first - 1, first, second)

def writeAll (bytes : Bytes) : Decoder Unit :=
  modify fun tape => { tape with output := tape.output ++ bytes }

def execute (start : Nat) : List Sequence → Bytes → Nat × Nat × Nat → Decoder (Nat × Nat × Nat)
  | [], literals, recent => do
    writeAll literals
    return recent
  | sequence :: rest, literals, recent => do
    require (sequence.literals ≤ literals.length)
    writeAll (literals.take sequence.literals)
    let recent := resolve sequence recent
    require (recent.1 != 0 && recent.1 ≤ (← get).output.size - start)
    Decoder.copyOutput recent.1 sequence.length
    execute start rest (literals.drop sequence.literals) recent

/-! ### Checksums -/

def prime : Fin 5 → UInt64
  | 0 => 0x9E3779B185EBCA87
  | 1 => 0xC2B2AE3D27D4EB4F
  | 2 => 0x165667B19E3779F9
  | 3 => 0x85EBCA77C2B2AE63
  | 4 => 0x27D4EB2F165667C5

def rotate (word count : UInt64) : UInt64 := word <<< count ||| word >>> (64 - count)

def mix (lane word : UInt64) : UInt64 := rotate (lane + word * prime 1) 31 * prime 0

def word (count : Nat) (bytes : Bytes) : UInt64 :=
  (bytes.take count).foldr (fun byte word => byte.toUInt64 + 256 * word) 0

def mixRows : Nat → Bytes → List UInt64 → List UInt64
  | 0, _, lanes => lanes
  | rows + 1, bytes, lanes =>
    mixRows rows (bytes.drop 32)
      (lanes.zipIdx.map fun (lane, n) => mix lane (word 8 (bytes.drop (8 * n))))

def mixRest (sum : UInt64) (bytes : Bytes) : UInt64 :=
  let sum := (List.range (bytes.length / 8)).foldl (fun sum n =>
    rotate (sum ^^^ mix 0 (word 8 (bytes.drop (8 * n)))) 27 * prime 0 + prime 3) sum
  let bytes := bytes.drop (bytes.length / 8 * 8)
  let sum := if bytes.length < 4 then sum
    else rotate (sum ^^^ word 4 bytes * prime 0) 23 * prime 1 + prime 2
  (bytes.drop (bytes.length / 4 * 4)).foldl (fun sum byte =>
    rotate (sum ^^^ byte.toUInt64 * prime 4) 11 * prime 0) sum

def checksum (bytes : Bytes) : Nat :=
  let rows := bytes.length / 32
  let lanes := mixRows rows bytes [prime 0 + prime 1, prime 1, 0, 0 - prime 0]
  let sum := if rows = 0 then prime 4
    else lanes.foldl (fun sum lane => (sum ^^^ mix 0 lane) * prime 0 + prime 3)
      ((lanes.zip [1, 7, 12, 18]).foldl (fun sum (lane, count) => sum + rotate lane count) 0)
  let sum := mixRest (sum + UInt64.ofNat bytes.length) (bytes.drop (rows * 32))
  let sum := (sum ^^^ sum >>> 33) * prime 1
  let sum := (sum ^^^ sum >>> 29) * prime 2
  (sum ^^^ sum >>> 32).toNat % Nat.pow 2 32

/-! ### Frames -/

/-- A compressed block, which is looked at when all of it is there. -/
def compressed (start size : Nat) (memory : Memory) : Decoder Memory := do
  let input ← bytes size
  let behind := (← get).input
  modify fun tape => { tape with input }
  let inside : Decoder (Bytes × List Sequence × Memory) := do
    let (literals, tree) ← literals memory.tree
    let (all, tables) ← sequences memory.tables
    return (literals, all, { memory with tree, tables })
  let (literals, all, memory) ← ifStarved .corrupt inside
  modify fun tape => { tape with input := behind }
  return { memory with recent := ← execute start all literals memory.recent }

def blocks (start limit : Nat) : Nat → Memory → Decoder Unit
  | 0, _ => throw .starved
  | fuel + 1, memory => do
    let isLast ← number 1
    let kind ← number 2
    let size ← number 21
    require (kind != 3 && (kind == 1 || size ≤ limit))
    let before := (← get).output.size
    let memory ← match kind with
      | 0 => do
        Decoder.copyInput size
        pure memory
      | 1 => do
        writeAll (List.replicate size (UInt8.ofNat (← number 8)))
        pure memory
      | _ => if size = 0 then pure memory else compressed start size memory
    require ((← get).output.size - before ≤ limit)
    if isLast = 1 then return
    blocks start limit fuel memory

def tooLarge : String := "Frame requires too much memory for decoding"

def blockLimit : Nat := Nat.pow 2 17

def reachLimit : Nat := Nat.pow 2 27 + 1

/-- A frame behind its mark. Its header tells how far back copies reach, whose words it takes for
known, and how many bytes it comes to. -/
def frame : Decoder Unit := do
  let start := (← get).output.size
  let flags ← number 8
  let single := flags / 32 % 2 = 1
  let reach ← if single then pure 0 else number 8
  let dictionary ← number (8 * [0, 1, 2, 4].getD (flags % 4) 0)
  let sizeBytes := if flags / 64 = 0 then (if single then 1 else 0) else Nat.pow 2 (flags / 64)
  let told ← number (8 * sizeBytes)
  let size := if sizeBytes = 2 then told + 256 else told
  if flags / 8 % 2 = 1 then refuse "Unsupported frame parameter"
  let window := if single then size
    else Nat.pow 2 (10 + reach / 8) + Nat.pow 2 (10 + reach / 8) / 8 * (reach % 8)
  if 31 < 10 + reach / 8 then refuse tooLarge
  if dictionary ≠ 0 then refuse "Dictionary mismatch"
  if reachLimit < window then refuse tooLarge
  blocks start (min window blockLimit) ((← get).room + 1) {}
  let written := (← get).output.toList.drop start
  require (sizeBytes = 0 || written.length = size)
  if flags / 4 % 2 = 1 then
    if (← number 32) ≠ checksum written then refuse "Restored data doesn't match checksum"

def beginsSkipped : Bytes → Bool
  | [] => true
  | first :: rest => first &&& 0xF0 = 0x50 &&
      (rest.zip [0x2A, 0x4D, 0x18]).all fun (byte, mark) => byte = mark

def beginsFrame (bytes : Bytes) : Bool :=
  (bytes.zip [0x28, 0xB5, 0x2F, 0xFD]).all fun (byte, mark) => byte = mark

def frames : Nat → Decoder Unit
  | 0 => throw .starved
  | fuel + 1 => do
    let input := (← get).input
    if input.isEmpty then return
    if beginsSkipped input then
      let _ ← number 32
      let _ ← bytes (← number 32)
    else
      if !beginsFrame input then refuse "Unknown frame descriptor"
      let _ ← number 32
      frame
    frames fuel

def stream : Decoder Unit := do frames ((← get).input.length + 1)

end Roster.Coding.Zstd
