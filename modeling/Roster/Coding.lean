import Roster.Coding.Brotli
import Roster.Coding.Deflate
import Roster.Coding.Zstd
import Roster.Text.Plain

/-!
Codings of bodies. A body is read up to its end even if the stream in it has none; what
the stream holds as far as it goes is what was sent.
-/

namespace Roster

open Text (Bytes)

inductive Coding where
  | identity
  | gzip
  | deflate
  | brotli
  | zstd
deriving DecidableEq, Repr

namespace Coding

def names : List (String × Coding) :=
  [("identity", .identity), ("gzip", .gzip), ("deflate", .deflate), ("br", .brotli),
    ("zstd", .zstd)]

def ofName (name : String) : Coding :=
  (names.lookup (String.ofList ((Text.trimChars name.toList).map Char.toLower))).getD .identity

/-- What came out of a body, and what proved to be wrong with it in the end. Of that only
those are told who have taken the content. -/
structure Decoded where
  content : Bytes
  flaw? : Option Flaw := none
deriving DecidableEq, Repr

/-- Runs a decoder over all of its input. `flaw` is what is wrong with an input that is no
stream, and `open?` with one that has no end. -/
def run (decoder : Decoder Unit) (flaw : Flaw) (open? : Option Flaw) (input : Bytes) :
    Except Flaw Decoded :=
  match StateT.run decoder.run { input } with
  | (.ok (), tape) =>
    if tape.input.isEmpty then .ok ⟨tape.output.toList, none⟩ else .error .excess
  | (.error .starved, tape) => .ok ⟨tape.output.toList, open?⟩
  | (.error .unsound, tape) =>
    if tape.input.isEmpty then .ok ⟨tape.output.toList, open?⟩ else .error .excess
  | (.error .corrupt, _) => .error flaw
  | (.error (.refused flaw), _) => .error flaw

def decode (coding : Coding) (body : Bytes) : Except Flaw Decoded :=
  match coding with
  | .identity => .ok ⟨body, none⟩
  | .gzip => run Deflate.gzip .deflated (some .gzipChecksum) body
  | .deflate => run Deflate.stream .deflated none body
  | .brotli => run Brotli.stream .brotli none body
  | .zstd => run Zstd.stream (.frame "Data corruption detected") none body

end Coding
end Roster
