import Mathlib.Data.List.Chain
import Roster.Proofs.JsonLiteral
import Roster.Proofs.JsonNumeral

/-!
The tokens of a JSON text. A token is taken off the front of a text whole if nothing behind it
goes on with it, which only a number could mind; and what is taken off is such a token. So a
text is read as some tokens just when it is these tokens with white space around them, as much
or as little as one likes, as long as no two numbers follow each other.
-/

namespace Roster.Json.Token

open Text (Bytes)

def Legible : Token → Prop
  | .number lexeme => Numeral lexeme
  | .text body => Literal.Closed body
  | _ => True

def Spelled : Token → Prop
  | .number lexeme => Text.Utf8.IsText lexeme ∧
      ∀ rest, Ends rest → numberLexeme? (lexeme ++ rest) = some (lexeme, rest)
  | .text body => Text.Utf8.IsText body ∧ Literal.Closed body
  | _ => True

def isNumber : Token → Bool
  | .number _ => true
  | _ => false

theorem Spelled.legible {token : Token} (spelled : token.Spelled) : token.Legible := by
  cases token with
  | number lexeme =>
      have taken := spelled.2 [] ends_nil
      exact (numberLexeme_taken _ _ _ taken).2
  | text body => exact spelled.2
  | _ => trivial

theorem spelled_whole (run : Bytes) (whole : Whole run) : Spelled (.number run) :=
  ⟨isText_digits run whole.toDigits, fun rest => numeral_read run rest (numeral_whole run whole)⟩

theorem spelled_negative (run : Bytes) (whole : Whole run) : Spelled (.number (0x2D :: run)) :=
  ⟨Text.Utf8.isText_append [0x2D] run (Text.Utf8.isText_byte _ (by decide))
      (isText_digits run whole.toDigits),
    fun rest => numeral_read _ rest (numeral_negative run whole)⟩

theorem write_isText (token : Token) (spelled : token.Spelled) :
    Text.Utf8.IsText token.write := by
  cases token with
  | number lexeme => exact spelled.1
  | text body =>
      have quote := Text.Utf8.isText_byte 0x22 (by decide)
      exact Text.Utf8.isText_append _ _ (Text.Utf8.isText_append _ _ quote spelled.1) quote
  | bool value => cases value <;> exact Text.Utf8.isText_ascii _ rfl
  | null | braceOpen | braceClose | bracketOpen | bracketClose | colon | comma =>
      exact Text.Utf8.isText_ascii _ rfl

/-! ### One token -/

theorem first_number (first : UInt8) (others : Bytes)
    (begins : first = 0x2D ∨ isDigit first = true) :
    first? (first :: others) =
      (numberLexeme? (first :: others)).map fun (lexeme, after) => (.number lexeme, after) := by
  rcases begins with rfl | digit
  · rfl
  · have other (mark : UInt8) (plain : isDigit mark = false) : first ≠ mark := by
      rintro rfl
      rw [digit] at plain
      cases plain
    simp [first?, other 0x7B rfl, other 0x7D rfl, other 0x5B rfl, other 0x5D rfl, other 0x3A rfl,
      other 0x2C rfl, other 0x22 rfl, other 0x6E rfl, other 0x74 rfl, other 0x66 rfl]

theorem first_legible (token : Token) (rest : Bytes) (legible : token.Legible)
    (ends : token.isNumber = true → Ends rest) : first? (token.write ++ rest) = some (token, rest) := by
  cases token with
  | text body =>
      have closed := legible rest
      simp only [write, List.cons_append, List.append_assoc] at closed ⊢
      simp [first?, closed]
  | number lexeme =>
      have taken := numeral_read lexeme rest legible (ends rfl)
      obtain ⟨first, others, rfl, begins⟩ := numeral_begins lexeme legible
      rw [List.cons_append] at taken
      rw [write, List.cons_append, first_number first _ begins, taken, Option.map_some]
  | bool value => cases value <;> simp [first?, write, trueWord, falseWord, word?]
  | null => simp [first?, write, nullWord, word?]
  | braceOpen | braceClose | bracketOpen | bracketClose | colon | comma => simp [first?, write]

theorem word_taken (word bytes rest : Bytes) (named token : Token)
    (taken : word? word bytes named = some (token, rest)) :
    token = named ∧ bytes = word ++ rest := by
  rw [word?] at taken
  split at taken
  · next front =>
    obtain ⟨after, rfl⟩ := List.isPrefixOf_iff_prefix.mp front
    cases taken
    exact ⟨rfl, by rw [List.drop_left]⟩
  · cases taken

theorem first_taken (bytes rest : Bytes) (token : Token)
    (taken : first? bytes = some (token, rest)) :
    bytes = token.write ++ rest ∧ token.Legible := by
  cases bytes with
  | nil => cases taken
  | cons first others =>
      rw [first?] at taken
      have single (plain : Token) (written : plain.write = [first]) (legible : plain.Legible)
          (same : some (plain, others) = some (token, rest)) :
          first :: others = token.write ++ rest ∧ token.Legible := by
        cases same
        exact ⟨by rw [written]; rfl, legible⟩
      -- One case for each byte that begins a token, in the order in which they are tried.
      split at taken
      · next own => exact single .braceOpen (by rw [own]; rfl) trivial taken
      split at taken
      · next own => exact single .braceClose (by rw [own]; rfl) trivial taken
      split at taken
      · next own => exact single .bracketOpen (by rw [own]; rfl) trivial taken
      split at taken
      · next own => exact single .bracketClose (by rw [own]; rfl) trivial taken
      split at taken
      · next own => exact single .colon (by rw [own]; rfl) trivial taken
      split at taken
      · next own => exact single .comma (by rw [own]; rfl) trivial taken
      split at taken
      · next quote =>
        obtain ⟨⟨body, after⟩, found, same⟩ := Option.map_eq_some_iff.mp taken
        cases same
        obtain ⟨rfl, closed⟩ := Literal.stringBody_taken _ _ _ found
        exact ⟨by simp [write, quote], closed⟩
      split at taken
      · obtain ⟨rfl, split⟩ := word_taken _ _ _ _ _ taken
        exact ⟨split, trivial⟩
      split at taken
      · obtain ⟨rfl, split⟩ := word_taken _ _ _ _ _ taken
        exact ⟨split, trivial⟩
      split at taken
      · obtain ⟨rfl, split⟩ := word_taken _ _ _ _ _ taken
        exact ⟨split, trivial⟩
      · obtain ⟨⟨lexeme, after⟩, found, same⟩ := Option.map_eq_some_iff.mp taken
        cases same
        exact numberLexeme_taken _ _ _ found

/-- What begins a token is no white space, and goes on with a number only if it is one. -/
theorem write_begins (token : Token) (legible : token.Legible) :
    ∃ first others, token.write = first :: others ∧ isSpace first = false ∧
      (token.isNumber = false → ∀ rest, Ends (first :: rest)) := by
  have mark (first : UInt8) (others : Bytes) (visible : isSpace first = false)
      (digit : isDigit first = false) (ends : first ≠ 0x2E ∧ first ≠ 0x65 ∧ first ≠ 0x45) :
      ∃ byte bytes, first :: others = byte :: bytes ∧ isSpace byte = false ∧
        (token.isNumber = false → ∀ rest, Ends (byte :: rest)) :=
    ⟨first, others, rfl, visible, fun _ rest => ends_cons first rest digit ends⟩
  cases token with
  | number lexeme =>
      obtain ⟨first, others, rfl, begins⟩ := numeral_begins lexeme legible
      refine ⟨first, others, rfl, ?_, fun plain => nomatch plain⟩
      rcases begins with rfl | digit
      · rfl
      · simp only [isDigit, Bool.and_eq_true, decide_eq_true_eq, UInt8.le_iff_toNat_le] at digit
        have above : 0x30 ≤ first.toNat := digit.1
        have other (mark : UInt8) (below : mark.toNat < 0x30) : first ≠ mark := by
          rintro rfl
          omega
        simp [isSpace, other 0x20 (by decide), other 0x09 (by decide), other 0x0A (by decide),
          other 0x0D (by decide)]
  | bool value => cases value <;> exact mark _ _ rfl rfl (by decide)
  | text | null | braceOpen | braceClose | bracketOpen | bracketClose | colon | comma =>
      exact mark _ _ rfl rfl (by decide)

/-! ### Texts of tokens -/

/-- A text of these tokens, each with white space before it, and white space at the end. -/
inductive Spaced : List Token → Bytes → Prop where
  | nil (space : Bytes) (blank : ∀ byte ∈ space, isSpace byte = true) : Spaced [] space
  | cons (space : Bytes) (token : Token) {tokens : List Token} {rest : Bytes}
      (blank : ∀ byte ∈ space, isSpace byte = true) (others : Spaced tokens rest) :
      Spaced (token :: tokens) (space ++ (token.write ++ rest))

def Apart (tokens : List Token) : Prop :=
  tokens.IsChain fun token next => token.isNumber = true → next.isNumber = false

theorem spaced_write (tokens : List Token) : Spaced tokens (tokens.flatMap write) := by
  induction tokens with
  | nil => exact .nil [] (by simp)
  | cons token tokens ih => exact .cons [] token (by simp) ih

variable {tokens : List Token} {bytes : Bytes}

theorem space_ends (space : UInt8) (rest : Bytes) (blank : isSpace space = true) :
    Ends (space :: rest) := by
  simp only [isSpace, Bool.or_eq_true, beq_iff_eq] at blank
  rcases blank with ((rfl | rfl) | rfl) | rfl <;> exact ends_cons _ _ rfl (by decide)

/-- A number is told from what follows it if that is no number. -/
theorem spaced_ends (spaced : Spaced tokens bytes) (legible : ∀ token ∈ tokens, token.Legible)
    (plain : ∀ token ∈ tokens.head?, token.isNumber = false) : Ends bytes := by
  cases spaced with
  | nil _ blank =>
      cases bytes with
      | nil => exact ends_nil
      | cons first space => exact space_ends first space (blank first List.mem_cons_self)
  | cons space token blank others =>
      cases space with
      | nil =>
          obtain ⟨first, tail, front, _, ends⟩ := write_begins token (legible token List.mem_cons_self)
          rw [List.nil_append, front]
          exact ends (plain token rfl) _
      | cons first space => exact space_ends first _ (blank first List.mem_cons_self)

theorem scanWithin_spaced (rounds : Nat) (spaced : Spaced tokens bytes)
    (legible : ∀ token ∈ tokens, token.Legible) (apart : Apart tokens)
    (enough : tokens.length ≤ rounds) : scanWithin? rounds bytes = some tokens := by
  induction spaced generalizing rounds with
  | nil space blank =>
      have left : space.dropWhile isSpace = [] := List.dropWhile_eq_nil_iff.mpr blank
      cases rounds with
      | zero => rw [scanWithin?, if_pos (List.all_eq_true.mpr blank)]
      | succ rounds =>
          rw [scanWithin?, left]
  | @cons space token tokens rest blank others ih =>
      have own := legible token List.mem_cons_self
      have later : ∀ token ∈ tokens, token.Legible :=
        fun token member => legible token (List.mem_cons_of_mem _ member)
      cases rounds with
      | zero => cases enough
      | succ rounds =>
          have ends (number : token.isNumber = true) : Ends rest :=
            spaced_ends others later fun next first =>
              (List.isChain_cons.mp apart).1 next first number
          have taken := first_legible token rest own ends
          have scanned := ih rounds later apart.tail (Nat.le_of_succ_le_succ enough)
          obtain ⟨first, tail, front, visible, _⟩ := write_begins token own
          rw [scanWithin?, List.dropWhile_append_of_pos blank]
          rw [front, List.cons_append] at taken ⊢
          simp [visible, taken, scanned]

theorem spaced_length (spaced : Spaced tokens bytes) (legible : ∀ token ∈ tokens, token.Legible) :
    tokens.length ≤ bytes.length := by
  induction spaced with
  | nil => exact Nat.zero_le _
  | cons space token blank others ih =>
      obtain ⟨first, tail, front, _⟩ := write_begins token (legible token List.mem_cons_self)
      have shorter := ih fun token member => legible token (List.mem_cons_of_mem _ member)
      simp only [front, List.length_cons, List.length_append]
      omega

theorem scan_spaced (spaced : Spaced tokens bytes) (legible : ∀ token ∈ tokens, token.Legible)
    (apart : Apart tokens) : scan? bytes = some tokens :=
  scanWithin_spaced _ spaced legible apart (spaced_length spaced legible)

theorem scanWithin_taken (rounds : Nat) (scanned : scanWithin? rounds bytes = some tokens) :
    Spaced tokens bytes ∧ ∀ token ∈ tokens, token.Legible := by
  induction rounds generalizing bytes tokens with
  | zero =>
      rw [scanWithin?] at scanned
      split at scanned
      · next blank =>
        cases scanned
        exact ⟨.nil bytes (List.all_eq_true.mp blank), by simp⟩
      · cases scanned
  | succ rounds ih =>
      have parted : bytes.takeWhile isSpace ++ bytes.dropWhile isSpace = bytes :=
        List.takeWhile_append_dropWhile
      have blank : ∀ byte ∈ bytes.takeWhile isSpace, isSpace byte = true :=
        fun byte => List.mem_takeWhile_imp
      rw [scanWithin?] at scanned
      split at scanned
      · next none =>
        cases scanned
        rw [none, List.append_nil] at parted
        exact ⟨.nil bytes (parted ▸ blank), by simp⟩
      · simp only [Option.bind_eq_bind, Option.bind_eq_some_iff] at scanned
        obtain ⟨⟨token, rest⟩, taken, others, found, same⟩ := scanned
        cases same
        obtain ⟨front, legible⟩ := first_taken _ _ _ taken
        obtain ⟨spaced, later⟩ := ih found
        rw [← parted, front]
        exact ⟨.cons _ token blank spaced, List.forall_mem_cons.mpr ⟨legible, later⟩⟩

theorem scan_taken (scanned : scan? bytes = some tokens) :
    Spaced tokens bytes ∧ ∀ token ∈ tokens, token.Legible :=
  scanWithin_taken _ scanned

end Roster.Json.Token
