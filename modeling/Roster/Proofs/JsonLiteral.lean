import Roster.Json.Token
import Roster.Proofs.TextUtf8

/-!
Reading a JSON string undoes writing it. Each character is spelled in one of three ways,
and each spelling is taken off the front of a body whole: by the reader, which makes the
character of it, and by the scanner, which only looks for the closing quote.
-/

namespace Roster.Json.Literal

open Text (Bytes hexValue? Utf8.encodeChar Utf8.encodeChars)

/-- The ways a character is spelled inside a string. -/
inductive Spelling (c : Char) : Bytes → Prop where
  | short (letter : UInt8) (named : shortEscapes.lookup letter = some c.toNat) :
      Spelling c [0x5C, letter]
  | hex (first second third fourth : UInt8)
      (named : hexFour? first second third fourth = some c.toNat) (control : c.toNat < 0x20) :
      Spelling c [0x5C, 0x75, first, second, third, fourth]
  | plain (visible : 0x20 ≤ c.toNat) (quote : c.toNat ≠ 0x22) (backslash : c.toNat ≠ 0x5C) :
      Spelling c (Utf8.encodeChar c)

theorem hexDigit_value : ∀ n, n < 16 → hexValue? (hexDigit n) = some n := by decide

theorem hexFour_control (n : Nat) (control : n < 0x20) :
    hexFour? 0x30 0x30 (hexDigit (n / 16)) (hexDigit (n % 16)) = some n := by
  have zero : hexValue? 0x30 = some 0 := by decide
  have high := hexDigit_value (n / 16) (by omega)
  have low := hexDigit_value (n % 16) (by omega)
  simp only [hexFour?, zero, high, low, Option.bind_eq_bind, Option.bind_some, Option.pure_def,
    Option.some.injEq]
  omega

theorem escapeChar_spelling (c : Char) : Spelling c (escapeChar c) := by
  unfold escapeChar
  by_cases quote : c.toNat = 0x22
  · simpa [quote] using Spelling.short (c := c) 0x22 (by rw [quote]; rfl)
  by_cases backslash : c.toNat = 0x5C
  · simpa [backslash] using Spelling.short (c := c) 0x5C (by rw [backslash]; rfl)
  by_cases back : c.toNat = 0x08
  · simpa [back] using Spelling.short (c := c) 0x62 (by rw [back]; rfl)
  by_cases tab : c.toNat = 0x09
  · simpa [tab] using Spelling.short (c := c) 0x74 (by rw [tab]; rfl)
  by_cases line : c.toNat = 0x0A
  · simpa [line] using Spelling.short (c := c) 0x6E (by rw [line]; rfl)
  by_cases form : c.toNat = 0x0C
  · simpa [form] using Spelling.short (c := c) 0x66 (by rw [form]; rfl)
  by_cases carriage : c.toNat = 0x0D
  · simpa [carriage] using Spelling.short (c := c) 0x72 (by rw [carriage]; rfl)
  by_cases control : c.toNat < 0x20
  · simpa [quote, backslash, back, tab, line, form, carriage, control] using
      Spelling.hex (c := c) _ _ _ _ (hexFour_control c.toNat control) control
  · simpa [quote, backslash, back, tab, line, form, carriage, control] using
      Spelling.plain (c := c) (Nat.not_lt.mp control) quote backslash

/-! ### What the bytes of a plain character are not -/

def IsPlain (byte : UInt8) : Prop := byte ≠ 0x22 ∧ byte ≠ 0x5C ∧ ¬ byte < 0x20

theorem isPlain_of_toNat (byte : UInt8) (n : Nat) (value : byte.toNat = n) (visible : 0x20 ≤ n)
    (quote : n ≠ 0x22) (backslash : n ≠ 0x5C) : IsPlain byte := by
  refine ⟨?_, ?_, ?_⟩
  · rintro rfl
    exact quote value.symm
  · rintro rfl
    exact backslash value.symm
  · rw [UInt8.lt_iff_toNat_lt, value]
    exact Nat.not_lt.mpr visible

theorem encodeChar_plain (c : Char) (visible : 0x20 ≤ c.toNat) (quote : c.toNat ≠ 0x22)
    (backslash : c.toNat ≠ 0x5C) (byte : UInt8) (mem : byte ∈ Utf8.encodeChar c) :
    IsPlain byte := by
  have range := Text.Utf8.char_range c
  have plain (n : Nat) (high : 0x80 ≤ n) (small : n < 0x100) : IsPlain (UInt8.ofNat n) :=
    isPlain_of_toNat _ n (Text.Utf8.byte_toNat n small) (by omega) (by omega) (by omega)
  simp only [Utf8.encodeChar] at mem
  split at mem
  · next one =>
    obtain rfl := List.mem_singleton.mp mem
    exact isPlain_of_toNat _ _ (Text.Utf8.byte_toNat _ (by omega)) visible quote backslash
  split at mem
  · simp only [List.mem_cons, List.not_mem_nil, or_false] at mem
    rcases mem with rfl | rfl
    · exact plain _ (by omega) (by omega)
    · exact plain _ (by omega) (by omega)
  split at mem
  · simp only [List.mem_cons, List.not_mem_nil, or_false] at mem
    rcases mem with rfl | rfl | rfl
    · exact plain _ (by omega) (by omega)
    · exact plain _ (by omega) (by omega)
    · exact plain _ (by omega) (by omega)
  · simp only [List.mem_cons, List.not_mem_nil, or_false] at mem
    rcases mem with rfl | rfl | rfl | rfl
    · exact plain _ (by omega) (by omega)
    · exact plain _ (by omega) (by omega)
    · exact plain _ (by omega) (by omega)
    · exact plain _ (by omega) (by omega)

/-! ### Reading -/

section Symbols

variable (rest : Bytes)

theorem symbols_plain (byte : UInt8) (plain : IsPlain byte) :
    symbols? (byte :: rest) = (symbols? rest).map (.byte byte :: ·) := by
  cases rest with
  | nil => simp [symbols?, plain.2.1]
  | cons second rest =>
      rw [symbols?.eq_def (byte :: second :: rest)]
      simp only [if_neg plain.2.1]

theorem symbols_plain_all (bytes : Bytes) (plain : ∀ byte ∈ bytes, IsPlain byte) :
    symbols? (bytes ++ rest) = (symbols? rest).map (bytes.map .byte ++ ·) := by
  induction bytes with
  | nil => simp
  | cons byte bytes ih =>
      rw [List.cons_append, symbols_plain _ byte (plain byte List.mem_cons_self),
        ih fun other mem => plain other (List.mem_cons_of_mem byte mem), Option.map_map]
      rfl

theorem symbols_short (letter : UInt8) (code : Nat)
    (named : shortEscapes.lookup letter = some code) :
    symbols? (0x5C :: letter :: rest) = (symbols? rest).map (.unit code :: ·) := by
  have other : letter ≠ 0x75 := by
    rintro rfl
    cases named
  rw [symbols?.eq_def (0x5C :: letter :: rest)]
  simp only [if_neg other, named]
  cases symbols? rest <;> rfl

theorem symbols_hex (first second third fourth : UInt8) (code : Nat)
    (named : hexFour? first second third fourth = some code) :
    symbols? (0x5C :: 0x75 :: first :: second :: third :: fourth :: rest) =
      (symbols? rest).map (.unit code :: ·) := by
  simp only [symbols?, named]
  cases symbols? rest <;> rfl

variable (symbols : List Symbol)

theorem resolve_bytes (bytes : Bytes) :
    resolve? (bytes.map .byte ++ symbols) = (resolve? symbols).map (bytes ++ ·) := by
  induction bytes with
  | nil => simp
  | cons byte bytes ih =>
      rw [List.map_cons, List.cons_append, resolve?, ih, Option.map_map]
      rfl

/-- A unit that is no surrogate stands for a character by itself. -/
theorem resolve_unit (c : Char) :
    c.toNat < 0x80 →
      resolve? (.unit c.toNat :: symbols) = (resolve? symbols).map (Utf8.encodeChar c ++ ·) := by
  intro ascii
  have leading : isLeading c.toNat = false := by
    simp only [isLeading, Bool.and_eq_false_iff, decide_eq_false_iff_not]
    omega
  have trailing : isTrailing c.toNat = false := by
    simp only [isTrailing, Bool.and_eq_false_iff, decide_eq_false_iff_not]
    omega
  rw [resolve?.eq_def]
  simp [leading, trailing, Char.ofNat_toNat]

end Symbols

theorem shortEscapes_mem (letter : UInt8) (code : Nat)
    (named : shortEscapes.lookup letter = some code) : (letter, code) ∈ shortEscapes := by
  obtain ⟨before, after, split, _⟩ := List.lookup_eq_some_iff.mp named
  rw [split]
  simp

theorem shortEscapes_ascii (letter : UInt8) (code : Nat)
    (named : shortEscapes.lookup letter = some code) : code < 0x80 := by
  have all : ∀ entry ∈ shortEscapes, entry.2 < 0x80 := by decide
  exact all _ (shortEscapes_mem _ _ named)

/-- Whatever follows it, a spelled character is read as that character. -/
theorem spelling_read (c : Char) (bytes : Bytes) (spelling : Spelling c bytes) :
    ∃ symbols, (∀ rest, symbols? (bytes ++ rest) = (symbols? rest).map (symbols ++ ·)) ∧
      ∀ others, resolve? (symbols ++ others) =
        (resolve? others).map (Utf8.encodeChar c ++ ·) := by
  cases spelling with
  | short letter named =>
      exact ⟨[.unit c.toNat], fun rest => symbols_short rest letter c.toNat named,
        fun others => resolve_unit others c (shortEscapes_ascii letter c.toNat named)⟩
  | hex first second third fourth named control =>
      exact ⟨[.unit c.toNat], fun rest => symbols_hex rest first second third fourth _ named,
        fun others => resolve_unit others c (by omega)⟩
  | plain visible quote backslash =>
      exact ⟨(Utf8.encodeChar c).map .byte,
        fun rest => symbols_plain_all rest _ (encodeChar_plain c visible quote backslash),
        fun others => resolve_bytes others _⟩

theorem chars_read (text : List Char) :
    ∃ symbols, symbols? (text.flatMap escapeChar) = some symbols ∧
      resolve? symbols = some (Utf8.encodeChars text) := by
  induction text with
  | nil => exact ⟨[], rfl, rfl⟩
  | cons c rest ih =>
      obtain ⟨others, scanned, resolved⟩ := ih
      obtain ⟨symbols, ofBytes, ofSymbols⟩ := spelling_read c _ (escapeChar_spelling c)
      refine ⟨symbols ++ others, ?_, ?_⟩
      · rw [List.flatMap_cons, ofBytes, scanned, Option.map_some]
      · rw [ofSymbols, resolved, Option.map_some]
        rfl

theorem read_body (text : String) : read? (body text) = some text := by
  obtain ⟨symbols, scanned, resolved⟩ := chars_read text.toList
  simp only [read?, body, scanned, resolved, Option.bind_eq_bind, Option.bind_some]
  exact Text.Utf8.decode_encode text

/-! ### Scanning -/

/-- A body that the scanner passes over, up to the quote behind it. -/
def Closed (body : Bytes) : Prop :=
  ∀ rest, Token.stringBody? (body ++ 0x22 :: rest) = some (body, rest)

section Scanning

variable (rest : Bytes)

theorem stringBody_plain (byte : UInt8) (plain : IsPlain byte) :
    Token.stringBody? (byte :: rest) =
      (Token.stringBody? rest).map fun (body, after) => (byte :: body, after) := by
  rw [Token.stringBody?.eq_def]
  simp only [if_neg plain.1, if_neg plain.2.1, if_neg plain.2.2]
  cases Token.stringBody? rest <;> rfl

theorem stringBody_plain_all (bytes : Bytes) (plain : ∀ byte ∈ bytes, IsPlain byte) :
    Token.stringBody? (bytes ++ rest) =
      (Token.stringBody? rest).map fun (body, after) => (bytes ++ body, after) := by
  induction bytes with
  | nil => simp
  | cons byte bytes ih =>
      rw [List.cons_append, stringBody_plain _ byte (plain byte List.mem_cons_self),
        ih fun other mem => plain other (List.mem_cons_of_mem byte mem), Option.map_map]
      rfl

theorem stringBody_short (letter : UInt8) (code : Nat)
    (named : shortEscapes.lookup letter = some code) :
    Token.stringBody? (0x5C :: letter :: rest) =
      (Token.stringBody? rest).map fun (body, after) => (0x5C :: letter :: body, after) := by
  have other : letter ≠ 0x75 := by
    rintro rfl
    cases named
  rw [Token.stringBody?.eq_def]
  simp only [if_neg other, named]
  cases Token.stringBody? rest <;> rfl

theorem stringBody_hex (first second third fourth : UInt8) (code : Nat)
    (named : hexFour? first second third fourth = some code) :
    Token.stringBody? (0x5C :: 0x75 :: first :: second :: third :: fourth :: rest) =
      (Token.stringBody? rest).map fun (body, after) =>
        (0x5C :: 0x75 :: first :: second :: third :: fourth :: body, after) := by
  rw [Token.stringBody?.eq_def]
  simp only [named]
  cases Token.stringBody? rest <;> rfl

theorem spelling_scanned (c : Char) (bytes : Bytes) (spelling : Spelling c bytes) :
    Token.stringBody? (bytes ++ rest) =
      (Token.stringBody? rest).map fun (body, after) => (bytes ++ body, after) := by
  cases spelling with
  | short letter named => exact stringBody_short rest letter c.toNat named
  | hex first second third fourth named control =>
      exact stringBody_hex rest first second third fourth c.toNat named
  | plain visible quote backslash =>
      exact stringBody_plain_all rest _ (encodeChar_plain c visible quote backslash)

end Scanning

theorem body_closed (text : String) : Closed (body text) := by
  intro rest
  unfold body
  induction text.toList with
  | nil =>
      rw [Token.stringBody?.eq_def]
      rfl
  | cons c chars ih =>
      rw [List.flatMap_cons, List.append_assoc,
        spelling_scanned _ c _ (escapeChar_spelling c), ih]
      rfl

/-- A piece that the scanner passes over leaves a body closed. -/
theorem closed_behind (piece body : Bytes)
    (passed : ∀ rest, Token.stringBody? (piece ++ rest) =
      (Token.stringBody? rest).map fun (body, after) => (piece ++ body, after))
    (closed : Closed body) : Closed (piece ++ body) := by
  intro rest
  rw [List.append_assoc, passed, closed]
  rfl

theorem stringBody_taken (bytes body rest : Bytes)
    (taken : Token.stringBody? bytes = some (body, rest)) :
    bytes = body ++ 0x22 :: rest ∧ Closed body := by
  fun_induction Token.stringBody? bytes generalizing body with
  | case1 | case3 | case5 | case7 => cases taken
  | case2 after =>
      cases taken
      refine ⟨rfl, fun rest => ?_⟩
      rw [List.nil_append, Token.stringBody?.eq_def]
      rfl
  | case4 first second third fourth tail _ ih =>
      simp only [Option.bind_eq_bind, Option.bind_eq_some_iff] at taken
      obtain ⟨code, named, ⟨inner, after⟩, found, same⟩ := taken
      cases same
      obtain ⟨rfl, closed⟩ := ih inner found
      exact ⟨rfl, closed_behind [0x5C, 0x75, first, second, third, fourth] inner
        (fun rest => stringBody_hex rest first second third fourth code named) closed⟩
  | case6 letter tail _ _ ih =>
      simp only [Option.bind_eq_bind, Option.bind_eq_some_iff] at taken
      obtain ⟨code, named, ⟨inner, after⟩, found, same⟩ := taken
      cases same
      obtain ⟨rfl, closed⟩ := ih inner found
      exact ⟨rfl, closed_behind [0x5C, letter] inner
        (fun rest => stringBody_short rest letter code named) closed⟩
  | case8 byte tail quote backslash visible ih =>
      simp only [Option.bind_eq_bind, Option.bind_eq_some_iff] at taken
      obtain ⟨⟨inner, after⟩, found, same⟩ := taken
      cases same
      obtain ⟨rfl, closed⟩ := ih inner found
      exact ⟨rfl, closed_behind [byte] inner
        (fun rest => stringBody_plain rest byte ⟨quote, backslash, visible⟩) closed⟩

/-! ### Bodies are text -/

theorem hexValue_ascii (byte : UInt8) (n : Nat) (value : hexValue? byte = some n) :
    byte.toNat < 0x80 := by
  simp only [hexValue?, Bool.and_eq_true, decide_eq_true_eq] at value
  split at value
  · omega
  split at value
  · omega
  split at value
  · omega
  · cases value

theorem spelling_isText (c : Char) (bytes : Bytes) (spelling : Spelling c bytes) :
    Text.Utf8.IsText bytes := by
  cases spelling with
  | short letter named =>
      have all : ∀ entry ∈ shortEscapes, entry.1.toNat < 0x80 := by decide
      have ascii := all _ (shortEscapes_mem _ _ named)
      exact Text.Utf8.isText_ascii _ (by simpa using ascii)
  | hex a b c d named control =>
      simp only [hexFour?, Option.bind_eq_bind, Option.bind_eq_some_iff] at named
      obtain ⟨_, valueA, _, valueB, _, valueC, _, valueD, _⟩ := named
      refine Text.Utf8.isText_ascii _ ?_
      simp [hexValue_ascii _ _ valueA, hexValue_ascii _ _ valueB, hexValue_ascii _ _ valueC,
        hexValue_ascii _ _ valueD]
  | plain => exact Text.Utf8.isText_encodeChar c

theorem body_isText (text : String) : Text.Utf8.IsText (body text) :=
  Text.Utf8.isText_flatMap _ _ fun c _ => spelling_isText c _ (escapeChar_spelling c)

end Roster.Json.Literal
