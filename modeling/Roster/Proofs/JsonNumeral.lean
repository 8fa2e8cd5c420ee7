import Mathlib.Data.List.TakeWhile
import Roster.Json.Token
import Roster.Proofs.TextUtf8

/-!
Numbers in a JSON text. A number is a sign or none and three parts, of which two may be left
out. It is taken off the front of a text whole if nothing behind it goes on with it, and what
is taken off is always such a number.
-/

namespace Roster.Json.Token

open Text (Bytes)

def NoDigit (bytes : Bytes) : Prop :=
  ∀ first rest, bytes = first :: rest → isDigit first = false

def Ends (bytes : Bytes) : Prop :=
  ∀ first rest, bytes = first :: rest →
    isDigit first = false ∧ first ≠ 0x2E ∧ first ≠ 0x65 ∧ first ≠ 0x45

theorem Ends.noDigit {bytes : Bytes} (ends : Ends bytes) : NoDigit bytes :=
  fun first rest front => (ends first rest front).1

theorem ends_nil : Ends [] := by
  rintro first rest ⟨⟩

theorem ends_cons (first : UInt8) (rest : Bytes) (digit : isDigit first = false)
    (others : first ≠ 0x2E ∧ first ≠ 0x65 ∧ first ≠ 0x45) : Ends (first :: rest) := by
  rintro _ _ ⟨⟩
  exact ⟨digit, others⟩

section Numbers

variable (run bytes lexeme rest : Bytes)

structure Digits (run : Bytes) : Prop where
  nonempty : run ≠ []
  all : ∀ byte ∈ run, isDigit byte = true

structure Whole (run : Bytes) : Prop extends Digits run where
  shortest : run.head? = some 0x30 → run = [0x30]

inductive Fraction : Bytes → Prop where
  | none : Fraction []
  | some (run : Bytes) (digits : Digits run) : Fraction (0x2E :: run)

inductive Exponent : Bytes → Prop where
  | none : Exponent []
  | plain (mark : UInt8) (run : Bytes) (marked : mark = 0x65 ∨ mark = 0x45)
      (digits : Digits run) : Exponent (mark :: run)
  | signed (mark sign : UInt8) (run : Bytes) (marked : mark = 0x65 ∨ mark = 0x45)
      (sign_eq : sign = 0x2B ∨ sign = 0x2D) (digits : Digits run) :
      Exponent (mark :: sign :: run)

theorem Digits.head {run : Bytes} (digits : Digits run) :
    ∃ first others, run = first :: others ∧ isDigit first = true := by
  cases run with
  | nil => exact absurd rfl digits.nonempty
  | cons first others => exact ⟨first, others, rfl, digits.all first List.mem_cons_self⟩

theorem digits_run (digits : Digits run) (stop : NoDigit rest) :
    digits? (run ++ rest) = some (run, rest) := by
  have front : rest.takeWhile isDigit = [] ∧ rest.dropWhile isDigit = rest := by
    cases rest with
    | nil => exact ⟨rfl, rfl⟩
    | cons first rest => simp [stop first rest rfl]
  have taken : (run ++ rest).takeWhile isDigit = run := by
    rw [List.takeWhile_append_of_pos digits.all, front.1, List.append_nil]
  have left : (run ++ rest).dropWhile isDigit = rest := by
    rw [List.dropWhile_append_of_pos digits.all, front.2]
  simp only [digits?, digitRun, taken, left]
  simp [digits.nonempty]

theorem digits_taken (taken : digits? bytes = some (run, rest)) :
    bytes = run ++ rest ∧ Digits run := by
  cases empty : (bytes.takeWhile isDigit).isEmpty with
  | true => simp [digits?, digitRun, empty] at taken
  | false =>
      simp only [digits?, digitRun, empty, Bool.false_eq_true, if_false] at taken
      cases taken
      refine ⟨List.takeWhile_append_dropWhile.symm, by simpa using empty, ?_⟩
      exact fun byte member => List.mem_takeWhile_imp member

theorem wholePart_run (whole : Whole run) (stop : NoDigit rest) :
    wholePart? (run ++ rest) = some (run, rest) := by
  cases run with
  | nil => exact absurd rfl whole.nonempty
  | cons first others =>
      rw [List.cons_append, wholePart?]
      by_cases zero : first = 0x30
      · have alone := whole.shortest (by rw [zero]; rfl)
        obtain ⟨rfl, rfl⟩ := List.cons.inj alone
        simp
      · rw [if_neg zero, ← List.cons_append]
        exact digits_run _ rest whole.toDigits stop

theorem wholePart_taken (taken : wholePart? bytes = some (run, rest)) :
    bytes = run ++ rest ∧ Whole run := by
  cases bytes with
  | nil => cases taken
  | cons first others =>
      rw [wholePart?] at taken
      split at taken
      · next zero =>
        cases taken
        refine ⟨rfl, ⟨by simp, ?_⟩, fun _ => by rw [zero]⟩
        simp [zero]
        rfl
      · next nonzero =>
        obtain ⟨split, digits⟩ := digits_taken _ _ _ taken
        refine ⟨split, digits, fun zero => ?_⟩
        obtain ⟨head, tail, rfl, _⟩ := digits.head
        obtain ⟨rfl, _⟩ := List.cons.inj split
        exact absurd (Option.some.inj zero) nonzero

theorem fractionPart_run (fraction : Fraction run) (ends : NoDigit rest)
    (other : ∀ first others, rest = first :: others → first ≠ 0x2E) :
    fractionPart? (run ++ rest) = some (run, rest) := by
  cases fraction with
  | none =>
      cases rest with
      | nil => rfl
      | cons first rest => simp [fractionPart?, other first rest rfl]
  | some run digits => simp [fractionPart?, digits_run run rest digits ends]

theorem fractionPart_taken (taken : fractionPart? bytes = some (run, rest)) :
    bytes = run ++ rest ∧ Fraction run := by
  cases bytes with
  | nil =>
      cases taken
      exact ⟨rfl, .none⟩
  | cons first others =>
      rw [fractionPart?] at taken
      split at taken
      · next point =>
        obtain ⟨⟨digits, after⟩, found, same⟩ := Option.map_eq_some_iff.mp taken
        cases same
        obtain ⟨rfl, all⟩ := digits_taken _ _ _ found
        subst point
        exact ⟨rfl, .some digits all⟩
      · cases taken
        exact ⟨rfl, .none⟩

theorem exponentPart_run (exponent : Exponent run) (ends : Ends rest) :
    exponentPart? (run ++ rest) = some (run, rest) := by
  cases exponent with
  | none =>
      cases rest with
      | nil => rfl
      | cons first rest => simp [exponentPart?, (ends first rest rfl).2.2]
  | plain mark run marked digits =>
      have taken := digits_run run rest digits ends.noDigit
      obtain ⟨first, others, rfl, digit⟩ := digits.head
      have plain : first ≠ 0x2B ∧ first ≠ 0x2D := by
        constructor <;> rintro rfl <;> cases digit
      rw [List.cons_append] at taken
      simp [exponentPart?, marked, plain, taken]
  | signed mark sign run marked sign_eq digits =>
      simp [exponentPart?, marked, sign_eq, digits_run run rest digits ends.noDigit]

theorem exponentPart_taken (taken : exponentPart? bytes = some (run, rest)) :
    bytes = run ++ rest ∧ Exponent run := by
  cases bytes with
  | nil =>
      cases taken
      exact ⟨rfl, .none⟩
  | cons mark others =>
      by_cases marked : mark = 0x65 ∨ mark = 0x45
      · cases others with
        | nil => simp [exponentPart?, marked] at taken
        | cons sign tail =>
            -- A sign is taken along; without one the digits follow the mark at once.
            by_cases signed : sign = 0x2B ∨ sign = 0x2D
            · simp only [exponentPart?, Bool.or_eq_true, decide_eq_true_eq, marked, signed,
                if_true] at taken
              obtain ⟨⟨digits, after⟩, found, same⟩ := Option.map_eq_some_iff.mp taken
              cases same
              obtain ⟨rfl, all⟩ := digits_taken _ _ _ found
              exact ⟨rfl, .signed mark sign digits marked signed all⟩
            · simp only [exponentPart?, Bool.or_eq_true, decide_eq_true_eq, marked, signed,
                if_true, if_false] at taken
              obtain ⟨⟨digits, after⟩, found, same⟩ := Option.map_eq_some_iff.mp taken
              cases same
              obtain ⟨split, all⟩ := digits_taken _ _ _ found
              exact ⟨by rw [split]; rfl, .plain mark digits marked all⟩
      · simp only [exponentPart?, Bool.or_eq_true, decide_eq_true_eq, marked, if_false] at taken
        cases taken
        exact ⟨rfl, .none⟩

inductive Numeral : Bytes → Prop where
  | mk (sign whole fraction exponent : Bytes) (signed : sign = [] ∨ sign = [0x2D])
      (isWhole : Whole whole) (isFraction : Fraction fraction) (isExponent : Exponent exponent) :
      Numeral (sign ++ whole ++ fraction ++ exponent)

theorem exponent_noDigit (exponent : Exponent run) (ends : Ends rest) :
    NoDigit (run ++ rest) ∧ ∀ first others, run ++ rest = first :: others → first ≠ 0x2E := by
  cases exponent with
  | none => exact ⟨ends.noDigit, fun first others front => (ends first others front).2.1⟩
  | plain mark run marked | signed mark _ run marked =>
      constructor <;> rintro _ _ ⟨⟩ <;> rcases marked with rfl | rfl <;> decide

theorem fraction_noDigit (fraction : Fraction run) (stop : NoDigit rest) : NoDigit (run ++ rest) := by
  cases fraction with
  | none => exact stop
  | some run digits =>
      rintro _ _ ⟨⟩
      rfl

def parts? (sign bytes : Bytes) : Option (Bytes × Bytes) := do
  let (whole, bytes) ← wholePart? bytes
  let (fraction, bytes) ← fractionPart? bytes
  let (exponent, bytes) ← exponentPart? bytes
  return (sign ++ whole ++ fraction ++ exponent, bytes)

theorem numberLexeme_minus : numberLexeme? (0x2D :: bytes) = parts? [0x2D] bytes := rfl

theorem numberLexeme_plain (first : UInt8) (plain : first ≠ 0x2D) :
    numberLexeme? (first :: bytes) = parts? [] (first :: bytes) := by
  simp only [numberLexeme?, if_neg plain, parts?]

/-- The parts are taken off the front one by one: each stops where the next begins. -/
theorem parts_read (sign whole fraction exponent : Bytes) (isWhole : Whole whole)
    (isFraction : Fraction fraction) (isExponent : Exponent exponent) (ends : Ends rest) :
    parts? sign (whole ++ (fraction ++ (exponent ++ rest))) =
      some (sign ++ whole ++ fraction ++ exponent, rest) := by
  have stops := exponent_noDigit exponent rest isExponent ends
  have exponentTaken := exponentPart_run exponent rest isExponent ends
  have fractionTaken := fractionPart_run fraction (exponent ++ rest) isFraction stops.1 stops.2
  have wholeTaken := wholePart_run whole (fraction ++ (exponent ++ rest)) isWhole
    (fraction_noDigit fraction _ isFraction stops.1)
  simp [parts?, wholeTaken, fractionTaken, exponentTaken]

theorem numeral_read (numeral : Numeral lexeme) (ends : Ends rest) :
    numberLexeme? (lexeme ++ rest) = some (lexeme, rest) := by
  obtain ⟨sign, whole, fraction, exponent, signed, isWhole, isFraction, isExponent⟩ := numeral
  have read := parts_read rest sign whole fraction exponent isWhole isFraction isExponent ends
  simp only [List.append_assoc] at read ⊢
  rcases signed with rfl | rfl
  · obtain ⟨first, others, rfl, digit⟩ := isWhole.head
    have plain : first ≠ 0x2D := by
      rintro rfl
      cases digit
    exact (numberLexeme_plain _ first plain).trans read
  · exact (numberLexeme_minus _).trans read

theorem parts_taken (sign : Bytes) (signed : sign = [] ∨ sign = [0x2D])
    (taken : parts? sign bytes = some (lexeme, rest)) :
    sign ++ bytes = lexeme ++ rest ∧ Numeral lexeme := by
  simp only [parts?, Option.bind_eq_bind, Option.bind_eq_some_iff] at taken
  obtain ⟨⟨whole, behindWhole⟩, wholeTaken, ⟨fraction, behindFraction⟩, fractionTaken,
    ⟨exponent, behind⟩, exponentTaken, same⟩ := taken
  cases same
  obtain ⟨rfl, isWhole⟩ := wholePart_taken _ _ _ wholeTaken
  obtain ⟨rfl, isFraction⟩ := fractionPart_taken _ _ _ fractionTaken
  obtain ⟨rfl, isExponent⟩ := exponentPart_taken _ _ _ exponentTaken
  refine ⟨by simp only [List.append_assoc], ?_⟩
  exact ⟨sign, whole, fraction, exponent, signed, isWhole, isFraction, isExponent⟩

theorem numberLexeme_taken (taken : numberLexeme? bytes = some (lexeme, rest)) :
    bytes = lexeme ++ rest ∧ Numeral lexeme := by
  cases bytes with
  | nil => cases taken
  | cons first others =>
      by_cases minus : first = 0x2D
      · rw [minus, numberLexeme_minus] at taken
        rw [minus]
        exact parts_taken _ _ _ [0x2D] (Or.inr rfl) taken
      · rw [numberLexeme_plain others first minus] at taken
        exact parts_taken _ _ _ [] (Or.inl rfl) taken

theorem numeral_begins (numeral : Numeral lexeme) :
    ∃ first others, lexeme = first :: others ∧ (first = 0x2D ∨ isDigit first = true) := by
  obtain ⟨sign, whole, fraction, exponent, signed, isWhole, _, _⟩ := numeral
  rcases signed with rfl | rfl
  · obtain ⟨first, others, rfl, digit⟩ := isWhole.head
    exact ⟨first, others ++ fraction ++ exponent, rfl, Or.inr digit⟩
  · exact ⟨0x2D, whole ++ fraction ++ exponent, rfl, Or.inl rfl⟩

theorem numeral_whole (whole : Whole run) : Numeral run := by
  simpa using Numeral.mk [] run [] [] (Or.inl rfl) whole .none .none

theorem numeral_negative (whole : Whole run) : Numeral (0x2D :: run) := by
  simpa using Numeral.mk [0x2D] run [] [] (Or.inr rfl) whole .none .none

theorem isText_digits (digits : Digits run) : Text.Utf8.IsText run := by
  refine Text.Utf8.isText_ascii run (List.all_eq_true.mpr ?_)
  intro byte mem
  apply decide_eq_true
  have digit := digits.all byte mem
  simp only [isDigit, Bool.and_eq_true, decide_eq_true_eq, UInt8.le_iff_toNat_le] at digit
  have below : byte.toNat ≤ 0x39 := digit.2
  omega

end Numbers

end Roster.Json.Token
