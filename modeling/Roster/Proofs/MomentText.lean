import Roster.Calendar.Moment
import Roster.Proofs.TextPlain

/-!
Reading a moment undoes writing it. Every number is written as wide as it is read, or ends
where something stands that is no digit; so each part is taken off the front of the text
whole, and the rest goes on with the next mark.
-/

namespace Roster.Calendar.Moment

open Text (digits padded skipBlanks isBlank skipBlanks_visible)

theorem isBlank_digit (c : Char) (digit : c.isDigit = true) : isBlank c = false := by
  have range := Text.isDigit_range c digit
  have above : ∀ entry ∈ Text.wideBlanks, 0x39 < entry.1 := by decide
  have wide : (Text.wideBlanks.any fun entry => entry.1 ≤ c.toNat && c.toNat ≤ entry.2) = false := by
    rw [List.any_eq_false]
    intro entry mem
    have start := above entry mem
    simp only [Bool.and_eq_true, decide_eq_true_eq]
    omega
  have narrow : (c.toNat == 0x20 || (decide (9 ≤ c.toNat) && decide (c.toNat ≤ 13))) = false := by
    simp only [Bool.or_eq_false_iff, Bool.and_eq_false_iff, beq_eq_false_iff_ne,
      decide_eq_false_iff_not]
    omega
  rw [isBlank, narrow]
  exact wide

/-! ### Numbers -/

section Numbers

variable (width n : Nat) (rest : List Char)

theorem padded_begins :
    ∃ first others, padded width n = first :: others ∧ first.isDigit = true := by
  cases front : padded width n with
  | nil => exact absurd front (Text.padded_nonempty width n)
  | cons first others =>
      exact ⟨first, others, rfl,
        Text.padded_isDigit width n first (by rw [front]; exact List.mem_cons_self)⟩

theorem skipBlanks_padded : skipBlanks (padded width n ++ rest) = padded width n ++ rest := by
  obtain ⟨first, others, front, digit⟩ := padded_begins width n
  rw [front, List.cons_append, skipBlanks_visible _ _ (isBlank_digit first digit)]

theorem number_run (run : List Char) (nonempty : run ≠ [])
    (ends : ((run ++ rest).take width).takeWhile Char.isDigit = run) :
    number? width (run ++ rest) = some (digitsValue run, rest) := by
  have some' : run.isEmpty = false := by simpa using nonempty
  simp only [number?, ends, some', List.drop_left]
  rfl

theorem number_padded (some' : 0 < width) (small : n < Nat.pow 10 width) :
    number? width (padded width n ++ rest) = some (n, rest) := by
  have long := Text.length_padded width n some' small
  have ends : ((padded width n ++ rest).take width).takeWhile Char.isDigit = padded width n := by
    have taken : (padded width n ++ rest).take width = padded width n := by
      rw [List.take_append_of_le_length (Nat.le_of_eq long.symm), List.take_of_length_le
        (Nat.le_of_eq long)]
    have all : ((padded width n) ++ []).takeWhile Char.isDigit =
        padded width n ++ [].takeWhile Char.isDigit :=
      List.takeWhile_append_of_pos (Text.padded_isDigit width n)
    rw [taken]
    simpa using all
  rw [number_run width rest _ (Text.padded_nonempty width n) ends,
    digitsValue, Text.ofDigitChars_padded]

theorem field_padded (some' : 0 < width) (small : n < Nat.pow 10 width) :
    field? width (padded width n ++ rest) = some (n, rest) := by
  rw [field?, skipBlanks_padded, number_padded width n rest some' small]

theorem takeWhile_digits (run : List Char) (digits : ∀ c ∈ run, c.isDigit = true) (mark : Char)
    (plain : mark.isDigit = false) : (run ++ mark :: rest).takeWhile Char.isDigit = run := by
  rw [List.takeWhile_append_of_pos digits, List.takeWhile_cons_of_neg (by simp [plain]),
    List.append_nil]

theorem number_unbounded (mark : Char) (plain : mark.isDigit = false) :
    number? (padded width n ++ mark :: rest).length (padded width n ++ mark :: rest) =
      some (n, mark :: rest) := by
  have ends : ((padded width n ++ mark :: rest).take
      (padded width n ++ mark :: rest).length).takeWhile Char.isDigit = padded width n := by
    rw [List.take_length]
    exact takeWhile_digits rest _ (Text.padded_isDigit width n) mark plain
  rw [number_run _ _ _ (Text.padded_nonempty width n) ends,
    digitsValue, Text.ofDigitChars_padded]

end Numbers

/-! ### Parts -/

section Parts

variable (rest : List Char)

theorem separator_mark (mark : Char) (visible : isBlank mark = false) :
    separator? mark (mark :: rest) = some rest := by
  simp [separator?, skipBlanks_visible mark rest visible]

theorem year_yearChars (year : Int) :
    year? (yearChars year ++ '-' :: rest) = some (year, '-' :: rest) := by
  unfold yearChars
  by_cases plain : 0 ≤ year ∧ year ≤ 9999
  · rw [if_pos plain]
    obtain ⟨first, others, front, digit⟩ := padded_begins 4 year.toNat
    have small : year.toNat < 10000 := by omega
    have number := number_padded 4 year.toNat ('-' :: rest) (by decide) small
    have skipped := skipBlanks_padded 4 year.toNat ('-' :: rest)
    have noMinus : first ≠ '-' := by
      rintro rfl
      cases digit
    have noPlus : first ≠ '+' := by
      rintro rfl
      cases digit
    rw [front, List.cons_append] at number skipped ⊢
    rw [year?, skipped]
    split
    · next same => exact absurd (List.cons.inj same).1 noMinus
    · next same => exact absurd (List.cons.inj same).1 noPlus
    · simp only [number, Option.map_some, Int.toNat_of_nonneg plain.1]
  · rw [if_neg plain]
    have number := number_unbounded 4 year.natAbs rest '-' rfl
    by_cases negative : year < 0
    · rw [if_pos negative, List.cons_append, year?, skipBlanks_visible _ _ (by decide)]
      simp only [number, Option.map_some]
      congr 2
      omega
    · rw [if_neg negative, List.cons_append, year?, skipBlanks_visible _ _ (by decide)]
      simp only [number, Option.map_some]
      congr 2
      omega

theorem fraction_padded (width n : Nat) (some' : 0 < width) (short : width ≤ 9)
    (small : n < Nat.pow 10 width) (mark : Char) (plain : mark.isDigit = false) :
    fraction? ('.' :: padded width n ++ mark :: rest) =
      some (n * Nat.pow 10 (9 - width), mark :: rest) := by
  have long := Text.length_padded width n some' small
  have counted : (padded width n).take 9 = padded width n :=
    List.take_of_length_le (by omega)
  have run := takeWhile_digits rest (padded width n) (Text.padded_isDigit width n) mark plain
  have nonempty : (padded width n).isEmpty = false := by
    simpa using Text.padded_nonempty width n
  have left : (padded width n ++ mark :: rest).drop width = mark :: rest := by
    simp [long]
  rw [List.cons_append]
  simp only [fraction?, run, counted, nonempty, long, left, digitsValue,
    Text.ofDigitChars_padded]
  rfl

theorem fraction_fractionChars (nano : Nat) (small : nano < 1000000000) (mark : Char)
    (plain : mark.isDigit = false) (dot : mark ≠ '.') :
    fraction? (fractionChars nano ++ mark :: rest) = some (nano, mark :: rest) := by
  unfold fractionChars
  by_cases none : nano = 0
  · subst none
    rw [if_pos rfl, List.nil_append, fraction?]
    rintro others ⟨⟩
    exact dot rfl
  rw [if_neg none]
  by_cases millis : nano % 1000000 = 0
  · rw [if_pos millis, fraction_padded rest 3 _ (by decide) (by decide)
      (show nano / 1000000 < 1000 by omega) mark plain]
    congr 2
    change nano / 1000000 * 1000000 = nano
    omega
  rw [if_neg millis]
  by_cases micros : nano % 1000 = 0
  · rw [if_pos micros, fraction_padded rest 6 _ (by decide) (by decide)
      (show nano / 1000 < 1000000 by omega) mark plain]
    congr 2
    change nano / 1000 * 1000 = nano
    omega
  · rw [if_neg micros, fraction_padded rest 9 _ (by decide) (by decide)
      (show nano < 1000000000 from small) mark plain]
    congr 2
    change nano * 1 = nano
    omega

theorem dayEnd_mark : dayEnd? ('T' :: rest) = some rest := rfl

theorem offset_universal : offset? (skipBlanks ['Z']) = some (0, []) := by decide

end Parts

theorem ofLocal_universal (moment : Moment) :
    ofLocal? moment.date moment.hour moment.minute moment.second moment.nano 0 = some moment := by
  obtain ⟨date, hour, minute, second, nano, inDay⟩ := moment
  have whole : of? date hour minute second nano = some ⟨date, hour, minute, second, nano, inDay⟩ :=
    dif_pos inDay
  have early : ¬ ((hour : Int) * 60 + minute - 0 < 0) := by omega
  have late : ¬ (1440 ≤ (hour : Int) * 60 + minute - 0) := by omega
  have left : (((hour : Int) * 60 + minute - 0) % 1440).toNat = hour * 60 + minute := by omega
  have hours : (hour * 60 + minute) / 60 = hour := by omega
  have minutes : (hour * 60 + minute) % 60 = minute := by omega
  simp only [ofLocal?, whole, Option.bind_eq_bind, Option.bind_some, if_neg early, if_neg late,
    left, hours, minutes]

theorem bind_read {α β : Type} {first? : Option α} {read : α} {rest? : α → Option β} {all : β}
    (first : first? = some read) (rest : rest? read = some all) :
    (first? >>= rest?) = some all := by
  rw [first]
  exact rest

theorem readChars_chars (moment : Moment) : readChars? moment.chars = some moment := by
  obtain ⟨hour, minute, second, nano⟩ := moment.inDay
  obtain ⟨_, _, _, month, _, day⟩ := moment.date.isDay
  have days : daysInMonth moment.date.year moment.date.month ≤ 31 := by
    unfold daysInMonth
    split
    · split <;> decide
    split
    · decide
    · decide
  have date : Date.of? moment.date.year moment.date.month moment.date.day = some moment.date :=
    dif_pos moment.date.isDay
  have two (n : Nat) (rest : List Char) (small : n < 100) :
      field? 2 (padded 2 n ++ rest) = some (n, rest) := field_padded 2 n rest (by decide) small
  rw [chars]
  simp only [List.append_assoc, List.cons_append]
  -- Each part is read off the front, and what is left begins with the next one.
  apply bind_read (year_yearChars _ _)
  apply bind_read (separator_mark _ '-' (by decide))
  apply bind_read (two _ _ (by omega))
  apply bind_read (separator_mark _ '-' (by decide))
  apply bind_read (two _ _ (by omega))
  apply bind_read (dayEnd_mark _)
  apply bind_read (two _ _ (by omega))
  apply bind_read (separator_mark _ ':' (by decide))
  apply bind_read (two _ _ (by omega))
  apply bind_read (separator_mark _ ':' (by decide))
  apply bind_read (two _ _ (by omega))
  apply bind_read (fraction_fractionChars [] moment.nano nano 'Z' rfl (by decide))
  apply bind_read offset_universal
  exact bind_read date (ofLocal_universal moment)

/-- A moment is told by its text, leap seconds and far years included. -/
theorem read_text (moment : Moment) : read? moment.text = some moment := by
  rw [read?, text, String.toList_ofList, readChars_chars]

end Roster.Calendar.Moment
