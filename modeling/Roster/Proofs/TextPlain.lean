import Roster.Text.Plain

/-!
Decimal digits. The digits of a number stand for it, with any zeros in front of them, and
none of them is in front but where the number is zero.
-/

namespace Roster.Text

theorem digits_nonempty (n : Nat) : digits n ≠ [] := Nat.toDigits_ne_nil

theorem digits_isDigit (n : Nat) (c : Char) (mem : c ∈ digits n) : c.isDigit = true :=
  Nat.isDigit_of_mem_toDigits (by decide) (by decide) mem

theorem ofDigitChars_digits (n : Nat) : Nat.ofDigitChars 10 (digits n) 0 = n :=
  Nat.ofDigitChars_ten_toDigits

theorem length_digits_le (n width : Nat) (some' : 0 < width) (small : n < Nat.pow 10 width) :
    (digits n).length ≤ width :=
  (Nat.length_toDigits_le_iff (by decide) some').mpr small

theorem digits_leading (n : Nat) (zero : (digits n).head? = some '0') : n = 0 := by
  induction n using Nat.strongRecOn with
  | ind n ih =>
      rw [digits] at zero
      by_cases single : n < 10
      · rw [Nat.toDigits_of_lt_base single, List.head?_cons] at zero
        have all : ∀ digit, digit < 10 → digit.digitChar = '0' → digit = 0 := by decide
        exact all n single (Option.some.inj zero)
      · rw [Nat.toDigits_of_base_le (by decide) (Nat.not_lt.mp single)] at zero
        have tens : (digits (n / 10)).head? = some '0' := by
          rw [digits]
          cases front : Nat.toDigits 10 (n / 10) with
          | nil => exact absurd front Nat.toDigits_ne_nil
          | cons first others => rwa [front] at zero
        have none := ih (n / 10) (by omega) tens
        omega

theorem isDigit_range (c : Char) (digit : c.isDigit = true) : 0x30 ≤ c.toNat ∧ c.toNat ≤ 0x39 := by
  simpa [Char.isDigit, UInt32.le_iff_toNat_le] using digit

/-! ### Padded numbers -/

theorem padded_isDigit (width n : Nat) (c : Char) (mem : c ∈ padded width n) :
    c.isDigit = true := by
  rcases List.mem_append.mp mem with zeros | own
  · rw [(List.mem_replicate.mp zeros).2]
    rfl
  · exact digits_isDigit n c own

theorem padded_nonempty (width n : Nat) : padded width n ≠ [] :=
  List.append_ne_nil_of_right_ne_nil _ (digits_nonempty n)

theorem ofDigitChars_padded (width n : Nat) : Nat.ofDigitChars 10 (padded width n) 0 = n := by
  rw [padded, Nat.ofDigitChars_append, Nat.ofDigitChars_replicate_zero, Nat.mul_zero,
    ofDigitChars_digits]

theorem length_padded (width n : Nat) (some' : 0 < width) (small : n < Nat.pow 10 width) :
    (padded width n).length = width := by
  have shorter := length_digits_le n width some' small
  simp only [padded, List.length_append, List.length_replicate]
  omega

/-!
What stands between blanks. Trimming leaves the one piece of a text that neither begins nor ends
with a blank and has nothing but blanks around it. The words of a text are the one row of pieces
without blanks that make it up together with blanks in front of each and behind the last, so that
no word stands next to another; joined by one blank each, words are read as they were.
-/

def Blanks (gap : List Char) : Prop := ∀ c ∈ gap, isBlank c = true

def Solid (piece : List Char) : Prop := ∀ c ∈ piece, isBlank c = false

def Begun (text : List Char) : Prop := ∀ c ∈ text.head?, isBlank c = false

def Ended (text : List Char) : Prop := ∀ c ∈ text.head?, isBlank c = true

theorem blanks_nil : Blanks [] := fun _ none' => absurd none' List.not_mem_nil

theorem blanks_single (c : Char) (blank : isBlank c = true) : Blanks [c] := by
  intro other mem
  rw [List.mem_singleton.mp mem]
  exact blank

theorem blanks_append (gap more : List Char) (blanks : Blanks gap) (blanks' : Blanks more) :
    Blanks (gap ++ more) :=
  fun c mem => (List.mem_append.mp mem).elim (blanks c) (blanks' c)

theorem blanks_reverse (gap : List Char) (blanks : Blanks gap) : Blanks gap.reverse :=
  fun c mem => blanks c (List.mem_reverse.mp mem)

theorem begun_cons (c : Char) (rest : List Char) (visible : isBlank c = false) :
    Begun (c :: rest) := by
  intro first same
  rw [← Option.some.inj same]
  exact visible

theorem ended_nil : Ended [] := nofun

theorem ended_cons (c : Char) (rest : List Char) (blank : isBlank c = true) :
    Ended (c :: rest) := by
  intro first same
  rw [← Option.some.inj same]
  exact blank

theorem ended_blanks (gap rest : List Char) (blanks : Blanks gap) (ended : gap = [] → Ended rest) :
    Ended (gap ++ rest) := by
  cases gap with
  | nil => exact ended rfl
  | cons c others => exact ended_cons c (others ++ rest) (blanks c List.mem_cons_self)

/-! ### Trimming -/

theorem skipBlanks_gap (gap rest : List Char) (blanks : Blanks gap) :
    skipBlanks (gap ++ rest) = skipBlanks rest :=
  List.dropWhile_append_of_pos blanks

theorem skipBlanks_visible (c : Char) (rest : List Char) (visible : isBlank c = false) :
    skipBlanks (c :: rest) = c :: rest := by
  rw [skipBlanks, List.dropWhile_cons_of_neg]
  simp [visible]

theorem skipBlanks_begun (text : List Char) (begun : Begun text) : skipBlanks text = text := by
  cases text with
  | nil => rfl
  | cons c rest => exact skipBlanks_visible c rest (begun c rfl)

theorem begun_skipBlanks (text : List Char) : Begun (skipBlanks text) := by
  induction text with
  | nil => exact nofun
  | cons c rest ih =>
      cases blank : isBlank c with
      | true => simpa [skipBlanks, blank] using ih
      | false =>
          rw [skipBlanks_visible c rest blank]
          exact begun_cons c rest blank

theorem skipBlanks_split (text : List Char) :
    ∃ gap, Blanks gap ∧ text = gap ++ skipBlanks text :=
  ⟨text.takeWhile isBlank, List.all_eq_true.mp List.all_takeWhile,
    List.takeWhile_append_dropWhile.symm⟩

def Trimmed (text : List Char) : Prop := Begun text ∧ Begun text.reverse

/-- A text is a trimmed piece with nothing but blanks around it. -/
def Holds (text core : List Char) : Prop :=
  Trimmed core ∧ ∃ front back, Blanks front ∧ Blanks back ∧ text = front ++ core ++ back

theorem trimChars_holds (text : List Char) : Holds text (trimChars text) := by
  obtain ⟨front, blanks, parted⟩ := skipBlanks_split text
  obtain ⟨back, blanks', parted'⟩ := skipBlanks_split (skipBlanks text).reverse
  have rest : skipBlanks text = trimChars text ++ back.reverse := by
    rw [← List.reverse_reverse (skipBlanks text), parted', List.reverse_append, trimChars]
  constructor
  · constructor
    · -- Blanks are taken off behind a text that begins without one.
      intro c first
      have begun := begun_skipBlanks text c
      rw [rest, List.head?_append, Option.mem_def.mp first] at begun
      exact begun rfl
    · rw [trimChars, List.reverse_reverse]
      exact begun_skipBlanks _
  · refine ⟨front, back.reverse, blanks, blanks_reverse back blanks', ?_⟩
    rw [List.append_assoc, ← rest]
    exact parted

theorem trimChars_of_holds (text core : List Char) (holds : Holds text core) :
    trimChars text = core := by
  obtain ⟨⟨begun, closed⟩, front, back, blanks, blanks', rfl⟩ := holds
  rw [List.append_assoc, trimChars, skipBlanks_gap front _ blanks]
  cases core with
  | nil =>
      have gone := skipBlanks_gap back [] blanks'
      rw [List.append_nil] at gone
      rw [List.nil_append, gone]
      rfl
  | cons c others =>
      rw [skipBlanks_begun (c :: others ++ back) begun, List.reverse_append,
        skipBlanks_gap _ _ (blanks_reverse back blanks'), skipBlanks_begun _ closed,
        List.reverse_reverse]

theorem trimChars_iff (text core : List Char) : trimChars text = core ↔ Holds text core := by
  constructor
  · rintro rfl
    exact trimChars_holds text
  · exact trimChars_of_holds text core

theorem trim_iff (text core : String) : trim text = core ↔ Holds text.toList core.toList := by
  rw [← trimChars_iff, trim, ← String.toList_inj, String.toList_ofList]

theorem holds_trimmed (text : List Char) (trimmed : Trimmed text) : Holds text text :=
  ⟨trimmed, [], [], blanks_nil, blanks_nil, by simp⟩

/-! ### Words -/

/-- A text and its words. Blanks may stand in front of a word, and it goes on up to the next blank
or the end of the text; behind the last word there are only blanks. -/
inductive Parted : List Char → List (List Char) → Prop
  | gap (gap : List Char) (blanks : Blanks gap) : Parted gap []
  | word (gap word rest : List Char) (words : List (List Char)) (blanks : Blanks gap)
      (nonempty : word ≠ []) (solid : Solid word) (ended : Ended rest) (others : Parted rest words) :
      Parted (gap ++ word ++ rest) (word :: words)

theorem wordChars_blank (c : Char) (rest : List Char) (blank : isBlank c = true) :
    wordChars (c :: rest) = wordChars rest := by
  simp [wordChars, List.splitOnP_cons_eq_if_modifyHead, blank]

theorem wordChars_gap (gap rest : List Char) (blanks : Blanks gap) :
    wordChars (gap ++ rest) = wordChars rest := by
  induction gap with
  | nil => rfl
  | cons c others ih =>
      rw [List.cons_append, wordChars_blank c _ (blanks c List.mem_cons_self)]
      exact ih fun other mem => blanks other (List.mem_cons_of_mem c mem)

theorem wordChars_word (word rest : List Char) (nonempty : word ≠ []) (solid : Solid word)
    (ended : Ended rest) : wordChars (word ++ rest) = word :: wordChars rest := by
  have some' : word.isEmpty = false := by simpa using nonempty
  cases rest with
  | nil =>
      rw [List.append_nil, wordChars, List.splitOnP_eq_singleton solid]
      simp [some', wordChars]
  | cons c others =>
      have blank := ended c rfl
      rw [wordChars_blank c others blank, wordChars,
        List.splitOnP_append_cons_of_forall_mem solid c blank others]
      simp [some', wordChars]

theorem wordChars_of_parted (text : List Char) (words : List (List Char))
    (parted : Parted text words) : wordChars text = words := by
  induction parted with
  | gap gap blanks =>
      have gone := wordChars_gap gap [] blanks
      rw [List.append_nil] at gone
      exact gone
  | word gap word rest words blanks nonempty solid ended _ ih =>
      rw [List.append_assoc, wordChars_gap gap _ blanks,
        wordChars_word word rest nonempty solid ended, ih]

theorem parted_gap (gap rest : List Char) (words : List (List Char)) (blanks : Blanks gap)
    (parted : Parted rest words) : Parted (gap ++ rest) words := by
  cases parted with
  | gap _ blanks' => exact .gap _ (blanks_append gap rest blanks blanks')
  | word more word rest words blanks' nonempty solid ended others =>
      rw [List.append_assoc more, ← List.append_assoc, ← List.append_assoc]
      exact .word _ word rest words (blanks_append gap more blanks blanks') nonempty solid ended
        others

theorem parted_letter (c : Char) (rest : List Char) (words : List (List Char))
    (visible : isBlank c = false) (parted : Parted rest words) :
    ∃ words, Parted (c :: rest) words := by
  have letter : Solid [c] := by
    intro other mem
    rw [List.mem_singleton.mp mem]
    exact visible
  cases parted with
  | gap _ blanks =>
      have ended := ended_blanks rest [] blanks fun _ => ended_nil
      rw [List.append_nil] at ended
      exact ⟨[[c]], .word [] [c] rest [] blanks_nil (by simp) letter ended (.gap rest blanks)⟩
  | word gap word rest words blanks nonempty solid ended others =>
      cases gap with
      | nil =>
          have longer : Solid (c :: word) := fun other mem =>
            (List.mem_cons.mp mem).elim (fun same => same ▸ visible) (solid other)
          exact ⟨(c :: word) :: words,
            .word [] (c :: word) rest words blanks_nil (by simp) longer ended others⟩
      | cons space gap =>
          have apart : Ended (space :: gap ++ word ++ rest) := by
            rw [List.append_assoc]
            exact ended_blanks _ _ blanks nofun
          exact ⟨[c] :: word :: words, .word [] [c] _ _ blanks_nil (by simp) letter apart
            (.word (space :: gap) word rest words blanks nonempty solid ended others)⟩

theorem exists_parted (text : List Char) : ∃ words, Parted text words := by
  induction text with
  | nil => exact ⟨[], .gap [] blanks_nil⟩
  | cons c rest ih =>
      obtain ⟨words, parted⟩ := ih
      cases blank : isBlank c with
      | true => exact ⟨words, parted_gap [c] rest words (blanks_single c blank) parted⟩
      | false => exact parted_letter c rest words blank parted

/-- The words of a text are the only row of pieces that it can be parted into. -/
theorem wordChars_iff (text : List Char) (words : List (List Char)) :
    wordChars text = words ↔ Parted text words := by
  constructor
  · rintro rfl
    obtain ⟨words, parted⟩ := exists_parted text
    rw [wordChars_of_parted text words parted]
    exact parted
  · exact wordChars_of_parted text words

theorem words_iff (text : String) (pieces : List String) :
    words text = pieces ↔ Parted text.toList (pieces.map String.toList) := by
  rw [← wordChars_iff, words]
  constructor
  · rintro rfl
    simp [Function.comp_def]
  · intro same
    rw [same]
    simp [Function.comp_def]

theorem words_within (text : List Char) (words : List (List Char)) (parted : Parted text words) :
    ∀ word ∈ words, word ≠ [] ∧ Solid word ∧ ∀ c ∈ word, c ∈ text := by
  induction parted with
  | gap gap blanks => exact fun _ none' => absurd none' List.not_mem_nil
  | word gap word rest words blanks nonempty solid ended others ih =>
      intro piece mem
      cases mem with
      | head => exact ⟨nonempty, solid, fun c own => by simp [own]⟩
      | tail _ later =>
          obtain ⟨nonempty', solid', within⟩ := ih piece later
          exact ⟨nonempty', solid', fun c own => by simp [within c own]⟩

/-- Words with one blank between them are parted as they were. -/
theorem parted_joined (words : List (List Char)) (nonempty : ∀ word ∈ words, word ≠ [])
    (solid : ∀ word ∈ words, Solid word) : Parted ([' '].intercalate words) words := by
  induction words with
  | nil => exact .gap [] blanks_nil
  | cons word rest ih =>
      have joined := ih (fun other mem => nonempty other (List.mem_cons_of_mem word mem))
        fun other mem => solid other (List.mem_cons_of_mem word mem)
      have own (behind : List Char) (words : List (List Char)) := Parted.word [] word behind words
        blanks_nil (nonempty word List.mem_cons_self) (solid word List.mem_cons_self)
      cases rest with
      | nil =>
          have single := own [] [] ended_nil (.gap [] blanks_nil)
          rw [List.append_nil] at single
          rwa [List.intercalate_singleton]
      | cons next others =>
          have space := blanks_single ' ' rfl
          have behind := parted_gap [' '] _ _ space joined
          have apart := ended_blanks [' '] ([' '].intercalate (next :: others)) space nofun
          rw [List.intercalate_cons_cons, List.append_assoc]
          exact own _ _ apart behind

end Roster.Text
