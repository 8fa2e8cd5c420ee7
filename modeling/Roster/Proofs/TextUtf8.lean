import Roster.Text.Utf8

/-!
Reading UTF-8 undoes writing it. A character is one of four forms, and the lead byte of a
form tells how many bytes follow; so each character is read back whole whatever comes
behind it, and a text is read back character by character.
-/

namespace Roster.Text.Utf8

theorem char_range (c : Char) : c.toNat < 0xD800 ∨ (0xDFFF < c.toNat ∧ c.toNat < 0x110000) :=
  c.valid

theorem byte_toNat (n : Nat) (small : n < 0x100) : (UInt8.ofNat n).toNat = n :=
  UInt8.toNat_ofNat_of_lt' small

theorem tail_toNat (n : Nat) : (UInt8.ofNat (0x80 + n % 0x40)).toNat = 0x80 + n % 0x40 :=
  byte_toNat _ (by omega)

theorem within_tail (n : Nat) : within 0x80 0xBF (UInt8.ofNat (0x80 + n % 0x40)).toNat = true := by
  rw [tail_toNat]
  simp only [within, Bool.and_eq_true, decide_eq_true_eq]
  omega

/-! ### Lead bytes -/

section Leads

variable (n second : Nat)

theorem follow_ascii (below : n < 0x80) : follow? n = some (0, 0, 0) := by
  simp [follow?, below]

theorem follow_two (above : 0xC2 ≤ n) (below : n < 0xE0) : follow? n = some (1, 0x80, 0xBF) := by
  simp [follow?, below, Nat.not_lt.mpr above, show ¬ n < 0x80 by omega]

-- The bounds of the second byte differ only behind the leads that begin or end a range of characters.
theorem follow_three (above : 0xE0 ≤ n) (below : n < 0xF0)
    (tail : 0x80 ≤ second ∧ second < 0xC0) (shortest : n = 0xE0 → 0xA0 ≤ second)
    (scalar : n = 0xED → second < 0xA0) :
    ∃ low high, follow? n = some (2, low, high) ∧ within low high second = true := by
  by_cases first : n = 0xE0
  · refine ⟨0xA0, 0xBF, by simp [follow?, first], ?_⟩
    simp only [within, Bool.and_eq_true, decide_eq_true_eq]
    omega
  by_cases surrogates : n = 0xED
  · refine ⟨0x80, 0x9F, by simp [follow?, surrogates], ?_⟩
    simp only [within, Bool.and_eq_true, decide_eq_true_eq]
    omega
  · refine ⟨0x80, 0xBF, ?_, ?_⟩
    · simp [follow?, first, surrogates, below, show ¬ n < 0x80 by omega,
        show ¬ n < 0xC2 by omega, show ¬ n < 0xE0 by omega]
    · simp only [within, Bool.and_eq_true, decide_eq_true_eq]
      omega

theorem follow_four (above : 0xF0 ≤ n) (below : n < 0xF5)
    (tail : 0x80 ≤ second ∧ second < 0xC0) (shortest : n = 0xF0 → 0x90 ≤ second)
    (last : n = 0xF4 → second < 0x90) :
    ∃ low high, follow? n = some (3, low, high) ∧ within low high second = true := by
  by_cases first : n = 0xF0
  · refine ⟨0x90, 0xBF, by simp [follow?, first], ?_⟩
    simp only [within, Bool.and_eq_true, decide_eq_true_eq]
    omega
  by_cases final : n = 0xF4
  · refine ⟨0x80, 0x8F, by simp [follow?, final], ?_⟩
    simp only [within, Bool.and_eq_true, decide_eq_true_eq]
    omega
  · refine ⟨0x80, 0xBF, ?_, ?_⟩
    · simp [follow?, first, show n ≠ 0xE0 by omega, show n ≠ 0xED by omega,
        show ¬ n < 0x80 by omega, show ¬ n < 0xC2 by omega, show ¬ n < 0xE0 by omega,
        show ¬ n < 0xF0 by omega, show n < 0xF4 by omega]
    · simp only [within, Bool.and_eq_true, decide_eq_true_eq]
      omega

end Leads

/-! ### Characters -/

section Pieces

variable (lead second third fourth : UInt8) (rest : Bytes) (low high : Nat)

theorem pieces_one (follows : follow? lead.toNat = some (0, low, high)) :
    pieces (lead :: rest) = some (Char.ofNat lead.toNat) :: pieces rest := by
  rw [pieces.eq_def (lead :: rest)]
  simp [follows]

theorem pieces_two (follows : follow? lead.toNat = some (1, low, high))
    (inside : within low high second.toNat = true) :
    pieces (lead :: second :: rest) =
      some (Char.ofNat ((lead.toNat - 0xC0) * 0x40 + (second.toNat - 0x80))) :: pieces rest := by
  rw [pieces.eq_def (lead :: second :: rest)]
  simp [follows, inside]

theorem pieces_three (follows : follow? lead.toNat = some (2, low, high))
    (inside : within low high second.toNat = true)
    (inside' : within 0x80 0xBF third.toNat = true) :
    pieces (lead :: second :: third :: rest) =
      some (Char.ofNat ((lead.toNat - 0xE0) * 0x1000 + (second.toNat - 0x80) * 0x40 +
        (third.toNat - 0x80))) :: pieces rest := by
  rw [pieces.eq_def (lead :: second :: third :: rest)]
  simp [follows, inside, inside']

theorem pieces_four (follows : follow? lead.toNat = some (3, low, high))
    (inside : within low high second.toNat = true)
    (inside' : within 0x80 0xBF third.toNat = true)
    (inside'' : within 0x80 0xBF fourth.toNat = true) :
    pieces (lead :: second :: third :: fourth :: rest) =
      some (Char.ofNat ((lead.toNat - 0xF0) * 0x40000 + (second.toNat - 0x80) * 0x1000 +
        (third.toNat - 0x80) * 0x40 + (fourth.toNat - 0x80))) :: pieces rest := by
  rw [pieces.eq_def (lead :: second :: third :: fourth :: rest)]
  simp [follows, inside, inside', inside'']

end Pieces

theorem pieces_encodeChar (c : Char) (rest : Bytes) :
    pieces (encodeChar c ++ rest) = some c :: pieces rest := by
  have range := char_range c
  have named : Char.ofNat c.toNat = c := Char.ofNat_toNat c
  simp only [encodeChar]
  split
  · next one =>
    have lead := byte_toNat c.toNat (by omega)
    have follows := follow_ascii c.toNat one
    rw [← lead] at follows
    rw [List.cons_append, List.nil_append, pieces_one _ rest _ _ follows, lead, named]
  split
  · next two =>
    have lead := byte_toNat (0xC0 + c.toNat / 0x40) (by omega)
    have follows := follow_two (0xC0 + c.toNat / 0x40) (by omega) (by omega)
    rw [← lead] at follows
    have number : (0xC0 + c.toNat / 0x40 - 0xC0) * 0x40 + (0x80 + c.toNat % 0x40 - 0x80) =
        c.toNat := by
      omega
    rw [List.cons_append, List.cons_append, List.nil_append,
      pieces_two _ _ rest _ _ follows (within_tail _), lead, tail_toNat, number, named]
  split
  · next three =>
    have lead := byte_toNat (0xE0 + c.toNat / 0x1000) (by omega)
    obtain ⟨low, high, follows, inside⟩ := follow_three (0xE0 + c.toNat / 0x1000)
      (0x80 + c.toNat / 0x40 % 0x40) (by omega) (by omega) (by omega) (by omega) (by omega)
    rw [← lead] at follows
    rw [← tail_toNat] at inside
    have number : (0xE0 + c.toNat / 0x1000 - 0xE0) * 0x1000 +
        (0x80 + c.toNat / 0x40 % 0x40 - 0x80) * 0x40 + (0x80 + c.toNat % 0x40 - 0x80) =
        c.toNat := by
      omega
    rw [List.cons_append, List.cons_append, List.cons_append, List.nil_append,
      pieces_three _ _ _ rest low high follows inside (within_tail _), lead, tail_toNat,
      tail_toNat, number, named]
  · next four =>
    have lead := byte_toNat (0xF0 + c.toNat / 0x40000) (by omega)
    obtain ⟨low, high, follows, inside⟩ := follow_four (0xF0 + c.toNat / 0x40000)
      (0x80 + c.toNat / 0x1000 % 0x40) (by omega) (by omega) (by omega) (by omega) (by omega)
    rw [← lead] at follows
    rw [← tail_toNat] at inside
    have number : (0xF0 + c.toNat / 0x40000 - 0xF0) * 0x40000 +
        (0x80 + c.toNat / 0x1000 % 0x40 - 0x80) * 0x1000 +
        (0x80 + c.toNat / 0x40 % 0x40 - 0x80) * 0x40 + (0x80 + c.toNat % 0x40 - 0x80) =
        c.toNat := by
      omega
    rw [List.cons_append, List.cons_append, List.cons_append, List.cons_append, List.nil_append,
      pieces_four _ _ _ _ rest low high follows inside (within_tail _) (within_tail _), lead,
      tail_toNat, tail_toNat, tail_toNat, number, named]

/-! ### Texts -/

theorem pieces_encodeChars (text : List Char) : pieces (encodeChars text) = text.map some := by
  induction text with
  | nil => simp [encodeChars, pieces]
  | cons c rest ih =>
      change pieces (encodeChar c ++ encodeChars rest) = _
      rw [pieces_encodeChar, ih, List.map_cons]

theorem decodeChars_encodeChars (text : List Char) : decodeChars? (encodeChars text) = some text := by
  rw [decodeChars?, pieces_encodeChars]
  induction text with
  | nil => rfl
  | cons c rest ih => simp [ih]

theorem decode_encode (text : String) : decode? (encode text) = some text := by
  rw [decode?, encode, decodeChars_encodeChars, Option.map_some, String.ofList_toList]

theorem decodeLossy_encodeChars (text : List Char) :
    decodeLossy (encodeChars text) = String.ofList text := by
  rw [decodeLossy, pieces_encodeChars, List.map_map]
  simp [Function.comp_def]

theorem encodeChars_append (first second : List Char) :
    encodeChars (first ++ second) = encodeChars first ++ encodeChars second :=
  List.flatMap_append

def IsText (bytes : Bytes) : Prop := ∃ text, bytes = encodeChars text

theorem isText_append (first second : Bytes) (isText : IsText first) (isText' : IsText second) :
    IsText (first ++ second) := by
  obtain ⟨text, rfl⟩ := isText
  obtain ⟨text', rfl⟩ := isText'
  exact ⟨text ++ text', (encodeChars_append text text').symm⟩

theorem isText_flatMap {α : Type} (items : List α) (bytes : α → Bytes)
    (isText : ∀ item ∈ items, IsText (bytes item)) : IsText (items.flatMap bytes) := by
  induction items with
  | nil => exact ⟨[], rfl⟩
  | cons item rest ih =>
      rw [List.flatMap_cons]
      exact isText_append _ _ (isText item List.mem_cons_self)
        (ih fun other mem => isText other (List.mem_cons_of_mem item mem))

theorem isText_encodeChar (c : Char) : IsText (encodeChar c) := ⟨[c], by simp [encodeChars]⟩

theorem ascii_toNat : ∀ n, n < 0x80 → (Char.ofNat n).toNat = n := by decide

theorem encodeChars_ascii (text : List Char) (ascii : ∀ c ∈ text, c.toNat < 0x80) :
    encodeChars text = text.map fun c => UInt8.ofNat c.toNat := by
  induction text with
  | nil => rfl
  | cons c rest ih =>
      have single : encodeChar c = [UInt8.ofNat c.toNat] := by
        simp [encodeChar, ascii c List.mem_cons_self]
      have others := ih fun other mem => ascii other (List.mem_cons_of_mem c mem)
      rw [encodeChars] at others ⊢
      rw [List.flatMap_cons, single, others]
      rfl

theorem encodeChars_bytes (bytes : Bytes) (ascii : ∀ byte ∈ bytes, byte.toNat < 0x80) :
    encodeChars (bytes.map fun byte => Char.ofNat byte.toNat) = bytes := by
  have value (byte : UInt8) (mem : byte ∈ bytes) : (Char.ofNat byte.toNat).toNat = byte.toNat :=
    ascii_toNat byte.toNat (ascii byte mem)
  rw [encodeChars_ascii, List.map_map]
  · refine (List.map_congr_left fun byte mem => ?_).trans (List.map_id bytes)
    rw [Function.comp_apply, value byte mem, UInt8.ofNat_toNat]
    rfl
  · intro c mem
    obtain ⟨byte, own, rfl⟩ := List.mem_map.mp mem
    rw [value byte own]
    exact ascii byte own

theorem chars_of_bytes (text : List Char) (ascii : ∀ c ∈ text, c.toNat < 0x80) :
    (encodeChars text).map (fun byte => Char.ofNat byte.toNat) = text := by
  rw [encodeChars_ascii text ascii, List.map_map]
  refine (List.map_congr_left fun c mem => ?_).trans (List.map_id text)
  have small := ascii c mem
  rw [Function.comp_apply, byte_toNat c.toNat (by omega), Char.ofNat_toNat]
  rfl

theorem isText_byte (byte : UInt8) (ascii : byte.toNat < 0x80) : IsText [byte] := by
  have value := ascii_toNat byte.toNat ascii
  refine ⟨[Char.ofNat byte.toNat], ?_⟩
  simp [encodeChars, encodeChar, value, ascii]

theorem isText_ascii (bytes : Bytes) (ascii : (bytes.all fun byte => byte.toNat < 0x80) = true) :
    IsText bytes := by
  have single := isText_flatMap bytes (fun byte => [byte])
    fun byte mem => isText_byte byte (of_decide_eq_true (List.all_eq_true.mp ascii byte mem))
  simpa using single

/-- Reading with replacements and writing again leaves a text as it is. -/
theorem encode_decodeLossy (bytes : Bytes) (isText : IsText bytes) :
    encode (decodeLossy bytes) = bytes := by
  obtain ⟨text, rfl⟩ := isText
  rw [decodeLossy_encodeChars, encode, String.toList_ofList]

end Roster.Text.Utf8
