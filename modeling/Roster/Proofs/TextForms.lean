import Roster.Http.Request
import Roster.Proofs.TextPlain
import Roster.Proofs.TextUtf8

/-!
Letters, digits and the minus go through a URL as they are: nothing of them is an escape, a blank
or a mark between two parts. So numbers that were written into a path or a query are read there
again, over the whole range of their type.
-/

namespace Roster.Text

open Utf8 (encodeChars encodeChars_ascii decodeLossy)

/-! ### Plain characters -/

def isPlain (c : Char) : Bool := c.isAlphanum || c == '-'

theorem plain_ascii (c : Char) (plain : isPlain c = true) : c.toNat < 0x80 := by
  have kinds : (c.isUpper || c.isLower || c.isDigit || c == '-') = true := plain
  simp only [Bool.or_eq_true, beq_iff_eq] at kinds
  have upTo (last : Char) (within : c.val ≤ last.val) (ascii : last.toNat < 0x80) :
      c.toNat < 0x80 :=
    Nat.lt_of_le_of_lt (UInt32.le_iff_toNat_le.mp within) ascii
  rcases kinds with ((upper | lower) | digit) | rfl
  · exact upTo 'Z' (of_decide_eq_true upper).2 (by decide)
  · exact upTo 'z' (of_decide_eq_true (Bool.and_eq_true_iff.mp lower).2) (by decide)
  · exact upTo '9' (of_decide_eq_true (Bool.and_eq_true_iff.mp digit).2) (by decide)
  · decide

theorem plain_of_isDigit (c : Char) (digit : c.isDigit = true) : isPlain c = true := by
  simp [isPlain, Char.isAlphanum, digit]

theorem ne_of_plain (c mark : Char) (plain : isPlain c = true) (marks : isPlain mark = false) :
    c ≠ mark := by
  rintro rfl
  rw [plain] at marks
  cases marks

theorem percentDecode_clear (kept bytes : Bytes) (clear : ∀ byte ∈ bytes, byte ≠ 0x25) :
    percentDecode kept bytes = bytes := by
  fun_induction percentDecode kept bytes <;> simp_all

theorem byte_ne (text : List Char) (ascii : ∀ c ∈ text, c.toNat < 0x80) (mark : Char)
    (marks : mark.toNat < 0x80) (absent : mark ∉ text) (byte : UInt8)
    (mem : byte ∈ encodeChars text) : byte ≠ UInt8.ofNat mark.toNat := by
  rw [encodeChars_ascii text ascii] at mem
  obtain ⟨c, own, rfl⟩ := List.mem_map.mp mem
  have small := ascii c own
  intro same
  have values := congrArg UInt8.toNat same
  rw [Utf8.byte_toNat c.toNat (by omega), Utf8.byte_toNat mark.toNat (by omega)] at values
  exact absent (Char.toNat_inj.mp values ▸ own)

section Plain

variable (text : List Char) (plain : ∀ c ∈ text, isPlain c = true)

include plain

theorem plain_byte_ne (mark : Char) (ascii : mark.toNat < 0x80) (marks : isPlain mark = false) :
    ∀ byte ∈ encodeChars text, byte ≠ UInt8.ofNat mark.toNat :=
  byte_ne text (fun c mem => plain_ascii c (plain c mem)) mark ascii
    fun mem => ne_of_plain mark mark (plain mark mem) marks rfl

theorem formText_plain : formText (encodeChars text) = String.ofList text := by
  have noBlank : (encodeChars text).map (fun byte => if byte = 0x2B then 0x20 else byte) =
      encodeChars text := by
    refine List.map_congr_left (fun byte mem => ?_) |>.trans (List.map_id _)
    exact if_neg (plain_byte_ne text plain '+' (by decide) (by decide) byte mem)
  have noEscape := plain_byte_ne text plain '%' (by decide) (by decide)
  rw [formText, noBlank, percentDecode_clear [] _ noEscape, Utf8.decodeLossy_encodeChars]

end Plain

def fieldChars (name value : List Char) : List Char := name ++ '=' :: value

section Fields

variable (name value : List Char) (plainName : ∀ c ∈ name, isPlain c = true)
  (plainValue : ∀ c ∈ value, isPlain c = true)

theorem encodeChars_field :
    encodeChars (fieldChars name value) = encodeChars name ++ 0x3D :: encodeChars value :=
  Utf8.encodeChars_append name ('=' :: value)

include plainName plainValue

theorem formField_plain : formField (encodeChars (fieldChars name value)) =
    (String.ofList name, String.ofList value) := by
  rw [encodeChars_field]
  have before : (encodeChars name ++ 0x3D :: encodeChars value).takeWhile (· != 0x3D) =
      encodeChars name := by
    rw [List.takeWhile_append_of_pos]
    · simp
    · intro byte mem
      exact bne_iff_ne.mpr (plain_byte_ne name plainName '=' (by decide) (by decide) byte mem)
  have behind : (encodeChars name ++ 0x3D :: encodeChars value).drop
      ((encodeChars name).length + 1) = encodeChars value := by
    rw [List.drop_append]
    simp
  rw [formField, before, behind, formText_plain name plainName, formText_plain value plainValue]

theorem field_whole (byte : UInt8) (mem : byte ∈ encodeChars (fieldChars name value)) :
    (byte == 0x26) = false := by
  rw [beq_eq_false_iff_ne]
  rw [encodeChars_field] at mem
  rcases List.mem_append.mp mem with own | rest
  · exact plain_byte_ne name plainName '&' (by decide) (by decide) byte own
  · rcases List.mem_cons.mp rest with rfl | own
    · decide
    · exact plain_byte_ne value plainValue '&' (by decide) (by decide) byte own

omit plainName plainValue in
theorem field_nonempty : (encodeChars (fieldChars name value)).isEmpty = false := by
  rw [encodeChars_field]
  simp

theorem formFields_single : formFields (encodeChars (fieldChars name value)) =
    [(String.ofList name, String.ofList value)] := by
  rw [formFields, List.splitOnP_eq_singleton (field_whole name value plainName plainValue)]
  simp [field_nonempty name value, formField_plain name value plainName plainValue]

theorem formFields_cons (rest : List Char) :
    formFields (encodeChars (fieldChars name value ++ '&' :: rest)) =
      (String.ofList name, String.ofList value) :: formFields (encodeChars rest) := by
  have parted : encodeChars (fieldChars name value ++ '&' :: rest) =
      encodeChars (fieldChars name value) ++ 0x26 :: encodeChars rest :=
    Utf8.encodeChars_append (fieldChars name value) ('&' :: rest)
  rw [parted, formFields, List.splitOnP_append_cons_of_forall_mem
    (field_whole name value plainName plainValue) 0x26 (by decide) (encodeChars rest)]
  simp [field_nonempty name value, formField_plain name value plainName plainValue, formFields]

end Fields

def formChars : List (List Char × List Char) → List Char
  | [] => []
  | [(name, value)] => fieldChars name value
  | (name, value) :: rest => fieldChars name value ++ '&' :: formChars rest

theorem mem_formChars (fields : List (List Char × List Char))
    (plain : ∀ field ∈ fields,
      (∀ c ∈ field.1, isPlain c = true) ∧ ∀ c ∈ field.2, isPlain c = true)
    (c : Char) (mem : c ∈ formChars fields) : c = '=' ∨ c = '&' ∨ isPlain c = true := by
  have within (name value : List Char) (known : (name, value) ∈ fields)
      (mem : c ∈ fieldChars name value) : c = '=' ∨ c = '&' ∨ isPlain c = true := by
    obtain ⟨plainName, plainValue⟩ := plain (name, value) known
    rcases List.mem_append.mp mem with own | mem
    · exact .inr (.inr (plainName c own))
    · exact (List.mem_cons.mp mem).imp_right fun own => .inr (plainValue c own)
  induction fields with
  | nil => cases mem
  | cons field rest ih =>
      obtain ⟨name, value⟩ := field
      have own := within name value List.mem_cons_self
      cases rest with
      | nil => exact own mem
      | cons next rest =>
          rcases List.mem_append.mp mem with first | mem
          · exact own first
          · rcases List.mem_cons.mp mem with parted | later
            · exact .inr (.inl parted)
            · exact ih (fun field known => plain field (List.mem_cons_of_mem _ known)) later
                fun name value known => within name value (List.mem_cons_of_mem _ known)

theorem formFields_formChars (fields : List (List Char × List Char))
    (plain : ∀ field ∈ fields,
      (∀ c ∈ field.1, isPlain c = true) ∧ ∀ c ∈ field.2, isPlain c = true) :
    formFields (encodeChars (formChars fields)) =
      fields.map fun field => (String.ofList field.1, String.ofList field.2) := by
  induction fields with
  | nil => rfl
  | cons field rest ih =>
      obtain ⟨name, value⟩ := field
      obtain ⟨plainName, plainValue⟩ := plain (name, value) List.mem_cons_self
      have others := ih fun other mem => plain other (List.mem_cons_of_mem _ mem)
      cases rest with
      | nil => exact formFields_single name value plainName plainValue
      | cons next rest =>
          rw [formChars, formFields_cons name value plainName plainValue, others]
          · rfl
          · exact List.cons_ne_nil _ _

/-! ### Paths -/

def pathChars (pieces : List (List Char)) : List Char := pieces.flatMap ('/' :: ·)

theorem mem_pathChars (pieces : List (List Char))
    (plain : ∀ piece ∈ pieces, ∀ c ∈ piece, isPlain c = true) (c : Char)
    (mem : c ∈ pathChars pieces) : c = '/' ∨ isPlain c = true := by
  obtain ⟨piece, own, within⟩ := List.mem_flatMap.mp mem
  exact (List.mem_cons.mp within).imp_right (plain piece own c)

theorem splitOnP_behind (front : List Char) (pieces : List (List Char))
    (plainFront : ∀ c ∈ front, isPlain c = true)
    (plain : ∀ piece ∈ pieces, ∀ c ∈ piece, isPlain c = true) :
    (front ++ pathChars pieces).splitOnP (· == '/') = front :: pieces := by
  have noSlash : ∀ c ∈ front, (c == '/') = false := fun c mem =>
    beq_eq_false_iff_ne.mpr (ne_of_plain c '/' (plainFront c mem) (by decide))
  induction pieces generalizing front with
  | nil =>
      rw [pathChars, List.flatMap_nil, List.append_nil]
      exact List.splitOnP_eq_singleton noSlash
  | cons piece rest ih =>
      have own := plain piece List.mem_cons_self
      have others := ih piece own (fun other mem => plain other (List.mem_cons_of_mem _ mem))
        fun c mem => beq_eq_false_iff_ne.mpr (ne_of_plain c '/' (own c mem) (by decide))
      have parted := List.splitOnP_append_cons_of_forall_mem noSlash '/' (by decide)
        (piece ++ pathChars rest)
      exact parted.trans (congrArg (front :: ·) others)

theorem splitOnP_pathChars (pieces : List (List Char))
    (plain : ∀ piece ∈ pieces, ∀ c ∈ piece, isPlain c = true) :
    (pathChars pieces).splitOnP (· == '/') = [] :: pieces :=
  splitOnP_behind [] pieces (by simp) plain

/-! ### Numbers -/

theorem plain_digits (n : Nat) : ∀ c ∈ digits n, isPlain c = true :=
  fun c mem => plain_of_isDigit c (digits_isDigit n c mem)

theorem le_ofDigitChars (run : List Char) (value : Nat) :
    value ≤ Nat.ofDigitChars 10 run value := by
  induction run generalizing value with
  | nil => exact Nat.le_refl value
  | cons c rest ih =>
      rw [Nat.ofDigitChars_cons]
      exact Nat.le_trans (by omega) (ih _)

/-- Digits are read as the number they stand for, if that is within the limit: then so is every
number on the way to it. -/
theorem readDigits_run (limit : Nat) (overflow : NumeralFault) (value : Nat) (run : List Char)
    (isDigit : ∀ c ∈ run, c.isDigit = true) (within : Nat.ofDigitChars 10 run value ≤ limit) :
    readDigits limit overflow value run = .ok (Nat.ofDigitChars 10 run value) := by
  induction run generalizing value with
  | nil => rfl
  | cons c rest ih =>
      have own : digitValue? c = some (c.toNat - 48) := by
        rw [digitValue?, if_pos (isDigit c List.mem_cons_self)]
      have step : Nat.ofDigitChars 10 (c :: rest) value =
          Nat.ofDigitChars 10 rest (value * 10 + (c.toNat - 48)) := by
        rw [Nat.ofDigitChars_cons, Nat.mul_comm]
        rfl
      rw [step] at within ⊢
      have soFar := Nat.le_trans (le_ofDigitChars rest _) within
      rw [readDigits, own]
      simp only [if_neg (Nat.not_lt.mpr soFar)]
      exact ih _ (fun other mem => isDigit other (List.mem_cons_of_mem c mem)) within

theorem readDigits_digits (limit : Nat) (overflow : NumeralFault) (n : Nat) (within : n ≤ limit) :
    readDigits limit overflow 0 (digits n) = .ok n := by
  have value := ofDigitChars_digits n
  rw [readDigits_run limit overflow 0 (digits n) (digits_isDigit n) (by rwa [value]), value]

theorem readNatural_digits (limit n : Nat) (within : n ≤ limit) :
    readNatural limit (digits n) = .ok n := by
  have read := readDigits_digits limit .tooLarge n within
  have first := digits_isDigit n
  unfold readNatural
  split
  · next empty => exact absurd empty (digits_nonempty n)
  · next sign => rw [sign] at first; cases first '+' List.mem_cons_self
  · next sign => rw [sign] at first; cases first '+' List.mem_cons_self
  · exact read

theorem readInteger_natural (limit n : Nat) (within : n ≤ limit) :
    readInteger limit (digits n) = .ok (n : Int) := by
  have read := readDigits_digits limit .tooLarge n within
  have first := digits_isDigit n
  unfold readInteger
  split
  · next empty => exact absurd empty (digits_nonempty n)
  · next sign => rw [sign] at first; cases first '+' List.mem_cons_self
  · next sign => rw [sign] at first; cases first '-' List.mem_cons_self
  · next sign => rw [sign] at first; cases first '-' List.mem_cons_self
  · next sign => rw [sign] at first; cases first '+' List.mem_cons_self
  · rw [read]
    rfl

theorem readInteger_negative (limit n : Nat) (within : n ≤ limit + 1) :
    readInteger limit ('-' :: digits n) = .ok (-(n : Int)) := by
  have read := readDigits_digits (limit + 1) .tooSmall n within
  have some' := digits_nonempty n
  unfold readInteger
  split
  · next same => cases same
  · next same => cases same
  · next same => exact absurd (List.cons.inj same).2 some'
  · next same =>
    rw [← (List.cons.inj same).2, read]
    rfl
  · next same => cases same
  · next other _ => exact (other (digits n) rfl).elim

end Roster.Text

namespace Roster.Http

theorem unsigned_digits (bits n : Nat) (small : n < Nat.pow 2 bits) :
    unsigned? bits (Text.digits n) = some n := by
  rw [unsigned?, Text.readNatural_digits _ n (by omega)]
  rfl

theorem toString_key (id : Id) : (toString id).toList = Json.Value.intChars id.toInt := by
  change (Int.repr id.toInt).toList = _
  cases id.toInt with
  | ofNat n => simp [Int.repr, Json.Value.intChars, Text.digits]
  | negSucc n => simp [Int.repr, Json.Value.intChars, Text.digits, String.toList_append]

theorem plain_intChars (n : Int) : ∀ c ∈ Json.Value.intChars n, Text.isPlain c = true := by
  intro c mem
  unfold Json.Value.intChars at mem
  split at mem
  · rcases List.mem_cons.mp mem with rfl | digit
    · rfl
    · exact Text.plain_digits _ c digit
  · exact Text.plain_digits _ c mem

theorem signed_intChars (id : Id) : signed? (Json.Value.intChars id.toInt) = some id := by
  have low : (-2147483648 : Int) ≤ id.toInt := Int32.minValue_le_toInt id
  have high : id.toInt ≤ 2147483647 := Int32.toInt_le id
  have limit : Int32.maxValue.toInt.toNat = 2147483647 := rfl
  have read : Text.readInteger 2147483647 (Json.Value.intChars id.toInt) = .ok id.toInt := by
    unfold Json.Value.intChars
    split
    · next negative =>
      rw [Text.readInteger_negative _ _ (by omega)]
      exact congrArg Except.ok (by omega)
    · next natural =>
      rw [Text.readInteger_natural _ _ (by omega)]
      exact congrArg Except.ok (by omega)
  rw [signed?, limit, read]
  exact congrArg some (Int32.ofInt_toInt id)

end Roster.Http
