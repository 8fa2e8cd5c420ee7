import Roster.Proofs.JsonValue
import Roster.Proofs.TextPlain

/-!
The fields of a record are read back as they were written: a text and a number each for
itself, and a record field by field, as no name stands in it twice. A type whose records
are read back so loses nothing on the way.
-/

namespace Roster.Json

open Text (Bytes)

namespace Value

/-! ### Texts and numbers -/

theorem string_ofString (text : String) : (ofString text).string? = some text :=
  Literal.read_body text

theorem spelled_ofString (text : String) : (ofString text).Spelled := by
  intro token mem
  rw [ofString, tokens] at mem
  obtain rfl := List.mem_singleton.mp mem
  exact ⟨Literal.body_isText text, Literal.body_closed text⟩

section Digits

variable (run : List Char) (digits : ∀ c ∈ run, c.isDigit = true)

include digits

theorem encodeChars_digits : Text.Utf8.encodeChars run = run.map fun c => UInt8.ofNat c.toNat := by
  apply Text.Utf8.encodeChars_ascii
  intro c mem
  have range := Text.isDigit_range c (digits c mem)
  omega

theorem lexemeChars_digits : lexemeChars (Text.Utf8.encodeChars run) = run := by
  rw [encodeChars_digits run digits, lexemeChars, List.map_map]
  have same : ∀ c ∈ run, ((fun byte : UInt8 => Char.ofNat byte.toNat) ∘
      fun c => UInt8.ofNat c.toNat) c = c := by
    intro c mem
    have range := Text.isDigit_range c (digits c mem)
    simp only [Function.comp_apply, Text.Utf8.byte_toNat c.toNat (by omega), Char.ofNat_toNat]
  rw [List.map_congr_left same, List.map_id']

theorem whole_digits (nonempty : run ≠ []) (shortest : run.head? = some '0' → run = ['0']) :
    Token.Whole (Text.Utf8.encodeChars run) := by
  rw [encodeChars_digits run digits]
  refine ⟨⟨by simpa using nonempty, ?_⟩, ?_⟩
  · intro byte mem
    obtain ⟨c, own, rfl⟩ := List.mem_map.mp mem
    have range := Text.isDigit_range c (digits c own)
    have value := Text.Utf8.byte_toNat c.toNat (by omega)
    simp only [isDigit, Bool.and_eq_true, decide_eq_true_eq, UInt8.le_iff_toNat_le, value]
    exact range
  · intro zero
    cases run with
    | nil => exact absurd rfl nonempty
    | cons first others =>
        have range := Text.isDigit_range first (digits first List.mem_cons_self)
        have value := congrArg UInt8.toNat (Option.some.inj zero)
        rw [Text.Utf8.byte_toNat first.toNat (by omega)] at value
        have isZero : first = '0' := Char.toNat_inj.mp value
        obtain ⟨rfl, rfl⟩ := List.cons.inj (shortest (by rw [isZero]; rfl))
        rfl

end Digits

theorem whole_natural (n : Nat) : Token.Whole (Text.Utf8.encodeChars (Text.digits n)) := by
  refine whole_digits _ (Text.digits_isDigit n) (Text.digits_nonempty n) ?_
  intro zero
  rw [Text.digits_leading n zero]
  rfl

theorem digits_begin (n : Nat) :
    ∃ first others, Text.digits n = first :: others ∧ first.isDigit = true := by
  cases front : Text.digits n with
  | nil => exact absurd front (Text.digits_nonempty n)
  | cons first others =>
      exact ⟨first, others, rfl, Text.digits_isDigit n first (by rw [front]; exact List.mem_cons_self)⟩

theorem all_isDigit (n : Nat) : (Text.digits n).all Char.isDigit = true :=
  List.all_eq_true.mpr (Text.digits_isDigit n)

theorem integer_natural (n : Nat) :
    (Value.number (Text.Utf8.encodeChars (Text.digits n))).integer? = some (n : Int) := by
  obtain ⟨first, others, front, digit⟩ := digits_begin n
  have chars := lexemeChars_digits _ (Text.digits_isDigit n)
  have noSign : first ≠ '-' := by
    rintro rfl
    cases digit
  have all := all_isDigit n
  have value := Text.ofDigitChars_digits n
  rw [front] at chars all value ⊢
  simp only [integer?, chars]
  split
  · next same =>
    obtain ⟨rfl, _⟩ := List.cons.inj same
    exact absurd rfl noSign
  · simp [all, value]

theorem integer_negative (n : Nat) (some' : 0 < n) :
    (Value.number (Text.Utf8.encodeChars ('-' :: Text.digits n))).integer? =
      some (-(n : Int)) := by
  have chars : lexemeChars (Text.Utf8.encodeChars ('-' :: Text.digits n)) =
      '-' :: Text.digits n :=
    congrArg ('-' :: ·) (lexemeChars_digits _ (Text.digits_isDigit n))
  have nonzero : Nat.ofDigitChars 10 (Text.digits n) 0 ≠ 0 := by
    rw [Text.ofDigitChars_digits]
    omega
  simp only [integer?, chars, all_isDigit, Bool.true_and]
  rw [if_pos (by simpa using nonzero), Text.ofDigitChars_digits]

theorem int32_ofInt32 (n : Int32) : (ofInt32 n).int32? = some n := by
  have read : (ofInt32 n).integer? = some n.toInt := by
    unfold ofInt32 intChars
    split
    · next negative =>
      rw [integer_negative _ (by omega)]
      congr 1
      omega
    · next natural =>
      rw [integer_natural]
      congr 1
      omega
  have range := And.intro (Int32.minValue_le_toInt n) (Int32.toInt_le n)
  simp only [int32?, read, Option.bind_eq_bind, Option.bind_some, if_pos range, Int32.ofInt_toInt]

theorem spelled_number (lexeme : Bytes) (spelled : Token.Spelled (.number lexeme)) :
    (Value.number lexeme).Spelled := by
  intro token mem
  rw [tokens] at mem
  obtain rfl := List.mem_singleton.mp mem
  exact spelled

theorem spelled_ofInt32 (n : Int32) : (ofInt32 n).Spelled := by
  unfold ofInt32 intChars
  split
  · exact spelled_number _ (Token.spelled_negative _ (whole_natural _))
  · exact spelled_number _ (Token.spelled_whole _ (whole_natural _))

theorem spelled_null : Value.null.Spelled := by
  intro token mem
  rw [tokens] at mem
  obtain rfl := List.mem_singleton.mp mem
  trivial

/-! ### Lists and records -/

section Containers

variable (P : Token → Prop) (comma : P .comma)

include comma

theorem forall_itemTokens (close : P .bracketClose) (items : List Value) :
    (∀ token ∈ itemTokens items, P token) ↔ ∀ item ∈ items, ∀ token ∈ item.tokens, P token := by
  induction items with
  | nil => simp [itemTokens, close]
  | cons item rest ih =>
      cases rest with
      | nil =>
          rw [itemTokens, List.forall_mem_append, List.forall_mem_singleton,
            List.forall_mem_singleton]
          exact and_iff_left close
      | cons second others =>
          rw [itemTokens, List.forall_mem_append, List.forall_mem_cons, ih,
            List.forall_mem_cons (a := item)]
          · exact and_congr_right fun _ => and_iff_right comma
          · simp

theorem forall_fieldTokens (colon : P .colon) (close : P .braceClose)
    (fields : List (Bytes × Value)) :
    (∀ token ∈ fieldTokens fields, P token) ↔
      ∀ field ∈ fields, P (.text field.1) ∧ ∀ token ∈ field.2.tokens, P token := by
  induction fields with
  | nil => simp [fieldTokens, close]
  | cons field rest ih =>
      cases rest with
      | nil =>
          rw [fieldTokens, List.forall_mem_append, List.forall_mem_cons, List.forall_mem_cons,
            List.forall_mem_singleton, List.forall_mem_singleton, and_iff_right colon]
          exact and_iff_left close
      | cons second others =>
          rw [fieldTokens, List.forall_mem_append, List.forall_mem_cons, List.forall_mem_cons,
            List.forall_mem_cons, ih, and_iff_right colon, and_iff_right comma,
            List.forall_mem_cons (a := field)]
          simp

end Containers

theorem spelled_list (items : List Value) (spelled : ∀ item ∈ items, item.Spelled) :
    (Value.list items).Spelled := by
  rw [Spelled, tokens, List.forall_mem_cons,
    forall_itemTokens Token.Spelled trivial trivial items]
  exact ⟨trivial, spelled⟩

theorem spelled_record (fields : List (String × Value))
    (spelled : ∀ field ∈ fields, field.2.Spelled) : (record fields).Spelled := by
  rw [Spelled, record, tokens, List.forall_mem_cons,
    forall_fieldTokens Token.Spelled trivial trivial trivial]
  refine ⟨trivial, ?_⟩
  rintro field among
  obtain ⟨⟨name, value⟩, given, rfl⟩ := List.mem_map.mp among
  exact ⟨⟨Literal.body_isText name, Literal.body_closed name⟩, spelled (name, value) given⟩

theorem legible_object (fields : List (Bytes × Value)) :
    (Value.object fields).Legible ↔
      ∀ field ∈ fields, Literal.Closed field.1 ∧ field.2.Legible := by
  rw [Legible, tokens, List.forall_mem_cons,
    forall_fieldTokens Token.Legible trivial trivial trivial]
  exact and_iff_right trivial

theorem read_names (fields : List (String × Value)) :
    (fields.map fun (name, value) => (Literal.body name, value)).mapM
      (fun (name, value) => (Literal.read? name).map (·, value)) = some fields := by
  induction fields with
  | nil => rfl
  | cons field rest ih =>
      obtain ⟨name, value⟩ := field
      rw [List.map_cons, List.mapM_cons, ih]
      simp only [Literal.read_body]
      rfl

theorem shape_record (names : List String) (fields : List (String × Value))
    (distinct : (fields.map Prod.fst).Nodup) :
    (record fields).shape? names = some (names.map fun name => fields.lookup name) := by
  have once : (names.all fun name => decide (fields.countP (·.1 == name) ≤ 1)) = true := by
    rw [List.all_eq_true]
    intro name _
    have counted := List.nodup_iff_count.mp distinct name
    rw [List.count_eq_countP, List.countP_map] at counted
    exact decide_eq_true counted
  rw [record, shape?, read_names]
  simp only [Option.bind_eq_bind, Option.bind_some, once, if_true]

end Value

/-! ### Types without loss -/

/-- Whatever is written of such a type is read back as it was. -/
class Wire.Lossless (α : Type) [Wire α] : Prop where
  spelled (a : α) : (Wire.toValue a).Spelled
  read (a : α) : Wire.ofValue? (Wire.toValue a) = some a
  /-- So that something absent can be told from it. -/
  present (a : α) : Wire.toValue a ≠ .null

namespace Wire

variable {α : Type} [Wire α] [Lossless α]

theorem decode_encode (a : α) : decode? (encode a) = some a := by
  rw [decode?, encode, Value.parse_write _ (Lossless.spelled a)]
  exact Lossless.read a

theorem encode_isText (a : α) : Text.Utf8.IsText (encode a) :=
  Value.write_isText _ (Lossless.spelled a)

theorem optional_present (a : α) :
    Value.optional? Wire.ofValue? (some (Wire.toValue a)) = some (some a) := by
  have present := Lossless.present a
  have read := Lossless.read a
  generalize Wire.toValue a = value at present read
  cases value with
  | null => exact absurd rfl present
  | _ => simp [Value.optional?, read]

instance : Lossless (List α) where
  spelled items := by
    refine Value.spelled_list _ ?_
    intro value mem
    obtain ⟨item, _, rfl⟩ := List.mem_map.mp mem
    exact Lossless.spelled item
  read items := by
    change (items.map Wire.toValue).mapM Wire.ofValue? = some items
    induction items with
    | nil => rfl
    | cons item rest ih =>
        rw [List.map_cons, List.mapM_cons, ih, Lossless.read]
        rfl
  present _ := by simp [Wire.toValue]

end Wire
end Roster.Json
