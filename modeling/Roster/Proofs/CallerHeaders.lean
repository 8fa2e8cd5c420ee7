import Roster.Caller
import Roster.Proofs.TextPlain
import Roster.Proofs.TextUtf8

/-!
Callers are read in a normal form. The subject is the first value under its name without the
blanks around it, if anything is left, and the scopes are the words of the first value under
theirs. A first value that cannot be read is as good as none, whatever stands behind it. A caller
that was read can be written as headers again, and is read from these as it was.
-/

namespace Roster

open Text (Trimmed Solid Holds Parted)

namespace Headers

/-! ### What headers say -/

def Legible (c : Char) : Prop := c.toNat = 0x09 ∨ 0x20 ≤ c.toNat ∧ c.toNat < 0x7F

theorem legible_ascii (c : Char) (legible : Legible c) : c.toNat < 0x80 := by
  unfold Legible at legible
  omega

theorem plain_byte (byte : UInt8) :
    (byte == 0x09 || (decide (0x20 ≤ byte) && decide (byte < 0x7F))) = true ↔
      byte.toNat = 0x09 ∨ 0x20 ≤ byte.toNat ∧ byte.toNat < 0x7F := by
  rw [Bool.or_eq_true, Bool.and_eq_true, beq_iff_eq, decide_eq_true_iff, decide_eq_true_iff,
    UInt8.le_iff_toNat_le, UInt8.lt_iff_toNat_lt, ← UInt8.toNat_inj]
  rfl

theorem byte_of_legible (text : List Char) (legible : ∀ c ∈ text, Legible c) (byte : UInt8)
    (mem : byte ∈ Text.Utf8.encodeChars text) :
    byte.toNat = 0x09 ∨ 0x20 ≤ byte.toNat ∧ byte.toNat < 0x7F := by
  rw [Text.Utf8.encodeChars_ascii text fun c mem => legible_ascii c (legible c mem)] at mem
  obtain ⟨c, own, rfl⟩ := List.mem_map.mp mem
  have small := legible_ascii c (legible c own)
  rw [Text.Utf8.byte_toNat c.toNat (by omega)]
  exact legible c own

theorem readable_iff (value : HeaderValue) (text : String) :
    readable? value = some text ↔ value = .ofText text ∧ ∀ c ∈ text.toList, Legible c := by
  unfold readable?
  constructor
  · intro read
    split at read
    · next plain =>
      have bounds (byte : UInt8) (mem : byte ∈ value.bytes) :=
        (plain_byte byte).mp (List.all_eq_true.mp plain byte mem)
      have ascii (byte : UInt8) (mem : byte ∈ value.bytes) : byte.toNat < 0x80 := by
        have own := bounds byte mem
        omega
      cases read
      rw [HeaderValue.ofText, Text.Utf8.encode, String.toList_ofList,
        Text.Utf8.encodeChars_bytes _ ascii]
      refine ⟨rfl, ?_⟩
      intro c mem
      obtain ⟨byte, own, rfl⟩ := List.mem_map.mp mem
      rw [Legible, Text.Utf8.ascii_toNat byte.toNat (ascii byte own)]
      exact bounds byte own
    · cases read
  · rintro ⟨rfl, legible⟩
    have plain (byte : UInt8) (mem : byte ∈ Text.Utf8.encodeChars text.toList) :=
      (plain_byte byte).mpr (byte_of_legible text.toList legible byte mem)
    rw [HeaderValue.ofText, Text.Utf8.encode, if_pos (List.all_eq_true.mpr plain),
      Text.Utf8.chars_of_bytes _ fun c mem => legible_ascii c (legible c mem), String.ofList_toList]

theorem legal_of_legible (text : String) (legible : ∀ c ∈ text.toList, Legible c) :
    (HeaderValue.ofText text).isLegal = true := by
  apply List.all_eq_true.mpr
  intro byte mem
  have own := byte_of_legible text.toList legible byte mem
  rw [Bool.or_eq_true, Bool.and_eq_true, beq_iff_eq, bne_iff_ne, decide_eq_true_iff,
    UInt8.le_iff_toNat_le, ← UInt8.toNat_inj, ne_eq, ← UInt8.toNat_inj]
  change byte.toNat = 0x09 ∨ 0x20 ≤ byte.toNat ∧ byte.toNat ≠ 0x7F
  omega

def First (headers : Headers) (name : String) (value : HeaderValue) : Prop :=
  ∃ before spelled after, headers = before ++ (spelled, value) :: after ∧
    lower spelled = lower name ∧ ∀ header ∈ before, lower header.1 ≠ lower name

theorem get_iff (headers : Headers) (name : String) (value : HeaderValue) :
    headers.get? name = some value ↔ First headers name value := by
  rw [get?, Option.map_eq_some_iff]
  constructor
  · rintro ⟨⟨spelled, value⟩, found, rfl⟩
    obtain ⟨same, before, after, parted, others⟩ := List.find?_eq_some_iff_append.mp found
    exact ⟨before, spelled, after, parted, beq_iff_eq.mp same, fun header mem => by
      simpa using others header mem⟩
  · rintro ⟨before, spelled, after, parted, same, others⟩
    refine ⟨(spelled, value), List.find?_eq_some_iff_append.mpr ?_, rfl⟩
    exact ⟨beq_iff_eq.mpr same, before, after, parted, fun header mem => by
      simpa using others header mem⟩

/-- The first value under a name is this text, and all of it is legible. -/
def Says (headers : Headers) (name : String) (text : String) : Prop :=
  First headers name (.ofText text) ∧ ∀ c ∈ text.toList, Legible c

def said? (headers : Headers) (name : String) : Option String :=
  (headers.get? name).bind readable?

theorem said_iff (headers : Headers) (name text : String) :
    said? headers name = some text ↔ Says headers name text := by
  rw [said?, Option.bind_eq_some_iff]
  constructor
  · rintro ⟨value, found, read⟩
    obtain ⟨rfl, legible⟩ := (readable_iff value text).mp read
    exact ⟨(get_iff headers name _).mp found, legible⟩
  · rintro ⟨first, legible⟩
    exact ⟨_, (get_iff headers name _).mpr first, (readable_iff _ text).mpr ⟨rfl, legible⟩⟩

theorem said_none (headers : Headers) (name : String) :
    said? headers name = none ↔ ∀ text, ¬ Says headers name text := by
  rw [Option.eq_none_iff_forall_ne_some]
  exact forall_congr' fun text => not_congr (said_iff headers name text)

end Headers

namespace Caller

open Headers (Legible Says said? said_iff said_none)

theorem ofHeaders_eq (headers : Headers) :
    ofHeaders headers =
      { subject := (said? headers subjectHeader).bind fun text =>
          if (Text.trim text).isEmpty then none else some (Text.trim text)
        scopes := ((said? headers scopesHeader).map Text.words).getD [] } := by
  rw [said?, Option.bind_assoc]
  rfl

theorem subject_iff (headers : Headers) (subject : String) :
    (ofHeaders headers).subject = some subject ↔
      ∃ text, Says headers subjectHeader text ∧ Holds text.toList subject.toList ∧ subject ≠ "" := by
  rw [ofHeaders_eq, Option.bind_eq_some_iff]
  refine exists_congr fun text => and_congr (said_iff headers subjectHeader text) ?_
  rw [← Text.trim_iff]
  constructor
  · intro trimmed
    split at trimmed
    · cases trimmed
    · next some' =>
      rw [← Option.some.inj trimmed]
      exact ⟨rfl, fun empty => some' (by rw [empty]; rfl)⟩
  · rintro ⟨rfl, nonempty⟩
    rw [if_neg (by simpa using nonempty)]

theorem scopes_iff (headers : Headers) (scopes : List String) :
    (ofHeaders headers).scopes = scopes ↔
      (∃ text, Says headers scopesHeader text ∧ Parted text.toList (scopes.map String.toList)) ∨
        (∀ text, ¬ Says headers scopesHeader text) ∧ scopes = [] := by
  rw [ofHeaders_eq]
  cases told : said? headers scopesHeader with
  | none =>
      have silent := (said_none headers scopesHeader).mp told
      simp [silent, eq_comm]
  | some text =>
      have said := (said_iff headers scopesHeader text).mp told
      constructor
      · intro same
        exact .inl ⟨text, said, (Text.words_iff text scopes).mp same⟩
      · rintro (⟨other, said', parted⟩ | ⟨silent, _⟩)
        · rw [← said_iff, told] at said'
          cases said'
          exact (Text.words_iff text scopes).mpr parted
        · exact absurd said (silent text)

/-! ### The normal form -/

/-- A subject that is trimmed and not empty, and scopes without blanks, all of it legible. -/
structure Normal (caller : Caller) : Prop where
  subject : ∀ subject ∈ caller.subject,
    subject ≠ "" ∧ Trimmed subject.toList ∧ ∀ c ∈ subject.toList, Legible c
  scopes : ∀ scope ∈ caller.scopes,
    scope ≠ "" ∧ Solid scope.toList ∧ ∀ c ∈ scope.toList, Legible c

theorem ofHeaders_normal (headers : Headers) : (ofHeaders headers).Normal := by
  constructor
  · intro subject known
    obtain ⟨text, said, ⟨trimmed, front, back, _, _, parted⟩, nonempty⟩ :=
      (subject_iff headers subject).mp known
    exact ⟨nonempty, trimmed, fun c mem => said.2 c (by simp [parted, mem])⟩
  · intro scope known
    rcases (scopes_iff headers _).mp rfl with ⟨text, said, parted⟩ | ⟨_, none'⟩
    · obtain ⟨nonempty, solid, within⟩ :=
        Text.words_within _ _ parted scope.toList (List.mem_map_of_mem known)
      exact ⟨by simpa using nonempty, solid, fun c mem => said.2 c (within c mem)⟩
    · rw [none'] at known
      exact absurd known List.not_mem_nil

/-! ### Writing a caller again -/

def joined (scopes : List String) : String := " ".intercalate scopes

def toHeaders (caller : Caller) : Headers :=
  (caller.subject.map fun subject => (subjectHeader, HeaderValue.ofText subject)).toList ++
    if caller.scopes.isEmpty then [] else [(scopesHeader, .ofText (joined caller.scopes))]

theorem get_subject (caller : Caller) :
    caller.toHeaders.get? subjectHeader = caller.subject.map HeaderValue.ofText := by
  have apart : (Headers.lower scopesHeader == Headers.lower subjectHeader) = false := by decide
  unfold toHeaders Headers.get?
  cases caller.subject <;> cases caller.scopes <;> simp [apart]

theorem get_scopes (caller : Caller) :
    caller.toHeaders.get? scopesHeader =
      if caller.scopes.isEmpty then none else some (.ofText (joined caller.scopes)) := by
  have apart : (Headers.lower subjectHeader == Headers.lower scopesHeader) = false := by decide
  unfold toHeaders Headers.get?
  cases caller.subject <;> cases caller.scopes <;> simp [apart]

theorem legible_joined (scopes : List String)
    (legible : ∀ scope ∈ scopes, ∀ c ∈ scope.toList, Legible c) :
    ∀ c ∈ (joined scopes).toList, Legible c := by
  induction scopes with
  | nil => exact fun _ none' => absurd none' List.not_mem_nil
  | cons scope rest ih =>
      have own := legible scope List.mem_cons_self
      have others := ih fun other mem => legible other (List.mem_cons_of_mem scope mem)
      cases rest with
      | nil => rwa [joined, String.intercalate_singleton]
      | cons next rest =>
          rw [joined, String.intercalate_cons_cons, String.toList_append, String.toList_append]
          intro c mem
          rcases List.mem_append.mp mem with front | behind
          · rcases List.mem_append.mp front with scope' | space
            · exact own c scope'
            · rw [List.mem_singleton.mp space]
              exact .inr (by decide)
          · exact others c behind

theorem words_joined (scopes : List String)
    (solid : ∀ scope ∈ scopes, scope ≠ "" ∧ Solid scope.toList) :
    Text.words (joined scopes) = scopes := by
  rw [Text.words_iff, joined, String.toList_intercalate]
  apply Text.parted_joined
  · intro word mem
    obtain ⟨scope, known, rfl⟩ := List.mem_map.mp mem
    simpa using (solid scope known).1
  · intro word mem
    obtain ⟨scope, known, rfl⟩ := List.mem_map.mp mem
    exact (solid scope known).2

section Written

variable (caller : Caller) (normal : caller.Normal)

include normal

theorem said_subject : said? caller.toHeaders subjectHeader = caller.subject := by
  rw [said?, get_subject]
  cases known : caller.subject with
  | none => rfl
  | some subject =>
      have legible := (normal.subject subject known).2.2
      exact (Headers.readable_iff _ subject).mpr ⟨rfl, legible⟩

theorem said_scopes : said? caller.toHeaders scopesHeader =
    if caller.scopes.isEmpty then none else some (joined caller.scopes) := by
  have legible := legible_joined caller.scopes fun scope known => (normal.scopes scope known).2.2
  rw [said?, get_scopes]
  split
  · rfl
  · exact (Headers.readable_iff _ _).mpr ⟨rfl, legible⟩

/-- A caller in normal form is read from the headers that it is written as. -/
theorem ofHeaders_toHeaders : ofHeaders caller.toHeaders = caller := by
  rw [ofHeaders_eq, said_subject caller normal, said_scopes caller normal]
  have trimmed : (caller.subject.bind fun text =>
      if (Text.trim text).isEmpty then none else some (Text.trim text)) = caller.subject := by
    cases known : caller.subject with
    | none => rfl
    | some subject =>
        obtain ⟨nonempty, trimmed, _⟩ := normal.subject subject known
        have same := (Text.trim_iff subject subject).mpr (Text.holds_trimmed _ trimmed)
        rw [Option.bind_some, same, if_neg (by simpa using nonempty)]
  have parted : ((if caller.scopes.isEmpty then none else some (joined caller.scopes)).map
      Text.words).getD [] = caller.scopes := by
    have again := words_joined caller.scopes fun scope known =>
      ⟨(normal.scopes scope known).1, (normal.scopes scope known).2.1⟩
    cases some' : caller.scopes with
    | nil => rfl
    | cons scope rest =>
        rw [some'] at again
        exact again
  rw [trimmed, parted]

theorem toHeaders_legal : caller.toHeaders.all Headers.isLegal = true := by
  have named (name text : String) (token : Http.isToken name = true)
      (legible : ∀ c ∈ text.toList, Legible c) : Headers.isLegal (name, .ofText text) = true := by
    rw [Headers.isLegal, token, Headers.legal_of_legible text legible]
    rfl
  apply List.all_eq_true.mpr
  intro header mem
  rcases List.mem_append.mp mem with first | second
  · obtain ⟨subject, known, rfl⟩ := Option.map_eq_some_iff.mp (Option.mem_toList.mp first)
    exact named subjectHeader subject (by decide) (normal.subject subject known).2.2
  · split at second
    · exact absurd second List.not_mem_nil
    · rw [List.mem_singleton.mp second]
      exact named scopesHeader _ (by decide)
        (legible_joined caller.scopes fun scope known => (normal.scopes scope known).2.2)

end Written

/-- What a caller is read as, from any headers at all: the subject is the first value under its
name without the blanks around it, if anything is left, and the scopes are the words of the first
value under theirs; a first value that is not legible all through gives neither. The caller can be
written as legal headers again and is read from these as it was. -/
theorem caller_is_normalized (headers : Headers) :
    (∀ subject, (ofHeaders headers).subject = some subject ↔
      ∃ text, Says headers subjectHeader text ∧ Holds text.toList subject.toList ∧ subject ≠ "") ∧
    (∀ scopes, (ofHeaders headers).scopes = scopes ↔
      (∃ text, Says headers scopesHeader text ∧ Parted text.toList (scopes.map String.toList)) ∨
        (∀ text, ¬ Says headers scopesHeader text) ∧ scopes = []) ∧
    (ofHeaders headers).toHeaders.all Headers.isLegal = true ∧
    ofHeaders (ofHeaders headers).toHeaders = ofHeaders headers := by
  have normal := ofHeaders_normal headers
  constructor
  · exact subject_iff headers
  constructor
  · exact scopes_iff headers
  constructor
  · exact toHeaders_legal _ normal
  · exact ofHeaders_toHeaders _ normal

/-- A value with a foreign letter has two words, but as scopes it gives none. -/
theorem scopes_beside_foreign_letter :
    let headers : Headers := [("X-Authenticated-Scopes", "é read")]
    headers.all Headers.isLegal = true ∧
      Headers.First headers scopesHeader (.ofText "é read") ∧
      Parted "é read".toList ["é".toList, "read".toList] ∧
      (ofHeaders headers).scopes ≠ ["é", "read"] := by
  intro headers
  refine ⟨by decide, ⟨[], _, [], rfl, rfl, nofun⟩, (Text.wordChars_iff _ _).mp (by decide), ?_⟩
  decide

-- Only first values count, and a tab parts scopes like a space.
example : ofHeaders [("x-authenticated-SUBJECT", "\t the writer "),
    ("X-Authenticated-Scopes", "a\t b"), ("X-Authenticated-Scopes", "c"),
    ("X-Authenticated-Subject", "é")] = ⟨some "the writer", ["a", "b"]⟩ := by decide

end Caller
end Roster
