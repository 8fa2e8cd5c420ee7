import Mathlib.Logic.Function.Basic
import Mathlib.Logic.Relation
import Roster.Proofs.WireRecords

/-!
Foreign spellings of a record. An object may be written in any order of its fields, with fields
between them that nobody knows, with any white space and without the fields that say no more
than their absence: all that is read alike. What is refused is a second field of a known name,
wherever the two stand.
-/

namespace Roster.Json

open Text (Bytes)

abbrev Fields := List (Bytes × Value)

namespace Value

/-! ### What an object gives for a name -/

def under (fields : Fields) (name : String) : List Value :=
  (fields.filter fun field => Literal.read? field.1 = some name).map Prod.snd

def Named (fields : Fields) : Prop := ∀ field ∈ fields, ∃ name, Literal.read? field.1 = some name

/-- What holds of all fields, seen from one of them. -/
theorem forall_mem_between (P : Bytes × Value → Prop) (front back : Fields)
    (field : Bytes × Value) :
    (∀ other ∈ front ++ field :: back, P other) ↔ P field ∧ ∀ other ∈ front ++ back, P other := by
  rw [List.forall_mem_append, List.forall_mem_cons, List.forall_mem_append, and_left_comm]

theorem under_append (front back : Fields) (name : String) :
    under (front ++ back) name = under front name ++ under back name := by
  simp [under]

theorem under_cons_own (field : Bytes × Value) (fields : Fields) (name : String)
    (named : Literal.read? field.1 = some name) :
    under (field :: fields) name = field.2 :: under fields name := by
  simp [under, named]

theorem under_cons_other (field : Bytes × Value) (fields : Fields) (name other : String)
    (named : Literal.read? field.1 = some name) (apart : other ≠ name) :
    under (field :: fields) other = under fields other := by
  simp [under, named, apart.symm]

theorem under_between (front back : Fields) (field : Bytes × Value) (name other : String)
    (named : Literal.read? field.1 = some name) (apart : other ≠ name) :
    under (front ++ field :: back) other = under (front ++ back) other := by
  rw [under_append, under_append, under_cons_other field back name other named apart]

theorem named_read (fields : Fields) (named : Named fields) :
    ∃ read, fields.mapM (fun (name, value) => (Literal.read? name).map (·, value)) = some read := by
  induction fields with
  | nil => exact ⟨[], rfl⟩
  | cons field rest ih =>
      obtain ⟨name, own⟩ := named field List.mem_cons_self
      obtain ⟨others, read⟩ := ih fun other among => named other (List.mem_cons_of_mem _ among)
      exact ⟨(name, field.2) :: others, by simp [List.mapM_cons, read, own]⟩

theorem read_named (fields : Fields) (read : List (String × Value))
    (found : fields.mapM (fun (name, value) => (Literal.read? name).map (·, value)) = some read) :
    Named fields ∧ ∀ name, read.countP (·.1 == name) = (under fields name).length ∧
      read.lookup name = (under fields name).head? := by
  induction fields generalizing read with
  | nil =>
      cases found
      exact ⟨by simp [Named], fun name => ⟨rfl, rfl⟩⟩
  | cons field rest ih =>
      simp only [List.mapM_cons, Option.bind_eq_bind, Option.bind_eq_some_iff,
        Option.map_eq_some_iff] at found
      obtain ⟨_, ⟨name, own, rfl⟩, others, later, same⟩ := found
      cases same
      obtain ⟨named, given⟩ := ih others later
      refine ⟨List.forall_mem_cons.mpr ⟨⟨name, own⟩, named⟩, fun other => ?_⟩
      by_cases same : other = name
      · subst same
        simp [under_cons_own field rest other own, given other]
      · have differs : (other == name) = false := beq_false_of_ne same
        simp [under_cons_other field rest name other own same, given other, List.lookup_cons,
          differs, Ne.symm same]

/-- An object gives each name its value if no known name stands in it twice. -/
theorem shape_iff (fields : Fields) (names : List String) (given : List (Option Value)) :
    (Value.object fields).shape? names = some given ↔
      Named fields ∧ (∀ name ∈ names, (under fields name).length ≤ 1) ∧
        given = names.map fun name => (under fields name).head? := by
  constructor
  · intro shaped
    simp only [shape?, Option.bind_eq_bind, Option.bind_eq_some_iff] at shaped
    obtain ⟨read, found, shaped⟩ := shaped
    obtain ⟨named, given⟩ := read_named fields read found
    split at shaped
    · next once =>
      cases shaped
      refine ⟨named, fun name known => ?_, List.map_congr_left fun name _ => (given name).2⟩
      have atMost := of_decide_eq_true (List.all_eq_true.mp once name known)
      rwa [(given name).1] at atMost
    · cases shaped
  · rintro ⟨named, once, rfl⟩
    obtain ⟨read, found⟩ := named_read fields named
    have given := (read_named fields read found).2
    have all : (names.all fun name => decide (read.countP (·.1 == name) ≤ 1)) = true := by
      refine List.all_eq_true.mpr fun name known => decide_eq_true ?_
      rw [(given name).1]
      exact once name known
    simp only [shape?, found, Option.bind_eq_bind, Option.bind_some, all, if_true]
    exact congrArg some (List.map_congr_left fun name _ => (given name).2)

end Value

/-! ### Other spellings -/

/-- A field as it may stand in an object, under a name: both its parts are well formed, and what
stands for the name is a text, while the value may be anything. -/
structure IsField (field : Bytes × Value) (name : String) : Prop where
  named : Literal.read? field.1 = some name
  spelledName : ∃ text, Value.parse? text = some (.text field.1)
  spelledValue : ∃ text, Value.parse? text = some field.2

section Spellings

/- The names that a reader knows, and what it takes under them for nothing at all. -/
variable (known : List String) (spare : String → Value → Prop)

/-- One change to the fields of an object that says nothing new. -/
inductive Rework : Fields → Fields → Prop where
  | move {fields fields' : Fields} (order : fields.Perm fields') : Rework fields fields'
  | add (front back : Fields) (field : Bytes × Value) (name : String)
      (isField : IsField field name) (unknown : name ∉ known) :
      Rework (front ++ back) (front ++ field :: back)
  | drop (front back : Fields) (field : Bytes × Value) (name : String)
      (named : Literal.read? field.1 = some name) (own : name ∈ known)
      (spared : spare name field.2) : Rework (front ++ field :: back) (front ++ back)

def Respelled (text text' : Bytes) : Prop :=
  ∃ fields fields', Value.parse? text = some (.object fields) ∧
    Relation.ReflTransGen (Rework known spare) fields fields' ∧
    Token.Spaced (Value.object fields').tokens text'

/-- A text for the same object with one field more, of a known name that it has already. -/
def Repeated (text text' : Bytes) : Prop :=
  ∃ front back field name, Value.parse? text = some (.object (front ++ back)) ∧
    IsField field name ∧ name ∈ known ∧
    (∃ other ∈ front ++ back, Literal.read? other.1 = some name) ∧
    Token.Spaced (Value.object (front ++ field :: back)).tokens text'

/-- A reader of objects that minds no foreign spelling, but a known field that comes twice. -/
structure Tolerant {α : Type} (read? : Bytes → Option α) : Prop where
  respelled : ∀ (text text' : Bytes) (a : α), read? text = some a →
    Respelled known spare text text' → read? text' = some a
  repeated : ∀ (text text' : Bytes) (a : α), read? text = some a →
    Repeated known text text' → read? text' = none

end Spellings

theorem IsField.legible {field : Bytes × Value} {name : String} (isField : IsField field name) :
    Literal.Closed field.1 ∧ field.2.Legible := by
  obtain ⟨nameText, nameParsed⟩ := isField.spelledName
  obtain ⟨valueText, valueParsed⟩ := isField.spelledValue
  have closed := ((Value.parse_iff _ _).mp nameParsed).1
  exact ⟨closed (.text field.1) (by simp [Value.tokens]), ((Value.parse_iff _ _).mp valueParsed).1⟩

namespace Value

variable (known : List String)

theorem shape_moved (fields fields' : Fields) (order : fields.Perm fields')
    (given : List (Option Value)) (shaped : (Value.object fields).shape? known = some given) :
    (Value.object fields').shape? known = some given := by
  rw [shape_iff] at shaped ⊢
  obtain ⟨named, once, rfl⟩ := shaped
  have moved (name : String) : (under fields name).Perm (under fields' name) :=
    (order.filter _).map _
  refine ⟨fun field among => named field (order.mem_iff.mpr among), ?_, ?_⟩
  · intro name own
    rw [← (moved name).length_eq]
    exact once name own
  · refine List.map_congr_left fun name own => ?_
    have atMost := once name own
    have order := moved name
    -- One value at most cannot be moved.
    generalize under fields name = values at atMost order
    match values, atMost with
    | [], _ => rw [order.nil_eq]
    | [value], _ => rw [order.singleton_eq]

theorem shape_added (front back : Fields) (field : Bytes × Value) (name : String)
    (named : Literal.read? field.1 = some name) (unknown : name ∉ known)
    (given : List (Option Value))
    (shaped : (Value.object (front ++ back)).shape? known = some given) :
    (Value.object (front ++ field :: back)).shape? known = some given := by
  rw [shape_iff] at shaped ⊢
  obtain ⟨others, once, rfl⟩ := shaped
  have same (other : String) (own : other ∈ known) :
      under (front ++ field :: back) other = under (front ++ back) other := by
    refine under_between front back field name other named ?_
    rintro rfl
    exact unknown own
  refine ⟨?_, fun other own => ?_, List.map_congr_left fun other own => ?_⟩
  · exact (forall_mem_between _ front back field).mpr ⟨⟨name, named⟩, others⟩
  · rw [same other own]
    exact once other own
  · rw [same other own]

theorem shape_dropped (front back : Fields) (field : Bytes × Value) (name : String)
    (named : Literal.read? field.1 = some name) (own : name ∈ known)
    (given : List (Option Value))
    (shaped : (Value.object (front ++ field :: back)).shape? known = some given) :
    ∃ view : String → Option Value, given = known.map view ∧ view name = some field.2 ∧
      (Value.object (front ++ back)).shape? known =
        some (known.map (Function.update view name none)) := by
  obtain ⟨others, once, rfl⟩ := (shape_iff _ _ _).mp shaped
  have full : under (front ++ field :: back) name =
      under front name ++ field.2 :: under back name := by
    rw [under_append, under_cons_own field back name named]
  -- The field is the only one of its name, so nothing is left under it.
  have alone := once name own
  simp only [full, List.length_append, List.length_cons] at alone
  have noneBefore : under front name = [] := List.eq_nil_of_length_eq_zero (by omega)
  have noneBehind : under back name = [] := List.eq_nil_of_length_eq_zero (by omega)
  refine ⟨fun name => (under (front ++ field :: back) name).head?, rfl, ?_, ?_⟩
  · simp [full, noneBefore]
  rw [shape_iff]
  have gone : under (front ++ back) name = [] := by
    rw [under_append, noneBefore, noneBehind, List.append_nil]
  refine ⟨?_, fun other known => ?_, List.map_congr_left fun other known => ?_⟩
  · exact ((forall_mem_between _ front back field).mp others).2
  · by_cases apart : other = name
    · rw [apart, gone]
      exact Nat.zero_le _
    · rw [← under_between front back field name other named apart]
      exact once other known
  · by_cases apart : other = name
    · rw [apart, gone, Function.update_self, List.head?_nil]
    · rw [Function.update_of_ne apart, under_between front back field name other named apart]

/-- Two fields of a known name have no shape, wherever they stand. -/
theorem shape_repeated (front back : Fields) (field other : Bytes × Value) (name : String)
    (named : Literal.read? field.1 = some name) (own : name ∈ known)
    (among : other ∈ front ++ back) (twice : Literal.read? other.1 = some name) :
    (Value.object (front ++ field :: back)).shape? known = none := by
  refine Option.eq_none_iff_forall_ne_some.mpr fun given shaped => ?_
  obtain ⟨-, once, -⟩ := (shape_iff _ _ _).mp shaped
  have alone := once name own
  have there : other.2 ∈ under front name ++ under back name := by
    rw [← under_append]
    exact List.mem_map_of_mem (List.mem_filter.mpr ⟨among, decide_eq_true twice⟩)
  have some' := List.length_pos_of_mem there
  rw [under_append, under_cons_own field back name named] at alone
  simp only [List.length_append, List.length_cons] at alone some'
  omega

end Value

/-! ### Types of records -/

/-- A type that is read from what an object gives for its names; some of it may be left out. -/
class Wire.Record (α : Type) [Wire α] where
  names : List String
  /-- What says no more under a name than its absence. -/
  spare : String → Value → Prop
  build : List (Option Value) → Option α
  read_eq (value : Value) : Wire.ofValue? value = (value.shape? names).bind build
  spared (view : String → Option Value) (name : String) (value : Value)
    (left : spare name value) (given : view name = some value) :
    build (names.map (Function.update view name none)) = build (names.map view)

namespace Wire.Record

variable {α : Type} [Wire α] [Record α]

structure Makes (a : α) (fields : Fields) : Prop where
  legible : (Value.object fields).Legible
  read : Wire.ofValue? (Value.object fields) = some a

theorem makes_rework (a : α) (fields fields' : Fields)
    (rework : Rework (names α) (spare α) fields fields') (makes : Makes a fields) :
    Makes a fields' := by
  obtain ⟨legible, read⟩ := makes
  rw [Value.legible_object] at legible
  rw [read_eq, Option.bind_eq_some_iff] at read
  obtain ⟨given, shaped, built⟩ := read
  cases rework with
  | move order =>
      refine ⟨(Value.legible_object _).mpr fun field among => ?_, ?_⟩
      · exact legible field (order.mem_iff.mpr among)
      · rw [read_eq, Value.shape_moved _ _ _ order given shaped]
        exact built
  | add front back field name isField unknown =>
      refine ⟨(Value.legible_object _).mpr ?_, ?_⟩
      · exact (Value.forall_mem_between _ front back field).mpr ⟨isField.legible, legible⟩
      · rw [read_eq, Value.shape_added _ front back field name isField.named unknown given shaped]
        exact built
  | drop front back field name named own left =>
      refine ⟨(Value.legible_object _).mpr ?_, ?_⟩
      · exact ((Value.forall_mem_between _ front back field).mp legible).2
      · obtain ⟨view, rfl, there, dropped⟩ :=
          Value.shape_dropped _ front back field name named own given shaped
        rw [read_eq, dropped, Option.bind_some, spared view name field.2 left there]
        exact built

theorem makes_reworks (a : α) (fields fields' : Fields)
    (reworks : Relation.ReflTransGen (Rework (names α) (spare α)) fields fields')
    (makes : Makes a fields) : Makes a fields' := by
  induction reworks with
  | refl => exact makes
  | tail _ rework ih => exact makes_rework a _ _ rework ih

variable (α) in
theorem tolerant : Tolerant (names α) (spare α) (Wire.decode? : Bytes → Option α) where
  respelled text text' a decoded := by
    rintro ⟨fields, fields', parsed, reworks, spaced⟩
    have legible := ((Value.parse_iff _ _).mp parsed).1
    rw [Wire.decode?, parsed] at decoded
    have makes := makes_reworks a fields fields' reworks ⟨legible, decoded⟩
    rw [Wire.decode?, (Value.parse_iff _ _).mpr ⟨makes.legible, spaced⟩]
    exact makes.read
  repeated text text' a _ := by
    rintro ⟨front, back, field, name, parsed, isField, own, ⟨other, among, twice⟩, spaced⟩
    have legible := ((Value.parse_iff _ _).mp parsed).1
    have shapeless := Value.shape_repeated (names α) front back field other name isField.named
      own among twice
    have grown : (Value.object (front ++ field :: back)).Legible := by
      rw [Value.legible_object, Value.forall_mem_between]
      exact ⟨isField.legible, (Value.legible_object _).mp legible⟩
    rw [Wire.decode?, (Value.parse_iff _ _).mpr ⟨grown, spaced⟩]
    change Wire.ofValue? (Value.object _) = none
    rw [read_eq, shapeless, Option.bind_none]

end Wire.Record
end Roster.Json

/-!
The records that travel are read alike in foreign spellings: organizations and members, whole
or in part, error bodies, and events of either kind. An address that is empty, members,
addresses or a payload that are null may as well be left out.
-/

namespace Roster

open Json (Fields IsField Literal.body Rework Tolerant Value Wire)
open Json.Wire (Record)
open Text (Bytes)

def EmptyAddress (name : String) (value : Value) : Prop :=
  name = "originAddress" ∧ value.string? = some ""

def NullUnder (names : List String) (name : String) (value : Value) : Prop :=
  name ∈ names ∧ value = .null

instance : Record Organization where
  names := Organization.fieldNames
  spare := EmptyAddress
  build := _
  read_eq _ := rfl
  spared view name value left given := by
    obtain ⟨rfl, empty⟩ := left
    simp [Organization.fieldNames, Function.update, given, Value.defaulted?, empty]

instance : Record Member where
  names := Member.fieldNames
  spare := EmptyAddress
  build := _
  read_eq _ := rfl
  spared view name value left given := by
    obtain ⟨rfl, empty⟩ := left
    simp [Member.fieldNames, MemberSummary.fieldNames, Function.update, given, Value.defaulted?,
      empty]

instance : Record MemberSummary where
  names := MemberSummary.fieldNames
  spare _ _ := False
  build := _
  read_eq _ := rfl
  spared _ _ _ left := left.elim

instance : Record ServiceAddresses where
  names := ServiceAddresses.fieldNames
  spare _ _ := False
  build := _
  read_eq _ := rfl
  spared _ _ _ left := left.elim

instance : Record Aggregate where
  names := Aggregate.fieldNames
  spare := NullUnder ["members", "serviceAddresses"]
  build := _
  read_eq _ := rfl
  spared view name value left given := by
    obtain ⟨optional, rfl⟩ := left
    obtain rfl | rfl : name = "members" ∨ name = "serviceAddresses" := by simpa using optional
    · simp [Aggregate.fieldNames, Function.update, given, Value.optional?]
    · simp [Aggregate.fieldNames, Function.update, given, Value.optional?]

instance : Record Http.Problem where
  names := Http.Problem.fieldNames
  spare _ _ := False
  build := _
  read_eq _ := rfl
  spared _ _ _ left := left.elim

instance {α : Type} [Wire α] : Record (Event α) where
  names := Event.fieldNames
  spare := NullUnder ["payload"]
  build := _
  read_eq _ := rfl
  spared view name value left given := by
    obtain ⟨optional, rfl⟩ := left
    obtain rfl := List.mem_singleton.mp optional
    simp [Event.fieldNames, Function.update, given, Value.optional?]

theorem Event.receive_toOption {α : Type} [Wire α] (text : Bytes) :
    (receive text : Except Fault (Event α)).toOption = Wire.decode? text := by
  rw [receive]
  cases (Wire.decode? text : Option (Event α)) <;> rfl

/-- A text that is accepted for a record or an event is accepted in every foreign spelling, and
comes to the same: in any order of its fields, with unknown fields anywhere, with any white
space, without an address that is empty or an optional field that is null. With a known field
more than once it is refused. -/
theorem foreign_spellings_read_alike :
    Tolerant Organization.fieldNames EmptyAddress (Wire.decode? : Bytes → Option Organization) ∧
    Tolerant Member.fieldNames EmptyAddress (Wire.decode? : Bytes → Option Member) ∧
    Tolerant MemberSummary.fieldNames (fun _ _ => False)
      (Wire.decode? : Bytes → Option MemberSummary) ∧
    Tolerant ServiceAddresses.fieldNames (fun _ _ => False)
      (Wire.decode? : Bytes → Option ServiceAddresses) ∧
    Tolerant Aggregate.fieldNames (NullUnder ["members", "serviceAddresses"])
      (Wire.decode? : Bytes → Option Aggregate) ∧
    Tolerant Http.Problem.fieldNames (fun _ _ => False)
      (Wire.decode? : Bytes → Option Http.Problem) ∧
    ∀ (α : Type) [Wire α], Tolerant Event.fieldNames (NullUnder ["payload"])
      fun text => (Event.receive text : Except Fault (Event α)).toOption := by
  refine ⟨Record.tolerant Organization, Record.tolerant Member, Record.tolerant MemberSummary,
    Record.tolerant ServiceAddresses, Record.tolerant Aggregate, Record.tolerant Http.Problem, ?_⟩
  intro α _
  simp only [Event.receive_toOption]
  exact Record.tolerant (Event α)

def ownFields : Fields :=
  [(Literal.body "organizationId", .ofInt32 1), (Literal.body "name", .ofString "n"),
    (Literal.body "country", .ofString "c"), (Literal.body "originAddress", .ofString "")]

/-- The same as another process may spell it: without the address, with a note that nobody
asked for, the name in front. -/
def foreignFields : Fields :=
  [(Literal.body "name", .ofString "n"), (Literal.body "organizationId", .ofInt32 1),
    (Literal.body "note", .list [.null]), (Literal.body "country", .ofString "c")]

theorem foreign_rework :
    Relation.ReflTransGen (Rework Organization.fieldNames EmptyAddress) ownFields
      foreignFields := by
  have note : IsField (Literal.body "note", .list [.null]) "note" :=
    ⟨Json.Literal.read_body _, ⟨_, Value.parse_write (.ofString "note") (Value.spelled_ofString _)⟩,
      ⟨_, Value.parse_write (.list [.null])
        (Value.spelled_list _ (by simp [Value.spelled_null]))⟩⟩
  have dropped : Rework Organization.fieldNames EmptyAddress ownFields (ownFields.take 3) :=
    .drop (ownFields.take 3) [] (Literal.body "originAddress", .ofString "") "originAddress"
      (Json.Literal.read_body _) (by simp [Organization.fieldNames])
      ⟨rfl, Value.string_ofString ""⟩
  have added : Rework Organization.fieldNames EmptyAddress (ownFields.take 3)
      (ownFields.take 2 ++ [(Literal.body "note", .list [.null]),
        (Literal.body "country", .ofString "c")]) :=
    .add (ownFields.take 2) [(Literal.body "country", .ofString "c")] _ "note" note
      (by simp [Organization.fieldNames])
  have moved : Rework Organization.fieldNames EmptyAddress _ foreignFields :=
    .move (.swap _ _ _)
  exact ((Relation.ReflTransGen.single dropped).tail added).tail moved

theorem foreign_organization :
    (Wire.decode? (0x20 :: (Value.object foreignFields).write) : Option Organization) =
        some ⟨1, "n", "c", ""⟩ ∧
      (Wire.decode? (Value.object ((Literal.body "name", .ofString "m") :: ownFields)).write :
        Option Organization) = none := by
  have own : Value.parse? (Wire.encode (⟨1, "n", "c", ""⟩ : Organization)) =
      some (.object ownFields) :=
    Value.parse_write _ (Json.Wire.Lossless.spelled _)
  have name : IsField (Literal.body "name", .ofString "m") "name" :=
    ⟨Json.Literal.read_body _, ⟨_, Value.parse_write (.ofString "name") (Value.spelled_ofString _)⟩,
      ⟨_, Value.parse_write (.ofString "m") (Value.spelled_ofString _)⟩⟩
  have tolerant := foreign_spellings_read_alike.1
  have spaced : Json.Token.Spaced (Value.object foreignFields).tokens
      (0x20 :: (Value.object foreignFields).write) := by
    rw [Value.write, Value.tokens]
    exact .cons [0x20] .braceOpen (by simp [Json.isSpace]) (Json.Token.spaced_write _)
  have read := Json.Wire.decode_encode (⟨1, "n", "c", ""⟩ : Organization)
  constructor
  · exact tolerant.respelled _ _ _ read ⟨ownFields, foreignFields, own, foreign_rework, spaced⟩
  · refine tolerant.repeated _ _ _ read ⟨[], ownFields, _, "name", own, name, ?_, ?_, ?_⟩
    · simp [Organization.fieldNames]
    · exact ⟨(Literal.body "name", .ofString "n"), by simp [ownFields], Json.Literal.read_body _⟩
    · exact Json.Token.spaced_write _

end Roster
