import Roster.Event
import Roster.Http.Response
import Roster.Proofs.JsonWire
import Roster.Proofs.MomentText

/-!
Everything that travels is read back as it was written: organizations and members, whole or
in part, events of either kind with the time they were made, and error bodies.
-/

namespace Roster

open Json (Value Wire)
open Json.Wire (Lossless)

instance : Lossless Organization where
  spelled o := by
    refine Value.spelled_record _ ?_
    simp [Value.spelled_ofInt32, Value.spelled_ofString]
  read o := by
    simp only [Wire.ofValue?, Wire.toValue]
    rw [Value.shape_record _ _ (by simp)]
    simp [Organization.fieldNames, List.lookup_cons, Value.required?, Value.defaulted?,
      Value.int32_ofInt32, Value.string_ofString]
  present o := by simp [Wire.toValue, Value.record]

theorem MemberSummary.spelled_fields (summary : MemberSummary) :
    ∀ field ∈ summary.fields, field.2.Spelled := by
  simp [MemberSummary.fields, Value.spelled_ofInt32, Value.spelled_ofString]

theorem MemberSummary.ofFields_written (summary : MemberSummary) :
    MemberSummary.ofFields? (some (.ofInt32 summary.memberId))
      (some (.ofString summary.firstName)) (some (.ofString summary.lastName))
      (some (.ofString summary.group)) = some summary := by
  simp [MemberSummary.ofFields?, Value.required?, Value.int32_ofInt32, Value.string_ofString]

instance : Lossless MemberSummary where
  spelled summary := Value.spelled_record _ summary.spelled_fields
  read summary := by
    simp only [Wire.ofValue?, Wire.toValue]
    rw [Value.shape_record _ _ (by simp [MemberSummary.fields])]
    simp [MemberSummary.fieldNames, MemberSummary.fields, List.lookup_cons,
      MemberSummary.ofFields_written]
  present summary := by simp [Wire.toValue, Value.record]

instance : Lossless Member where
  spelled member := by
    refine Value.spelled_record _ ?_
    intro field mem
    rw [List.cons_append] at mem
    rcases List.mem_cons.mp mem with rfl | others
    · exact Value.spelled_ofInt32 _
    rcases List.mem_append.mp others with summary | last
    · exact member.summary.spelled_fields field summary
    · rw [List.mem_singleton.mp last]
      exact Value.spelled_ofString _
  read member := by
    simp only [Wire.ofValue?, Wire.toValue]
    rw [Value.shape_record _ _ (by simp [MemberSummary.fields])]
    simp [Member.fieldNames, MemberSummary.fieldNames, MemberSummary.fields, List.lookup_cons,
      MemberSummary.ofFields_written, Value.required?, Value.defaulted?, Value.int32_ofInt32,
      Value.string_ofString]
  present member := by simp [Wire.toValue, Value.record]

instance : Lossless ServiceAddresses where
  spelled addresses := by
    refine Value.spelled_record _ ?_
    simp [Value.spelled_ofString]
  read addresses := by
    simp only [Wire.ofValue?, Wire.toValue]
    rw [Value.shape_record _ _ (by simp)]
    simp [ServiceAddresses.fieldNames, List.lookup_cons, Value.required?, Value.string_ofString]
  present addresses := by simp [Wire.toValue, Value.record]

namespace Aggregate

theorem spelled_present {α : Type} [Wire α] [Lossless α] (name : String) (given : Option α) :
    ∀ field ∈ present name given, field.2.Spelled := by
  cases given with
  | none => simp [present]
  | some a => simp [present, Lossless.spelled]

theorem spelled_fields (aggregate : Aggregate) :
    ∀ field ∈ [("organizationId", Value.ofInt32 aggregate.organizationId),
      ("name", Value.ofString aggregate.name), ("country", Value.ofString aggregate.country)],
      field.2.Spelled := by
  simp [Value.spelled_ofInt32, Value.spelled_ofString]

theorem optional_lookup {α : Type} [Wire α] [Lossless α] (given : Option α) :
    Value.optional? Wire.ofValue? (given.map Wire.toValue) = some given := by
  cases given with
  | none => rfl
  | some a => exact Wire.optional_present a

theorem lookup_fields (aggregate : Aggregate) (own : List (String × Value))
    (known : own = [("organizationId", Value.ofInt32 aggregate.organizationId),
      ("name", Value.ofString aggregate.name), ("country", Value.ofString aggregate.country)]) :
    (fieldNames.map fun name =>
      (own ++ present "members" aggregate.members ++
        present "serviceAddresses" aggregate.serviceAddresses).lookup name) =
      [some (Value.ofInt32 aggregate.organizationId), some (Value.ofString aggregate.name),
        some (Value.ofString aggregate.country), aggregate.members.map Wire.toValue,
        aggregate.serviceAddresses.map Wire.toValue] := by
  subst known
  cases aggregate.members <;> cases aggregate.serviceAddresses <;>
    simp [fieldNames, present, List.lookup_cons]

end Aggregate

instance : Lossless Aggregate where
  spelled aggregate := by
    refine Value.spelled_record _ ?_
    intro field mem
    rcases List.mem_append.mp mem with front | addresses
    · rcases List.mem_append.mp front with own | members
      · exact aggregate.spelled_fields field own
      · exact Aggregate.spelled_present _ _ field members
    · exact Aggregate.spelled_present _ _ field addresses
  read aggregate := by
    have distinct : (([("organizationId", Value.ofInt32 aggregate.organizationId),
        ("name", Value.ofString aggregate.name), ("country", Value.ofString aggregate.country)] ++
        Aggregate.present "members" aggregate.members ++
        Aggregate.present "serviceAddresses" aggregate.serviceAddresses).map Prod.fst).Nodup := by
      cases aggregate.members <;> cases aggregate.serviceAddresses <;> simp [Aggregate.present]
    change Option.bind (Value.shape? Aggregate.fieldNames (Value.record _)) _ = some aggregate
    rw [Value.shape_record _ _ distinct, Aggregate.lookup_fields aggregate _ rfl]
    simp [Value.required?, Value.int32_ofInt32, Value.string_ofString, Aggregate.optional_lookup]
  present aggregate := by simp [Wire.toValue, Value.record]

instance : Lossless EventKind where
  spelled kind := Value.spelled_ofString kind.name
  read kind := by
    have named : (Value.ofString kind.name).name? = some kind.name := Json.Literal.read_body _
    simp only [Wire.ofValue?, Wire.toValue, named, Option.bind_some]
    cases kind <;> rfl
  present kind := by simp [Wire.toValue, Value.ofString]

namespace Event

variable {α : Type} [Wire α] [Lossless α]

theorem moment_ofMoment (moment : Calendar.Moment) :
    momentValue? (ofMoment moment) = some moment := by
  simp [momentValue?, ofMoment, Value.string_ofString, Calendar.Moment.read_text]

theorem spelled_payload (payload : Option α) :
    (payload.elim .null Wire.toValue : Value).Spelled := by
  cases payload with
  | none => exact Value.spelled_null
  | some a => exact Lossless.spelled a

theorem optional_payload (payload : Option α) :
    Value.optional? Wire.ofValue? (some (payload.elim .null Wire.toValue)) = some payload := by
  cases payload with
  | none => rfl
  | some a => exact Wire.optional_present a

end Event

instance {α : Type} [Wire α] [Lossless α] : Lossless (Event α) where
  spelled event := by
    refine Value.spelled_record _ ?_
    have kind := Lossless.spelled event.kind
    have time : (Event.ofMoment event.createdAt).Spelled := Value.spelled_ofString _
    simp [kind, Value.spelled_ofInt32, Event.spelled_payload, time]
  read event := by
    have kind : Wire.ofValue? (Wire.toValue event.kind) = some event.kind := Lossless.read _
    change Option.bind (Value.shape? Event.fieldNames (Value.record _)) _ = some event
    rw [Value.shape_record _ _ (by simp)]
    simp [Event.fieldNames, List.lookup_cons, Value.required?, kind, Value.int32_ofInt32,
      Event.optional_payload, Event.moment_ofMoment]
  present event := by simp [Wire.toValue, Value.record]

instance : Lossless Http.Problem where
  spelled problem := by
    refine Value.spelled_record _ ?_
    simp [Value.spelled_ofString]
  read problem := by
    simp only [Wire.ofValue?, Wire.toValue, Http.Problem.toValueAt]
    rw [Value.shape_record _ _ (by simp)]
    simp [Http.Problem.fieldNames, List.lookup_cons, Value.required?, Value.string_ofString,
      Calendar.Moment.read_text]
  present problem := by simp [Wire.toValue, Http.Problem.toValueAt, Value.record]

theorem Event.receive_encode {α : Type} [Wire α] [Lossless α] (event : Event α) :
    receive (Wire.encode event) = .ok event := by
  rw [receive, Wire.decode_encode]

/-- Decoding undoes encoding on all that travels, the time of an event included: an event of
either kind, with or without a payload, comes out of its own text as the very same event. -/
theorem decoding_undoes_encoding :
    (∀ organization : Organization,
      Wire.decode? (Wire.encode organization) = some organization) ∧
    (∀ member : Member, Wire.decode? (Wire.encode member) = some member) ∧
    (∀ summary : MemberSummary, Wire.decode? (Wire.encode summary) = some summary) ∧
    (∀ addresses : ServiceAddresses, Wire.decode? (Wire.encode addresses) = some addresses) ∧
    (∀ aggregate : Aggregate, Wire.decode? (Wire.encode aggregate) = some aggregate) ∧
    (∀ problem : Http.Problem, Wire.decode? (Wire.encode problem) = some problem) ∧
    (∀ event : Event Organization, Event.receive (Wire.encode event) = .ok event) ∧
    (∀ event : Event Member, Event.receive (Wire.encode event) = .ok event) :=
  ⟨Wire.decode_encode, Wire.decode_encode, Wire.decode_encode, Wire.decode_encode,
    Wire.decode_encode, Wire.decode_encode, Event.receive_encode, Event.receive_encode⟩

end Roster
