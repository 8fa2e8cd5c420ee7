import Roster.Json.Wire

/-!
Records: organizations, members, and both together. The origin address names the process that
served a record; it is part of what travels and of nothing that is stored.
-/

namespace Roster

open Json

abbrev Id := Int32

structure Organization where
  id : Id
  name : String
  country : String
  originAddress : String := ""
deriving DecidableEq, Repr

namespace Organization

def servedBy (organization : Organization) (address : String) : Organization :=
  { organization with originAddress := address }

def fieldNames : List String := ["organizationId", "name", "country", "originAddress"]

instance : Wire Organization where
  toValue o := .record [("organizationId", .ofInt32 o.id), ("name", .ofString o.name),
    ("country", .ofString o.country), ("originAddress", .ofString o.originAddress)]
  ofValue? value := do
    match ← value.shape? fieldNames with
    | [id, name, country, originAddress] =>
      return {
        id := ← Value.required? Value.int32? id
        name := ← Value.required? Value.string? name
        country := ← Value.required? Value.string? country
        originAddress := ← Value.defaulted? Value.string? "" originAddress }
    | _ => none

end Organization

/-!
Members of organizations. A summary is what is known of a member inside one
organization; a member that travels alone adds the key of the organization and
the address of the process that served it.
-/

open Json

structure MemberSummary where
  memberId : Id
  firstName : String
  lastName : String
  group : String
deriving DecidableEq, Repr

namespace MemberSummary

def fields (m : MemberSummary) : List (String × Value) :=
  [("memberId", .ofInt32 m.memberId), ("firstName", .ofString m.firstName),
    ("lastName", .ofString m.lastName), ("section", .ofString m.group)]

def fieldNames : List String := ["memberId", "firstName", "lastName", "section"]

def ofFields? (memberId firstName lastName group : Option Value) : Option MemberSummary := do
  return {
    memberId := ← Value.required? Value.int32? memberId
    firstName := ← Value.required? Value.string? firstName
    lastName := ← Value.required? Value.string? lastName
    group := ← Value.required? Value.string? group }

instance : Wire MemberSummary where
  toValue m := .record m.fields
  ofValue? value := do
    match ← value.shape? fieldNames with
    | [memberId, firstName, lastName, group] => ofFields? memberId firstName lastName group
    | _ => none

end MemberSummary

structure Member where
  organizationId : Id
  summary : MemberSummary
  originAddress : String := ""
deriving DecidableEq, Repr

namespace Member

def servedBy (member : Member) (address : String) : Member :=
  { member with originAddress := address }

def fieldNames : List String :=
  "organizationId" :: MemberSummary.fieldNames ++ ["originAddress"]

instance : Wire Member where
  toValue m := .record (("organizationId", .ofInt32 m.organizationId) :: m.summary.fields ++
    [("originAddress", .ofString m.originAddress)])
  ofValue? value := do
    match ← value.shape? fieldNames with
    | [organizationId, memberId, firstName, lastName, group, originAddress] =>
      return {
        organizationId := ← Value.required? Value.int32? organizationId
        summary := ← MemberSummary.ofFields? memberId firstName lastName group
        originAddress := ← Value.defaulted? Value.string? "" originAddress }
    | _ => none

end Member

/-!
An organization together with its members: the body of a composite write, where
the members may be left out, and the answer of a composite read, which also says
which process served each part.
-/

open Json

structure ServiceAddresses where
  composite : String
  organization : String
  member : String
deriving DecidableEq, Repr

namespace ServiceAddresses

def fieldNames : List String := ["composite", "organization", "member"]

instance : Wire ServiceAddresses where
  toValue a := .record [("composite", .ofString a.composite),
    ("organization", .ofString a.organization), ("member", .ofString a.member)]
  ofValue? value := do
    match ← value.shape? fieldNames with
    | [composite, organization, member] =>
      return {
        composite := ← Value.required? Value.string? composite
        organization := ← Value.required? Value.string? organization
        member := ← Value.required? Value.string? member }
    | _ => none

end ServiceAddresses

structure Aggregate where
  organizationId : Id
  name : String
  country : String
  members : Option (List MemberSummary) := none
  serviceAddresses : Option ServiceAddresses := none
deriving DecidableEq, Repr

namespace Aggregate

def organization (aggregate : Aggregate) : Organization where
  id := aggregate.organizationId
  name := aggregate.name
  country := aggregate.country

/-- The listed members; a missing list is an empty one. -/
def memberList (aggregate : Aggregate) : List MemberSummary := aggregate.members.getD []

def fieldNames : List String :=
  ["organizationId", "name", "country", "members", "serviceAddresses"]

def present {α : Type} [Wire α] (name : String) : Option α → List (String × Value)
  | none => []
  | some a => [(name, Wire.toValue a)]

instance : Wire Aggregate where
  toValue a := .record ([("organizationId", .ofInt32 a.organizationId), ("name", .ofString a.name),
    ("country", .ofString a.country)] ++ present "members" a.members ++
    present "serviceAddresses" a.serviceAddresses)
  ofValue? value := do
    match ← value.shape? fieldNames with
    | [organizationId, name, country, members, serviceAddresses] =>
      return {
        organizationId := ← Value.required? Value.int32? organizationId
        name := ← Value.required? Value.string? name
        country := ← Value.required? Value.string? country
        members := ← Value.optional? Wire.ofValue? members
        serviceAddresses := ← Value.optional? Wire.ofValue? serviceAddresses }
    | _ => none

end Aggregate
end Roster
