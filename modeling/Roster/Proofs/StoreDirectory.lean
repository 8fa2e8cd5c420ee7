import Roster.Composite
import Roster.Proofs.StoreRecords

/-!
Both stores as one directory. A composite service that hands its changes straight to two
stores keeps them in step: what they hold together is a directory of organizations, each
with its members, and every write changes it as a whole or leaves the stores alone. Only a
key that repeats in a list of members cuts a write short, and then the members before it
have been written.
-/

namespace Roster

open Calendar (Moment)
open Channel (Failure)
open Composite (sendAll)

def Change.apply {σ α : Type} [Store σ α] (change : Change α) (store : σ) : Except Fault σ :=
  match change with
  | .create _ payload => Store.create payload store
  | .delete key => Store.delete key store

theorem Change.event_apply {σ α : Type} [Store σ α] (change : Change α) (now : Moment)
    (store : σ) : (change.event now).apply store = change.apply store := by
  cases change <;> rfl

structure Directory.Entry where
  name : String
  country : String
  members : List MemberSummary
deriving DecidableEq, Repr

abbrev Directory := Id → Option Directory.Entry

namespace Directory

def put (directory : Directory) (id : Id) (entry : Entry) : Directory :=
  fun other => if other = id then some entry else directory other

def drop (directory : Directory) (id : Id) : Directory :=
  fun other => if other = id then none else directory other

end Directory

inductive Composite.Write where
  | create (aggregate : Aggregate)
  | delete (id : Id)
deriving DecidableEq, Repr

namespace Composite

variable {σ : Type} (composite : Composite σ)

def perform (write : Write) (state : σ) : σ × Except Fault Unit :=
  match write with
  | .create aggregate => composite.create aggregate state
  | .delete id => composite.delete id state

def performAll (writes : List Write) (state : σ) : σ :=
  writes.foldl (fun state write => (composite.perform write state).1) state

theorem sendAll_sent (emit : Emission → σ → σ × Except Failure Unit) (emission : Emission)
    (rest : List Emission) (state after : σ) (sent : emit emission state = (after, .ok ())) :
    sendAll emit (emission :: rest) state = sendAll emit rest after := by
  simp [sendAll, sent]

theorem sendAll_failed (emit : Emission → σ → σ × Except Failure Unit) (emission : Emission)
    (rest : List Emission) (state after : σ) (failure : Failure)
    (failed : emit emission state = (after, .error failure)) :
    sendAll emit (emission :: rest) state = (after, .error failure.toFault) := by
  simp [sendAll, failed]

end Composite

/-- The members of a list that get to be written, and the answer: all of them, or those
before the first whose key one of them has, which the answer names. -/
inductive Enrolled (id : Id) : List MemberSummary → List MemberSummary → Except Fault Unit → Prop
  where
  | all (listed : List MemberSummary) (distinct : (listed.map MemberSummary.memberId).Nodup) :
      Enrolled id listed listed (.ok ())
  | upTo (kept : List MemberSummary) (again : MemberSummary) (rest : List MemberSummary)
      (distinct : (kept.map MemberSummary.memberId).Nodup)
      (known : again.memberId ∈ kept.map MemberSummary.memberId) :
      Enrolled id (kept ++ again :: rest) kept
        (.error (.invalidPayload
          s!"Member with organizationId: {id} and memberId: {again.memberId} already exists!"))

/-- No list goes on without a repeated key after a member that is there already. -/
theorem repeats_after (kept : List MemberSummary) (again : MemberSummary)
    (rest : List MemberSummary) (known : again.memberId ∈ kept.map MemberSummary.memberId) :
    ¬ ((kept ++ again :: rest).map MemberSummary.memberId).Nodup := by
  intro distinct
  rw [List.map_append, List.map_cons] at distinct
  exact absurd rfl ((List.nodup_append.mp distinct).2.2 _ known _ List.mem_cons_self)

/-- A list says by itself which of its members get to be written, and the answer. -/
theorem enrolled_unique (id : Id) (listed kept other : List MemberSummary)
    (answer reply : Except Fault Unit) (enrolled : Enrolled id listed kept answer)
    (enrolled' : Enrolled id listed other reply) : kept = other ∧ answer = reply := by
  cases enrolled with
  | all _ distinct =>
      cases enrolled' with
      | all _ _ => exact ⟨rfl, rfl⟩
      | upTo _ again rest _ known => exact absurd distinct (repeats_after other again rest known)
  | upTo _ again rest distinct known =>
      generalize same : kept ++ again :: rest = listed at enrolled'
      cases enrolled' with
      | all _ distinct' =>
          rw [← same] at distinct'
          exact absurd distinct' (repeats_after kept again rest known)
      | upTo _ again' rest' distinct' known' =>
          -- The shorter of both lists ends at a key that the longer one would repeat.
          rcases List.append_eq_append_iff.mp same with ⟨more, longer, tail⟩ | ⟨more, longer, tail⟩
          · cases more with
            | nil => simp_all
            | cons first more =>
                obtain ⟨rfl, _⟩ := List.cons.inj tail
                exact absurd (longer ▸ distinct') (repeats_after kept again more known)
          · cases more with
            | nil => simp_all
            | cons first more =>
                obtain ⟨rfl, _⟩ := List.cons.inj tail
                exact absurd (longer ▸ distinct) (repeats_after other again' more known')

structure Stores where
  organizations : Organizations
  members : Members
deriving DecidableEq, Repr

namespace Stores

variable (stores : Stores)

/-- The members of an organization, without what they only carry on their way. -/
def membersOf (id : Id) : List MemberSummary := (stores.members.under id).map Member.summary

def directory : Directory := fun id =>
  (stores.organizations.find? id).map fun organization =>
    { name := organization.name, country := organization.country, members := stores.membersOf id }

def Sound : Prop :=
  ∀ id, stores.organizations.find? id = none → stores.members.under id = []

def emit (emission : Emission) (stores : Stores) : Stores × Except Failure Unit :=
  match emission with
  | .organization change =>
    let (organizations, result) :=
      Store.settle stores.organizations () (change.apply stores.organizations)
    ({ stores with organizations }, result.mapError .rejected)
  | .member change =>
    let (members, result) := Store.settle stores.members () (change.apply stores.members)
    ({ stores with members }, result.mapError .rejected)

def composite (address : String) : Composite Stores where
  address := address
  organization id _ stores := (stores, .now (stores.organizations.serve id))
  members id stores := (stores, .now (stores.members.serve id))
  emit := emit
  record _ stores := stores

/-- What a write comes to, said of the directory. A write that is refused as a whole leaves
the stores themselves as they were. -/
inductive Written (before : Stores) : Composite.Write → Stores → Except Fault Unit → Prop where
  | createRefused (aggregate : Aggregate) (low : aggregate.organizationId < 1) :
      Written before (.create aggregate) before
        (.error (.invalidPayload s!"Invalid organizationId: {aggregate.organizationId}"))
  | taken (aggregate : Aggregate) (valid : 1 ≤ aggregate.organizationId)
      (present : (before.directory aggregate.organizationId).isSome = true) :
      Written before (.create aggregate) before
        (.error (.invalidPayload
          s!"Organization Id: {aggregate.organizationId} already exists!"))
  | created (aggregate : Aggregate) (after : Stores) (kept : List MemberSummary)
      (answer : Except Fault Unit) (valid : 1 ≤ aggregate.organizationId)
      (absent : before.directory aggregate.organizationId = none)
      (enrolled : Enrolled aggregate.organizationId aggregate.memberList kept answer)
      (holds : after.directory = before.directory.put aggregate.organizationId
        { name := aggregate.name, country := aggregate.country, members := kept }) :
      Written before (.create aggregate) after answer
  | deleteRefused (id : Id) (low : id < 1) :
      Written before (.delete id) before (.error (.invalidPayload s!"Invalid organizationId: {id}"))
  | deleted (id : Id) (after : Stores) (valid : 1 ≤ id)
      (holds : after.directory = before.directory.drop id) :
      Written before (.delete id) after (.ok ())

/-- A directory and a write leave one answer only, and one directory. -/
theorem written_unique (before after other : Stores) (write : Composite.Write)
    (answer reply : Except Fault Unit) (written : before.Written write after answer)
    (written' : before.Written write other reply) :
    answer = reply ∧ after.directory = other.directory := by
  cases written with
  | createRefused aggregate low =>
      cases written' with
      | createRefused _ _ => exact ⟨rfl, rfl⟩
      | taken _ valid _ => exact absurd low (Int32.not_lt.mpr valid)
      | created _ _ _ _ valid _ _ _ => exact absurd low (Int32.not_lt.mpr valid)
  | taken aggregate valid present =>
      cases written' with
      | createRefused _ low => exact absurd low (Int32.not_lt.mpr valid)
      | taken _ _ _ => exact ⟨rfl, rfl⟩
      | created _ _ _ _ _ absent _ _ => simp [absent] at present
  | created aggregate _ kept _ valid absent enrolled holds =>
      cases written' with
      | createRefused _ low => exact absurd low (Int32.not_lt.mpr valid)
      | taken _ _ present => simp [absent] at present
      | created _ _ kept' _ _ _ enrolled' holds' =>
          obtain ⟨rfl, same⟩ := enrolled_unique _ _ _ _ _ _ enrolled enrolled'
          exact ⟨same, holds.trans holds'.symm⟩
  | deleteRefused id low =>
      cases written' with
      | deleteRefused _ _ => exact ⟨rfl, rfl⟩
      | deleted _ _ valid _ => exact absurd low (Int32.not_lt.mpr valid)
  | deleted id _ valid holds =>
      cases written' with
      | deleteRefused _ low => exact absurd low (Int32.not_lt.mpr valid)
      | deleted _ _ _ holds' => exact ⟨rfl, holds.trans holds'.symm⟩

section Emissions

theorem emit_organization (change : Change Organization) (next : Organizations)
    (applied : change.apply stores.organizations = .ok next) :
    stores.emit (.organization change) = ({ stores with organizations := next }, .ok ()) := by
  simp only [emit, applied, Store.settle]
  rfl

theorem emit_organization_refused (change : Change Organization) (fault : Fault)
    (refused : change.apply stores.organizations = .error fault) :
    stores.emit (.organization change) = (stores, .error (.rejected fault)) := by
  simp only [emit, refused, Store.settle]
  rfl

theorem emit_member (change : Change Member) (next : Members)
    (applied : change.apply stores.members = .ok next) :
    stores.emit (.member change) = ({ stores with members := next }, .ok ()) := by
  simp only [emit, applied, Store.settle]
  rfl

theorem emit_member_refused (change : Change Member) (fault : Fault)
    (refused : change.apply stores.members = .error fault) :
    stores.emit (.member change) = (stores, .error (.rejected fault)) := by
  simp only [emit, refused, Store.settle]
  rfl

end Emissions

theorem membersOf_added (record : Member) (id : Id) :
    { stores with members := stores.members.added record }.membersOf id =
      if id = record.organizationId then stores.membersOf id ++ [record.summary]
      else stores.membersOf id := by
  simp only [membersOf, Members.under_added]
  split
  · rw [List.map_append]
    rfl
  · rfl

/-- Members are sent one after the other, and the first one that is there already ends it. -/
theorem send_members (id : Id) (valid : 1 ≤ id) (listed : List MemberSummary)
    (distinct : ((stores.membersOf id).map MemberSummary.memberId).Nodup) :
    let sent := sendAll emit
      (listed.map fun summary => .member (.create id (summary.under id))) stores
    sent.1.organizations = stores.organizations ∧
      (∀ other, other ≠ id → sent.1.members.under other = stores.members.under other) ∧
      Enrolled id (stores.membersOf id ++ listed) (sent.1.membersOf id) sent.2 := by
  induction listed generalizing stores with
  | nil =>
      rw [List.append_nil]
      exact ⟨rfl, fun _ _ => rfl, Enrolled.all _ distinct⟩
  | cons summary rest ih =>
      simp only [List.map_cons]
      cases known : stores.members.has (summary.under id) with
      | true =>
          have refused := emit_member_refused stores (.create id (summary.under id)) _
            (Members.create_taken stores.members (summary.under id) valid known)
          rw [Composite.sendAll_failed emit _ _ stores stores _ refused]
          refine ⟨rfl, fun _ _ => rfl, ?_⟩
          exact Enrolled.upTo (stores.membersOf id) summary rest distinct
            ((Members.has_iff stores.members (summary.under id)).mp known)
      | false =>
          have sent := emit_member stores (.create id (summary.under id)) _
            (Members.create_free stores.members (summary.under id) valid known)
          rw [Composite.sendAll_sent emit _ _ stores _ sent]
          have grown := membersOf_added stores (summary.under id) id
          rw [if_pos (show id = (summary.under id).organizationId from rfl)] at grown
          have fresh : summary.memberId ∉ (stores.membersOf id).map MemberSummary.memberId := by
            intro member
            rw [(Members.has_iff stores.members (summary.under id)).mpr member] at known
            cases known
          -- What is there and what is still to be sent make up the same list as before.
          obtain ⟨same, others, enrolled⟩ := ih
            { stores with members := stores.members.added (summary.under id) } (by
              rw [grown, List.map_append]
              refine List.nodup_append.mpr ⟨distinct, by simp, ?_⟩
              rintro key member _ isLast rfl
              exact fresh (List.mem_singleton.mp isLast ▸ member))
          refine ⟨same, ?_, ?_⟩
          · intro other isOther
            rw [others other isOther, Members.under_added]
            exact if_neg isOther
          · rwa [grown, List.append_assoc, List.singleton_append] at enrolled

theorem directory_none (id : Id) :
    stores.directory id = none ↔ stores.organizations.find? id = none := by
  simp [directory]

/-- A new organization gets its members from an empty list, for there are none left behind. -/
theorem create_new (address : String) (aggregate : Aggregate) (sound : stores.Sound)
    (valid : 1 ≤ aggregate.organizationId)
    (absent : stores.organizations.find? aggregate.organizationId = none) :
    let made := (composite address).create aggregate stores
    Written stores (.create aggregate) made.1 made.2 ∧ made.1.Sound := by
  let id := aggregate.organizationId
  let record := aggregate.organization
  have empty : stores.membersOf id = [] := by
    rw [membersOf, sound id absent]
    rfl
  have first := emit_organization stores (.create id record) _
    (Organizations.create_free stores.organizations record valid absent)
  let entered : Stores := { stores with organizations := stores.organizations.added record }
  have made : (composite address).create aggregate stores =
      sendAll emit (aggregate.memberList.map fun summary =>
        .member (.create id (summary.under id))) entered := by
    change (composite address).write aggregate stores = _
    rw [Composite.write, Fault.checkId_valid _ valid]
    exact Composite.sendAll_sent emit _ _ stores _ first
  obtain ⟨same, others, enrolled⟩ := send_members entered id valid aggregate.memberList
    (by
      change ((stores.membersOf id).map MemberSummary.memberId).Nodup
      simp [empty])
  rw [made]
  -- From here on only what was said of the sending counts, not how it went.
  generalize sendAll emit _ entered = sent at same others enrolled ⊢
  have found : ∀ other, sent.1.organizations.find? other =
      if other = id then some (Organizations.kept record)
      else stores.organizations.find? other := by
    intro other
    rw [same]
    exact Organizations.find_added stores.organizations record absent other
  refine ⟨Written.created aggregate sent.1 (sent.1.membersOf id) sent.2 valid ?_ ?_ ?_, ?_⟩
  · exact (directory_none stores id).mpr absent
  · have listed : entered.membersOf id ++ aggregate.memberList = aggregate.memberList := by
      change stores.membersOf id ++ aggregate.memberList = aggregate.memberList
      rw [empty, List.nil_append]
    rwa [listed] at enrolled
  · funext other
    rw [directory, found, Directory.put]
    by_cases isThis : other = id
    · subst isThis
      simp [id, record, Organizations.kept, Organization.servedBy, Aggregate.organization]
    · have unmoved : sent.1.membersOf other = stores.membersOf other :=
        congrArg (List.map Member.summary) (others other isThis)
      rw [if_neg isThis, if_neg isThis, unmoved]
      rfl
  · intro other gone
    rw [found] at gone
    by_cases isThis : other = id
    · simp [isThis] at gone
    · rw [if_neg isThis] at gone
      exact (others other isThis).trans (sound other gone)

theorem create_written (address : String) (aggregate : Aggregate) (sound : stores.Sound) :
    let made := (composite address).create aggregate stores
    Written stores (.create aggregate) made.1 made.2 ∧ made.1.Sound := by
  rcases Decidable.em (aggregate.organizationId < 1) with low | high
  · have made : (composite address).create aggregate stores =
        (stores, .error (Fault.invalidId aggregate.organizationId)) := by
      change (composite address).write aggregate stores = _
      rw [Composite.write, Fault.checkId_low _ low]
    rw [made]
    exact ⟨Written.createRefused aggregate low, sound⟩
  · have valid : 1 ≤ aggregate.organizationId := Int32.not_lt.mp high
    cases found : stores.organizations.find? aggregate.organizationId with
    | none => exact create_new stores address aggregate sound valid found
    | some record =>
        have present : (stores.organizations.find? aggregate.organizationId).isSome = true := by
          rw [found]
          rfl
        have refused := emit_organization_refused stores
          (.create aggregate.organizationId aggregate.organization) _
          (Organizations.create_taken stores.organizations aggregate.organization valid present)
        have made : (composite address).create aggregate stores =
            (stores, .error (Organizations.taken aggregate.organizationId)) := by
          change (composite address).write aggregate stores = _
          rw [Composite.write, Fault.checkId_valid _ valid]
          exact Composite.sendAll_failed emit _ _ stores stores _ refused
        rw [made]
        exact ⟨Written.taken aggregate valid (by simpa [directory] using present), sound⟩

theorem delete_written (address : String) (id : Id) (sound : stores.Sound) :
    let made := (composite address).delete id stores
    Written stores (.delete id) made.1 made.2 ∧ made.1.Sound := by
  rcases Decidable.em (id < 1) with low | high
  · have refused := emit_organization_refused stores (.delete id) _
      (Organizations.delete_low stores.organizations id low)
    have made : (composite address).delete id stores = (stores, .error (Fault.invalidId id)) :=
      Composite.sendAll_failed emit _ _ stores stores _ refused
    rw [made]
    exact ⟨Written.deleteRefused id low, sound⟩
  · have valid : 1 ≤ id := Int32.not_lt.mp high
    have first := emit_organization stores (.delete id) _
      (Organizations.delete_valid stores.organizations id valid)
    have second := emit_member { stores with organizations := stores.organizations.removed id }
      (.delete id) _ (Members.delete_valid stores.members id valid)
    have made : (composite address).delete id stores =
        ({ organizations := stores.organizations.removed id
           members := stores.members.removed id }, .ok ()) := by
      change sendAll emit (Emission.removal id) stores = _
      rw [Emission.removal, Composite.sendAll_sent emit _ _ stores _ first,
        Composite.sendAll_sent emit _ _ _ _ second]
      rfl
    rw [made]
    refine ⟨Written.deleted id _ valid ?_, ?_⟩
    · funext other
      simp only [directory, Directory.drop, membersOf, Organizations.find_removed,
        Members.under_removed]
      split <;> rfl
    · intro other absent
      simp only [Organizations.find_removed] at absent
      simp only [Members.under_removed]
      split
      · rfl
      · next isOther =>
        rw [if_neg isOther] at absent
        exact sound other absent

theorem perform_written (address : String) (write : Composite.Write) (sound : stores.Sound) :
    let made := (composite address).perform write stores
    Written stores write made.1 made.2 ∧ made.1.Sound := by
  cases write with
  | create aggregate => exact create_written stores address aggregate sound
  | delete id => exact delete_written stores address id sound

theorem performAll_sound (address : String) (writes : List Composite.Write)
    (sound : stores.Sound) : ((composite address).performAll writes stores).Sound := by
  induction writes generalizing stores with
  | nil => exact sound
  | cons write rest ih => exact ih _ (perform_written stores address write sound).2

end Stores

/-! ### Reads -/

/-- What a composite read answers of a directory. An organization without members names no
process for them. -/
def Directory.answer (directory : Directory) (addresses : ServiceAddresses) (id : Id) :
    Except Fault Aggregate :=
  match directory id with
  | none => .error (.notFound s!"No organization found for organizationId: {id}")
  | some entry => .ok {
      organizationId := id
      name := entry.name
      country := entry.country
      members := some entry.members
      serviceAddresses := some
        { addresses with member := if entry.members = [] then "" else addresses.member } }

def Stores.addresses (stores : Stores) (composite : String) : ServiceAddresses where
  composite := composite
  organization := stores.organizations.address
  member := stores.members.address

theorem Stores.view_served (stores : Stores) (address : String) (id : Id) (record : Organization)
    (found : stores.organizations.find? id = some record) :
    .ok (Composite.view address (record.servedBy stores.organizations.address)
      (stores.members.serve id)) = stores.directory.answer (stores.addresses address) id := by
  have isId := Organizations.find_id stores.organizations record id found
  have summaries : (stores.members.serve id).map Member.summary = stores.membersOf id := by
    simp [Members.serve, membersOf, Member.servedBy, Function.comp_def]
  simp only [Directory.answer, directory, found, Option.map_some, Composite.view, summaries]
  cases under : stores.members.under id with
  | nil => simp [Members.serve, membersOf, under, isId, Organization.servedBy, addresses]
  | cons first rest =>
      simp [Members.serve, membersOf, under, isId, Organization.servedBy, Member.servedBy,
        addresses]

/-- A read that gets both parts from the services as they stand answers by the directory. -/
theorem Composite.get_answers {σ : Type} (composite : Composite σ) (stores : Stores) (id : Id)
    (valid : 1 ≤ id) (options : ReadOptions) (state : σ)
    (organization : (composite.organization id options state).2.value =
      stores.organizations.serve id)
    (members : (stores.directory id).isSome = true →
      (composite.members id (composite.organization id options state).1).2.value =
        stores.members.serve id) :
    (composite.get id options state).2.value =
      stores.directory.answer (stores.addresses composite.address) id := by
  change (composite.read id options state).2.value = _
  rw [Composite.read, Fault.checkId_valid id valid]
  cases found : stores.organizations.find? id with
  | none =>
      have failed : (composite.organization id options state).2.value =
          .error (Organizations.missing id) := by
        rw [organization, Organizations.serve, found]
      have unknown : stores.directory.answer (stores.addresses composite.address) id =
          .error (Organizations.missing id) := by
        rw [Directory.answer, Stores.directory, found]
        rfl
      simp only [Composite.readBoth, failed, unknown]
      split <;> rfl
  | some record =>
      have served : (composite.organization id options state).2.value =
          .ok (record.servedBy stores.organizations.address) := by
        rw [organization, Organizations.serve, found]
      have listed := members (by simp [Stores.directory, found])
      simp only [Composite.readBoth, served, listed]
      exact stores.view_served composite.address id record found

end Roster
