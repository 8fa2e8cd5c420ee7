import Mathlib.Data.List.Nodup
import Roster.Proofs.BackendVisits

/-!
What a backend is meant to keep: organizations by their keys, or for each organization a list of
members with keys of their own. Under traffic of every kind a backend keeps just what the writes
that it accepted make of that, and answers every read from it with its own address.
-/

namespace Roster

open Store (Write)

open Http (Response)

namespace Backend

variable {σ α ρ β : Type} [Store σ α] [Json.Wire α] [Json.Wire ρ]

/-- An answer serves what a read came to: the records themselves as JSON under status 200, or a
problem with the message of the fault under a status for its kind. -/
def Serves (path : String) : Except Fault ρ → Response → Prop
  | .ok records, response => response.status = 200 ∧
    response.mediaType? = some "application/json" ∧
    ∀ time, response.bytes time = Json.Wire.encode records
  | .error fault, response => response.status = (match fault with
      | .notFound _ => 404
      | .invalidPayload _ => 422
      | .backendUnavailable _ => 503
      | .eventProcessing _ => 500) ∧
    response.body = .problem path fault.message

theorem serves_ofRead (path : String) (result : Except Fault ρ) :
    Serves path result (.ofRead path result) := by
  cases result with
  | ok records => exact ⟨rfl, rfl, fun _ => rfl⟩
  | error fault => cases fault <;> exact ⟨rfl, rfl⟩

inductive Agrees (Shows : σ → β → Prop) : Except Fault σ → Except Fault β → Prop where
  | accepted (store : σ) (ideal : β) (shows' : Shows store ideal) :
      Agrees Shows (.ok store) (.ok ideal)
  | refused (fault : Fault) : Agrees Shows (.error fault) (.error fault)

/-- What a backend is meant to keep, and how its store shows it. -/
structure Ideal (backend : Backend σ α ρ) (β : Type) where
  fresh : String → σ
  empty : β
  write : Write α → β → Except Fault β
  serve : String → Id → β → Except Fault ρ
  records : ρ → List α
  served : String → α → α
  Shows : String → σ → β → Prop
  shows_fresh : ∀ address, Shows address (fresh address) empty
  shows_write : ∀ address store ideal asked, Shows address store ideal →
    Agrees (Shows address) (asked.apply store) (write asked ideal)
  shows_read : ∀ address store ideal staging draw id, Shows address store ideal →
    backend.read store staging draw id = ⟨(staging.gate draw id).after,
      (staging.gate draw id).value.bind fun _ => serve address id ideal⟩
  delete_valid : ∀ id (store : σ), 1 ≤ id → ((Write.delete id).apply store).isOk = true
  served_empty : ∀ address id answer, serve address id empty = .ok answer → records answer = []
  served_write : ∀ asked before after address id answer, write asked before = .ok after →
    serve address id after = .ok answer → ∀ record ∈ records answer,
      (∃ given, asked = .create given ∧ record = served address given) ∨
        ∃ earlier, serve address id before = .ok earlier ∧ record ∈ records earlier

namespace Ideal

variable {backend : Backend σ α ρ} (ideal : Ideal backend β)

/-- What a read comes to: a key below 1 is refused, and so is up to the percentage that was asked
for; all else is read from what is kept. -/
def read (address : String) (staging : Staging) (draw : Nat) (id : Id) (kept : β) :
    Except Fault ρ :=
  if id < 1 then .error (.invalidPayload s!"Invalid organizationId: {id}")
  else if draw ≤ staging.fault.toNat then .error (.backendUnavailable "Something went wrong...")
  else ideal.serve address id kept

theorem read_gate (address : String) (staging : Staging) (draw : Nat) (id : Id) (kept : β) :
    (staging.gate draw id).value.bind (fun _ => ideal.serve address id kept) =
      ideal.read address staging draw id kept := by
  rw [read]
  by_cases low : id < 1
  · rw [if_pos low, Staging.gate, Fault.checkId_low id low]
    rfl
  · rw [if_neg low, Staging.gate, Fault.checkId_valid id (Int32.not_lt.mp low)]
    change Except.bind (staging.fault? draw) _ = _
    by_cases struck : draw ≤ staging.fault.toNat
    · rw [if_pos struck, Staging.fault?, if_pos (by simpa [Staging.strikes] using struck)]
      rfl
    · rw [if_neg struck, Staging.fault?, if_neg (by simpa [Staging.strikes] using struck)]
      rfl

def writeAll (writes : List (Write α)) (start : β) : Except Fault β :=
  writes.foldlM (fun kept write => ideal.write write kept) start

def Stems (writes : List (Write α)) (kept : β) : Prop :=
  ∀ address id answer, ideal.serve address id kept = .ok answer → ∀ record ∈ ideal.records answer,
    ∃ given, Write.create given ∈ writes ∧ record = ideal.served address given

theorem writeAll_cons (write : Write α) (writes : List (Write α)) (start next : β)
    (written : ideal.write write start = .ok next) :
    ideal.writeAll (write :: writes) start = ideal.writeAll writes next := by
  rw [writeAll, List.foldlM_cons, written]
  rfl

theorem stems_write (writes : List (Write α)) (asked : Write α) (before after : β)
    (stems : ideal.Stems writes before) (written : ideal.write asked before = .ok after) :
    ideal.Stems (writes ++ [asked]) after := by
  intro address id answer served record mem
  rcases ideal.served_write asked before after address id answer written served record mem with
    ⟨given, rfl, same⟩ | ⟨earlier, found, known⟩
  · exact ⟨given, List.mem_append_right _ List.mem_cons_self, same⟩
  · obtain ⟨given, there, same⟩ := stems address id earlier found record known
    exact ⟨given, List.mem_append_left _ there, same⟩

theorem stems_writeAll (writes earlier : List (Write α)) (start kept : β)
    (stems : ideal.Stems earlier start) (written : ideal.writeAll writes start = .ok kept) :
    ideal.Stems (earlier ++ writes) kept := by
  induction writes generalizing earlier start with
  | nil =>
      obtain rfl := Except.ok.inj written
      rwa [List.append_nil]
  | cons write rest ih =>
      cases first : ideal.write write start with
      | error fault =>
          rw [writeAll, List.foldlM_cons, first] at written
          cases written
      | ok next =>
          rw [writeAll_cons ideal write rest start next first] at written
          rw [List.append_cons]
          exact ih _ next (stems_write ideal earlier write start next stems first) written

end Ideal

variable (backend : Backend σ α ρ) (ideal : Ideal backend β)

/-- Just the writes that are answered with success count, each for what is kept by then. -/
theorem attendAll_shows (address : String) (visits : List (Visit α)) (desk : Desk σ) (start : β)
    (shows' : ideal.Shows address desk.store start) :
    let attended := backend.attendAll visits desk
    ∃ kept, ideal.writeAll (backend.accepted attended.2) start = .ok kept ∧
      ideal.Shows address attended.1.store kept := by
  induction visits generalizing desk start with
  | nil => exact ⟨start, rfl, shows'⟩
  | cons visit rest ih =>
      simp only [attendAll, accepted, List.filterMap_cons]
      -- A visit is a write that succeeds, or it leaves the store and what is accepted alone.
      rcases attend_cases backend visit desk with
        ⟨write, next, asked, applied, stored, replied⟩ | ⟨stored, noWrite⟩
      · have agrees := ideal.shows_write address desk.store start write shows'
        rw [applied] at agrees
        generalize written : ideal.write write start = result at agrees
        cases agrees with
        | accepted _ made shown =>
            rw [if_pos replied, asked]
            rw [← stored] at shown
            obtain ⟨kept, all, last⟩ := ih _ made shown
            exact ⟨kept, (ideal.writeAll_cons write _ start made written).trans all, last⟩
      · rw [← stored] at shows'
        have none : (if (backend.attend visit desk).2.isSuccess then backend.write? visit
            else Option.none) = Option.none := by
          rcases noWrite with refused | noWrite
          · rw [refused]
            rfl
          · rw [noWrite, ite_self]
        rw [none]
        exact ih _ start shows'

/-- A backend keeps what it is meant to keep, whatever comes to it and in whatever order. -/
structure Refines : Prop where
  /-- The store shows what the writes that were accepted make of nothing, each of them accepted
  there as well, and every record in it was created by one of them. -/
  traffic : ∀ address metrics visits,
    let attended := backend.attendAll visits { store := ideal.fresh address, metrics }
    ∃ kept, ideal.writeAll (backend.accepted attended.2) ideal.empty = .ok kept ∧
      ideal.Shows address attended.1.store kept ∧
      ideal.Stems (backend.accepted attended.2) kept
  refusals : ∀ visit desk, (backend.attend visit desk).2.isSuccess = false →
    (backend.attend visit desk).1.store = desk.store
  gets : ∀ draw request desk, request.method = "GET" →
    (backend.attend (.request draw request) desk).1 = desk
  /-- A read is answered from what is kept, with the address of the backend: the records that it
  gives are the body of the answer. -/
  reads : ∀ address draw request id staging desk kept,
    backend.errand? request = some (.read id staging) → ideal.Shows address desk.store kept →
    ∃ after response,
      backend.attend (.request draw request) desk = (desk, .response ⟨after, response⟩) ∧
      Serves request.path (ideal.read address staging draw id kept) response
  /-- A write has one effect and one result, whichever way it comes. -/
  ways : ∀ write desk, ∃ next result, ∀ visit, backend.write? visit = some write →
    (backend.attend visit desk).1.store = next ∧ Tells result visit (backend.attend visit desk).2
  deletes : ∀ visit id desk, backend.write? visit = some (.delete id) → 1 ≤ id →
    (backend.attend visit desk).2.isSuccess = true
  /-- What of a record is not kept influences no answer. -/
  origins : ∀ visits others desk, List.Forall₂ backend.Alike visits others →
    (backend.attendAll visits desk).1 = (backend.attendAll others desk).1 ∧
      (backend.attendAll visits desk).2.map Prod.snd =
        (backend.attendAll others desk).2.map Prod.snd

theorem refines : backend.Refines ideal where
  traffic address metrics visits := by
    obtain ⟨kept, written, shown⟩ := attendAll_shows backend ideal address visits
      { store := ideal.fresh address, metrics } ideal.empty (ideal.shows_fresh address)
    have none : ideal.Stems [] ideal.empty := by
      intro address id answer served record mem
      rw [ideal.served_empty address id answer served] at mem
      cases mem
    exact ⟨kept, written, shown, ideal.stems_writeAll _ [] _ kept none written⟩
  refusals visit desk refused := by
    rcases attend_cases backend visit desk with ⟨_, _, _, _, _, replied⟩ | ⟨stored, _⟩
    · rw [refused] at replied
      cases replied
    · exact stored
  gets draw request desk get := by
    have stored := attend_none backend (.request draw request) desk (backend.errand_get request get)
    rw [attend_request] at stored ⊢
    exact congrArg (fun store => { desk with store }) stored
  reads address draw request id staging desk kept asked shown := by
    have given := ideal.shows_read address desk.store kept staging draw id shown
    rw [ideal.read_gate] at given
    refine ⟨_, _, attend_read backend desk draw request id staging asked, ?_⟩
    rw [given]
    exact serves_ofRead request.path _
  ways write desk :=
    ⟨_, _, fun visit asked => attend_write backend visit desk write asked⟩
  deletes visit id desk asked valid := by
    obtain ⟨_, tells⟩ := attend_write backend visit desk (.delete id) asked
    rw [isSuccess_of_tells visit _ _ tells]
    have accepted := ideal.delete_valid id desk.store valid
    cases applied : (Write.delete id).apply desk.store with
    | ok next => rfl
    | error fault =>
        rw [applied] at accepted
        cases accepted
  origins visits others desk alike := attendAll_alike backend desk visits others alike

end Backend

/-! ### Organizations -/

/-- Names and countries of organizations under their keys. -/
structure Register where
  entry : Id → Option (String × String)
  keyed : ∀ id, (entry id).isSome = true → 1 ≤ id

namespace Register

def empty : Register where
  entry _ := none
  keyed := by simp

def put (register : Register) (id : Id) (valid : 1 ≤ id) (name country : String) : Register where
  entry other := if other = id then some (name, country) else register.entry other
  keyed other there := by
    by_cases same : other = id
    · exact same ▸ valid
    · exact register.keyed other (by simpa [same] using there)

def drop (register : Register) (id : Id) : Register where
  entry other := if other = id then none else register.entry other
  keyed other there := by
    by_cases same : other = id
    · simp [same] at there
    · exact register.keyed other (by simpa [same] using there)

theorem entry_put (register : Register) (id : Id) (valid : 1 ≤ id) (name country : String)
    (other : Id) : (register.put id valid name country).entry other =
      if other = id then some (name, country) else register.entry other := rfl

theorem entry_drop (register : Register) (id other : Id) : (register.drop id).entry other =
    if other = id then none else register.entry other := rfl

def write (asked : Write Organization) (register : Register) : Except Fault Register :=
  match asked with
  | .create record =>
    if valid : 1 ≤ record.id then
      if (register.entry record.id).isSome then
        .error (.invalidPayload s!"Organization Id: {record.id} already exists!")
      else .ok (register.put record.id valid record.name record.country)
    else .error (.invalidPayload s!"Invalid organizationId: {record.id}")
  | .delete id =>
    if 1 ≤ id then .ok (register.drop id)
    else .error (.invalidPayload s!"Invalid organizationId: {id}")

def serve (address : String) (id : Id) (register : Register) : Except Fault Organization :=
  match register.entry id with
  | some (name, country) => .ok { id, name, country, originAddress := address }
  | none => .error (.notFound s!"No organization found for organizationId: {id}")

/-- A store at an address shows a register: each record once, without an origin. -/
structure Shown (address : String) (store : Organizations) (register : Register) : Prop where
  address : store.address = address
  single : (store.records.map Organization.id).Nodup
  entries : ∀ id, store.find? id =
    (register.entry id).map fun entry => { id, name := entry.1, country := entry.2 }

variable (address : String) (store : Organizations) (register : Register)

theorem shown_empty : Shown address { address } empty where
  address := rfl
  single := List.nodup_nil
  entries _ := rfl

theorem shown_put (shown : Shown address store register) (record : Organization)
    (valid : 1 ≤ record.id) (absent : store.find? record.id = none) :
    Shown address (store.added record)
      (register.put record.id valid record.name record.country) where
  address := shown.address
  single := by
    have fresh : record.id ∉ store.records.map Organization.id := by
      intro mem
      obtain ⟨earlier, there, same⟩ := List.mem_map.mp mem
      exact List.find?_eq_none.mp absent earlier there (by simp [same])
    rw [Organizations.added, List.map_append]
    exact List.nodup_append_comm.mp (List.nodup_cons.mpr ⟨fresh, shown.single⟩)
  entries other := by
    rw [Organizations.find_added store record absent, entry_put, shown.entries other]
    by_cases same : other = record.id
    · rw [if_pos same, if_pos same, same]
      rfl
    · rw [if_neg same, if_neg same]

theorem shown_drop (shown : Shown address store register) (id : Id) :
    Shown address (store.removed id) (register.drop id) where
  address := shown.address
  single := shown.single.sublist (List.filter_sublist.map Organization.id)
  entries other := by
    rw [Organizations.find_removed, entry_drop, shown.entries other]
    by_cases same : other = id
    · rw [if_pos same, if_pos same]
      rfl
    · rw [if_neg same, if_neg same]

theorem shown_write (shown : Shown address store register) (asked : Write Organization) :
    Backend.Agrees (Shown address) (asked.apply store) (register.write asked) := by
  cases asked with
  | create record =>
      change Backend.Agrees _ (Organizations.create record store) _
      rw [write]
      split
      · next valid =>
        cases found : register.entry record.id with
        | some entry =>
            have present : (store.find? record.id).isSome = true := by
              rw [shown.entries, found]
              rfl
            rw [Organizations.create_taken store record valid present]
            exact .refused _
        | none =>
            have absent : store.find? record.id = none := by
              rw [shown.entries, found]
              rfl
            rw [Organizations.create_free store record valid absent]
            exact .accepted _ _ (shown_put address store register shown record valid absent)
      · next low =>
        rw [Organizations.create_low store record (Int32.not_le.mp low)]
        exact .refused _
  | delete id =>
      change Backend.Agrees _ (Organizations.delete id store) _
      rw [write]
      split
      · next valid =>
        rw [Organizations.delete_valid store id valid]
        exact .accepted _ _ (shown_drop address store register shown id)
      · next low =>
        rw [Organizations.delete_low store id (Int32.not_le.mp low)]
        exact .refused _

theorem shown_serve (shown : Shown address store register) (id : Id) :
    store.serve id = register.serve address id := by
  rw [Organizations.serve, serve, shown.entries id, shown.address]
  cases register.entry id <;> rfl

theorem entry_of_serve (id : Id) (record : Organization)
    (served : register.serve address id = .ok record) :
    register.entry id = some (record.name, record.country) ∧
      record =
        { id, name := record.name, country := record.country, originAddress := address } := by
  rw [serve] at served
  cases found : register.entry id with
  | none => rw [found] at served; cases served
  | some entry =>
      rw [found] at served
      obtain rfl := Except.ok.inj served
      exact ⟨rfl, rfl⟩

theorem write_accepted (asked : Write Organization) (after : Register)
    (written : register.write asked = .ok after) :
    (∃ record valid, asked = .create record ∧
        after = register.put record.id valid record.name record.country) ∨
      ∃ id, asked = .delete id ∧ after = register.drop id := by
  cases asked with
  | create record =>
      rw [write] at written
      split at written
      · next valid =>
        split at written
        · cases written
        · exact .inl ⟨record, valid, rfl, (Except.ok.inj written).symm⟩
      · cases written
  | delete id =>
      rw [write] at written
      split at written
      · exact .inr ⟨id, rfl, (Except.ok.inj written).symm⟩
      · cases written

theorem served_write (asked : Write Organization) (after : Register) (id : Id)
    (record : Organization) (written : register.write asked = .ok after)
    (served : after.serve address id = .ok record) :
    (∃ given, asked = .create given ∧ record = given.servedBy address) ∨
      register.serve address id = .ok record := by
  obtain ⟨entry, same⟩ := entry_of_serve address after id record served
  rcases write_accepted register asked after written with
    ⟨given, valid, rfl, rfl⟩ | ⟨gone, rfl, rfl⟩
  · rw [entry_put] at entry
    split at entry
    · next own =>
      refine .inl ⟨given, rfl, ?_⟩
      obtain ⟨name, country⟩ := Prod.mk.inj (Option.some.inj entry)
      rw [same, own, ← name, ← country]
      rfl
    · rw [serve, entry]
      exact .inr (congrArg Except.ok same.symm)
  · rw [entry_drop] at entry
    split at entry
    · cases entry
    · rw [serve, entry]
      exact .inr (congrArg Except.ok same.symm)

end Register

namespace Organizations

def ideal : backend.Ideal Register where
  fresh address := { address }
  empty := .empty
  write := Register.write
  serve := Register.serve
  records record := [record]
  served address record := { record with originAddress := address }
  Shows := Register.Shown
  shows_fresh := Register.shown_empty
  shows_write address store register asked shown :=
    Register.shown_write address store register shown asked
  shows_read address store register staging draw id shown := by
    rw [← Register.shown_serve address store register shown id]
    rfl
  delete_valid id store valid := congrArg Except.isOk (delete_valid store id valid)
  served_empty address id answer served := nomatch served
  served_write asked before after address id answer written served record mem := by
    obtain rfl := List.mem_singleton.mp mem
    exact (Register.served_write address before asked after id record written served).imp_right
      fun earlier => ⟨record, earlier, mem⟩

end Organizations

/-! ### Members -/

/-- The members of each organization, in the order they came and with keys of their own. -/
structure Roll where
  members : Id → List MemberSummary
  keyed : ∀ id, members id ≠ [] → 1 ≤ id
  distinct : ∀ id, ((members id).map MemberSummary.memberId).Nodup

namespace Roll

def empty : Roll where
  members _ := []
  keyed := by simp
  distinct _ := List.nodup_nil

def Knows (roll : Roll) (record : Member) : Prop :=
  record.summary.memberId ∈ (roll.members record.organizationId).map MemberSummary.memberId

instance (roll : Roll) (record : Member) : Decidable (roll.Knows record) :=
  inferInstanceAs (Decidable (_ ∈ _))

def join (roll : Roll) (record : Member) (valid : 1 ≤ record.organizationId)
    (fresh : ¬ roll.Knows record) : Roll where
  members other := if other = record.organizationId then roll.members other ++ [record.summary]
    else roll.members other
  keyed other there := by
    by_cases same : other = record.organizationId
    · exact same ▸ valid
    · exact roll.keyed other (by simpa [same] using there)
  distinct other := by
    by_cases same : other = record.organizationId
    · subst same
      rw [if_pos rfl, List.map_append]
      exact List.nodup_append_comm.mp (List.nodup_cons.mpr ⟨fresh, roll.distinct _⟩)
    · rw [if_neg same]
      exact roll.distinct other

def drop (roll : Roll) (id : Id) : Roll where
  members other := if other = id then [] else roll.members other
  keyed other there := by
    by_cases same : other = id
    · simp [same] at there
    · exact roll.keyed other (by simpa [same] using there)
  distinct other := by
    by_cases same : other = id
    · simp [same]
    · rw [if_neg same]
      exact roll.distinct other

theorem members_join (roll : Roll) (record : Member) (valid : 1 ≤ record.organizationId)
    (fresh : ¬ roll.Knows record) (other : Id) : (roll.join record valid fresh).members other =
      if other = record.organizationId then roll.members other ++ [record.summary]
      else roll.members other := rfl

theorem members_drop (roll : Roll) (id other : Id) : (roll.drop id).members other =
    if other = id then [] else roll.members other := rfl

def write (asked : Write Member) (roll : Roll) : Except Fault Roll :=
  match asked with
  | .create record =>
    if valid : 1 ≤ record.organizationId then
      if known : roll.Knows record then
        let id := record.organizationId
        let memberId := record.summary.memberId
        .error (.invalidPayload
          s!"Member with organizationId: {id} and memberId: {memberId} already exists!")
      else .ok (roll.join record valid known)
    else .error (.invalidPayload s!"Invalid organizationId: {record.organizationId}")
  | .delete id =>
    if 1 ≤ id then .ok (roll.drop id)
    else .error (.invalidPayload s!"Invalid organizationId: {id}")

def serve (address : String) (id : Id) (roll : Roll) : List Member :=
  (roll.members id).map fun summary => { organizationId := id, summary, originAddress := address }

structure Shown (address : String) (store : Members) (roll : Roll) : Prop where
  address : store.address = address
  entries : ∀ id, store.under id =
    (roll.members id).map fun summary => { organizationId := id, summary }

variable (address : String) (store : Members) (roll : Roll)

theorem shown_empty : Shown address { address } empty where
  address := rfl
  entries _ := rfl

theorem shown_join (shown : Shown address store roll) (record : Member)
    (valid : 1 ≤ record.organizationId) (fresh : ¬ roll.Knows record) :
    Shown address (store.added record) (roll.join record valid fresh) where
  address := shown.address
  entries other := by
    rw [Members.under_added, members_join, shown.entries other]
    by_cases same : other = record.organizationId
    · rw [if_pos same, if_pos same, List.map_append, same]
      rfl
    · rw [if_neg same, if_neg same]

theorem shown_drop (shown : Shown address store roll) (id : Id) :
    Shown address (store.removed id) (roll.drop id) where
  address := shown.address
  entries other := by
    rw [Members.under_removed, members_drop, shown.entries other]
    by_cases same : other = id
    · rw [if_pos same, if_pos same]
      rfl
    · rw [if_neg same, if_neg same]

theorem has_iff_knows (shown : Shown address store roll) (record : Member) :
    store.has record = true ↔ roll.Knows record := by
  have summaries : (store.under record.organizationId).map Member.summary =
      roll.members record.organizationId := by
    rw [shown.entries, List.map_map]
    exact List.map_id _
  rw [Members.has_iff, summaries, Knows]

theorem shown_write (shown : Shown address store roll) (asked : Write Member) :
    Backend.Agrees (Shown address) (asked.apply store) (roll.write asked) := by
  cases asked with
  | create record =>
      change Backend.Agrees _ (Members.create record store) _
      have has := has_iff_knows address store roll shown record
      rw [write]
      split
      · next valid =>
        split
        · next known =>
          rw [Members.create_taken store record valid (has.mpr known)]
          exact .refused _
        · next fresh =>
          have absent : store.has record = false := by
            rw [← Bool.not_eq_true]
            exact mt has.mp fresh
          rw [Members.create_free store record valid absent]
          exact .accepted _ _ (shown_join address store roll shown record valid fresh)
      · next low =>
        rw [Members.create_low store record (Int32.not_le.mp low)]
        exact .refused _
  | delete id =>
      change Backend.Agrees _ (Members.delete id store) _
      rw [write]
      split
      · next valid =>
        rw [Members.delete_valid store id valid]
        exact .accepted _ _ (shown_drop address store roll shown id)
      · next low =>
        rw [Members.delete_low store id (Int32.not_le.mp low)]
        exact .refused _

theorem shown_serve (shown : Shown address store roll) (id : Id) :
    store.serve id = roll.serve address id := by
  rw [Members.serve, serve, shown.entries id, shown.address, List.map_map]
  rfl

theorem write_accepted (asked : Write Member) (after : Roll)
    (written : roll.write asked = .ok after) :
    (∃ record valid fresh, asked = .create record ∧ after = roll.join record valid fresh) ∨
      ∃ id, asked = .delete id ∧ after = roll.drop id := by
  cases asked with
  | create record =>
      rw [write] at written
      split at written
      · next valid =>
        split at written
        · cases written
        · next fresh => exact .inl ⟨record, valid, fresh, rfl, (Except.ok.inj written).symm⟩
      · cases written
  | delete id =>
      rw [write] at written
      split at written
      · exact .inr ⟨id, rfl, (Except.ok.inj written).symm⟩
      · cases written

theorem served_write (asked : Write Member) (after : Roll) (id : Id) (record : Member)
    (written : roll.write asked = .ok after) (served : record ∈ after.serve address id) :
    (∃ given, asked = .create given ∧ record = given.servedBy address) ∨
      record ∈ roll.serve address id := by
  obtain ⟨summary, listed, rfl⟩ := List.mem_map.mp served
  have earlier : summary ∈ roll.members id → _ ∈ roll.serve address id := List.mem_map_of_mem
  rcases write_accepted roll asked after written with
    ⟨given, valid, fresh, rfl, rfl⟩ | ⟨gone, rfl, rfl⟩
  · rw [members_join] at listed
    split at listed
    · next own =>
      rcases List.mem_append.mp listed with old | new
      · exact .inr (earlier old)
      · refine .inl ⟨given, rfl, ?_⟩
        rw [List.mem_singleton.mp new, own]
        rfl
    · exact .inr (earlier listed)
  · rw [members_drop] at listed
    split at listed
    · cases listed
    · exact .inr (earlier listed)

end Roll

namespace Members

def ideal : backend.Ideal Roll where
  fresh address := { address }
  empty := .empty
  write := Roll.write
  serve address id roll := .ok (roll.serve address id)
  records members := members
  served address record := { record with originAddress := address }
  Shows := Roll.Shown
  shows_fresh := Roll.shown_empty
  shows_write address store roll asked shown := Roll.shown_write address store roll shown asked
  shows_read address store roll staging draw id shown := by
    rw [← Roll.shown_serve address store roll shown id]
    change read store staging draw id = _
    rw [read]
    cases (staging.gate draw id).value <;> rfl
  delete_valid id store valid := congrArg Except.isOk (delete_valid store id valid)
  served_empty address id answer served := (Except.ok.inj served).symm
  served_write asked before after address id answer written served record mem := by
    obtain rfl := Except.ok.inj served
    exact (Roll.served_write address before asked after id record written mem).imp_right
      fun earlier => ⟨_, rfl, earlier⟩

end Members

end Roster
