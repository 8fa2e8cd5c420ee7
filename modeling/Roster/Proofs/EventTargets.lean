import Roster.Proofs.BackendErrands
import Roster.Proofs.FloorRuns

/-!
What an event writes to. An event names a key, and one that creates brings a record that names a
key as well. A store goes by the record for what it creates, and by the event for what it deletes.
So each event leaves everything alone but what is under one key, its target, and events in any
order that keeps the order of each target lead to the same records. Where the record of an event
names another key than the event does, an event that is accepted writes beside its own key.
-/

namespace Roster

variable {σ α : Type}

def Store.Write.target (keyOf : α → Id) : Write α → Id
  | .create record => keyOf record
  | .delete id => id

def Event.target (keyOf : α → Id) (event : Event α) : Id :=
  (event.write?.map (Store.Write.target keyOf)).getD event.key

theorem Event.Proper.target_eq {keyOf : α → Id} {kept : α → α} {event : Event α}
    (proper : event.Proper keyOf kept) : event.target keyOf = event.key := by
  cases proper <;> rfl

/-- What deletes has no other key than its own. -/
theorem Event.creates_of_stray (keyOf : α → Id) (event : Event α)
    (stray : event.target keyOf ≠ event.key) :
    ∃ record, event.write? = some (.create record) ∧ event.target keyOf = keyOf record := by
  obtain ⟨kind, key, payload, now⟩ := event
  cases kind <;> cases payload
  · exact absurd rfl stray
  · exact ⟨_, rfl, rfl⟩
  · exact absurd rfl stray
  · exact absurd rfl stray

namespace Store

variable [Store σ α]

def Write.settled (write : Write α) (store : σ) : σ := (settle store () (write.apply store)).1

theorem after_written (event : Event α) (store : σ) (write : Write α)
    (told : event.write? = some write) : after store event = write.settled store := by
  rw [after, event.apply_write store write told]
  rfl

theorem after_illFormed (event : Event α) (store : σ) (none : event.write? = none) :
    after store event = store := by
  obtain ⟨message, refused⟩ := event.apply_none store none
  exact after_refused event store _ refused

/-- A store whose records stand in one row to a key: what is created goes to the end of its row,
if the row takes it, and what is deleted is the whole row. -/
structure Keyed (keyOf : α → Id) (under : σ → Id → List α) (takes : α → List α → Bool)
    (kept : α → α) : Prop where
  refused : ∀ record store, takes record (under store (keyOf record)) = false →
    ∃ fault, Store.create record store = .error fault
  created : ∀ record store, takes record (under store (keyOf record)) = true →
    ∃ next, Store.create record store = .ok next ∧ ∀ id, under next id =
      if id = keyOf record then under store id ++ [kept record] else under store id
  low : ∀ id (store : σ), id < 1 → ∃ fault, Store.delete id store = .error fault
  deleted : ∀ id (store : σ), 1 ≤ id → ∃ next, Store.delete id store = .ok next ∧
    ∀ other, under next other = if other = id then [] else under store other

namespace Keyed

def rowAfter (takes : α → List α → Bool) (kept : α → α) (row : List α) : Write α → List α
  | .create record => if takes record row then row ++ [kept record] else row
  | .delete id => if id < 1 then row else []

variable {keyOf : α → Id} {under : σ → Id → List α} {takes : α → List α → Bool} {kept : α → α}
  (keyed : Keyed keyOf under takes kept) (event : Event α) (store : σ)

include keyed

/-- A write looks at no other row than that of its key, and changes no other. -/
theorem settled_row (write : Write α) (id : Id) :
    under (write.settled store) id =
      if id = write.target keyOf then rowAfter takes kept (under store id) write
      else under store id := by
  cases write with
  | create record =>
      change under (settle store () (Store.create record store)).1 id =
        if id = keyOf record then rowAfter takes kept (under store id) (.create record)
        else under store id
      cases taken : takes record (under store (keyOf record)) with
      | false =>
          obtain ⟨fault, refused⟩ := keyed.refused record store taken
          rw [refused, settle]
          split
          · next same => rw [rowAfter, same, taken, if_neg Bool.false_ne_true]
          · rfl
      | true =>
          obtain ⟨next, accepted, rows⟩ := keyed.created record store taken
          rw [accepted, settle, rows]
          split
          · next same => rw [rowAfter, same, taken, if_pos rfl]
          · rfl
  | delete key =>
      change under (settle store () (Store.delete key store)).1 id =
        if id = key then rowAfter takes kept (under store id) (.delete key) else under store id
      rcases Decidable.em (key < 1) with low | high
      · obtain ⟨fault, refused⟩ := keyed.low key store low
        rw [refused, settle, rowAfter, if_pos low, ite_self]
      · obtain ⟨next, accepted, rows⟩ := keyed.deleted key store (Int32.not_lt.mp high)
        rw [accepted, settle, rows, rowAfter, if_neg high]

/-- An event leaves alone what is not under its target. -/
theorem after_elsewhere (id : Id) (other : id ≠ event.target keyOf) :
    under (after store event) id = under store id := by
  cases told : event.write? with
  | none => rw [after_illFormed event store told]
  | some write =>
      have target : event.target keyOf = write.target keyOf := by
        rw [Event.target, told]
        rfl
      rw [after_written event store write told, keyed.settled_row, if_neg (target ▸ other)]

theorem after_alike (one other : σ) (id : Id) (alike : under one id = under other id) :
    under (after one event) id = under (after other event) id := by
  cases told : event.write? with
  | none => rwa [after_illFormed event one told, after_illFormed event other told]
  | some write =>
      rw [after_written event one write told, after_written event other write told,
        keyed.settled_row, keyed.settled_row, alike]

/-- Of a row of events only those with the key as their target count for what is under it. -/
theorem afterAll_targeted (events : List (Event α)) (one other : σ) (id : Id)
    (alike : under one id = under other id) :
    under (afterAll events one) id =
      under (afterAll (events.filter fun event => event.target keyOf = id) other) id := by
  induction events generalizing one other with
  | nil => exact alike
  | cons event rest ih =>
      by_cases isTarget : event.target keyOf = id
      · rw [List.filter_cons_of_pos (by simpa using isTarget)]
        exact ih _ _ (keyed.after_alike event one other id alike)
      · -- What is written elsewhere leaves the key as it is, and can be left out.
        rw [List.filter_cons_of_neg (by simpa using isTarget)]
        refine ih _ _ ?_
        rw [keyed.after_elsewhere event one id (Ne.symm isTarget), alike]

/-- Rows of events that have the same events for a target, in the same order, leave the same under
it. -/
theorem afterAll_order (events others : List (Event α)) (id : Id)
    (same : (events.filter fun event => event.target keyOf = id) =
      others.filter fun event => event.target keyOf = id) :
    under (afterAll events store) id = under (afterAll others store) id := by
  rw [keyed.afterAll_targeted events store store id rfl, same,
    ← keyed.afterAll_targeted others store store id rfl]

/-- An event that is accepted and has a target beside its own key has written there. -/
theorem after_stray (next : σ) (accepted : event.apply store = .ok next)
    (stray : event.target keyOf ≠ event.key) :
    under (after store event) (event.target keyOf) ≠ under store (event.target keyOf) := by
  obtain ⟨record, told, target⟩ := event.creates_of_stray keyOf stray
  rw [after_accepted event store next accepted, target]
  rw [event.apply_write store _ told] at accepted
  cases taken : takes record (under store (keyOf record)) with
  | false =>
      obtain ⟨fault, refused⟩ := keyed.refused record store taken
      cases refused.symm.trans accepted
  | true =>
      obtain ⟨made, created, rows⟩ := keyed.created record store taken
      cases created.symm.trans accepted
      rw [rows, if_pos rfl]
      simp

/-- An event touches nothing but what is under its own key exactly if it is refused or names its
target. -/
theorem keeps_to_key_iff :
    (∀ id, id ≠ event.key → under (after store event) id = under store id) ↔
      (event.apply store).isOk = false ∨ event.target keyOf = event.key := by
  constructor
  · intro keeps
    by_cases named : event.target keyOf = event.key
    · exact .inr named
    · cases applied : event.apply store with
      | error fault => exact .inl rfl
      | ok next => exact absurd (keeps _ named) (keyed.after_stray event store next applied named)
  · rintro (refused | named) id other
    · cases applied : event.apply store with
      | error fault => rw [after_refused event store fault applied]
      | ok next =>
          rw [applied] at refused
          cases refused
    · exact keyed.after_elsewhere event store id (named ▸ other)

end Keyed
end Store

namespace Organizations

def under (store : Organizations) (id : Id) : List Organization := store.records.filter (·.id == id)

theorem find_under (store : Organizations) (id : Id) :
    store.find? id = (store.under id).head? := List.head?_filter.symm

def takes (record : Organization) (row : List Organization) : Bool :=
  decide (1 ≤ record.id) && row.isEmpty

theorem keyed : Store.Keyed Organization.id under takes kept where
  refused := by
    intro record store refused
    rcases Decidable.em (record.id < 1) with low | high
    · exact ⟨_, create_low store record low⟩
    · have valid : 1 ≤ record.id := Int32.not_lt.mp high
      refine ⟨_, create_taken store record valid ?_⟩
      rw [find_under]
      simpa [takes, valid] using refused
  created := by
    intro record store taken
    obtain ⟨valid, empty⟩ : 1 ≤ record.id ∧ store.under record.id = [] := by
      simpa [takes] using taken
    refine ⟨_, create_free store record valid (by rw [find_under, empty]; rfl), fun id => ?_⟩
    have keptId : (kept record).id = record.id := rfl
    simp only [under, added, List.filter_append]
    by_cases same : id = record.id
    · simp [same, keptId]
    · simp [same, keptId, Ne.symm same]
  low id store low := ⟨_, delete_low store id low⟩
  deleted := by
    intro id store valid
    refine ⟨_, delete_valid store id valid, fun other => ?_⟩
    simp only [under, removed, List.filter_filter]
    by_cases same : other = id
    · subst same
      simp
    · rw [if_neg same]
      congr 1
      funext record
      by_cases isOther : record.id = other <;> simp [isOther, same]

end Organizations

namespace Members

def takes (record : Member) (row : List Member) : Bool :=
  decide (1 ≤ record.organizationId) &&
    !row.any (·.summary.memberId == record.summary.memberId)

theorem keyed : Store.Keyed Member.organizationId under takes kept where
  refused := by
    intro record store refused
    rcases Decidable.em (record.organizationId < 1) with low | high
    · exact ⟨_, create_low store record low⟩
    · have valid : 1 ≤ record.organizationId := Int32.not_lt.mp high
      refine ⟨_, create_taken store record valid ?_⟩
      rw [has]
      simpa only [takes, valid, decide_true, Bool.true_and, Bool.not_eq_eq_eq_not, Bool.not_false]
        using refused
  created := by
    intro record store taken
    obtain ⟨valid, free⟩ := (Bool.and_eq_true _ _).mp taken
    refine ⟨_, create_free store record (of_decide_eq_true valid) ?_, under_added store record⟩
    rw [has]
    simpa only [Bool.not_eq_true'] using free
  low id store low := ⟨_, delete_low store id low⟩
  deleted id store valid := ⟨_, delete_valid store id valid, under_removed store id⟩

end Members

/-! ### Events and keys -/

/-- How events write to the rows of records of a store: each to the row of its target. -/
structure Store.Targeted [Store σ α] [Json.Wire α] (keyOf : α → Id) (under : σ → Id → List α)
    (store : σ) (metrics : Metrics) : Prop where
  elsewhere : ∀ (event : Event α) (id : Id), id ≠ event.target keyOf →
    under (process event store metrics).1 id = under store id
  arriving : ∀ (bytes : Text.Bytes) (id : Id),
    (∀ event : Event α, Event.receive bytes = .ok event → id ≠ event.target keyOf) →
    under (receive bytes store metrics).1 id = under store id
  own_key_iff : ∀ event : Event α,
    (∀ id, id ≠ event.key → under (process event store metrics).1 id = under store id) ↔
      (process event store metrics).2.2.isOk = false ∨ event.target keyOf = event.key
  order : ∀ (events others : List (Event α)) (id : Id),
    (events.filter fun event => event.target keyOf = id) =
      (others.filter fun event => event.target keyOf = id) →
    under (afterAll events store) id = under (afterAll others store) id
  keyOrder : ∀ events others : List (Event α),
    (∀ event ∈ events ++ others, event.target keyOf = event.key) →
    (∀ id, (events.filter fun event => event.key = id) =
      others.filter fun event => event.key = id) →
    ∀ id, under (afterAll events store) id = under (afterAll others store) id

theorem Store.process_isOk [Store σ α] (event : Event α) (store : σ) (metrics : Metrics) :
    (process event store metrics).2.2.isOk = (event.apply store).isOk := by
  unfold process
  cases event.apply store <;> rfl

theorem Store.Keyed.targeted [Store σ α] [Json.Wire α] {keyOf : α → Id} {under : σ → Id → List α}
    {takes : α → List α → Bool} {kept : α → α} (keyed : Keyed keyOf under takes kept) (store : σ)
    (metrics : Metrics) : Targeted keyOf under store metrics where
  elsewhere event id other := by
    rw [process_store]
    exact keyed.after_elsewhere event store id other
  arriving bytes id other := by
    unfold receive
    cases read : (Event.receive bytes : Except Fault (Event α)) with
    | error fault => rfl
    | ok event =>
        simp only [process_store]
        exact keyed.after_elsewhere event store id (other event read)
  own_key_iff event := by
    rw [process_store, process_isOk]
    exact keyed.keeps_to_key_iff event store
  order events others id same := keyed.afterAll_order store events others id same
  keyOrder events others named same id := by
    -- Under the hypothesis the events with a target are those with it as their key.
    have byTarget (row : List (Event α)) (within : ∀ event ∈ row, event ∈ events ++ others) :
        (row.filter fun event => event.target keyOf = id) =
          row.filter fun event => event.key = id :=
      List.filter_congr fun event mem => by rw [named event (within event mem)]
    refine keyed.afterAll_order store events others id ?_
    rw [byTarget events fun event mem => List.mem_append_left _ mem,
      byTarget others fun event mem => List.mem_append_right _ mem, same id]

def Emission.NamesTarget : Emission → Prop
  | .organization change => ∀ time,
      (change.event time).target Organization.id = (change.event time).key
  | .member change => ∀ time,
      (change.event time).target Member.organizationId = (change.event time).key

theorem Emission.Proper.namesTarget {emission : Emission} (proper : emission.Proper) :
    emission.NamesTarget := by
  cases emission <;> exact fun time => (proper time).target_eq

/-- Whatever event comes to a store, well formed or not, the store changes under no key but the
target of the event: the key of the record that it creates, or its own key. So it touches nothing
but what is under its own key exactly if it is refused or names its target, and the order of
events under each target decides on all that is stored. What a composite service sends always
names its target, and as long as that is so the order under each key is enough. -/
theorem events_write_to_targets (organizations : Organizations) (members : Members)
    (metrics : Metrics) (write : Composite.Write) :
    Store.Targeted Organization.id Organizations.under organizations metrics ∧
      Store.Targeted Member.organizationId Members.under members metrics ∧
      ∀ emission ∈ write.emissions, emission.NamesTarget :=
  ⟨Organizations.keyed.targeted organizations metrics, Members.keyed.targeted members metrics,
    fun emission mem => (write.emissions_proper emission mem).namesTarget⟩

/-- Two organizations are created and the first is deleted, in both orders that keep to each key;
either way just the second is there. -/
theorem same_organizations_in_both_orders :
    let first : Event Organization := .creating 1 { id := 1, name := "a", country := "c" } default
    let second : Event Organization := .creating 2 { id := 2, name := "b", country := "c" } default
    let gone : Event Organization := .deleting 1 default
    let store : Organizations := { address := "here" }
    (∀ event ∈ [first, second, gone] ++ [second, first, gone],
        event.target Organization.id = event.key) ∧
      (∀ id, ([first, second, gone].filter fun event => event.key = id) =
        [second, first, gone].filter fun event => event.key = id) ∧
      ∀ id, (Store.afterAll [first, second, gone] store).under id =
        (Store.afterAll [second, first, gone] store).under id := by
  intro first second gone store
  have named : ∀ event ∈ [first, second, gone] ++ [second, first, gone],
      event.target Organization.id = event.key := by decide
  have same : ∀ id, ([first, second, gone].filter fun event => event.key = id) =
      [second, first, gone].filter fun event => event.key = id := by
    intro id
    by_cases isFirst : (1 : Id) = id
    · subst isFirst
      rfl
    · by_cases isSecond : (2 : Id) = id <;>
        simp [first, second, gone, Event.creating, Event.deleting, isFirst, isSecond]
  have targeted := (events_write_to_targets store { address := "there" } {} (.delete 1)).1
  exact ⟨named, same, targeted.keyOrder _ _ named same⟩

/-- An event of key 1 brings a record of key 2, which is then stored beside the key of the event;
and it matters in which order it comes with the deletion of key 2, though no two events here have
one key. -/
theorem stored_beside_its_key :
    let text := "\x7b\"kind\":\"CREATE\",\"key\":1,\"payload\":" ++
      "\x7b\"organizationId\":2,\"name\":\"n\",\"country\":\"c\"\x7d," ++
      "\"createdAt\":\"2024-01-01T00:00:00Z\"\x7d"
    let record : Organization := { id := 2, name := "n", country := "c" }
    let stray : Event Organization := .creating 1 record default
    let gone : Event Organization := .deleting 2 default
    let store : Organizations := { address := "here" }
    let bytes := Text.Utf8.encode text
    ((Event.receive bytes : Except Fault (Event Organization)).toOption.map Event.key) = some 1 ∧
      store.under 2 = [] ∧ (Store.receive bytes store {}).1.under 2 = [record] ∧
      (Store.afterAll [stray, gone] store).under 2 = [] ∧
      (Store.afterAll [gone, stray] store).under 2 = [record] := by
  decide +kernel

end Roster
