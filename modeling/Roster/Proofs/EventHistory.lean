import Roster.Proofs.StoreRecords

/-!
What a row of events makes of a store, said of the row alone. Only the events since the last
deletion of a key count for what stands under it; of organizations created since then the first
one stays, of members the first one with each key, in the order they came. Refused events are part
of the row and change nothing.
-/

namespace Roster

variable {σ α : Type}

namespace Store

variable [Store σ α]

def after (store : σ) (event : Event α) : σ := (settle store () (event.apply store)).1

def afterAll (events : List (Event α)) (store : σ) : σ := events.foldl after store

theorem process_store (event : Event α) (store : σ) (metrics : Metrics) :
    (process event store metrics).1 = after store event := by
  unfold process after
  cases event.apply store <;> rfl

theorem after_accepted (event : Event α) (store next : σ) (accepted : event.apply store = .ok next) :
    after store event = next := by
  simp [after, accepted, settle]

theorem after_refused (event : Event α) (store : σ) (fault : Fault)
    (refused : event.apply store = .error fault) : after store event = store := by
  simp [after, refused, settle]

theorem afterAll_append (events more : List (Event α)) (store : σ) :
    afterAll (events ++ more) store = afterAll more (afterAll events store) := List.foldl_append

end Store

namespace Event

def clears (id : Id) (event : Event α) : Bool := event.kind = .delete && event.key == id

def payloadFor? (id : Id) (event : Event α) : Option α :=
  if event.kind = .create ∧ event.key = id then event.payload else none

def since (id : Id) (history : List (Event α)) : List (Event α) :=
  (history.reverse.takeWhile fun event => !event.clears id).reverse

/-- What was to be created under a key since it was last deleted, the oldest first. -/
def created (id : Id) (history : List (Event α)) : List α :=
  (since id history).filterMap (payloadFor? id)

theorem created_snoc (id : Id) (history : List (Event α)) (event : Event α) :
    created id (history ++ [event]) =
      if event.clears id then [] else created id history ++ (event.payloadFor? id).toList := by
  rw [created, since, List.reverse_append, List.reverse_singleton, List.singleton_append,
    List.takeWhile_cons]
  cases event.clears id with
  | true => rfl
  | false =>
      simp only [Bool.not_false, if_true, List.reverse_cons, List.filterMap_append]
      cases found : event.payloadFor? id <;> simp [created, since, found]

theorem created_creating (id key : Id) (payload : α) (now : Calendar.Moment)
    (history : List (Event α)) :
    created id (history ++ [creating key payload now]) =
      if key = id then created id history ++ [payload] else created id history := by
  rw [created_snoc]
  by_cases same : key = id <;> simp [creating, clears, payloadFor?, same]

theorem created_deleting (id key : Id) (now : Calendar.Moment) (history : List (Event α)) :
    created id (history ++ [deleting key now]) = if key = id then [] else created id history := by
  rw [created_snoc]
  by_cases same : key = id <;> simp [deleting, clears, payloadFor?, same]

/-- An event as it is made in process: what is to be created stands under its own key, can be
stored, and is kept as it is. -/
inductive Proper (keyOf : α → Id) (kept : α → α) : Event α → Prop where
  | creating (payload : α) (now : Calendar.Moment) (valid : 1 ≤ keyOf payload)
      (asKept : kept payload = payload) : Proper keyOf kept (creating (keyOf payload) payload now)
  | deleting (key : Id) (now : Calendar.Moment) : Proper keyOf kept (deleting key now)

theorem created_low (keyOf : α → Id) (kept : α → α) (history : List (Event α))
    (proper : ∀ event ∈ history, Proper keyOf kept event) (id : Id) (low : id < 1) :
    created id history = [] := by
  rw [created, List.filterMap_eq_nil_iff]
  intro event mem
  have among : event ∈ history := by
    have within := List.takeWhile_subset _ (List.mem_reverse.mp mem)
    exact List.mem_reverse.mp within
  cases proper event among with
  | deleting key now => rfl
  | creating payload now valid asKept =>
      have other : keyOf payload ≠ id := by
        rintro rfl
        exact Int32.not_lt.mpr valid low
      simp [payloadFor?, Event.creating, other]

end Event

/-- What holds of a store and a history holds on as events are applied and the history grows. -/
theorem Store.afterAll_reflects [Store σ α] (Proper : Event α → Prop)
    (Reflects : σ → List (Event α) → Prop)
    (step : ∀ store history event, (∀ earlier ∈ history, Proper earlier) → Proper event →
      Reflects store history → Reflects (after store event) (history ++ [event]))
    (events history : List (Event α)) (store : σ)
    (proper : ∀ event ∈ history ++ events, Proper event) (reflects : Reflects store history) :
    Reflects (afterAll events store) (history ++ events) := by
  induction events generalizing store history with
  | nil => rwa [List.append_nil]
  | cons event rest ih =>
      have known : ∀ earlier ∈ history, Proper earlier :=
        fun earlier mem => proper earlier (List.mem_append_left _ mem)
      have own : Proper event := proper event (List.mem_append_right _ List.mem_cons_self)
      rw [List.append_cons] at proper ⊢
      exact ih _ _ proper (step store history event known own reflects)

/-! ### Organizations -/

namespace Organizations

abbrev Proper : Event Organization → Prop := Event.Proper Organization.id kept

/-- A store holds what a history says. -/
def Reflects (store : Organizations) (history : List (Event Organization)) : Prop :=
  ∀ id, store.find? id = (Event.created id history).head?

theorem reflects_after (store : Organizations) (history : List (Event Organization))
    (event : Event Organization) (proper : ∀ earlier ∈ history, Proper earlier)
    (own : Proper event) (reflects : store.Reflects history) :
    (Store.after store event).Reflects (history ++ [event]) := by
  intro id
  cases own with
  | creating record now valid asKept =>
      rw [Event.created_creating]
      have there := reflects record.id
      cases found : store.find? record.id with
      | some earlier =>
          have refused := create_taken store record valid (by rw [found]; rfl)
          rw [Store.after_refused (.creating record.id record now) store _ refused, reflects id]
          split
          · next same =>
            subst same
            rw [found] at there
            cases created : Event.created record.id history with
            | nil => rw [created] at there; cases there
            | cons first rest => rfl
          · rfl
      | none =>
          have accepted := create_free store record valid found
          rw [Store.after_accepted (.creating record.id record now) store _ accepted,
            find_added store record found, asKept]
          rw [found] at there
          by_cases same : record.id = id
          · subst same
            rw [List.head?_eq_none_iff.mp there.symm]
            simp
          · rw [if_neg (Ne.symm same), if_neg same, reflects id]
  | deleting key now =>
      rw [Event.created_deleting]
      rcases Decidable.em (key < 1) with low | high
      · rw [Store.after_refused (.deleting key now) store _ (delete_low store key low), reflects id]
        split
        · next same =>
          rw [← same, Event.created_low Organization.id kept history proper key low]
        · rfl
      · rw [Store.after_accepted (.deleting key now) store _
            (delete_valid store key (Int32.not_lt.mp high)), find_removed, reflects id]
        by_cases same : key = id
        · simp [same]
        · rw [if_neg (Ne.symm same), if_neg same]

end Organizations

/-! ### Members -/

section Firsts

variable {κ : Type} [BEq κ] [LawfulBEq κ] (key : α → κ)

theorem mem_keys_filter (items : List α) (gone k : κ) (other : k ≠ gone) :
    k ∈ (items.filter fun b => decide ((key b == gone) = false)).map key ↔ k ∈ items.map key := by
  simp only [List.mem_map, List.mem_filter]
  constructor
  · rintro ⟨item, ⟨mem, _⟩, rfl⟩
    exact ⟨item, mem, rfl⟩
  · rintro ⟨item, mem, rfl⟩
    exact ⟨item, ⟨mem, by simpa using other⟩, rfl⟩

theorem mem_keys_eraseDupsBy (items : List α) (k : κ) :
    k ∈ (items.eraseDupsBy fun a b => key a == key b).map key ↔ k ∈ items.map key := by
  match items with
  | [] => rfl
  | first :: rest =>
      have tail := mem_keys_eraseDupsBy (rest.filter fun b => decide ((key b == key first) = false)) k
      rw [List.eraseDupsBy_cons, List.map_cons, List.map_cons, List.mem_cons, List.mem_cons, tail]
      by_cases same : k = key first
      · simp [same]
      · rw [mem_keys_filter key rest (key first) k same]
termination_by items.length
decreasing_by exact Nat.lt_succ_of_le (List.length_filter_le _ _)

theorem eraseDupsBy_snoc (items : List α) (item : α) :
    (items ++ [item]).eraseDupsBy (fun a b => key a == key b) =
      if key item ∈ items.map key then items.eraseDupsBy fun a b => key a == key b
      else (items.eraseDupsBy fun a b => key a == key b) ++ [item] := by
  match items with
  | [] => rfl
  | first :: rest =>
      have tail := eraseDupsBy_snoc
        (rest.filter fun b => decide ((key b == key first) = false)) item
      rw [List.cons_append, List.eraseDupsBy_cons, List.eraseDupsBy_cons, List.filter_append]
      by_cases same : key item = key first
      · simp [same]
      · have stays : ([item].filter fun b => decide ((key b == key first) = false)) = [item] := by
          simp [same]
        have known := mem_keys_filter key rest (key first) (key item) same
        have both : key item ∈ (first :: rest).map key ↔ key item ∈ rest.map key := by
          simp [same]
        rw [stays, tail]
        by_cases repeated : key item ∈ rest.map key
        · rw [if_pos (known.mpr repeated), if_pos (both.mpr repeated)]
        · rw [if_neg (mt known.mp repeated), if_neg (mt both.mp repeated), List.cons_append]
termination_by items.length
decreasing_by exact Nat.lt_succ_of_le (List.length_filter_le _ _)

end Firsts

namespace Members

abbrev Proper : Event Member → Prop := Event.Proper Member.organizationId kept

/-- The first of the members with each key, in their order. -/
def firsts (members : List Member) : List Member :=
  members.eraseDupsBy fun a b => a.summary.memberId == b.summary.memberId

def Reflects (store : Members) (history : List (Event Member)) : Prop :=
  ∀ id, store.under id = firsts (Event.created id history)

theorem reflects_after (store : Members) (history : List (Event Member))
    (event : Event Member) (proper : ∀ earlier ∈ history, Proper earlier)
    (own : Proper event) (reflects : store.Reflects history) :
    (Store.after store event).Reflects (history ++ [event]) := by
  intro id
  cases own with
  | creating record now valid asKept =>
      rw [Event.created_creating]
      have known : store.has record = true ↔ record.summary.memberId ∈
          (Event.created record.organizationId history).map fun member => member.summary.memberId := by
        rw [has_iff, List.map_map, reflects]
        exact mem_keys_eraseDupsBy (fun member : Member => member.summary.memberId) _ _
      cases found : store.has record with
      | true =>
          have refused := create_taken store record valid found
          rw [Store.after_refused (.creating record.organizationId record now) store _ refused,
            reflects id]
          split
          · next same =>
            subst same
            rw [firsts, firsts, eraseDupsBy_snoc (fun member : Member => member.summary.memberId),
              if_pos (known.mp found)]
          · rfl
      | false =>
          have accepted := create_free store record valid found
          have fresh := mt known.mpr (by simp [found])
          rw [Store.after_accepted (.creating record.organizationId record now) store _ accepted,
            under_added, asKept]
          by_cases same : record.organizationId = id
          · subst same
            rw [if_pos rfl, if_pos rfl, reflects, firsts, firsts,
              eraseDupsBy_snoc (fun member : Member => member.summary.memberId), if_neg fresh]
          · rw [if_neg (Ne.symm same), if_neg same, reflects id]
  | deleting key now =>
      rw [Event.created_deleting]
      rcases Decidable.em (key < 1) with low | high
      · rw [Store.after_refused (.deleting key now) store _ (delete_low store key low), reflects id]
        split
        · next same =>
          rw [← same, Event.created_low Member.organizationId kept history proper key low]
        · rfl
      · rw [Store.after_accepted (.deleting key now) store _
            (delete_valid store key (Int32.not_lt.mp high)), under_removed, reflects id]
        by_cases same : key = id
        · rw [if_pos same.symm, if_pos same]
          rfl
        · rw [if_neg (Ne.symm same), if_neg same]

end Members

end Roster
