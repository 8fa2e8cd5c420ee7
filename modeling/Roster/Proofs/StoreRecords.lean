import Roster.Store

/-!
What each write makes of a store. The later modules take these equations and never look
into the stores themselves.
-/

namespace Roster

namespace Fault

theorem checkId_low (id : Id) (low : id < 1) : checkId id = .error (invalidId id) := by
  simp [checkId, low]

theorem checkId_valid (id : Id) (valid : 1 ≤ id) : checkId id = .ok () := by
  simp [checkId, Int32.not_lt.mpr valid]

end Fault

namespace Organizations

variable (store : Organizations) (record : Organization) (id : Id)

def added : Organizations := { store with records := store.records ++ [kept record] }

def removed : Organizations := { store with records := store.records.filter (·.id != id) }

theorem create_low (low : record.id < 1) :
    create record store = .error (Fault.invalidId record.id) := by
  simp [create, Fault.checkId_low record.id low, bind, Except.bind]

theorem create_taken (valid : 1 ≤ record.id) (present : (store.find? record.id).isSome = true) :
    create record store = .error (taken record.id) := by
  simp [create, Fault.checkId_valid record.id valid, bind, Except.bind, present]

theorem create_free (valid : 1 ≤ record.id) (absent : store.find? record.id = none) :
    create record store = .ok (store.added record) := by
  simp [create, Fault.checkId_valid record.id valid, bind, Except.bind, absent, added]

theorem delete_low (low : id < 1) : delete id store = .error (Fault.invalidId id) := by
  simp [delete, Fault.checkId_low id low, bind, Except.bind]

theorem delete_valid (valid : 1 ≤ id) : delete id store = .ok (store.removed id) := by
  simp [delete, Fault.checkId_valid id valid, bind, Except.bind, removed]

theorem find_id (found : store.find? id = some record) : record.id = id := by
  simpa using List.find?_some found

theorem find_added (absent : store.find? record.id = none) (other : Id) :
    (store.added record).find? other =
      if other = record.id then some (kept record) else store.find? other := by
  have keptId : (kept record).id = record.id := rfl
  simp only [find?, added, List.find?_append, List.find?_singleton, keptId, beq_iff_eq]
  by_cases same : other = record.id
  · subst same
    rw [find?] at absent
    simp [absent]
  · simp [same, Ne.symm same]

theorem find_removed (other : Id) :
    (store.removed id).find? other = if other = id then none else store.find? other := by
  simp only [find?, removed, List.find?_filter]
  by_cases same : other = id
  · subst same
    simp
  · rw [if_neg same]
    congr 1
    funext record
    by_cases isOther : record.id = other <;> simp [isOther, same]

end Organizations

namespace Members

variable (store : Members) (record : Member) (id : Id)

def added : Members := { store with records := store.records ++ [kept record] }

def removed : Members := { store with records := store.records.filter (·.organizationId != id) }

theorem has_iff : store.has record = true ↔
    record.summary.memberId ∈
      ((store.under record.organizationId).map Member.summary).map MemberSummary.memberId := by
  simp [has]

theorem create_low (low : record.organizationId < 1) :
    create record store = .error (Fault.invalidId record.organizationId) := by
  simp [create, Fault.checkId_low _ low, bind, Except.bind]

theorem create_taken (valid : 1 ≤ record.organizationId) (present : store.has record = true) :
    create record store = .error (taken record.organizationId record.summary.memberId) := by
  simp [create, Fault.checkId_valid _ valid, bind, Except.bind, present]

theorem create_free (valid : 1 ≤ record.organizationId) (absent : store.has record = false) :
    create record store = .ok (store.added record) := by
  simp [create, Fault.checkId_valid _ valid, bind, Except.bind, absent, added]

theorem delete_low (low : id < 1) : delete id store = .error (Fault.invalidId id) := by
  simp [delete, Fault.checkId_low id low, bind, Except.bind]

theorem delete_valid (valid : 1 ≤ id) : delete id store = .ok (store.removed id) := by
  simp [delete, Fault.checkId_valid id valid, bind, Except.bind, removed]

theorem under_added (other : Id) :
    (store.added record).under other =
      if other = record.organizationId then store.under other ++ [kept record]
      else store.under other := by
  have keptId : (kept record).organizationId = record.organizationId := rfl
  simp only [under, added, List.filter_append]
  by_cases same : other = record.organizationId
  · simp [same, keptId]
  · simp [same, keptId, Ne.symm same]

theorem under_removed (other : Id) :
    (store.removed id).under other = if other = id then [] else store.under other := by
  simp only [under, removed, List.filter_filter]
  by_cases same : other = id
  · subst same
    simp
  · rw [if_neg same]
    congr 1
    funext record
    by_cases isOther : record.organizationId = other <;> simp [isOther, same]

end Members
end Roster
