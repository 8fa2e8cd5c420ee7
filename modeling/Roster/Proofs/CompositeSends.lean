import Roster.Proofs.MetricsCounts
import Roster.Proofs.StoreDirectory

/-!
What a composite write sends. Whatever the two backends refuse, the emissions that are tried are
those of the request in their order, up to the first that fails; its failure is what the caller is
told, and the request is counted once.
-/

namespace Roster

open Channel (Failure)

/-- What the caller of a write is told of a failure: what the backend refused it with, or that the
backend is unavailable, and why. -/
def Channel.Failure.Told (fault : Fault) : Failure → Prop
  | .rejected inner => fault = inner
  | .closed name => fault = .backendUnavailable s!"channel {name} is closed"
  | .publish channel reason =>
    fault = .backendUnavailable s!"publish to {channel} failed: {reason}"
  | .serialization detail =>
    fault = .backendUnavailable s!"failed to serialize event: {detail}"

theorem Channel.Failure.told_toFault (failure : Failure) : failure.Told failure.toFault := by
  cases failure <;> rfl

namespace Composite

variable {σ : Type}

structure Attempt where
  emission : Emission
  result : Except Failure Unit
deriving Repr

/-- The attempts were made one after the other, each from what the one before has left, and nothing
else was done. -/
inductive Makes (emit : Emission → σ → σ × Except Failure Unit) : List Attempt → σ → σ → Prop where
  | none (state : σ) : Makes emit [] state state
  | next (attempt : Attempt) (rest : List Attempt) (state between after : σ)
      (made : emit attempt.emission state = (between, attempt.result))
      (later : Makes emit rest between after) : Makes emit (attempt :: rest) state after

/-- All emissions were tried, or those up to the first that failed. -/
inductive Went : List Emission → List Attempt → Except Fault Unit → Prop where
  | all (emissions : List Emission) : Went emissions (emissions.map (⟨·, .ok ()⟩)) (.ok ())
  | upTo (sent : List Emission) (emission : Emission) (rest : List Emission) (failure : Failure) :
      Went (sent ++ emission :: rest) (sent.map (⟨·, .ok ()⟩) ++ [⟨emission, .error failure⟩])
        (.error failure.toFault)

theorem Went.after_sent {emission : Emission} {rest : List Emission} {attempts : List Attempt}
    {answer : Except Fault Unit} (went : Went rest attempts answer) :
    Went (emission :: rest) (⟨emission, .ok ()⟩ :: attempts) answer := by
  cases went with
  | all => exact .all (emission :: rest)
  | upTo sent failed later failure => exact .upTo (emission :: sent) failed later failure

theorem sendAll_went (emit : Emission → σ → σ × Except Failure Unit) (emissions : List Emission)
    (state : σ) : ∃ attempts, Makes emit attempts state (sendAll emit emissions state).1 ∧
      Went emissions attempts (sendAll emit emissions state).2 := by
  induction emissions generalizing state with
  | nil => exact ⟨[], .none state, .all []⟩
  | cons emission rest ih =>
      rcases tried : emit emission state with ⟨between, ⟨failure⟩ | ⟨⟩⟩
      · rw [sendAll_failed emit emission rest state between failure tried]
        exact ⟨[⟨emission, .error failure⟩], .next _ [] state between between tried (.none between),
          .upTo [] emission rest failure⟩
      · rw [sendAll_sent emit emission rest state between tried]
        obtain ⟨attempts, makes, went⟩ := ih between
        exact ⟨⟨emission, .ok ()⟩ :: attempts, .next _ attempts state between _ tried makes,
          went.after_sent⟩

structure UpToFailure (planned : List Emission) (attempts : List Attempt)
    (answer : Except Fault Unit) : Prop where
  attempted : attempts.map Attempt.emission <+: planned
  succeeded : ∀ attempt ∈ attempts.dropLast, attempt.result = .ok ()
  ok_iff : answer = .ok () ↔
    attempts.map Attempt.emission = planned ∧ ∀ attempt ∈ attempts, attempt.result = .ok ()
  failed : ∀ fault, answer = .error fault → ∃ last failure, attempts.getLast? = some last ∧
    last.result = .error failure ∧ failure.Told fault

theorem Went.upToFailure {planned : List Emission} {attempts : List Attempt}
    {answer : Except Fault Unit} (went : Went planned attempts answer) :
    UpToFailure planned attempts answer := by
  cases went with
  | all =>
      have emissions : (planned.map (Attempt.mk · (.ok ()))).map Attempt.emission = planned := by
        simp [Function.comp_def]
      have sent : ∀ attempt ∈ planned.map (Attempt.mk · (.ok ())), attempt.result = .ok () := by
        intro attempt mem
        obtain ⟨emission, _, rfl⟩ := List.mem_map.mp mem
        rfl
      constructor
      · exact ⟨[], by rw [List.append_nil, emissions]⟩
      · intro attempt mem
        exact sent attempt (List.dropLast_subset _ mem)
      · exact ⟨fun _ => ⟨emissions, sent⟩, fun _ => rfl⟩
      · rintro fault ⟨⟩
  | upTo sent emission rest failure =>
      have emissions : (sent.map (Attempt.mk · (.ok ())) ++
          [Attempt.mk emission (.error failure)]).map Attempt.emission = sent ++ [emission] := by
        simp [Function.comp_def]
      constructor
      · rw [emissions]
        exact ⟨rest, (List.append_cons sent emission rest).symm⟩
      · intro attempt mem
        rw [List.dropLast_concat] at mem
        obtain ⟨other, _, rfl⟩ := List.mem_map.mp mem
        rfl
      · refine ⟨by rintro ⟨⟩, ?_⟩
        rintro ⟨_, all⟩
        have last := all ⟨emission, .error failure⟩ (List.mem_append_right _ List.mem_cons_self)
        cases last
      · rintro fault ⟨⟩
        exact ⟨_, failure, List.getLast?_concat, rfl, failure.told_toFault⟩

/-- Attempts were made, and the request was counted once as what came of it; nothing else was
done. -/
structure Finishes (composite : Composite σ) (operation : String) (attempts : List Attempt)
    (state : σ) (made : σ × Except Fault Unit) : Prop where
  counted : ∃ after, Makes composite.emit attempts state after ∧
    made.1 = composite.record (·.bump (.compositeRequests operation (outcomeLabel made.2))) after
  once : ∀ metrics : Metrics, metrics.OneMoreRequest operation (outcomeLabel made.2)
    (metrics.bump (.compositeRequests operation (outcomeLabel made.2)))

theorem finishes (composite : Composite σ) (operation : String) (asked : operation ∈ operations)
    (attempts : List Attempt) (state after : σ) (answer : Except Fault Unit)
    (makes : Makes composite.emit attempts state after) :
    composite.Finishes operation attempts state
      (composite.conclude operation after answer, answer) where
  counted := ⟨after, makes, rfl⟩
  once metrics := metrics.oneMoreRequest_bump operation _ asked (outcomeLabel_mem answer)

theorem sendAll_finishes (composite : Composite σ) (operation : String)
    (asked : operation ∈ operations) (planned : List Emission) (state : σ) :
    let sent := sendAll composite.emit planned state
    ∃ attempts, composite.Finishes operation attempts state
        (composite.conclude operation sent.1 sent.2, sent.2) ∧
      UpToFailure planned attempts sent.2 := by
  obtain ⟨attempts, makes, went⟩ := sendAll_went composite.emit planned state
  exact ⟨attempts, composite.finishes operation asked attempts state _ _ makes, went.upToFailure⟩

/-- Whatever emissions fail, a write tries those of its request in their order up to the first
that fails, and no others: to create, the organization and then each listed member, all under the
key of the request and of no process; to delete, the organization and then all members of the key.
The answer is that all were sent, or what the last one failed with. A key that cannot be stored is
refused with nothing tried. Each request is counted once, as what was answered. -/
theorem writes_emit_prefix (composite : Composite σ) (state : σ) :
    (∀ aggregate : Aggregate, ∃ attempts,
      composite.Finishes "create" attempts state (composite.create aggregate state) ∧
      if aggregate.organizationId < 1 then
        attempts = [] ∧ (composite.create aggregate state).2 =
          .error (.invalidPayload s!"Invalid organizationId: {aggregate.organizationId}")
      else UpToFailure
        (.organization (.create aggregate.organizationId
            ⟨aggregate.organizationId, aggregate.name, aggregate.country, ""⟩) ::
          (aggregate.members.getD []).map fun summary =>
            .member (.create aggregate.organizationId ⟨aggregate.organizationId, summary, ""⟩))
        attempts (composite.create aggregate state).2) ∧
    ∀ id, ∃ attempts,
      composite.Finishes "delete" attempts state (composite.delete id state) ∧
      UpToFailure [.organization (.delete id), .member (.delete id)] attempts
        (composite.delete id state).2 := by
  constructor
  · intro aggregate
    by_cases low : aggregate.organizationId < 1
    · have refused : composite.create aggregate state =
          (composite.conclude "create" state (.error (.invalidId aggregate.organizationId) :
            Except Fault Unit), .error (.invalidId aggregate.organizationId)) := by
        simp only [create, write, Fault.checkId_low _ low]
      rw [refused]
      refine ⟨[], composite.finishes "create" (by simp [operations]) [] state state _
        (.none state), ?_⟩
      rw [if_pos low]
      exact ⟨rfl, rfl⟩
    · have carriedOut : composite.create aggregate state =
          (composite.conclude "create" (sendAll composite.emit aggregate.emissions state).1
            (sendAll composite.emit aggregate.emissions state).2,
            (sendAll composite.emit aggregate.emissions state).2) := by
        simp only [create, write, Fault.checkId_valid _ (Int32.not_lt.mp low)]
      obtain ⟨attempts, finished, upTo⟩ := composite.sendAll_finishes "create"
        (by simp [operations]) aggregate.emissions state
      rw [carriedOut]
      refine ⟨attempts, finished, ?_⟩
      rw [if_neg low]
      exact upTo
  · intro id
    exact composite.sendAll_finishes "delete" (by simp [operations]) (Emission.removal id) state

/-- The second of three members does not get through, and the third is not tried. -/
example :
    let composite : Composite (List Emission) := {
      address := "here:7000"
      organization := fun _ _ tried => (tried, .now (.ok ⟨1, "n", "c", ""⟩))
      members := fun _ tried => (tried, .now [])
      emit := fun emission tried => (tried ++ [emission],
        if tried.length = 2 then .error (.closed "members") else .ok ())
      record := fun _ tried => tried }
    let ada : MemberSummary := ⟨1, "Ada", "A", "s"⟩
    let bob : MemberSummary := ⟨2, "Bob", "B", "s"⟩
    let aggregate : Aggregate :=
      { organizationId := 7, name := "n", country := "c", members := some [ada, bob, ada] }
    let made := composite.create aggregate []
    made.1 = aggregate.emissions.take 3 ∧ outcomeLabel made.2 = "backend_unavailable" := by
  decide +kernel

end Composite
end Roster
