import Roster.Settings

/-!
When settings are accepted and what each of them depends on. Reading is a row of rules, each
about a text that has to fit or about two settings that have to fit each other; the settings
are there just when all rules are kept, and otherwise the first broken one is reported under
its key. Each part of the settings comes from a key of its own, only an address that is not
given from a port as well.
-/

namespace Roster
namespace Settings

open Number (Double)

section Values

variable {α : Type} (key : String) (reader : Reader α) (default : α)

/-- What a source says under a key; the default stands for a text that is missing or does not
fit. -/
def value (source : Source) : α := (parse source key reader default).toOption.getD default

def Fits (source : Source) : Prop :=
  ∀ text, source key = some text → ∃ a, reader (Text.trimChars text.toList) = .ok a

def misfit? (source : Source) : Option SettingFault :=
  match source key with
  | none => none
  | some text =>
    match reader (Text.trimChars text.toList) with
    | .ok _ => none
    | .error reason => some { key, value := text, reason }

theorem misfit_none (source : Source) : misfit? key reader source = none ↔ Fits key reader source := by
  unfold misfit? Fits
  cases found : source key with
  | none => simp
  | some text =>
      cases read : reader (Text.trimChars text.toList) with
      | ok a => simp [read]
      | error reason => simp [read]

theorem misfit_key (source : Source) (fault : SettingFault)
    (broken : misfit? key reader source = some fault) : fault.key = key := by
  unfold misfit? at broken
  split at broken
  · cases broken
  · split at broken
    · cases broken
    · cases broken
      rfl

theorem parse_bind {β : Type} (source : Source) (next : α → Except SettingFault β) :
    (parse source key reader default >>= next) =
      match misfit? key reader source with
      | some fault => .error fault
      | none => next (value key reader default source) := by
  unfold misfit? value parse
  cases found : source key with
  | none => rfl
  | some text =>
      cases read : reader (Text.trimChars text.toList) with
      | ok a => simp only [read]; rfl
      | error reason => simp only [read]; rfl

/-- What a source says under a key depends on nothing that it says under others. -/
theorem value_alike (source other : Source) (same : source key = other key) :
    value key reader default source = value key reader default other := by
  simp only [value, parse, same]

end Values

/-! ### The rules -/

/-- What has to hold of a source, and what is reported if it does not. -/
structure Rule where
  key : String
  Kept : Source → Prop
  broken? : Source → Option SettingFault
  broken_none (source : Source) : broken? source = none ↔ Kept source
  broken_key (source : Source) (fault : SettingFault) :
    broken? source = some fault → fault.key = key

def Rule.fits {α : Type} (key : String) (reader : Reader α) : Rule where
  key := key
  Kept := Fits key reader
  broken? := misfit? key reader
  broken_none := misfit_none key reader
  broken_key := misfit_key key reader

/-- The text under a key has to be one of some words, in any case of its letters, and the reader
knows each word and no other. -/
def Rule.named {α : Type} (key : String) (reader : Reader α) (words : List (String × α))
    (reads : ∀ text a, reader text = .ok a ↔ (word text, a) ∈ words) : Rule where
  key := key
  Kept source := ∀ text, source key = some text →
    word (Text.trimChars text.toList) ∈ words.map Prod.fst
  broken? := misfit? key reader
  broken_none source := by
    simp [misfit_none, Fits, reads]
  broken_key := misfit_key key reader

def Rule.role : Rule :=
  .named "SERVICE_ROLE" readRole
    [("standalone", .standalone), ("composite", .composite), ("organization", .organization),
      ("member", .member)] fun text role => by
    unfold readRole
    cases role <;> split <;> simp_all

def Rule.bus : Rule :=
  .named "BUS_TYPE" readBus
    [("inmemory", .inMemory), ("direct", .direct), ("kafka", .kafka)] fun text bus => by
    unfold readBus
    cases bus <;> split <;> simp_all

def roleOf (source : Source) : Role := value "SERVICE_ROLE" readRole .standalone source
def busOf (source : Source) : BusKind := value "BUS_TYPE" readBus .inMemory source
def attemptsOf (source : Source) : Nat := value "RETRY_MAX_ATTEMPTS" readCount 3 source

def faultOf? (checked : Except SettingFault Unit) : Option SettingFault :=
  match checked with
  | .ok _ => none
  | .error fault => some fault

theorem check_bind {β : Type} (checked : Except SettingFault Unit)
    (next : Unit → Except SettingFault β) :
    (checked >>= next) =
      match faultOf? checked with
      | some fault => .error fault
      | none => next () := by
  cases checked <;> rfl

def Rule.connected : Rule where
  key := "BUS_TYPE"
  Kept source := roleOf source = .standalone ∨ busOf source = .kafka
  broken? source := faultOf? (checkBus source (roleOf source) (busOf source))
  broken_none source := by
    by_cases alone : roleOf source = .standalone <;> by_cases broker : busOf source = .kafka <;>
      simp [checkBus, faultOf?, alone, broker]
  broken_key source fault := by
    unfold checkBus faultOf?
    split
    · simp
    · next failed =>
      split at failed
      · rintro ⟨⟩
        cases failed
        rfl
      · cases failed

def Rule.attempted : Rule where
  key := "RETRY_MAX_ATTEMPTS"
  Kept source := attemptsOf source ≠ 0
  broken? source := faultOf? (checkAttempts (attemptsOf source))
  broken_none source := by
    by_cases none' : attemptsOf source = 0 <;> simp [checkAttempts, faultOf?, none']
  broken_key source fault := by
    unfold checkAttempts faultOf?
    split
    · simp
    · next failed =>
      split at failed
      · rintro ⟨⟩
        cases failed
        rfl
      · cases failed

def rules : List Rule :=
  [.role, .bus, .connected,
    .fits "ORGANIZATION_PORT" readPort, .fits "MEMBER_PORT" readPort,
    .fits "RETRY_MAX_ATTEMPTS" readCount, .fits "RETRY_INITIAL_BACKOFF_MS" readWide,
    .fits "RETRY_MAX_BACKOFF_MS" readWide, .fits "RETRY_MULTIPLIER" readDouble,
    .fits "BREAKER_FAILURE_THRESHOLD" readCount, .fits "BREAKER_WINDOW_SECS" readSeconds,
    .fits "BREAKER_OPEN_SECS" readSeconds, .fits "BREAKER_SUCCESS_THRESHOLD" readCount,
    .attempted, .fits "COMPOSITE_PORT" readPort, .fits "METRICS_PORT" readPort,
    .fits "HTTP_WORKERS" readWide, .fits "ORGANIZATION_TIMEOUT_SECS" readSeconds,
    .fits "MEMBER_TIMEOUT_SECS" readSeconds, .fits "READ_DEADLINE_SECS" readSeconds]

/-- The settings that a source asks for if it keeps all rules. -/
def assembled (source : Source) : Settings :=
  let organizationPort := value "ORGANIZATION_PORT" readPort 7002 source
  let memberPort := value "MEMBER_PORT" readPort 7003 source
  { role := roleOf source
    bus := busOf source
    brokers := plain source "KAFKA_BROKERS" "localhost:9092"
    organizationTopic := plain source "ORGANIZATION_TOPIC" "organizations"
    memberTopic := plain source "MEMBER_TOPIC" "members"
    consumerGroup := plain source "KAFKA_CONSUMER_GROUP" "university-composite"
    host := plain source "HOST" "0.0.0.0"
    advertisedHost := plain source "ADVERTISED_HOST" "localhost"
    compositePort := value "COMPOSITE_PORT" readPort 7000 source
    organizationPort
    memberPort
    metricsPort := value "METRICS_PORT" readPort 9090 source
    httpWorkers := value "HTTP_WORKERS" readWide 2 source
    organizationUrl := plain source "ORGANIZATION_URL" (localUrl organizationPort)
    memberUrl := plain source "MEMBER_URL" (localUrl memberPort)
    organizationTimeout := value "ORGANIZATION_TIMEOUT_SECS" readSeconds 2000 source
    memberTimeout := value "MEMBER_TIMEOUT_SECS" readSeconds 2000 source
    readDeadline := value "READ_DEADLINE_SECS" readSeconds 5000 source
    backoff := {
      maxAttempts := attemptsOf source
      initialDelay := value "RETRY_INITIAL_BACKOFF_MS" readWide 500 source
      maxDelay := value "RETRY_MAX_BACKOFF_MS" readWide 2000 source
      multiplier := value "RETRY_MULTIPLIER" readDouble (Double.ofNat 2) source }
    breaker := {
      failureThreshold := value "BREAKER_FAILURE_THRESHOLD" readCount 5 source
      rollingWindow := value "BREAKER_WINDOW_SECS" readSeconds 30000 source
      openDuration := value "BREAKER_OPEN_SECS" readSeconds 10000 source
      successThreshold := value "BREAKER_SUCCESS_THRESHOLD" readCount 1 source } }

/-- A result, unless one of some rules is broken: then the first of these is reported. -/
def judge (source : Source) (result : Settings) : List Rule → Except SettingFault Settings
  | [] => .ok result
  | rule :: rest =>
    match rule.broken? source with
    | some fault => .error fault
    | none => judge source result rest

theorem read_eq_judge (source : Source) : read source = judge source (assembled source) rules := by
  simp only [read, parse_bind, check_bind]
  rfl

section Judging

variable (source : Source) (result : Settings)

theorem judge_kept (checked : List Rule) (kept : ∀ rule ∈ checked, rule.Kept source) :
    judge source result checked = .ok result := by
  induction checked with
  | nil => rfl
  | cons rule rest ih =>
      obtain ⟨first, others⟩ := List.forall_mem_cons.mp kept
      simp only [judge, (rule.broken_none source).mpr first, ih others]

/-- The first broken rule is reported, whatever comes after it. -/
theorem judge_broken (earlier later : List Rule) (rule : Rule)
    (kept : ∀ before ∈ earlier, before.Kept source) (broken : ¬ rule.Kept source) :
    ∃ fault, judge source result (earlier ++ rule :: later) = .error fault ∧
      rule.broken? source = some fault := by
  induction earlier with
  | nil =>
      cases found : rule.broken? source with
      | none => exact absurd ((rule.broken_none source).mp found) broken
      | some fault => exact ⟨fault, by simp only [List.nil_append, judge, found], rfl⟩
  | cons first rest ih =>
      obtain ⟨here, others⟩ := List.forall_mem_cons.mp kept
      obtain ⟨fault, reported, own⟩ := ih others
      refine ⟨fault, ?_, own⟩
      simp only [List.cons_append, judge, (first.broken_none source).mpr here, reported]

theorem judge_ok (checked : List Rule) (settings : Settings)
    (accepted : judge source result checked = .ok settings) :
    (∀ rule ∈ checked, rule.Kept source) ∧ settings = result := by
  induction checked with
  | nil =>
      cases accepted
      exact ⟨by simp, rfl⟩
  | cons rule rest ih =>
      cases found : rule.broken? source with
      | some fault => simp [judge, found] at accepted
      | none =>
          simp only [judge, found] at accepted
          obtain ⟨others, same⟩ := ih accepted
          exact ⟨List.forall_mem_cons.mpr ⟨(rule.broken_none source).mp found, others⟩, same⟩

end Judging

theorem read_ok_iff (source : Source) (settings : Settings) :
    read source = .ok settings ↔
      (∀ rule ∈ rules, rule.Kept source) ∧ settings = assembled source := by
  rw [read_eq_judge]
  constructor
  · exact judge_ok source _ rules settings
  · rintro ⟨kept, rfl⟩
    exact judge_kept source _ rules kept

/-! ### What the parts of settings depend on -/

inductive Part where
  | role | bus
  | brokers | organizationTopic | memberTopic | consumerGroup
  | host | advertisedHost
  | compositePort | organizationPort | memberPort | metricsPort | httpWorkers
  | organizationUrl | memberUrl
  | organizationTimeout | memberTimeout | readDeadline
  | maxAttempts | initialDelay | maxDelay | multiplier
  | failureThreshold | rollingWindow | openDuration | successThreshold
deriving DecidableEq, Repr

namespace Part

def Kind : Part → Type
  | .role => Role
  | .bus => BusKind
  | .brokers | .organizationTopic | .memberTopic | .consumerGroup | .host | .advertisedHost
  | .organizationUrl | .memberUrl => String
  | .multiplier => Double
  | .compositePort | .organizationPort | .memberPort | .metricsPort | .httpWorkers
  | .organizationTimeout | .memberTimeout | .readDeadline
  | .maxAttempts | .initialDelay | .maxDelay
  | .failureThreshold | .rollingWindow | .openDuration | .successThreshold => Nat

def of (settings : Settings) : (part : Part) → part.Kind
  | .role => settings.role
  | .bus => settings.bus
  | .brokers => settings.brokers
  | .organizationTopic => settings.organizationTopic
  | .memberTopic => settings.memberTopic
  | .consumerGroup => settings.consumerGroup
  | .host => settings.host
  | .advertisedHost => settings.advertisedHost
  | .compositePort => settings.compositePort
  | .organizationPort => settings.organizationPort
  | .memberPort => settings.memberPort
  | .metricsPort => settings.metricsPort
  | .httpWorkers => settings.httpWorkers
  | .organizationUrl => settings.organizationUrl
  | .memberUrl => settings.memberUrl
  | .organizationTimeout => settings.organizationTimeout
  | .memberTimeout => settings.memberTimeout
  | .readDeadline => settings.readDeadline
  | .maxAttempts => settings.backoff.maxAttempts
  | .initialDelay => settings.backoff.initialDelay
  | .maxDelay => settings.backoff.maxDelay
  | .multiplier => settings.backoff.multiplier
  | .failureThreshold => settings.breaker.failureThreshold
  | .rollingWindow => settings.breaker.rollingWindow
  | .openDuration => settings.breaker.openDuration
  | .successThreshold => settings.breaker.successThreshold

def key : Part → String
  | .role => "SERVICE_ROLE"
  | .bus => "BUS_TYPE"
  | .brokers => "KAFKA_BROKERS"
  | .organizationTopic => "ORGANIZATION_TOPIC"
  | .memberTopic => "MEMBER_TOPIC"
  | .consumerGroup => "KAFKA_CONSUMER_GROUP"
  | .host => "HOST"
  | .advertisedHost => "ADVERTISED_HOST"
  | .compositePort => "COMPOSITE_PORT"
  | .organizationPort => "ORGANIZATION_PORT"
  | .memberPort => "MEMBER_PORT"
  | .metricsPort => "METRICS_PORT"
  | .httpWorkers => "HTTP_WORKERS"
  | .organizationUrl => "ORGANIZATION_URL"
  | .memberUrl => "MEMBER_URL"
  | .organizationTimeout => "ORGANIZATION_TIMEOUT_SECS"
  | .memberTimeout => "MEMBER_TIMEOUT_SECS"
  | .readDeadline => "READ_DEADLINE_SECS"
  | .maxAttempts => "RETRY_MAX_ATTEMPTS"
  | .initialDelay => "RETRY_INITIAL_BACKOFF_MS"
  | .maxDelay => "RETRY_MAX_BACKOFF_MS"
  | .multiplier => "RETRY_MULTIPLIER"
  | .failureThreshold => "BREAKER_FAILURE_THRESHOLD"
  | .rollingWindow => "BREAKER_WINDOW_SECS"
  | .openDuration => "BREAKER_OPEN_SECS"
  | .successThreshold => "BREAKER_SUCCESS_THRESHOLD"

def port? : Part → Option Part
  | .organizationUrl => some .organizationPort
  | .memberUrl => some .memberPort
  | _ => none

/-- The keys that a part depends on: its own, and where that is silent the one of the port. -/
def keys (source : Source) (part : Part) : List String :=
  part.key :: if (source part.key).isNone then part.port?.toList.map key else []

end Part

theorem plain_alike (key default other' : String) (source other : Source)
    (same : source key = other key) (silent : source key = none → default = other') :
    plain source key default = plain other key other' := by
  unfold plain
  rw [← same]
  cases found : source key with
  | none => exact silent found
  | some text => rfl

/-- Each part of the settings depends on its keys alone. -/
theorem assembled_alike (source other : Source) (part : Part)
    (same : ∀ key ∈ part.keys source, source key = other key) :
    part.of (assembled source) = part.of (assembled other) := by
  have own : source part.key = other part.key := same _ List.mem_cons_self
  have port (silent : source part.key = none) :
      ∀ port ∈ part.port?, source port.key = other port.key := by
    intro port found
    apply same
    simp only [Part.keys, silent, Option.isNone_none, if_true]
    refine List.mem_cons_of_mem _ (List.mem_map.mpr ⟨port, ?_, rfl⟩)
    simpa using found
  cases part
  case organizationUrl =>
    refine plain_alike _ _ _ source other own fun silent => ?_
    exact congrArg localUrl (value_alike _ _ _ source other (port silent .organizationPort rfl))
  case memberUrl =>
    refine plain_alike _ _ _ source other own fun silent => ?_
    exact congrArg localUrl (value_alike _ _ _ source other (port silent .memberPort rfl))
  case brokers | organizationTopic | memberTopic | consumerGroup | host | advertisedHost =>
    exact plain_alike _ _ _ source other own fun _ => rfl
  all_goals exact value_alike _ _ _ source other own

theorem eq_of_parts (settings other : Settings)
    (same : ∀ part : Part, part.of settings = part.of other) : settings = other := by
  have backoff : settings.backoff = other.backoff := by
    have all : settings.backoff.maxAttempts = other.backoff.maxAttempts ∧
        settings.backoff.initialDelay = other.backoff.initialDelay ∧
        settings.backoff.maxDelay = other.backoff.maxDelay ∧
        settings.backoff.multiplier = other.backoff.multiplier :=
      ⟨same .maxAttempts, same .initialDelay, same .maxDelay, same .multiplier⟩
    cases ours : settings.backoff
    cases theirs : other.backoff
    simpa only [ours, theirs, Backoff.mk.injEq] using all
  have breaker : settings.breaker = other.breaker := by
    have all : settings.breaker.failureThreshold = other.breaker.failureThreshold ∧
        settings.breaker.rollingWindow = other.breaker.rollingWindow ∧
        settings.breaker.openDuration = other.breaker.openDuration ∧
        settings.breaker.successThreshold = other.breaker.successThreshold :=
      ⟨same .failureThreshold, same .rollingWindow, same .openDuration, same .successThreshold⟩
    cases ours : settings.breaker
    cases theirs : other.breaker
    simpa only [ours, theirs, BreakerPolicy.mk.injEq] using all
  cases settings
  cases other
  simp only [Settings.mk.injEq]
  exact ⟨same .role, same .bus, same .brokers, same .organizationTopic, same .memberTopic,
    same .consumerGroup, same .host, same .advertisedHost, same .compositePort,
    same .organizationPort, same .memberPort, same .metricsPort, same .httpWorkers,
    same .organizationUrl, same .memberUrl, same .organizationTimeout, same .memberTimeout,
    same .readDeadline, backoff, breaker⟩

/-- When settings are there, which fault is reported if they are not, and what they depend on.
They are there just when all rules are kept. Otherwise the first rule that is broken is
reported, under its key, whatever else may be wrong. And of two sources that are accepted,
every part that has the same keys in both is the same, so a key on which alone they differ
changes no part but those that are read from it; the parts together are all of the settings. -/
theorem read_decided_by_rules (source : Source) :
    ((∃ settings, read source = .ok settings) ↔ ∀ rule ∈ rules, rule.Kept source) ∧
    (∀ earlier rule later, rules = earlier ++ rule :: later →
      (∀ before ∈ earlier, before.Kept source) → ¬ rule.Kept source →
      ∃ fault, read source = .error fault ∧ fault.key = rule.key ∧
        rule.broken? source = some fault) ∧
    ∀ other settings settings', read source = .ok settings → read other = .ok settings' →
      (∀ part : Part, (∀ key ∈ part.keys source, source key = other key) →
        part.of settings = part.of settings') ∧
      (∀ changed, (∀ key, key ≠ changed → source key = other key) →
        ∀ part : Part, changed ∉ part.keys source → part.of settings = part.of settings') ∧
      ((∀ part : Part, part.of settings = part.of settings') → settings = settings') := by
  refine ⟨⟨?_, ?_⟩, ?_, ?_⟩
  · rintro ⟨settings, accepted⟩
    exact ((read_ok_iff source settings).mp accepted).1
  · intro kept
    exact ⟨assembled source, (read_ok_iff source _).mpr ⟨kept, rfl⟩⟩
  · intro earlier rule later order kept broken
    obtain ⟨fault, reported, own⟩ :=
      judge_broken source (assembled source) earlier later rule kept broken
    refine ⟨fault, ?_, rule.broken_key source fault own, own⟩
    rw [read_eq_judge, order, reported]
  · intro other settings settings' accepted accepted'
    obtain ⟨_, rfl⟩ := (read_ok_iff source settings).mp accepted
    obtain ⟨_, rfl⟩ := (read_ok_iff other settings').mp accepted'
    refine ⟨assembled_alike source other, ?_, eq_of_parts _ _⟩
    intro changed others part apart
    apply assembled_alike source other part
    rintro key among
    apply others
    rintro rfl
    exact apart among

def listed (texts : List (String × String)) : Source := fun key => texts.lookup key

/-- A member service without a broker between the processes and with a port that is none: of
both faults the one of the bus is reported. With a broker and a port it is accepted; a given
address is that of the settings, and the port behind it can change without changing anything
else. -/
theorem member_service_settings :
    let unconnected := listed [("SERVICE_ROLE", " Member"), ("MEMBER_PORT", "x")]
    let one := listed [("SERVICE_ROLE", "member"), ("BUS_TYPE", "kafka"),
      ("MEMBER_URL", "http://m"), ("MEMBER_PORT", "8003")]
    let two := listed [("SERVICE_ROLE", "member"), ("BUS_TYPE", "kafka"),
      ("MEMBER_URL", "http://m"), ("MEMBER_PORT", "+8004")]
    (∃ fault, read unconnected = .error fault ∧ fault.key = "BUS_TYPE") ∧
      ∃ settings settings', read one = .ok settings ∧ read two = .ok settings' ∧
        settings.memberUrl = settings'.memberUrl ∧ settings.memberPort ≠ settings'.memberPort := by
  intro unconnected one two
  constructor
  · have kept : ∀ rule ∈ [Rule.role, .bus], rule.Kept unconnected := by
      intro rule among
      have silent : ∀ rule ∈ [Rule.role, .bus], rule.broken? unconnected = none := by
        decide +kernel
      exact (rule.broken_none _).mp (silent rule among)
    have broken : ¬ Rule.connected.Kept unconnected := by
      rw [← Rule.broken_none]
      decide +kernel
    obtain ⟨fault, reported, key, _⟩ :=
      (read_decided_by_rules unconnected).2.1 _ .connected _ rfl kept broken
    exact ⟨fault, reported, key⟩
  · have accepted (source : Source) (silent : ∀ rule ∈ rules, rule.broken? source = none) :
        ∃ settings, read source = .ok settings :=
      (read_decided_by_rules source).1.mpr fun rule among =>
        (rule.broken_none source).mp (silent rule among)
    obtain ⟨settings, first⟩ := accepted one (by decide +kernel)
    obtain ⟨settings', second⟩ := accepted two (by decide +kernel)
    obtain ⟨_, moved, _⟩ := (read_decided_by_rules one).2.2 two settings settings' first second
    have others : ∀ key, key ≠ "MEMBER_PORT" → one key = two key := by
      intro key apart
      have other : (key == "MEMBER_PORT") = false := by simpa using apart
      simp [one, two, listed, List.lookup_cons, other]
    have given : "MEMBER_PORT" ∉ Part.memberUrl.keys one := by decide +kernel
    refine ⟨settings, settings', first, second, moved "MEMBER_PORT" others .memberUrl given, ?_⟩
    obtain ⟨_, rfl⟩ := (read_ok_iff one settings).mp first
    obtain ⟨_, rfl⟩ := (read_ok_iff two settings').mp second
    decide +kernel

-- Two rules are named by the same key, once for the text and once for the setting.
example : rules.map Rule.key =
    ["SERVICE_ROLE", "BUS_TYPE", "BUS_TYPE", "ORGANIZATION_PORT", "MEMBER_PORT",
      "RETRY_MAX_ATTEMPTS", "RETRY_INITIAL_BACKOFF_MS", "RETRY_MAX_BACKOFF_MS",
      "RETRY_MULTIPLIER", "BREAKER_FAILURE_THRESHOLD", "BREAKER_WINDOW_SECS",
      "BREAKER_OPEN_SECS", "BREAKER_SUCCESS_THRESHOLD", "RETRY_MAX_ATTEMPTS", "COMPOSITE_PORT",
      "METRICS_PORT", "HTTP_WORKERS", "ORGANIZATION_TIMEOUT_SECS", "MEMBER_TIMEOUT_SECS",
      "READ_DEADLINE_SECS"] := rfl

end Settings
end Roster
