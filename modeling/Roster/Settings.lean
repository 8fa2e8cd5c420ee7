import Roster.Backoff
import Roster.Breaker
import Roster.Text.Quoted

/-!
The settings of a process, read from named texts. Every name has a default;
texts that have to parse are trimmed first. The first name whose text does not
fit is reported, in the order in which `Settings.read` asks for them.
-/

namespace Roster

open Text (NumeralFault)
open Number (Double)

inductive Role where
  | standalone
  | composite
  | organization
  | member
deriving DecidableEq, Repr

def Role.name : Role → String
  | .standalone => "standalone"
  | .composite => "composite"
  | .organization => "organization"
  | .member => "member"

inductive BusKind where
  | inMemory
  | direct
  | kafka
deriving DecidableEq, Repr

structure SettingFault where
  key : String
  value : String
  reason : String
deriving DecidableEq, Repr

def SettingFault.message (fault : SettingFault) : String :=
  fault.key ++ " has invalid value " ++ Text.quoted fault.value ++ ": " ++ fault.reason

structure Settings where
  role : Role
  bus : BusKind
  brokers : String
  organizationTopic : String
  memberTopic : String
  consumerGroup : String
  host : String
  advertisedHost : String
  compositePort : Nat
  organizationPort : Nat
  memberPort : Nat
  metricsPort : Nat
  httpWorkers : Nat
  organizationUrl : String
  memberUrl : String
  /-- In milliseconds, as all durations. -/
  organizationTimeout : Nat
  memberTimeout : Nat
  readDeadline : Nat
  backoff : Backoff
  breaker : BreakerPolicy
deriving Repr

namespace Settings

abbrev Source := String → Option String

/-- How one setting is read from its trimmed text; a failure gives the reason. -/
abbrev Reader (α : Type) := List Char → Except String α

def word (text : List Char) : String := String.ofList (text.map Char.toLower)

def readRole : Reader Role := fun text =>
  match word text with
  | "standalone" => .ok .standalone
  | "composite" => .ok .composite
  | "organization" => .ok .organization
  | "member" => .ok .member
  | _ => .error "expected standalone, composite, organization or member"

def readBus : Reader BusKind := fun text =>
  match word text with
  | "inmemory" => .ok .inMemory
  | "direct" => .ok .direct
  | "kafka" => .ok .kafka
  | _ => .error "expected inmemory, direct or kafka"

def readBits (bits : Nat) : Reader Nat := fun text =>
  (Text.readNatural (Nat.pow 2 bits - 1) text).mapError NumeralFault.message

def readPort : Reader Nat := readBits 16
def readCount : Reader Nat := readBits 32
def readWide : Reader Nat := readBits 64

def readSeconds : Reader Nat := fun text => (readWide text).map (· * 1000)

def readDouble : Reader Double := fun text =>
  (Double.read text).mapError Number.DecimalFault.message

def parse {α : Type} (source : Source) (key : String) (reader : Reader α) (default : α) :
    Except SettingFault α :=
  match source key with
  | none => .ok default
  | some value =>
    (reader (Text.trimChars value.toList)).mapError fun reason => { key, value, reason }

def plain (source : Source) (key default : String) : String := (source key).getD default

def localUrl (port : Nat) : String := s!"http://localhost:{port}"

/-- Separate processes share no memory, so only a broker can connect them. -/
def checkBus (source : Source) (role : Role) (bus : BusKind) : Except SettingFault Unit :=
  if role ≠ .standalone ∧ bus ≠ .kafka then
    .error {
      key := "BUS_TYPE"
      value := plain source "BUS_TYPE" "inmemory"
      reason := "only kafka can carry events between separate processes" }
  else .ok ()

def checkAttempts (attempts : Nat) : Except SettingFault Unit :=
  if attempts = 0 then
    .error {
      key := "RETRY_MAX_ATTEMPTS"
      value := "0"
      reason := "at least one attempt is required" }
  else .ok ()

def read (source : Source) : Except SettingFault Settings := do
  let role ← parse source "SERVICE_ROLE" readRole .standalone
  let bus ← parse source "BUS_TYPE" readBus .inMemory
  checkBus source role bus
  let organizationPort ← parse source "ORGANIZATION_PORT" readPort 7002
  let memberPort ← parse source "MEMBER_PORT" readPort 7003
  let maxAttempts ← parse source "RETRY_MAX_ATTEMPTS" readCount 3
  let initialDelay ← parse source "RETRY_INITIAL_BACKOFF_MS" readWide 500
  let maxDelay ← parse source "RETRY_MAX_BACKOFF_MS" readWide 2000
  let multiplier ← parse source "RETRY_MULTIPLIER" readDouble (Double.ofNat 2)
  let failureThreshold ← parse source "BREAKER_FAILURE_THRESHOLD" readCount 5
  let rollingWindow ← parse source "BREAKER_WINDOW_SECS" readSeconds 30000
  let openDuration ← parse source "BREAKER_OPEN_SECS" readSeconds 10000
  let successThreshold ← parse source "BREAKER_SUCCESS_THRESHOLD" readCount 1
  checkAttempts maxAttempts
  let compositePort ← parse source "COMPOSITE_PORT" readPort 7000
  let metricsPort ← parse source "METRICS_PORT" readPort 9090
  let httpWorkers ← parse source "HTTP_WORKERS" readWide 2
  let organizationTimeout ← parse source "ORGANIZATION_TIMEOUT_SECS" readSeconds 2000
  let memberTimeout ← parse source "MEMBER_TIMEOUT_SECS" readSeconds 2000
  let readDeadline ← parse source "READ_DEADLINE_SECS" readSeconds 5000
  return {
    role, bus
    brokers := plain source "KAFKA_BROKERS" "localhost:9092"
    organizationTopic := plain source "ORGANIZATION_TOPIC" "organizations"
    memberTopic := plain source "MEMBER_TOPIC" "members"
    consumerGroup := plain source "KAFKA_CONSUMER_GROUP" "university-composite"
    host := plain source "HOST" "0.0.0.0"
    advertisedHost := plain source "ADVERTISED_HOST" "localhost"
    compositePort, organizationPort, memberPort, metricsPort, httpWorkers
    organizationUrl := plain source "ORGANIZATION_URL" (localUrl organizationPort)
    memberUrl := plain source "MEMBER_URL" (localUrl memberPort)
    organizationTimeout, memberTimeout, readDeadline
    backoff := { maxAttempts, initialDelay, maxDelay, multiplier }
    breaker := { failureThreshold, rollingWindow, openDuration, successThreshold } }

def address (settings : Settings) (port : Nat) : String :=
  settings.advertisedHost ++ ":" ++ toString port

end Settings
end Roster
