import Turnstile.Duration.Json
import Turnstile.Id
import Turnstile.Numeral
import Turnstile.Outbox.Settings

/-!
The settings of a worker and how they are read from environment variables. A variable that is unset, is
not UTF-8 or does not parse leaves the default in place.
-/

namespace Turnstile

inductive QueueBackend where
  | memory | postgres
  deriving DecidableEq, Repr, Inhabited

namespace QueueBackend

def name : QueueBackend → String
  | .memory => "Memory"
  | .postgres => "Postgres"

/-- Reads a backend in any letter case; the error is its message. -/
def parse (text : String) : Except String QueueBackend :=
  match text.map Char.toLower with
  | "memory" => .ok .memory
  | "postgres" => .ok .postgres
  | other => .error s!"unknown queue backend: {other}"

end QueueBackend

/-- How the background processor runs handlers. -/
structure BackgroundSettings where
  maxConcurrency : Nat := 8
  retry : RetryPolicy := {}
  shutdownGrace : Duration := .ofSeconds 10
  errorBackoff : Duration := .ofSeconds 1
  deriving Repr

structure Settings where
  host : String := "0.0.0.0"
  tcpPort : Nat := 3000
  logLevel : String := "info"
  databaseUrl : Option String := none
  queueBackend : QueueBackend := .memory
  workerId : String
  backgroundMaxConcurrency : Nat := 8
  backgroundMaxAttempts : UInt32 := 3
  backgroundRetryBaseDelay : Duration := .ofMillis 200
  backgroundRetryExponential : Bool := true
  queuePollTimeout : Duration := .ofMillis 1000
  outboxBatchSize : Nat := 50
  outboxLeaseTimeout : Duration := .ofSeconds 30
  outboxPollInterval : Duration := .ofMillis 1000
  outboxMaxAttempts : UInt32 := 5
  outboxRetryBaseDelay : Duration := .ofMillis 500
  shutdownGrace : Duration := .ofSeconds 10
  deriving Repr

/-- The variables that are set, with their bytes. -/
abbrev Environment := List (String × ByteArray)

namespace Environment

def names : List String :=
  ["HOST", "PORT", "RUST_LOG", "DATABASE_URL", "QUEUE_BACKEND", "WORKER_ID", "HOSTNAME",
   "BACKGROUND_MAX_CONCURRENCY", "BACKGROUND_MAX_ATTEMPTS", "BACKGROUND_RETRY_BASE_DELAY_MS",
   "BACKGROUND_RETRY_EXPONENTIAL", "QUEUE_POLL_TIMEOUT_MS", "OUTBOX_BATCH_SIZE",
   "OUTBOX_LEASE_TIMEOUT_SECS", "OUTBOX_POLL_INTERVAL_MS", "OUTBOX_MAX_ATTEMPTS",
   "OUTBOX_RETRY_BASE_DELAY_MS", "SHUTDOWN_GRACE_SECS"]

def text? (env : Environment) (name : String) : Option String :=
  (env.lookup name).bind String.fromUTF8?

def number? (bound : Nat) (text : String) : Option Nat :=
  (Numeral.natural? text.toList).filter fun n => n < bound

def truth? : String → Option Bool
  | "true" => some true
  | "false" => some false
  | _ => none

def number (env : Environment) (name : String) (bound default : Nat) : Nat :=
  ((env.text? name).bind (number? bound)).getD default

def uint32 (env : Environment) (name : String) (default : UInt32) : UInt32 :=
  .ofNat (env.number name UInt32.size default.toNat)

def millis (env : Environment) (name : String) (default : Duration) : Duration :=
  .ofMillis (env.number name UInt64.size default.millis)

def seconds (env : Environment) (name : String) (default : Duration) : Duration :=
  .ofSeconds (env.number name UInt64.size default.seconds)

end Environment

namespace Settings

/-- A worker is named after its host and a fresh identifier. -/
def defaultWorkerId (env : Environment) (id : Uuid) : String :=
  (env.text? "HOSTNAME").getD "worker" ++ "-" ++ id.simple

def ofEnvironment (env : Environment) (id : Uuid) : Settings :=
  let d : Settings := { workerId := defaultWorkerId env id }
  { host := (env.text? "HOST").getD d.host
    tcpPort := env.number "PORT" UInt16.size d.tcpPort
    logLevel := (env.text? "RUST_LOG").getD d.logLevel
    databaseUrl := (env.text? "DATABASE_URL").filter fun url => url ≠ ""
    queueBackend := ((env.text? "QUEUE_BACKEND").bind fun v => (QueueBackend.parse v).toOption).getD
      d.queueBackend
    workerId := (env.text? "WORKER_ID").getD d.workerId
    backgroundMaxConcurrency := env.number "BACKGROUND_MAX_CONCURRENCY" UInt64.size d.backgroundMaxConcurrency
    backgroundMaxAttempts := env.uint32 "BACKGROUND_MAX_ATTEMPTS" d.backgroundMaxAttempts
    backgroundRetryBaseDelay := env.millis "BACKGROUND_RETRY_BASE_DELAY_MS" d.backgroundRetryBaseDelay
    backgroundRetryExponential := ((env.text? "BACKGROUND_RETRY_EXPONENTIAL").bind Environment.truth?).getD
      d.backgroundRetryExponential
    queuePollTimeout := env.millis "QUEUE_POLL_TIMEOUT_MS" d.queuePollTimeout
    outboxBatchSize := env.number "OUTBOX_BATCH_SIZE" UInt64.size d.outboxBatchSize
    outboxLeaseTimeout := env.seconds "OUTBOX_LEASE_TIMEOUT_SECS" d.outboxLeaseTimeout
    outboxPollInterval := env.millis "OUTBOX_POLL_INTERVAL_MS" d.outboxPollInterval
    outboxMaxAttempts := env.uint32 "OUTBOX_MAX_ATTEMPTS" d.outboxMaxAttempts
    outboxRetryBaseDelay := env.millis "OUTBOX_RETRY_BASE_DELAY_MS" d.outboxRetryBaseDelay
    shutdownGrace := env.seconds "SHUTDOWN_GRACE_SECS" d.shutdownGrace }

def address (s : Settings) : String := s!"{s.host}:{s.tcpPort}"

def background (s : Settings) : BackgroundSettings :=
  { maxConcurrency := s.backgroundMaxConcurrency
    retry := { maxAttempts := s.backgroundMaxAttempts, baseDelay := s.backgroundRetryBaseDelay,
               exponential := s.backgroundRetryExponential }
    shutdownGrace := s.shutdownGrace }

def outbox (s : Settings) : OutboxSettings :=
  { workerId := s.workerId, batchSize := s.outboxBatchSize, leaseTimeout := s.outboxLeaseTimeout,
    pollInterval := s.outboxPollInterval, maxAttempts := s.outboxMaxAttempts,
    retryBaseDelay := s.outboxRetryBaseDelay }

def toJson (s : Settings) : Json :=
  let b := s.background
  let o := s.outbox
  .object [("host", .string s.host), ("port", .nat s.tcpPort), ("addr", .string s.address),
    ("log_level", .string s.logLevel), ("database_url", .option .string s.databaseUrl),
    ("queue_backend", .string s.queueBackend.name), ("worker_id", .string s.workerId),
    ("poll_timeout", s.queuePollTimeout.toJson),
    ("processor", .object [("max_concurrency", .nat b.maxConcurrency),
      ("max_attempts", .nat b.retry.maxAttempts.toNat), ("base_delay", b.retry.baseDelay.toJson),
      ("exponential", .bool b.retry.exponential), ("max_delay", b.retry.maxDelay.toJson),
      ("shutdown_grace", b.shutdownGrace.toJson), ("error_backoff", b.errorBackoff.toJson)]),
    ("outbox", .object [("worker_id", .string o.workerId), ("batch_size", .nat o.batchSize),
      ("lease_timeout", o.leaseTimeout.toJson), ("poll_interval", o.pollInterval.toJson),
      ("max_attempts", .nat o.maxAttempts.toNat), ("retry_base_delay", o.retryBaseDelay.toJson)])]

end Settings
end Turnstile
