import Turnstile.Instant
import Turnstile.Retry
import Turnstile.Store.Error

/-!
How an outbox worker claims rows and repeats publishes. A failed publish waits twice as long each time;
a claim older than the lease may be taken over.
-/

namespace Turnstile

structure OutboxSettings where
  workerId : String := "outbox-worker"
  batchSize : Nat := 50
  leaseTimeout : Duration := .ofSeconds 30
  pollInterval : Duration := .ofSeconds 1
  maxAttempts : UInt32 := 5
  retryBaseDelay : Duration := .ofMillis 500
  deriving Repr

namespace OutboxSettings

/-- When a row that has failed `attempts` times may be tried again. -/
def nextAttemptAt (s : OutboxSettings) (attempts : UInt32) (now : Instant) : Instant :=
  now.after (s.retryBaseDelay.scale (backoffFactor attempts))

/-- Claims made before this time have outlived the lease. -/
def leaseCutoff (s : OutboxSettings) (now : Instant) : Instant := now.before s.leaseTimeout

end OutboxSettings

inductive OutboxError where
  | config (reason : String)
  | store (cause : StoreError)
  deriving DecidableEq, Repr

def OutboxError.message : OutboxError → String
  | .config reason => s!"Invalid configuration: {reason}"
  | .store cause => s!"Store error: {cause.message}"

/-- A worker needs room for one row and for one attempt. -/
def OutboxSettings.check (s : OutboxSettings) : Except OutboxError Unit :=
  if s.batchSize = 0 then .error (.config "batch_size must be at least 1")
  else if s.maxAttempts = 0 then .error (.config "max_attempts must be at least 1")
  else .ok ()

end Turnstile
