import Turnstile.Json
import Turnstile.Registration.Status
import Turnstile.Table

/-!
Counters of what the system did. A counter appears once it was touched, be it by zero.
-/

namespace Turnstile

inductive DispatchMode where
  | inline | queued | fallback
  deriving DecidableEq, Repr

def DispatchMode.label : DispatchMode → String
  | .inline => "inline"
  | .queued => "queued"
  | .fallback => "fallback"

inductive OutcomeLabel where
  | handled | dropped | failed
  deriving DecidableEq, Repr

def OutcomeLabel.label : OutcomeLabel → String
  | .handled => "handled"
  | .dropped => "dropped"
  | .failed => "failed"

inductive Counter where
  | registrations (status : RegistrationStatus)
  | cancellations
  | promotions
  | dispatched (mode : DispatchMode)
  | enqueueFallbacks
  | processed (outcome : OutcomeLabel)
  | handlerRetries
  | handlerDurations
  | claimed
  | claimConflicts
  | published
  | publishFailed
  deriving DecidableEq, Repr

namespace Counter

def labelled (name label value : String) : String := name ++ "\x7b" ++ label ++ "=\"" ++ value ++ "\"\x7d"

def name : Counter → String
  | registrations status => labelled "waitlist_registrations_total" "status" status.name
  | cancellations => "waitlist_cancellations_total"
  | promotions => "waitlist_promotions_total"
  | dispatched mode => labelled "dispatch_events_total" "mode" mode.label
  | enqueueFallbacks => "dispatch_enqueue_fallbacks_total"
  | processed outcome => labelled "background_events_processed_total" "outcome" outcome.label
  | handlerRetries => "background_handler_retries_total"
  | handlerDurations => "background_event_duration_seconds_count"
  | claimed => "outbox_messages_claimed_total"
  | claimConflicts => "outbox_claim_conflicts_total"
  | published => "outbox_messages_published_total"
  | publishFailed => "outbox_messages_failed_total"

end Counter

abbrev Metrics := Table Counter Nat

namespace Metrics

def value (m : Metrics) (c : Counter) : Nat := (m.get? c).getD 0

def add (m : Metrics) (c : Counter) (n : Nat) : Metrics := m.insert c (m.value c + n)

/-- Values are written as decimal text. -/
def toJson (m : Metrics) : Json :=
  .object (m.entries.map fun (c, n) => (c.name, .string (toString n)))

end Metrics
end Turnstile
