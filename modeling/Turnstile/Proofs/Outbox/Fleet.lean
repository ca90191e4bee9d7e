import Turnstile.Outbox.Batch
import Turnstile.Proofs.Outbox.Rows
import Mathlib.Logic.Function.Basic

/-!
Outbox workers side by side on one store, with one clock, and a bus that takes or refuses what it likes. Any
worker may make its next call at any time, or never again.
-/

namespace Turnstile

/-- What becomes of a row. -/
inductive Deed where
  | claimed | processed | retried (next : Instant) | failed
  deriving DecidableEq

/-- What a call is to do, and to which row. -/
def OutboxCall.deed? : OutboxCall → Option (MessageId × Deed)
  | .tryClaim m _ _ _ => some (m, .claimed)
  | .markProcessed m _ _ => some (m, .processed)
  | .markRetry m _ _ _ next => some (m, .retried next)
  | .markFailed m _ _ _ => some (m, .failed)
  | .now | .count _ _ | .claimable _ _ _ | .publish _ _ => none

/-- Whether the due rows are listed. -/
def OutboxCall.lists : OutboxCall → Bool
  | .claimable _ _ _ => true
  | .now | .count _ _ | .publish _ _ | .tryClaim _ _ _ _ | .markProcessed _ _ _ | .markRetry _ _ _ _ _ |
    .markFailed _ _ _ _ => false

/-- A call as it was made: by whom, at what time and with what reply. -/
structure Exchange (ι : Type) where
  worker : ι
  time : Instant
  call : OutboxCall
  reply : call.Reply

namespace Exchange
variable {ι : Type}

/-- What was handed to the bus, and under which topic. -/
def offer? (e : Exchange ι) : Option (String × OutboxMessage) :=
  match e.call with
  | .publish topic m => some (topic, m)
  | _ => none

def offers (e : Exchange ι) (id : MessageId) : Bool := e.offer?.any fun o => o.2.id = id

/-- What the bus took. -/
def accepted? : Exchange ι → Option (String × OutboxMessage)
  | ⟨_, _, .publish topic m, .ok ()⟩ => some (topic, m)
  | _ => none

def accepts (e : Exchange ι) (id : MessageId) : Bool := e.accepted?.any fun o => o.2.id = id

/-- The result of a publish was to be written down, whether or not the row was still the worker's. -/
def settles (e : Exchange ι) (id : MessageId) : Bool := e.call.settled?.any fun s => s.1 = id

/-- Whether the store said that it changed a row. -/
def granted : Exchange ι → Bool
  | ⟨_, _, .tryClaim _ _ _ _, .ok b⟩ => b
  | ⟨_, _, .markProcessed _ _ _, .ok b⟩ => b
  | ⟨_, _, .markRetry _ _ _ _ _, .ok b⟩ => b
  | ⟨_, _, .markFailed _ _ _ _, .ok b⟩ => b
  | _ => false

/-- What was done, and to which row. -/
def deed? (e : Exchange ι) : Option (MessageId × Deed) := if e.granted then e.call.deed? else none

def claims (e : Exchange ι) (id : MessageId) : Bool := e.deed? = some (id, .claimed)

def processes (e : Exchange ι) (id : MessageId) : Bool := e.deed? = some (id, .processed)

def fails (e : Exchange ι) (id : MessageId) : Bool := e.deed? = some (id, .failed)

/-- A row was sent back to wait. -/
def retries (e : Exchange ι) (id : MessageId) : Bool :=
  match e.deed? with
  | some (m, .retried _) => m = id
  | _ => false

/-- A row came to its end. -/
def finishes (e : Exchange ι) (id : MessageId) : Bool := e.processes id || e.fails id

/-- A failed publish was written down. -/
def recordsFailure (e : Exchange ι) (id : MessageId) : Bool := e.retries id || e.fails id

end Exchange

/-- What a worker is told by the store, the clock and the bus. -/
def Store.reply (s : Store) (now : Instant) (bus : Except BusError Unit) : (c : OutboxCall) → c.Reply
  | .now => now
  | .count _ _ => ()
  | .claimable limit now cutoff => .ok (s.claimable limit now cutoff)
  | .publish _ _ => bus
  | .tryClaim m worker now cutoff => .ok (s.tryClaim m worker now cutoff).1
  | .markProcessed m worker now => .ok (s.markProcessed m worker now).1
  | .markRetry m worker attempts error next => .ok (s.markRetry m worker attempts error next).1
  | .markFailed m worker attempts error => .ok (s.markFailed m worker attempts error).1

/-- The entry of the log for a call. -/
def Store.exchange {ι : Type} (s : Store) (i : ι) (now : Instant) (bus : Except BusError Unit) (c : OutboxCall) :
    Exchange ι :=
  ⟨i, now, c, s.reply now bus c⟩

/-- What is left of a batch: first one program that claims rows, then one for each topic. -/
inductive Batch where
  | claiming (rest : Program OutboxCall.Reply (Stored (List OutboxMessage × Nat)))
  | publishing (topics : List (Program OutboxCall.Reply (Stored (List Settlement))))

namespace Batch

/-- Between two batches nothing is left to do. -/
def idle : Batch := publishing []

def ended {α : Type} : Program OutboxCall.Reply α → Bool
  | .done _ => true
  | .ask _ _ => false

/-- The next call, while rows are published that of topic `k`, and how the batch goes on after the reply. -/
def next? : Batch → (k : Nat) → Option ((c : OutboxCall) × (c.Reply → Batch))
  | claiming (.ask c next), _ => some ⟨c, fun r => claiming (next r)⟩
  | claiming (.done _), _ => none
  | publishing topics, k =>
    match topics[k]? with
    | some (.ask c next) => some ⟨c, fun r => publishing (topics.set k (next r))⟩
    | _ => none

/-- After the claims come the topics, and after all topics the next batch. -/
def proceed (s : OutboxSettings) : Batch → Batch
  | claiming (.done (.ok (claimed, _))) => publishing (Deliver.publishing s claimed)
  | claiming (.done (.error _)) => idle
  | claiming (.ask c next) => claiming (.ask c next)
  | publishing topics => if topics.all ended then claiming (Deliver.claimDue s).run else publishing topics

end Batch

/-- Workers at their batches, and all calls that they have made so far. -/
structure Fleet (ι : Type) where
  settings : ι → OutboxSettings
  store : Store
  clock : Instant
  batches : ι → Batch := fun _ => .idle
  log : List (Exchange ι) := []

/-- What can happen next. The bus's mind matters to a publish only. -/
inductive Act (ι : Type) where
  | tick (clock : Instant)
  | proceed (worker : ι)
  | call (worker : ι) (topic : Nat) (bus : Except BusError Unit)

namespace Fleet
variable {ι : Type} [DecidableEq ι]

/-- Time never goes back. -/
def step (f : Fleet ι) : Act ι → Fleet ι
  | .tick clock => if f.clock ≤ clock then { f with clock } else f
  | .proceed i => { f with batches := Function.update f.batches i ((f.batches i).proceed (f.settings i)) }
  | .call i k bus =>
    match (f.batches i).next? k with
    | some ⟨c, next⟩ =>
      { f with
        store := f.store.deliver c
        batches := Function.update f.batches i (next (f.store.reply f.clock bus c))
        log := f.log ++ [f.store.exchange i f.clock bus c] }
    | none => f

def run (f : Fleet ι) (acts : List (Act ι)) : Fleet ι := acts.foldl step f

end Fleet

end Turnstile
