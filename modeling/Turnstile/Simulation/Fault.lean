import Turnstile.Outbox.Call
import Turnstile.Store.Call

/-!
Faults that a simulated store can be armed with: in place of one call of a given kind it gives an error,
or the answer of a store that holds nothing.
-/

namespace Turnstile.Simulation

/-- The calls of a store that can be made to fail. -/
inductive StoreCall where
  | getEvent | getRegistration | listRegistrations | begin
  | lockEvent | registrantExists | findActive | getInTransaction | countConfirmed | waitlist
  | insertRegistration | updateRegistration | updateCapacity | insertMessage | commit | rollback
  | claimable | tryClaim | markProcessed | markRetry | markFailed | countByStatus
  deriving DecidableEq, Repr

namespace StoreCall

def name : StoreCall → String
  | .getEvent => "get_event"
  | .getRegistration => "get_registration"
  | .listRegistrations => "list_registrations"
  | .begin => "begin"
  | .lockEvent => "tx.lock_event"
  | .registrantExists => "tx.registrant_exists"
  | .findActive => "tx.find_active_registration"
  | .getInTransaction => "tx.get_registration"
  | .countConfirmed => "tx.count_confirmed"
  | .waitlist => "tx.waitlist"
  | .insertRegistration => "tx.insert_registration"
  | .updateRegistration => "tx.update_registration"
  | .updateCapacity => "tx.update_capacity"
  | .insertMessage => "tx.insert_outbox_message"
  | .commit => "tx.commit"
  | .rollback => "tx.rollback"
  | .claimable => "claimable"
  | .tryClaim => "try_claim"
  | .markProcessed => "mark_processed"
  | .markRetry => "mark_retry"
  | .markFailed => "mark_failed"
  | .countByStatus => "count_by_status"

def all : List StoreCall :=
  [.getEvent, .getRegistration, .listRegistrations, .begin, .lockEvent, .registrantExists, .findActive,
   .getInTransaction, .countConfirmed, .waitlist, .insertRegistration, .updateRegistration,
   .updateCapacity, .insertMessage, .commit, .rollback, .claimable, .tryClaim, .markProcessed,
   .markRetry, .markFailed, .countByStatus]

def ofName? (text : String) : Option StoreCall := all.find? fun c => c.name = text

def ofTx? : TxCall → Option StoreCall
  | .lockEvent _ => some .lockEvent
  | .registrantExists _ => some .registrantExists
  | .findActive _ _ => some .findActive
  | .getRegistration _ => some .getInTransaction
  | .countConfirmed _ => some .countConfirmed
  | .waitlist _ => some .waitlist
  | .insertRegistration _ => some .insertRegistration
  | .updateRegistration _ => some .updateRegistration
  | .updateCapacity _ _ => some .updateCapacity
  | .insertMessage _ => some .insertMessage
  | .commit => some .commit
  | .rollback => some .rollback
  | .drop => none

def ofAllocator? : AllocatorCall → Option StoreCall
  | .getEvent _ => some .getEvent
  | .getRegistration _ => some .getRegistration
  | .listRegistrations _ => some .listRegistrations
  | .begin => some .begin
  | .tx call => ofTx? call
  | .now | .freshId | .count _ => none

def ofOutbox? : OutboxCall → Option StoreCall
  | .claimable _ _ _ => some .claimable
  | .tryClaim _ _ _ _ => some .tryClaim
  | .markProcessed _ _ _ => some .markProcessed
  | .markRetry _ _ _ _ _ => some .markRetry
  | .markFailed _ _ _ _ => some .markFailed
  | .now | .count _ _ | .publish _ _ => none

end StoreCall

inductive FaultAct where
  | unavailable | corrupt | duplicate | nothing
  deriving DecidableEq, Repr

namespace FaultAct

def ofName? : String → Option FaultAct
  | "unavailable" => some .unavailable
  | "corrupt" => some .corrupt
  | "duplicate" => some .duplicate
  | "nothing" => some .nothing
  | _ => none

/-- The error in place of a call, unless the fault is to find nothing. -/
def error? (call : StoreCall) : FaultAct → Option StoreError
  | .unavailable => some (.unavailable s!"injected {call.name}")
  | .corrupt => some (.corrupt s!"injected {call.name}")
  | .duplicate => some (.duplicateActive ⟨⟨0, 14⟩⟩ ⟨⟨0, 15⟩⟩)
  | .nothing => none

end FaultAct

/-- A fault lets some calls pass before it strikes once. -/
structure Fault where
  call : StoreCall
  act : FaultAct
  skip : Nat
  deriving Repr

namespace Fault

/-- Lets the oldest fault for a call strike, or counts the call as passed. -/
def strike (call : StoreCall) : List Fault → Option FaultAct × List Fault
  | [] => (none, [])
  | f :: rest =>
    if f.call = call then
      match f.skip with
      | 0 => (some f.act, rest)
      | n + 1 => (none, { f with skip := n } :: rest)
    else
      let (struck, rest) := strike call rest
      (struck, f :: rest)

end Fault

/-- The reply of a store that fails or holds nothing; `none` if the call goes through all the same. -/
def faultyTx (e? : Option StoreError) : (c : TxCall) → Option c.Reply
  | .lockEvent _ => some (e?.elim (.ok none) .error)
  | .registrantExists _ => some (e?.elim (.ok false) .error)
  | .findActive _ _ | .getRegistration _ => some (e?.elim (.ok none) .error)
  | .waitlist _ => some (e?.elim (.ok []) .error)
  | .countConfirmed _ => e?.map .error
  | .insertRegistration _ | .updateRegistration _ | .updateCapacity _ _ | .insertMessage _ => e?.map .error
  | .commit | .rollback => e?.map .error
  | .drop => none

def faultyAllocator (e? : Option StoreError) : (c : AllocatorCall) → Option c.Reply
  | .getEvent _ => some (e?.elim (.ok none) .error)
  | .getRegistration _ => some (e?.elim (.ok none) .error)
  | .listRegistrations _ => e?.map .error
  | .begin => e?.map .error
  | .tx call => faultyTx e? call
  | .now | .freshId | .count _ => none

def faultyOutbox (e? : Option StoreError) : (c : OutboxCall) → Option c.Reply
  | .claimable _ _ _ => e?.map .error
  | .tryClaim _ _ _ _ => some (e?.elim (.ok false) .error)
  | .markProcessed _ _ _ | .markRetry _ _ _ _ _ | .markFailed _ _ _ _ => e?.map .error
  | .now | .count _ _ | .publish _ _ => none

end Turnstile.Simulation
