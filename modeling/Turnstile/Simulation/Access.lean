import Turnstile.Store

/-!
How often a call reaches for parts of the system that all share: the tables of the store and the locks
of its events. What a transaction has staged is its own.
-/

namespace Turnstile.Simulation

def txAccesses (s : Session) : TxCall → Nat
  | .lockEvent event => if s.tx.holds event then 1 else 3
  | .registrantExists _ | .findActive _ _ | .countConfirmed _ | .waitlist _ => 1
  | .getRegistration id => if s.tx.registrations.contains id then 0 else 1
  | .insertRegistration r => if r.isActive then 1 else 0
  | .updateRegistration r => if s.tx.registrations.contains r.id then 0 else 1
  | .commit => if s.store.failOnCommit then 0 else 1
  | .updateCapacity _ _ | .insertMessage _ | .rollback | .drop => 0

def allocatorAccesses (s : Session) : AllocatorCall → Nat
  | .getEvent _ | .getRegistration _ | .listRegistrations _ => 1
  | .tx call => txAccesses s call
  | .now | .freshId | .count _ | .begin => 0

end Turnstile.Simulation
