import Turnstile.Proofs.Allocation.Invariant

/-!
A command that fails leaves the store as it was. One that succeeds leaves the changes it returns, and one
outbox row for each event that these changes announce.
-/

namespace Turnstile

namespace Allocate
open Session (oneSeatTwoWaiting oneSeatTwoWaiting_consistent)

/-- Commands in one transaction are atomic, whether or not their commit is made to fail. -/
theorem command_atomic {store : Store} (hl : store.Lawful) (hfree : store.locked = []) (clock : Supply Instant)
    (ids : IdSupply) (metrics : Metrics) {c : Command} (hc : c.Single) :
    ∃ reply s', (command c).on { store, clock, ids, metrics } = (some reply, s') ∧
      match reply with
      | .error _ => s'.store = store
      | .ok a => a.Applied store s'.store := by
  have hi : Session.Idle { store, clock, ids, metrics } := ⟨rfl, hfree⟩
  cases c with
  | register event registrant =>
    exact ⟨_, _, on_register hi hl event registrant, (Decision.faithful_register ..).enact⟩
  | cancel registration =>
    exact ⟨_, _, on_cancel hi hl registration, (Decision.faithful_cancel hl.keyed ..).enact⟩
  | promote event => exact ⟨_, _, on_promote hi hl event, (Decision.faithful_promote ..).enact⟩
  | confirm registration => exact ⟨_, _, on_confirm hi hl registration, (Decision.faithful_confirm ..).enact⟩
  | increaseCapacity event capacity => exact hc.elim

/-- The one in the only seat cancels while two wait: three registrations change, and a row announces each of them. -/
theorem command_atomic_vacated :
    ∃ a s', (command (.cancel ⟨IdSupply.number 1⟩)).on
        { store := oneSeatTwoWaiting.store, clock := .constant default, ids := oneSeatTwoWaiting.ids } =
        (some (.ok a), s') ∧
      a.changed.map (·.registration.id) = [⟨IdSupply.number 1⟩, ⟨IdSupply.number 3⟩, ⟨IdSupply.number 5⟩] ∧
      a.Applied oneSeatTwoWaiting.store s'.store := by
  have hchanged : (((command (.cancel ⟨IdSupply.number 1⟩)).on
      { store := oneSeatTwoWaiting.store, clock := .constant default, ids := oneSeatTwoWaiting.ids }).1.bind
        Except.toOption).map (fun a => a.changed.map (·.registration.id)) =
      some [⟨IdSupply.number 1⟩, ⟨IdSupply.number 3⟩, ⟨IdSupply.number 5⟩] := by cbv
  have hc : (Command.cancel ⟨IdSupply.number 1⟩).Single := trivial
  obtain ⟨reply, s', hon, happlied⟩ := command_atomic oneSeatTwoWaiting_consistent.lawful
    oneSeatTwoWaiting_consistent.idle.locked (.constant default) oneSeatTwoWaiting.ids .empty hc
  rw [hon] at hchanged
  cases reply with
  | error cause => cases hchanged
  | ok a => exact ⟨a, s', hon, Option.some.inj hchanged, happlied⟩

end Allocate
end Turnstile
