import Turnstile.Proofs.Store.Numbering
import Mathlib.Data.Nat.PSub

/-!
What the allocator keeps true of an event: a place is held exactly while waiting, the places are 1, 2 and so
on, nobody registers twice, and no more seats are given than there are.
-/

namespace Turnstile
open scoped List

namespace Store

structure Sound (s : Store) (e : ScheduledEvent) : Prop where
  placed : ∀ r ∈ s.registrationsOf e.id, r.position.isSome ↔ r.status = .waitlisted
  numbered : (s.waiting e.id).map Registration.rank ~ (List.range' 1 (s.waiting e.id).length).map some
  single : ((s.active e.id).map Registration.registrantId).Nodup
  fits : (s.seated e.id).length ≤ e.capacity.toNat

/-- Events and registrations are stored under their own identifiers, and every event is sound. -/
structure Lawful (s : Store) : Prop where
  events_keyed : s.events.KeyedBy ScheduledEvent.id
  keyed : s.Keyed
  sound : ∀ id e, s.events.get? id = some e → s.Sound e

variable {s : Store} {e : ScheduledEvent} {event : EventId} {now : Instant} {r : Registration}

theorem mem_seated (h : s.Keyed) :
    r ∈ s.seated event ↔ s.registrations.get? r.id = some r ∧ r.eventId = event ∧ r.status = .confirmed := by
  simp [seated, mem_registrationsOf h, Registration.isConfirmed, and_assoc]

theorem mem_waiting (h : s.Keyed) :
    r ∈ s.waiting event ↔ s.registrations.get? r.id = some r ∧ r.eventId = event ∧ r.status = .waitlisted := by
  simp [waiting, mem_registrationsOf h, Registration.isWaitlisted, and_assoc]

private theorem place_eq_elim (r : Registration) : Tx.place r = r.rank.elim 0 (· + 1) := by
  unfold Registration.rank Tx.place
  cases r.position <;> rfl

private theorem rank_eq_ppred (r : Registration) : r.rank = (Tx.place r).ppred := by
  rw [place_eq_elim]
  cases r.rank <;> rfl

/-- The waitlist of a sound event is numbered from 1. -/
theorem Sound.numberedFrom (h : s.Sound e) : NumberedFrom 1 (s.queue e.id) := by
  have hp : (s.queue e.id).map Tx.place ~ (List.range' 1 (s.queue e.id).length).map (· + 1) := by
    have hr : (s.queue e.id).map Registration.rank ~ (List.range' 1 (s.queue e.id).length).map some := by
      rw [(s.queue_perm e.id).length_eq]
      exact ((s.queue_perm e.id).map _).trans h.numbered
    rw [show Tx.place = fun r => r.rank.elim 0 (· + 1) from funext place_eq_elim]
    simpa [Function.comp_def] using hr.map fun k => k.elim 0 (· + 1)
  have hplace : (s.queue e.id).map Tx.place = (List.range' 1 (s.queue e.id).length).map (· + 1) := by
    refine hp.eq_of_pairwise (fun a b _ _ => Nat.le_antisymm) (s.queue_sorted e.id) ?_
    exact List.pairwise_map.mpr ((List.pairwise_le_range' 1).imp fun h => by omega)
  have hr : (s.queue e.id).map Registration.rank = ((s.queue e.id).map Tx.place).map Nat.ppred := by
    simp [rank_eq_ppred, Function.comp_def]
  rw [NumberedFrom.iff_map_rank, hr, hplace]
  simp [Function.comp_def]

/-- A list in order that holds exactly those who wait shows that they are numbered. -/
theorem numbered_of_perm {q : List Registration} (hp : q ~ s.waiting event) (hq : NumberedFrom 1 q) :
    (s.waiting event).map Registration.rank ~ (List.range' 1 (s.waiting event).length).map some := by
  rw [← hp.length_eq, ← NumberedFrom.iff_map_rank.mp hq]
  exact (hp.map _).symm

end Store
end Turnstile
