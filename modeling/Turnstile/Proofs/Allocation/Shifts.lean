import Turnstile.Proofs.Allocation.Steps
import Turnstile.Proofs.Store.Moves

/-! Moving up those who wait, on what the transaction has left of the waitlist. -/

namespace Turnstile
open scoped List

/-- One registration changes its state and those behind move up. -/
def Tracked.ahead (t : Tracked) (behind : List Registration) (now : Instant) : List Tracked :=
  t :: behind.map fun r => .movedUpAt r now

/-- The first who waits is seated and the others move up. -/
def Tracked.advance (now : Instant) : List Registration → List Tracked
  | [] => []
  | r :: behind => (seatedAt r now).ahead behind now

theorem Tracked.map_registration_ahead (t : Tracked) (behind : List Registration) (now : Instant) :
    (t.ahead behind now).map Tracked.registration = Store.departure t.registration behind now := by
  simp [ahead, Store.departure, Function.comp_def]

/-- Of those who move up nothing is announced. -/
theorem announced_ahead (t : Tracked) (behind : List Registration) (now : Instant) :
    announced (t.ahead behind now) = t.pending.filter RegistrationEvent.isIntegration := by
  have hmoved : ((behind.map fun r => Tracked.movedUpAt r now).flatMap Tracked.pending).filter
      RegistrationEvent.isIntegration = [] := by
    refine List.filter_eq_nil_iff.mpr fun e he => ?_
    obtain ⟨t, ht, he⟩ := List.mem_flatMap.mp he
    obtain ⟨r, -, rfl⟩ := List.mem_map.mp ht
    obtain rfl := List.mem_singleton.mp he
    simp [RegistrationEvent.isIntegration]
  rw [announced, Tracked.ahead, List.flatMap_cons, List.filter_append, hmoved, List.append_nil]

namespace Tx
variable {s : Store} {event : EventId} {r r' : Registration} {rs pre post : List Registration}

theorem writes_append (tx : Tx) (rs' : List Registration) : tx.writes (rs ++ rs') = (tx.writes rs).writes rs' := by
  simp [writes]

theorem writes_keyed {tx : Tx} (h : tx.registrations.KeyedBy Registration.id) (rs : List Registration) :
    (tx.writes rs).registrations.KeyedBy Registration.id := by
  induction rs generalizing tx with
  | nil => exact h
  | cons r rs ih => exact ih (h.insert r)

/-- The store as a transaction sees it that has written some rows. -/
theorem apply_wrote (s : Store) (rs : List Registration) : s.apply (({} : Tx).writes rs) = s.puts rs := by
  rw [Store.apply_writes, Store.apply_empty]

/-- Writing over a registration keeps it in its event. -/
theorem keepsEvents_single (hr : s.registrations.get? r.id = some r) (hid : r'.id = r.id)
    (he : r'.eventId = r.eventId) : (({} : Tx).writes [r']).KeepsEvents s := by
  intro id x old hx hold
  have hx' : (Table.empty.insert r'.id r').get? id = some x := hx
  rw [Table.get?_insert] at hx'
  split at hx'
  · next h =>
    obtain rfl := Option.some.inj hx'
    rw [h, hid, hr] at hold
    rw [← Option.some.inj hold, he]
  · simp at hx'

section
variable (hk : s.Keyed) (hr : s.registrations.get? r.id = some r) (hid : r'.id = r.id)
  (he : r'.eventId = r.eventId)
include hk hr hid he

theorem waitlist_wrote {q : List Registration} (hp : (s.puts [r']).waiting event ~ q)
    (hq : q.Pairwise fun a b => place a < place b) : (({} : Tx).writes [r']).waitlist s event = q :=
  Store.waitlist_overlay hk (writes_keyed Table.KeyedBy.empty [r']) (keepsEvents_single hr hid he)
    (by rw [apply_wrote]; exact hp.symm) hq

theorem countConfirmed_wrote (hlt : ((s.puts [r']).seated event).length < UInt32.size) :
    (({} : Tx).writes [r']).countConfirmed s event = .ok (.ofNat ((s.puts [r']).seated event).length) := by
  have h := Store.countConfirmed_overlay hk (writes_keyed Table.KeyedBy.empty [r'])
    (keepsEvents_single hr hid he) event
  rw [apply_wrote] at h
  exact h hlt

end

theorem keepsEvents_empty (s : Store) : ({} : Tx).KeepsEvents s := by
  intro id r old h
  simp at h

theorem waitlist_empty (hk : s.Keyed) {n : Nat} (hn : NumberedFrom n (s.queue event)) :
    ({} : Tx).waitlist s event = s.queue event :=
  Store.waitlist_overlay hk Table.KeyedBy.empty (keepsEvents_empty s)
    (by rw [Store.apply_empty]; exact s.queue_perm event) hn.pairwise

theorem countConfirmed_empty (hk : s.Keyed) (hlt : (s.seated event).length < UInt32.size) :
    ({} : Tx).countConfirmed s event = .ok (.ofNat (s.seated event).length) := by
  have h := Store.countConfirmed_overlay hk Table.KeyedBy.empty (keepsEvents_empty s) event
  rw [Store.apply_empty] at h
  exact h hlt

theorem waitlist_left (hk : s.Keyed) (hq : s.queue event = pre ++ r :: post)
    (hn : NumberedFrom 1 (pre ++ r :: post)) (hl : r'.Left r) :
    (({} : Tx).writes [r']).waitlist s event = pre ++ post := by
  have hm : r ∈ s.waiting event := by
    rw [← Store.mem_queue, hq]
    simp
  have hr := ((Store.mem_waiting hk).mp hm).1
  have hw := Store.waiting_departure hk (show _ = pre ++ r :: ([] ++ post) from hq) hl default
  refine waitlist_wrote hk hr hl.id hl.eventId hw (hn.pairwise.sublist ?_)
  exact (List.sublist_cons_self r post).append_left pre

section
variable {e : ScheduledEvent} (h : s.Sound e) (hk : s.Keyed) (hr : r ∈ s.seated e.id) (now : Instant)
include h hk hr

theorem waitlist_vacated : (({} : Tx).writes [r.cancelledAt now]).waitlist s e.id = s.queue e.id := by
  have hw := (Store.waiting_vacate hk hr now).trans (s.queue_perm e.id).symm
  have hid : (r.cancelledAt now).id = r.id := rfl
  exact waitlist_wrote hk ((Store.mem_seated hk).mp hr).1 hid rfl hw h.numberedFrom.pairwise

theorem countConfirmed_vacated :
    ∃ n : UInt32, (({} : Tx).writes [r.cancelledAt now]).countConfirmed s e.id = .ok n ∧ n < e.capacity := by
  have hlen := (Store.seated_vacate hk hr now).length_eq
  have hfits := h.fits
  have hcap := e.capacity.toNat_lt_size
  rw [List.length_cons] at hlen
  have hlt : ((s.puts [r.cancelledAt now]).seated e.id).length < UInt32.size := by
    rw [Store.puts_cons, Store.puts_nil]
    omega
  have hid : (r.cancelledAt now).id = r.id := rfl
  refine ⟨_, countConfirmed_wrote hk ((Store.mem_seated hk).mp hr).1 hid rfl hlt, ?_⟩
  rw [UInt32.lt_iff_toNat_lt, UInt32.toNat_ofNat_of_lt' hlt, Store.puts_cons, Store.puts_nil]
  omega

end

theorem registrationsOf_empty (s : Store) (event : EventId) :
    ({} : Tx).registrationsOf s event = s.registrationsOf event := by
  simp [registrationsOf]

end Tx

namespace Allocate
variable {s : Session} {event : EventId} {now : Instant} {rows q pre post : List Registration}

theorem on_updateRow (event : EventId) (rows : List Registration) (r : Registration)
    (h : (s.store.registrations.get? r.id).isSome) :
    (Tx.updateRegistration r).on (s.inside event (({} : Turnstile.Tx).writes rows)) =
      (some (.ok ()), s.inside event (({} : Turnstile.Tx).writes (rows ++ [r]))) := by
  rw [Tx.writes_append]
  refine on_updateRegistration ?_
  rw [Tx.apply_wrote]
  exact Store.get?_puts_isSome h

theorem on_shiftUp {n : Nat} (hn : NumberedFrom n post) (hlt : 1 < n)
    (hw : ∀ r ∈ post, r.status = .waitlisted ∧ (s.store.registrations.get? r.id).isSome) :
    (shiftUp now post).on (s.inside event (({} : Turnstile.Tx).writes rows)) =
      (some (.ok (post.map fun r => .movedUpAt r now)),
        s.inside event (({} : Turnstile.Tx).writes (rows ++ post.map fun r => r.movedUpAt now))) := by
  induction post generalizing n rows with
  | nil => simp [shiftUp]
  | cons r post ih =>
    obtain ⟨hr, hpost⟩ := List.forall_mem_cons.mp hw
    obtain ⟨p, hp, hpn⟩ := Option.map_eq_some_iff.mp hn.1
    have hlt' : 1 < p := UInt32.lt_iff_toNat_lt.mpr (by simpa [hpn] using hlt)
    rw [shiftUp, on_bind_ok (on_checked_ok (Tracked.moveUp_of_waiting hr.1 hp hlt' now) _)]
    refine (on_bind_ok (on_updateRow event rows (r.movedUpAt now) hr.2) _).trans ?_
    refine (on_bind_ok (ih hn.2 (by omega) hpost) _).trans ?_
    simp

theorem on_promoteHead (now : Instant) {tx : Turnstile.Tx} (htx : tx = ({} : Turnstile.Tx).writes rows)
    (hread : tx.waitlist s.store event = q) (hn : NumberedFrom 1 q)
    (hw : ∀ r ∈ q, r.status = .waitlisted ∧ (s.store.registrations.get? r.id).isSome) :
    (promoteHead event now).on (s.inside event tx) =
      (some (.ok (Tracked.advance now q)),
        s.inside event (tx.writes ((Tracked.advance now q).map Tracked.registration))) := by
  subst htx
  refine (on_bind_ok on_waitlist _).trans ?_
  rw [hread]
  cases q with
  | nil => rfl
  | cons r post =>
    obtain ⟨hr, hpost⟩ := List.forall_mem_cons.mp hw
    obtain ⟨p, hp, -⟩ := Option.map_eq_some_iff.mp hn.1
    refine (on_bind_ok (on_checked_ok (Tracked.promote_of_waiting hr.1 hp now) _) _).trans ?_
    refine (on_bind_ok (on_updateRow event rows (r.seatedAt now) hr.2) _).trans ?_
    refine (on_bind_ok (on_shiftUp hn.2 (by omega) hpost) _).trans ?_
    rw [Tracked.advance, Tracked.map_registration_ahead, ← Tx.writes_append]
    simp [Tracked.ahead, Store.departure]

theorem filter_behind {n : Nat} {p : UInt32} (hpre : NumberedFrom n pre)
    (hp : p.toNat = n + pre.length) (hpost : NumberedFrom (p.toNat + 1) post) :
    (pre ++ post).filter (fun r => r.position.any fun q => p < q) = post := by
  have hbefore : pre.filter (fun r => r.position.any fun q => p < q) = [] := by
    refine List.filter_eq_nil_iff.mpr fun r hr => ?_
    obtain ⟨k, hk, -, hu⟩ := hpre.rank_bounds hr
    obtain ⟨q, hq, rfl⟩ := Option.map_eq_some_iff.mp hk
    simp only [hq, Option.any_some, decide_eq_true_eq, UInt32.lt_iff_toNat_lt]
    omega
  have hbehind : post.filter (fun r => r.position.any fun q => p < q) = post := by
    refine List.filter_eq_self.mpr fun r hr => ?_
    obtain ⟨k, hk, hl, -⟩ := hpost.rank_bounds hr
    obtain ⟨q, hq, rfl⟩ := Option.map_eq_some_iff.mp hk
    simp only [hq, Option.any_some, decide_eq_true_eq, UInt32.lt_iff_toNat_lt]
    omega
  rw [List.filter_append, hbefore, hbehind, List.nil_append]

theorem on_closeGap (now : Instant) {tx : Turnstile.Tx} {r : Registration} {p : UInt32}
    (htx : tx = ({} : Turnstile.Tx).writes rows)
    (hread : tx.waitlist s.store event = pre ++ post) (hn : NumberedFrom 1 (pre ++ r :: post))
    (hp : r.position = some p)
    (hw : ∀ r ∈ post, r.status = .waitlisted ∧ (s.store.registrations.get? r.id).isSome) :
    (closeGap event p now).on (s.inside event tx) =
      (some (.ok (post.map fun r => .movedUpAt r now)),
        s.inside event (tx.writes (post.map fun r => r.movedUpAt now))) := by
  subst htx
  obtain ⟨hpre, hr, hpost⟩ := NumberedFrom.append_iff.mp hn
  have hpn : p.toNat = 1 + pre.length := by simpa [Registration.rank, hp] using hr
  rw [← hpn] at hpost
  refine (on_bind_ok on_waitlist _).trans ?_
  rw [hread, filter_behind hpre hpn hpost, ← Tx.writes_append]
  exact on_shiftUp hpost (by omega) hw

end Allocate
end Turnstile
