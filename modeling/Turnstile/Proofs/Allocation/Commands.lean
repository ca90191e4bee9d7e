import Turnstile.Proofs.Allocation.Decision

/-!
Every allocation command that runs alone on a lawful store carries out its decision: it returns what was
decided, and leaves the session that the decision leads to.
-/

namespace Turnstile
open scoped List

theorem Session.Idle.tick {s : Session} (h : s.Idle) : s.tick.Idle := ⟨h.tx, h.locked⟩

/-- The body of a transaction on an event ended as decided, and `k` goes on from there. -/
def Decision.Reached {α β : Type} (s : Session) (event : EventId) (k : β → Allocate α)
    (ended : Option (Except AllocationError (Verdict β)) × Session) : Decision α → Prop
  | refuse cause => ended = (some (.error cause), s.inside event {})
  | leave b => ∃ a, ended = (some (.ok (.rollback a)), s.inside event {}) ∧ (k a).on s = (some (.ok b), s)
  | write fresh rows counted b =>
    ∃ a, ended = (some (.ok (.commit a)), (s.drawing (fresh + (announced rows).length)).inside event
        ((({} : Tx).writes (rows.map Tracked.registration)).announce
          (announcements (s.ids.skip fresh) (announced rows)))) ∧
      ∀ s', (k a).on s' =
        (some (.ok b), { s' with metrics := counted.foldl (fun m c => m.add c 1) s'.metrics })
  | raise event' capacity b =>
    ∃ a, ended = (some (.ok (.commit a)),
        s.inside event { capacities := (Table.empty.insert event' capacity) }) ∧
      ∀ s', (k a).on s' = (some (.ok b), s')

namespace Allocate
variable {α β : Type} {s : Session} {event : EventId} {e : ScheduledEvent}
  {body : ScheduledEvent → Allocate (Verdict β)} {k : β → Allocate α} {d : Decision α}

private theorem on_missing (hi : s.Idle) (he : s.store.events.get? event = none) :
    (transact (lockExisting event >>= body) >>= k).on s =
      (Decision.refuse (.eventNotFound event) : Decision α).outcome s := by
  have h := on_transact_locked hi event body
  rw [he] at h
  exact on_bind_error h k

private theorem on_found (hi : s.Idle) (he : s.store.events.get? event = some e)
    (hd : d.Reached s event k ((body e).on (s.inside event {}))) :
    (transact (lockExisting event >>= body) >>= k).on s = d.outcome s := by
  have h := on_transact_locked hi event body
  rw [he] at h
  cases d with
  | refuse cause =>
    simp only [show (body e).on _ = _ from hd, conclude_error hi] at h
    exact on_bind_error h k
  | leave b =>
    obtain ⟨a, hbody, hk⟩ := hd
    simp only [hbody, conclude_rollback hi] at h
    rw [on_bind_ok h k, hk]
    rfl
  | write fresh rows counted b =>
    obtain ⟨a, hbody, hk⟩ := hd
    have hid : (s.drawing (fresh + (announced rows).length)).Idle := ⟨hi.tx, hi.locked⟩
    simp only [hbody, conclude_commit hid] at h
    rw [Decision.outcome, Decision.enact]
    by_cases hf : s.store.failOnCommit = true
    · rw [if_pos (show (s.drawing _).store.failOnCommit = true from hf)] at h
      rw [on_bind_error h k, if_pos hf]
      rfl
    · rw [if_neg (show ¬ (s.drawing _).store.failOnCommit = true from hf)] at h
      rw [on_bind_ok h k, hk, if_neg hf, Store.apply_announce, Tx.apply_wrote]
      rfl
  | raise event' capacity b =>
    obtain ⟨a, hbody, hk⟩ := hd
    simp only [hbody, conclude_commit hi] at h
    rw [Decision.outcome, Decision.enact]
    by_cases hf : s.store.failOnCommit = true
    · rw [if_pos hf] at h
      rw [on_bind_error h k, if_pos hf]
      rfl
    · rw [if_neg hf] at h
      rw [on_bind_ok h k, hk, if_neg hf]
      simp [Store.apply, Store.setCapacity, Table.insert, Table.empty, Table.write, Table.union]

theorem ofNat_lt_iff {n : Nat} (h : n < UInt32.size) (c : UInt32) :
    UInt32.ofNat n < c ↔ n < c.toNat := by
  rw [UInt32.lt_iff_toNat_lt, UInt32.toNat_ofNat_of_lt' h]

theorem findActive_empty (store : Store) (event : EventId) (registrant : RegistrantId) :
    (({} : Turnstile.Tx).findActive store event registrant).isSome =
      (store.active event).any (·.registrantId = registrant) := by
  rw [Turnstile.Tx.findActive, Tx.registrationsOf_empty, Store.active, List.any_filter, Bool.eq_iff_iff,
    List.find?_isSome, List.any_eq_true]
  simp only [Bool.and_comm]

private theorem on_enter {t : Tracked} (he : t.registration.eventId = event)
    (h : ¬ (({} : Turnstile.Tx).findActive s.store event t.registration.registrantId).isSome = true) :
    (do
      Tx.insertRegistration t.registration
      stage [t]
      pure (.commit t) : Allocate (Verdict Tracked)).on ((s.drawing 1).inside event {}) =
      (some (.ok (.commit t)), (s.drawing (1 + (announced [t]).length)).inside event
        ((({} : Turnstile.Tx).writes [t.registration]).announce
          (announcements (s.ids.skip 1) (announced [t])))) := by
  have hins : (Tx.insertRegistration t.registration).on ((s.drawing 1).inside event {}) =
      (some (.ok ()), (s.drawing 1).inside event (({} : Turnstile.Tx).writes [t.registration])) := by
    refine on_insertRegistration fun other ho => ?_
    rw [he] at ho
    rw [show (s.drawing 1).store = s.store from rfl] at ho
    simp [ho] at h
  rw [on_bind_ok hins, on_bind_ok (on_stage [t]), Session.drawing_drawing]
  rfl

section
variable (hi : s.Idle) (hl : s.store.Lawful)
include hl

theorem seats_lt (he : s.store.events.get? event = some e) :
    (s.store.seated e.id).length < UInt32.size := by
  have hfits := (hl.sound event e he).fits
  have hlt := e.capacity.toNat_lt_size
  omega

theorem on_countSeats (he : s.store.events.get? event = some e) :
    (Tx.countConfirmed e.id).on (s.inside e.id {}) =
      (some (.ok (.ofNat (s.store.seated e.id).length)), s.inside e.id {}) :=
  on_countConfirmed (Tx.countConfirmed_empty hl.keyed (seats_lt hl he))

theorem on_readQueue (he : s.store.events.get? event = some e) :
    (Tx.waitlist e.id).on (s.inside e.id {}) = (some (.ok (s.store.queue e.id)), s.inside e.id {}) := by
  rw [← Tx.waitlist_empty hl.keyed (hl.sound event e he).numberedFrom]
  exact on_waitlist

include hi

theorem on_register (event : EventId) (registrant : RegistrantId) :
    (register event registrant).on s =
      (Decision.register s.tick.store event registrant s.clock.next ⟨s.tick.ids.next⟩).outcome s.tick := by
  replace hi := hi.tick
  replace hl : s.tick.store.Lawful := hl
  rw [register]
  refine (on_bind_ok (on_now s) _).trans ?_
  generalize s.tick = s, s.clock.next = now at hi hl ⊢
  rw [Decision.register]
  cases he : s.store.events.get? event with
  | none => exact on_missing hi he
  | some e =>
    obtain rfl := hl.events_keyed _ _ he
    refine on_found hi he ?_
    dsimp -zeta only
    rw [on_bind_ok (on_registrantExists registrant)]
    by_cases hx : (!s.store.registrants.contains registrant) = true
    · rw [if_pos hx, if_pos hx]
      rfl
    rw [if_neg hx, if_neg hx, on_bind_ok (on_findActive registrant), ← findActive_empty]
    by_cases hf : (({} : Turnstile.Tx).findActive s.store e.id registrant).isSome = true
    · rw [if_pos hf, if_pos hf]
      rfl
    rw [if_neg hf, if_neg hf]
    by_cases ho : (!e.isOpen now) = true
    · rw [if_pos ho, if_pos ho]
      rfl
    rw [if_neg ho, if_neg ho, on_bind_ok (on_countSeats hl he), Decision.enter]
    have hlt := ofNat_lt_iff (seats_lt hl he) e.capacity
    by_cases hs : (s.store.seated e.id).length < e.capacity.toNat
    · rw [if_pos hs, if_pos (hlt.mpr hs)]
      refine ⟨_, ?_, fun s' => rfl⟩
      rw [on_bind_ok on_freshId, pure_bind]
      exact on_enter rfl hf
    · rw [if_neg hs, if_neg (mt hlt.mp hs), on_bind_ok (on_readQueue hl he)]
      have hlen := (hl.sound e.id e he).numberedFrom.length_lt (by decide)
      by_cases hfull : (s.store.queue e.id).length + 1 < UInt32.size
      · rw [if_pos hfull]
        refine ⟨_, ?_, fun s' => rfl⟩
        rw [on_bind_ok (on_checked_ok (Tracked.waitlisted_of_lt hfull) _), on_bind_ok on_freshId, pure_bind]
        exact on_enter rfl hf
      · rw [if_neg hfull]
        rw [on_bind_error (on_checked_error (Tracked.waitlisted_of_full (by omega)) _)]
        rfl

theorem on_raiseCapacity (event : EventId) (capacity : UInt32) :
    (raiseCapacity event capacity).on s = (Decision.raiseCapacity s.store event capacity).outcome s := by
  rw [raiseCapacity, ← bind_pure (transact _), Decision.raiseCapacity]
  cases he : s.store.events.get? event with
  | none => exact on_missing hi he
  | some e =>
    obtain rfl := hl.events_keyed _ _ he
    refine on_found hi he ?_
    dsimp -zeta only
    by_cases hlt : capacity < e.capacity
    · rw [if_pos hlt, if_pos hlt]
      rfl
    rw [if_neg hlt, if_neg hlt]
    by_cases hgt : e.capacity < capacity
    · rw [if_pos hgt, if_pos hgt]
      exact ⟨_, rfl, fun s' => rfl⟩
    · rw [if_neg hgt, if_neg hgt]
      exact ⟨_, rfl, rfl⟩

omit hi hl in
theorem on_eventOf (s : Session) (rid : RegistrationId) :
    (eventOf rid).on s =
      match s.store.registrations.get? rid with
      | some r => (some (.ok r.eventId), s)
      | none => (some (.error (.registrationNotFound rid)), s) := by
  rw [eventOf, on_bind_ok (on_getRegistration rid s)]
  cases s.store.registrations.get? rid <;> rfl

omit hi hl in
theorem on_lockedRegistration {r : Registration} (hr : s.store.registrations.get? r.id = some r) :
    (lockedRegistration r.id).on (s.inside event {}) = (some (.ok r), s.inside event {}) := by
  have hg : ({} : Turnstile.Tx).registration? s.store r.id = some r := by
    rw [Store.registration?_eq, Store.apply_empty, hr]
  rw [lockedRegistration, on_bind_ok (on_registration r.id), hg]
  rfl

omit hl in
/-- A command on a registration looks it up, takes the lock of its event and looks it up again. -/
private theorem on_located (hk : s.store.Keyed) (rid : RegistrationId)
    {rest : EventId → ScheduledEvent → Registration → Allocate (Verdict β)}
    {d : Registration → ScheduledEvent → Decision α}
    (hd : ∀ r e, s.store.registrations.get? r.id = some r → s.store.events.get? r.eventId = some e →
      (d r e).Reached s r.eventId k ((rest r.eventId e r).on (s.inside r.eventId {}))) :
    (do
      let event ← eventOf rid
      transact (lockExisting event >>= fun e => lockedRegistration rid >>= rest event e) >>= k).on s =
      (match s.store.registrations.get? rid with
        | none => Decision.refuse (.registrationNotFound rid)
        | some r =>
          match s.store.events.get? r.eventId with
          | none => .refuse (.eventNotFound r.eventId)
          | some e => d r e).outcome s := by
  have hev := on_eventOf s rid
  cases hr : s.store.registrations.get? rid with
  | none =>
    rw [hr] at hev
    exact on_bind_error hev _
  | some r =>
    rw [hr] at hev
    obtain rfl := hk _ _ hr
    rw [on_bind_ok hev]
    dsimp only
    cases he : s.store.events.get? r.eventId with
    | none => exact on_missing hi he
    | some e =>
      refine on_found hi he ?_
      rw [on_bind_ok (on_lockedRegistration hr)]
      exact hd r e hr he

omit hi hl in
private theorem on_report {tx : Turnstile.Tx} (t : Tracked) (moved : List Tracked) (a : α) :
    (do
      stage [t]
      stage moved
      pure (.commit a) : Allocate (Verdict α)).on (s.inside event tx) =
      (some (.ok (.commit a)), (s.drawing (0 + (announced (t :: moved)).length)).inside event
        (tx.announce (announcements (s.ids.skip 0) (announced (t :: moved))))) := by
  rw [on_bind_ok (on_stage [t]), on_bind_ok (on_stage moved), Session.drawing_drawing, Tx.announce_announce,
    show t :: moved = [t] ++ moved from rfl, announced_append, announcements_append, List.length_append,
    Nat.zero_add]
  rfl

omit hi in
theorem waiting_rows (event : EventId) :
    ∀ r ∈ s.store.queue event, r.status = .waitlisted ∧ (s.store.registrations.get? r.id).isSome := by
  intro r hr
  rw [Store.mem_queue, Store.mem_waiting hl.keyed] at hr
  simp [hr]

section Departure
variable {r : Registration} (he : s.store.events.get? r.eventId = some e)
  (hr : s.store.registrations.get? r.id = some r) (hst : r.status = .waitlisted)
include he hr hst

omit hi in
theorem exists_place : ∃ p, r.position = some p := by
  have hm := (Store.mem_registrationsOf hl.keyed).mpr ⟨hr, (hl.events_keyed _ _ he).symm⟩
  exact Option.isSome_iff_exists.mp (((hl.sound _ _ he).placed r hm).mpr hst)

omit hi in
/-- One who waits leaves the waitlist, and those behind move up. -/
private theorem on_departure {t : Tracked} {p : UInt32} (ht : t.registration.Left r) (hp : r.position = some p)
    (now : Instant) (result : List Tracked → α) :
    (do
      Tx.updateRegistration t.registration
      let moved ← closeGap r.eventId p now
      stage [t]
      stage moved
      pure (.commit (result moved)) : Allocate (Verdict α)).on (s.inside r.eventId {}) =
      let moved := (s.store.behind r).map fun x => .movedUpAt x now
      (some (.ok (.commit (result moved))),
        (s.drawing (0 + (announced (t :: moved)).length)).inside r.eventId
          ((({} : Turnstile.Tx).writes ((t :: moved).map Tracked.registration)).announce
            (announcements (s.ids.skip 0) (announced (t :: moved))))) := by
  have hide := hl.events_keyed _ _ he
  have hm : r ∈ s.store.queue r.eventId := by
    rw [Store.mem_queue, Store.mem_waiting hl.keyed]
    exact ⟨hr, rfl, hst⟩
  obtain ⟨pre, post, hq⟩ := List.append_of_mem hm
  have hn := (hl.sound _ _ he).numberedFrom
  have hw := waiting_rows hl r.eventId
  rw [hide, hq] at hn
  rw [hq] at hw
  have hupd := on_updateRow (s := s) r.eventId [] t.registration (by rw [ht.id, hr]; rfl)
  have hgap := on_closeGap now rfl (Tx.waitlist_left hl.keyed hq hn ht) hn hp
    fun x hx => hw x (List.mem_append_right _ (List.mem_cons_of_mem _ hx))
  rw [Store.behind_eq hq hn]
  refine (on_bind_ok hupd _).trans ?_
  refine (on_bind_ok hgap _).trans ?_
  refine (on_report _ _ _).trans ?_
  rw [← Tx.writes_append]
  simp [Function.comp_def]

end Departure

section
variable {r : Registration} (he : s.store.events.get? r.eventId = some e)
  (hr : s.store.registrations.get? r.id = some r)
include he hr

omit hi in
/-- Whoever has the seat leaves it to the first who waits. -/
private theorem on_vacancy (hst : r.status = .confirmed) (now : Instant) (result : List Tracked → α) :
    (do
      Tx.updateRegistration (Tracked.cancelledAt r now).registration
      let moved ← promoteIfFree e now
      stage [.cancelledAt r now]
      stage moved
      pure (.commit (result moved)) : Allocate (Verdict α)).on (s.inside r.eventId {}) =
      let moved := Tracked.advance now (s.store.queue r.eventId)
      (some (.ok (.commit (result moved))),
        (s.drawing (0 + (announced (.cancelledAt r now :: moved)).length)).inside r.eventId
          ((({} : Turnstile.Tx).writes ((.cancelledAt r now :: moved).map Tracked.registration)).announce
            (announcements (s.ids.skip 0) (announced (.cancelledAt r now :: moved))))) := by
  have hs := hl.sound _ _ he
  have hide := hl.events_keyed _ _ he
  have hseat : r ∈ s.store.seated e.id := (Store.mem_seated hl.keyed).mpr ⟨hr, hide.symm, hst⟩
  obtain ⟨n, hn, hlt⟩ := Tx.countConfirmed_vacated hs hl.keyed hseat now
  have hhead : (promoteIfFree e now).on (s.inside e.id (({} : Turnstile.Tx).writes [r.cancelledAt now])) =
      (promoteHead e.id now).on (s.inside e.id (({} : Turnstile.Tx).writes [r.cancelledAt now])) := by
    rw [promoteIfFree, on_bind_ok (on_countConfirmed hn), if_pos hlt]
  have hfree := hhead.trans (on_promoteHead now rfl (Tx.waitlist_vacated hs hl.keyed hseat now) hs.numberedFrom
    (waiting_rows hl e.id))
  rw [hide] at hfree
  have hupd := on_updateRow (s := s) r.eventId [] (r.cancelledAt now) (by simp [hr])
  refine (on_bind_ok hupd _).trans ?_
  refine (on_bind_ok hfree _).trans ?_
  refine (on_report _ _ _).trans ?_
  rw [← Tx.writes_append]
  rfl

end

theorem on_cancel (rid : RegistrationId) :
    (cancel rid).on s = (Decision.cancel s.tick.store rid s.clock.next).outcome s.tick := by
  replace hi := hi.tick
  replace hl : s.tick.store.Lawful := hl
  rw [cancel]
  refine (on_bind_ok (on_now s) _).trans ?_
  generalize s.tick = s, s.clock.next = now at hi hl ⊢
  rw [Decision.cancel]
  refine on_located hi hl.keyed rid fun r e hr he => ?_
  cases hst : r.status with
  | cancelled =>
    rw [Tracked.cancel_of_cancelled hst]
    exact ⟨_, rfl, rfl⟩
  | confirmed =>
    have hp : r.position = none := by
      have hmem := (Store.mem_registrationsOf hl.keyed).mpr ⟨hr, (hl.events_keyed _ _ he).symm⟩
      simpa [hst] using (hl.sound _ _ he).placed r hmem
    rw [Tracked.cancel_of_active (by simp [hst]), hst, hp]
    have hvac := on_vacancy hl he hr hst now fun moved =>
      (({ target := some (.cancelledAt r now), affected := moved } : Allocation),
        some (Cancellation.mk .confirmed none))
    refine ⟨_, hvac, fun s' => ?_⟩
    cases s.store.queue r.eventId <;> rfl
  | waitlisted =>
    obtain ⟨p, hp⟩ := exists_place hl he hr hst
    rw [Tracked.cancel_of_active (by simp [hst]), hst, hp]
    have hdep := on_departure hl he hr hst (t := Tracked.cancelledAt r now) (Registration.left_cancelledAt r now)
      hp now fun moved => (({ target := some (.cancelledAt r now), affected := moved } : Allocation),
        some (Cancellation.mk .waitlisted (some p)))
    exact ⟨_, hdep, fun s' => rfl⟩

theorem on_confirm (rid : RegistrationId) :
    (confirm rid).on s = (Decision.confirm s.tick.store rid s.clock.next).outcome s.tick := by
  replace hi := hi.tick
  replace hl : s.tick.store.Lawful := hl
  rw [confirm]
  refine (on_bind_ok (on_now s) _).trans ?_
  generalize s.tick = s, s.clock.next = now at hi hl ⊢
  rw [Decision.confirm]
  refine on_located hi hl.keyed rid fun r e hr he => ?_
  have hide := hl.events_keyed _ _ he
  by_cases hst : r.status = .waitlisted
  · obtain ⟨p, hp⟩ := exists_place hl he hr hst
    have hcount := on_countSeats hl he
    have hlt := ofNat_lt_iff (seats_lt hl he) e.capacity
    rw [hide] at hcount hlt
    rw [if_neg (not_not_intro hst), on_bind_ok (on_checked_ok (Tracked.promote_of_waiting hst hp now) _)]
    dsimp -zeta only
    rw [hide, on_bind_ok hcount]
    by_cases hfull : e.capacity.toNat ≤ (s.store.seated r.eventId).length
    · rw [if_pos hfull, if_pos (by rw [← UInt32.not_lt, hlt]; omega)]
      rfl
    · rw [if_neg hfull, if_neg (by rw [← UInt32.not_lt, hlt]; omega)]
      refine ⟨_, on_departure hl he hr hst (Registration.left_seatedAt r now) hp now fun moved =>
        ({ target := some (.seatedAt r now), affected := moved } : Allocation), ?_⟩
      exact fun s' => rfl
  · rw [if_pos hst, on_bind_error (on_checked_error (Tracked.promote_of_not_waiting hst now) _)]
    rfl

omit hi in
theorem on_advance (he : s.store.events.get? event = some e) (now : Instant) :
    (promoteHead e.id now).on (s.inside e.id {}) =
      (some (.ok (Tracked.advance now (s.store.queue e.id))), s.inside e.id
        (({} : Turnstile.Tx).writes ((Tracked.advance now (s.store.queue e.id)).map Tracked.registration))) := by
  have hn := (hl.sound event e he).numberedFrom
  have hnone : ({} : Turnstile.Tx) = ({} : Turnstile.Tx).writes [] := rfl
  exact on_promoteHead now hnone (Tx.waitlist_empty hl.keyed hn) hn (waiting_rows hl e.id)

omit hi hl in
private theorem on_announce {tx : Turnstile.Tx} (rows : List Tracked) (a : α) :
    (do
      stage rows
      pure (.commit a) : Allocate (Verdict α)).on (s.inside event tx) =
      (some (.ok (.commit a)), (s.drawing (0 + (announced rows).length)).inside event
        (tx.announce (announcements (s.ids.skip 0) (announced rows)))) := by
  rw [on_bind_ok (on_stage rows), Nat.zero_add]
  rfl

theorem on_promote (event : EventId) :
    (promote event).on s = (Decision.promote s.tick.store event s.clock.next).outcome s.tick := by
  replace hi := hi.tick
  replace hl : s.tick.store.Lawful := hl
  rw [promote]
  refine (on_bind_ok (on_now s) _).trans ?_
  generalize s.tick = s, s.clock.next = now at hi hl ⊢
  rw [Decision.promote]
  cases he : s.store.events.get? event with
  | none => exact on_missing hi he
  | some e =>
    obtain rfl := hl.events_keyed _ _ he
    refine on_found hi he ?_
    dsimp -zeta only
    rw [on_bind_ok (on_readQueue hl he)]
    have hadv := on_advance hl he now
    have hn := (hl.sound _ _ he).numberedFrom
    cases hq : s.store.queue e.id with
    | nil => exact ⟨none, rfl, rfl⟩
    | cons r behind =>
      have hlt := ofNat_lt_iff (seats_lt hl he) e.capacity
      rw [if_neg (by simp), on_bind_ok (on_countSeats hl he)]
      by_cases hfull : e.capacity.toNat ≤ (s.store.seated e.id).length
      · rw [if_pos (by rw [← UInt32.not_lt, hlt]; omega)]
        dsimp only
        rw [if_pos hfull]
        rfl
      · have hre : r.eventId = e.id := by
          have hm : r ∈ s.store.queue e.id := by simp [hq]
          exact ((Store.mem_waiting hl.keyed).mp (Store.mem_queue.mp hm)).2.1
        rw [hq] at hadv hn
        have hb : s.store.behind r = behind := @Store.behind_eq s.store r [] behind (by rw [hre, hq]; rfl) hn
        rw [if_neg (by rw [← UInt32.not_lt, hlt]; omega)]
        dsimp -zeta only
        rw [if_neg hfull, on_bind_ok hadv, Decision.seat, hb]
        exact ⟨_, on_announce _ _, fun s' => rfl⟩

theorem on_promoteStep (event : EventId) :
    (promoteStep event).on s = (Decision.promoteStep s.tick.store event s.clock.next).outcome s.tick := by
  replace hi := hi.tick
  replace hl : s.tick.store.Lawful := hl
  rw [promoteStep]
  refine (on_bind_ok (on_now s) _).trans ?_
  generalize s.tick = s, s.clock.next = now at hi hl ⊢
  rw [Decision.promoteStep]
  cases he : s.store.events.get? event with
  | none => exact on_missing hi he
  | some e =>
    obtain rfl := hl.events_keyed _ _ he
    refine on_found hi he ?_
    dsimp -zeta only
    have hlt := ofNat_lt_iff (seats_lt hl he) e.capacity
    have hadv := on_advance hl he now
    by_cases hfree : (s.store.seated e.id).length < e.capacity.toNat
    · have hstep : (promoteIfFree e now).on (s.inside e.id {}) =
          (promoteHead e.id now).on (s.inside e.id {}) := by
        rw [promoteIfFree, on_bind_ok (on_countSeats hl he), if_pos (hlt.mpr hfree)]
      rw [on_bind_ok (hstep.trans hadv)]
      cases hq : s.store.queue e.id with
      | nil => exact ⟨none, rfl, rfl⟩
      | cons r behind =>
        dsimp -zeta only
        rw [if_neg (by omega)]
        exact ⟨_, on_announce _ _, fun s' => rfl⟩
    · have hstep : (promoteIfFree e now).on (s.inside e.id {}) = (some (.ok []), s.inside e.id {}) := by
        rw [promoteIfFree, on_bind_ok (on_countSeats hl he), if_neg (mt hlt.mp hfree)]
        rfl
      rw [on_bind_ok hstep]
      cases hq : s.store.queue e.id with
      | nil => exact ⟨none, rfl, rfl⟩
      | cons r behind =>
        dsimp -zeta only
        rw [if_pos (by omega)]
        exact ⟨none, rfl, rfl⟩

end

end Allocate
end Turnstile
