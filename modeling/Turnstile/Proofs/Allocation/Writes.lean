import Turnstile.Proofs.Allocation.Invariant
import Turnstile.Proofs.Allocation.Journal
import Turnstile.Proofs.Store.Constraints

/-!
A transaction writes the rows of its decision one after the other, in their order. After every single one the
registrations satisfy the constraints of a database.
-/

namespace Turnstile
open scoped List

def Decision.rows {α : Type} : Decision α → List Tracked
  | write _ rows _ _ => rows
  | _ => []

namespace Allocate
variable {α β : Type} {s : Session} {event : EventId} {e : ScheduledEvent} {now : Instant}
  {rows q pre post : List Registration}

theorem written_shiftUp {n : Nat} (hn : NumberedFrom n post) (hlt : 1 < n)
    (hw : ∀ r ∈ post, r.status = .waitlisted ∧ (s.store.registrations.get? r.id).isSome) :
    (shiftUp now post).written (s.inside event (({} : Turnstile.Tx).writes rows)) =
      post.map fun r => r.movedUpAt now := by
  induction post generalizing n rows with
  | nil => rfl
  | cons r post ih =>
    obtain ⟨hr, hpost⟩ := List.forall_mem_cons.mp hw
    obtain ⟨p, hp, hpn⟩ := Option.map_eq_some_iff.mp hn.1
    have hlt' : 1 < p := UInt32.lt_iff_toNat_lt.mpr (by simpa [hpn] using hlt)
    have hup := on_updateRow event rows (r.movedUpAt now) hr.2
    rw [shiftUp, (silent_checked _).after (on_checked_ok (Tracked.moveUp_of_waiting hr.1 hp hlt' now) _)]
    refine (written_bind_ok hup _).trans ?_
    rw [written_update, written_before fun _ => silent_pure _, ih hn.2 (by omega) hpost]
    rfl

theorem written_promoteHead (now : Instant) {tx : Turnstile.Tx} (htx : tx = ({} : Turnstile.Tx).writes rows)
    (hread : tx.waitlist s.store event = q) (hn : NumberedFrom 1 q)
    (hw : ∀ r ∈ q, r.status = .waitlisted ∧ (s.store.registrations.get? r.id).isSome) :
    (promoteHead event now).written (s.inside event tx) = (Tracked.advance now q).map Tracked.registration := by
  subst htx
  refine ((silent_waitlist event).after on_waitlist _).trans ?_
  rw [hread]
  cases q with
  | nil => rfl
  | cons r post =>
    obtain ⟨hr, hpost⟩ := List.forall_mem_cons.mp hw
    obtain ⟨p, hp, -⟩ := Option.map_eq_some_iff.mp hn.1
    have hup := on_updateRow event rows (r.seatedAt now) hr.2
    refine ((silent_checked _).after (on_checked_ok (Tracked.promote_of_waiting hr.1 hp now) _) _).trans ?_
    refine (written_bind_ok hup _).trans ?_
    rw [written_update, written_before fun _ => silent_pure _, written_shiftUp hn.2 (by omega) hpost,
      Tracked.advance, Tracked.map_registration_ahead]
    rfl

theorem written_closeGap (now : Instant) {tx : Turnstile.Tx} {r : Registration} {p : UInt32}
    (htx : tx = ({} : Turnstile.Tx).writes rows)
    (hread : tx.waitlist s.store event = pre ++ post) (hn : NumberedFrom 1 (pre ++ r :: post))
    (hp : r.position = some p)
    (hw : ∀ r ∈ post, r.status = .waitlisted ∧ (s.store.registrations.get? r.id).isSome) :
    (closeGap event p now).written (s.inside event tx) = post.map fun r => r.movedUpAt now := by
  subst htx
  obtain ⟨hpre, hr, hpost⟩ := NumberedFrom.append_iff.mp hn
  have hpn : p.toNat = 1 + pre.length := by simpa [Registration.rank, hp] using hr
  rw [← hpn] at hpost
  refine ((silent_waitlist event).after on_waitlist _).trans ?_
  rw [hread, filter_behind hpre hpn hpost]
  exact written_shiftUp hpost (by omega) hw

private theorem written_locked (hi : s.Idle) {body : ScheduledEvent → Allocate (Verdict β)}
    {k : β → Allocate α} (hk : ∀ a, (k a).Silent) :
    (transact (lockExisting event >>= body) >>= k).written s =
      match s.store.events.get? event with
      | some e => (body e).written (s.inside event {})
      | none => [] := by
  have hs : { s with tx := {} } = s := by rw [← hi.tx]
  have hlock : (lockExisting event).on s = _ := on_lockExisting hi
  rw [written_before hk, written_transact, hs]
  cases he : s.store.events.get? event with
  | none =>
    rw [he] at hlock
    exact (silent_lockExisting event).failed hlock body
  | some e =>
    rw [he] at hlock
    exact (silent_lockExisting event).after hlock body

private theorem written_located (hi : s.Idle) (hk : s.store.Keyed) (rid : RegistrationId)
    {rest : EventId → ScheduledEvent → Registration → Allocate (Verdict β)} {k : β → Allocate α}
    (hsilent : ∀ a, (k a).Silent) {d : Registration → ScheduledEvent → Decision α}
    (hd : ∀ r e, s.store.registrations.get? r.id = some r → s.store.events.get? r.eventId = some e →
      (rest r.eventId e r).written (s.inside r.eventId {}) = (d r e).rows.map Tracked.registration) :
    (do
      let event ← eventOf rid
      transact (lockExisting event >>= fun e => lockedRegistration rid >>= rest event e) >>= k).written s =
      (match s.store.registrations.get? rid with
        | none => Decision.refuse (.registrationNotFound rid)
        | some r =>
          match s.store.events.get? r.eventId with
          | none => .refuse (.eventNotFound r.eventId)
          | some e => d r e).rows.map Tracked.registration := by
  have hev := on_eventOf s rid
  cases hr : s.store.registrations.get? rid with
  | none =>
    rw [hr] at hev
    exact (silent_eventOf rid).failed hev _
  | some r =>
    rw [hr] at hev
    obtain rfl := hk _ _ hr
    rw [(silent_eventOf _).after hev, written_locked hi hsilent]
    dsimp only
    cases he : s.store.events.get? r.eventId with
    | none => rfl
    | some e =>
      rw [← hd r e hr he]
      exact (silent_lockedRegistration _).after (on_lockedRegistration hr) _

private theorem silent_report (t : Tracked) (moved : List Tracked) (a : α) :
    (do
      stage [t]
      stage moved
      pure (.commit a) : Allocate (Verdict α)).Silent :=
  (silent_stage _).bind fun _ => (silent_stage _).bind fun _ => silent_pure _

private theorem written_enter (t : Tracked) (s : Session) :
    (do
      Tx.insertRegistration t.registration
      stage [t]
      pure (.commit t) : Allocate (Verdict Tracked)).written s = [t.registration] := by
  refine (written_before fun _ => (silent_stage _).bind fun _ => silent_pure _).trans ?_
  exact written_insert t.registration s

section
variable (hi : s.Idle) (hl : s.store.Lawful)
include hi hl

theorem written_register (event : EventId) (registrant : RegistrantId) :
    (register event registrant).written s =
      (Decision.register s.tick.store event registrant s.clock.next ⟨s.tick.ids.next⟩).rows.map Tracked.registration := by
  replace hi := hi.tick
  replace hl : s.tick.store.Lawful := hl
  rw [register]
  refine (silent_now.after (on_now s) _).trans ?_
  generalize s.tick = s, s.clock.next = now at hi hl ⊢
  rw [written_locked hi fun _ => (silent_count _).bind fun _ => silent_pure _, Decision.register]
  cases he : s.store.events.get? event with
  | none => rfl
  | some e =>
    obtain rfl := hl.events_keyed _ _ he
    dsimp -zeta only
    rw [(silent_registrantExists _).after (on_registrantExists registrant)]
    by_cases hx : (!s.store.registrants.contains registrant) = true
    · rw [if_pos hx, if_pos hx]
      rfl
    rw [if_neg hx, if_neg hx, (silent_findActive _ _).after (on_findActive registrant), ← findActive_empty]
    by_cases hf : (({} : Turnstile.Tx).findActive s.store e.id registrant).isSome = true
    · rw [if_pos hf, if_pos hf]
      rfl
    rw [if_neg hf, if_neg hf]
    by_cases ho : (!e.isOpen now) = true
    · rw [if_pos ho, if_pos ho]
      rfl
    rw [if_neg ho, if_neg ho, (silent_countConfirmed _).after (on_countSeats hl he), Decision.enter]
    have hlt := ofNat_lt_iff (seats_lt hl he) e.capacity
    by_cases hs : (s.store.seated e.id).length < e.capacity.toNat
    · rw [if_pos hs, if_pos (hlt.mpr hs), silent_freshId.after on_freshId, pure_bind]
      exact written_enter (.confirmed e.id registrant now _) _
    · rw [if_neg hs, if_neg (mt hlt.mp hs), (silent_waitlist _).after (on_readQueue hl he)]
      have hlen := (hl.sound e.id e he).numberedFrom.length_lt (by decide)
      by_cases hfull : (s.store.queue e.id).length + 1 < UInt32.size
      · rw [if_pos hfull, (silent_checked _).after (on_checked_ok (Tracked.waitlisted_of_lt hfull) _),
          silent_freshId.after on_freshId, pure_bind]
        exact written_enter (.queued e.id registrant _ now _) _
      · rw [if_neg hfull]
        exact (silent_checked _).failed (on_checked_error (Tracked.waitlisted_of_full (by omega)) _) _

omit hi in
/-- One who waits leaves the waitlist, and those behind move up. -/
private theorem written_departure {r : Registration} (he : s.store.events.get? r.eventId = some e)
    (hr : s.store.registrations.get? r.id = some r) (hst : r.status = .waitlisted) {t : Tracked} {p : UInt32}
    (ht : t.registration.Left r) (hp : r.position = some p) (now : Instant) (result : List Tracked → α) :
    (do
      Tx.updateRegistration t.registration
      let moved ← closeGap r.eventId p now
      stage [t]
      stage moved
      pure (.commit (result moved)) : Allocate (Verdict α)).written (s.inside r.eventId {}) =
      (t :: (s.store.behind r).map fun x => .movedUpAt x now).map Tracked.registration := by
  have hide := hl.events_keyed _ _ he
  have hm : r ∈ s.store.queue r.eventId := by
    rw [Store.mem_queue, Store.mem_waiting hl.keyed]
    exact ⟨hr, rfl, hst⟩
  obtain ⟨pre, post, hq⟩ := List.append_of_mem hm
  have hn := (hl.sound _ _ he).numberedFrom
  have hw := waiting_rows hl r.eventId
  rw [hide, hq] at hn
  rw [hq] at hw
  have hup := on_updateRow (s := s) r.eventId [] t.registration (by rw [ht.id, hr]; rfl)
  refine (written_bind_ok hup _).trans ?_
  rw [written_update, written_before fun _ => silent_report _ _ _, Store.behind_eq hq hn]
  refine (congrArg _ (written_closeGap now rfl (Tx.waitlist_left hl.keyed hq hn ht) hn hp fun x hx =>
    hw x (List.mem_append_right _ (List.mem_cons_of_mem _ hx)))).trans ?_
  simp [Function.comp_def]

omit hi in
/-- Whoever has the seat leaves it to the first who waits. -/
private theorem written_vacancy {r : Registration} (he : s.store.events.get? r.eventId = some e)
    (hr : s.store.registrations.get? r.id = some r) (hst : r.status = .confirmed) (now : Instant)
    (result : List Tracked → α) :
    (do
      Tx.updateRegistration (Tracked.cancelledAt r now).registration
      let moved ← promoteIfFree e now
      stage [.cancelledAt r now]
      stage moved
      pure (.commit (result moved)) : Allocate (Verdict α)).written (s.inside r.eventId {}) =
      (.cancelledAt r now :: Tracked.advance now (s.store.queue r.eventId)).map Tracked.registration := by
  have hs := hl.sound _ _ he
  have hide := hl.events_keyed _ _ he
  have hseat : r ∈ s.store.seated e.id := (Store.mem_seated hl.keyed).mpr ⟨hr, hide.symm, hst⟩
  obtain ⟨n, hn, hlt⟩ := Tx.countConfirmed_vacated hs hl.keyed hseat now
  have hup := on_updateRow (s := s) r.eventId [] (r.cancelledAt now) (by simp [hr])
  refine (written_bind_ok hup _).trans ?_
  rw [written_update, written_before fun _ => silent_report _ _ _, ← hide, promoteIfFree, List.nil_append,
    (silent_countConfirmed _).after (on_countConfirmed hn), if_pos hlt]
  exact congrArg _ (written_promoteHead now rfl (Tx.waitlist_vacated hs hl.keyed hseat now) hs.numberedFrom
    (waiting_rows hl e.id))

theorem written_cancel (rid : RegistrationId) :
    (cancel rid).written s = (Decision.cancel s.tick.store rid s.clock.next).rows.map Tracked.registration := by
  replace hi := hi.tick
  replace hl : s.tick.store.Lawful := hl
  rw [cancel]
  refine (silent_now.after (on_now s) _).trans ?_
  generalize s.tick = s, s.clock.next = now at hi hl ⊢
  rw [Decision.cancel]
  refine written_located hi hl.keyed rid (fun x => ?_) fun r e hr he => ?_
  · obtain ⟨allocation, released | released⟩ := x
    · exact silent_pure _
    · refine (silent_count _).bind fun _ => ?_
      split
      · exact (silent_count _).bind fun _ => silent_pure _
      · exact silent_pure _
  cases hst : r.status with
  | cancelled =>
    rw [Tracked.cancel_of_cancelled hst]
    rfl
  | confirmed =>
    have hp : r.position = none := by
      have hmem := (Store.mem_registrationsOf hl.keyed).mpr ⟨hr, (hl.events_keyed _ _ he).symm⟩
      simpa [hst] using (hl.sound _ _ he).placed r hmem
    rw [Tracked.cancel_of_active (by simp [hst]), hst, hp]
    exact written_vacancy hl he hr hst now _
  | waitlisted =>
    obtain ⟨p, hp⟩ := exists_place hl he hr hst
    rw [Tracked.cancel_of_active (by simp [hst]), hst, hp]
    exact written_departure hl he hr hst (Registration.left_cancelledAt r now) hp now _

theorem written_confirm (rid : RegistrationId) :
    (confirm rid).written s = (Decision.confirm s.tick.store rid s.clock.next).rows.map Tracked.registration := by
  replace hi := hi.tick
  replace hl : s.tick.store.Lawful := hl
  rw [confirm]
  refine (silent_now.after (on_now s) _).trans ?_
  generalize s.tick = s, s.clock.next = now at hi hl ⊢
  rw [Decision.confirm]
  refine written_located hi hl.keyed rid (fun x => (silent_count _).bind fun _ => silent_pure _)
    fun r e hr he => ?_
  have hide := hl.events_keyed _ _ he
  by_cases hst : r.status = .waitlisted
  · obtain ⟨p, hp⟩ := exists_place hl he hr hst
    have hcount := on_countSeats hl he
    have hlt := ofNat_lt_iff (seats_lt hl he) e.capacity
    rw [hide] at hcount hlt
    rw [if_neg (not_not_intro hst),
      (silent_checked _).after (on_checked_ok (Tracked.promote_of_waiting hst hp now) _)]
    dsimp -zeta only
    rw [hide, (silent_countConfirmed _).after hcount]
    by_cases hfull : e.capacity.toNat ≤ (s.store.seated r.eventId).length
    · rw [if_pos hfull, if_pos (by rw [← UInt32.not_lt, hlt]; omega)]
      rfl
    · rw [if_neg hfull, if_neg (by rw [← UInt32.not_lt, hlt]; omega)]
      exact written_departure hl he hr hst (Registration.left_seatedAt r now) hp now _
  · rw [if_pos hst]
    exact (silent_checked _).failed (on_checked_error (Tracked.promote_of_not_waiting hst now) _) _

omit hi in
private theorem written_advance (he : s.store.events.get? event = some e) (now : Instant) :
    (promoteHead e.id now).written (s.inside e.id {}) =
      (Tracked.advance now (s.store.queue e.id)).map Tracked.registration := by
  have hn := (hl.sound event e he).numberedFrom
  have hnone : ({} : Turnstile.Tx) = ({} : Turnstile.Tx).writes [] := rfl
  exact written_promoteHead now hnone (Tx.waitlist_empty hl.keyed hn) hn (waiting_rows hl e.id)

theorem written_promote (event : EventId) :
    (promote event).written s = (Decision.promote s.tick.store event s.clock.next).rows.map Tracked.registration := by
  replace hi := hi.tick
  replace hl : s.tick.store.Lawful := hl
  rw [promote]
  refine (silent_now.after (on_now s) _).trans ?_
  generalize s.tick = s, s.clock.next = now at hi hl ⊢
  refine (written_locked hi fun x => ?_).trans ?_
  · rcases x with _ | _ | _
    · exact silent_pure _
    · exact (silent_count _).bind fun _ => silent_pure _
    · exact (silent_count _).bind fun _ => silent_pure _
  rw [Decision.promote]
  cases he : s.store.events.get? event with
  | none => rfl
  | some e =>
    obtain rfl := hl.events_keyed _ _ he
    dsimp -zeta only
    rw [(silent_waitlist _).after (on_readQueue hl he)]
    have hadv := written_advance hl he now
    have hn := (hl.sound _ _ he).numberedFrom
    cases hq : s.store.queue e.id with
    | nil => rfl
    | cons r behind =>
      have hlt := ofNat_lt_iff (seats_lt hl he) e.capacity
      rw [if_neg (by simp), (silent_countConfirmed _).after (on_countSeats hl he)]
      by_cases hfull : e.capacity.toNat ≤ (s.store.seated e.id).length
      · rw [if_pos (by rw [← UInt32.not_lt, hlt]; omega)]
        dsimp only
        rw [if_pos hfull]
        rfl
      · have hre : r.eventId = e.id := by
          have hm : r ∈ s.store.queue e.id := by simp [hq]
          exact ((Store.mem_waiting hl.keyed).mp (Store.mem_queue.mp hm)).2.1
        rw [hq] at hadv hn
        have hb : s.store.behind r = behind := @Store.behind_eq s.store r [] behind (by rw [hre, hq]; rfl) hn
        rw [if_neg (by rw [← UInt32.not_lt, hlt]; omega)]
        dsimp -zeta only
        rw [if_neg hfull, Decision.seat, hb]
        exact (written_before fun _ => (silent_stage _).bind fun _ => silent_pure _).trans hadv

theorem written_promoteStep (event : EventId) :
    (promoteStep event).written s =
      (Decision.promoteStep s.tick.store event s.clock.next).rows.map Tracked.registration := by
  replace hi := hi.tick
  replace hl : s.tick.store.Lawful := hl
  rw [promoteStep]
  refine (silent_now.after (on_now s) _).trans ?_
  generalize s.tick = s, s.clock.next = now at hi hl ⊢
  refine (written_locked hi fun x => ?_).trans ?_
  · split
    · exact (silent_count _).bind fun _ => silent_pure _
    · exact silent_pure _
  rw [Decision.promoteStep]
  cases he : s.store.events.get? event with
  | none => rfl
  | some e =>
    obtain rfl := hl.events_keyed _ _ he
    have hlt := ofNat_lt_iff (seats_lt hl he) e.capacity
    refine (written_before fun changed => ?_).trans ?_
    · cases changed with
      | nil => exact silent_pure _
      | cons t rest => exact (silent_stage _).bind fun _ => silent_pure _
    rw [promoteIfFree, (silent_countConfirmed _).after (on_countSeats hl he)]
    by_cases hfree : (s.store.seated e.id).length < e.capacity.toNat
    · rw [if_pos (hlt.mpr hfree), written_advance hl he now]
      cases hq : s.store.queue e.id with
      | nil => rfl
      | cons r behind =>
        dsimp only
        rw [if_neg (by omega)]
        rfl
    · rw [if_neg (mt hlt.mp hfree)]
      cases hq : s.store.queue e.id with
      | nil => rfl
      | cons r behind =>
        dsimp only
        rw [if_pos (by omega)]
        rfl

omit hl in
theorem written_raiseCapacity (event : EventId) (capacity : UInt32) : (raiseCapacity event capacity).written s = [] := by
  rw [raiseCapacity, ← bind_pure (transact _), written_locked hi silent_pure]
  cases s.store.events.get? event with
  | none => rfl
  | some e =>
    dsimp only
    split
    · rfl
    split
    · exact (silent_stored (rows_asked (.tx (.updateCapacity e.id capacity)))).bind (fun _ => silent_pure _) _
    · rfl

end

end Allocate

namespace Decision
variable {α : Type} {s : Store}

/-- The constraints hold after every row of a decision. -/
theorem Moving.constrained {d : Decision α} {id : RegistrationId} (h : d.Moving s id) (hl : s.Lawful) (n : Nat)
    {event : EventId} {e : ScheduledEvent} (he : s.events.get? event = some e) :
    (s.puts ((d.rows.map Tracked.registration).take n)).Constrained e := by
  have hnone : (s.puts (([] : List Registration).take n)).Constrained e := by
    obtain rfl := hl.events_keyed _ _ he
    rw [List.take_nil]
    exact (hl.sound _ _ he).constrained
  cases d with
  | refuse cause => exact hnone
  | leave a => exact hnone
  | write fresh rows counted a =>
    obtain ⟨other, hother, hmoves⟩ := h
    exact hl.constrained hother hmoves n he
  | raise event capacity a => exact hnone

end Decision

namespace Transaction
open Session (oneSeatTwoWaiting oneSeatTwoWaiting_consistent)
variable {s : Session}

/-- The rows that a transaction writes, in order. -/
def written (s : Session) : Transaction → List Registration
  | .register event registrant => (Allocate.register event registrant).written s
  | .cancel registration => (Allocate.cancel registration).written s
  | .promote event => (Allocate.promote event).written s
  | .confirm registration => (Allocate.confirm registration).written s
  | .raiseCapacity event capacity => (Allocate.raiseCapacity event capacity).written s
  | .promoteStep event => (Allocate.promoteStep event).written s

/-- What a transaction writes was decided on the store as it is. -/
theorem exists_decision (hi : s.Idle) (hl : s.store.Lawful)
    (hid : s.store.registrations.get? ⟨s.ids.next⟩ = none) (t : Transaction) :
    ∃ (α : Type) (d : Decision α), d.Moving s.store ⟨s.ids.next⟩ ∧
      t.written s = d.rows.map Tracked.registration := by
  cases t with
  | register event registrant =>
    exact ⟨_, _, Decision.moving_register hl fun _ => hid, Allocate.written_register hi hl event registrant⟩
  | cancel registration =>
    exact ⟨_, _, Decision.moving_cancel hl, Allocate.written_cancel hi hl registration⟩
  | promote event => exact ⟨_, _, Decision.moving_promote hl, Allocate.written_promote hi hl event⟩
  | confirm registration =>
    exact ⟨_, _, Decision.moving_confirm hl, Allocate.written_confirm hi hl registration⟩
  | raiseCapacity event capacity =>
    exact ⟨Unit, .leave (), trivial, Allocate.written_raiseCapacity hi event capacity⟩
  | promoteStep event =>
    exact ⟨_, _, Decision.moving_promoteStep hl, Allocate.written_promoteStep hi hl event⟩

/-- After every row that a transaction writes, the registrations of every event satisfy the constraints. -/
theorem constrained_after_every_write (hi : s.Idle) (hl : s.store.Lawful)
    (hid : s.store.registrations.get? ⟨s.ids.next⟩ = none) (t : Transaction) (n : Nat) {event : EventId}
    {e : ScheduledEvent} (he : s.store.events.get? event = some e) :
    (s.store.puts ((t.written s).take n)).Constrained e := by
  obtain ⟨α, d, hd, hw⟩ := exists_decision hi hl hid t
  rw [hw]
  exact hd.constrained hl n he

/-- The first two rows of three when the one in the seat cancels: the last has not moved up yet. -/
theorem constrained_after_every_write_oneSeat :
    (oneSeatTwoWaiting.store.puts
      (((Transaction.cancel ⟨IdSupply.number 1⟩).written oneSeatTwoWaiting).take 2)).Constrained .oneSeat :=
  constrained_after_every_write oneSeatTwoWaiting_consistent.idle oneSeatTwoWaiting_consistent.lawful (by decide +kernel)
    (.cancel ⟨IdSupply.number 1⟩) 2
    (show oneSeatTwoWaiting.store.events.get? ScheduledEvent.oneSeat.id = some .oneSeat by decide +kernel)

example : ((Transaction.cancel ⟨IdSupply.number 1⟩).written oneSeatTwoWaiting).map (fun r => (r.status, r.position)) =
    [(.cancelled, none), (.confirmed, none), (.waitlisted, some 1)] := by cbv

end Transaction
end Turnstile
