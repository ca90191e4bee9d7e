import Turnstile.Proofs.Concurrency.Discipline
import Turnstile.Proofs.Store.Overlay

/-!
What a disciplined transaction reads depends on its event only, and its commit changes no other event.
-/

namespace Turnstile

/-- Two stores that a transaction on an event cannot tell apart. -/
structure Store.Agrees (event : EventId) (reach : RegistrationId → Prop) (s s' : Store) : Prop where
  found : s.events.get? event = s'.events.get? event
  registrants : s.registrants = s'.registrants
  failOnCommit : s.failOnCommit = s'.failOnCommit
  registrationsOf : s.registrationsOf event = s'.registrationsOf event
  reached : ∀ id, reach id → s.registrations.get? id = s'.registrations.get? id

/-- Everything of the event is within reach, and so are at most new registrations besides. -/
structure Store.Covers (s : Store) (event : EventId) (reach own : RegistrationId → Prop) : Prop where
  rows : ∀ id r, s.registrations.get? id = some r → r.eventId = event → reach id
  reached : ∀ id, reach id →
    (∃ r, s.registrations.get? id = some r ∧ r.eventId = event) ∨ s.registrations.get? id = none ∧ own id

/-- A transaction that holds the lock of one event and has written within reach only. -/
structure Tx.About (tx : Tx) (event : EventId) (reach : RegistrationId → Prop) : Prop where
  held : tx.held = [event]
  rows : ∀ id r, tx.registrations.get? id = some r → r.id = id ∧ r.eventId = event ∧ reach id
  capacities : ∀ id ∈ tx.capacities.keys, id = event

namespace Store.Agrees
variable {event : EventId} {reach reach' : RegistrationId → Prop} {s s' s'' : Store}

theorem refl (s : Store) : s.Agrees event reach s := ⟨rfl, rfl, rfl, rfl, fun _ _ => rfl⟩

theorem trans (h : s.Agrees event reach s') (h' : s'.Agrees event reach s'') : s.Agrees event reach s'' where
  found := h.found.trans h'.found
  registrants := h.registrants.trans h'.registrants
  failOnCommit := h.failOnCommit.trans h'.failOnCommit
  registrationsOf := h.registrationsOf.trans h'.registrationsOf
  reached id hid := (h.reached id hid).trans (h'.reached id hid)

theorem mono (h : s.Agrees event reach' s') (hr : ∀ id, reach id → reach' id) : s.Agrees event reach s' :=
  ⟨h.found, h.registrants, h.failOnCommit, h.registrationsOf, fun id hid => h.reached id (hr id hid)⟩

/-- Agreeing stores have the same within reach. -/
theorem covers {own : RegistrationId → Prop} (h : s.Agrees event reach s') (hk : s.Keyed) (hk' : s'.Keyed)
    (hcov : s.Covers event reach own) : s'.Covers event reach own where
  rows id r hr hev := by
    obtain rfl := hk' id r hr
    have hmem : r ∈ s.registrationsOf event :=
      h.registrationsOf ▸ (Store.mem_registrationsOf hk').mpr ⟨hr, hev⟩
    exact hcov.rows _ r ((Store.mem_registrationsOf hk).mp hmem).1 hev
  reached id hid := by
    rw [← h.reached id hid]
    exact hcov.reached id hid

end Store.Agrees

section Calls
variable {event : EventId} {reach own : RegistrationId → Prop} {s s' : Store} {k : Caller} {c : TxCall}

private theorem registrationsOf_agrees (tx : Tx) (h : s.Agrees event reach s') :
    tx.registrationsOf s event = tx.registrationsOf s' event := by
  rw [Tx.registrationsOf, Tx.registrationsOf, h.registrationsOf]

private theorem findActive_agrees (tx : Tx) (h : s.Agrees event reach s') (registrant : RegistrantId) :
    tx.findActive s event registrant = tx.findActive s' event registrant := by
  rw [Tx.findActive, Tx.findActive, registrationsOf_agrees tx h]

private theorem countConfirmed_agrees (tx : Tx) (h : s.Agrees event reach s') :
    tx.countConfirmed s event = tx.countConfirmed s' event := by
  unfold Tx.countConfirmed Tx.confirmed
  rw [registrationsOf_agrees tx h]

private theorem waitlist_agrees (tx : Tx) (h : s.Agrees event reach s') :
    tx.waitlist s event = tx.waitlist s' event := by
  rw [Tx.waitlist, Tx.waitlist, registrationsOf_agrees tx h]

private theorem registration?_agrees (tx : Tx) (h : s.Agrees event reach s') {id : RegistrationId}
    (hid : reach id) : tx.registration? s id = tx.registration? s' id := by
  rw [Tx.registration?, Tx.registration?, h.reached id hid]

/-- A call about the event gives the same reply and has the same effect on stores that agree on it. -/
theorem answerTx_agrees (hc : c.About event reach) (h : s.Agrees event reach s') :
    ∃ reply tx, (k.session s).answerTx c = (some reply, { k with tx }.session s) ∧
      (k.session s').answerTx c = (some reply, { k with tx }.session s') := by
  cases c with
  | registrantExists registrant =>
    exact ⟨_, k.tx, rfl, by simp only [Session.answerTx, Caller.session, h.registrants]⟩
  | findActive e registrant =>
    obtain rfl : e = event := hc
    exact ⟨_, k.tx, rfl, by simp only [Session.answerTx, Caller.session, findActive_agrees k.tx h]⟩
  | getRegistration id =>
    refine ⟨_, k.tx, rfl, ?_⟩
    simp only [Session.answerTx, Caller.session, registration?_agrees k.tx h hc]
  | countConfirmed e =>
    obtain rfl : e = event := hc
    refine ⟨_, k.tx, rfl, ?_⟩
    simp only [Session.answerTx, Caller.session, countConfirmed_agrees k.tx h]
  | waitlist e =>
    obtain rfl : e = event := hc
    refine ⟨_, k.tx, rfl, ?_⟩
    simp only [Session.answerTx, Caller.session, waitlist_agrees k.tx h]
  | insertRegistration r =>
    obtain ⟨rfl, -⟩ := hc
    have heq : k.tx.insertRegistration s r = k.tx.insertRegistration s' r := by
      simp only [Tx.insertRegistration, findActive_agrees k.tx h]
    simp only [Session.answerTx, Caller.session, heq]
    cases k.tx.insertRegistration s' r with
    | ok tx => exact ⟨_, tx, rfl, rfl⟩
    | error e => exact ⟨_, k.tx, rfl, rfl⟩
  | updateRegistration r =>
    have heq : k.tx.updateRegistration s r = k.tx.updateRegistration s' r := by
      rw [Tx.updateRegistration, Tx.updateRegistration, registration?_agrees k.tx h hc.2]
    simp only [Session.answerTx, Caller.session, heq]
    cases k.tx.updateRegistration s' r with
    | ok tx => exact ⟨_, tx, rfl, rfl⟩
    | error e => exact ⟨_, k.tx, rfl, rfl⟩
  | updateCapacity e capacity => exact ⟨_, _, rfl, rfl⟩
  | insertMessage m => exact ⟨_, _, rfl, rfl⟩
  | lockEvent _ | commit | rollback | drop => exact hc.elim

section
variable (hk : s.Keyed) (hcov : s.Covers event reach own) (htx : k.tx.About event reach)
include hk hcov htx

private theorem mem_tx_registrationsOf {r : Registration} (hr : r ∈ k.tx.registrationsOf s event) :
    r.eventId = event ∧ reach r.id := by
  rcases List.mem_append.mp hr with hr | hr
  · obtain ⟨hr, he⟩ := List.mem_filter.mp hr
    obtain ⟨id, hid⟩ := Table.mem_values.mp hr
    obtain ⟨rfl, hev, hreach⟩ := htx.rows id r hid
    exact ⟨hev, hreach⟩
  · obtain ⟨hget, hev⟩ := (Store.mem_registrationsOf hk).mp (List.mem_filter.mp hr).1
    exact ⟨hev, hcov.rows r.id r hget hev⟩

private theorem registration?_about {id : RegistrationId} {r : Registration} (hid : reach id)
    (hr : k.tx.registration? s id = some r) : r.eventId = event ∧ reach r.id := by
  rw [Store.registration?_eq, Store.get?_apply, Option.or_eq_some_iff] at hr
  rcases hr with hr | ⟨-, hr⟩
  · obtain ⟨rfl, hev, hreach⟩ := htx.rows id r hr
    exact ⟨hev, hreach⟩
  · obtain rfl := hk id r hr
    rcases hcov.reached _ hid with ⟨r', hr', hev⟩ | ⟨hnone, -⟩
    · rw [hr] at hr'
      exact ⟨Option.some.inj hr' ▸ hev, hid⟩
    · rw [hr] at hnone
      cases hnone

end

private theorem about_write {tx : Tx} {r : Registration} (h : tx.About event reach)
    (hr : r.eventId = event ∧ reach r.id) : (tx.write r).About event reach where
  held := h.held
  rows := by
    intro id x hx
    have hx' : (tx.registrations.insert r.id r).get? id = some x := hx
    rw [Table.get?_insert] at hx'
    split at hx'
    · next hid =>
      obtain rfl := Option.some.inj hx'
      exact ⟨hid.symm, hr.1, hid ▸ hr.2⟩
    · exact h.rows id x hx'
  capacities := h.capacities

/-- A call about the event is answered, and leaves the transaction about it. -/
theorem answerTx_about (hk : s.Keyed) (hcov : s.Covers event reach own) (htx : k.tx.About event reach)
    (hc : c.About event reach) :
    ∃ reply tx, (k.session s).answerTx c = (some reply, { k with tx }.session s) ∧
      c.Answers event reach reply ∧ tx.About event reach := by
  cases c with
  | registrantExists registrant => exact ⟨_, k.tx, rfl, trivial, htx⟩
  | findActive e registrant => exact ⟨_, k.tx, rfl, trivial, htx⟩
  | getRegistration id =>
    refine ⟨_, k.tx, rfl, ?_, htx⟩
    cases hr : k.tx.registration? s id with
    | none => simp [Caller.session, hr, TxCall.Answers]
    | some r =>
      simp only [Caller.session, hr, TxCall.Answers]
      exact registration?_about hk hcov htx hc hr
  | countConfirmed e => exact ⟨_, k.tx, rfl, trivial, htx⟩
  | waitlist e =>
    obtain rfl : e = event := hc
    refine ⟨_, k.tx, rfl, fun r hr => ?_, htx⟩
    have hm := (List.mem_filter.mp ((List.mergeSort_perm _ _).mem_iff.mp hr)).1
    exact mem_tx_registrationsOf hk hcov htx hm
  | insertRegistration r =>
    have hins : k.tx.insertRegistration s r = .ok (k.tx.write r) ∨
        ∃ e, k.tx.insertRegistration s r = .error e := by
      unfold Tx.insertRegistration
      split
      · exact .inr ⟨_, rfl⟩
      · exact .inl rfl
    rcases hins with hins | ⟨e, hins⟩ <;> simp only [Session.answerTx, Caller.session, hins]
    · exact ⟨_, _, rfl, trivial, about_write htx hc⟩
    · exact ⟨_, k.tx, rfl, trivial, htx⟩
  | updateRegistration r =>
    have hupd : k.tx.updateRegistration s r = .ok (k.tx.write r) ∨
        ∃ e, k.tx.updateRegistration s r = .error e := by
      unfold Tx.updateRegistration
      split
      · exact .inl rfl
      · exact .inr ⟨_, rfl⟩
    rcases hupd with hupd | ⟨e, hupd⟩ <;> simp only [Session.answerTx, Caller.session, hupd]
    · exact ⟨_, _, rfl, trivial, about_write htx hc⟩
    · exact ⟨_, k.tx, rfl, trivial, htx⟩
  | updateCapacity e capacity =>
    obtain rfl : e = event := hc
    refine ⟨_, _, rfl, trivial, htx.held, htx.rows, fun id hid => ?_⟩
    rcases Table.mem_keys_insert.mp hid with rfl | hid
    · rfl
    · exact htx.capacities id hid
  | insertMessage m => exact ⟨_, _, rfl, trivial, htx.held, htx.rows, htx.capacities⟩
  | lockEvent _ | commit | rollback | drop => exact hc.elim

end Calls

namespace Store
variable {event other : EventId} {reach reach' own : RegistrationId → Prop} {s s' : Store} {tx : Tx} {k : Caller}
  {op : AllocatorCall}

/-- A registration that is stored and belongs to an event. -/
def Has (s : Store) (x : EventId × RegistrationId) : Prop :=
  ∃ r, s.registrations.get? x.2 = some r ∧ r.eventId = x.1

/-- What the call that ends a transaction leaves of the store. -/
def finish (s : Store) (op : AllocatorCall) (tx : Tx) : Store :=
  (if op.commits s then s.apply tx else s).release tx

private theorem commit_session (s : Store) (k : Caller) :
    (k.session s).commit =
      (if s.failOnCommit then .error (.unavailable "injected commit failure") else .ok (),
        { k with tx := {} }.session (s.finish (.tx .commit) k.tx)) := by
  cases h : s.failOnCommit <;>
    simp [Session.commit, Session.drop, Caller.session, finish, AllocatorCall.commits, h]

/-- A call that ends a transaction gives the same reply on stores that fail their commits alike. -/
theorem answer_end (hop : op.ends) (hf : s.failOnCommit = s'.failOnCommit) :
    ∃ reply, Session.answer op (k.session s) = (some reply, { k with tx := {} }.session (s.finish op k.tx)) ∧
      Session.answer op (k.session s') = (some reply, { k with tx := {} }.session (s'.finish op k.tx)) := by
  cases op with
  | tx c =>
    cases c with
    | commit => exact ⟨_, by rw [Session.answer, Session.answerTx, commit_session],
        by rw [Session.answer, Session.answerTx, commit_session, hf]⟩
    | rollback | drop => exact ⟨_, rfl, rfl⟩
    | _ => cases hop
  | _ => cases hop

section
variable (htx : tx.About event reach) (hcov : s.Covers event reach own)
include htx

private theorem apply_registrations :
    (s.apply tx).registrations = (s.puts tx.registrations.values).registrations := by
  rw [puts_registrations, Table.values, List.foldl_map, apply, Table.union]
  refine List.foldl_ext _ _ _ fun t e he => ?_
  rw [(htx.rows e.1 e.2 (Table.get?_eq_some_iff.mpr he)).1]

private theorem get?_events_apply (hne : other ≠ event) :
    (s.apply tx).events.get? other = s.events.get? other := by
  have hkeys : ∀ entry ∈ tx.capacities.entries, other ≠ entry.1 := fun entry he heq =>
    hne (heq.trans (htx.capacities _ (List.mem_map_of_mem he)))
  rw [apply]
  generalize tx.capacities.entries = entries at hkeys
  generalize s.events = events
  induction entries generalizing events with
  | nil => rfl
  | cons entry entries ih =>
    obtain ⟨hhead, hrest⟩ := List.forall_mem_cons.mp hkeys
    rw [List.foldl_cons, ih hrest, Table.get?_adjust, if_neg hhead]

include hcov

/-- A commit leaves every other event as it was. -/
private theorem apply_agrees (hne : other ≠ event) (hdisj : ∀ id, reach' id → ¬ reach id) :
    s.Agrees other reach' (s.apply tx) where
  found := (get?_events_apply htx hne).symm
  registrants := rfl
  failOnCommit := rfl
  registrationsOf := by
    have hrows : ∀ r ∈ tx.registrations.values, r.eventId = event ∧ reach r.id := by
      intro r hr
      obtain ⟨id, hid⟩ := Table.mem_values.mp hr
      obtain ⟨rfl, hev, hreach⟩ := htx.rows id r hid
      exact ⟨hev, hreach⟩
    have hputs : (s.puts tx.registrations.values).registrationsOf other = s.registrationsOf other := by
      refine registrationsOf_puts_of_ne hne.symm (fun r hr => (hrows r hr).1) fun r hr old hold => ?_
      rcases hcov.reached _ (hrows r hr).2 with ⟨r', hr', hev⟩ | ⟨hnone, -⟩
      · rw [hold] at hr'
        exact Option.some.inj hr' ▸ hev
      · rw [hold] at hnone
        cases hnone
    rw [← hputs, Store.registrationsOf, Store.registrationsOf, apply_registrations htx]
  reached := by
    intro id hid
    rw [get?_apply]
    cases hrow : tx.registrations.get? id with
    | none => rfl
    | some r => exact absurd (htx.rows id r hrow).2.2 (hdisj id hid)

theorem Has.apply {x : EventId × RegistrationId} (h : s.Has x) : (s.apply tx).Has x := by
  obtain ⟨r, hr, hev⟩ := h
  cases hrow : tx.registrations.get? x.2 with
  | none => exact ⟨r, by rw [get?_apply, hrow, Option.none_or, hr], hev⟩
  | some r' =>
    obtain ⟨-, hev', hreach⟩ := htx.rows _ r' hrow
    refine ⟨r', by rw [get?_apply, hrow, Option.some_or], hev'.trans ?_⟩
    rcases hcov.reached _ hreach with ⟨old, hold, hevold⟩ | ⟨hnone, -⟩
    · rw [hr] at hold
      rw [← hevold, ← Option.some.inj hold, hev]
    · rw [hr] at hnone
      cases hnone

private theorem isSome_apply {id : RegistrationId} (h : ((s.apply tx).registrations.get? id).isSome) :
    (s.registrations.get? id).isSome ∨ own id := by
  rw [get?_apply] at h
  cases hrow : tx.registrations.get? id with
  | none => rw [hrow] at h; exact .inl h
  | some r =>
    rcases hcov.reached id (htx.rows id r hrow).2.2 with ⟨r', hr', -⟩ | ⟨-, hown⟩
    · exact .inl (by rw [hr']; rfl)
    · exact .inr hown

end

private theorem apply_events_keyed (hk : s.events.KeyedBy ScheduledEvent.id) :
    (s.apply tx).events.KeyedBy ScheduledEvent.id := by
  rw [apply]
  generalize tx.capacities.entries = entries
  generalize s.events = events at hk
  induction entries generalizing events with
  | nil => exact hk
  | cons entry entries ih => exact ih _ (hk.adjust entry.1 fun _ => rfl)

/-! The end of a transaction on one event. -/

section
variable (htx : tx.About event reach)
include htx

theorem finish_keyed (hk : s.Keyed) : (s.finish op tx).Keyed := by
  rw [finish]
  split
  · exact hk.apply fun id r hr => (htx.rows id r hr).1
  · exact hk

variable (hcov : s.Covers event reach own)
include hcov

theorem finish_agrees (hne : other ≠ event) (hdisj : ∀ id, reach' id → ¬ reach id) :
    s.Agrees other reach' (s.finish op tx) := by
  rw [finish]
  split
  · have h := apply_agrees htx hcov hne hdisj
    exact ⟨h.found, h.registrants, h.failOnCommit, h.registrationsOf, h.reached⟩
  · exact ⟨rfl, rfl, rfl, rfl, fun _ _ => rfl⟩

theorem Has.finish {x : EventId × RegistrationId} (h : s.Has x) : (s.finish op tx).Has x := by
  rw [Store.finish]
  split
  · exact h.apply htx hcov
  · exact h

theorem isSome_finish {id : RegistrationId} (h : ((s.finish op tx).registrations.get? id).isSome) :
    (s.registrations.get? id).isSome ∨ own id := by
  rw [finish] at h
  split at h
  · exact isSome_apply htx hcov h
  · exact .inl h

end

theorem finish_events_keyed (hk : s.events.KeyedBy ScheduledEvent.id) :
    (s.finish op tx).events.KeyedBy ScheduledEvent.id := by
  rw [finish]
  split
  · exact apply_events_keyed hk
  · exact hk

end Store
end Turnstile
