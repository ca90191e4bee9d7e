import Turnstile.Proofs.Allocation.Invariant
import Turnstile.Proofs.Allocation.Rounds

/-!
More seats for an event are filled from its waitlist, one in each round, until all are given or nobody waits. What
is returned tells every change of every round, so the last that it tells of a registration is what is stored.
-/

namespace Turnstile
open scoped List

namespace Store
variable {s s' : Store} {event : EventId} {e : ScheduledEvent} {k : Nat} {clock : Supply Instant}

/-- What a new capacity and `k` rounds, with the clock that they read, make of a store. -/
structure Filled (s' s : Store) (event : EventId) (capacity : UInt32) (k : Nat) (clock : Supply Instant) : Prop where
  events : ∀ id, s'.events.get? id =
    (s.events.get? id).map fun e => if id = event then { e with capacity } else e
  registrations : ∀ id, s'.registrations.get? id =
    (s.registrations.get? id).map fun r =>
      if r.eventId = event ∧ r.status = .waitlisted then r.afterRounds k clock else r
  outbox : ∃ rows, s'.outbox = s.outbox ++ rows ∧
    List.Forall₂ OutboxMessage.Announces rows (((s.queue event).take k).map Registration.subject |>.mapIdx
      fun i subject => .promoted subject 1 (clock.skip i).next)
  registrants : s'.registrants = s.registrants
  locked : s'.locked = s.locked
  failOnCommit : s'.failOnCommit = s.failOnCommit

/-- The last that is told of a registration is stored, and exactly the changed ones are told of. -/
structure Told (s' s : Store) (told : List Tracked) : Prop where
  last : ∀ pre t post, told = pre ++ t :: post →
    t.registration.id ∉ post.map (·.registration.id) →
    s'.registrations.get? t.registration.id = some t.registration
  changed : ∀ id, id ∈ told.map (·.registration.id) ↔ s'.registrations.get? id ≠ s.registrations.get? id

theorem announce_announce (s : Store) (a b : List OutboxMessage) : (s.announce a).announce b = s.announce (a ++ b) := by
  simp [announce]

theorem puts_announce (s : Store) (rs : List Registration) (messages : List OutboxMessage) :
    (s.announce messages).puts rs = (s.puts rs).announce messages := by
  induction rs generalizing s with
  | nil => rfl
  | cons r rs ih => exact ih (s.put r)

theorem setCapacity_self (he : s.events.get? event = some e) : s.setCapacity event e.capacity = s := by
  rw [setCapacity, Table.adjust, he]
  exact congrArg (fun events => { s with events }) (Table.insert_eq_self he)

private theorem registrations_filled (s : Store) (event : EventId) (capacity : UInt32) (rs : List Registration)
    (messages : List OutboxMessage) :
    (((s.setCapacity event capacity).puts rs).announce messages).registrations = (s.puts rs).registrations := by
  rw [puts_registrations]
  exact puts_registrations

section
variable (hl : s.Lawful) (he : s.events.get? e.id = some e)
include hl he

/-- Those who wait are stored under their own identifiers, and are numbered. -/
private theorem Lawful.waitlist :
    ((s.queue e.id).map Registration.id).Nodup ∧ NumberedFrom 1 (s.queue e.id) ∧
      ∀ r, r ∈ s.queue e.id ↔ s.registrations.get? r.id = some r ∧ r.eventId = e.id ∧ r.status = .waitlisted := by
  refine ⟨?_, (hl.sound _ _ he).numberedFrom, fun r => by rw [mem_queue, mem_waiting hl.keyed]⟩
  refine (((s.queue_perm e.id).map Registration.id).nodup_iff).mpr ?_
  exact (s.nodup_ids hl.keyed e.id).sublist (List.filter_sublist.map _)

theorem get?_puts_rounds_of_lawful (id : RegistrationId) :
    (s.puts ((Tracked.rounds k clock (s.queue e.id)).flatten.map Tracked.registration)).registrations.get? id =
      (s.registrations.get? id).map fun r =>
        if r.eventId = e.id ∧ r.status = .waitlisted then r.afterRounds k clock else r := by
  obtain ⟨hn, hnum, hmem⟩ := hl.waitlist he
  by_cases hin : id ∈ (s.queue e.id).map Registration.id
  · obtain ⟨r, hr, rfl⟩ := List.mem_map.mp hin
    obtain ⟨hget, hwaits⟩ := (hmem r).mp hr
    rw [get?_puts_rounds hn hnum (fun x hx => ((hmem x).mp hx).1) hr, hget, Option.map_some, if_pos hwaits]
  · rw [get?_puts_of_notMem]
    · cases hget : s.registrations.get? id with
      | none => rfl
      | some r =>
        obtain rfl := hl.keyed _ _ hget
        rw [Option.map_some, if_neg fun hwaits => hin (List.mem_map_of_mem ((hmem r).mpr ⟨hget, hwaits⟩))]
    · intro hwritten
      rw [List.map_map] at hwritten
      exact hin (Tracked.map_id_rounds_subset hwritten)

/-- The rows of the rounds, written after a new capacity was, and what is announced of them. -/
theorem filled_puts_rounds (capacity : UInt32) (ids : IdSupply) :
    let rows := Tracked.rounds k clock (s.queue e.id)
    (((s.setCapacity e.id capacity).puts (rows.flatten.map Tracked.registration)).announce
      (announcements ids (announced rows.flatten))).Filled s e.id capacity k clock := by
  intro rows
  constructor
  case events =>
    intro id
    refine (congrArg (Table.get? · id) puts_events).trans ?_
    rw [setCapacity, Table.get?_adjust]
    split
    · next hid =>
      subst hid
      rfl
    · rw [Option.map_id']
  case registrations =>
    intro id
    rw [registrations_filled, get?_puts_rounds_of_lawful hl he]
  case outbox =>
    refine ⟨_, congrArg (· ++ _) puts_outbox, ?_⟩
    rw [← Tracked.announced_rounds (hl.waitlist he).2.1]
    exact announces_announcements _ _
  case registrants => exact puts_registrants
  case locked => exact puts_locked
  case failOnCommit => exact puts_failOnCommit

theorem told_puts_rounds (capacity : UInt32) (ids : IdSupply) :
    let rows := Tracked.rounds k clock (s.queue e.id)
    (((s.setCapacity e.id capacity).puts (rows.flatten.map Tracked.registration)).announce
      (announcements ids (announced rows.flatten))).Told s rows.flatten := by
  intro rows
  constructor
  case last =>
    intro pre t post hsplit hlast
    rw [registrations_filled, hsplit, List.map_append, List.map_cons]
    exact get?_puts_last (by rwa [List.map_map])
  case changed =>
    intro id
    rw [registrations_filled]
    constructor
    · intro hin
      have hk : k ≠ 0 := by
        rintro rfl
        simp [rows, Tracked.rounds] at hin
      obtain ⟨-, hnum, hmem⟩ := hl.waitlist he
      obtain ⟨r, hr, rfl⟩ := List.mem_map.mp (Tracked.map_id_rounds_subset hin)
      obtain ⟨hget, hwaits⟩ := (hmem r).mp hr
      obtain ⟨p, hp, hle, -⟩ := hnum.rank_bounds hr
      obtain ⟨p, rfl⟩ := Nat.exists_eq_add_of_le' hle
      rw [get?_puts_rounds_of_lawful hl he, hget, Option.map_some, if_pos hwaits]
      exact fun heq => Registration.afterRounds_ne hp hwaits.2 hk (Option.some.inj heq)
    · intro hne
      by_contra hout
      exact hne (get?_puts_of_notMem (by rwa [List.map_map]))

end

end Store

namespace Allocate
variable {s s' : Session} {event : EventId} {e : ScheduledEvent} {rounds : List (List Tracked)}

/-- Rounds that each change something, and one more that does not. -/
inductive Rounds (event : EventId) : Session → List (List Tracked) → Session → Prop where
  | last {s s' : Session} (h : (promoteStep event).on s = (some (.ok none), s')) : Rounds event s [] s'
  | more {s s₁ s' : Session} {changed : List Tracked} {rounds : List (List Tracked)}
    (h : (promoteStep event).on s = (some (.ok (some changed)), s₁)) (rest : Rounds event s₁ rounds s') :
    Rounds event s (changed :: rounds) s'

/-- The loop ends with the round that changes nothing, if it may run that often. -/
theorem on_promoteAll (h : Rounds event s rounds s') {limit : Nat} (hlt : rounds.length < limit)
    (done : List Tracked) : (promoteAll event limit done).on s = (some (.ok (done ++ rounds.flatten)), s') := by
  induction h generalizing limit done with
  | last h =>
    obtain ⟨limit, rfl⟩ := Nat.exists_eq_add_of_lt hlt
    rw [promoteAll, on_bind_ok h, List.flatten_nil, List.append_nil]
    rfl
  | @more s s₁ s' changed rounds h rest ih =>
    obtain ⟨limit, rfl⟩ : ∃ l, limit = l + 1 := ⟨limit - 1, by omega⟩
    rw [promoteAll, on_bind_ok h, List.flatten_cons, ← List.append_assoc]
    exact ih (Nat.lt_of_succ_lt_succ hlt) (done ++ changed)

section
variable (hi : s.Idle) (hl : s.store.Lawful) (hc : ¬ s.store.failOnCommit = true)
  (he : s.store.events.get? e.id = some e)
include hi hl he

/-- A round changes nothing if all seats are given or nobody waits. -/
theorem on_promoteStep_idle
    (h : e.capacity.toNat ≤ (s.store.seated e.id).length ∨ s.store.queue e.id = []) :
    (promoteStep e.id).on s = (some (.ok none), s.tick) := by
  rw [on_promoteStep hi hl, show s.tick.store = s.store from rfl, Decision.promoteStep, he]
  cases hq : s.store.queue e.id with
  | nil => rfl
  | cons r behind =>
    rcases h with hfull | hnone
    · dsimp only
      rw [if_pos hfull]
      rfl
    · simp [hq] at hnone

include hc

/-- A round seats the first who waits if there is a free seat, and the next one finds the others moved up. -/
theorem on_promoteStep_seats {r : Registration} {behind : List Registration} (hq : s.store.queue e.id = r :: behind)
    (hfree : (s.store.seated e.id).length < e.capacity.toNat) :
    let changed := (Tracked.seatedAt r s.clock.next).ahead behind s.clock.next
    ∃ s', (promoteStep e.id).on s = (some (.ok (some changed)), s') ∧ s'.Idle ∧ s'.store.Lawful ∧
      s'.store = (s.store.puts (changed.map Tracked.registration)).announce (announcements s.ids (announced changed)) ∧
      s'.clock = s.clock.skip 1 ∧ s'.ids = s.ids.skip (announced changed).length ∧
      s'.store.queue e.id = behind.map (fun x => x.movedUpAt s.clock.next) ∧
      (s'.store.seated e.id).length = (s.store.seated e.id).length + 1 := by
  intro changed
  have hdecision : Decision.promoteStep s.store e.id s.clock.next = .write 0 changed [.promotions] (some changed) := by
    unfold Decision.promoteStep
    simp only [he, hq, if_neg (Nat.not_le_of_lt hfree)]
    rfl
  have hstep := on_promoteStep hi hl e.id
  rw [show s.tick.store = s.store from rfl, hdecision, Decision.outcome, Decision.enact, if_neg (by exact hc),
    Nat.zero_add] at hstep
  have hmoves : Store.Moves (fun _ => False) e s.store changed := .single (.seat_first hq hfree s.clock.next)
  have hrows : changed.map Tracked.registration = Store.departure (r.seatedAt s.clock.next) behind s.clock.next :=
    Tracked.map_registration_ahead _ _ _
  have hleft := Registration.left_seatedAt r s.clock.next
  have hqueue := (Store.queue_departure (hl.sound _ _ he) hl.keyed (show _ = [] ++ r :: behind from hq) hleft
    s.clock.next).1
  have hseated := (Store.seated_departure hl.keyed (show _ = [] ++ r :: (behind ++ []) by simpa using hq) hleft
    s.clock.next).length_eq
  rw [if_pos (by simp [Registration.isConfirmed]), List.length_cons] at hseated
  rw [← hrows] at hqueue hseated
  refine ⟨_, hstep, ⟨hi.tx, Store.puts_locked.trans hi.locked⟩, ?_, rfl, rfl, rfl, hqueue, hseated⟩
  exact Store.Step.lawful (.write he hmoves (announces_announcements _ _)) hl

end

/-- A round that changes something takes one from those who wait. -/
private theorem promoteStep_takes (hi : s.Idle) (hl : s.store.Lawful) {changed : List Tracked}
    (h : (promoteStep event).on s = (some (.ok (some changed)), s')) :
    s'.Idle ∧ s'.store.Lawful ∧ (s.store.queue event).length = (s'.store.queue event).length + 1 := by
  have hstep := on_promoteStep hi hl event
  rw [h, show s.tick.store = s.store from rfl, Decision.promoteStep] at hstep
  cases he : s.store.events.get? event with
  | none =>
    rw [he] at hstep
    cases hstep
  | some e =>
    obtain rfl := hl.events_keyed _ _ he
    by_cases hidle : e.capacity.toNat ≤ (s.store.seated e.id).length ∨ s.store.queue e.id = []
    · cases h.symm.trans (on_promoteStep_idle hi hl he hidle)
    obtain ⟨hfree, hsome⟩ := not_or.mp hidle
    obtain ⟨r, behind, hq⟩ := List.exists_cons_of_ne_nil hsome
    by_cases hc : s.store.failOnCommit = true
    · rw [he, hq] at hstep
      dsimp only at hstep
      rw [if_neg hfree, Decision.outcome, Decision.enact, if_pos (by exact hc)] at hstep
      cases hstep
    · obtain ⟨s₁, hseats, hi₁, hl₁, -, -, -, hqueue, -⟩ := on_promoteStep_seats hi hl hc he hq (Nat.lt_of_not_le hfree)
      obtain rfl := (Prod.mk.inj (h.symm.trans hseats)).2
      exact ⟨hi₁, hl₁, by rw [hqueue, hq, List.length_map, List.length_cons]⟩

/-- With any limit beyond the number of those who wait the rounds are the same: they come to their end before it. -/
theorem promoteAll_limit (hi : s.Idle) (hl : s.store.Lawful) {limit limit' : Nat}
    (hlt : (s.store.queue event).length < limit) (hlt' : (s.store.queue event).length < limit') (done : List Tracked) :
    (promoteAll event limit done).on s = (promoteAll event limit' done).on s := by
  induction limit generalizing s limit' done with
  | zero => exact absurd hlt (Nat.not_lt_zero _)
  | succ limit ih =>
    obtain ⟨limit', rfl⟩ : ∃ l, limit' = l + 1 := ⟨limit' - 1, by omega⟩
    rw [promoteAll, promoteAll, on_bind, on_bind]
    rcases hstep : (promoteStep event).on s with ⟨_ | _ | _ | changed, s₁⟩
    · rfl
    · rfl
    · rfl
    · obtain ⟨hi₁, hl₁, hlen⟩ := promoteStep_takes hi hl hstep
      exact ih hi₁ hl₁ (by omega) (by omega) (done ++ changed)

/-- No waitlist has more places than the limit of the rounds, so no command runs into it. -/
theorem increaseCapacity_limit (hi : s.Idle) (hl : s.store.Lawful) (event : EventId) (capacity : UInt32) {limit : Nat}
    (hlimit : maxWaitlist ≤ limit) :
    (command (.increaseCapacity event capacity)).on s =
      (do return { affected := ← promoteAll (← raiseCapacity event capacity) limit [] } :
        Allocate Allocation).on s := by
  rw [command, increaseCapacity, on_bind, on_bind, on_raiseCapacity hi hl, Decision.raiseCapacity]
  cases he : s.store.events.get? event with
  | none => rfl
  | some e =>
    obtain rfl := hl.events_keyed _ _ he
    have hshort := (hl.sound _ _ he).numberedFrom.length_lt (by decide)
    have hlt : (s.store.queue e.id).length < maxWaitlist := by
      rw [maxWaitlist]
      omega
    have hsame {s : Session} (hi : s.Idle) (hl : s.store.Lawful) (hlt : (s.store.queue e.id).length < maxWaitlist) :
        (do return { affected := ← promoteAll e.id maxWaitlist [] } : Allocate Allocation).on s =
          (do return { affected := ← promoteAll e.id limit [] } : Allocate Allocation).on s := by
      rw [on_bind, on_bind, promoteAll_limit hi hl hlt (Nat.lt_of_lt_of_le hlt hlimit)]
    dsimp only
    by_cases hless : capacity < e.capacity
    · rw [if_pos hless]
      rfl
    rw [if_neg hless]
    by_cases hmore : e.capacity < capacity
    · rw [if_pos hmore, Decision.outcome, Decision.enact]
      by_cases hfail : s.store.failOnCommit = true
      · rw [if_pos hfail]
        rfl
      · rw [if_neg hfail]
        exact hsame ⟨hi.tx, hi.locked⟩ (hl.setCapacity he (UInt32.le_of_lt hmore)) hlt
    · rw [if_neg hmore]
      exact hsame hi hl hlt

/-- From a sound event on, as many rounds change something as there are free seats and people who wait. -/
theorem rounds_fill {k : Nat} (hi : s.Idle) (hl : s.store.Lawful) (hc : ¬ s.store.failOnCommit = true)
    (he : s.store.events.get? e.id = some e)
    (hk : k = min (e.capacity.toNat - (s.store.seated e.id).length) (s.store.queue e.id).length) :
    let rows := Tracked.rounds k s.clock (s.store.queue e.id)
    ∃ s', Rounds e.id s rows s' ∧
      s'.store = (s.store.puts (rows.flatten.map Tracked.registration)).announce
        (announcements s.ids (announced rows.flatten)) := by
  induction k generalizing s with
  | zero =>
    refine ⟨s.tick, .last (on_promoteStep_idle hi hl he ?_), ?_⟩
    · rw [← List.length_eq_zero_iff]
      omega
    · simp [Tracked.rounds, announced, announcements, Store.announce, Session.tick]
  | succ k ih =>
    cases hq : s.store.queue e.id with
    | nil => simp [hq] at hk
    | cons r behind =>
      -- A round takes one from the free seats and one from those who wait, so their minimum is `k` afterwards.
      rw [hq, List.length_cons] at hk
      obtain ⟨s₁, hstep, hi₁, hl₁, hstore₁, hclock, hids, hqueue, hseated⟩ :=
        on_promoteStep_seats hi hl hc he hq (by omega)
      have hc₁ : ¬ s₁.store.failOnCommit = true := by
        rw [hstore₁]
        exact fun hf => hc (Store.puts_failOnCommit.symm.trans hf)
      have he₁ : s₁.store.events.get? e.id = some e := by
        rw [hstore₁]
        exact (congrArg (Table.get? · e.id) Store.puts_events).trans he
      obtain ⟨s', hrest, hstore⟩ := ih hi₁ hl₁ hc₁ he₁ (by rw [hqueue, hseated, List.length_map]; omega)
      rw [hqueue, hclock] at hrest hstore
      refine ⟨s', .more hstep hrest, ?_⟩
      rw [hstore, hstore₁, hids, Tracked.rounds, List.flatten_cons, List.map_append, announced_append,
        announcements_append, Store.puts_announce, Store.announce_announce, Store.puts_append]

/-- The new capacity is written, unless it is the one that the event has. -/
theorem on_raiseCapacity_of_le (hi : s.Idle) (hl : s.store.Lawful) (hc : ¬ s.store.failOnCommit = true)
    (he : s.store.events.get? e.id = some e) {capacity : UInt32} (hle : e.capacity ≤ capacity) :
    (raiseCapacity e.id capacity).on s =
      (some (.ok e.id), { s with store := s.store.setCapacity e.id capacity }) := by
  rw [on_raiseCapacity hi hl, Decision.raiseCapacity, he]
  dsimp only
  rw [if_neg (UInt32.not_lt.mpr hle)]
  by_cases hlt : e.capacity < capacity
  · rw [if_pos hlt, Decision.outcome, Decision.enact, if_neg hc]
    rfl
  · obtain rfl := UInt32.le_antisymm hle (UInt32.not_lt.mp hlt)
    rw [if_neg hlt, Store.setCapacity_self he]
    rfl

/-- A smaller capacity is refused and changes nothing. Any other is written, and then the first who wait are seated
one after the other, `k` of them, where `k` is the number of free seats or of those who wait, if these are fewer. The
limit of the rounds does not matter. -/
theorem increaseCapacity_fills {s : Session} (hi : s.Idle) (hl : s.store.Lawful)
    (hc : ¬ s.store.failOnCommit = true) {event : EventId} {e : ScheduledEvent}
    (he : s.store.events.get? event = some e) (capacity : UInt32) :
    let k := min (capacity.toNat - (s.store.seated event).length) (s.store.waiting event).length
    (capacity < e.capacity →
      (command (.increaseCapacity event capacity)).on s =
        (some (.error (.invalidCapacity event e.capacity capacity)), s)) ∧
    (e.capacity ≤ capacity →
      ∃ s₁ rounds s', (raiseCapacity event capacity).on s = (some (.ok event), s₁) ∧
        Rounds event s₁ rounds s' ∧ rounds.length = k ∧
        (command (.increaseCapacity event capacity)).on s = (some (.ok { affected := rounds.flatten }), s') ∧
        s'.store.Filled s.store event capacity k s.clock ∧
        rounds.flatten.length = ((List.range k).map ((s.store.waiting event).length - ·)).sum ∧
        s'.store.Told s.store rounds.flatten) ∧
    ∀ limit, maxWaitlist ≤ limit → (command (.increaseCapacity event capacity)).on s =
      (do return { affected := ← promoteAll (← raiseCapacity event capacity) limit [] } :
        Allocate Allocation).on s := by
  intro k
  obtain rfl := hl.events_keyed _ _ he
  refine ⟨?_, ?_, fun _ => increaseCapacity_limit hi hl e.id capacity⟩
  · intro hlt
    have hraise := on_raiseCapacity hi hl e.id capacity
    rw [Decision.raiseCapacity, he] at hraise
    dsimp only at hraise
    rw [if_pos hlt] at hraise
    exact on_bind_error hraise _
  · intro hle
    have hraise := on_raiseCapacity_of_le hi hl hc he hle
    have he₁ : (s.store.setCapacity e.id capacity).events.get? e.id = some { e with capacity } := by
      rw [Store.setCapacity, Table.get?_adjust, if_pos rfl, he]
      rfl
    have hlen := (s.store.queue_perm e.id).length_eq
    have hk : k ≤ (s.store.queue e.id).length := by
      rw [hlen]
      exact Nat.min_le_right _ _
    have hshort := (hl.sound _ _ he).numberedFrom.length_lt (by decide)
    let rows := Tracked.rounds k s.clock (s.store.queue e.id)
    obtain ⟨s', hrounds, hstore⟩ : ∃ s', Rounds e.id { s with store := s.store.setCapacity e.id capacity } rows s' ∧
        s'.store = ((s.store.setCapacity e.id capacity).puts (rows.flatten.map Tracked.registration)).announce
          (announcements s.ids (announced rows.flatten)) :=
      @rounds_fill _ { e with capacity } k ⟨hi.tx, hi.locked⟩ (hl.setCapacity he hle) hc he₁
        (congrArg (min _) hlen.symm)
    have hcount : rows.length = k := Tracked.length_rounds hk
    refine ⟨_, _, s', hraise, hrounds, hcount, ?_, ?_, ?_, ?_⟩
    · have hlt : rows.length < maxWaitlist := by
        rw [hcount, maxWaitlist]
        omega
      refine (on_bind_ok hraise _).trans ?_
      exact on_bind_ok (on_promoteAll hrounds hlt []) _
    · rw [hstore]
      exact Store.filled_puts_rounds hl he capacity s.ids
    · rw [← hlen]
      exact Tracked.length_flatten_rounds hk
    · rw [hstore]
      exact Store.told_puts_rounds hl he capacity s.ids

/-- Two wait, and a second seat is added. -/
theorem increaseCapacity_fills_secondSeat :
    let s := Session.oneSeatTwoWaiting
    let event := ScheduledEvent.oneSeat.id
    ∃ s₁ rounds s', (raiseCapacity event 2).on s = (some (.ok event), s₁) ∧ Rounds event s₁ rounds s' ∧
      rounds.length = 1 ∧ (command (.increaseCapacity event 2)).on s = (some (.ok { affected := rounds.flatten }), s') ∧
      s'.store.Filled s.store event 2 1 s.clock ∧ rounds.flatten.length = 2 ∧ s'.store.Told s.store rounds.flatten := by
  intro s event
  have hs := Session.oneSeatTwoWaiting_consistent
  have he : s.store.events.get? event = some .oneSeat := by decide +kernel
  have hseated : (s.store.seated event).length = 1 := by decide +kernel
  have hwaiting : (s.store.waiting event).length = 2 := by decide +kernel
  have h := (increaseCapacity_fills hs.idle hs.lawful (by decide +kernel) he 2).2.1 (by decide)
  rw [hseated, hwaiting] at h
  exact h

end Allocate
end Turnstile
