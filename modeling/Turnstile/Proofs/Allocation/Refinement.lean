import Turnstile.Proofs.Allocation.Abstraction
import Turnstile.Proofs.Allocation.Invariant

/-!
Every command in one transaction does to the store what it does to the hall that the store describes: the same answer,
the same refusal, and the hall afterwards is the one that the store describes then.
-/

namespace Turnstile

namespace Store
variable {s : Store}

/-- A store that answered a command with `reply` and is `s'` now did what the command of the hall does. -/
def Simulates (s : Store) (reply : Except AllocationError Allocation) (s' : Store) :
    Except AllocationError (Hall × Report) → Prop
  | .error cause => reply = .error cause ∧ s' = s
  | .ok (hall, report) =>
    ∃ a, reply = .ok a ∧ s'.hall = hall ∧ a.report = report ∧ ∀ t ∈ a.changed, hall.Shows t.registration

theorem roll_hall (s : Store) (event : EventId) :
    s.hall.roll event =
      match s.events.get? event with
      | none => .error (.eventNotFound event)
      | some e => .ok (s.roll e) := by
  rw [Hall.roll, hall_rolls]
  cases s.events.get? event <;> rfl

theorem locate_hall (s : Store) (id : RegistrationId) :
    s.hall.locate id =
      match s.registrations.get? id with
      | none => .error (.registrationNotFound id)
      | some r =>
        match s.events.get? r.eventId with
        | none => .error (.eventNotFound r.eventId)
        | some e => .ok (r.eventId, s.roll e) := by
  rw [Hall.locate, hall_holders]
  cases s.registrations.get? id with
  | none => rfl
  | some r =>
    simp only [Option.map_some, roll_hall]
    cases s.events.get? r.eventId <;> rfl

/-- Those on the roll of an event are those with an active registration. -/
theorem holds_hall (hk : s.Keyed) (e : ScheduledEvent) (registrant : RegistrantId) :
    s.hall.Holds (s.roll e) registrant ↔ (s.active e.id).any (·.registrantId = registrant) = true := by
  have hstored {x : Registration} (hx : x ∈ s.registrationsOf e.id) :
      s.hall.holders x.id = some (x.eventId, x.registrantId) := by
    simp [((mem_registrationsOf hk).mp hx).1]
  have hactive (x : Registration) : x ∈ s.active e.id ↔ x ∈ s.seated e.id ∨ x ∈ s.queue e.id := by
    simp only [active, seated, mem_queue, waiting, List.mem_filter, ← and_or_left]
    cases hst : x.status <;>
      simp [Registration.isActive, Registration.isConfirmed, Registration.isWaitlisted, RegistrationStatus.isActive,
        hst]
  have hin (id : RegistrationId) :
      id ∈ (s.roll e).seated ∪ (s.roll e).waiting.toFinset ↔ ∃ x ∈ s.active e.id, x.id = id := by
    simp only [roll, Finset.mem_union, List.mem_toFinset, List.mem_map, hactive, or_and_right, exists_or]
  simp only [Hall.Holds, hin, List.any_eq_true, decide_eq_true_eq]
  constructor
  · rintro ⟨_, ⟨x, hx, rfl⟩, hreg⟩
    rw [hstored (List.mem_filter.mp hx).1] at hreg
    exact ⟨x, hx, by simpa using hreg⟩
  · rintro ⟨x, hx, rfl⟩
    refine ⟨x.id, ⟨x, hx, rfl⟩, ?_⟩
    rw [hstored (List.mem_filter.mp hx).1]
    rfl

end Store

namespace Decision
variable {s : Store} {e : ScheduledEvent} {r : Registration}

/-- A decision is what the hall answers with. -/
inductive Refines (s : Store) : Decision Allocation → Except AllocationError (Hall × Report) → Prop where
  | refuse (cause : AllocationError) : Refines s (.refuse cause) (.error cause)
  | leave {a : Allocation} (h : ∀ t ∈ a.changed, s.hall.Shows t.registration) :
    Refines s (.leave a) (.ok (s.hall, a.report))
  | write {rows : List Tracked} {a : Allocation} {hall : Hall} {report : Report} (fresh : Nat)
    (counted : List Counter) (hw : (s.puts (rows.map Tracked.registration)).hall = hall) (hr : a.report = report) :
    Refines s (.write fresh rows counted a) (.ok (hall, report))

section
variable (hl : s.Lawful)
include hl

private theorem refines_enter (he : s.events.get? e.id = some e) (registrant : RegistrantId) {id : RegistrationId}
    (hid : s.registrations.get? id = none) (hroom : (s.waiting e.id).length + 1 < UInt32.size) (now : Instant) :
    (enter s e registrant now id).Refines s
      (.ok ((s.hall.setRoll e.id ((s.roll e).enter id)).setHolder id e.id registrant, { target := some id })) := by
  have hput {t : Tracked} (htid : t.registration.id = id) (hte : t.registration.eventId = e.id)
      (htr : t.registration.registrantId = registrant) (hr : s.Enters e t.registration)
      (hfull : t.registration.status = .waitlisted → (s.roll e).Full) :
      (s.puts ([t].map Tracked.registration)).hall =
        (s.hall.setRoll e.id ((s.roll e).enter id)).setHolder id e.id registrant := by
    have hover : s.Over e [t.registration] := by simp [Store.Over, hte, htid, hid]
    have hroll := Store.roll_enter hl.keyed (hl.sound _ _ he) (htid ▸ hid) hte hr hfull
    rw [List.map_singleton, Store.hall_puts hl he hover, Store.puts_cons, Store.puts_nil, hroll, Store.holders_put,
      htid, hte, htr]
    rfl
  have hlength := (s.queue_perm e.id).length_eq
  rw [enter]
  by_cases hfree : (s.seated e.id).length < e.capacity.toNat
  · rw [if_pos hfree]
    exact .write _ _ (hput rfl rfl rfl (.inl ⟨rfl, rfl, hfree⟩) fun h => by cases h) rfl
  · rw [if_neg hfree, hlength, if_pos hroom]
    have hrank := congrArg some (toNat_ofNat_succ hroom)
    exact .write _ _ (hput rfl rfl rfl (.inr ⟨rfl, hrank⟩) fun _ =>
      (Store.full_roll hl.keyed).mpr (Nat.le_of_not_lt hfree)) rfl

theorem refines_register (event : EventId) (registrant : RegistrantId) (now : Instant) {id : RegistrationId}
    (hid : s.registrations.get? id = none) (hroom : (s.waiting event).length + 1 < UInt32.size) :
    (register s event registrant now id).Refines s (s.hall.register event registrant now id) := by
  rw [register, Hall.register, Store.roll_hall]
  cases he : s.events.get? event with
  | none => exact .refuse _
  | some e =>
    obtain rfl := hl.events_keyed _ _ he
    have hopens : s.hall.opens e.id now = e.isOpen now := by simp [he]
    dsimp only [bind, Except.bind]
    rw [Store.hall_registrants, hopens]
    simp only [Store.holds_hall hl.keyed]
    split
    · exact .refuse _
    split
    · exact .refuse _
    split
    · exact .refuse _
    · exact refines_enter hl he registrant hid hroom now

section
variable (he : s.events.get? r.eventId = some e) (hr : s.registrations.get? r.id = some r)
include he hr

/-- One leaves the waitlist and those behind move up: in the hall a name is taken from the list. -/
private theorem refines_departure (hst : r.status = .waitlisted) {t : Tracked} (ht : t.registration.Left r)
    (now : Instant) (counted : List Counter) :
    (replace t ((s.behind r).map fun x => .movedUpAt x now) counted).Refines s
      (.ok (s.hall.setRoll r.eventId
        (if t.registration.isConfirmed then (s.roll e).seat r.id else (s.roll e).withdraw r.id),
        ⟨some r.id, (s.roll e).behind r.id⟩)) := by
  obtain ⟨pre, hq⟩ := queue_split hl he hr hst
  have hide := hl.events_keyed _ _ he
  rw [← hide] at he
  refine .write _ _ ?_ ?_
  · rw [← hide, ← Store.hall_departure hl he hq ht now, ← Tracked.map_registration_ahead]
    rfl
  · rw [Store.behind_roll hl.keyed hq]
    simp [Allocation.report, ht.id, Function.comp_def]

private theorem refines_seat (hst : r.status = .waitlisted) (now : Instant) :
    (seat s r now).Refines s
      (.ok (s.hall.setRoll r.eventId ((s.roll e).seat r.id), ⟨some r.id, (s.roll e).behind r.id⟩)) :=
  refines_departure hl he hr hst (Registration.left_seatedAt r now) now _

private theorem refines_cancelPlace (hst : r.status = .waitlisted) (now : Instant) :
    (cancelPlace s r now).Refines s
      (.ok (s.hall.setRoll r.eventId ((s.roll e).withdraw r.id), ⟨some r.id, (s.roll e).behind r.id⟩)) :=
  refines_departure hl he hr hst (Registration.left_cancelledAt r now) now _

private theorem refines_cancelSeat (hst : r.status = .confirmed) (now : Instant) :
    (cancelSeat s r now).Refines s
      (.ok (s.hall.setRoll r.eventId ((s.roll e).vacate r.id), ⟨some r.id, (s.roll e).waiting⟩)) := by
  have hide := hl.events_keyed _ _ he
  have hm : r ∈ s.seated e.id := (Store.mem_seated hl.keyed).mpr ⟨hr, hide.symm, hst⟩
  rw [← hide] at he
  refine .write _ _ ?_ ?_
  · rw [← hide, ← Store.hall_vacate hl he hm now]
  · rw [← hide, Store.roll]
    cases s.queue e.id <;> simp [Allocation.report, Tracked.advance, Tracked.ahead, Function.comp_def]

end

theorem refines_cancel (id : RegistrationId) (now : Instant) :
    (cancel s id now).Refines s (s.hall.cancel id) := by
  rw [cancel, Hall.cancel, Store.locate_hall]
  cases hr : s.registrations.get? id with
  | none => exact .refuse _
  | some r =>
    obtain rfl := hl.keyed _ _ hr
    dsimp only
    cases he : s.events.get? r.eventId with
    | none => exact .refuse _
    | some e =>
      have hide := (hl.events_keyed _ _ he).symm
      have hseated := Store.mem_roll_seated hl.keyed hr hide
      have hwaiting := Store.mem_roll_waiting hl.keyed hr hide
      dsimp only [bind, Except.bind]
      simp only [List.contains_iff_mem, hseated, hwaiting]
      cases hst : r.status with
      | confirmed => exact refines_cancelSeat hl he hr hst now
      | waitlisted => exact refines_cancelPlace hl he hr hst now
      | cancelled =>
        refine .leave fun t ht => ?_
        obtain rfl : t = ⟨r, []⟩ := by simpa [Allocation.changed] using ht
        exact Store.shows_of_stored hl hr he

theorem refines_promote (event : EventId) (now : Instant) :
    (promote s event now).Refines s (s.hall.promote event) := by
  rw [promote, Hall.promote, Store.roll_hall]
  cases he : s.events.get? event with
  | none => exact .refuse _
  | some e =>
    obtain rfl := hl.events_keyed _ _ he
    have hwaiting : (s.roll e).waiting = (s.queue e.id).map Registration.id := rfl
    dsimp only [bind, Except.bind]
    rw [hwaiting]
    cases hq : s.queue e.id with
    | nil => exact .leave (by simp [Allocation.changed])
    | cons r others =>
      have hm : r ∈ s.queue e.id := by simp [hq]
      obtain ⟨hr, hre, hst⟩ := (Store.mem_waiting hl.keyed).mp (Store.mem_queue.mp hm)
      simp only [List.map_cons, Store.full_roll hl.keyed]
      split
      · exact .refuse _
      · rw [← hre] at he
        have hbehind := Store.behind_roll hl.keyed (show _ = [] ++ r :: others from hq)
        rw [← hre, ← hbehind]
        exact refines_seat hl he hr hst now

theorem refines_confirm (id : RegistrationId) (now : Instant) :
    (confirm s id now).Refines s (s.hall.confirm id) := by
  rw [confirm, Hall.confirm, Store.locate_hall]
  cases hr : s.registrations.get? id with
  | none => exact .refuse _
  | some r =>
    obtain rfl := hl.keyed _ _ hr
    dsimp only
    cases he : s.events.get? r.eventId with
    | none => exact .refuse _
    | some e =>
      have hide := (hl.events_keyed _ _ he).symm
      have hwaiting := Store.mem_roll_waiting hl.keyed hr hide
      have hstanding := Store.standing_roll hl.keyed (hl.sound _ _ he) hr hide
      dsimp only [bind, Except.bind]
      simp only [Bool.not_eq_true', ← Bool.not_eq_true, List.contains_iff_mem, hwaiting, hstanding,
        Store.full_roll hl.keyed, ← hide, ne_eq]
      split
      · exact .refuse _
      · next hst =>
        split
        · exact .refuse _
        · exact refines_seat hl he hr (not_not.mp hst) now

/-- What was written is what the hall shows afterwards. -/
private theorem shows_written {id : RegistrationId} {fresh : Nat} {rows : List Tracked} {counted : List Counter}
    {a : Allocation} (hm : (write fresh rows counted a).Moving s id)
    (hr : (write fresh rows counted a).Recorded s Allocation.events) (hf : (write fresh rows counted a).Faithful s) :
    ∀ t ∈ a.changed, (s.puts (rows.map Tracked.registration)).hall.Shows t.registration := by
  obtain ⟨e, he, hmoves⟩ := hm
  obtain ⟨rfl, -⟩ := hf
  intro t ht
  have hin : t.registration ∈ a.changed.map Tracked.registration := List.mem_map_of_mem ht
  have hn : ((a.changed.map Tracked.registration).map Registration.id).Nodup := by
    rw [List.map_map]
    exact hr.1.nodup
  have hev := (hmoves.over hl.keyed _ hin).1
  refine Store.shows_of_stored (hl.moves he hmoves) (Store.get?_puts_of_mem hn hin) (e := e) ?_
  rw [Store.puts_events, hev, he]

end

/-- A decision that is carried out leads to its outcome in the hall. -/
theorem Refines.enact (s : Session) (id : RegistrationId) {d : Decision Allocation}
    {outcome : Except AllocationError (Hall × Report)} (h : d.Refines s.store outcome) (hl : s.store.Lawful)
    (hm : d.Moving s.store id) (hr : d.Recorded s.store Allocation.events) (hf : d.Faithful s.store)
    (hc : s.store.failOnCommit = false) : s.store.Simulates (d.enact s).1 (d.enact s).2.store outcome := by
  cases h with
  | refuse cause => exact ⟨rfl, rfl⟩
  | leave h => exact ⟨_, rfl, rfl, rfl, h⟩
  | @write rows a _ _ fresh counted hw hreport =>
    have hshows := shows_written hl hm hr hf
    rw [hw] at hshows
    rw [Decision.enact, hc]
    exact ⟨a, rfl, hw, hreport, hshows⟩

end Decision

namespace Allocate
open Session (oneSeatTwoWaiting oneSeatTwoWaiting_consistent oneSeatTwoWaiting_queue)

/-- A command in one transaction whose commit succeeds is a command of the hall: it is refused for the same reason and
then changes nothing, or reports the same registrations, shows each of them as it stands afterwards, and leaves the
hall as that command leaves it. -/
theorem command_simulates {store : Store} (hl : store.Lawful) (hfree : store.locked = [])
    (hcommit : store.failOnCommit = false) (hroom : ∀ event, (store.waiting event).length < UInt32.size - 1)
    (clock : Supply Instant) {ids : IdSupply} (hid : store.registrations.get? ⟨ids.next⟩ = none) (metrics : Metrics)
    {c : Command} (hc : c.Single) :
    ∃ reply s', (command c).on { store, clock, ids, metrics } = (some reply, s') ∧
      store.Simulates reply s'.store (store.hall.run clock.next ⟨ids.next⟩ c hc) := by
  have hi : Session.Idle { store, clock, ids, metrics } := ⟨rfl, hfree⟩
  let s := Session.tick { store, clock, ids, metrics }
  cases c with
  | register event registrant =>
    have hlt : (store.waiting event).length + 1 < UInt32.size := Nat.add_lt_of_lt_sub (hroom event)
    have h := Decision.refines_register hl event registrant clock.next hid hlt
    exact ⟨_, _, on_register hi hl event registrant, h.enact s ⟨ids.next⟩ hl
      (Decision.moving_register hl fun _ => hid) (Decision.recorded_register fun _ => hid)
      (Decision.faithful_register ..) hcommit⟩
  | cancel registration =>
    have h := Decision.refines_cancel hl registration clock.next
    exact ⟨_, _, on_cancel hi hl registration, h.enact s ⟨ids.next⟩ hl (Decision.moving_cancel hl)
      (Decision.recorded_cancel hl) (Decision.faithful_cancel hl.keyed ..) hcommit⟩
  | promote event =>
    have h := Decision.refines_promote hl event clock.next
    exact ⟨_, _, on_promote hi hl event, h.enact s ⟨ids.next⟩ hl (Decision.moving_promote hl)
      (Decision.recorded_promote hl) (Decision.faithful_promote ..) hcommit⟩
  | confirm registration =>
    have h := Decision.refines_confirm hl registration clock.next
    exact ⟨_, _, on_confirm hi hl registration, h.enact s ⟨ids.next⟩ hl (Decision.moving_confirm hl)
      (Decision.recorded_confirm hl) (Decision.faithful_confirm ..) hcommit⟩
  | increaseCapacity event capacity => exact hc.elim

private theorem oneSeatTwoWaiting_roll : oneSeatTwoWaiting.store.hall.rolls ScheduledEvent.oneSeat.id =
    some ⟨1, {⟨IdSupply.number 1⟩}, [⟨IdSupply.number 3⟩, ⟨IdSupply.number 5⟩]⟩ := by
  have hevent : oneSeatTwoWaiting.store.events.get? ScheduledEvent.oneSeat.id = some .oneSeat := by decide +kernel
  have hseated : (oneSeatTwoWaiting.store.seated ScheduledEvent.oneSeat.id).map Registration.id =
      [⟨IdSupply.number 1⟩] := by decide +kernel
  rw [Store.hall_rolls, hevent, Option.map_some, Store.roll, hseated, oneSeatTwoWaiting_queue]
  rfl

/-- The one in the only seat cancels while two wait: the first of them has the seat then, and the other is the first. -/
theorem command_simulates_vacated :
    ∃ a s', (command (.cancel ⟨IdSupply.number 1⟩)).on
        { store := oneSeatTwoWaiting.store, clock := .constant default, ids := oneSeatTwoWaiting.ids } =
        (some (.ok a), s') ∧
      a.report = ⟨some ⟨IdSupply.number 1⟩, [⟨IdSupply.number 3⟩, ⟨IdSupply.number 5⟩]⟩ ∧
      s'.store.hall.rolls ScheduledEvent.oneSeat.id = some ⟨1, {⟨IdSupply.number 3⟩}, [⟨IdSupply.number 5⟩]⟩ ∧
      ∀ t ∈ a.changed, s'.store.hall.Shows t.registration := by
  have hroom (event : EventId) : (oneSeatTwoWaiting.store.waiting event).length < UInt32.size - 1 := by
    have hlength : oneSeatTwoWaiting.store.registrations.values.length = 3 := by decide +kernel
    have hwaiting : (oneSeatTwoWaiting.store.waiting event).length ≤ _ :=
      (List.length_filter_le _ _).trans (List.length_filter_le _ _)
    exact (hlength ▸ hwaiting).trans_lt (by decide)
  have hcommit : oneSeatTwoWaiting.store.failOnCommit = false := by decide +kernel
  have hid : oneSeatTwoWaiting.store.registrations.get? ⟨oneSeatTwoWaiting.ids.next⟩ = none := by decide +kernel
  have hc : (Command.cancel ⟨IdSupply.number 1⟩).Single := trivial
  have hholder : oneSeatTwoWaiting.store.hall.holders ⟨IdSupply.number 1⟩ =
      some (ScheduledEvent.oneSeat.id, ⟨⟨0, 2⟩⟩) := by decide +kernel
  have hcancel : oneSeatTwoWaiting.store.hall.cancel ⟨IdSupply.number 1⟩ =
      .ok (oneSeatTwoWaiting.store.hall.setRoll ScheduledEvent.oneSeat.id
          ⟨1, {⟨IdSupply.number 3⟩}, [⟨IdSupply.number 5⟩]⟩,
        ⟨some ⟨IdSupply.number 1⟩, [⟨IdSupply.number 3⟩, ⟨IdSupply.number 5⟩]⟩) := by
    simp only [Hall.cancel, Hall.locate, hholder, Hall.roll, oneSeatTwoWaiting_roll]
    rfl
  obtain ⟨reply, s', hon, hsim⟩ := command_simulates oneSeatTwoWaiting_consistent.lawful
    oneSeatTwoWaiting_consistent.idle.locked hcommit hroom (.constant default) hid .empty hc
  rw [Hall.run, hcancel] at hsim
  obtain ⟨a, rfl, hhall, hreport, hshows⟩ := hsim
  have hroll : s'.store.hall.rolls ScheduledEvent.oneSeat.id =
      some ⟨1, {⟨IdSupply.number 3⟩}, [⟨IdSupply.number 5⟩]⟩ := by
    simp only [hhall, Hall.setRoll, Function.update_self]
  exact ⟨a, s', hon, hreport, hroll, hhall ▸ hshows⟩

end Allocate
end Turnstile
