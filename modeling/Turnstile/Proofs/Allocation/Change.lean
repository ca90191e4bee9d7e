import Turnstile.Proofs.Allocation.Decision

/-!
Whatever a command decides to write is a sequence of moves, each of which keeps the event sound and leaves
other events and cancelled registrations alone.
-/

namespace Turnstile
open scoped List

namespace Store

/-- The rows that one change of an event writes, with the events that they record. Newcomers get one of
the identifiers in `new`. -/
inductive Move (new : RegistrationId → Prop) (s : Store) (e : ScheduledEvent) : List Tracked → Prop where
  | sit {registrant : RegistrantId} {id : RegistrationId} (hin : new id) (hid : s.registrations.get? id = none)
    (hnew : ∀ r ∈ s.active e.id, r.registrantId ≠ registrant)
    (hfree : (s.seated e.id).length < e.capacity.toNat) (now : Instant) :
    Move new s e [.confirmed e.id registrant now id]
  | wait {registrant : RegistrantId} {id : RegistrationId} (hin : new id) (hid : s.registrations.get? id = none)
    (hnew : ∀ r ∈ s.active e.id, r.registrantId ≠ registrant)
    (hlt : (s.queue e.id).length + 1 < UInt32.size) (now : Instant) :
    Move new s e [.queued e.id registrant (.ofNat (s.queue e.id).length + 1) now id]
  | vacate {r : Registration} (hr : r ∈ s.seated e.id) (now : Instant) : Move new s e [.cancelledAt r now]
  | withdraw {pre post : List Registration} {r : Registration} (hq : s.queue e.id = pre ++ r :: post)
    (now : Instant) : Move new s e ((Tracked.cancelledAt r now).ahead post now)
  | seat {pre post : List Registration} {r : Registration} (hq : s.queue e.id = pre ++ r :: post)
    (hfree : (s.seated e.id).length < e.capacity.toNat) (now : Instant) :
    Move new s e ((Tracked.seatedAt r now).ahead post now)

/-- Moves made one after the other, each on what the ones before it left. -/
inductive Moves (new : RegistrationId → Prop) (e : ScheduledEvent) : Store → List Tracked → Prop where
  | nil {s : Store} : Moves new e s []
  | cons {s : Store} {rows rest : List Tracked} (first : Move new s e rows)
    (others : Moves new e (s.puts (rows.map Tracked.registration)) rest) : Moves new e s (rows ++ rest)

variable {new : RegistrationId → Prop} {s s' : Store} {e : ScheduledEvent} {rows : List Tracked}

theorem Move.seat_first {r : Registration} {behind : List Registration} (hq : s.queue e.id = r :: behind)
    (hfree : (s.seated e.id).length < e.capacity.toNat) (now : Instant) :
    Move new s e ((Tracked.seatedAt r now).ahead behind now) :=
  @seat new s e [] behind r hq hfree now

theorem Moves.single (h : Move new s e rows) : Moves new e s rows := by
  simpa using Moves.cons h .nil

theorem Move.mono {new' : RegistrationId → Prop} (h : Move new s e rows) (hn : ∀ i, new i → new' i) :
    Move new' s e rows := by
  cases h with
  | sit hin hid hnew hfree now => exact .sit (hn _ hin) hid hnew hfree now
  | wait hin hid hnew hlt now => exact .wait (hn _ hin) hid hnew hlt now
  | vacate hr now => exact .vacate hr now
  | withdraw hq now => exact .withdraw hq now
  | seat hq hfree now => exact .seat hq hfree now

theorem Moves.mono {new' : RegistrationId → Prop} (h : Moves new e s rows) (hn : ∀ i, new i → new' i) :
    Moves new' e s rows := by
  induction h with
  | nil => exact .nil
  | cons hm _ ih => exact .cons (hm.mono hn) ih

/-- Soundness is about the registrations of the event only. -/
theorem Sound.congr (h : s.Sound e) (heq : s'.registrationsOf e.id = s.registrationsOf e.id) : s'.Sound e := by
  obtain ⟨hp, hn, hs, hf⟩ := h
  refine ⟨?_, ?_, ?_, ?_⟩ <;> simp only [waiting, active, seated, heq]
  · exact hp
  · exact hn
  · exact hs
  · exact hf

/-- Rows for registrations that are new, or belong to the event and are not yet cancelled. -/
def Over (s : Store) (e : ScheduledEvent) (rows : List Registration) : Prop :=
  ∀ r ∈ rows, r.eventId = e.id ∧
    ∀ old, s.registrations.get? r.id = some old → old.eventId = e.id ∧ old.status ≠ .cancelled

/-- The rows of a departure are written over those of the waitlist. -/
theorem stored_of_departure (hk : s.Keyed) {pre post : List Registration} {r r' x : Registration}
    (hq : s.queue e.id = pre ++ r :: post) (hl : r'.Left r) {now : Instant} (hx : x ∈ departure r' post now) :
    ∃ old, s.registrations.get? x.id = some old ∧ old.eventId = e.id ∧ old.status = .waitlisted := by
  have hid : x.id ∈ (r :: post).map Registration.id := by
    rw [← map_id_departure hl post now]
    exact List.mem_map_of_mem hx
  obtain ⟨old, hold, hx⟩ := List.mem_map.mp hid
  have hwaits : old ∈ s.queue e.id := by
    rw [hq]
    exact List.mem_append_right _ hold
  obtain ⟨hget, hev, hst⟩ := (mem_waiting hk).mp (mem_queue.mp hwaits)
  exact ⟨old, hx ▸ hget, hev, hst⟩

theorem over_departure (hk : s.Keyed) {pre post : List Registration} {r r' : Registration}
    (hq : s.queue e.id = pre ++ r :: post) (hl : r'.Left r) (now : Instant) :
    s.Over e (departure r' post now) := by
  have hq' : s.queue e.id = pre ++ r :: (post ++ []) := by simpa using hq
  intro x hx
  refine ⟨eventId_departure hk hq' hl now x hx, fun old hold => ?_⟩
  obtain ⟨old', hold', hev, hst⟩ := stored_of_departure hk hq hl hx
  rw [hold] at hold'
  obtain rfl := Option.some.inj hold'
  exact ⟨hev, by simp [hst]⟩

theorem Move.over (h : Move new s e rows) (hk : s.Keyed) : s.Over e (rows.map Tracked.registration) := by
  cases h with
  | sit hin hid => simp [Over, Tracked.confirmed, hid]
  | wait hin hid => simp [Over, Tracked.queued, hid]
  | @vacate r hr now =>
    obtain ⟨hget, hev, hst⟩ := (mem_seated hk).mp hr
    simp [Over, hget, hev, hst]
  | withdraw hq now =>
    rw [Tracked.map_registration_ahead]
    exact over_departure hk hq (Registration.left_cancelledAt _ now) now
  | seat hq hfree now =>
    rw [Tracked.map_registration_ahead]
    exact over_departure hk hq (Registration.left_seatedAt _ now) now

theorem Move.sound (h : Move new s e rows) (hk : s.Keyed) (hs : s.Sound e) :
    (s.puts (rows.map Tracked.registration)).Sound e := by
  cases h with
  | sit hin hid hnew hfree now => exact hs.put_new hk hid rfl (.inl ⟨rfl, rfl, hfree⟩) hnew
  | wait hin hid hnew hlt now =>
    refine hs.put_new hk hid rfl (.inr ⟨rfl, ?_⟩) hnew
    rw [← (s.queue_perm e.id).length_eq, ← toNat_ofNat_succ hlt]
    rfl
  | vacate hr now => exact hs.vacate hk hr now
  | withdraw hq now =>
    rw [Tracked.map_registration_ahead]
    exact hs.departure hk hq (Registration.left_cancelledAt _ now) now fun h => by simp at h
  | seat hq hfree now =>
    rw [Tracked.map_registration_ahead]
    exact hs.departure hk hq (Registration.left_seatedAt _ now) now fun _ => hfree

theorem Moves.over (h : Moves new e s rows) (hk : s.Keyed) : s.Over e (rows.map Tracked.registration) := by
  induction h with
  | nil => simp [Over]
  | @cons s first rest hm _ ih =>
    intro r hr
    rw [List.map_append] at hr
    rcases List.mem_append.mp hr with hr | hr
    · exact hm.over hk r hr
    · obtain ⟨hev, hrest⟩ := ih hk.puts r hr
      refine ⟨hev, fun old hold => ?_⟩
      by_cases hin : r.id ∈ (first.map Tracked.registration).map Registration.id
      · obtain ⟨x, hx, hid⟩ := List.mem_map.mp hin
        exact (hm.over hk x hx).2 old (by rw [hid]; exact hold)
      · exact hrest old (by rw [get?_puts_of_notMem hin]; exact hold)

theorem Moves.sound (h : Moves new e s rows) (hk : s.Keyed) (hs : s.Sound e) :
    (s.puts (rows.map Tracked.registration)).Sound e := by
  induction h with
  | nil => exact hs
  | cons hm _ ih =>
    rw [List.map_append, puts_append]
    exact ih hk.puts (hm.sound hk hs)

/-- Every row that is written was there before or is new. -/
theorem Move.known (h : Move new s e rows) (hk : s.Keyed) :
    ∀ t ∈ rows, (s.registrations.get? t.registration.id).isSome ∨ new t.registration.id := by
  have hdep {pre post : List Registration} {r : Registration} {t : Tracked} (hl : t.registration.Left r)
      (now : Instant) (hq : s.queue e.id = pre ++ r :: post) :
      ∀ x ∈ t.ahead post now, (s.registrations.get? x.registration.id).isSome := by
    intro x hx
    have hm : x.registration ∈ departure t.registration post now := by
      rw [← Tracked.map_registration_ahead]
      exact List.mem_map_of_mem hx
    obtain ⟨old, hold, -, -⟩ := stored_of_departure hk hq hl hm
    rw [hold]
    rfl
  cases h with
  | sit hin => simpa [Tracked.confirmed] using .inr hin
  | wait hin => simpa [Tracked.queued] using .inr hin
  | vacate hr now => simp [((mem_seated hk).mp hr).1]
  | withdraw hq now => exact fun t ht => .inl (hdep (Registration.left_cancelledAt _ now) now hq t ht)
  | seat hq hfree now => exact fun t ht => .inl (hdep (Registration.left_seatedAt _ now) now hq t ht)

theorem Moves.known (h : Moves new e s rows) (hk : s.Keyed) :
    ∀ t ∈ rows, (s.registrations.get? t.registration.id).isSome ∨ new t.registration.id := by
  induction h with
  | nil => simp
  | @cons s first rest hm _ ih =>
    intro t ht
    rcases List.mem_append.mp ht with ht | ht
    · exact hm.known hk t ht
    · rcases ih hk.puts t ht with hsome | hnew
      · by_cases hin : t.registration.id ∈ (first.map Tracked.registration).map Registration.id
        · obtain ⟨x, hx, hid⟩ := List.mem_map.mp hin
          obtain ⟨y, hy, rfl⟩ := List.mem_map.mp hx
          rw [← hid]
          exact hm.known hk y hy
        · rw [get?_puts_of_notMem hin] at hsome
          exact .inl hsome
      · exact .inr hnew

/-- Moves of one event keep all events sound. -/
theorem Lawful.moves (hl : s.Lawful) (he : s.events.get? e.id = some e) (h : Moves new e s rows) :
    (s.puts (rows.map Tracked.registration)).Lawful := by
  refine ⟨by rw [puts_events]; exact hl.events_keyed, hl.keyed.puts, fun id other hother => ?_⟩
  rw [puts_events] at hother
  obtain rfl := hl.events_keyed _ _ hother
  by_cases hne : e.id = other.id
  · rw [hne, hother] at he
    obtain rfl := Option.some.inj he
    exact h.sound hl.keyed (hl.sound _ _ hother)
  · have hover := h.over hl.keyed
    exact (hl.sound _ _ hother).congr (registrationsOf_puts_of_ne hne (fun r hr => (hover r hr).1)
      fun r hr old hold => ((hover r hr).2 old hold).1)

/-- A cancelled registration stays as it is. -/
theorem Over.get?_of_cancelled {rs : List Registration} (h : s.Over e rs) {r : Registration}
    (hr : s.registrations.get? r.id = some r) (hc : r.status = .cancelled) :
    (s.puts rs).registrations.get? r.id = some r := by
  rw [get?_puts_of_notMem, hr]
  intro hin
  obtain ⟨x, hx, hid⟩ := List.mem_map.mp hin
  exact ((h x hx).2 r (by rw [hid]; exact hr)).2 hc

end Store

namespace Decision
variable {α : Type} {s : Store}

/-- How many identifiers are drawn for new rows. -/
def fresh : Decision α → Nat
  | write n _ _ _ => n
  | _ => 0

/-- A decision writes moves of one event, and capacities only grow. Only `id` may be given to a newcomer,
once it was drawn. -/
def Moving (s : Store) (id : RegistrationId) : Decision α → Prop
  | refuse _ | leave _ => True
  | write n rows _ _ =>
    ∃ e, s.events.get? e.id = some e ∧ Store.Moves (fun i => 0 < n ∧ i = id) e s rows
  | raise event capacity _ => ∃ e, s.events.get? event = some e ∧ e.capacity ≤ capacity

variable {id : RegistrationId} (hl : s.Lawful)
include hl

theorem moving_register {event : EventId} {registrant : RegistrantId} {now : Instant}
    (hid : 0 < (register s event registrant now id).fresh → s.registrations.get? id = none) :
    (register s event registrant now id).Moving s id := by
  revert hid
  unfold register
  split
  · exact fun _ => trivial
  · next e he =>
    obtain rfl := hl.events_keyed _ _ he
    split
    · exact fun _ => trivial
    split
    · exact fun _ => trivial
    · next hact =>
      have hnew : ∀ r ∈ s.active e.id, r.registrantId ≠ registrant := by simpa using hact
      split
      · exact fun _ => trivial
      · unfold enter
        split
        · next hfree =>
          exact fun hid => ⟨e, he, .single (.sit ⟨Nat.one_pos, rfl⟩ (hid Nat.one_pos) hnew hfree now)⟩
        split
        · next hlt =>
          exact fun hid => ⟨e, he, .single (.wait ⟨Nat.one_pos, rfl⟩ (hid Nat.one_pos) hnew hlt now)⟩
        · exact fun _ => trivial

section
variable {e : ScheduledEvent} {r : Registration} (he : s.events.get? r.eventId = some e)
  (hr : s.registrations.get? r.id = some r)
include he hr

theorem queue_split (hst : r.status = .waitlisted) :
    ∃ pre, s.queue e.id = pre ++ r :: s.behind r := by
  have hide := hl.events_keyed _ _ he
  have hm : r ∈ s.queue r.eventId := Store.mem_queue.mpr ((Store.mem_waiting hl.keyed).mpr ⟨hr, rfl, hst⟩)
  obtain ⟨pre, post, hq⟩ := List.append_of_mem hm
  have hn := (hl.sound _ _ he).numberedFrom
  rw [hide, hq] at hn
  exact ⟨pre, by rw [hide, Store.behind_eq hq hn, hq]⟩

private theorem moving_seat (hst : r.status = .waitlisted) (now : Instant)
    (hfree : (s.seated r.eventId).length < e.capacity.toNat) : (seat s r now).Moving s id := by
  have hide := hl.events_keyed _ _ he
  obtain ⟨pre, hq⟩ := queue_split hl he hr hst
  rw [← hide] at hfree
  exact ⟨e, by rw [hide]; exact he, .single (.seat hq hfree now)⟩

theorem moving_cancelPlace (hst : r.status = .waitlisted) (now : Instant) :
    (cancelPlace s r now).Moving s id := by
  have hide := hl.events_keyed _ _ he
  obtain ⟨pre, hq⟩ := queue_split hl he hr hst
  exact ⟨e, by rw [hide]; exact he, .single (.withdraw hq now)⟩

theorem moving_cancelSeat (hst : r.status = .confirmed) (now : Instant) :
    (cancelSeat s r now).Moving s id := by
  have hide := hl.events_keyed _ _ he
  have hs := hl.sound _ _ he
  have hm : r ∈ s.seated e.id := (Store.mem_seated hl.keyed).mpr ⟨hr, hide.symm, hst⟩
  have hlen := (Store.seated_vacate hl.keyed hm now).length_eq
  have hfits := hs.fits
  have hqv := Store.queue_vacate hs hl.keyed hm now
  refine ⟨e, by rw [hide]; exact he, .cons (.vacate hm now) ?_⟩
  rw [← hide]
  cases hq : s.queue e.id with
  | nil => exact .nil
  | cons x behind =>
    rw [hq] at hqv
    refine .single (.seat_first hqv ?_ now)
    rw [List.length_cons] at hlen
    exact Nat.lt_of_lt_of_le (Nat.lt_of_succ_le (Nat.le_of_eq hlen.symm)) hfits

end

theorem moving_cancel {rid : RegistrationId} {now : Instant} : (cancel s rid now).Moving s id := by
  unfold cancel
  split
  · trivial
  · next r hr =>
    obtain rfl := hl.keyed _ _ hr
    split
    · trivial
    · next e he =>
      split
      · trivial
      · next hst => exact moving_cancelSeat hl he hr hst now
      · next hst => exact moving_cancelPlace hl he hr hst now

theorem moving_confirm {rid : RegistrationId} {now : Instant} : (confirm s rid now).Moving s id := by
  unfold confirm
  split
  · trivial
  · next r hr =>
    obtain rfl := hl.keyed _ _ hr
    split
    · trivial
    · next e he =>
      split
      · trivial
      split
      · trivial
      · next hst hfree => exact moving_seat hl he hr (not_not.mp hst) now (Nat.lt_of_not_le hfree)

theorem moving_promote {event : EventId} {now : Instant} : (promote s event now).Moving s id := by
  unfold promote
  split
  · trivial
  · next e he =>
    split
    · trivial
    · next r behind hq =>
      split
      · trivial
      · next hfull =>
        have hm : r ∈ s.queue event := by simp [hq]
        obtain ⟨hr, rfl, hst⟩ := (Store.mem_waiting hl.keyed).mp (Store.mem_queue.mp hm)
        exact moving_seat hl he hr hst now (Nat.lt_of_not_le hfull)

theorem moving_promoteStep {event : EventId} {now : Instant} : (promoteStep s event now).Moving s id := by
  unfold promoteStep
  split
  · trivial
  · next e he =>
    obtain rfl := hl.events_keyed _ _ he
    split
    · trivial
    · next r behind hq =>
      split
      · trivial
      · next hfull => exact ⟨e, he, .single (.seat_first hq (Nat.lt_of_not_le hfull) now)⟩

omit hl in
theorem moving_raiseCapacity {event : EventId} {capacity : UInt32} :
    (raiseCapacity s event capacity).Moving s id := by
  unfold raiseCapacity
  split
  · trivial
  · next e he =>
    split
    · trivial
    split
    · next hlt => exact ⟨e, he, UInt32.le_of_lt hlt⟩
    · trivial

end Decision
end Turnstile
