import Turnstile.Proofs.Allocation.Hall
import Turnstile.Proofs.Allocation.Recording

/-!
What the rows of a store say of who has a seat and who waits, and what the moves of an event do to that. A place in
the waitlist is a rank in a list, so that one who leaves and those who move up one by one are together a single list
without the one who left.
-/

namespace Turnstile
open scoped List

namespace Store
variable {s : Store} {e : ScheduledEvent} {r r' : Registration} {pre post rs : List Registration}

private theorem toFinset_ids_eq {l l' : List Registration} (h : l ~ l') :
    (l.map Registration.id).toFinset = (l'.map Registration.id).toFinset :=
  List.toFinset_eq_of_perm _ _ (h.map _)

/-- Whoever is stored under an identifier is the only one with it. -/
private theorem id_mem_map_iff {l : List Registration} (hl : ∀ x ∈ l, s.registrations.get? x.id = some x)
    (hr : s.registrations.get? r.id = some r) : r.id ∈ l.map Registration.id ↔ r ∈ l := by
  refine ⟨fun hin => ?_, List.mem_map_of_mem⟩
  obtain ⟨x, hx, hid⟩ := List.mem_map.mp hin
  have hget := hl x hx
  rw [hid, hr] at hget
  rwa [Option.some.inj hget]

section
variable (hk : s.Keyed)
include hk

private theorem seated_ids_nodup (e : ScheduledEvent) : ((s.seated e.id).map Registration.id).Nodup :=
  (s.nodup_ids hk e.id).sublist (List.filter_sublist.map _)

private theorem queue_ids_nodup (e : ScheduledEvent) : ((s.queue e.id).map Registration.id).Nodup :=
  (((s.queue_perm e.id).map _).nodup_iff).mpr ((s.nodup_ids hk e.id).sublist (List.filter_sublist.map _))

theorem full_roll : (s.roll e).Full ↔ e.capacity.toNat ≤ (s.seated e.id).length := by
  rw [Roll.Full, roll, List.toFinset_card_of_nodup (seated_ids_nodup hk e), List.length_map]

theorem mem_roll_seated (hr : s.registrations.get? r.id = some r) (he : r.eventId = e.id) :
    r.id ∈ (s.roll e).seated ↔ r.status = .confirmed := by
  rw [roll, List.mem_toFinset, id_mem_map_iff (fun x hx => ((mem_seated hk).mp hx).1) hr, mem_seated hk]
  simp [hr, he]

theorem mem_roll_waiting (hr : s.registrations.get? r.id = some r) (he : r.eventId = e.id) :
    r.id ∈ (s.roll e).waiting ↔ r.status = .waitlisted := by
  rw [roll, id_mem_map_iff (fun x hx => ((mem_waiting hk).mp (mem_queue.mp hx)).1) hr, mem_queue, mem_waiting hk]
  simp [hr, he]

section Split
variable (hq : s.queue e.id = pre ++ r :: post)
include hq

private theorem id_notMem_front : r.id ∉ pre.map Registration.id := by
  have hn := queue_ids_nodup hk e
  rw [hq, List.map_append, List.map_cons] at hn
  exact fun hin => (List.nodup_append'.mp hn).2.2 hin List.mem_cons_self

/-- The rank of one who waits counts those in front. -/
private theorem idxOf_waiting : (s.roll e).waiting.idxOf r.id = pre.length := by
  rw [roll, hq, List.map_append, List.map_cons, List.idxOf_append_of_notMem (id_notMem_front hk hq),
    List.idxOf_cons_self, List.length_map, Nat.add_zero]

theorem behind_roll : (s.roll e).behind r.id = post.map Registration.id := by
  rw [Roll.behind, idxOf_waiting hk hq, roll, hq, List.map_append, List.map_cons, List.append_cons]
  exact List.drop_left' (by simp)

end Split

/-! What the moves make of the roll. -/

theorem roll_enter (hs : s.Sound e) (hid : s.registrations.get? r.id = none) (he : r.eventId = e.id)
    (hr : s.Enters e r) (hfull : r.status = .waitlisted → (s.roll e).Full) :
    (s.put r).roll e = (s.roll e).enter r.id := by
  have hseated := seated_put_new hk hid he
  have hqueue := (queue_put_new hs hk hid he hr).1
  rcases hr with ⟨hst, -, hfree⟩ | ⟨hst, -⟩ <;>
    simp only [Registration.isConfirmed, Registration.isWaitlisted, hst, decide_true, if_true] at hseated hqueue
  · have hopen : ¬ (s.roll e).Full := mt (full_roll hk).mp (Nat.not_le.mpr hfree)
    rw [Roll.enter, if_neg hopen, roll, toFinset_ids_eq hseated, hqueue]
    simp [roll]
  · rw [Roll.enter, if_pos (hfull hst), roll, toFinset_ids_eq hseated, hqueue]
    simp [roll]

theorem roll_vacate (hs : s.Sound e) (hr : r ∈ s.seated e.id) (now : Instant) :
    (s.put (r.cancelledAt now)).roll e = (s.roll e).unseat r.id := by
  have hseated := seated_vacate hk hr now
  have hn := ((hseated.map Registration.id).nodup_iff).mp (seated_ids_nodup hk e)
  have hout := (List.nodup_cons.mp hn).1
  simp only [roll, Roll.unseat, queue_vacate hs hk hr now, toFinset_ids_eq hseated, List.map_cons, List.toFinset_cons]
  rw [Finset.erase_insert (by simpa using hout)]

theorem roll_departure (hs : s.Sound e) (hq : s.queue e.id = pre ++ r :: post) (hl : r'.Left r) (now : Instant) :
    (s.puts (departure r' post now)).roll e =
      if r'.isConfirmed then (s.roll e).seat r.id else (s.roll e).withdraw r.id := by
  have hseated := seated_departure hk (show _ = pre ++ r :: (post ++ []) by simpa using hq) hl now
  have hqueue := (queue_departure hs hk hq hl now).1
  have hwaiting : ((s.queue e.id).map Registration.id).erase r.id =
      (pre ++ post.map fun x => x.movedUpAt now).map Registration.id := by
    rw [hq, List.map_append, List.map_cons, List.erase_append_right _ (id_notMem_front hk hq), List.erase_cons_head]
    simp [Function.comp_def]
  rw [roll, hqueue, toFinset_ids_eq hseated, ← hwaiting]
  split <;> simp [roll, Roll.seat, Roll.withdraw, hl.id]

/-- A row says of a registration what the roll says. -/
theorem standing_roll (hs : s.Sound e) (hr : s.registrations.get? r.id = some r) (he : r.eventId = e.id) :
    (s.roll e).standing r.id = (r.status, r.rank) := by
  have hplaced := hs.placed r ((mem_registrationsOf hk).mpr ⟨hr, he⟩)
  have hseated := mem_roll_seated hk hr he
  have hwaiting := mem_roll_waiting hk hr he
  cases hst : r.status with
  | confirmed =>
    have hnone : r.position = none := by simpa [hst] using hplaced
    rw [Roll.standing, if_pos (hseated.mpr hst), Registration.rank, hnone]
    rfl
  | waitlisted =>
    have hm : r ∈ s.queue e.id := mem_queue.mpr ((mem_waiting hk).mpr ⟨hr, he, hst⟩)
    obtain ⟨pre, post, hq⟩ := List.append_of_mem hm
    have hrank := (hq ▸ hs.numberedFrom).rank_at
    rw [Roll.standing, if_neg (by simp [hseated, hst]), if_pos (by simp [hwaiting, hst]), idxOf_waiting hk hq, hrank,
      Nat.add_comm]
  | cancelled =>
    have hnone : r.position = none := by simpa [hst] using hplaced
    rw [Roll.standing, if_neg (by simp [hseated, hst]), if_neg (by simp [hwaiting, hst]), Registration.rank, hnone]
    rfl

end

/-! What is written for one event leaves the rolls of the others alone. -/

theorem holders_put (s : Store) (r : Registration) :
    (s.put r).holders = Function.update s.holders r.id (some (r.eventId, r.registrantId)) := by
  funext id
  rw [holders, put_registrations, Table.get?_insert, Function.update_apply]
  split <;> rfl

/-- A row that is rewritten stays with its event and registrant. -/
theorem holders_puts (h : ∀ r ∈ rs, s.holders r.id = some (r.eventId, r.registrantId)) :
    (s.puts rs).holders = s.holders := by
  induction rs generalizing s with
  | nil => rfl
  | cons r rs ih =>
    obtain ⟨hr, hrest⟩ := List.forall_mem_cons.mp h
    have hput : (s.put r).holders = s.holders := by rw [holders_put, ← hr, Function.update_eq_self]
    rw [puts_cons, ih (by rwa [hput]), hput]

theorem hall_puts (hl : s.Lawful) (he : s.events.get? e.id = some e) (ho : s.Over e rs) :
    (s.puts rs).hall = { s.hall.setRoll e.id ((s.puts rs).roll e) with holders := (s.puts rs).holders } := by
  have hrolls : (s.puts rs).hall.rolls = Function.update s.hall.rolls e.id (some ((s.puts rs).roll e)) := by
    funext event
    rw [Function.update_apply]
    split
    · next heq => simp [heq, he]
    · next hne =>
      cases hother : s.events.get? event with
      | none => simp [hother]
      | some other =>
        obtain rfl := hl.events_keyed _ _ hother
        have hrest := registrationsOf_puts_of_ne (Ne.symm hne) (fun r hr => (ho r hr).1)
          fun r hr old hold => ((ho r hr).2 old hold).1
        simp [hother, roll, seated, queue, waiting, hrest]
  rw [Hall.setRoll, ← hrolls]
  simp [hall]

section
variable (hl : s.Lawful) (he : s.events.get? e.id = some e)
include hl

private theorem holders_departure (hq : s.queue e.id = pre ++ r :: post) (hleft : r'.Left r) (now : Instant) :
    (s.puts (departure r' post now)).holders = s.holders := by
  have hstored {x : Registration} (hx : x ∈ r :: post) : s.holders x.id = some (x.eventId, x.registrantId) := by
    have hm : x ∈ s.queue e.id := by
      rw [hq]
      exact List.mem_append_right _ hx
    simp [holders, ((mem_waiting hl.keyed).mp (mem_queue.mp hm)).1]
  refine holders_puts fun x hx => ?_
  rcases List.mem_cons.mp hx with rfl | hx
  · rw [hleft.id, hleft.eventId, hleft.registrantId]
    exact hstored List.mem_cons_self
  · obtain ⟨y, hy, rfl⟩ := List.mem_map.mp hx
    rw [Registration.movedUpAt_id, Registration.movedUpAt_eventId, Registration.movedUpAt_registrantId]
    exact hstored (List.mem_cons_of_mem _ hy)

include he

theorem hall_departure (hq : s.queue e.id = pre ++ r :: post) (hleft : r'.Left r) (now : Instant) :
    (s.puts (departure r' post now)).hall =
      s.hall.setRoll e.id (if r'.isConfirmed then (s.roll e).seat r.id else (s.roll e).withdraw r.id) := by
  rw [hall_puts hl he (over_departure hl.keyed hq hleft now), holders_departure hl hq hleft,
    roll_departure hl.keyed (hl.sound _ _ he) hq hleft]
  rfl

private theorem hall_vacated (hr : r ∈ s.seated e.id) (now : Instant) :
    (s.put (r.cancelledAt now)).hall = s.hall.setRoll e.id ((s.roll e).unseat r.id) := by
  have hmove : Move (fun _ => False) s e [.cancelledAt r now] := .vacate hr now
  have hholders : (s.put (r.cancelledAt now)).holders = s.holders := by
    refine @holders_puts s [r.cancelledAt now] ?_
    simp [holders, ((mem_seated hl.keyed).mp hr).1]
  have hput := hall_puts hl he (hmove.over hl.keyed)
  simp only [List.map_cons, List.map_nil, puts_cons, puts_nil, Tracked.cancelledAt_registration] at hput
  rw [hput, hholders, roll_vacate hl.keyed (hl.sound _ _ he) hr]
  rfl

/-- A seat that is given up goes to the first who waits. -/
theorem hall_vacate (hr : r ∈ s.seated e.id) (now : Instant) :
    (s.puts ((Tracked.cancelledAt r now :: Tracked.advance now (s.queue e.id)).map Tracked.registration)).hall =
      s.hall.setRoll e.id ((s.roll e).vacate r.id) := by
  have hsound := hl.sound _ _ he
  have hroll := roll_vacate hl.keyed hsound hr now
  have hfreed := hall_vacated hl he hr now
  have hmove : Move (fun _ => False) s e [.cancelledAt r now] := .vacate hr now
  have hl' : (s.put (r.cancelledAt now)).Lawful := hl.moves he (.single hmove)
  have hqueue := queue_vacate hsound hl.keyed hr now
  have hwaiting : ((s.roll e).unseat r.id).waiting = (s.queue e.id).map Registration.id := rfl
  rw [List.map_cons, puts_cons, Tracked.cancelledAt_registration, Roll.vacate, Roll.seatFirst, hwaiting]
  cases hq : s.queue e.id with
  | nil => exact hfreed
  | cons x behind =>
    rw [hq] at hqueue
    have hseat := hall_departure hl' he (show _ = [] ++ x :: behind from hqueue) (Registration.left_seatedAt x now) now
    rw [Tracked.advance, Tracked.map_registration_ahead, Tracked.seatedAt_registration, hseat, hfreed, hroll,
      Hall.setRoll_setRoll]
    rfl

end

/-- What is stored is what the hall shows. -/
theorem shows_of_stored (hl : s.Lawful) (hr : s.registrations.get? r.id = some r)
    (he : s.events.get? r.eventId = some e) : s.hall.Shows r where
  holder := by simp [hr]
  standing := by
    have hide := hl.events_keyed _ _ he
    exact ⟨s.roll e, by simp [he], standing_roll hl.keyed (hl.sound _ _ he) hr hide.symm⟩

end Store
end Turnstile
