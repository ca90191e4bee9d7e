import Turnstile.Proofs.Store.Sound

/-!
The moves that every change of an event is made of: somebody comes in, somebody gives up a seat, or somebody
leaves the waitlist and those behind move up. Each move keeps the event sound.
-/

namespace Turnstile
open scoped List

namespace Store
variable {s : Store} {e : ScheduledEvent} {event : EventId} {now : Instant} {r r' : Registration}
  {xs rs pre post rest : List Registration}

private theorem eq_of_id_eq (hk : s.Keyed) {x y : Registration} (hx : x ∈ s.registrationsOf event)
    (hy : y ∈ s.registrationsOf event) (h : x.id = y.id) : x = y :=
  List.inj_on_of_nodup_map (s.nodup_ids hk event) hx hy h

/-- What is left of a list without some of its members, and those members, are the whole list. -/
private theorem perm_append_filter {l : List Registration} (hl : (l.map Registration.id).Nodup)
    (hx : ∀ x ∈ xs, x ∈ l) (hn : xs.Nodup) : l ~ xs ++ l.filter fun r => r.id ∉ xs.map Registration.id := by
  refine (List.perm_ext_iff_of_nodup hl.of_map ?_).mpr fun r => ?_
  · refine List.nodup_append'.mpr ⟨hn, hl.of_map.filter _, fun r hr hr' => ?_⟩
    simp only [List.mem_filter, decide_eq_true_eq] at hr'
    exact hr'.2 (List.mem_map_of_mem hr)
  · simp only [List.mem_append, List.mem_filter, decide_eq_true_eq]
    constructor
    · intro hr
      by_cases hm : r.id ∈ xs.map Registration.id
      · obtain ⟨x, hxm, he⟩ := List.mem_map.mp hm
        exact .inl (List.inj_on_of_nodup_map hl (hx x hxm) hr he ▸ hxm)
      · exact .inr ⟨hr, hm⟩
    · rintro (hr | ⟨hr, -⟩)
      · exact hx r hr
      · exact hr

theorem filter_puts_perm (hk : s.Keyed) (hn : (rs.map Registration.id).Nodup)
    (he : ∀ r ∈ rs, r.eventId = event) (p : Registration → Bool) :
    ((s.puts rs).registrationsOf event).filter p ~
      rs.filter p ++ ((s.registrationsOf event).filter p).filter fun r => r.id ∉ rs.map Registration.id := by
  have h := (registrationsOf_puts_perm hk hn event).filter p
  have hrs : rs.filter (fun r => r.eventId = event) = rs := List.filter_eq_self.mpr (by simpa using he)
  rw [hrs, List.filter_append] at h
  simpa only [List.filter_filter, Bool.and_comm] using h

/-- Registrations of another kind are not among those written over. -/
private theorem filter_notMem_eq_self (hk : s.Keyed) {p : Registration → Bool}
    (hx : ∀ x ∈ xs, x ∈ s.registrationsOf event ∧ p x = false) :
    (((s.registrationsOf event).filter p).filter fun r => r.id ∉ xs.map Registration.id) =
      (s.registrationsOf event).filter p := by
  refine List.filter_eq_self.mpr fun r hr => ?_
  simp only [List.mem_filter] at hr
  simp only [decide_eq_true_eq, List.mem_map, not_exists, not_and]
  intro x hxm he
  have hxr := eq_of_id_eq hk (hx x hxm).1 hr.1 he
  simp [← hxr, (hx x hxm).2] at hr

/-! Somebody comes in. -/

theorem registrationsOf_put_new_perm (hk : s.Keyed) (hid : s.registrations.get? r.id = none)
    (he : r.eventId = event) : (s.put r).registrationsOf event ~ r :: s.registrationsOf event := by
  have h := @registrationsOf_puts_perm s [r] hk (by simp) event
  have hrest : (s.registrationsOf event).filter (fun x => x.id ∉ [r].map Registration.id) =
      s.registrationsOf event := by
    refine List.filter_eq_self.mpr fun x hx => ?_
    have hx' := ((mem_registrationsOf hk).mp hx).1
    simp only [List.map_cons, List.map_nil, List.mem_singleton, decide_eq_true_eq]
    intro hxr
    simp [← hxr, hx'] at hid
  rw [hrest] at h
  simpa [he] using h

private theorem filter_put_new_perm (hk : s.Keyed) (hid : s.registrations.get? r.id = none)
    (he : r.eventId = event) (p : Registration → Bool) :
    ((s.put r).registrationsOf event).filter p ~ (r :: s.registrationsOf event).filter p :=
  (registrationsOf_put_new_perm hk hid he).filter p

/-- Whoever comes in holds a seat while there are free ones, or takes the place behind the last. -/
def Enters (s : Store) (e : ScheduledEvent) (r : Registration) : Prop :=
  r.status = .confirmed ∧ r.position = none ∧ (s.seated e.id).length < e.capacity.toNat ∨
    r.status = .waitlisted ∧ r.rank = some ((s.waiting e.id).length + 1)

theorem seated_put_new (hk : s.Keyed) (hid : s.registrations.get? r.id = none) (he : r.eventId = event) :
    (s.put r).seated event ~ if r.isConfirmed then r :: s.seated event else s.seated event := by
  have h := filter_put_new_perm hk hid he Registration.isConfirmed
  rwa [List.filter_cons] at h

theorem waiting_put_new (hk : s.Keyed) (hid : s.registrations.get? r.id = none) (he : r.eventId = event) :
    (s.put r).waiting event ~ if r.isWaitlisted then r :: s.waiting event else s.waiting event := by
  have h := filter_put_new_perm hk hid he Registration.isWaitlisted
  rwa [List.filter_cons] at h

theorem queue_put_new (h : s.Sound e) (hk : s.Keyed) (hid : s.registrations.get? r.id = none)
    (he : r.eventId = e.id) (hr : s.Enters e r) :
    (s.put r).queue e.id = (if r.isWaitlisted then s.queue e.id ++ [r] else s.queue e.id) ∧
      NumberedFrom 1 ((s.put r).queue e.id) := by
  have hw := waiting_put_new hk hid he
  rcases hr with ⟨hs, -, -⟩ | ⟨hs, hrank⟩
  · have hf : r.isWaitlisted = false := by simp [Registration.isWaitlisted, hs]
    simp only [hf] at hw ⊢
    have hq := queue_eq ((s.queue_perm e.id).trans hw.symm) h.numberedFrom
    simpa [hq] using h.numberedFrom
  · have hf : r.isWaitlisted = true := by simp [Registration.isWaitlisted, hs]
    simp only [hf, if_true] at hw ⊢
    have hn : NumberedFrom 1 (s.queue e.id ++ [r]) := by
      refine NumberedFrom.append_iff.mpr ⟨h.numberedFrom, ?_, trivial⟩
      rw [hrank, (s.queue_perm e.id).length_eq, Nat.add_comm]
    have hp : s.queue e.id ++ [r] ~ (s.put r).waiting e.id :=
      ((List.perm_append_comm).trans (((s.queue_perm e.id).cons r))).trans hw.symm
    rw [queue_eq hp hn]
    exact ⟨rfl, hn⟩

theorem Sound.put_new (h : s.Sound e) (hk : s.Keyed) (hid : s.registrations.get? r.id = none)
    (he : r.eventId = e.id) (hr : s.Enters e r)
    (hnew : ∀ x ∈ s.active e.id, x.registrantId ≠ r.registrantId) : (s.put r).Sound e where
  placed := by
    intro x hx
    rcases List.mem_cons.mp ((registrationsOf_put_new_perm hk hid he).mem_iff.mp hx) with rfl | hx
    · rcases hr with ⟨hs, hp, -⟩ | ⟨hs, hp⟩
      · simp [hs, hp]
      · obtain ⟨p, hp, -⟩ := Option.map_eq_some_iff.mp hp
        simp [hs, hp]
    · exact h.placed x hx
  numbered := numbered_of_perm ((s.put r).queue_perm e.id) (queue_put_new h hk hid he hr).2
  single := by
    have hp := filter_put_new_perm hk hid he Registration.isActive
    refine ((hp.map Registration.registrantId).nodup_iff).mpr ?_
    rw [List.filter_cons]
    split
    · refine List.nodup_cons.mpr ⟨fun hm => ?_, h.single⟩
      obtain ⟨x, hx, hxr⟩ := List.mem_map.mp hm
      exact hnew x hx hxr
    · exact h.single
  fits := by
    rw [(seated_put_new hk hid he).length_eq]
    rcases hr with ⟨hs, -, hfree⟩ | ⟨hs, -⟩
    · simpa [Registration.isConfirmed, hs] using Nat.succ_le_of_lt hfree
    · simpa [Registration.isConfirmed, hs] using h.fits

/-! Somebody gives up a seat. -/

private theorem mem_of_seated (hr : r ∈ s.seated event) :
    r ∈ s.registrationsOf event ∧ r.status = .confirmed := by
  simpa [seated, Registration.isConfirmed] using hr

private theorem filter_vacate_perm (hk : s.Keyed) (hr : r ∈ s.seated event) (now : Instant)
    {p : Registration → Bool} (hp : p (r.cancelledAt now) = false) :
    ((s.put (r.cancelledAt now)).registrationsOf event).filter p ~
      ((s.registrationsOf event).filter p).filter fun x => x.id ∉ [r].map Registration.id := by
  have he := ((mem_registrationsOf hk).mp (mem_of_seated hr).1).2
  have h := @filter_puts_perm s event [r.cancelledAt now] hk (by simp) (by simpa using he) p
  simpa [hp] using h

theorem seated_vacate (hk : s.Keyed) (hr : r ∈ s.seated event) (now : Instant) :
    s.seated event ~ r :: (s.put (r.cancelledAt now)).seated event := by
  have hs := perm_append_filter ((s.nodup_ids hk event).sublist (List.filter_sublist.map _))
    (List.forall_mem_singleton.mpr hr) (List.nodup_singleton r)
  exact hs.trans ((filter_vacate_perm hk hr now rfl).symm.cons r)

theorem waiting_vacate (hk : s.Keyed) (hr : r ∈ s.seated event) (now : Instant) :
    (s.put (r.cancelledAt now)).waiting event ~ s.waiting event := by
  have h := filter_vacate_perm hk hr now (show Registration.isWaitlisted (r.cancelledAt now) = false from rfl)
  have hm := mem_of_seated hr
  rwa [filter_notMem_eq_self hk (by simpa [Registration.isWaitlisted, hm.2] using hm.1)] at h

theorem queue_vacate (h : s.Sound e) (hk : s.Keyed) (hr : r ∈ s.seated e.id) (now : Instant) :
    (s.put (r.cancelledAt now)).queue e.id = s.queue e.id :=
  queue_eq ((s.queue_perm e.id).trans (waiting_vacate hk hr now).symm) h.numberedFrom

theorem Sound.vacate (h : s.Sound e) (hk : s.Keyed) (hr : r ∈ s.seated e.id) (now : Instant) :
    (s.put (r.cancelledAt now)).Sound e where
  placed := by
    intro x hx
    have hx' := (@mem_registrationsOf_puts s e.id x [r.cancelledAt now] hk (by simp)).mp hx
    rcases hx' with ⟨hx, -⟩ | ⟨hx, -⟩
    · simp [List.mem_singleton.mp hx]
    · exact h.placed x hx
  numbered := by
    refine numbered_of_perm (waiting_vacate hk hr now |>.symm |> (s.queue_perm e.id).trans) h.numberedFrom
  single := by
    have hp := filter_vacate_perm hk hr now (show Registration.isActive (r.cancelledAt now) = false from rfl)
    refine ((hp.map Registration.registrantId).nodup_iff).mpr ?_
    exact h.single.sublist (List.filter_sublist.map _)
  fits := by
    have hl := (seated_vacate hk hr now).length_eq
    have hf := h.fits
    simp only [List.length_cons] at hl
    omega

/-! Somebody leaves the waitlist and those behind move up. -/

/-- The rewritten registrations when one leaves the waitlist from in front of `post`. -/
def departure (r' : Registration) (post : List Registration) (now : Instant) : List Registration :=
  r' :: post.map fun x => x.movedUpAt now

theorem rank_movedUpAt {k : Nat} (h : r.rank = some (k + 1)) (now : Instant) :
    (r.movedUpAt now).rank = some k := by
  obtain ⟨p, hp, he⟩ := Option.map_eq_some_iff.mp h
  have hle : (1 : UInt32) ≤ p := UInt32.le_iff_toNat_le.mpr (by simp [he])
  simp [Registration.rank, hp, UInt32.toNat_sub_of_le _ _ hle, he]

theorem numberedFrom_movedUp {n : Nat} (h : NumberedFrom (n + 1) post) (now : Instant) :
    NumberedFrom n (post.map fun x => x.movedUpAt now) := by
  induction post generalizing n with
  | nil => trivial
  | cons x post ih => exact ⟨rank_movedUpAt h.1 now, ih h.2⟩

theorem map_id_departure (hl : r'.Left r) (post : List Registration) (now : Instant) :
    (departure r' post now).map Registration.id = (r :: post).map Registration.id := by
  simp [departure, hl.id, Function.comp_def]

private theorem mem_of_queue {q : List Registration} (hq : s.queue event = q) {x : Registration}
    (hx : x ∈ q) : x ∈ s.registrationsOf event ∧ x.status = .waitlisted := by
  rw [← hq, mem_queue] at hx
  simpa [waiting, Registration.isWaitlisted] using hx

section Departure
variable (hk : s.Keyed) (hq : s.queue event = pre ++ r :: (post ++ rest)) (hl : r'.Left r)
include hq

private theorem mem_behind {x : Registration} (hx : x ∈ r :: post) :
    x ∈ s.registrationsOf event ∧ x.status = .waitlisted := by
  refine mem_of_queue hq (List.mem_append_right _ ?_)
  simp only [List.mem_cons, List.mem_append] at hx ⊢
  tauto

include hk

private theorem nodup_queue_ids : ((pre ++ r :: (post ++ rest)).map Registration.id).Nodup := by
  rw [← hq]
  refine (((s.queue_perm event).map Registration.id).nodup_iff).mpr ?_
  exact (s.nodup_ids hk event).sublist (List.filter_sublist.map _)

private theorem nodup_behind_ids : ((r :: post).map Registration.id).Nodup := by
  refine (nodup_queue_ids hk hq).sublist (List.Sublist.map _ ?_)
  exact ((List.sublist_append_left post rest).cons_cons r).trans (List.sublist_append_right pre _)

include hl

theorem nodup_departure_ids (now : Instant) : ((departure r' post now).map Registration.id).Nodup := by
  rw [map_id_departure hl]
  exact nodup_behind_ids hk hq

theorem eventId_departure (now : Instant) : ∀ x ∈ departure r' post now, x.eventId = event := by
  intro x hx
  have hmem {y : Registration} (hy : y ∈ r :: post) : y.eventId = event :=
    ((mem_registrationsOf hk).mp (mem_behind hq hy).1).2
  rcases List.mem_cons.mp hx with rfl | hx
  · rw [hl.eventId]
    exact hmem List.mem_cons_self
  · obtain ⟨y, hy, rfl⟩ := List.mem_map.mp hx
    rw [Registration.movedUpAt_eventId]
    exact hmem (List.mem_cons_of_mem _ hy)

private theorem filter_departure_perm (now : Instant) (p : Registration → Bool) :
    ((s.puts (departure r' post now)).registrationsOf event).filter p ~
      (departure r' post now).filter p ++
        ((s.registrationsOf event).filter p).filter fun x => x.id ∉ (r :: post).map Registration.id := by
  rw [← map_id_departure hl post now]
  exact filter_puts_perm hk (nodup_departure_ids hk hq hl now) (eventId_departure hk hq hl now) p

theorem seated_departure (now : Instant) :
    (s.puts (departure r' post now)).seated event ~
      if r'.isConfirmed then r' :: s.seated event else s.seated event := by
  have hold : ∀ x ∈ r :: post, x ∈ s.registrationsOf event ∧ x.isConfirmed = false := by
    intro x hx
    exact ⟨(mem_behind hq hx).1, by simp [Registration.isConfirmed, (mem_behind hq hx).2]⟩
  have hpost : (post.map fun x => x.movedUpAt now).filter Registration.isConfirmed = [] := by
    refine List.filter_eq_nil_iff.mpr fun x hx => ?_
    obtain ⟨y, hy, rfl⟩ := List.mem_map.mp hx
    simpa [Registration.isConfirmed] using (hold y (List.mem_cons_of_mem _ hy)).2
  have h := filter_departure_perm hk hq hl now Registration.isConfirmed
  rw [filter_notMem_eq_self hk hold] at h
  refine h.trans (List.Perm.of_eq ?_)
  rw [departure, List.filter_cons, hpost]
  split <;> rfl

/-- While those behind move up one after the other, all keep their order. -/
theorem waiting_departure (now : Instant) :
    (s.puts (departure r' post now)).waiting event ~ pre ++ (post.map (fun x => x.movedUpAt now) ++ rest) := by
  have h := filter_departure_perm hk hq hl now Registration.isWaitlisted
  have hnew : (departure r' post now).filter Registration.isWaitlisted =
      post.map fun x => x.movedUpAt now := by
    rw [departure, List.filter_cons, if_neg (by simpa [Registration.isWaitlisted] using hl.status)]
    refine List.filter_eq_self.mpr fun x hx => ?_
    obtain ⟨y, hy, rfl⟩ := List.mem_map.mp hx
    simp [Registration.isWaitlisted, (mem_behind hq (List.mem_cons_of_mem _ hy)).2]
  have hold : ((s.registrationsOf event).filter Registration.isWaitlisted).filter
      (fun x => x.id ∉ (r :: post).map Registration.id) ~ pre ++ rest := by
    have hmem : ∀ x ∈ r :: post, x ∈ pre ++ r :: (post ++ rest) := by
      intro x hx
      simp only [List.mem_cons, List.mem_append] at hx ⊢
      tauto
    have hp := perm_append_filter (nodup_queue_ids hk hq) hmem (nodup_behind_ids hk hq).of_map
    have hcancel := (List.perm_append_left_iff _).mp
      (hp.symm.trans (List.perm_append_comm_assoc pre (r :: post) rest))
    refine ((s.queue_perm event).symm.filter _).trans ?_
    rw [hq]
    exact hcancel
  rw [hnew] at h
  exact (h.trans (hold.append_left _)).trans (List.perm_append_comm_assoc _ pre rest)

theorem active_departure (now : Instant) (hs : ((s.active event).map Registration.registrantId).Nodup) :
    (((s.puts (departure r' post now)).active event).map Registration.registrantId).Nodup := by
  have h := filter_departure_perm hk hq hl now Registration.isActive
  have hact {x : Registration} (hx : x ∈ r :: post) : x ∈ s.active event := by
    have hm := mem_behind hq hx
    exact List.mem_filter.mpr ⟨hm.1, by simp [Registration.isActive, hm.2, RegistrationStatus.isActive]⟩
  have hold := perm_append_filter ((s.nodup_ids hk event).sublist (List.filter_sublist.map _))
    (fun x hx => hact hx) (nodup_behind_ids hk hq).of_map
  refine ((h.map Registration.registrantId).nodup_iff).mpr ?_
  have hn := ((hold.map Registration.registrantId).nodup_iff).mp hs
  have hsub : ((departure r' post now).filter Registration.isActive).map Registration.registrantId <+
      (r :: post).map Registration.registrantId := by
    have he : (departure r' post now).map Registration.registrantId =
        (r :: post).map Registration.registrantId := by
      simp [departure, hl.registrantId, Function.comp_def]
    exact he ▸ List.filter_sublist.map _
  rw [List.map_append] at hn ⊢
  exact hn.sublist (hsub.append_right _)

theorem placed_departure (now : Instant)
    (hp : ∀ x ∈ s.registrationsOf event, x.position.isSome ↔ x.status = .waitlisted) :
    ∀ x ∈ (s.puts (departure r' post now)).registrationsOf event, x.position.isSome ↔ x.status = .waitlisted := by
  intro x hx
  rcases (mem_registrationsOf_puts hk (nodup_departure_ids hk hq hl now)).mp hx with ⟨hx, -⟩ | ⟨hx, -⟩
  · rcases List.mem_cons.mp hx with rfl | hx
    · simp [hl.position, hl.status]
    · obtain ⟨y, hy, rfl⟩ := List.mem_map.mp hx
      simpa using hp y (mem_behind hq (List.mem_cons_of_mem _ hy)).1
  · exact hp x hx

end Departure

section
variable (h : s.Sound e) (hk : s.Keyed) (hq : s.queue e.id = pre ++ r :: post) (hl : r'.Left r)
include h hk hq hl

theorem queue_departure (now : Instant) :
    (s.puts (departure r' post now)).queue e.id = pre ++ post.map (fun x => x.movedUpAt now) ∧
      NumberedFrom 1 (pre ++ post.map fun x => x.movedUpAt now) := by
  have hn := h.numberedFrom
  rw [hq, NumberedFrom.append_iff] at hn
  have hn' : NumberedFrom 1 (pre ++ post.map fun x => x.movedUpAt now) :=
    NumberedFrom.append_iff.mpr ⟨hn.1, numberedFrom_movedUp hn.2.2 now⟩
  have hw := waiting_departure hk (show _ = pre ++ r :: (post ++ []) by simpa using hq) hl now
  rw [List.append_nil] at hw
  exact ⟨queue_eq hw.symm hn', hn'⟩

theorem Sound.departure (now : Instant)
    (hfree : r'.status = .confirmed → (s.seated e.id).length < e.capacity.toNat) :
    (s.puts (departure r' post now)).Sound e := by
  have hq' : s.queue e.id = pre ++ r :: (post ++ []) := by simpa using hq
  constructor
  case placed => exact placed_departure hk hq' hl now h.placed
  case numbered =>
    have hd := queue_departure h hk hq hl now
    exact numbered_of_perm (hd.1 ▸ queue_perm _ _) hd.2
  case single => exact active_departure hk hq' hl now h.single
  case fits =>
    rw [(seated_departure hk hq' hl now).length_eq]
    split
    · next hc => exact Nat.succ_le_of_lt (hfree (by simpa [Registration.isConfirmed] using hc))
    · exact h.fits

end

end Store
end Turnstile
