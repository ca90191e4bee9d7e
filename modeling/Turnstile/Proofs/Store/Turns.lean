import Turnstile.Proofs.Allocation.Change

/-!
The registrations of an event in the order in which they came in. Nobody who waits is overtaken: whoever came
later has no seat, and no better place.
-/

namespace Turnstile
open scoped List

/-- `y`, who came after `x`, has no seat and no better place while `x` waits. -/
def Registration.Precedes (x y : Registration) : Prop :=
  x.status = .waitlisted → y.status ≠ .confirmed ∧ (y.status = .waitlisted → Tx.place x < Tx.place y)

/-- What becomes of a registration when rows are written over it or over others. -/
def Registration.Rewritten (rs : List Registration) (x x' : Registration) : Prop :=
  x' ∈ rs ∧ x'.id = x.id ∨ x' = x ∧ x.id ∉ rs.map Registration.id

namespace Store
variable {s s' : Store} {e : ScheduledEvent} {event : EventId} {now : Instant} {r r' : Registration}
  {rs pre post : List Registration}

/-- In every event all turns are respected. -/
def Orderly (s : Store) : Prop := ∀ event, (s.registrationsOf event).Pairwise Registration.Precedes

/-- While somebody waits for an event, all its seats are given. -/
def Full (s : Store) (event : EventId) : Prop :=
  ∀ e, s.events.get? event = some e → s.queue event ≠ [] → (s.seated event).length = e.capacity.toNat

theorem registrationsOf_put_new (hid : s.registrations.get? r.id = none) (event : EventId) :
    (s.put r).registrationsOf event =
      if r.eventId = event then s.registrationsOf event ++ [r] else s.registrationsOf event := by
  rw [registrationsOf, put_registrations, Table.values, Table.entries_insert_new hid, List.map_append,
    List.filter_append]
  by_cases he : r.eventId = event <;> simp [he, registrationsOf, Table.values]

theorem registrationsOf_put_stored (hk : s.Keyed) {old : Registration}
    (hold : s.registrations.get? r.id = some old) (he : r.eventId = event) (heo : old.eventId = event) :
    (s.put r).registrationsOf event = (s.registrationsOf event).map fun x => if x.id = r.id then r else x := by
  have hsome : (s.registrations.get? r.id).isSome := by rw [hold]; rfl
  have hval : (s.put r).registrations.values =
      s.registrations.values.map fun x => if x.id = r.id then r else x := by
    rw [put_registrations, Table.values, Table.values, Table.entries_insert_stored hsome, List.map_map,
      List.map_map]
    refine List.map_congr_left fun x hx => ?_
    have hx' := hk _ _ (Table.get?_eq_some_iff.mpr hx)
    simp only [Function.comp_apply, hx']
    split <;> rfl
  rw [registrationsOf, registrationsOf, hval, List.filter_map]
  congr 1
  refine List.filter_congr fun x hx => ?_
  rw [Function.comp_apply]
  split
  · next hid =>
    have hxs := (Table.KeyedBy.mem_values hk).mp hx
    rw [hid, hold] at hxs
    rw [← Option.some.inj hxs, he, heo]
  · rfl

/-- Rows written over those of an event leave its registrations in their order. -/
theorem registrationsOf_puts_stored (hk : s.Keyed)
    (hrs : ∀ r ∈ rs, r.eventId = event ∧ ∃ old, s.registrations.get? r.id = some old ∧ old.eventId = event) :
    ∃ f, (∀ x, Registration.Rewritten rs x (f x)) ∧ (s.puts rs).registrationsOf event = (s.registrationsOf event).map f := by
  induction rs generalizing s with
  | nil => exact ⟨id, fun x => .inr ⟨rfl, by simp⟩, by simp⟩
  | cons r rs ih =>
    obtain ⟨⟨he, old, hold, heo⟩, hrs⟩ := List.forall_mem_cons.mp hrs
    obtain ⟨f, hf, hmap⟩ := ih hk.put fun x hx => by
      obtain ⟨hex, oldx, holdx, heox⟩ := hrs x hx
      rw [put_registrations, Table.get?_insert]
      split
      · exact ⟨hex, r, rfl, he⟩
      · exact ⟨hex, oldx, holdx, heox⟩
    rw [registrationsOf_put_stored hk hold he heo, List.map_map] at hmap
    refine ⟨_, fun x => ?_, hmap⟩
    rw [Function.comp_apply]
    by_cases hx : x.id = r.id
    · rw [if_pos hx]
      rcases hf r with ⟨hm, hid⟩ | ⟨hr, -⟩
      · exact .inl ⟨List.mem_cons_of_mem _ hm, hid.trans hx.symm⟩
      · exact .inl ⟨by rw [hr]; exact List.mem_cons_self, by rw [hr, hx]⟩
    · rw [if_neg hx]
      rcases hf x with ⟨hm, hid⟩ | ⟨hxf, hm⟩
      · exact .inl ⟨List.mem_cons_of_mem _ hm, hid⟩
      · exact .inr ⟨hxf, by simpa [hx] using hm⟩

/-- Writes over rows of an event keep its turns if they do so for any two registrations. -/
private theorem precedes_puts (hk : s.Keyed) (ho : (s.registrationsOf event).Pairwise Registration.Precedes)
    (hrs : ∀ r ∈ rs, r.eventId = event ∧ ∃ old, s.registrations.get? r.id = some old ∧ old.eventId = event)
    (h : ∀ x ∈ s.registrationsOf event, ∀ y ∈ s.registrationsOf event, x.Precedes y → ∀ x' y',
      Registration.Rewritten rs x x' → Registration.Rewritten rs y y' → x'.Precedes y') :
    ((s.puts rs).registrationsOf event).Pairwise Registration.Precedes := by
  obtain ⟨f, hf, hmap⟩ := registrationsOf_puts_stored hk hrs
  rw [hmap, List.pairwise_map]
  exact ho.imp_of_mem fun {x y} hx hy hxy => h x hx y hy hxy _ _ (hf x) (hf y)

private theorem mem_queue_of_waiting {x : Registration} (hx : x ∈ s.registrationsOf e.id)
    (hst : x.status = .waitlisted) : x ∈ s.queue e.id :=
  mem_queue.mpr (List.mem_filter.mpr ⟨hx, by simp [Registration.isWaitlisted, hst]⟩)

section
variable (h : s.Sound e) (ho : (s.registrationsOf e.id).Pairwise Registration.Precedes)
include h ho

/-- Whoever comes in gets a seat only if nobody waits, and a place behind all who do. -/
theorem precedes_put_new (hid : s.registrations.get? r.id = none) (he : r.eventId = e.id)
    (hr : r.status = .confirmed ∧ s.queue e.id = [] ∨
      r.status = .waitlisted ∧ r.rank = some ((s.waiting e.id).length + 1)) :
    ((s.put r).registrationsOf e.id).Pairwise Registration.Precedes := by
  rw [registrationsOf_put_new hid, if_pos he]
  refine List.pairwise_append.mpr ⟨ho, List.pairwise_singleton _ _, fun x hx y hy hst => ?_⟩
  obtain rfl := List.mem_singleton.mp hy
  have hxq := mem_queue_of_waiting hx hst
  rcases hr with ⟨-, hempty⟩ | ⟨hst', hrank⟩
  · rw [hempty] at hxq
    exact absurd hxq List.not_mem_nil
  · obtain ⟨k, hk, -, hlt⟩ := h.numberedFrom.rank_bounds hxq
    rw [(s.queue_perm e.id).length_eq] at hlt
    refine ⟨by simp [hst'], fun _ => ?_⟩
    rw [Tx.place_eq hk, Tx.place_eq hrank]
    omega

omit h in
theorem precedes_vacate (hk : s.Keyed) (hr : r ∈ s.seated e.id) (now : Instant) :
    ((s.put (r.cancelledAt now)).registrationsOf e.id).Pairwise Registration.Precedes := by
  obtain ⟨hget, hev, hst⟩ := (mem_seated hk).mp hr
  have hstored : ∀ x ∈ [r.cancelledAt now], x.eventId = e.id ∧
      ∃ old, s.registrations.get? x.id = some old ∧ old.eventId = e.id := by
    simpa using ⟨hev, r, hget, hev⟩
  refine precedes_puts hk ho hstored ?_
  intro x _ y _ hxy x' y' hx hy
  simp only [Registration.Rewritten, List.mem_singleton] at hx hy
  rcases hx with ⟨rfl, -⟩ | ⟨rfl, -⟩
  · exact fun hst => by simp at hst
  · rcases hy with ⟨rfl, -⟩ | ⟨rfl, -⟩
    · exact fun _ => by simp
    · exact hxy

omit h ho in
/-- Whoever leaves, those behind it who move up, and all others. -/
private theorem rewritten_departure (hk : s.Keyed) (hq : s.queue e.id = pre ++ r :: post) (hl : r'.Left r)
    {x x' : Registration} (hx : x ∈ s.registrationsOf e.id)
    (hw : Registration.Rewritten (departure r' post now) x x') :
    x = r ∧ x' = r' ∨ x ∈ post ∧ x' = x.movedUpAt now ∨ x ∉ r :: post ∧ x' = x := by
  have hmem {y : Registration} (hy : y ∈ r :: post) : y ∈ s.registrationsOf e.id := by
    have hyq : y ∈ s.queue e.id := by
      rw [hq]
      exact List.mem_append_right _ hy
    exact (List.mem_filter.mp (mem_queue.mp hyq)).1
  have hsame {y : Registration} (hy : y ∈ r :: post) (hid : y.id = x.id) : y = x :=
    List.inj_on_of_nodup_map (s.nodup_ids hk e.id) (hmem hy) hx hid
  rcases hw with ⟨hm, hid⟩ | ⟨rfl, hm⟩
  · rcases List.mem_cons.mp hm with rfl | hm
    · exact .inl ⟨(hsame List.mem_cons_self (hl.id.symm.trans hid)).symm, rfl⟩
    · obtain ⟨y, hy, rfl⟩ := List.mem_map.mp hm
      obtain rfl := hsame (List.mem_cons_of_mem _ hy) hid
      exact .inr (.inl ⟨hy, rfl⟩)
  · rw [map_id_departure hl] at hm
    exact .inr (.inr ⟨fun hin => hm (List.mem_map_of_mem hin), rfl⟩)

/-- One leaves the waitlist, for a seat only if nobody waits in front. -/
theorem precedes_departure (hk : s.Keyed) (hq : s.queue e.id = pre ++ r :: post) (hl : r'.Left r)
    (hfirst : r'.status = .confirmed → pre = []) (now : Instant) :
    ((s.puts (departure r' post now)).registrationsOf e.id).Pairwise Registration.Precedes := by
  have hn := h.numberedFrom
  rw [hq] at hn
  obtain ⟨hpre, hr, hpost⟩ := NumberedFrom.append_iff.mp hn
  have hfront {x : Registration} (hx : x ∈ pre) : Tx.place x ≤ 1 + pre.length := by
    obtain ⟨k, hk, -, hlt⟩ := hpre.rank_bounds hx
    rw [Tx.place_eq hk]
    omega
  have hback {x : Registration} (hx : x ∈ post) :
      1 + pre.length + 1 < Tx.place x ∧ Tx.place (x.movedUpAt now) + 1 = Tx.place x := by
    obtain ⟨k, hk, hle, -⟩ := hpost.rank_bounds hx
    obtain ⟨k, rfl⟩ : ∃ j, k = j + 1 := ⟨k - 1, by omega⟩
    rw [Tx.place_eq hk, Tx.place_eq (rank_movedUpAt hk now)]
    exact ⟨by omega, rfl⟩
  refine precedes_puts hk ho (fun x hx => ?_) fun x hx y hy hxy x' y' hx' hy' hst => ?_
  · obtain ⟨old, hold, heo, -⟩ := stored_of_departure hk hq hl hx
    exact ⟨eventId_departure hk (show _ = pre ++ r :: (post ++ []) by simpa using hq) hl now x hx, old, hold, heo⟩
  -- Only one who waited before still waits: in front of `r`, or behind it and moved up.
  obtain ⟨hwait, hplace⟩ : x.status = .waitlisted ∧
      (x ∈ pre ∧ x' = x ∨ x ∈ post ∧ x' = x.movedUpAt now) := by
    rcases rewritten_departure hk hq hl hx hx' with ⟨-, rfl⟩ | ⟨hin, rfl⟩ | ⟨hout, rfl⟩
    · exact absurd hst hl.status
    · exact ⟨hst, .inr ⟨hin, rfl⟩⟩
    · have hxq := mem_queue_of_waiting hx hst
      rw [hq] at hxq
      exact ⟨hst, .inl ⟨(List.mem_append.mp hxq).resolve_right hout, rfl⟩⟩
  obtain ⟨hseat, hrise⟩ := hxy hwait
  rcases rewritten_departure hk hq hl hy hy' with ⟨rfl, rfl⟩ | ⟨hin, rfl⟩ | ⟨hout, rfl⟩
  · refine ⟨fun hc => ?_, fun hw => absurd hw hl.status⟩
    obtain rfl := hfirst hc
    have hry : y ∈ s.queue e.id := by simp [hq]
    have hlt := hrise ((mem_waiting hk).mp (mem_queue.mp hry)).2.2
    rw [Tx.place_eq hr] at hlt
    rcases hplace with ⟨hin, -⟩ | ⟨hin, -⟩
    · exact absurd hin List.not_mem_nil
    · have hbehind := (hback hin).1
      omega
  · refine ⟨hseat, fun hw => ?_⟩
    have hlt := hrise hw
    have hmoved := hback hin
    rcases hplace with ⟨hx, rfl⟩ | ⟨hx, rfl⟩
    · have hle := hfront hx
      omega
    · have hx' := hback hx
      omega
  · refine ⟨hseat, fun hw => ?_⟩
    have hlt := hrise hw
    rcases hplace with ⟨-, rfl⟩ | ⟨hx, rfl⟩
    · exact hlt
    · have hx' := hback hx
      omega

end

end Store
end Turnstile
