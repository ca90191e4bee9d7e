import Turnstile.Proofs.Simulation.Drawing

/-!
Accounts of the events that were handed on: each was told to its registrant, or it waits in the queue or with whoever
took it from there.
-/

namespace Turnstile.Simulation
open scoped List

/-- An event with the identifier under which it was handed on. -/
abbrev Entry := MessageId × RegistrationEvent

namespace Entry

def queued (x : Entry) : QueuedEvent := x.2.queued x.1

def notice (x : Entry) : Notification := x.2.notice x.1

end Entry

/-- Every recorded event was told or waits, under an identifier of its own. -/
structure Accounted (w : World) (inFlight : List QueuedEvent) (recorded : List RegistrationEvent)
    (told waiting : List Entry) : Prop where
  notifications : w.notifications = told.map Entry.notice
  undelivered : inFlight ++ w.queue.events ~ waiting.map Entry.queued
  recorded : (told ++ waiting).map Prod.snd ~ recorded
  nodup : ((told ++ waiting).map Prod.fst).Nodup
  drawn : ∀ id ∈ (told ++ waiting).map Prod.fst, ∃ n < w.session.ids.drawn, id = ⟨w.session.ids.item n⟩

namespace Accounted
variable {w w' : World} {inFlight inFlight' : List QueuedEvent} {recorded recorded' : List RegistrationEvent}
  {told waiting waiting' : List Entry} {x : Entry} {e : RegistrationEvent}

private theorem drawn_after {ids : List MessageId}
    (h : ∀ id ∈ ids, ∃ n < w.session.ids.drawn, id = ⟨w.session.ids.item n⟩) (hl : w.Draws w') :
    ∀ id ∈ ids, ∃ n < w'.session.ids.drawn, id = ⟨w'.session.ids.item n⟩ := by
  obtain ⟨m, hm⟩ := hl
  intro id hid
  obtain ⟨k, hk, hitem⟩ := h id hid
  rw [hm]
  exact ⟨k, Nat.lt_add_right m hk, hitem⟩

/-- Nothing happens to the notices, and what waits is where it was or elsewhere. -/
theorem kept (h : Accounted w inFlight recorded told waiting) (hl : w.Draws w')
    (hn : w'.notifications = w.notifications)
    (hq : inFlight' ++ w'.queue.events ~ inFlight ++ w.queue.events) :
    Accounted w' inFlight' recorded told waiting where
  notifications := hn.trans h.notifications
  undelivered := hq.trans h.undelivered
  recorded := h.recorded
  nodup := h.nodup
  drawn := drawn_after h.drawn hl

theorem permuted (h : Accounted w inFlight recorded told waiting) (hw : waiting' ~ waiting)
    (hr : recorded' ~ recorded) : Accounted w inFlight recorded' told waiting' where
  notifications := h.notifications
  undelivered := h.undelivered.trans (hw.map _).symm
  recorded := (((hw.append_left told).map _).trans h.recorded).trans hr.symm
  nodup := ((hw.append_left told).map _).nodup_iff.mpr h.nodup
  drawn := fun id hid => h.drawn id (((hw.append_left told).map _).mem_iff.mp hid)

/-- The identifier that is drawn next was not given to anybody. -/
private theorem next_notMem (h : Accounted w inFlight recorded told waiting) (hl : w.Leads w' 1)
    (hd : w'.session.ids.Distinct) : ⟨w.session.ids.next⟩ ∉ (told ++ waiting).map Prod.fst := by
  intro hin
  obtain ⟨k, hk, hid⟩ := h.drawn _ hin
  have hlast : w'.session.ids.drawn = w.session.ids.drawn + 1 := congrArg Supply.drawn hl.ids
  have hitem : w'.session.ids.item = w.session.ids.item := by rw [hl.ids]; rfl
  have hsame := hd k w.session.ids.drawn (by omega) (by omega) (by rw [hitem]; exact (Id.mk.inj hid).symm)
  omega

/-- One event more was recorded, and somebody has it under the identifier drawn for it. -/
theorem enter (h : Accounted w inFlight recorded told waiting) (hl : w.Leads w' 1)
    (hd : w'.session.ids.Distinct) (hn : w'.notifications = w.notifications) (hq : w'.queue.events = w.queue.events)
    (hx : x = (⟨w.session.ids.next⟩, e)) :
    Accounted w' (inFlight ++ [x.queued]) (recorded ++ [e]) told (x :: waiting) := by
  have hmiddle : told ++ x :: waiting ~ x :: (told ++ waiting) := List.perm_middle
  constructor
  case notifications => exact hn.trans h.notifications
  case undelivered =>
    rw [hq, List.append_assoc, List.map_cons]
    exact List.perm_middle.trans (h.undelivered.cons _)
  case recorded =>
    refine (hmiddle.map _).trans ?_
    rw [List.map_cons, hx]
    exact (h.recorded.cons e).trans (List.perm_append_singleton e recorded).symm
  case nodup =>
    refine (hmiddle.map _).nodup_iff.mpr ?_
    rw [List.map_cons, hx]
    exact List.nodup_cons.mpr ⟨h.next_notMem hl hd, h.nodup⟩
  case drawn =>
    intro id hid
    replace hid := (hmiddle.map _).mem_iff.mp hid
    rw [List.map_cons, hx] at hid
    rcases List.mem_cons.mp hid with rfl | hid
    · rw [hl.ids]
      exact ⟨w.session.ids.drawn, Nat.lt_succ_self _, rfl⟩
    · exact drawn_after h.drawn hl.draws id hid

theorem sources (h : Accounted w inFlight recorded told waiting) :
    w.notifications.map Notification.source = told.map Prod.fst := by
  rw [h.notifications, List.map_map]
  rfl

theorem not_told (h : Accounted w inFlight recorded told waiting) (hx : x ∈ waiting) : x.1 ∉ told.map Prod.fst := by
  have hnodup := h.nodup
  rw [List.map_append] at hnodup
  exact fun hin => (List.nodup_append'.mp hnodup).2.2 hin (List.mem_map_of_mem hx)

/-- Whoever has an event hands it to the notifier. -/
theorem tell (h : Accounted w inFlight recorded told (x :: waiting)) (hl : w.Draws w')
    (hn : w'.notifications = w.notifications.record x.notice)
    (hq : inFlight' ++ w'.queue.events ~ waiting.map Entry.queued) :
    Accounted w' inFlight' recorded (told ++ [x]) waiting := by
  have hsame : told ++ [x] ++ waiting = told ++ x :: waiting := by simp
  have hnew : x.notice.source ∉ w.notifications.map Notification.source := h.sources ▸ h.not_told List.mem_cons_self
  constructor
  case notifications => rw [hn, NotificationLog.record_new hnew, h.notifications, List.map_append]; rfl
  case undelivered => exact hq
  case recorded => exact hsame ▸ h.recorded
  case nodup => exact hsame ▸ h.nodup
  case drawn => exact hsame ▸ drawn_after h.drawn hl

theorem handedOn (h : Accounted w inFlight recorded told waiting) (hp : ∀ x ∈ waiting, x.2.isUrgent = false)
    (hon : w.HandedOn e w') (hd : w'.session.ids.Distinct) :
    ∃ told' waiting', Accounted w' inFlight (recorded ++ [e]) told' waiting' ∧
      ∀ x ∈ waiting', x.2.isUrgent = false := by
  let held : World := { w' with notifications := w.notifications, queue := w.queue }
  have hheld : w.Leads held 1 :=
    ⟨hon.leads.dispatcher, hon.leads.faults, hon.leads.requests, hon.leads.store, hon.leads.tx, hon.leads.ids⟩
  have hlet : held.Draws w' := World.draws_of_eq rfl
  let x : Entry := (⟨w.session.ids.next⟩, e)
  have henter := h.enter (x := x) hheld hd rfl rfl rfl
  rcases hon.whither with ⟨hnotes, hevents⟩ | ⟨hurgent, hnotes, hevents⟩
  · exact ⟨told ++ [x], waiting, henter.tell hlet hnotes (hevents ▸ h.undelivered), hp⟩
  · refine ⟨told, x :: waiting, henter.kept hlet hnotes ?_, ?_⟩
    · rw [hevents, ← List.append_assoc, List.append_assoc inFlight, List.append_assoc]
      exact (List.perm_append_comm).append_left inFlight
    · intro y hy
      rcases List.mem_cons.mp hy with rfl | hy
      · exact hurgent
      · exact hp y hy

theorem allHandedOn {events : List RegistrationEvent} (h : Accounted w inFlight recorded told waiting)
    (hp : ∀ x ∈ waiting, x.2.isUrgent = false) (hon : w.AllHandedOn events w') (hd : w'.session.ids.Distinct) :
    ∃ told' waiting', Accounted w' inFlight (recorded ++ events) told' waiting' ∧
      ∀ x ∈ waiting', x.2.isUrgent = false := by
  induction events generalizing w recorded told waiting with
  | nil =>
    obtain rfl : w' = w := hon
    exact ⟨told, waiting, by rwa [List.append_nil], hp⟩
  | cons e events ih =>
    obtain ⟨w₁, hfirst, hrest⟩ := hon
    have hd₁ : w₁.session.ids.Distinct := by
      rw [hrest.leads.ids] at hd
      exact hd.of_skip
    obtain ⟨told₁, waiting₁, h₁, hp₁⟩ := h.handedOn hp hfirst hd₁
    obtain ⟨told', waiting', h', hp'⟩ := ih h₁ hp₁ hrest
    rw [List.append_assoc] at h'
    exact ⟨told', waiting', h', hp'⟩

/-- What was told is not told again. -/
theorem told_again (h : Accounted w inFlight recorded told waiting) (again : List QueuedEvent)
    (ha : ∀ q ∈ again, ∃ x ∈ told, q = x.queued) : w.notifications.handleAll again = w.notifications := by
  refine NotificationLog.handleAll_known fun q hq => ?_
  obtain ⟨x, hx, rfl⟩ := ha q hq
  exact ⟨x.2, x.1, rfl, h.sources ▸ List.mem_map_of_mem hx⟩

/-- What waits would be told once. -/
theorem waiting_again (h : Accounted w inFlight recorded told waiting) (hx : x ∈ waiting) (n : Nat) :
    w.notifications.handleAll (List.replicate (n + 1) x.queued) = w.notifications ++ [x.notice] :=
  NotificationLog.handleAll_again (h.sources ▸ h.not_told hx) x.2 n

end Accounted
end Turnstile.Simulation
