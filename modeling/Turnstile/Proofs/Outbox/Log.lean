import Turnstile.Proofs.Allocation.Invariant
import Turnstile.Proofs.Outbox.Delivery
import Turnstile.Proofs.Outbox.Roster
import Mathlib.Data.Finset.Basic

/-!
The outbox is a log of the registrations: whoever replays the payloads about an event ends with its seats and
its waitlist, at any time and whatever happens to the rows that carry them.
-/

namespace Turnstile
open scoped List

namespace Store

/-- Who holds a seat of an event, and who waits for one, lowest place first. -/
def roster (s : Store) (event : EventId) : Roster where
  seated := ((s.seated event).map Registration.id).toFinset
  queue := (s.queue event).map Registration.id

variable {s s' : Store} {e : ScheduledEvent} {event : EventId} {new : RegistrationId → Prop} {rows : List Tracked}
  {r : Registration} {id : RegistrationId}

theorem roster_congr (h : s'.registrationsOf event = s.registrationsOf event) :
    s'.roster event = s.roster event := by
  simp only [roster, seated, queue, waiting, h]

/-- Newcomers are not on the roster. -/
private theorem notMem_roster (hk : s.Keyed) (hid : s.registrations.get? id = none) :
    id ∉ (s.roster event).seated ∧ id ∉ (s.roster event).queue := by
  have hnone : ∀ r ∈ s.registrationsOf event, r.id ≠ id := by
    rintro r hr rfl
    rw [((mem_registrationsOf hk).mp hr).1] at hid
    cases hid
  constructor
  · simp only [roster, List.mem_toFinset, List.mem_map, not_exists, not_and]
    exact fun r hr => hnone r (List.mem_filter.mp hr).1
  · simp only [roster, List.mem_map, not_exists, not_and, mem_queue]
    exact fun r hr => hnone r (List.mem_filter.mp hr).1

private theorem roster_eq {seated : List Registration} {queue : List Registration} (hs : s.seated event ~ seated)
    (hq : s.queue event = queue) :
    s.roster event = { seated := (seated.map Registration.id).toFinset, queue := queue.map Registration.id } := by
  rw [roster, hq, List.toFinset_eq_of_perm _ _ (hs.map Registration.id)]

section
variable (hk : s.Keyed) (hs : s.Sound e)
include hk hs

private theorem roster_put_seated (hid : s.registrations.get? r.id = none) (he : r.eventId = e.id)
    (hst : r.status = .confirmed) (hin : s.Enters e r) :
    (s.put r).roster e.id = { s.roster e.id with seated := insert r.id (s.roster e.id).seated } := by
  have hseated := seated_put_new hk hid he
  have hqueue := (queue_put_new hs hk hid he hin).1
  rw [if_pos (by simp [Registration.isConfirmed, hst])] at hseated
  rw [if_neg (by simp [Registration.isWaitlisted, hst])] at hqueue
  rw [roster_eq hseated hqueue, List.map_cons, List.toFinset_cons]
  rfl

private theorem roster_put_waiting (hid : s.registrations.get? r.id = none) (he : r.eventId = e.id)
    (hst : r.status = .waitlisted) (hin : s.Enters e r) :
    (s.put r).roster e.id = { s.roster e.id with queue := (s.roster e.id).queue ++ [r.id] } := by
  have hseated := seated_put_new hk hid he
  have hqueue := (queue_put_new hs hk hid he hin).1
  rw [if_neg (by simp [Registration.isConfirmed, hst])] at hseated
  rw [if_pos (by simp [Registration.isWaitlisted, hst])] at hqueue
  rw [roster_eq hseated hqueue, List.map_append]
  rfl

private theorem roster_vacate (hr : r ∈ s.seated e.id) (now : Instant) :
    (s.put (r.cancelledAt now)).roster e.id =
      { s.roster e.id with seated := (s.roster e.id).seated.erase r.id } := by
  have hseated := seated_vacate hk hr now
  have hnotin : r.id ∉ ((s.put (r.cancelledAt now)).seated e.id).map Registration.id := by
    have hn : ((s.seated e.id).map Registration.id).Nodup :=
      (s.nodup_ids hk e.id).sublist (List.filter_sublist.map _)
    exact (List.nodup_cons.mp ((hseated.map Registration.id).nodup_iff.mp hn)).1
  rw [roster_eq hseated rfl, roster_eq (.refl _) (queue_vacate hs hk hr now), List.map_cons, List.toFinset_cons,
    Finset.erase_insert (by simpa using hnotin)]

private theorem roster_departure {pre post : List Registration} {r' : Registration}
    (hq : s.queue e.id = pre ++ r :: post) (hl : r'.Left r) (now : Instant) :
    (s.puts (departure r' post now)).roster e.id =
      { seated := if r'.isConfirmed then insert r.id (s.roster e.id).seated else (s.roster e.id).seated
        queue := pre.map Registration.id ++ post.map Registration.id } := by
  have hq' : s.queue e.id = pre ++ r :: (post ++ []) := by simpa using hq
  have hseated := seated_departure hk hq' hl now
  have hqueue := (queue_departure hs hk hq hl now).1
  rw [roster_eq hseated hqueue]
  split <;> simp [roster, hl.id, Function.comp_def]

/-- Whoever waits has the place that counts those in front. -/
private theorem place_of_queue {pre post : List Registration} (hq : s.queue e.id = pre ++ r :: post) :
    r.eventId = e.id ∧ r.status = .waitlisted ∧ ∃ p, r.position = some p ∧ p.toNat = pre.length + 1 := by
  have hm : r ∈ s.queue e.id := by simp [hq]
  obtain ⟨-, hev, hst⟩ := (mem_waiting hk).mp (mem_queue.mp hm)
  have hn := hs.numberedFrom
  rw [hq] at hn
  obtain ⟨p, hp, hrank⟩ := Option.map_eq_some_iff.mp hn.rank_at
  exact ⟨hev, hst, p, hp, by omega⟩

end

private theorem takeOut?_roster {pre post : List Registration} {p : UInt32} (hq : s.queue e.id = pre ++ r :: post)
    (hp : p.toNat = pre.length + 1) :
    Roster.takeOut? (s.roster e.id).queue r.id p = some (pre.map Registration.id ++ post.map Registration.id) := by
  rw [roster, hq, List.map_append, List.map_cons]
  exact Roster.takeOut?_append (by rw [hp, List.length_map])

/-- A move announces one event, and following its notice is legal and leads to the roster after the move. -/
theorem Move.told (h : Move new s e rows) (hk : s.Keyed) (hs : s.Sound e) :
    ∃ told notice, announced rows = [told] ∧ Notice.of? told = some notice ∧ told.subject.eventId = e.id ∧
      (s.roster e.id).follow? told.subject.registrationId notice =
        some ((s.puts (rows.map Tracked.registration)).roster e.id) := by
  cases h with
  | @sit registrant id hin hid hnew hfree now =>
    have hnotin := not_or.mpr (@notMem_roster s e.id id hk hid)
    refine ⟨.confirmed ⟨id, e.id, registrant⟩ now, .confirmed, rfl, rfl, rfl, ?_⟩
    have hput := @roster_put_seated s e (Tracked.confirmed e.id registrant now id).registration hk hs hid rfl rfl
      (.inl ⟨rfl, rfl, hfree⟩)
    exact (if_neg hnotin).trans (congrArg some hput.symm)
  | @wait registrant id hin hid hnew hlt now =>
    have hnotin := not_or.mpr (@notMem_roster s e.id id hk hid)
    have hplace := toNat_ofNat_succ hlt
    let t := Tracked.queued e.id registrant (.ofNat (s.queue e.id).length + 1) now id
    have hrank : t.registration.rank = some ((s.waiting e.id).length + 1) := by
      rw [← (s.queue_perm e.id).length_eq, ← hplace]
      rfl
    have hput := @roster_put_waiting s e t.registration hk hs hid rfl rfl (.inr ⟨rfl, hrank⟩)
    refine ⟨.waitlisted ⟨id, e.id, registrant⟩ _ now, .waitlisted _, rfl, rfl, rfl, ?_⟩
    refine (if_neg (not_or.mpr ⟨hnotin, ?_⟩)).trans (congrArg some hput.symm)
    rw [not_not, hplace, roster, List.length_map]
  | @vacate r hr now =>
    obtain ⟨hget, hev, hst⟩ := (mem_seated hk).mp hr
    have hp : r.position = none := by
      have hplaced := hs.placed r ((mem_registrationsOf hk).mpr ⟨hget, hev⟩)
      simpa [hst] using hplaced
    refine ⟨.cancelled r.subject r.status r.position now, .cancelled r.status r.position, rfl, rfl, hev, ?_⟩
    have hin : r.id ∈ (s.roster e.id).seated := by
      simpa [roster] using ⟨r, hr, rfl⟩
    rw [hst, hp]
    exact (if_pos hin).trans (congrArg some (roster_vacate hk hs hr now).symm)
  | @withdraw pre post r hq now =>
    obtain ⟨hev, hst, p, hp, hplace⟩ := place_of_queue hk hs hq
    refine ⟨.cancelled r.subject r.status r.position now, .cancelled r.status r.position,
      announced_ahead _ _ _, rfl, hev, ?_⟩
    rw [Tracked.map_registration_ahead, hst, hp]
    refine (congrArg (Option.map _) (takeOut?_roster hq hplace)).trans (congrArg some ?_)
    exact (roster_departure hk hs hq (Registration.left_cancelledAt r now) now).symm
  | @seat pre post r hq hfree now =>
    obtain ⟨hev, hst, p, hp, hplace⟩ := place_of_queue hk hs hq
    refine ⟨.promoted r.subject (r.position.getD 0) now, .promoted (r.position.getD 0),
      announced_ahead _ _ _, rfl, hev, ?_⟩
    rw [Tracked.map_registration_ahead, hp]
    refine (congrArg (Option.map _) (takeOut?_roster hq hplace)).trans (congrArg some ?_)
    exact (roster_departure hk hs hq (Registration.left_seatedAt r now) now).symm

private theorem replay_moves {messages : List OutboxMessage} (h : Moves new e s rows) (hk : s.Keyed)
    (hs : s.Sound e) (event : EventId)
    (hm : List.Forall₂ OutboxMessage.Announces messages (announced rows)) :
    (messages.map OutboxMessage.payload).foldlM (Roster.hear? event) (s.roster event) =
      some ((s.puts (rows.map Tracked.registration)).roster event) := by
  induction h generalizing messages with
  | nil =>
    cases hm
    rfl
  | @cons s first rest hmove _ ih =>
    obtain ⟨told, notice, hann, hnotice, hsubject, hfollow⟩ := hmove.told hk hs
    rw [announced_append, hann] at hm
    obtain ⟨m, messages, hannounces, hrest, rfl⟩ := List.forall₂_cons_right_iff.mp hm
    have hheard : (s.roster event).hear? event m.payload =
        some ((s.puts (first.map Tracked.registration)).roster event) := by
      rw [hannounces.payload, Roster.hear?_toJson hnotice]
      split
      · next hev =>
        obtain rfl := hsubject.symm.trans hev
        exact hfollow
      · next hev =>
        have hover := hmove.over hk
        have hne : e.id ≠ event := hsubject ▸ hev
        exact congrArg some (roster_congr (registrationsOf_puts_of_ne hne (fun r hr => (hover r hr).1)
          fun r hr old hold => ((hover r hr).2 old hold).1)).symm
    rw [List.map_cons, List.foldlM_cons, hheard, List.map_append, puts_append]
    exact ih hk.puts (hmove.sound hk hs) hrest

/-- The payloads tell of every event what is stored of it. -/
def Logged (s : Store) : Prop :=
  ∀ event, Roster.replay? event (s.outbox.map OutboxMessage.payload) = some (s.roster event)

theorem Step.logged (h : Step new s s') (hl : s.Lawful) (hlog : s.Logged) : s'.Logged := by
  intro event
  cases h with
  | stay | raise => exact hlog event
  | @write e rows messages he hmoves hm =>
    have hout : ((s.puts (rows.map Tracked.registration)).announce messages).outbox = s.outbox ++ messages := by
      rw [announce, puts_outbox]
    rw [hout, List.map_append, Roster.replay?_append, hlog event, Option.bind_some]
    exact replay_moves hmoves hl.keyed (hl.sound _ _ he) event hm

end Store

/-- What happens to a store: transactions, and calls of outbox workers between them. -/
inductive Activity where
  | transaction (a : Attempt)
  | delivery (c : OutboxCall)

namespace Session
variable {s : Session}

def undergo (s : Session) : Activity → Session
  | .transaction a => a.transaction.run (s.facing a)
  | .delivery c => { s with store := s.store.deliver c }

def through (s : Session) (activities : List Activity) : Session := activities.foldl undergo s

theorem through_ids (s : Session) (activities : List Activity) :
    ∃ n, (s.through activities).ids = s.ids.skip n := by
  induction activities generalizing s with
  | nil => exact ⟨0, rfl⟩
  | cons a activities ih =>
    obtain ⟨n, hn⟩ := ih (s.undergo a)
    cases a with
    | transaction a =>
      obtain ⟨m, hm⟩ := a.transaction.run_ids (s.facing a)
      exact ⟨m + n, hn.trans (by rw [undergo, hm, Supply.skip_skip]; rfl)⟩
    | delivery c => exact ⟨n, hn⟩

theorem through_item (s : Session) (activities : List Activity) :
    (s.through activities).ids.item = s.ids.item := by
  obtain ⟨n, hn⟩ := s.through_ids activities
  rw [hn]
  rfl

theorem Consistent.deliver (h : s.Consistent) (c : OutboxCall) : (s.undergo (.delivery c)).Consistent := by
  obtain ⟨outbox, hstore, -⟩ := s.store.deliver_eq c
  rw [undergo, hstore]
  exact ⟨⟨h.idle.tx, h.idle.locked⟩, ⟨h.lawful.events_keyed, h.lawful.keyed, fun id e he =>
    (h.lawful.sound id e he).congr rfl⟩, h.drawn⟩

/-- One activity keeps the outbox a log. -/
theorem Consistent.undergo (h : s.Consistent) (hlog : s.store.Logged) (a : Activity)
    (hd : (s.undergo a).ids.Distinct) : (s.undergo a).Consistent ∧ (s.undergo a).store.Logged := by
  cases a with
  | transaction a =>
    have hf := h.facing a
    obtain ⟨-, hstep⟩ := a.transaction.run_step hf.idle hf.lawful (hf.unused a.transaction hd)
    exact ⟨(hf.run a.transaction hd).1, hstep.logged hf.lawful hlog⟩
  | delivery c =>
    refine ⟨h.deliver c, fun event => ?_⟩
    obtain ⟨outbox, hstore, hpayloads⟩ := s.store.deliver_eq c
    rw [Session.undergo, hstore]
    exact (congrArg (Roster.replay? event) hpayloads).trans (hlog event)

theorem Consistent.through (h : s.Consistent) (hlog : s.store.Logged) (activities : List Activity)
    (hd : (s.through activities).ids.Distinct) :
    (s.through activities).Consistent ∧ (s.through activities).store.Logged := by
  induction activities generalizing s with
  | nil => exact ⟨h, hlog⟩
  | cons a activities ih =>
    obtain ⟨n, hn⟩ := (s.undergo a).through_ids activities
    have hd' : (s.undergo a).ids.Distinct := by
      have hd'' : ((s.undergo a).through activities).ids.Distinct := hd
      rw [hn] at hd''
      exact hd''.of_skip
    obtain ⟨hundergo, hlog'⟩ := h.undergo hlog a hd'
    exact ih hundergo hlog' hd

/-- Whatever happened since there were no registrations, a replay of the outbox ends with the seats and the
waitlist of every event, and the waitlist is in the order of the places. -/
theorem replay_outbox (events : List ScheduledEvent) (registrants : List Registrant) (ids : Nat → Uuid)
    (activities : List Activity) (hd : ((start events registrants ids).through activities).ids.Distinct)
    (event : EventId) :
    let s := (start events registrants ids).through activities
    Roster.replay? event (s.store.outbox.map OutboxMessage.payload) = some (s.store.roster event) ∧
      ∀ e, s.store.events.get? event = some e → NumberedFrom 1 (s.store.queue event) := by
  have hlog : (start events registrants ids).store.Logged := by
    intro event
    simp [start, Store.prepared_outbox, Roster.replay?, Store.roster, Store.seated, Store.queue, Store.waiting,
      Store.prepared_registrationsOf]
  obtain ⟨hs, hlog'⟩ := (consistent_start events registrants ids).through hlog activities hd
  refine ⟨hlog' event, fun e he => ?_⟩
  obtain rfl := hs.lawful.events_keyed _ _ he
  exact (hs.lawful.sound _ _ he).numberedFrom

/-- Of two who want the one seat the second gets it when the first cancels, while a worker claims a row. -/
theorem replay_outbox_oneSeat :
    let s := (start [.oneSeat] [⟨⟨⟨0, 2⟩⟩, "a"⟩, ⟨⟨⟨0, 3⟩⟩, "b"⟩] (IdSupply.counting 1 1).item).through
      [.transaction ⟨.register ScheduledEvent.oneSeat.id ⟨⟨0, 2⟩⟩, .constant default, false⟩,
        .transaction ⟨.register ScheduledEvent.oneSeat.id ⟨⟨0, 3⟩⟩, .constant default, false⟩,
        .delivery (.tryClaim ⟨IdSupply.number 2⟩ "w" default default),
        .transaction ⟨.cancel ⟨IdSupply.number 1⟩, .constant default, false⟩]
    Roster.replay? ScheduledEvent.oneSeat.id (s.store.outbox.map OutboxMessage.payload) =
        some (s.store.roster ScheduledEvent.oneSeat.id) ∧
      ∀ e, s.store.events.get? ScheduledEvent.oneSeat.id = some e →
        NumberedFrom 1 (s.store.queue ScheduledEvent.oneSeat.id) := by
  refine replay_outbox _ _ _ _ (IdSupply.distinct_of_counting ?_ (by decide +kernel)) _
  rw [through_item]
  rfl

end Session
end Turnstile
