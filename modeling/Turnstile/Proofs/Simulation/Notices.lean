import Turnstile.Proofs.Simulation.Accounting

/-!
Every event of a committed change gives one notice: it was given already, or the event waits in the queue or with a
handler, whatever commands, failing commits and outages of the queue there were.
-/

namespace Turnstile.Simulation
open scoped List

/-- The service and the background processor at work on one store and one queue. -/
structure Site where
  world : World
  /-- The events that were taken from the queue and are not handled yet. -/
  inFlight : List QueuedEvent := []
  /-- The events that committed changes called for. -/
  recorded : List RegistrationEvent := []
  replies : List (Option (Except ServiceError (List Tracked))) := []
  outcomes : List (Option Outcome) := []

/-- What can happen next. A command runs to its end, with the readings of the clock that it gets. -/
inductive Deed where
  | serve (c : Command) (clock : Supply Instant)
  | failCommits (failing : Bool)
  | disableQueue (disabled : Bool)
  | take
  | finish (n : Nat)

namespace Site

/-- The components as they are put together over a store without registrations and an empty queue. -/
def start (events : List ScheduledEvent) (registrants : List Registrant) (ids : Nat → Uuid)
    (background : BackgroundSettings) (pollTimeout : Duration) : Site where
  world := {
    session := .start events registrants ids
    dispatcher := World.defaultDispatcher
    background
    pollTimeout }

def step (s : Site) : Deed → Site
  | .serve c clock =>
    let (reply, world, recorded) := (Service.command s.world.dispatcher c).run.run
      (Program.watch World.answerService World.changes)
      ({ s.world with session := { s.world.session with clock } }, s.recorded)
    { s with world, recorded, replies := s.replies ++ [reply] }
  | .failCommits failing => { s with world := { s.world with session := s.world.session.failing failing } }
  | .disableQueue disabled => { s with world := { s.world with queue := { s.world.queue with disabled } } }
  | .take =>
    match s.world.dequeue .nothing with
    | (.ok (some e, _), world) => { s with world, inFlight := s.inFlight ++ [e] }
    | (_, world) => { s with world }
  | .finish n =>
    match s.inFlight[n]? with
    | some e =>
      let (outcome, world) := s.world.process e
      { s with world, inFlight := s.inFlight.eraseIdx n, outcomes := s.outcomes ++ [outcome.map Prod.fst] }
    | none => s

def after (s : Site) (deeds : List Deed) : Site := deeds.foldl step s

theorem step_draws (s : Site) (d : Deed) : s.world.Draws (s.step d).world := by
  cases d with
  | serve c clock =>
    exact World.command_draws s.world.dispatcher c { s.world with session := { s.world.session with clock } } s.recorded
  | failCommits failing => exact World.draws_of_eq rfl
  | disableQueue disabled => exact World.draws_of_eq rfl
  | take =>
    have hdraws := s.world.dequeue_draws
    rw [step]
    split
    · next heq => rwa [heq] at hdraws
    · next heq => rwa [heq] at hdraws
  | finish n =>
    rw [step]
    split
    · exact s.world.process_draws _
    · exact World.draws_of_eq rfl

theorem after_draws (deeds : List Deed) (s : Site) : s.world.Draws (s.after deeds).world := by
  induction deeds generalizing s with
  | nil => exact World.draws_of_eq rfl
  | cons d deeds ih => exact (s.step_draws d).trans (ih (s.step d))

/-- No service call fails to dispatch, no handler fails, and the accounts are right. -/
structure Sound (s : Site) : Prop where
  wired : s.world.Wired
  consistent : s.world.session.Consistent
  accounted :
    ∃ told waiting, Accounted s.world s.inFlight s.recorded told waiting ∧ ∀ x ∈ waiting, x.2.isUrgent = false
  replies : ∀ reply ∈ s.replies, ∃ r, reply = some r ∧ ∀ cause, r ≠ .error (.dispatch cause)
  outcomes : ∀ outcome ∈ s.outcomes, outcome = some (.handled 1)

theorem sound_start (events : List ScheduledEvent) (registrants : List Registrant) (ids : Nat → Uuid)
    (background : BackgroundSettings) (pollTimeout : Duration) :
    (start events registrants ids background pollTimeout).Sound where
  wired := ⟨rfl, rfl, rfl⟩
  consistent := Session.consistent_start events registrants ids
  accounted := ⟨[], [], ⟨rfl, .nil, .nil, .nil, by simp⟩, by simp⟩
  replies := by simp [start]
  outcomes := by simp [start]

namespace Sound
variable {s : Site}

private theorem serve (h : s.Sound) (c : Command) (clock : Supply Instant)
    (hd : (s.step (.serve c clock)).world.session.ids.Distinct) : (s.step (.serve c clock)).Sound := by
  obtain ⟨told, waiting, hacc, hp⟩ := h.accounted
  let w : World := { s.world with session := { s.world.session with clock } }
  have hw : w.Wired := ⟨h.wired.dispatcher, h.wired.faults, h.wired.requests⟩
  have hc : w.session.Consistent :=
    ⟨⟨h.consistent.idle.tx, h.consistent.idle.locked⟩, h.consistent.lawful, h.consistent.drawn⟩
  have hstep : s.step (.serve c clock) =
      let r := (Service.command World.defaultDispatcher c).run.run (Program.watch World.answerService World.changes)
        (w, s.recorded)
      { s with world := r.2.1, recorded := r.2.2, replies := s.replies ++ [r.1] } := by
    rw [← h.wired.dispatcher]
    rfl
  rw [hstep] at hd ⊢
  obtain ⟨reply, w₁, events, w', recorded, hrun, hreply, ⟨spent, hw₁⟩, hc₁, hperm, hons⟩ := World.run_command hw hc c hd
  rw [hrun] at hd ⊢
  have hw₁' : w₁.Wired := hw₁ ▸ ⟨hw.dispatcher, hw.faults, hw.requests⟩
  have hacc₁ : Accounted w₁ s.inFlight s.recorded told waiting := by
    refine hacc.kept ?_ (by rw [hw₁]) (by rw [hw₁])
    rw [hw₁]
    exact Allocate.on_ids (Allocate.command c) w.session
  obtain ⟨told', waiting', hacc', hp'⟩ := hacc₁.allHandedOn hp hons hd
  constructor
  case wired => exact hons.leads.wired hw₁'
  case consistent => exact hons.leads.consistent hc₁
  case accounted => exact ⟨told', waiting', hacc'.permuted (.refl _) (hperm.symm.append_left s.recorded), hp'⟩
  case replies =>
    intro r hr
    rcases List.mem_append.mp hr with hr | hr
    · exact h.replies r hr
    · exact ⟨reply, List.mem_singleton.mp hr, hreply⟩
  case outcomes => exact h.outcomes

private theorem failCommits (h : s.Sound) (failing : Bool) : (s.step (.failCommits failing)).Sound where
  wired := ⟨h.wired.dispatcher, h.wired.faults, h.wired.requests⟩
  consistent :=
    ⟨h.consistent.idle.failing failing, Session.lawful_failing.mpr h.consistent.lawful, h.consistent.drawn⟩
  accounted := by
    obtain ⟨told, waiting, hacc, hp⟩ := h.accounted
    exact ⟨told, waiting, hacc.kept (World.draws_of_eq rfl) rfl (.refl _), hp⟩
  replies := h.replies
  outcomes := h.outcomes

private theorem disableQueue (h : s.Sound) (disabled : Bool) : (s.step (.disableQueue disabled)).Sound where
  wired := ⟨h.wired.dispatcher, h.wired.faults, h.wired.requests⟩
  consistent := h.consistent
  accounted := by
    obtain ⟨told, waiting, hacc, hp⟩ := h.accounted
    exact ⟨told, waiting, hacc.kept (World.draws_of_eq rfl) rfl (.refl _), hp⟩
  replies := h.replies
  outcomes := h.outcomes

/-- What was taken is in flight and no longer in the queue. -/
private theorem take (h : s.Sound) : (s.step .take).Sound := by
  obtain ⟨told, waiting, hacc, hp⟩ := h.accounted
  obtain ⟨ms, w', hdequeue, hleads, hnotes, hevents⟩ := World.dequeue_wired h.wired
  have hstep : s.step .take = { s with world := w', inFlight := s.inFlight ++ s.world.queue.events.head?.toList } := by
    rw [Site.step, hdequeue]
    cases s.world.queue.events with
    | nil => rw [List.head?_nil, Option.toList_none, List.append_nil]
    | cons e rest => rfl
  have hqueue : s.world.queue.events.head?.toList ++ w'.queue.events = s.world.queue.events := by
    rw [hevents]
    cases s.world.queue.events <;> rfl
  rw [hstep]
  have hacc' : Accounted w' (s.inFlight ++ s.world.queue.events.head?.toList) s.recorded told waiting :=
    hacc.kept hleads.draws hnotes (by rw [List.append_assoc, hqueue])
  exact ⟨hleads.wired h.wired, hleads.consistent h.consistent, ⟨told, waiting, hacc', hp⟩, h.replies, h.outcomes⟩

private theorem finish (h : s.Sound) (n : Nat) : (s.step (.finish n)).Sound := by
  obtain ⟨told, waiting, hacc, hp⟩ := h.accounted
  rw [step]
  cases hn : s.inFlight[n]? with
  | none => exact h
  | some e =>
    obtain ⟨hlt, hget⟩ := List.getElem?_eq_some_iff.mp hn
    have htaken : s.inFlight ~ e :: s.inFlight.eraseIdx n := hget ▸ (List.getElem_cons_eraseIdx_perm hlt).symm
    have hin : e ∈ waiting.map Entry.queued :=
      hacc.undelivered.mem_iff.mp (List.mem_append_left _ (List.mem_of_getElem? hn))
    obtain ⟨x, hx, rfl⟩ := List.mem_map.mp hin
    obtain ⟨before, behind, rfl⟩ := List.append_of_mem hx
    have hacc₁ := hacc.permuted (List.perm_middle.symm : x :: (before ++ behind) ~ _) (.refl _)
    obtain ⟨ms, w', hprocess, hleads, hnotes, hqueue⟩ := World.process_queued h.wired (hp x hx) x.1
    have hprocess' : s.world.process x.queued = (some (.handled 1, ms), w') := hprocess
    have hrest : s.inFlight.eraseIdx n ++ w'.queue.events ~ (before ++ behind).map Entry.queued := by
      rw [hqueue]
      refine List.Perm.cons_inv (a := x.queued) ?_
      exact ((htaken.append_right _).symm).trans hacc₁.undelivered
    dsimp only
    rw [hprocess']
    constructor
    case wired => exact hleads.wired h.wired
    case consistent => exact hleads.consistent h.consistent
    case accounted =>
      refine ⟨told ++ [x], before ++ behind, hacc₁.tell hleads.draws hnotes hrest, fun y hy => hp y ?_⟩
      exact List.perm_middle.mem_iff.mpr (List.mem_cons_of_mem x hy)
    case replies => exact h.replies
    case outcomes =>
      intro outcome ho
      rcases List.mem_append.mp ho with ho | ho
      · exact h.outcomes outcome ho
      · exact List.mem_singleton.mp ho

theorem step (h : s.Sound) (d : Deed) (hd : (s.step d).world.session.ids.Distinct) : (s.step d).Sound := by
  cases d with
  | serve c clock => exact h.serve c clock hd
  | failCommits failing => exact h.failCommits failing
  | disableQueue disabled => exact h.disableQueue disabled
  | take => exact h.take
  | finish n => exact h.finish n

theorem after (h : s.Sound) (deeds : List Deed) (hd : (s.after deeds).world.session.ids.Distinct) :
    (s.after deeds).Sound := by
  induction deeds generalizing s with
  | nil => exact h
  | cons d deeds ih =>
    have hd' : (s.step d).world.session.ids.Distinct := (after_draws deeds (s.step d)).distinct hd
    exact ih (h.step d hd') hd

end Sound

/-- The events that committed changes called for are those that were told and those that wait, one notice is given
for each that was told, and however often one is handed to the notifier there is no second notice of it. -/
theorem one_notice_for_each_event (events : List ScheduledEvent) (registrants : List Registrant) (ids : Nat → Uuid)
    (background : BackgroundSettings) (pollTimeout : Duration) (deeds : List Deed)
    (hd : ((start events registrants ids background pollTimeout).after deeds).world.session.ids.Distinct) :
    let s := (start events registrants ids background pollTimeout).after deeds
    let notices := s.world.notifications
    (∃ told waiting : List Entry,
      (told ++ waiting).map Prod.snd ~ s.recorded ∧ ((told ++ waiting).map Prod.fst).Nodup ∧
      notices = told.map Entry.notice ∧ s.inFlight ++ s.world.queue.events ~ waiting.map Entry.queued ∧
      (∀ again, (∀ q ∈ again, ∃ x ∈ told, q = x.queued) → notices.handleAll again = notices) ∧
      ∀ x ∈ waiting, ∀ n, notices.handleAll (List.replicate (n + 1) x.queued) = notices ++ [x.notice]) ∧
    (∀ reply ∈ s.replies, ∃ r, reply = some r ∧ ∀ cause, r ≠ .error (.dispatch cause)) ∧
    ∀ outcome ∈ s.outcomes, outcome = some (.handled 1) := by
  have hs := (sound_start events registrants ids background pollTimeout).after deeds hd
  obtain ⟨told, waiting, hacc, -⟩ := hs.accounted
  exact ⟨⟨told, waiting, hacc.recorded, hacc.nodup, hacc.notifications, hacc.undelivered, hacc.told_again,
    fun x => hacc.waiting_again⟩, hs.replies, hs.outcomes⟩

/-- The first of two is told of her seat through the queue, the second of his place without it. She cancels, which fails
at first, and in the end the notice of his promotion is under way. -/
theorem one_notice_for_each_event_oneSeat :
    let s := (start [.oneSeat] [⟨⟨⟨0, 2⟩⟩, "a"⟩, ⟨⟨⟨0, 3⟩⟩, "b"⟩] (IdSupply.counting 1 1).item {} (.ofMillis 1000)).after
      [.serve (.register ScheduledEvent.oneSeat.id ⟨⟨0, 2⟩⟩) (.constant default), .disableQueue true,
        .serve (.register ScheduledEvent.oneSeat.id ⟨⟨0, 3⟩⟩) (.constant default), .disableQueue false, .take, .finish 0,
        .failCommits true, .serve (.cancel ⟨IdSupply.number 1⟩) (.constant default), .failCommits false,
        .serve (.cancel ⟨IdSupply.number 1⟩) (.constant default), .take]
    let notices := s.world.notifications
    (∃ told waiting : List Entry,
      (told ++ waiting).map Prod.snd ~ s.recorded ∧ ((told ++ waiting).map Prod.fst).Nodup ∧
      notices = told.map Entry.notice ∧ s.inFlight ++ s.world.queue.events ~ waiting.map Entry.queued ∧
      (∀ again, (∀ q ∈ again, ∃ x ∈ told, q = x.queued) → notices.handleAll again = notices) ∧
      ∀ x ∈ waiting, ∀ n, notices.handleAll (List.replicate (n + 1) x.queued) = notices ++ [x.notice]) ∧
    (∀ reply ∈ s.replies, ∃ r, reply = some r ∧ ∀ cause, r ≠ .error (.dispatch cause)) ∧
    ∀ outcome ∈ s.outcomes, outcome = some (.handled 1) := by
  refine one_notice_for_each_event _ _ _ _ _ _ (IdSupply.distinct_of_counting ?_ (by decide +kernel))
  obtain ⟨n, hn⟩ := after_draws _ _
  rw [hn]
  rfl

end Site
end Turnstile.Simulation
