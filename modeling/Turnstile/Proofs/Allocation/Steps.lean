import Turnstile.Proofs.Allocation.Run
import Turnstile.Proofs.Store.Moves

/-!
The parts that allocation commands are put together from: entering and leaving a transaction, announcing
events, and moving up those who wait.
-/

namespace Turnstile

/-- Nobody has a transaction open. -/
structure Session.Idle (s : Session) : Prop where
  tx : s.tx = {}
  locked : s.store.locked = []

/-- The events of some registrations that are announced to other systems. -/
def announced (rows : List Tracked) : List RegistrationEvent :=
  (rows.flatMap Tracked.pending).filter RegistrationEvent.isIntegration

/-- The rows that announce some events, with the next identifiers in this order. -/
def announcements : IdSupply → List RegistrationEvent → List OutboxMessage
  | _, [] => []
  | ids, e :: rest =>
    .pending ⟨ids.next⟩ e.typeName e.toJson e.occurredAt :: announcements (ids.skip 1) rest

@[simp] theorem Session.drawing_zero (s : Session) : s.drawing 0 = s := rfl

theorem Session.drawing_drawing (s : Session) (m n : Nat) : (s.drawing m).drawing n = s.drawing (m + n) := by
  simp [drawing, Supply.skip, Nat.add_assoc]

@[simp] theorem Tx.announce_nil (tx : Tx) : tx.announce [] = tx := by
  simp [announce]

theorem Tx.announce_announce (tx : Tx) (a b : List OutboxMessage) :
    (tx.announce a).announce b = tx.announce (a ++ b) := by
  simp [announce]

theorem announcements_append (ids : IdSupply) (a b : List RegistrationEvent) :
    announcements ids (a ++ b) = announcements ids a ++ announcements (ids.skip a.length) b := by
  induction a generalizing ids with
  | nil => rfl
  | cons e a ih => simp [announcements, ih, Supply.skip_skip, Nat.add_comm]

theorem announced_append (a b : List Tracked) : announced (a ++ b) = announced a ++ announced b := by
  simp [announced]

namespace Allocate
variable {α β : Type} {s s' : Session} {event : EventId} {tx : Tx} {now : Instant}

private theorem event?_empty (store : Store) (id : EventId) :
    ({} : Tx).event? store id = store.events.get? id := by
  cases h : store.events.get? id <;> simp [Turnstile.Tx.event?, h]

theorem on_lockExisting (hi : s.Idle) :
    (lockExisting event).on s =
      match s.store.events.get? event with
      | some e => (some (.ok e), s.inside event {})
      | none => (some (.error (.eventNotFound event)), s.inside event {}) := by
  have hl : s.lockEvent event = some (s.inside event {}) := by
    simp [Session.lockEvent, Session.inside, Turnstile.Tx.holds, hi.tx, hi.locked]
  have hlock : (Tx.lockEvent event).on s = (some (.ok (s.store.events.get? event)), s.inside event {}) := by
    refine (on_stored _ s).trans ?_
    rw [Allocate.tx, run_ask]
    simp only [Session.answer, Session.answerTx, hl]
    rw [← event?_empty s.store event]
    rfl
  rw [lockExisting, on_bind_ok hlock]
  cases s.store.events.get? event <;> rfl

theorem drop_inside (hi : s.Idle) (event : EventId) (tx : Turnstile.Tx) : (s.inside event tx).drop = s := by
  obtain ⟨store, tx, clock, ids, metrics⟩ := s
  obtain ⟨rfl, hl⟩ := hi
  obtain ⟨events, registrants, registrations, outbox, locked, failOnCommit⟩ := store
  obtain rfl : locked = [] := hl
  simp [Session.inside, Session.drop, Store.release]

theorem conclude_error (hi : s.Idle) (e : AllocationError) :
    (conclude (some (.error e), s.inside event tx) : _ × _) = ((some (.error e) : Option (Except _ α)), s) := by
  rw [conclude, drop_inside hi event tx]

theorem conclude_rollback (hi : s.Idle) (a : α) :
    conclude (some (.ok (.rollback a)), s.inside event tx) = (some (.ok a), s) := by
  rw [conclude, drop_inside hi event tx]

theorem conclude_commit (hi : s.Idle) (a : α) :
    conclude (some (.ok (.commit a)), s.inside event tx) =
      if s.store.failOnCommit then (some (.error (.store (.unavailable "injected commit failure"))), s)
      else (some (.ok a), { s with store := s.store.apply tx }) := by
  have hd := drop_inside hi event tx
  rw [conclude, Session.commit]
  by_cases hf : s.store.failOnCommit = true
  · rw [if_pos hf, if_pos (by exact hf), hd]
    rfl
  · rw [if_neg hf, if_neg (by exact hf)]
    obtain ⟨store, tx, clock, ids, metrics⟩ := s
    obtain ⟨rfl, hl⟩ := hi
    obtain ⟨events, registrants, registrations, outbox, locked, failOnCommit⟩ := store
    obtain rfl : locked = [] := hl
    simp [Session.inside, Session.drop, Store.release, Store.apply, Except.map, Except.mapError]

/-- A transaction starts with the lock of its event, and ends at once if there is no such event. -/
theorem on_transact_locked (hi : s.Idle) (event : EventId) (body : ScheduledEvent → Allocate (Verdict α)) :
    (transact (lockExisting event >>= body)).on s =
      match s.store.events.get? event with
      | some e => conclude ((body e).on (s.inside event {}))
      | none => (some (.error (.eventNotFound event)), s) := by
  have hs : { s with tx := {} } = s := by rw [← hi.tx]
  rw [on_transact, hs, on_bind, on_lockExisting hi]
  cases s.store.events.get? event with
  | some e => rfl
  | none => exact conclude_error hi _

/-! Announcing events. -/

private theorem on_stageEvent (e : RegistrationEvent) :
    (stageEvent e.record).on (s.inside event tx) =
      (some (.ok ()), (s.drawing ([e].filter RegistrationEvent.isIntegration).length).inside event
        (tx.announce (announcements s.ids ([e].filter RegistrationEvent.isIntegration)))) := by
  cases h : e.isIntegration
  · have hr : e.record.integration = false := h
    simp [stageEvent, hr, h, announcements]
  · have hr : e.record.integration = true := h
    simp only [stageEvent, hr, if_true, List.filter_cons, h, List.filter_nil]
    exact on_bind_ok on_freshId _

private theorem on_stageEvents (events : List RegistrationEvent) :
    (events.forM fun e => stageEvent e.record).on (s.inside event tx) =
      (some (.ok ()), (s.drawing (events.filter RegistrationEvent.isIntegration).length).inside event
        (tx.announce (announcements s.ids (events.filter RegistrationEvent.isIntegration)))) := by
  induction events generalizing s tx with
  | nil => simp [announcements]
  | cons e events ih =>
    refine (on_bind_ok (on_stageEvent e) _).trans ?_
    rw [ih, ← List.singleton_append (l := events),
      List.filter_append, announcements_append, List.length_append, Session.drawing_drawing,
      Tx.announce_announce]
    rfl

theorem on_stage (rows : List Tracked) :
    (stage rows).on (s.inside event tx) =
      (some (.ok ()), (s.drawing (announced rows).length).inside event
        (tx.announce (announcements s.ids (announced rows)))) := by
  induction rows generalizing s tx with
  | nil => simp [stage, announced, announcements]
  | cons t rows ih =>
    refine (on_bind_ok (on_stageEvents t.pending) fun _ => stage rows).trans ?_
    rw [ih, show t :: rows = [t] ++ rows from rfl, announced_append, announcements_append,
      List.length_append, Session.drawing_drawing, Tx.announce_announce]
    simp [announced, Session.drawing]

end Allocate
end Turnstile
