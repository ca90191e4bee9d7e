import Turnstile.Proofs.Allocation.Effect
import Turnstile.Proofs.Allocation.Change

/-!
Runs of transactions, of the same or of different commands and in any order, and what one of them can do to
the store.
-/

namespace Turnstile

/-- The transactions that allocation commands consist of. -/
inductive Transaction where
  | register (event : EventId) (registrant : RegistrantId)
  | cancel (registration : RegistrationId)
  | promote (event : EventId)
  | confirm (registration : RegistrationId)
  | raiseCapacity (event : EventId) (capacity : UInt32)
  | promoteStep (event : EventId)

/-- The session after a transaction, whatever it returned. -/
def Transaction.run (s : Session) : Transaction → Session
  | .register event registrant => ((Allocate.register event registrant).on s).2
  | .cancel registration => ((Allocate.cancel registration).on s).2
  | .promote event => ((Allocate.promote event).on s).2
  | .confirm registration => ((Allocate.confirm registration).on s).2
  | .raiseCapacity event capacity => ((Allocate.raiseCapacity event capacity).on s).2
  | .promoteStep event => ((Allocate.promoteStep event).on s).2

/-- A transaction with the clock it reads, while commits are made to fail or not. -/
structure Attempt where
  transaction : Transaction
  clock : Supply Instant
  failing : Bool := false

namespace Session

/-- The session as a transaction finds it. -/
def facing (s : Session) (a : Attempt) : Session :=
  { s with store := { s.store with failOnCommit := a.failing }, clock := a.clock }

/-- One transaction after the other, with identifiers from one supply. -/
def after (s : Session) (attempts : List Attempt) : Session :=
  attempts.foldl (fun s a => a.transaction.run (s.facing a)) s

@[simp] theorem after_nil (s : Session) : s.after [] = s := rfl

@[simp] theorem after_cons (s : Session) (a : Attempt) (attempts : List Attempt) :
    s.after (a :: attempts) = (a.transaction.run (s.facing a)).after attempts := rfl

end Session

namespace Store

/-- What a transaction makes of a store. -/
inductive Step (new : RegistrationId → Prop) (s : Store) : Store → Prop where
  | stay : Step new s s
  | write {e : ScheduledEvent} {rows : List Tracked} {messages : List OutboxMessage}
    (he : s.events.get? e.id = some e) (h : Moves new e s rows)
    (hm : List.Forall₂ OutboxMessage.Announces messages (announced rows)) :
    Step new s ((s.puts (rows.map Tracked.registration)).announce messages)
  | raise {event : EventId} {e : ScheduledEvent} {capacity : UInt32} (he : s.events.get? event = some e)
    (hle : e.capacity ≤ capacity) : Step new s (s.setCapacity event capacity)

theorem Step.mono {new new' : RegistrationId → Prop} {s s' : Store} (h : Step new s s')
    (hn : ∀ i, new i → new' i) : Step new' s s' := by
  cases h with
  | stay => exact .stay
  | write he h hm => exact .write he (h.mono hn) hm
  | raise he hle => exact .raise he hle

end Store

namespace Decision
variable {α : Type} {s : Session} {d : Decision α}

theorem Moving.step {id : RegistrationId} (h : d.Moving s.store id) :
    s.store.Step (fun i => 0 < d.fresh ∧ i = id) (d.enact s).2.store := by
  cases d with
  | refuse cause => exact .stay
  | leave a => exact .stay
  | write fresh rows counted a =>
    obtain ⟨e, he, hmoves⟩ := h
    rw [enact]
    by_cases hf : s.store.failOnCommit = true
    · simp only [hf, if_true]
      exact .stay
    · simp only [hf]
      exact .write he hmoves (announces_announcements _ _)
  | raise event capacity a =>
    obtain ⟨e, he, hle⟩ := h
    rw [enact]
    by_cases hf : s.store.failOnCommit = true
    · simp only [hf, if_true]
      exact .stay
    · simp only [hf]
      exact .raise he hle

theorem enact_tx : (d.enact s).2.tx = s.tx := by
  cases d <;> simp only [enact] <;> first | rfl | (split <;> rfl)

theorem enact_locked : (d.enact s).2.store.locked = s.store.locked := by
  cases d with
  | refuse _ | leave _ => rfl
  | write fresh rows counted a =>
    simp only [enact]
    split
    · rfl
    · exact Store.puts_locked
  | raise event capacity a =>
    simp only [enact]
    split <;> rfl

theorem enact_ids : ∃ n, d.fresh ≤ n ∧ (d.enact s).2.ids = s.ids.skip n := by
  cases d with
  | refuse _ | leave _ => exact ⟨0, Nat.le_refl 0, rfl⟩
  | write fresh rows counted a =>
    refine ⟨fresh + (announced rows).length, Nat.le_add_right _ _, ?_⟩
    simp only [enact]
    split <;> rfl
  | raise event capacity a =>
    refine ⟨0, Nat.le_refl 0, ?_⟩
    simp only [enact]
    split <;> rfl

end Decision

namespace Transaction
variable {s : Session}

private theorem step_of_outcome {α : Type} {p : Allocate α} {s₁ : Session} {d : Decision α}
    (h : p.on s = d.outcome s₁) (hstore : s₁.store = s.store) (htx : s₁.tx = s.tx) (hids : s₁.ids = s.ids)
    (hi : s.Idle)
    (hm : (0 < d.fresh → s.store.registrations.get? ⟨s.ids.next⟩ = none) → d.Moving s.store ⟨s.ids.next⟩)
    (hid : s.ids.drawn < (p.on s).2.ids.drawn → s.store.registrations.get? ⟨s.ids.next⟩ = none) :
    (p.on s).2.Idle ∧
      s.store.Step (fun i => s.ids.drawn < (p.on s).2.ids.drawn ∧ i = ⟨s.ids.next⟩) (p.on s).2.store := by
  have hend : (p.on s).2 = (d.enact s₁).2 := by rw [h]; rfl
  obtain ⟨n, hn, hskip⟩ := Decision.enact_ids (s := s₁) (d := d)
  rw [hend] at hid ⊢
  rw [hids] at hskip
  have hdrawn : (d.enact s₁).2.ids.drawn = s.ids.drawn + n := by rw [hskip]; rfl
  have hmoving := hm fun hf => hid (by omega)
  rw [← hstore] at hmoving
  refine ⟨⟨?_, ?_⟩, ?_⟩
  · rw [Decision.enact_tx, htx, hi.tx]
  · rw [Decision.enact_locked, hstore, hi.locked]
  · rw [← hstore]
    exact hmoving.step.mono fun i hin => ⟨by omega, hin.2⟩

theorem run_ids (t : Transaction) (s : Session) : ∃ n, (t.run s).ids = s.ids.skip n := by
  cases t <;> exact Allocate.on_ids _ s

/-- Every transaction takes a step with the store. A newcomer gets the next identifier, which is drawn then. -/
theorem run_step (hi : s.Idle) (hl : s.store.Lawful) (t : Transaction)
    (hid : s.ids.drawn < (t.run s).ids.drawn → s.store.registrations.get? ⟨s.ids.next⟩ = none) :
    (t.run s).Idle ∧
      s.store.Step (fun i => s.ids.drawn < (t.run s).ids.drawn ∧ i = ⟨s.ids.next⟩) (t.run s).store := by
  cases t with
  | register event registrant =>
    exact step_of_outcome (Allocate.on_register hi hl event registrant) rfl rfl rfl hi
      (Decision.moving_register hl) hid
  | cancel registration =>
    exact step_of_outcome (Allocate.on_cancel hi hl registration) rfl rfl rfl hi
      (fun _ => Decision.moving_cancel hl) hid
  | promote event =>
    exact step_of_outcome (Allocate.on_promote hi hl event) rfl rfl rfl hi
      (fun _ => Decision.moving_promote hl) hid
  | confirm registration =>
    exact step_of_outcome (Allocate.on_confirm hi hl registration) rfl rfl rfl hi
      (fun _ => Decision.moving_confirm hl) hid
  | raiseCapacity event capacity =>
    exact step_of_outcome (Allocate.on_raiseCapacity hi hl event capacity) rfl rfl rfl hi
      (fun _ => Decision.moving_raiseCapacity) hid
  | promoteStep event =>
    exact step_of_outcome (Allocate.on_promoteStep hi hl event) rfl rfl rfl hi
      (fun _ => Decision.moving_promoteStep hl) hid

end Transaction

theorem Session.after_ids (s : Session) (attempts : List Attempt) :
    ∃ n, (s.after attempts).ids = s.ids.skip n := by
  induction attempts generalizing s with
  | nil => exact ⟨0, rfl⟩
  | cons a attempts ih =>
    obtain ⟨m, hm⟩ := a.transaction.run_ids (s.facing a)
    obtain ⟨n, hn⟩ := ih (a.transaction.run (s.facing a))
    exact ⟨m + n, by rw [after_cons, hn, hm, Supply.skip_skip]; rfl⟩

theorem Session.after_item (s : Session) (attempts : List Attempt) :
    (s.after attempts).ids.item = s.ids.item := by
  obtain ⟨n, hn⟩ := s.after_ids attempts
  rw [hn]
  rfl

end Turnstile
