import Turnstile.Allocation
import Turnstile.Proofs.Program
import Turnstile.Proofs.Store.Overlay

/-!
What each question of an allocation command gives when it is asked in a session, and how a transaction ends.
-/

namespace Turnstile

/-- The session within a transaction that holds the lock of an event and has staged the writes of `tx`. -/
def Session.inside (s : Session) (event : EventId) (tx : Tx) : Session :=
  { s with
    store := { s.store with locked := event :: s.store.locked }
    tx := { tx with held := [event] } }

/-- The session once its clock was read. -/
def Session.tick (s : Session) : Session := { s with clock := s.clock.skip 1 }

def Session.drawing (s : Session) (n : Nat) : Session := { s with ids := s.ids.skip n }

def Tx.announce (tx : Tx) (messages : List OutboxMessage) : Tx :=
  { tx with outbox := tx.outbox ++ messages }

theorem Supply.skip_skip {α : Type} (ids : Supply α) (m n : Nat) : (ids.skip m).skip n = ids.skip (m + n) := by
  simp [skip, Nat.add_assoc]

private theorem Session.answerTx_ids (c : TxCall) (s : Session) : (s.answerTx c).2.ids = s.ids := by
  cases c with
  | lockEvent event =>
    by_cases hh : s.tx.holds event = true
    · simp [Session.answerTx, Session.lockEvent, hh]
    · by_cases hl : event ∈ s.store.locked <;> simp [Session.answerTx, Session.lockEvent, hh, hl]
  | insertRegistration r =>
    simp only [Session.answerTx, Session.stage]
    split <;> rfl
  | updateRegistration r =>
    simp only [Session.answerTx, Session.stage]
    split <;> rfl
  | commit =>
    simp only [Session.answerTx, Session.commit]
    split <;> rfl
  | _ => rfl

/-- Whatever a call does, identifiers are drawn one after the other. -/
theorem Session.answer_ids (op : AllocatorCall) (s : Session) :
    ∃ n, (Session.answer op s).2.ids = s.ids.skip n := by
  cases op with
  | freshId => exact ⟨1, rfl⟩
  | tx c => exact ⟨0, answerTx_ids c s⟩
  | _ => exact ⟨0, rfl⟩

namespace Allocate
variable {α β : Type} {s s' : Session} {event : EventId} {tx : Tx}

/-- Runs a command in a session. Without a result it waits for a lock that is held elsewhere. -/
def on (p : Allocate α) (s : Session) : Option (Except AllocationError α) × Session :=
  p.run.run Session.answer s

theorem on_ids (p : Allocate α) (s : Session) : ∃ n, (p.on s).2.ids = s.ids.skip n := by
  refine Program.run_trans (R := fun s s' => ∃ n, s'.ids = s.ids.skip n) (fun _ => ⟨0, rfl⟩) ?_ Session.answer_ids p.run s
  intro s s' s'' ⟨m, hm⟩ ⟨n, hn⟩
  exact ⟨m + n, by rw [hn, hm, Supply.skip_skip]⟩

theorem on_bind (p : Allocate α) (f : α → Allocate β) (s : Session) :
    (p >>= f).on s =
      match p.on s with
      | (some (.ok a), s') => (f a).on s'
      | (some (.error e), s') => (some (.error e), s')
      | (none, s') => (none, s') := by
  have h := Program.run_bind Session.answer p.run (ExceptT.bindCont fun a => f a) s
  refine h.trans ?_
  unfold on
  rcases p.run.run Session.answer s with ⟨_ | (_ | _), s'⟩ <;> rfl

theorem on_bind_ok {p : Allocate α} {a : α} (h : p.on s = (some (.ok a), s')) (f : α → Allocate β) :
    (p >>= f).on s = (f a).on s' := by
  rw [on_bind, h]

theorem on_bind_error {p : Allocate α} {e : AllocationError} (h : p.on s = (some (.error e), s'))
    (f : α → Allocate β) : (p >>= f).on s = (some (.error e), s') := by
  rw [on_bind, h]

@[simp] theorem on_pure (a : α) (s : Session) : (pure a : Allocate α).on s = (some (.ok a), s) := rfl

@[simp] theorem on_throw (e : AllocationError) (s : Session) :
    (throw e : Allocate α).on s = (some (.error e), s) := rfl

theorem run_ask (c : AllocatorCall) (s : Session) : (ask c).run Session.answer s = Session.answer c s := by
  unfold ask Program.call Program.run
  rcases Session.answer c s with ⟨_ | _, _⟩ <;> rfl

theorem on_lift (p : Program AllocatorCall.Reply α) (s : Session) :
    (lift p).on s = ((p.run Session.answer s).1.map Except.ok, (p.run Session.answer s).2) := by
  refine (Program.run_bind Session.answer p (fun r => pure (Except.ok r)) s).trans ?_
  rcases p.run Session.answer s with ⟨_ | _, s'⟩ <;> rfl

theorem on_stored (p : Program AllocatorCall.Reply (Stored α)) (s : Session) :
    (stored p).on s =
      ((p.run Session.answer s).1.map (Except.mapError AllocationError.ofStore),
        (p.run Session.answer s).2) := by
  refine (Program.run_bind Session.answer p (fun r => pure (r.mapError AllocationError.ofStore)) s).trans ?_
  rcases p.run Session.answer s with ⟨_ | _, s'⟩ <;> rfl

theorem on_checked_ok {r : Except RegistrationError α} {a : α} (h : r = .ok a) (s : Session) :
    (checked r).on s = (some (.ok a), s) := by
  rw [h]
  rfl

theorem on_checked_error {r : Except RegistrationError α} {e : RegistrationError} (h : r = .error e)
    (s : Session) : (checked r).on s = (some (.error (.invalidState e)), s) := by
  rw [h]
  rfl

theorem on_now (s : Session) : now.on s = (some (.ok s.clock.next), s.tick) := rfl

theorem on_getRegistration (id : RegistrationId) (s : Session) :
    (getRegistration id).on s = (some (.ok (s.store.registrations.get? id)), s) := rfl

/-! Within a transaction. -/

theorem on_freshId {kind : IdKind} :
    (freshId : Allocate (Id kind)).on (s.inside event tx) =
      (some (.ok ⟨s.ids.next⟩), (s.drawing 1).inside event tx) := rfl

theorem on_registrantExists (registrant : RegistrantId) :
    (Tx.registrantExists registrant).on (s.inside event tx) =
      (some (.ok (s.store.registrants.contains registrant)), s.inside event tx) := rfl

theorem on_findActive (registrant : RegistrantId) :
    (Tx.findActive event registrant).on (s.inside event tx) =
      (some (.ok (tx.findActive s.store event registrant)), s.inside event tx) := rfl

theorem on_registration (id : RegistrationId) :
    (Tx.getRegistration id).on (s.inside event tx) =
      (some (.ok (tx.registration? s.store id)), s.inside event tx) := rfl

theorem on_waitlist :
    (Tx.waitlist event).on (s.inside event tx) =
      (some (.ok (tx.waitlist s.store event)), s.inside event tx) := rfl

theorem on_countConfirmed {n : UInt32} (h : tx.countConfirmed s.store event = .ok n) :
    (Tx.countConfirmed event).on (s.inside event tx) = (some (.ok n), s.inside event tx) := by
  refine (on_stored _ _).trans ?_
  rw [Allocate.tx, run_ask]
  show (some ((tx.countConfirmed s.store event).mapError AllocationError.ofStore), _) = _
  rw [h]
  rfl

theorem on_insertRegistration {r : Registration}
    (h : ∀ other, tx.findActive s.store r.eventId r.registrantId = some other → other.id = r.id) :
    (Tx.insertRegistration r).on (s.inside event tx) = (some (.ok ()), s.inside event (tx.write r)) := by
  have hany : (tx.findActive s.store r.eventId r.registrantId).any (fun other => other.id ≠ r.id) = false := by
    cases hf : tx.findActive s.store r.eventId r.registrantId with
    | none => rfl
    | some other => simpa using h other hf
  have hi : ({ tx with held := [event] } : Tx).insertRegistration (s.inside event tx).store r =
      .ok ((s.inside event tx).tx.write r) := by
    refine if_neg ?_
    rw [Bool.and_eq_true, not_and]
    intro _
    exact Bool.eq_false_iff.mp hany
  refine (on_stored _ _).trans ?_
  rw [Allocate.tx, run_ask]
  simp only [Session.answer, Session.answerTx, Session.stage]
  rw [show (s.inside event tx).tx = ({ tx with held := [event] } : Tx) from rfl, hi]
  rfl

theorem on_updateRegistration {r : Registration}
    (h : ((s.store.apply tx).registrations.get? r.id).isSome) :
    (Tx.updateRegistration r).on (s.inside event tx) = (some (.ok ()), s.inside event (tx.write r)) := by
  have hu : (s.inside event tx).tx.updateRegistration (s.inside event tx).store r =
      .ok ((s.inside event tx).tx.write r) :=
    if_pos (by rw [← Store.registration?_eq] at h; exact h)
  refine (on_stored _ _).trans ?_
  rw [Allocate.tx, run_ask]
  simp only [Session.answer, Session.answerTx, Session.stage, hu]
  rfl

/-! The ends of a transaction. -/

theorem on_begin : (stored (ask .begin)).on s = (some (.ok ()), { s with tx := {} }) := rfl

theorem on_commit :
    (stored (Allocate.tx .commit)).on s =
      (some (s.commit.1.mapError AllocationError.ofStore), s.commit.2) := rfl

/-- Ends the transaction that a body was run in. -/
def conclude : Option (Except AllocationError (Verdict α)) × Session → Option (Except AllocationError α) × Session
  | (none, s) => (none, s)
  | (some (.error e), s) => (some (.error e), s.drop)
  | (some (.ok (.commit a)), s) =>
    (some ((s.commit.1.mapError AllocationError.ofStore).map fun _ => a), s.commit.2)
  | (some (.ok (.rollback a)), s) => (some (.ok a), s.drop)

theorem on_transact (body : Allocate (Verdict α)) (s : Session) :
    (transact body).on s = conclude (body.on { s with tx := {} }) := by
  have hb : (lift body.run).on { s with tx := {} } =
      ((body.on { s with tx := {} }).1.map Except.ok, (body.on { s with tx := {} }).2) := on_lift _ _
  unfold transact
  rw [on_bind_ok on_begin]
  rcases hr : body.on { s with tx := {} } with ⟨_ | _ | _ | _, s'⟩ <;> rw [hr] at hb
  · rw [on_bind, hb]
    rfl
  · rw [on_bind_ok hb]
    rfl
  · rw [on_bind_ok hb]
    refine (on_bind _ _ s').trans ?_
    rw [on_commit, conclude]
    rcases s'.commit with ⟨_ | _, _⟩ <;> rfl
  · rw [on_bind_ok hb]
    rfl

end Allocate
end Turnstile
