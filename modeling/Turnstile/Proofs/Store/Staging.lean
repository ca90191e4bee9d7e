import Turnstile.Proofs.Allocation.Decision
import Turnstile.Proofs.Allocation.Journal
import Turnstile.Proofs.Store.Prepared

/-!
What a transaction stages, what it reads meanwhile and what its commit leaves. The reads merge stored and staged
rows event by event, the commit writes one table over the other: both come to the accepted writes made on the
store itself.
-/

namespace Turnstile
open scoped List

namespace Store
variable {s : Store} {tx : Tx} {event : EventId}

/-- The capacities of a list of entries, set one after the other. -/
private def setCapacities (events : Table EventId ScheduledEvent) (entries : List (EventId × UInt32)) :
    Table EventId ScheduledEvent :=
  entries.foldl (fun events (id, capacity) => events.adjust id fun e => { e with capacity }) events

private theorem setCapacities_adjust {entries : List (EventId × UInt32)} (h : event ∉ entries.map Prod.fst)
    (events : Table EventId ScheduledEvent) (capacity : UInt32) :
    setCapacities (events.adjust event fun e => { e with capacity }) entries =
      (setCapacities events entries).adjust event fun e => { e with capacity } := by
  induction entries generalizing events with
  | nil => rfl
  | cons entry entries ih =>
    obtain ⟨id, other⟩ := entry
    simp only [List.map_cons, List.mem_cons, not_or] at h
    obtain ⟨hne, hrest⟩ := h
    have hswap := Table.adjust_comm events hne (fun e : ScheduledEvent => { e with capacity })
      fun e => { e with capacity := other }
    calc setCapacities (events.adjust event fun e => { e with capacity }) ((id, other) :: entries)
        = setCapacities ((events.adjust event fun e => { e with capacity }).adjust id
            fun e => { e with capacity := other }) entries := rfl
      _ = setCapacities ((events.adjust id fun e => { e with capacity := other }).adjust event
            fun e => { e with capacity }) entries := by rw [hswap]
      _ = _ := ih hrest _

private theorem setCapacities_write {entries : List (EventId × UInt32)} (h : (entries.map Prod.fst).Nodup)
    (events : Table EventId ScheduledEvent) (capacity : UInt32) :
    setCapacities events (Table.write event capacity entries) =
      (setCapacities events entries).adjust event fun e => { e with capacity } := by
  induction entries generalizing events with
  | nil => rfl
  | cons entry entries ih =>
    obtain ⟨id, other⟩ := entry
    obtain ⟨hnew, hrest⟩ := List.nodup_cons.mp h
    by_cases hid : id = event
    · subst hid
      have hlast : events.adjust id (fun e => { e with capacity }) =
          (events.adjust id fun e => { e with capacity := other }).adjust id fun e => { e with capacity } :=
        (events.adjust_adjust_same id (f := fun e => { e with capacity := other }) fun _ => rfl).symm
      rw [Table.write, if_pos rfl]
      change setCapacities (events.adjust id fun e => { e with capacity }) entries = _
      rw [hlast]
      exact setCapacities_adjust hnew _ capacity
    · rw [Table.write, if_neg hid]
      exact ih hrest _

theorem apply_capacity (event : EventId) (capacity : UInt32) :
    s.apply { tx with capacities := tx.capacities.insert event capacity } =
      (s.apply tx).setCapacity event capacity := by
  have h : setCapacities s.events (Table.write event capacity tx.capacities.entries) = _ :=
    setCapacities_write tx.capacities.keys_nodup s.events capacity
  simp only [setCapacities] at h
  simp only [apply, setCapacity, Table.entries_insert, h]

theorem apply_message (m : OutboxMessage) :
    s.apply { tx with outbox := tx.outbox ++ [m] } = (s.apply tx).pushMessage m := by
  simp only [apply, pushMessage, List.append_assoc]

end Store

namespace TxCall

/-- The transaction is still open after the call. -/
def staysOpen : TxCall → Bool
  | commit | rollback | drop => false
  | _ => true

/-- A reply that turns a write down. -/
def refused : (c : TxCall) → Option c.Reply → Bool
  | insertRegistration _, some (.error _) | updateRegistration _, some (.error _) => true
  | updateCapacity _ _, some (.error _) | insertMessage _, some (.error _) => true
  | _, _ => false

end TxCall

/-- A write of a transaction made on the store itself. -/
def Store.write (s : Store) : TxCall → Store
  | .insertRegistration r | .updateRegistration r => s.put r
  | .updateCapacity event capacity => s.setCapacity event capacity
  | .insertMessage m => s.pushMessage m
  | _ => s

namespace Session
variable {s t : Session} {c : TxCall} {cs : List TxCall}

/-- The calls made on the open transaction, one after the other. -/
def calls (s : Session) (cs : List TxCall) : Session := cs.foldl (fun s c => (s.answerTx c).2) s

/-- Those of the calls that are not turned down. -/
def accepted : Session → List TxCall → List TxCall
  | _, [] => []
  | s, c :: cs =>
    if c.refused (s.answerTx c).1 then (s.answerTx c).2.accepted cs else c :: (s.answerTx c).2.accepted cs

/-- A write that is turned down stages nothing. -/
theorem answerTx_of_refused (h : c.refused (s.answerTx c).1) : (s.answerTx c).2 = s := by
  cases c with
  | insertRegistration r =>
    cases hr : s.tx.insertRegistration s.store r with
    | ok tx => simp [answerTx, hr, stage, TxCall.refused] at h
    | error e => simp only [answerTx, hr, stage]
  | updateRegistration r =>
    cases hr : s.tx.updateRegistration s.store r with
    | ok tx => simp [answerTx, hr, stage, TxCall.refused] at h
    | error e => simp only [answerTx, hr, stage]
  | updateCapacity event capacity => simp [answerTx, TxCall.refused] at h
  | insertMessage m => simp [answerTx, TxCall.refused] at h
  | _ => simp [TxCall.refused] at h

/-- An open transaction that has been let make the writes `done` since it began on the store `s`. -/
structure Staging (s : Store) (done : List TxCall) (t : Session) : Prop where
  store : t.store = { s with locked := t.tx.held ++ s.locked }
  free : ∀ event ∈ t.tx.held, event ∉ s.locked
  keyed : t.tx.registrations.KeyedBy Registration.id
  rows : ∀ id r, t.tx.registrations.get? id = some r → ∃ c ∈ done, (AllocatorCall.tx c).row? = some r
  written : s.apply t.tx = done.foldl Store.write s

namespace Staging
variable {before : Store} {done : List TxCall}

theorem begin (s : Session) : Staging s.store [] (s.answer .begin).2 where
  store := rfl
  free := by simp [answer]
  keyed := .empty
  rows id r h := by simp [answer] at h
  written := Store.apply_empty

private theorem rows_concat (h : Staging before done t) (c : TxCall) {id : RegistrationId} {r : Registration}
    (hr : t.tx.registrations.get? id = some r) : ∃ c' ∈ done ++ [c], (AllocatorCall.tx c').row? = some r := by
  obtain ⟨c', hmem, hc'⟩ := h.rows id r hr
  exact ⟨c', List.mem_append_left _ hmem, hc'⟩

/-- A row that the transaction writes is staged under its own identifier. -/
private theorem row (h : Staging before done t) {r : Registration} (hc : (AllocatorCall.tx c).row? = some r)
    (hw : ∀ s : Store, s.write c = s.put r) : Staging before (done ++ [c]) { t with tx := t.tx.write r } where
  store := h.store
  free := h.free
  keyed := h.keyed.insert r
  rows id r' hr := by
    rw [Tx.write, Table.get?_insert] at hr
    split at hr
    · obtain rfl := Option.some.inj hr
      exact ⟨c, by simp, hc⟩
    · exact h.rows_concat c hr
  written := by rw [List.foldl_concat, hw, ← h.written, Store.apply_write]

/-- Nothing is staged by a call that leaves the writes of the transaction as they are. -/
private theorem read (h : Staging before done t) (hw : ∀ s : Store, s.write c = s) :
    Staging before (done ++ [c]) t where
  store := h.store
  free := h.free
  keyed := h.keyed
  rows _ _ hr := h.rows_concat c hr
  written := by rw [List.foldl_concat, hw, h.written]

private theorem lock (h : Staging before done t) {event : EventId} (hheld : t.tx.holds event = false)
    (hlocked : event ∉ t.store.locked) :
    Staging before done { t with
      store := { t.store with locked := event :: t.store.locked }
      tx := { t.tx with held := event :: t.tx.held } } where
  store := by rw [h.store]; rfl
  free e he := by
    rcases List.mem_cons.mp he with rfl | he
    · intro hin
      rw [h.store] at hlocked
      exact hlocked (List.mem_append_right _ hin)
    · exact h.free e he
  keyed := h.keyed
  rows := h.rows
  written := h.written

/-- What one call leaves. -/
theorem step (h : Staging before done t) (hopen : c.staysOpen) (hc : c.refused (t.answerTx c).1 = false) :
    Staging before (done ++ [c]) (t.answerTx c).2 := by
  cases c with
  | lockEvent event =>
    have hread : Staging before (done ++ [.lockEvent event]) t := h.read fun _ => rfl
    rw [answerTx, lockEvent]
    by_cases hheld : t.tx.holds event
    · rw [if_pos hheld]
      exact hread
    · rw [if_neg hheld]
      by_cases hlocked : event ∈ t.store.locked
      · rw [if_pos hlocked]
        exact hread
      · rw [if_neg hlocked]
        exact hread.lock (by simpa using hheld) hlocked
  | insertRegistration r =>
    cases hr : t.tx.insertRegistration t.store r with
    | error e => simp [answerTx, hr, stage, TxCall.refused] at hc
    | ok tx =>
      have htx : tx = t.tx.write r := by
        rw [Tx.insertRegistration] at hr
        split at hr
        · cases hr
        · exact (Except.ok.inj hr).symm
      simp only [answerTx, hr, stage, htx]
      exact h.row rfl fun _ => rfl
  | updateRegistration r =>
    cases hr : t.tx.updateRegistration t.store r with
    | error e => simp [answerTx, hr, stage, TxCall.refused] at hc
    | ok tx =>
      have htx : tx = t.tx.write r := by
        rw [Tx.updateRegistration] at hr
        split at hr
        · exact (Except.ok.inj hr).symm
        · cases hr
      simp only [answerTx, hr, stage, htx]
      exact h.row rfl fun _ => rfl
  | updateCapacity event capacity =>
    refine ⟨h.store, h.free, h.keyed, fun _ _ hr => h.rows_concat _ hr, ?_⟩
    rw [List.foldl_concat, Store.write, ← h.written]
    exact Store.apply_capacity event capacity
  | insertMessage m =>
    refine ⟨h.store, h.free, h.keyed, fun _ _ hr => h.rows_concat _ hr, ?_⟩
    rw [List.foldl_concat, Store.write, ← h.written]
    exact Store.apply_message m
  | commit | rollback | drop => simp [TxCall.staysOpen] at hopen
  | registrantExists _ | findActive _ _ | getRegistration _ | countConfirmed _ | waitlist _ =>
    exact h.read fun _ => rfl

/-- What a list of calls leaves. -/
theorem run (h : Staging before done t) (hopen : ∀ c ∈ cs, c.staysOpen) :
    Staging before (done ++ t.accepted cs) (t.calls cs) := by
  induction cs generalizing done t with
  | nil => rwa [accepted, List.append_nil]
  | cons c cs ih =>
    obtain ⟨hfirst, hrest⟩ := List.forall_mem_cons.mp hopen
    rw [accepted, calls, List.foldl_cons]
    by_cases hc : c.refused (t.answerTx c).1
    · rw [if_pos hc, answerTx_of_refused hc]
      exact ih h hrest
    · rw [if_neg hc, List.append_cons]
      exact ih (h.step hfirst (by simpa using hc)) hrest

/-- The locks of the transaction, and no others, are given back at its end. -/
private theorem unlocked (h : Staging before done t) :
    t.store.locked.filter (· ∉ t.tx.held) = before.locked := by
  have hheld : t.tx.held.filter (· ∉ t.tx.held) = [] := by
    refine List.filter_eq_nil_iff.mpr fun event he => ?_
    simpa using he
  have hlocked : before.locked.filter (· ∉ t.tx.held) = before.locked := by
    refine List.filter_eq_self.mpr fun event he => ?_
    have hnot : event ∉ t.tx.held := fun hin => h.free event hin he
    simpa using hnot
  rw [h.store]
  simp only [List.filter_append, hheld, hlocked, List.nil_append]

theorem release (h : Staging before done t) : t.store.release t.tx = before := by
  have hu := h.unlocked
  rw [Store.release, hu, h.store]

theorem commit (h : Staging before done t) (hf : before.failOnCommit = false) :
    t.commit.1 = .ok () ∧ t.commit.2.store = done.foldl Store.write before := by
  have hu := h.unlocked
  rw [Session.commit, if_neg (by rw [h.store, hf]; exact Bool.false_ne_true)]
  refine ⟨rfl, ?_⟩
  rw [← h.written]
  simp only [drop, Store.release, Store.apply, hu]
  rw [h.store]

end Staging

/-- A stored row that is written over keeps its event. -/
def KeepsEvents (s : Session) (cs : List TxCall) : Prop :=
  ∀ c ∈ s.accepted cs, ∀ r, (AllocatorCall.tx c).row? = some r →
    ∀ old, s.store.registrations.get? r.id = some old → old.eventId = r.eventId

private def given : Registration :=
  ⟨⟨IdSupply.number 1⟩, ScheduledEvent.oneSeat.id, ⟨IdSupply.number 2⟩, .confirmed, none, default, default⟩

private def taken : Registration :=
  ⟨⟨IdSupply.number 3⟩, ScheduledEvent.oneSeat.id, ⟨IdSupply.number 4⟩, .waitlisted, some 1, default, default⟩

end Session
end Turnstile
