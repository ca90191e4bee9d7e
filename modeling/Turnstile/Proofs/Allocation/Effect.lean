import Turnstile.Proofs.Allocation.Commands
import Turnstile.Proofs.Store.Prepared

/-!
What a decision does to the store once it is carried out: the changes that it returns, and one outbox row for each event
that these changes announce.
-/

namespace Turnstile

/-- A row that announces an event and that no worker has touched. -/
structure OutboxMessage.Announces (m : OutboxMessage) (e : RegistrationEvent) : Prop where
  status : m.status = .pending
  unclaimed : m.claimedBy = none ∧ m.claimedAt = none
  attempts : m.attempts = 0
  nextAttemptAt : m.nextAttemptAt = e.occurredAt
  createdAt : m.createdAt = e.occurredAt
  messageType : m.messageType = e.typeName
  payload : m.payload = e.toJson

/-- `s'` is `s` with the changes of an allocation, target first, and the rows that announce them. -/
structure Allocation.Applied (a : Allocation) (s s' : Store) : Prop where
  registrations : s'.registrations =
    a.changed.foldl (fun t c => t.insert c.registration.id c.registration) s.registrations
  unchanged : ∀ id ∉ a.changed.map (·.registration.id), s'.registrations.get? id = s.registrations.get? id
  noop : a.isNoop → s' = s
  events : s'.events = s.events
  registrants : s'.registrants = s.registrants
  outbox : ∃ rows, s'.outbox = s.outbox ++ rows ∧
    List.Forall₂ OutboxMessage.Announces rows (announced a.changed)

/-- Commands that run in one transaction. -/
def Command.Single : Command → Prop
  | .increaseCapacity _ _ => False
  | _ => True

theorem announces_announcements (ids : IdSupply) (events : List RegistrationEvent) :
    List.Forall₂ OutboxMessage.Announces (announcements ids events) events := by
  induction events generalizing ids with
  | nil => exact .nil
  | cons e events ih => exact .cons ⟨rfl, ⟨rfl, rfl⟩, rfl, rfl, rfl, rfl, rfl⟩ (ih _)

namespace Store
variable {s : Store} {rs : List Registration}

@[simp] theorem puts_outbox : (s.puts rs).outbox = s.outbox := by
  induction rs generalizing s with
  | nil => rfl
  | cons r rs ih => exact ih

@[simp] theorem puts_registrants : (s.puts rs).registrants = s.registrants := by
  induction rs generalizing s with
  | nil => rfl
  | cons r rs ih => exact ih

end Store

namespace Decision
variable {s : Store}

/-- What is returned is what is written, or a registration that is already stored like this. -/
def Faithful (s : Store) : Decision Allocation → Prop
  | refuse _ => True
  | leave a => ∀ t ∈ a.changed, t.pending = [] ∧ s.registrations.get? t.registration.id = some t.registration
  | write _ rows _ a => a.changed = rows ∧ a.isNoop = false
  | raise _ _ _ => False

private theorem faithful_replace {t : Tracked} {e : RegistrationEvent} (h : t.pending = [e]) (moved : List Tracked)
    (counted : List Counter) : (replace t moved counted).Faithful s :=
  ⟨rfl, by simp [Allocation.isNoop, Tracked.hasPending, h]⟩

theorem faithful_register (event : EventId) (registrant : RegistrantId) (now : Instant) (id : RegistrationId) :
    (register s event registrant now id).Faithful s := by
  unfold register enter
  repeat' split
  all_goals trivial

theorem faithful_cancel (hk : s.Keyed) (id : RegistrationId) (now : Instant) : (cancel s id now).Faithful s := by
  unfold cancel
  split
  · trivial
  · next r hr =>
    obtain rfl := hk _ _ hr
    split
    · trivial
    split
    · intro t ht
      obtain rfl : t = ⟨r, []⟩ := by simpa [Allocation.changed] using ht
      exact ⟨rfl, hr⟩
    · exact faithful_replace rfl _ _
    · exact faithful_replace rfl _ _

theorem faithful_promote (event : EventId) (now : Instant) : (promote s event now).Faithful s := by
  unfold promote
  split
  · trivial
  split
  · simp [Faithful, Allocation.changed]
  split
  · trivial
  · exact faithful_replace rfl _ _

theorem faithful_confirm (id : RegistrationId) (now : Instant) : (confirm s id now).Faithful s := by
  unfold confirm
  split
  · trivial
  split
  · trivial
  split
  · trivial
  split
  · trivial
  · exact faithful_replace rfl _ _

private theorem applied_stored {a : Allocation}
    (h : ∀ t ∈ a.changed, t.pending = [] ∧ s.registrations.get? t.registration.id = some t.registration) :
    a.Applied s s := by
  have hann : announced a.changed = [] := by
    simp only [announced, List.filter_eq_nil_iff, List.mem_flatMap]
    rintro e ⟨t, ht, he⟩
    simp [(h t ht).1] at he
  refine ⟨?_, fun _ _ => rfl, fun _ => rfl, rfl, rfl, [], by simp, hann ▸ .nil⟩
  generalize a.changed = changed at h
  induction changed with
  | nil => rfl
  | cons t changed ih =>
    obtain ⟨ht, hrest⟩ := List.forall_mem_cons.mp h
    rw [List.foldl_cons, Table.insert_eq_self ht.2]
    exact ih hrest

private theorem applied_written {a : Allocation} {rows : List Tracked} (hrows : a.changed = rows)
    (hn : a.isNoop = false) (ids : IdSupply) :
    a.Applied s ((s.puts (rows.map Tracked.registration)).announce (announcements ids (announced rows))) := by
  subst hrows
  refine ⟨?_, fun id hid => ?_, fun h => ?_, Store.puts_events, Store.puts_registrants, _, ?_,
    announces_announcements ids _⟩
  · exact Store.puts_registrations.trans List.foldl_map
  · exact Store.get?_puts_of_notMem (by simpa using hid)
  · simp [hn] at h
  · exact congrArg (· ++ _) Store.puts_outbox

theorem Faithful.enact {s : Session} {d : Decision Allocation} (h : d.Faithful s.store) :
    match (d.enact s).1 with
    | .error _ => (d.enact s).2.store = s.store
    | .ok a => a.Applied s.store (d.enact s).2.store := by
  cases d with
  | refuse cause => rfl
  | leave a => exact applied_stored h
  | write fresh rows counted a =>
    rw [Decision.enact]
    by_cases hf : s.store.failOnCommit = true
    · simp only [hf, if_true]
      rfl
    · simp only [hf]
      exact applied_written h.1 h.2 _
  | raise event capacity a => exact h.elim

end Decision

end Turnstile
