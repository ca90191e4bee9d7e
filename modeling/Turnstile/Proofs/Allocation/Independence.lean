import Turnstile.Proofs.Allocation.Confinement
import Turnstile.Proofs.Allocation.Invariant

/-!
A command concerns one event. It answers by what the store holds of this event, changes nothing else, and so can
change places with a command that concerns another one.
-/

namespace Turnstile

namespace Session

/-- Two sessions in which the same is known of an event, with the same clock and the same identifiers to come. -/
structure Alike (event : EventId) (s t : Session) : Prop where
  idle : s.Idle ∧ t.Idle
  lawful : s.store.Lawful ∧ t.store.Lawful
  shares : s.store.Shares event t.store
  failOnCommit : s.store.failOnCommit = t.store.failOnCommit
  clock : s.clock = t.clock
  ids : s.ids = t.ids

variable {event : EventId} {s t : Session}

theorem Alike.tick (h : s.Alike event t) : s.tick.Alike event t.tick where
  idle := ⟨h.idle.1.tick, h.idle.2.tick⟩
  lawful := h.lawful
  shares := h.shares
  failOnCommit := h.failOnCommit
  clock := congrArg (·.skip 1) h.clock
  ids := h.ids

end Session

namespace Decision
variable {α : Type} {event : EventId} {id : RegistrationId} {s t : Session} {d : Decision α}

private theorem told_alike (h : s.Alike event t) : d.told s = d.told t := by
  cases d <;> simp only [told, h.failOnCommit, h.ids]

private theorem reply_alike (h : s.Alike event t) : (d.enact s).1 = (d.enact t).1 := by
  cases d with
  | refuse cause => rfl
  | leave a => rfl
  | write fresh rows counted a =>
    simp only [enact, h.failOnCommit]
    split <;> rfl
  | raise event' capacity a =>
    simp only [enact, h.failOnCommit]
    split <;> rfl

private theorem enact_alike (h : s.Alike event t) (hw : d.Within event) (hs : d.Moving s.store id)
    (ht : d.Moving t.store id) : (d.enact s).2.Alike event (d.enact t).2 := by
  have hidle {x : Session} (hx : x.Idle) : (d.enact x).2.Idle :=
    ⟨enact_tx.trans hx.tx, enact_locked.trans hx.locked⟩
  have hi := And.intro (hidle h.idle.1) (hidle h.idle.2)
  have hl := And.intro (hs.step.lawful h.lawful.1) (ht.step.lawful h.lawful.2)
  cases d with
  | refuse cause => exact ⟨hi, hl, h.shares, h.failOnCommit, h.clock, h.ids⟩
  | leave a => exact ⟨hi, hl, h.shares, h.failOnCommit, h.clock, h.ids⟩
  | write fresh rows counted a =>
    have hids : (s.drawing (fresh + (announced rows).length)).ids =
        (t.drawing (fresh + (announced rows).length)).ids := by
      rw [Session.drawing, Session.drawing, h.ids]
    by_cases hf : t.store.failOnCommit = true
    · simp only [enact, h.failOnCommit, hf, if_true] at hi hl ⊢
      exact ⟨hi, hl, h.shares, h.failOnCommit, h.clock, hids⟩
    · simp only [enact, h.failOnCommit, hf] at hi hl ⊢
      refine ⟨hi, hl, h.shares.puts.announce _ _, ?_, h.clock, hids⟩
      simpa [Store.announce] using h.failOnCommit
  | raise event' capacity a =>
    obtain rfl : event' = event := hw
    by_cases hf : t.store.failOnCommit = true
    · simp only [enact, h.failOnCommit, hf, if_true] at hi hl ⊢
      exact ⟨hi, hl, h.shares, h.failOnCommit, h.clock, h.ids⟩
    · simp only [enact, h.failOnCommit, hf] at hi hl ⊢
      exact ⟨hi, hl, h.shares.setCapacity capacity, h.failOnCommit, h.clock, h.ids⟩

end Decision

namespace Allocate
variable {α β : Type} {event : EventId} {id : RegistrationId} {s t : Session}

/-- In both of two sessions a command gives the same answer, changes only the event, and the same way, and
announces the same. -/
def Local (event : EventId) (id : RegistrationId) (s t : Session) (p : Allocate α) : Prop :=
  ∃ reply s' t' rows, p.on s = (some reply, s') ∧ p.on t = (some reply, t') ∧ s'.Alike event t' ∧
    s.store.Confined event id rows s'.store ∧ t.store.Confined event id rows t'.store

private theorem local_pure (h : s.Alike event t) (a : α) : Local event id s t (pure a) :=
  ⟨.ok a, s, t, [], rfl, rfl, h, .refl event id _, .refl event id _⟩

private theorem Local.bind {p : Allocate α} {f : α → Allocate β} (hp : Local event id s t p)
    (hf : ∀ a s' t', p.on s = (some (.ok a), s') → s'.Alike event t' → Local event id s' t' (f a)) :
    Local event id s t (p >>= f) := by
  obtain ⟨reply, s', t', rows, hs, ht, ha, hcs, hct⟩ := hp
  cases reply with
  | error e => exact ⟨.error e, s', t', rows, on_bind_error hs f, on_bind_error ht f, ha, hcs, hct⟩
  | ok a =>
    obtain ⟨reply, s'', t'', rows', hs', ht', ha', hcs', hct'⟩ := hf a s' t' hs ha
    refine ⟨reply, s'', t'', rows ++ rows', ?_, ?_, ha', hcs.trans hcs', hct.trans hct'⟩
    · rw [on_bind_ok hs, hs']
    · rw [on_bind_ok ht, ht']

/-- A transaction that carries out the same decision in both sessions, perhaps after it has read the clock. -/
private theorem local_of_outcome {p : Allocate α} {d d' : Decision α} {s₁ t₁ : Session} (h : s₁.Alike event t₁)
    (hd : d = d') (hw : d.Within event) (hs : d.Moving s₁.store id) (ht : d'.Moving t₁.store id)
    (hp : p.on s = d.outcome s₁) (hp' : p.on t = d'.outcome t₁) (hstore : s₁.store = s.store)
    (hstore' : t₁.store = t.store) : Local event id s t p := by
  subst hd
  refine ⟨(d.enact s₁).1, (d.enact s₁).2, (d.enact t₁).2, d.told s₁, hp, ?_, d.enact_alike h hw hs ht, ?_, ?_⟩
  · rw [hp', Decision.reply_alike h]
    rfl
  · rw [← hstore]
    exact Decision.confined_enact h.lawful.1.keyed hw hs
  · rw [← hstore', Decision.told_alike h]
    exact Decision.confined_enact h.lawful.2.keyed hw ht

section
variable (h : s.Alike event t)
include h

private theorem local_register (hs : s.store.registrations.get? ⟨s.ids.next⟩ = none)
    (ht : t.store.registrations.get? ⟨t.ids.next⟩ = none) (registrant : RegistrantId) :
    Local event ⟨s.ids.next⟩ s t (register event registrant) := by
  have hd : Decision.register s.store event registrant s.clock.next ⟨s.ids.next⟩ =
      .register t.store event registrant t.clock.next ⟨t.ids.next⟩ := by
    rw [← h.clock, ← h.ids]
    exact Decision.register_shared h.shares h.lawful.1 h.lawful.2 registrant _ _
  have ht' : (Decision.register t.store event registrant t.clock.next ⟨t.ids.next⟩).Moving t.store ⟨t.ids.next⟩ :=
    Decision.moving_register h.lawful.2 fun _ => ht
  rw [← h.ids] at ht' hd
  exact local_of_outcome h.tick hd (Decision.within_register _ _ _ _ h.lawful.1.events_keyed)
    (Decision.moving_register h.lawful.1 fun _ => hs) ht' (on_register h.idle.1 h.lawful.1 event registrant)
    (by rw [h.ids]; exact on_register h.idle.2 h.lawful.2 event registrant) rfl rfl

private theorem local_promote : Local event id s t (promote event) := by
  have hd : Decision.promote s.store event s.clock.next = .promote t.store event t.clock.next := by
    rw [← h.clock]
    exact Decision.promote_shared h.shares h.lawful.1 h.lawful.2 _
  exact local_of_outcome h.tick hd (Decision.within_promote h.lawful.1.keyed _)
    (Decision.moving_promote h.lawful.1) (Decision.moving_promote h.lawful.2)
    (on_promote h.idle.1 h.lawful.1 event) (on_promote h.idle.2 h.lawful.2 event) rfl rfl

private theorem local_promoteStep : Local event id s t (promoteStep event) := by
  have hd : Decision.promoteStep s.store event s.clock.next = .promoteStep t.store event t.clock.next := by
    rw [← h.clock]
    exact Decision.promoteStep_shared h.shares h.lawful.1 h.lawful.2 _
  exact local_of_outcome h.tick hd (Decision.within_promoteStep h.lawful.1.keyed _)
    (Decision.moving_promoteStep h.lawful.1) (Decision.moving_promoteStep h.lawful.2)
    (on_promoteStep h.idle.1 h.lawful.1 event) (on_promoteStep h.idle.2 h.lawful.2 event) rfl rfl

private theorem local_raiseCapacity (capacity : UInt32) :
    Local event id s t (raiseCapacity event capacity) :=
  local_of_outcome h (Decision.raiseCapacity_shared h.shares capacity) (Decision.within_raiseCapacity _ _)
    Decision.moving_raiseCapacity Decision.moving_raiseCapacity
    (on_raiseCapacity h.idle.1 h.lawful.1 event capacity) (on_raiseCapacity h.idle.2 h.lawful.2 event capacity)
    rfl rfl

section
variable {rid : RegistrationId} {r : Registration} (hr : s.store.registrations.get? rid = some r)
  (hev : r.eventId = event)
include hr hev

private theorem local_cancel : Local event id s t (cancel rid) := by
  have hd : Decision.cancel s.store rid s.clock.next = .cancel t.store rid t.clock.next := by
    rw [← h.clock]
    exact Decision.cancel_shared h.shares h.lawful.1 h.lawful.2 hr hev _
  exact local_of_outcome h.tick hd (Decision.within_cancel h.lawful.1.keyed hr hev _)
    (Decision.moving_cancel h.lawful.1) (Decision.moving_cancel h.lawful.2)
    (on_cancel h.idle.1 h.lawful.1 rid) (on_cancel h.idle.2 h.lawful.2 rid) rfl rfl

private theorem local_confirm : Local event id s t (confirm rid) := by
  have hd : Decision.confirm s.store rid s.clock.next = .confirm t.store rid t.clock.next := by
    rw [← h.clock]
    exact Decision.confirm_shared h.shares h.lawful.1 h.lawful.2 hr hev _
  exact local_of_outcome h.tick hd (Decision.within_confirm h.lawful.1.keyed hr hev _)
    (Decision.moving_confirm h.lawful.1) (Decision.moving_confirm h.lawful.2)
    (on_confirm h.idle.1 h.lawful.1 rid) (on_confirm h.idle.2 h.lawful.2 rid) rfl rfl

end

private theorem local_promoteAll (limit : Nat) (changed : List Tracked) :
    Local event id s t (promoteAll event limit changed) := by
  induction limit generalizing changed s t with
  | zero => exact local_pure h changed
  | succ limit ih =>
    refine (local_promoteStep h).bind fun more s' t' _ h' => ?_
    cases more with
    | none => exact local_pure h' changed
    | some more => exact ih h' (changed ++ more)

/-- The capacity that is raised is that of the event named. -/
private theorem raised_eq {capacity : UInt32} {a : EventId} {s' : Session}
    (ha : (raiseCapacity event capacity).on s = (some (.ok a), s')) : a = event := by
  rw [on_raiseCapacity h.idle.1 h.lawful.1] at ha
  have hreply : ((Decision.raiseCapacity s.store event capacity).enact s).1 = .ok a :=
    Option.some.inj (congrArg Prod.fst ha)
  revert hreply
  unfold Decision.raiseCapacity
  split
  · exact nofun
  split
  · exact nofun
  split
  · dsimp only [Decision.enact]
    split
    · exact nofun
    · exact fun hreply => (Except.ok.inj hreply).symm
  · exact fun hreply => (Except.ok.inj hreply).symm

private theorem local_increaseCapacity (capacity : UInt32) :
    Local event id s t (increaseCapacity event capacity) := by
  refine (local_raiseCapacity h capacity).bind fun a s' t' ha h' => ?_
  obtain rfl := raised_eq h ha
  refine (local_promoteAll h' maxWaitlist []).bind fun changed s'' t'' _ h'' => local_pure h'' _

end

end Allocate

/-- The event that a command is about: the one it names, or that of the registration it names. -/
def Command.Concerns (event : EventId) (s : Store) : Command → Prop
  | .register event' _ | .promote event' | .increaseCapacity event' _ => event' = event
  | .cancel id | .confirm id => ∃ r, s.registrations.get? id = some r ∧ r.eventId = event

/-- A command with the clock that it reads, the identifiers that it draws, and whether its commits fail. -/
structure Submission where
  command : Command
  clock : Supply Instant
  ids : IdSupply
  failing : Bool := false

namespace Store

def session (s : Store) (q : Submission) : Session :=
  { store := { s with failOnCommit := q.failing }, clock := q.clock, ids := q.ids }

/-- What a submission gets from a store that is used by nobody else, and the store afterwards. -/
def handle (s : Store) (q : Submission) : Option (Except AllocationError Allocation) × Store :=
  Prod.map id Session.store ((Allocate.command q.command).on (s.session q))

/-- The first identifier that the submission draws is not in use. Newcomers get no other. -/
def Fresh (s : Store) (q : Submission) : Prop := s.registrations.get? ⟨q.ids.next⟩ = none

/-- Two submissions get the same answers in either order and leave the same, but for the order of outbox rows. -/
structure Commute (s : Store) (a b : Submission) : Prop where
  first : ((s.handle b).2.handle a).1 = (s.handle a).1
  second : ((s.handle a).2.handle b).1 = (s.handle b).1
  events : ∀ id, ((s.handle a).2.handle b).2.events.get? id = ((s.handle b).2.handle a).2.events.get? id
  registrations : ∀ id,
    ((s.handle a).2.handle b).2.registrations.get? id = ((s.handle b).2.handle a).2.registrations.get? id
  outbox : ∃ rows rows', ((s.handle a).2.handle b).2.outbox = s.outbox ++ rows ++ rows' ∧
    ((s.handle b).2.handle a).2.outbox = s.outbox ++ rows' ++ rows

/-- A submission is answered, changes one event only, and does so in the same way in every store that holds the
same of this event, whatever that store holds of others. -/
structure Isolates (s : Store) (q : Submission) (event : EventId) : Prop where
  answered : (s.handle q).1.isSome
  elsewhere : ∀ other ≠ event, (s.handle q).2.Shares other s
  outbox : ∃ rows, (s.handle q).2.outbox = s.outbox ++ rows ∧ (∀ m ∈ rows, m.Tells event) ∧
    ∀ t : Store, t.Lawful → t.locked = [] → t.Fresh q → s.Shares event t →
      (t.handle q).1 = (s.handle q).1 ∧ (t.handle q).2.Shares event (s.handle q).2 ∧
        (t.handle q).2.outbox = t.outbox ++ rows

variable {s t : Store} {q a b : Submission} {event other : EventId}

private theorem alike_session (hs : s.Lawful) (ht : t.Lawful) (hfs : s.locked = []) (hft : t.locked = [])
    (h : s.Shares event t) (q : Submission) : (s.session q).Alike event (t.session q) where
  idle := ⟨⟨rfl, hfs⟩, ⟨rfl, hft⟩⟩
  lawful := ⟨⟨hs.events_keyed, hs.keyed, fun id e he => (hs.sound id e he).congr rfl⟩,
    ⟨ht.events_keyed, ht.keyed, fun id e he => (ht.sound id e he).congr rfl⟩⟩
  shares := ⟨h.found, h.rows, h.registrants⟩
  failOnCommit := rfl
  clock := rfl
  ids := rfl

private theorem local_command (hs : s.Lawful) (ht : t.Lawful) (hfs : s.locked = []) (hft : t.locked = [])
    (h : s.Shares event t) (hc : q.command.Concerns event s) (hqs : s.Fresh q) (hqt : t.Fresh q) :
    Allocate.Local event ⟨q.ids.next⟩ (s.session q) (t.session q) (Allocate.command q.command) := by
  have ha := alike_session hs ht hfs hft h q
  cases hq : q.command with
  | register event' registrant =>
    rw [hq] at hc
    obtain rfl : event' = event := hc
    exact Allocate.local_register ha hqs hqt registrant
  | cancel rid =>
    rw [hq] at hc
    obtain ⟨r, hr, hev⟩ := hc
    exact Allocate.local_cancel ha hr hev
  | promote event' =>
    rw [hq] at hc
    obtain rfl : event' = event := hc
    exact Allocate.local_promote ha
  | confirm rid =>
    rw [hq] at hc
    obtain ⟨r, hr, hev⟩ := hc
    exact Allocate.local_confirm ha hr hev
  | increaseCapacity event' capacity =>
    rw [hq] at hc
    obtain rfl : event' = event := hc
    exact Allocate.local_increaseCapacity ha capacity

/-- What a submission does in two stores that hold the same of its event. -/
private structure Parallel (q : Submission) (event : EventId) (rows : List OutboxMessage) (s t : Store) : Prop where
  answered : (s.handle q).1.isSome
  reply : (t.handle q).1 = (s.handle q).1
  shares : (s.handle q).2.Shares event (t.handle q).2
  lawful : (s.handle q).2.Lawful
  unlocked : (s.handle q).2.locked = []
  confined : s.Confined event ⟨q.ids.next⟩ rows (s.handle q).2
  confined' : t.Confined event ⟨q.ids.next⟩ rows (t.handle q).2

private theorem parallel (hs : s.Lawful) (ht : t.Lawful) (hfs : s.locked = []) (hft : t.locked = [])
    (h : s.Shares event t) (hc : q.command.Concerns event s) (hqs : s.Fresh q) (hqt : t.Fresh q) :
    ∃ rows, Parallel q event rows s t := by
  obtain ⟨reply, s', t', rows, hon, hon', ha, hcs, hct⟩ := local_command hs ht hfs hft h hc hqs hqt
  have hforget {x x' : Store} {failing : Bool}
      (hx : { x with failOnCommit := failing }.Confined event ⟨q.ids.next⟩ rows x') :
      x.Confined event ⟨q.ids.next⟩ rows x' := by
    refine ⟨fun other hne => ?_, hx.outbox, hx.tells, hx.known⟩
    have hshares := hx.elsewhere other hne
    exact ⟨hshares.found, hshares.rows, hshares.registrants⟩
  have hs' : s.handle q = (some reply, s'.store) := by rw [handle, hon]; rfl
  have ht' : t.handle q = (some reply, t'.store) := by rw [handle, hon']; rfl
  refine ⟨rows, ?_, ?_, ?_, ?_, ?_, ?_, ?_⟩ <;> simp only [hs', ht']
  · rfl
  · exact ha.shares
  · exact ha.lawful.1
  · exact ha.idle.1.locked
  · exact hforget hcs
  · exact hforget hct

theorem isolates (hs : s.Lawful) (hfree : s.locked = []) (hc : q.command.Concerns event s) (hq : s.Fresh q) :
    s.Isolates q event := by
  obtain ⟨rows, h⟩ := parallel hs hs hfree hfree (.refl event s) hc hq hq
  refine ⟨h.answered, h.confined.elsewhere, rows, h.confined.outbox, h.confined.tells, fun t ht hft hqt hst => ?_⟩
  obtain ⟨rows', h'⟩ := parallel hs ht hfree hft hst hc hq hqt
  -- both are what was appended in `s`
  obtain rfl : rows' = rows := List.append_cancel_left (h'.confined.outbox.symm.trans h.confined.outbox)
  exact ⟨h'.reply, h'.shares.symm, h'.confined'.outbox⟩

private theorem Parallel.fresh {rows : List OutboxMessage} (h : Parallel a event rows s t) (hb : s.Fresh b)
    (hab : a.ids.next ≠ b.ids.next) : (s.handle a).2.Fresh b := by
  by_contra hne
  rcases h.confined.known _ (Option.isSome_iff_ne_none.mpr hne) with hsome | heq
  · rw [hb] at hsome
    exact absurd hsome (by simp)
  · exact hab (Id.mk.inj heq).symm

private theorem commute (hs : s.Lawful) (hfree : s.locked = []) (ha : a.command.Concerns event s)
    (hb : b.command.Concerns other s) (hne : event ≠ other) (hfa : s.Fresh a) (hfb : s.Fresh b)
    (hab : a.ids.next ≠ b.ids.next) : s.Commute a b := by
  obtain ⟨rowsA, hpa⟩ := parallel hs hs hfree hfree (.refl event s) ha hfa hfa
  obtain ⟨rowsB, hpb⟩ := parallel hs hs hfree hfree (.refl other s) hb hfb hfb
  have hother := (hpa.confined.elsewhere other hne.symm).symm
  have hevent := (hpb.confined.elsewhere event hne).symm
  obtain ⟨rowsB', hpab⟩ := parallel hs hpa.lawful hfree hpa.unlocked hother hb hfb (hpa.fresh hfb hab)
  obtain ⟨rowsA', hpba⟩ := parallel hs hpb.lawful hfree hpb.unlocked hevent ha hfa (hpb.fresh hfa hab.symm)
  obtain rfl : rowsB' = rowsB := List.append_cancel_left (hpab.confined.outbox.symm.trans hpb.confined.outbox)
  obtain rfl : rowsA' = rowsA := List.append_cancel_left (hpba.confined.outbox.symm.trans hpa.confined.outbox)
  have hshares : ∀ e, ((s.handle a).2.handle b).2.Shares e ((s.handle b).2.handle a).2 := by
    intro e
    by_cases hother' : e = other
    · subst hother'
      exact hpab.shares.symm.trans (hpba.confined'.elsewhere e hne.symm).symm
    have hlast := hpab.confined'.elsewhere e hother'
    by_cases hevent' : e = event
    · subst hevent'
      exact hlast.trans hpba.shares
    · have hfirst := (hpb.confined.elsewhere e hother').symm.trans (hpba.confined'.elsewhere e hevent').symm
      exact hlast.trans ((hpa.confined.elsewhere e hevent').trans hfirst)
  obtain ⟨hevents, hregistrations⟩ := ext_of_shares hshares
  refine ⟨hpba.reply, hpab.reply, hevents, hregistrations, rowsA', rowsB', ?_, ?_⟩
  · rw [hpab.confined'.outbox, hpa.confined.outbox]
  · rw [hpba.confined'.outbox, hpb.confined.outbox]

/-- Submissions that concern different events can change places. Each depends on its own event only, and changes
nothing else. -/
theorem events_independent (hs : s.Lawful) (hfree : s.locked = []) (ha : a.command.Concerns event s)
    (hb : b.command.Concerns other s) (hne : event ≠ other) (hfa : s.Fresh a) (hfb : s.Fresh b)
    (hab : a.ids.next ≠ b.ids.next) : s.Commute a b ∧ s.Isolates a event ∧ s.Isolates b other :=
  ⟨commute hs hfree ha hb hne hfa hfb hab, isolates hs hfree ha hfa, isolates hs hfree hb hfb⟩

/-- Two talks with one seat each, and for each of them one who has the seat and one who waits. -/
def twoTalks : Session :=
  let second := { ScheduledEvent.oneSeat with id := ⟨⟨0, 9⟩⟩ }
  (Session.start [.oneSeat, second] [⟨⟨⟨0, 2⟩⟩, "a"⟩, ⟨⟨⟨0, 3⟩⟩, "b"⟩] (IdSupply.counting 1 1).item).after
    [⟨.register ScheduledEvent.oneSeat.id ⟨⟨0, 2⟩⟩, .constant default, false⟩,
      ⟨.register ScheduledEvent.oneSeat.id ⟨⟨0, 3⟩⟩, .constant default, false⟩,
      ⟨.register second.id ⟨⟨0, 2⟩⟩, .constant default, false⟩,
      ⟨.register second.id ⟨⟨0, 3⟩⟩, .constant default, false⟩]

/-- The seat of one talk is given up while the other talk gets a second seat. -/
theorem events_independent_twoTalks :
    let a : Submission := ⟨.cancel ⟨IdSupply.number 1⟩, .constant default, .counting 101 1, false⟩
    let b : Submission := ⟨.increaseCapacity ⟨⟨0, 9⟩⟩ 2, .constant default, .counting 201 1, false⟩
    twoTalks.store.Commute a b ∧ twoTalks.store.Isolates a ScheduledEvent.oneSeat.id ∧
      twoTalks.store.Isolates b ⟨⟨0, 9⟩⟩ := by
  have hc : twoTalks.Consistent := by
    refine ((Session.consistent_start _ _ _).after _ (IdSupply.distinct_of_counting ?_ (by decide +kernel))).1
    rw [Session.after_item]
    rfl
  have hstored : (twoTalks.store.registrations.get? ⟨IdSupply.number 1⟩).map Registration.eventId =
      some ScheduledEvent.oneSeat.id := by decide +kernel
  exact events_independent hc.lawful hc.idle.locked (Option.map_eq_some_iff.mp hstored) rfl (by decide)
    (by decide +kernel : twoTalks.store.registrations.get? _ = none)
    (by decide +kernel : twoTalks.store.registrations.get? _ = none) (by decide)

end Store
end Turnstile
