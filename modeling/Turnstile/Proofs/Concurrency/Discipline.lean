import Turnstile.Proofs.Concurrency.Schedule

/-!
The discipline of allocation commands: between the lock of an event and the end of the transaction they ask
about this event only, and they look at a registration before the lock only to learn its event.
-/

namespace Turnstile

/-- Where a command stands between two calls: outside of transactions, perhaps with a registration that was
found to belong to an event; behind the start of a transaction; or in possession of the event's lock, with
the registrations that it may read and write. -/
inductive Mode where
  | free (known : Option (EventId × RegistrationId))
  | begun (known : Option (EventId × RegistrationId))
  | inside (event : EventId) (reach : RegistrationId → Prop)

namespace TxCall

/-- Calls about one event and the registrations in reach. -/
def About (event : EventId) (reach : RegistrationId → Prop) : TxCall → Prop
  | registrantExists _ | insertMessage _ => True
  | findActive e _ | countConfirmed e | waitlist e | updateCapacity e _ => e = event
  | getRegistration id => reach id
  | insertRegistration r | updateRegistration r => r.eventId = event ∧ reach r.id
  | lockEvent _ | commit | rollback | drop => False

/-- What is read of an event belongs to it. -/
def Answers (event : EventId) (reach : RegistrationId → Prop) : (c : TxCall) → c.Reply → Prop
  | waitlist _, .ok rs => ∀ r ∈ rs, r.eventId = event ∧ reach r.id
  | getRegistration _, .ok (some r) => r.eventId = event ∧ reach r.id
  | _, _ => True

end TxCall

/-- A part of a transaction. Identifiers come within reach when they are drawn. -/
inductive Stays (event : EventId) {β : Type} (post : (RegistrationId → Prop) → β → Prop) :
    (RegistrationId → Prop) → Program AllocatorCall.Reply β → Prop where
  | done {reach : RegistrationId → Prop} {b : β} (h : post reach b) : Stays event post reach (.done b)
  | fresh {reach : RegistrationId → Prop} {next : Uuid → Program AllocatorCall.Reply β}
    (h : ∀ u, Stays event post (fun i => reach i ∨ i = ⟨u⟩) (next u)) : Stays event post reach (.ask .freshId next)
  | call {reach : RegistrationId → Prop} {c : TxCall} {next : c.Reply → Program AllocatorCall.Reply β}
    (hc : c.About event reach)
    (h : ∀ reply, c.Answers event reach reply → Stays event post reach (next reply)) :
    Stays event post reach (.ask (.tx c) next)

/-- Whole commands, and what is left of them. -/
inductive Ruled : Mode → Call → Prop where
  | done {a : Except AllocationError Allocation} : Ruled (.free none) (.done a)
  | now {next : Instant → Call} (h : ∀ t, Ruled (.free none) (next t)) : Ruled (.free none) (.ask .now next)
  | count {counter : Counter} {next : Unit → Call} (h : Ruled (.free none) (next ())) :
    Ruled (.free none) (.ask (.count counter) next)
  | lookup {id : RegistrationId} {next : Stored (Option Registration) → Call}
    {a : Except AllocationError Allocation} (hnone : next (.ok none) = .done a)
    (heq : ∀ r r', r.eventId = r'.eventId → next (.ok (some r)) = next (.ok (some r')))
    (h : ∀ r, Ruled (.free (some (r.eventId, id))) (next (.ok (some r)))) :
    Ruled (.free none) (.ask (.getRegistration id) next)
  | begin {known : Option (EventId × RegistrationId)} {next : Stored Unit → Call}
    (h : Ruled (.begun known) (next (.ok ()))) : Ruled (.free known) (.ask .begin next)
  | lock {known : Option (EventId × RegistrationId)} {event : EventId}
    {next : Stored (Option ScheduledEvent) → Call} (hknown : ∀ x ∈ known, x.1 = event)
    (h : ∀ reach, (∀ x ∈ known, reach x.2) → ∀ reply : Option ScheduledEvent, (∀ e ∈ reply, e.id = event) →
      Ruled (.inside event reach) (next (.ok reply))) :
    Ruled (.begun known) (.ask (.tx (.lockEvent event)) next)
  | fresh {event : EventId} {reach : RegistrationId → Prop} {next : Uuid → Call}
    (h : ∀ u, Ruled (.inside event fun i => reach i ∨ i = ⟨u⟩) (next u)) :
    Ruled (.inside event reach) (.ask .freshId next)
  | call {event : EventId} {reach : RegistrationId → Prop} {c : TxCall} {next : c.Reply → Call}
    (hc : c.About event reach)
    (h : ∀ reply, c.Answers event reach reply → Ruled (.inside event reach) (next reply)) :
    Ruled (.inside event reach) (.ask (.tx c) next)
  | finish {event : EventId} {reach : RegistrationId → Prop} {c : TxCall} {next : c.Reply → Call}
    (hc : (AllocatorCall.tx c).ends) (h : ∀ reply, Ruled (.free none) (next reply)) :
    Ruled (.inside event reach) (.ask (.tx c) next)

section
variable {event : EventId} {β γ : Type} {reach : RegistrationId → Prop} {p : Program AllocatorCall.Reply β}
  {post : (RegistrationId → Prop) → β → Prop}

theorem Stays.bind {f : β → Program AllocatorCall.Reply γ} {post' : (RegistrationId → Prop) → γ → Prop}
    (h : Stays event post reach p) (hf : ∀ reach' b, post reach' b → Stays event post' reach' (f b)) :
    Stays event post' reach (p.bind f) := by
  induction h with
  | done h => exact hf _ _ h
  | fresh _ ih => exact .fresh fun u => ih u
  | call hc _ ih => exact .call hc fun reply hr => ih reply hr

theorem Stays.ruled {f : β → Call} (h : Stays event post reach p)
    (hf : ∀ reach' b, post reach' b → Ruled (.inside event reach') (f b)) :
    Ruled (.inside event reach) (p.bind f) := by
  induction h with
  | done h => exact hf _ _ h
  | fresh _ ih => exact .fresh fun u => ih u
  | call hc _ ih => exact .call hc fun reply hr => ih reply hr

end

namespace Allocate
variable {event : EventId} {α β : Type} {reach : RegistrationId → Prop}
  {post : (RegistrationId → Prop) → α → Prop} {now : Instant}

/-- A part of a command that stays within a transaction on an event. `post` holds of its results. -/
def Within (event : EventId) (reach : RegistrationId → Prop) (p : Allocate α)
    (post : (RegistrationId → Prop) → α → Prop) : Prop :=
  Stays event (fun reach' x => ∀ a, x = .ok a → post reach' a) reach p.run

namespace Within

theorem ofPure {a : α} (h : post reach a) : Within event reach (pure a) post :=
  .done fun _ ha => Except.ok.inj ha ▸ h

theorem ofThrow (e : AllocationError) : Within event reach (throw e : Allocate α) post :=
  .done fun _ ha => nomatch ha

theorem bind {p : Allocate α} {f : α → Allocate β} {post' : (RegistrationId → Prop) → β → Prop}
    (h : Within event reach p post) (hf : ∀ reach' a, post reach' a → Within event reach' (f a) post') :
    Within event reach (p >>= f) post' := by
  refine Stays.bind h fun reach' x hx => ?_
  cases x with
  | ok a => exact hf reach' a (hx a rfl)
  | error e => exact ofThrow e

theorem weaken {p : Allocate α} {post' : (RegistrationId → Prop) → α → Prop} (h : Within event reach p post)
    (himp : ∀ reach' a, post reach' a → post' reach' a) : Within event reach p post' := by
  have hb := h.bind fun reach' a ha => ofPure (himp reach' a ha)
  rwa [bind_pure] at hb

theorem ofChecked {r : Except RegistrationError α} (h : ∀ a, r = .ok a → post reach a) :
    Within event reach (checked r) post := by
  refine .done fun a ha => h a ?_
  cases r with
  | ok b => exact congrArg Except.ok (Except.ok.inj ha)
  | error e => cases ha

private theorem ofReply {reply : Stored α} (h : ∀ a, reply = .ok a → post reach a) :
    Stays event (fun reach' x => ∀ a, x = .ok a → post reach' a) reach
      (.done (reply.mapError AllocationError.ofStore)) := by
  refine .done fun a ha => h a ?_
  cases reply with
  | ok b => exact congrArg Except.ok (Except.ok.inj ha)
  | error e => cases ha

theorem registrantExists (registrant : RegistrantId) :
    Within event reach (Tx.registrantExists registrant) fun reach' _ => reach' = reach :=
  .call trivial fun _ _ => ofReply fun _ _ => rfl

theorem findActive (registrant : RegistrantId) :
    Within event reach (Tx.findActive event registrant) fun reach' _ => reach' = reach :=
  .call rfl fun _ _ => ofReply fun _ _ => rfl

theorem countConfirmed : Within event reach (Tx.countConfirmed event) fun reach' _ => reach' = reach :=
  .call rfl fun _ _ => ofReply fun _ _ => rfl

theorem waitlist :
    Within event reach (Tx.waitlist event) fun reach' q =>
      reach' = reach ∧ ∀ r ∈ q, r.eventId = event ∧ reach r.id := by
  refine .call rfl fun reply hr => ofReply fun q hq => ?_
  subst hq
  exact ⟨rfl, hr⟩

theorem lockedRegistration {id : RegistrationId} (hid : reach id) :
    Within event reach (lockedRegistration id) fun reach' r =>
      reach' = reach ∧ r.eventId = event ∧ reach r.id := by
  have hread : Within event reach (Tx.getRegistration id) fun reach' x =>
      reach' = reach ∧ ∀ r ∈ x, r.eventId = event ∧ reach r.id := by
    refine .call hid fun reply hr => ofReply fun x hx => ?_
    subst hx
    refine ⟨rfl, fun r hrx => ?_⟩
    obtain rfl := Option.mem_def.mp hrx
    exact hr
  refine hread.bind fun reach' x hx => ?_
  obtain ⟨rfl, hx⟩ := hx
  cases x with
  | none => exact ofThrow _
  | some r => exact ofPure ⟨rfl, hx r rfl⟩

theorem insertRegistration {r : Registration} (hr : r.eventId = event ∧ reach r.id) :
    Within event reach (Tx.insertRegistration r) fun reach' _ => reach' = reach :=
  .call hr fun _ _ => ofReply fun _ _ => rfl

theorem updateRegistration {r : Registration} (hr : r.eventId = event ∧ reach r.id) :
    Within event reach (Tx.updateRegistration r) fun reach' _ => reach' = reach :=
  .call hr fun _ _ => ofReply fun _ _ => rfl

theorem updateCapacity (capacity : UInt32) :
    Within event reach (Tx.updateCapacity event capacity) fun reach' _ => reach' = reach :=
  .call rfl fun _ _ => ofReply fun _ _ => rfl

theorem insertMessage (m : OutboxMessage) :
    Within event reach (Tx.insertMessage m) fun reach' _ => reach' = reach :=
  .call trivial fun _ _ => ofReply fun _ _ => rfl

theorem freshId {kind : IdKind} :
    Within event reach (freshId : Allocate (Id kind)) fun reach' id =>
      reach' = fun i => reach i ∨ i = ⟨id.uuid⟩ :=
  .fresh fun _ => .done fun _ ha => Except.ok.inj ha ▸ rfl

theorem stageEvent (e : EventRecord) : Within event reach (stageEvent e) fun _ _ => True := by
  unfold Allocate.stageEvent
  split
  · split
    · exact ofThrow _
    · exact freshId.bind fun _ _ _ => (insertMessage _).weaken fun _ _ _ => trivial
  · exact ofPure trivial

private theorem forM {ι : Type} {f : ι → Allocate Unit} (h : ∀ reach x, Within event reach (f x) fun _ _ => True)
    (xs : List ι) : Within event reach (xs.forM f) fun _ _ => True := by
  induction xs generalizing reach with
  | nil => exact ofPure trivial
  | cons x xs ih => exact (h reach x).bind fun _ _ _ => ih

theorem stage (rows : List Tracked) : Within event reach (stage rows) fun _ _ => True :=
  forM (fun _ t => forM (fun _ e => stageEvent e.record) t.pending) rows

end Within

/-! Registrations keep their identifier and event. -/

private def Kept (r : Registration) (t : Tracked) : Prop :=
  t.registration.id = r.id ∧ t.registration.eventId = r.eventId

private theorem kept_moveUp {r : Registration} {x : UInt32 × Tracked}
    (h : Tracked.moveUp ⟨r, []⟩ now = .ok x) : Kept r x.2 := by
  cases hw : r.waitlistPosition "move up" with
  | error e => simp [Tracked.moveUp, Registration.moveUp, hw, Except.map, Bind.bind, Except.bind] at h
  | ok p =>
    by_cases hp : p ≤ 1
    · simp [Tracked.moveUp, Registration.moveUp, hw, hp, Except.map, Bind.bind, Except.bind] at h
    · simp [Tracked.moveUp, Registration.moveUp, hw, hp, Except.map, Bind.bind, Except.bind, Pure.pure,
        Except.pure] at h
      subst h
      exact ⟨rfl, rfl⟩

private theorem kept_promote {r : Registration} {x : UInt32 × Tracked}
    (h : Tracked.promote ⟨r, []⟩ now = .ok x) : Kept r x.2 := by
  cases hw : r.waitlistPosition "promote" with
  | error e => simp [Tracked.promote, Registration.promote, hw, Except.map, Bind.bind, Except.bind] at h
  | ok p =>
    simp [Tracked.promote, Registration.promote, hw, Except.map, Bind.bind, Except.bind, Pure.pure,
      Except.pure] at h
    subst h
    exact ⟨rfl, rfl⟩

private theorem kept_cancel {r : Registration} {x : Cancellation × Tracked}
    (h : Tracked.cancel ⟨r, []⟩ now = some x) : Kept r x.2 := by
  by_cases hc : r.status.canCancel = true
  · simp [Tracked.cancel, Registration.cancel, hc] at h
    subst h
    exact ⟨rfl, rfl⟩
  · simp [Tracked.cancel, Registration.cancel, hc] at h

namespace Within

private theorem moveUp (r : Registration) :
    Within event reach (checked (Tracked.moveUp ⟨r, []⟩ now)) fun reach' x => reach' = reach ∧ Kept r x.2 :=
  ofChecked fun _ hx => ⟨rfl, kept_moveUp hx⟩

private theorem promote (r : Registration) :
    Within event reach (checked (Tracked.promote ⟨r, []⟩ now)) fun reach' x => reach' = reach ∧ Kept r x.2 :=
  ofChecked fun _ hx => ⟨rfl, kept_promote hx⟩

private theorem update {r : Registration} {t : Tracked} (hr : r.eventId = event ∧ reach r.id) (ht : Kept r t) :
    Within event reach (Tx.updateRegistration t.registration) fun reach' _ => reach' = reach :=
  updateRegistration ⟨ht.2.trans hr.1, by rw [ht.1]; exact hr.2⟩

theorem shiftUp {rs : List Registration} (h : ∀ r ∈ rs, r.eventId = event ∧ reach r.id) :
    Within event reach (shiftUp now rs) fun reach' _ => reach' = reach := by
  induction rs with
  | nil => exact ofPure rfl
  | cons r rs ih =>
    obtain ⟨hr, hrest⟩ := List.forall_mem_cons.mp h
    refine (moveUp r).bind fun _ x hx => ?_
    obtain ⟨rfl, hx⟩ := hx
    refine (update hr hx).bind fun _ _ hu => ?_
    subst hu
    exact (ih hrest).bind fun _ _ hs => ofPure hs

theorem closeGap (released : UInt32) :
    Within event reach (closeGap event released now) fun reach' _ => reach' = reach := by
  refine waitlist.bind fun _ q hq => ?_
  obtain ⟨rfl, hq⟩ := hq
  exact shiftUp fun r hr => hq r (List.mem_filter.mp hr).1

theorem promoteHead : Within event reach (promoteHead event now) fun reach' _ => reach' = reach := by
  refine waitlist.bind fun _ q hq => ?_
  obtain ⟨rfl, hq⟩ := hq
  cases q with
  | nil => exact ofPure rfl
  | cons r rest =>
    obtain ⟨hr, hrest⟩ := List.forall_mem_cons.mp hq
    refine (promote r).bind fun _ x hx => ?_
    obtain ⟨rfl, hx⟩ := hx
    refine (update hr hx).bind fun _ _ hu => ?_
    subst hu
    exact (shiftUp hrest).bind fun _ _ hs => ofPure hs

theorem promoteIfFree {e : ScheduledEvent} (he : e.id = event) :
    Within event reach (promoteIfFree e now) fun reach' _ => reach' = reach := by
  subst he
  refine countConfirmed.bind fun _ n hn => ?_
  subst hn
  split
  · exact promoteHead
  · exact ofPure rfl

end Within

private theorem run_lift_bind (p : Program AllocatorCall.Reply α) (g : α → Allocate β) :
    (lift p >>= g).run = p.bind fun x => (g x).run :=
  Program.bind_assoc p _ _

/-- What a transaction does once its body has ended. -/
private def ending : Except AllocationError (Verdict α) → Allocate α
  | .error e => do
    lift (tx .drop)
    throw e
  | .ok (.commit a) => do
    stored (tx .commit)
    pure a
  | .ok (.rollback a) => do
    stored (tx .rollback)
    pure a

/-- A transaction on an event, between the lookup and what follows. -/
theorem ruled_transact {known : Option (EventId × RegistrationId)} {rest : ScheduledEvent → Allocate (Verdict α)}
    {k : α → Allocate Allocation} (hknown : ∀ x ∈ known, x.1 = event)
    (hrest : ∀ reach e, (∀ x ∈ known, reach x.2) → e.id = event →
      Within event reach (rest e) fun _ _ => True)
    (hk : ∀ a, Ruled (.free none) (k a).run) :
    Ruled (.free known) (transact (lockExisting event >>= rest) >>= k).run := by
  have hverdict (reach : RegistrationId → Prop) (x : Except AllocationError (Verdict α)) :
      Ruled (.inside event reach) (ending x >>= k).run := by
    rcases x with e | a | a
    · exact .finish rfl fun _ => .done
    · refine .finish rfl fun reply => ?_
      cases reply with
      | error e => exact .done
      | ok _ => exact hk a
    · refine .finish rfl fun reply => ?_
      cases reply with
      | error e => exact .done
      | ok _ => exact hk a
  refine .begin (.lock hknown fun reach hreach reply hreply => ?_)
  cases reply with
  | none => exact hverdict reach (.error (.eventNotFound event))
  | some e =>
    have hbody := Stays.ruled (hrest reach e hreach (hreply e rfl)) fun reach' x _ => hverdict reach' x
    rw [← run_lift_bind, ← bind_assoc] at hbody
    exact hbody

private theorem within_enter {t : Tracked} (ht : t.registration.eventId = event ∧ reach t.registration.id) :
    Within event reach (do
      Tx.insertRegistration t.registration
      stage [t]
      pure (.commit t) : Allocate (Verdict Tracked)) fun _ _ => True :=
  (Within.insertRegistration ht).bind fun _ _ _ => (Within.stage [t]).bind fun _ _ _ => Within.ofPure trivial

theorem ruled_register (event : EventId) (registrant : RegistrantId) :
    Ruled (.free none) (register event registrant).run := by
  refine .now fun now => ?_
  refine ruled_transact (by simp) (fun reach e _ he => ?_) fun created => .count .done
  subst he
  refine (Within.registrantExists registrant).bind fun _ b hb => ?_
  subst hb
  dsimp only
  split
  · exact .done fun _ ha => nomatch ha
  refine (Within.findActive registrant).bind fun _ x hx => ?_
  subst hx
  split
  · exact .done fun _ ha => nomatch ha
  split
  · exact .done fun _ ha => nomatch ha
  refine Within.countConfirmed.bind fun _ n hn => ?_
  subst hn
  split
  · refine Within.freshId.bind fun _ id hid => ?_
    rw [pure_bind]
    exact within_enter ⟨rfl, by rw [hid]; exact .inr rfl⟩
  · refine Within.waitlist.bind fun within q _ => ?_
    have hcreate : Within e.id within (checked (Tracked.waitlisted e.id registrant (.ofNat q.length + 1) now))
        fun _ create => ∀ id, (create id).registration.eventId = e.id ∧ (create id).registration.id = id := by
      refine Within.ofChecked fun create hcreate => ?_
      rw [Tracked.waitlisted] at hcreate
      split at hcreate
      · cases hcreate
      · obtain rfl := Except.ok.inj hcreate
        exact fun id => ⟨rfl, rfl⟩
    refine hcreate.bind fun _ create hc => ?_
    refine Within.freshId.bind fun _ id hid => ?_
    rw [pure_bind]
    exact within_enter ⟨(hc id).1, by rw [hid, (hc id).2]; exact .inr rfl⟩

private theorem ruled_eventOf {id : RegistrationId} {k : EventId → Allocate Allocation}
    (hk : ∀ event, Ruled (.free (some (event, id))) (k event).run) : Ruled (.free none) (eventOf id >>= k).run :=
  .lookup rfl (fun _ _ h => congrArg (fun e => (k e).run) h) fun r => hk r.eventId

private theorem within_report (t : Tracked) (moved : List Tracked) (a : α) :
    Within event reach (do
      stage [t]
      stage moved
      pure (.commit a) : Allocate (Verdict α)) fun _ _ => True :=
  (Within.stage [t]).bind fun _ _ _ => (Within.stage moved).bind fun _ _ _ => Within.ofPure trivial

theorem ruled_cancel (id : RegistrationId) : Ruled (.free none) (cancel id).run := by
  refine .now fun now => ?_
  refine ruled_eventOf fun event => ?_
  refine ruled_transact (by simp) (fun reach e hreach he => ?_) fun x => ?_
  · refine (Within.lockedRegistration (hreach (event, id) rfl)).bind fun _ r hr => ?_
    obtain ⟨rfl, hr⟩ := hr
    cases hc : Tracked.cancel ⟨r, []⟩ now with
    | none => exact Within.ofPure trivial
    | some x =>
      obtain ⟨released, cancelled⟩ := x
      refine (Within.update hr (kept_cancel hc)).bind fun _ _ hu => ?_
      subst hu
      dsimp only
      split
      · exact (Within.closeGap _).bind fun _ moved _ => within_report cancelled moved _
      split
      · exact (Within.promoteIfFree he).bind fun _ moved _ => within_report cancelled moved _
      · exact within_report cancelled [] _
  · obtain ⟨allocation, released | released⟩ := x
    · exact .done
    · refine .count ?_
      dsimp only
      split
      · exact .count .done
      · exact .done

theorem ruled_confirm (id : RegistrationId) : Ruled (.free none) (confirm id).run := by
  refine .now fun now => ?_
  refine ruled_eventOf fun event => ?_
  refine ruled_transact (by simp) (fun reach e hreach he => ?_) fun x => .count .done
  subst he
  refine (Within.lockedRegistration (hreach (e.id, id) rfl)).bind fun _ r hr => ?_
  obtain ⟨rfl, hr⟩ := hr
  refine (Within.promote r).bind fun _ x hx => ?_
  obtain ⟨rfl, hx⟩ := hx
  refine Within.countConfirmed.bind fun _ n hn => ?_
  subst hn
  dsimp only
  split
  · exact .done fun _ ha => nomatch ha
  refine (Within.update hr hx).bind fun _ _ hu => ?_
  subst hu
  exact (Within.closeGap _).bind fun _ moved _ => within_report _ moved _

theorem ruled_promote (event : EventId) : Ruled (.free none) (promote event).run := by
  refine .now fun now => ?_
  refine ruled_transact (by simp) (fun reach e _ he => ?_) fun x => ?_
  · subst he
    refine Within.waitlist.bind fun _ q hq => ?_
    obtain ⟨rfl, -⟩ := hq
    dsimp only
    split
    · exact Within.ofPure trivial
    refine Within.countConfirmed.bind fun _ n hn => ?_
    subst hn
    split
    · exact .done fun _ ha => nomatch ha
    refine Within.promoteHead.bind fun _ changed _ => ?_
    exact (Within.stage changed).bind fun _ _ _ => Within.ofPure trivial
  · rcases x with _ | _ | _
    · exact .done
    · exact .count .done
    · exact .count .done

private theorem ruled_promoteStep {event : EventId} {k : Option (List Tracked) → Allocate Allocation}
    (hk : ∀ x, Ruled (.free none) (k x).run) : Ruled (.free none) (promoteStep event >>= k).run := by
  rw [promoteStep, bind_assoc]
  refine .now fun now => ?_
  change Ruled _ ((transact (lockExisting event >>= _) >>= _) >>= k).run
  rw [bind_assoc]
  refine ruled_transact (by simp) (fun reach e _ he => ?_) fun x => ?_
  · refine (Within.promoteIfFree he).bind fun _ changed _ => ?_
    cases changed with
    | nil => exact Within.ofPure trivial
    | cons t rest => exact (Within.stage (t :: rest)).bind fun _ _ _ => Within.ofPure trivial
  · cases x with
    | none => exact hk none
    | some changed => exact .count (hk (some changed))

private theorem ruled_promoteAll {event : EventId} {k : List Tracked → Allocate Allocation}
    (hk : ∀ x, Ruled (.free none) (k x).run) (limit : Nat) (changed : List Tracked) :
    Ruled (.free none) (promoteAll event limit changed >>= k).run := by
  induction limit generalizing changed with
  | zero => exact hk changed
  | succ limit ih =>
    rw [promoteAll, bind_assoc]
    refine ruled_promoteStep fun x => ?_
    cases x with
    | none => exact hk changed
    | some more => exact ih _

theorem ruled_increaseCapacity (event : EventId) (capacity : UInt32) :
    Ruled (.free none) (increaseCapacity event capacity).run := by
  rw [increaseCapacity, raiseCapacity]
  refine ruled_transact (by simp) (fun reach e _ he => ?_) fun event' => ruled_promoteAll (fun x => .done) _ _
  subst he
  dsimp only
  split
  · exact .done fun _ ha => nomatch ha
  split
  · exact (Within.updateCapacity capacity).bind fun _ _ _ => Within.ofPure trivial
  · exact Within.ofPure trivial

theorem ruled_command (c : Command) : Ruled (.free none) (command c).run := by
  cases c with
  | register event registrant => exact ruled_register event registrant
  | cancel registration => exact ruled_cancel registration
  | promote event => exact ruled_promote event
  | confirm registration => exact ruled_confirm registration
  | increaseCapacity event capacity => exact ruled_increaseCapacity event capacity

end Allocate
end Turnstile
