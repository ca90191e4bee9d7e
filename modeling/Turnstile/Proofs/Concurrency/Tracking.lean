import Turnstile.Proofs.Concurrency.Frame

/-!
A command between two calls, compared with the same command at the start of its transaction: from there it
would come to the same end, whatever the others do meanwhile.
-/

namespace Turnstile
namespace Caller
variable {s s' t : Store} {k₀ k k' l l₀ : Caller} {p : Call} {op : AllocatorCall} {next : op.Reply → Call}
  {mode : Mode}

/-- Outside of transactions. -/
structure Outside (s : Store) (k₀ k : Caller) (known : Option (EventId × RegistrationId)) : Prop where
  tx : k.tx = {}
  has : ∀ x ∈ known, s.Has x
  turn : ∀ t : Store, t.locked = [] → (∀ x ∈ known, t.Has x) → k₀.turn t = k.turn t

/-- Inside of a transaction on an event. -/
structure Inside (s : Store) (k₀ k : Caller) (event : EventId) (reach : RegistrationId → Prop) : Prop where
  about : k.tx.About event reach
  covers : s.Covers event reach (· ∈ k.drawn)
  turn : ∀ t : Store, t.locked = [] → s.Agrees event reach t → k₀.turn t = k.turn { t with locked := [event] }

/-- The command `k` on the store `s` goes on as `k₀` would from the start of the transaction. -/
def Tracks (s : Store) (k₀ k : Caller) : Mode → Prop
  | .free known | .begun known => Outside s k₀ k known
  | .inside event reach => Inside s k₀ k event reach

theorem turn_done {a : Except AllocationError Allocation} (h : k.program = .done a) :
    k.turn s = (s, k, false) := by
  obtain ⟨p, tx, clock, ids, metrics⟩ := k
  obtain rfl : p = .done a := h
  rfl

/-- A call that does not end a transaction is only the beginning of a turn. -/
theorem turn_ask {σ : Session} {r : op.Reply} (hp : k.program = .ask op next)
    (ha : Session.answer op (k.session s) = (some r, σ)) (he : op.ends = false) :
    k.turn s = (resume (next r) σ).turn σ.store := by
  rw [turn, hp, runOn]
  simp only [ha, he]
  rfl

theorem turn_end {σ : Session} {r : op.Reply} (hp : k.program = .ask op next)
    (ha : Session.answer op (k.session s) = (some r, σ)) (he : op.ends = true) :
    k.turn s = (σ.store, resume (next r) σ, op.commits s) := by
  rw [turn, hp, runOn]
  simp only [ha, he]
  rfl

private theorem drawn_skip (k : Caller) :
    { k with program := p, ids := k.ids.skip 1 }.drawn = k.drawn ++ [⟨k.ids.next⟩] := by
  simp [drawn, Supply.skip, Supply.next, List.range_succ]

/-! What a call of one command does to the store. -/

inductive Effect (s : Store) (k k' : Caller) : Store → Prop where
  | none (h : k'.tx.held = k.tx.held) : Effect s k k' s
  | lock {event : EventId} (hfree : event ∉ s.locked) (hk : k.tx.held = []) (hk' : k'.tx.held = [event]) :
    Effect s k k' { s with locked := event :: s.locked }
  | finish {op : AllocatorCall} {event : EventId} {reach : RegistrationId → Prop} (hk : k.tx.About event reach)
    (hcov : s.Covers event reach (· ∈ k.drawn)) (hk' : k'.tx = {}) : Effect s k k' (s.finish op k.tx)

/-- What a call of a command comes to: either its transaction goes on, or it ends as a turn from the start of
the transaction would. -/
inductive Advance (s : Store) (k₀ : Caller) (s' : Store) (k' : Caller) : Bool → Prop where
  | onward (mode : Mode) (hr : Ruled mode k'.program) (ht : Tracks s' k₀ k' mode)
    (hs : { s' with locked := [] } = { s with locked := [] }) : Advance s k₀ s' k' false
  | landed {committing : Bool} (hr : Ruled (.free none) k'.program) (htx : k'.tx = {})
    (hturn : k₀.turn { s with locked := [] } = ({ s' with locked := [] }, k', committing)) :
    Advance s k₀ s' k' committing

section
variable {known : Option (EventId × RegistrationId)} {event : EventId} {reach : RegistrationId → Prop}

/-- Calls that no store answers differently. -/
private theorem Outside.ask {r : op.Reply} (h : Outside s k₀ k known) (hp : k.program = .ask op next)
    (he : op.ends = false) (htx : k'.tx = {}) (hnext : k'.program = next r)
    (ha : ∀ t, Session.answer op (k.session t) = (some r, k'.session t)) : Outside s k₀ k' known where
  tx := htx
  has := h.has
  turn t ht hx := by
    rw [h.turn t ht hx, turn_ask hp (ha t) he, ← hnext]
    rfl

private theorem Outside.lookup {id : RegistrationId} {r : Registration}
    {next : Stored (Option Registration) → Call} (h : Outside s k₀ k none)
    (hp : k.program = .ask (.getRegistration id) next) (hr : s.registrations.get? id = some r)
    (heq : ∀ r r', r.eventId = r'.eventId → next (.ok (some r)) = next (.ok (some r'))) :
    Outside s k₀ { k with program := next (.ok (some r)) } (some (r.eventId, id)) where
  tx := h.tx
  has := by
    rintro x hx
    obtain rfl := Option.some.inj hx
    exact ⟨r, hr, rfl⟩
  turn t ht hx := by
    obtain ⟨r', hr', hev⟩ := hx _ rfl
    have ha : Session.answer (.getRegistration id) (k.session t) = (some (.ok (some r')), k.session t) := by
      simp only [Session.answer, Caller.session, hr']
    rw [h.turn t ht (by simp), turn_ask hp ha rfl, heq r' r hev]
    rfl

/-- The reply to a lock that is free, and what the command holds then. -/
private theorem answer_lock (hk : k.tx = {}) (hfree : event ∉ t.locked) :
    Session.answer (.tx (.lockEvent event)) (k.session t) =
      (some (.ok (t.events.get? event)),
        { k with tx := { held := [event] } }.session { t with locked := event :: t.locked }) := by
  have hlock : (k.session t).lockEvent event =
      some ({ k with tx := { held := [event] } }.session { t with locked := event :: t.locked }) := by
    simp [Session.lockEvent, Caller.session, hk, hfree, Tx.holds]
  simp only [Session.answer, Session.answerTx, hlock]
  simp [Tx.event?, Caller.session]

private theorem Outside.lock {next : Stored (Option ScheduledEvent) → Call} (h : Outside s k₀ k known)
    (hp : k.program = .ask (.tx (.lockEvent event)) next) (hknown : ∀ x ∈ known, x.1 = event) :
    Inside { s with locked := event :: s.locked } k₀
      { k with program := next (.ok (s.events.get? event)), tx := { held := [event] } } event
      fun id => s.Has (event, id) where
  about := ⟨rfl, (fun _ _ h => nomatch h), (fun _ h => nomatch h)⟩
  covers := ⟨fun id r hr hev => ⟨r, hr, hev⟩, fun id hid => .inl hid⟩
  turn t ht ha := by
    have hhas : ∀ x ∈ known, t.Has x := by
      intro x hx
      obtain ⟨r, hr, hev⟩ := h.has x hx
      have hreach := ha.reached x.2 ⟨r, hr, hev.trans (hknown x hx)⟩
      exact ⟨r, hreach ▸ hr, hev⟩
    rw [h.turn t ht hhas, turn_ask hp (answer_lock h.tx (by simp [ht])) rfl, ht, ← ha.found]
    rfl

private theorem Inside.fresh {next : Uuid → Call} (h : Inside s k₀ k event reach)
    (hp : k.program = .ask .freshId next) (hnew : s.registrations.get? ⟨k.ids.next⟩ = none) :
    Inside s k₀ { k with program := next k.ids.next, ids := k.ids.skip 1 } event
      fun id => reach id ∨ id = ⟨k.ids.next⟩ where
  about := by
    refine ⟨h.about.held, fun id r hr => ?_, h.about.capacities⟩
    obtain ⟨hid, hev, hreach⟩ := h.about.rows id r hr
    exact ⟨hid, hev, .inl hreach⟩
  covers := by
    refine ⟨fun id r hr hev => .inl (h.covers.rows id r hr hev), ?_⟩
    rintro id (hid | rfl)
    · exact (h.covers.reached id hid).imp_right fun hdrawn =>
        ⟨hdrawn.1, by rw [drawn_skip]; exact List.mem_append_left _ hdrawn.2⟩
    · exact .inr ⟨hnew, by rw [drawn_skip]; simp⟩
  turn t ht ha := by
    rw [h.turn t ht (ha.mono fun _ => .inl), turn_ask hp rfl rfl]
    rfl

private theorem Inside.call {c : TxCall} {next : c.Reply → Call} (h : Inside s k₀ k event reach)
    (hp : k.program = .ask (.tx c) next) (hc : c.About event reach) (hk : s.Keyed) :
    ∃ reply tx, Session.answer (.tx c) (k.session s) = (some reply, { k with tx }.session s) ∧
      c.Answers event reach reply ∧ Inside s k₀ { k with program := next reply, tx } event reach := by
  obtain ⟨reply, tx, ha, hanswers, habout⟩ := answerTx_about hk h.covers h.about hc
  refine ⟨reply, tx, ha, hanswers, habout, h.covers, fun t ht hagrees => ?_⟩
  have hlocked : s.Agrees event reach { t with locked := [event] } :=
    ⟨hagrees.found, hagrees.registrants, hagrees.failOnCommit, hagrees.registrationsOf, hagrees.reached⟩
  obtain ⟨reply', tx', hs, ht'⟩ := answerTx_agrees (k := k) hc hlocked
  obtain ⟨rfl, rfl⟩ : reply' = reply ∧ tx' = tx := by
    have heq := Prod.ext_iff.mp (hs.symm.trans ha)
    exact ⟨Option.some.inj heq.1, congrArg Session.tx heq.2⟩
  have hends : (AllocatorCall.tx c).ends = false := by
    cases c <;> first | rfl | exact hc.elim
  rw [h.turn t ht hagrees, turn_ask hp ht' hends]
  rfl

private theorem finish_locked (htx : k.tx.About event reach) :
    Store.finish { s with locked := [event] } op k.tx = { s.finish op k.tx with locked := [] } := by
  have hcommits : op.commits { s with locked := [event] } = op.commits s := by
    cases op with
    | tx c => cases c <;> rfl
    | _ => rfl
  rw [Store.finish, Store.finish, hcommits]
  cases op.commits s <;> simp [Store.release, Store.apply, htx.held]

private theorem Inside.finish {c : TxCall} {next : c.Reply → Call} (h : Inside s k₀ k event reach)
    (hp : k.program = .ask (.tx c) next) (hc : (AllocatorCall.tx c).ends) :
    ∃ reply, Session.answer (.tx c) (k.session s) =
        (some reply, { k with tx := {} }.session (s.finish (.tx c) k.tx)) ∧
      k₀.turn { s with locked := [] } = ({ s.finish (.tx c) k.tx with locked := [] },
        { k with program := next reply, tx := {} }, (AllocatorCall.tx c).commits s) := by
  have hagrees : s.Agrees event reach { s with locked := [] } := ⟨rfl, rfl, rfl, rfl, fun _ _ => rfl⟩
  obtain ⟨reply, hs, ht⟩ := @Store.answer_end s { s with locked := [event] } k _ hc rfl
  refine ⟨reply, hs, ?_⟩
  rw [h.turn _ rfl hagrees, turn_end hp ht hc, finish_locked h.about]
  cases c <;> rfl

end

private theorem step_ask {σ : Session} {r : op.Reply} (hp : k.program = .ask op next)
    (ha : Session.answer op (k.session s) = (some r, σ)) :
    k.step s = some (σ.store, resume (next r) σ, op.commits s) := by
  rw [step, hp]
  simp only [ha]

private theorem step_locked {event : EventId} {next : Stored (Option ScheduledEvent) → Call}
    (hp : k.program = .ask (.tx (.lockEvent event)) next) (htx : k.tx = {}) (h : event ∈ s.locked) :
    k.step s = none := by
  have hlock : (k.session s).lockEvent event = none := by
    simp [Session.lockEvent, Caller.session, htx, h, Tx.holds]
  rw [step, hp]
  simp only [Session.answer, Session.answerTx, hlock]

private theorem commits_of_about {c : TxCall} {event : EventId} {reach : RegistrationId → Prop}
    (hc : c.About event reach) : (AllocatorCall.tx c).commits s = false := by
  cases c with
  | commit => exact hc.elim
  | _ => rfl

/-- A call of a command keeps it on the track of its transaction, or ends the transaction. -/
theorem advance {committing : Bool} (hr : Ruled mode k.program) (ht : Tracks s k₀ k mode) (hk : s.Keyed)
    (he : s.events.KeyedBy ScheduledEvent.id) (hstep : k.step s = some (s', k', committing))
    (hnew : ∀ id, k'.drawn = k.drawn ++ [id] → s.registrations.get? id = none) :
    Advance s k₀ s' k' committing ∧ Effect s k k' s' := by
  generalize hp : k.program = p at hr
  cases hr with
  | done =>
    rw [step, hp] at hstep
    cases hstep
  | now h =>
    rw [step_ask hp rfl] at hstep
    cases hstep
    exact ⟨.onward (.free none) (h _) (Outside.ask ht hp rfl ht.tx rfl fun _ => rfl) rfl, .none rfl⟩
  | count h =>
    rw [step_ask hp rfl] at hstep
    cases hstep
    exact ⟨.onward (.free none) h (Outside.ask ht hp rfl ht.tx rfl fun _ => rfl) rfl, .none rfl⟩
  | begin h =>
    rw [step_ask hp rfl] at hstep
    cases hstep
    exact ⟨.onward (.begun _) h (Outside.ask ht hp rfl rfl rfl fun _ => rfl) rfl, .none (by rw [ht.tx]; rfl)⟩
  | @lookup id next a hnone heq h =>
    have ha (t : Store) : Session.answer (.getRegistration id) (k.session t) =
        (some (.ok (t.registrations.get? id)), k.session t) := rfl
    rw [step_ask hp (ha s)] at hstep
    cases hstep
    cases hget : s.registrations.get? id with
    | none =>
      have hend : k₀.turn { s with locked := [] } =
          ({ s with locked := [] }, resume (next (.ok none)) (k.session s), false) := by
        rw [ht.turn _ rfl (by simp), turn_ask hp (ha _) rfl, hget]
        exact turn_done hnone
      exact ⟨.landed (by rw [resume, hnone]; exact .done) ht.tx hend, .none rfl⟩
    | some r => exact ⟨.onward (.free _) (h r) (Outside.lookup ht hp hget heq) rfl, .none rfl⟩
  | @lock known event next hknown h =>
    by_cases hfree : event ∈ s.locked
    · rw [step_locked hp ht.tx hfree] at hstep
      cases hstep
    · rw [step_ask hp (answer_lock ht.tx hfree)] at hstep
      cases hstep
      have hreach : ∀ x ∈ known, s.Has (event, x.2) := fun x hx => hknown x hx ▸ ht.has x hx
      exact ⟨.onward _ (h _ hreach _ fun e hget => he event e hget) (Outside.lock ht hp hknown) rfl,
        .lock hfree (by rw [ht.tx]) rfl⟩
  | fresh h =>
    rw [step_ask hp rfl] at hstep
    cases hstep
    exact ⟨.onward _ (h _) (Inside.fresh ht hp (hnew _ (drawn_skip k))) rfl, .none rfl⟩
  | call hc h =>
    obtain ⟨reply, tx, ha, hanswers, hin⟩ := Inside.call ht hp hc hk
    rw [step_ask hp ha, commits_of_about hc] at hstep
    cases hstep
    exact ⟨.onward _ (h reply hanswers) hin rfl, .none (hin.about.held.trans ht.about.held.symm)⟩
  | finish hc h =>
    obtain ⟨reply, ha, hturn⟩ := Inside.finish ht hp hc
    rw [step_ask hp ha] at hstep
    cases hstep
    exact ⟨.landed (h reply) rfl hturn, .finish ht.about ht.covers rfl⟩

/-- A command that is not done makes its next call, unless it waits for a lock and holds none itself. -/
theorem step_or_wait (hr : Ruled mode k.program) (ht : Tracks s k₀ k mode) (hk : s.Keyed) :
    k.result.isSome ∨ (k.step s).isSome ∨ k.tx.held = [] ∧ s.locked ≠ [] := by
  generalize hp : k.program = p at hr
  cases hr with
  | done => exact .inl (by rw [result, hp]; rfl)
  | now | count | begin | lookup | fresh => exact .inr (.inl (by rw [step_ask hp rfl]; rfl))
  | @lock known event next hknown h =>
    by_cases hfree : event ∈ s.locked
    · exact .inr (.inr ⟨by rw [ht.tx], List.ne_nil_of_mem hfree⟩)
    · exact .inr (.inl (by rw [step_ask hp (answer_lock ht.tx hfree)]; rfl))
  | call hc h =>
    obtain ⟨reply, tx, ha, -, -⟩ := Inside.call ht hp hc hk
    exact .inr (.inl (by rw [step_ask hp ha]; rfl))
  | finish hc h =>
    obtain ⟨reply, ha, -⟩ := Inside.finish ht hp hc
    exact .inr (.inl (by rw [step_ask hp ha]; rfl))

/-! What a call of one command leaves to the others. -/

namespace Effect

theorem keyed (h : Effect s k k' s') (hk : s.Keyed) : s'.Keyed := by
  cases h with
  | none | lock => exact hk
  | finish htx => exact Store.finish_keyed htx hk

theorem events_keyed (h : Effect s k k' s') (hk : s.events.KeyedBy ScheduledEvent.id) :
    s'.events.KeyedBy ScheduledEvent.id := by
  cases h with
  | none | lock => exact hk
  | finish => exact Store.finish_events_keyed hk

theorem isSome {id : RegistrationId} (h : Effect s k k' s') (hid : (s'.registrations.get? id).isSome) :
    (s.registrations.get? id).isSome ∨ id ∈ k.drawn := by
  cases h with
  | none | lock => exact .inl hid
  | finish htx hcov => exact Store.isSome_finish htx hcov hid

/-- The lists `before` and `after` are the locks of the other commands. -/
theorem locks (h : Effect s k k' s') {before after : List EventId}
    (hp : (before ++ k.tx.held ++ after).Perm s.locked) (hn : s.locked.Nodup) :
    (before ++ k'.tx.held ++ after).Perm s'.locked ∧ s'.locked.Nodup := by
  cases h with
  | none h => exact ⟨h ▸ hp, hn⟩
  | @lock event hfree hk hk' =>
    rw [hk, List.append_nil] at hp
    rw [hk', List.append_assoc]
    exact ⟨List.perm_middle.trans (hp.cons event), List.nodup_cons.mpr ⟨hfree, hn⟩⟩
  | @finish op event reach htx hcov hk' =>
    have hlocked : (s.finish op k.tx).locked = s.locked.filter (· ∉ [event]) := by
      rw [Store.finish, ← htx.held]
      split <;> rfl
    rw [htx.held, List.append_assoc] at hp
    have hp' : (event :: (before ++ after)).Perm s.locked := List.perm_middle.symm.trans hp
    have hnotin : event ∉ before ++ after := (List.nodup_cons.mp (hp'.nodup_iff.mpr hn)).1
    have hothers : (event :: (before ++ after)).filter (· ∉ [event]) = before ++ after := by
      rw [List.filter_cons_of_neg (by simp), List.filter_eq_self]
      exact fun other hother => by simpa using fun heq : other = event => hnotin (heq ▸ hother)
    rw [hlocked, hk', List.append_nil, ← hothers]
    exact ⟨hp'.filter _, hn.filter _⟩

private theorem has (h : Effect s k k' s') {x : EventId × RegistrationId} (hx : s.Has x) : s'.Has x := by
  cases h with
  | none | lock => exact hx
  | finish htx hcov => exact hx.finish htx hcov

private theorem agrees (h : Effect s k k' s') {event : EventId} {reach : RegistrationId → Prop}
    (hheld : event ∉ k.tx.held) (hcov : s.Covers event reach (· ∈ l.drawn))
    (hdrawn : ∀ id ∈ l.drawn, id ∉ k.drawn) : s.Agrees event reach s' := by
  cases h with
  | none => exact .refl s
  | lock => exact ⟨rfl, rfl, rfl, rfl, fun _ _ => rfl⟩
  | @finish op event' reach' htx hcov' =>
    have hne : event ≠ event' := by simpa [htx.held] using hheld
    refine Store.finish_agrees htx hcov' hne fun id hid hid' => ?_
    rcases hcov.reached id hid with ⟨r, hr, hev⟩ | ⟨hnone, hdrew⟩ <;>
      rcases hcov'.reached id hid' with ⟨r', hr', hev'⟩ | ⟨hnone', hdrew'⟩
    · exact hne (by rw [← hev, ← hev', Option.some.inj (hr.symm.trans hr')])
    · exact nomatch hr.symm.trans hnone'
    · exact nomatch hr'.symm.trans hnone
    · exact hdrawn id hdrew hdrew'

/-- A command keeps its track while another one makes a call. -/
theorem tracks (h : Effect s k k' s') (ht : Tracks s l₀ l mode) (hk : s.Keyed)
    (hheld : ∀ event ∈ l.tx.held, event ∉ k.tx.held) (hdrawn : ∀ id ∈ l.drawn, id ∉ k.drawn) :
    Tracks s' l₀ l mode := by
  cases mode with
  | free known | begun known => exact ⟨ht.tx, fun x hx => h.has (ht.has x hx), ht.turn⟩
  | inside event reach =>
    have hagrees := h.agrees (hheld event (by simp [ht.about.held])) ht.covers hdrawn
    exact ⟨ht.about, hagrees.covers hk (h.keyed hk) ht.covers, fun t hl ha => ht.turn t hl (hagrees.trans ha)⟩

end Effect

end Caller
end Turnstile
