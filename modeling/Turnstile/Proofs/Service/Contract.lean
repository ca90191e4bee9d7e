import Turnstile.Proofs.Registration.Event
import Turnstile.Proofs.Service.Run
import Turnstile.Proofs.Service.Trial

/-!
What a call of the service promises, whichever attempts fail: a call that was refused dispatched nothing, and one
that got through dispatched each recorded event once.
-/

namespace Turnstile
open scoped List

/-- What it takes to route one event: its inline handler, else the queue, else the handler meant for the queue. -/
inductive Dispatcher.Routed {η : Type} (d : Dispatcher η) (e : QueuedEvent) : List (Contact η) → Prop where
  | inline {h : η} (hh : d.inline.get? e.type = some h) (reply : Except HandlerError Unit) :
    Routed d e [.handled h e reply]
  | queued (hn : d.inline.get? e.type = none) : Routed d e [.enqueued e (.ok ())]
  | fallback {h : η} (hn : d.inline.get? e.type = none) (cause : DispatchError)
    (hh : d.queued.get? e.type = some h) (reply : Except HandlerError Unit) :
    Routed d e [.enqueued e (.error cause), .handled h e reply]
  | dropped (hn : d.inline.get? e.type = none) (cause : DispatchError) (hd : d.queued.get? e.type = none) :
    Routed d e [.enqueued e (.error cause)]

namespace Trial
variable {η α : Type} {t t' : Trial η} {d : Dispatcher η} {log : List RegistrationEvent}

/-- The answers that the dispatcher gets. -/
private def dispatching (c : DispatchCall η) (s : Trial η × List RegistrationEvent) :
    Option c.Reply × Trial η × List RegistrationEvent :=
  Program.watch answer changes (.dispatch c) s

private theorem dispatching_eq (c : DispatchCall η) (t : Trial η) (log : List RegistrationEvent) :
    dispatching c (t, log) = ((t.answerDispatch c).1, (t.answerDispatch c).2, log) := by
  have hstore : (t.answerDispatch c).2.session.store = t.session.store := by cases c <;> rfl
  have hlog : changes t (t.answerDispatch c).2 = [] := by
    rw [changes, hstore]
    exact RegistrationEvent.changes_self _
  exact Prod.ext rfl (Prod.ext rfl ((congrArg (log ++ ·) hlog).trans (List.append_nil log)))

private theorem run_ask {c : DispatchCall η} {r : c.Reply} (h : t.answerDispatch c = (some r, t'))
    (f : c.Reply → Dispatch η α) :
    (Dispatcher.ask c >>= f).run dispatching (t, log) = (f r).run dispatching (t', log) := by
  refine Program.run_call_bind ?_ f
  rw [dispatching_eq, h]

private theorem run_route (d : Dispatcher η) (e : QueuedEvent) (t : Trial η) (log : List RegistrationEvent) :
    ∃ result t' block, (d.route e).run dispatching (t, log) = (some result, t', log) ∧ d.Routed e block ∧
      t'.contacts = t.contacts ++ block := by
  unfold Dispatcher.route
  cases hin : d.inline.get? e.type with
  | some h =>
    simp only [run_ask (c := .count (.dispatched .inline)) rfl, run_ask (c := .handle h e) rfl]
    exact ⟨_, _, _, rfl, .inline hin _, rfl⟩
  | none =>
    simp only [run_ask (c := .enqueue e) rfl]
    cases hq : t.queue.next with
    | ok u =>
      simp only [run_ask (c := .count (.dispatched .queued)) rfl]
      exact ⟨_, _, _, rfl, .queued hin, rfl⟩
    | error cause =>
      simp only [run_ask (c := .count .enqueueFallbacks) rfl]
      cases hh : d.queued.get? e.type with
      | none => exact ⟨_, _, _, rfl, .dropped hin cause hh, rfl⟩
      | some h =>
        simp only [run_ask (c := .count (.dispatched .fallback)) rfl, run_ask (c := .handle h e) rfl]
        exact ⟨_, _, _, rfl, .fallback hin cause hh _, (List.append_assoc _ [_] [_])⟩

private theorem run_dispatchEvents (d : Dispatcher η) (events : List RegistrationEvent) (t : Trial η)
    (log : List RegistrationEvent) :
    ∃ results t' blocks, ((events.map RegistrationEvent.record).mapM d.dispatchEvent).run dispatching (t, log) =
        (some results, t', log) ∧
      List.Forall₂ (fun e block => ∃ id, d.Routed (e.queued id) block) events blocks ∧
      t'.contacts = t.contacts ++ blocks.flatten := by
  induction events generalizing t with
  | nil => exact ⟨[], t, [], rfl, .nil, by simp⟩
  | cons e events ih =>
    obtain ⟨result, t₁, block, hroute, hrouted, hcontacts⟩ :=
      run_route d (e.queued ⟨t.session.ids.next⟩) { t with session := t.session.drawing 1 } log
    obtain ⟨results, t', blocks, hrun, hblocks, hcontacts'⟩ := ih t₁
    have hfirst : (d.dispatchEvent e.record).run dispatching (t, log) = (some result, t₁, log) := by
      rw [Dispatcher.dispatchEvent, run_ask (c := .freshId) rfl]
      exact hroute
    refine ⟨result :: results, t', block :: blocks, ?_, .cons ⟨_, hrouted⟩ hblocks, ?_⟩
    · rw [List.map_cons, List.mapM_cons]
      refine (Program.run_bind dispatching _ _ _).trans ?_
      rw [hfirst]
      refine (Program.run_bind dispatching _ _ _).trans ?_
      rw [hrun]
      rfl
    · rw [hcontacts', hcontacts, List.flatten_cons, List.append_assoc]

/-- Every pending event of the sources is routed once, whatever comes of it. -/
private theorem run_dispatched (d : Dispatcher η) (sources : List Tracked) (t : Trial η) (log : List RegistrationEvent) :
    ∃ reply t' blocks,
      (Service.dispatched (d.dispatch sources)).run.run (Program.watch answer changes) (t, log) =
        (some reply, t', log) ∧ (∀ cause, reply ≠ .error (.allocation cause)) ∧
      List.Forall₂ (fun e block => ∃ id, d.Routed (e.queued id) block) (sources.flatMap Tracked.pending) blocks ∧
      t'.contacts = t.contacts ++ blocks.flatten := by
  obtain ⟨results, t', blocks, hrun, hblocks, hcontacts⟩ := run_dispatchEvents d (sources.flatMap Tracked.pending) t log
  have hdispatch : (d.dispatch sources).run dispatching (t, log) =
      (some (sources.map EventSource.clear, Dispatched.report results), t', log) := by
    rw [Service.dispatch_eq]
    refine (Program.run_bind dispatching _ _ _).trans ?_
    rw [hrun]
    rfl
  refine ⟨((Dispatched.report results).mapError ServiceError.dispatch).map fun _ => sources.map EventSource.clear, t',
    blocks, ?_, ?_, hblocks, hcontacts⟩
  · rw [Service.run_dispatched, show (fun c => Program.watch answer changes (.dispatch c)) = dispatching from rfl,
      hdispatch]
    rfl
  · cases Dispatched.report results <;> rintro cause ⟨⟩

end Trial

namespace Service
variable {η : Type} {t : Trial η}

/-- Whichever commits, queue operations and handlers fail: a call that was refused dispatched nothing, and one that
got through routed every event of a committed change once. A refused call left the store as it was, unless it runs
in several transactions and the commit of an earlier one succeeded. -/
theorem command_contract (d : Dispatcher η) (c : Command) (hi : t.session.Idle) (hl : t.session.store.Lawful)
    (hid : t.session.store.registrations.get? ⟨t.session.ids.next⟩ = none) :
    ∃ reply t' recorded, (command d c).run.run (Program.watch Trial.answer Trial.changes) (t, []) =
        (some reply, t', recorded) ∧
      match reply with
      | .error (.allocation _) => t'.contacts = t.contacts ∧
          (c.Single ∨ (∀ n, t.commits.drawn ≤ n → n < t'.commits.drawn → t.commits.item n ≠ none) →
            t'.session.store = t.session.store)
      | .ok _ | .error (.dispatch _) => ∃ events blocks, events ~ recorded ∧
          List.Forall₂ (fun e block => ∃ id, d.Routed (e.queued id) block) events blocks ∧
          t'.contacts = t.contacts ++ blocks.flatten := by
  obtain ⟨reply, t₁, recorded, n, hrun, hend, hreply⟩ := Trial.run_command c hi hl (fun _ => hid) []
  have hwatch : (fun c => Program.watch Trial.answer Trial.changes (.allocate c : ServiceCall η)) =
      Program.watch Trial.answerAllocator Trial.changes := rfl
  have hcontacts : t₁.contacts = t.contacts := by rw [hend.allocated.trial]
  rw [run_command, hwatch, hrun]
  cases reply with
  | error e =>
    have hdrawn : t₁.commits.drawn = t.commits.drawn + n := by rw [hend.allocated.trial]; rfl
    refine ⟨_, t₁, recorded, rfl, hcontacts, ?_⟩
    rintro (hc | href)
    · exact hreply.1 hc
    · rw [hdrawn] at href
      exact (hend.refused href).1
  | ok a =>
    have htold : recorded ~ a.events := hreply
    dsimp only
    by_cases hnoop : a.isNoop = true
    · rw [Allocation.events_of_noop hnoop] at htold
      rw [if_pos hnoop]
      exact ⟨.ok a.changed, t₁, recorded, rfl, [], [], htold.symm, .nil, by simp [hcontacts]⟩
    · rw [if_neg hnoop]
      obtain ⟨reply, t', blocks, hrun', hreply, hblocks, hcontacts'⟩ := Trial.run_dispatched d a.changed t₁ recorded
      rw [hcontacts] at hcontacts'
      refine ⟨reply, t', recorded, hrun', ?_⟩
      rcases reply with (cause | cause) | changed
      · exact absurd rfl (hreply cause)
      · exact ⟨_, blocks, htold.symm, hblocks, hcontacts'⟩
      · exact ⟨_, blocks, htold.symm, hblocks, hcontacts'⟩

/-- One has the only seat and two wait for it, when the capacity is raised; commits fail from the given number on. -/
def seatsForAll (failing : Nat) : Trial Unit where
  session := .oneSeatTwoWaiting
  commits := { item := fun n => if n < failing then none else some .database }

theorem command_contract_seatsForAll :
    let t := seatsForAll 3
    let c := Command.increaseCapacity ScheduledEvent.oneSeat.id 3
    let d : Dispatcher Unit := ⟨.empty, .empty⟩
    ∃ reply t' recorded, (command d c).run.run (Program.watch Trial.answer Trial.changes) (t, []) =
        (some reply, t', recorded) ∧
      match reply with
      | .error (.allocation _) => t'.contacts = t.contacts ∧
          (c.Single ∨ (∀ n, t.commits.drawn ≤ n → n < t'.commits.drawn → t.commits.item n ≠ none) →
            t'.session.store = t.session.store)
      | .ok _ | .error (.dispatch _) => ∃ events blocks, events ~ recorded ∧
          List.Forall₂ (fun e block => ∃ id, d.Routed (e.queued id) block) events blocks ∧
          t'.contacts = t.contacts ++ blocks.flatten :=
  command_contract ⟨.empty, .empty⟩ (.increaseCapacity ScheduledEvent.oneSeat.id 3)
    Session.oneSeatTwoWaiting_consistent.idle Session.oneSeatTwoWaiting_consistent.lawful (by decide +kernel)

/-- The third commit fails: the raise and one promotion stay, and nobody hears of them. -/
theorem increaseCapacity_refused_after_commits :
    let t := seatsForAll 2
    let (reply, t', recorded) := (command ⟨.empty, .empty⟩ (.increaseCapacity ScheduledEvent.oneSeat.id 3)).run.run
      (Program.watch Trial.answer Trial.changes) (t, [])
    reply = some (.error (.allocation (.store .database))) ∧
      (t.session.store.events.get? ScheduledEvent.oneSeat.id).map ScheduledEvent.capacity = some 1 ∧
      (t'.session.store.events.get? ScheduledEvent.oneSeat.id).map ScheduledEvent.capacity = some 3 ∧
      recorded.map RegistrationEvent.typeName = ["RegistrationPromoted", "WaitlistPositionChanged"] ∧
      t'.session.store.outbox.length = t.session.store.outbox.length + 1 ∧ t'.contacts = [] := by
  cbv
  exact ⟨rfl, trivial⟩

end Service
end Turnstile
