import Turnstile.Proofs.Allocation.NoOvertaking
import Turnstile.Proofs.Metrics.Batches
import Turnstile.Proofs.Outbox.Log
import Mathlib.Algebra.BigOperators.Group.Finset.Basic
import Mathlib.Data.Fintype.Basic

/-!
Whatever allocation commands and outbox workers do, in any order, the counters agree with the rows whenever no
batch is in the middle of its work.
-/

namespace Turnstile

namespace Session
variable {s s' s'' : Session} {events events' : List RegistrationEvent} {op : OutboxCall} {c : Counter}

/-- What the call of an outbox worker does to a store and to the counters. -/
def attend (s : Session) (op : OutboxCall) : Session :=
  { s with
    store := s.store.deliver op
    metrics := match op with
      | .count c n => s.metrics.add c n
      | _ => s.metrics }

theorem value_attend (s : Session) (op : OutboxCall) (c : Counter) :
    (s.attend op).metrics.value c = s.metrics.value c + op.adds c := by
  cases op with
  | count c' n => exact Metrics.value_add _ _ _ _
  | _ => rfl

theorem Consistent.attend (h : s.Consistent) (op : OutboxCall) : (s.attend op).Consistent := by
  have hd := h.deliver op
  exact ⟨⟨hd.idle.tx, hd.idle.locked⟩, hd.lawful, hd.drawn⟩

theorem cancelled_attend (s : Session) (op : OutboxCall) : (s.attend op).store.cancelled = s.store.cancelled := by
  obtain ⟨outbox, hstore, -⟩ := s.store.deliver_eq op
  show (s.store.deliver op).cancelled = s.store.cancelled
  rw [hstore]
  rfl

theorem Reports.trans (h : s.Reports s' events) (h' : s'.Reports s'' events') : s.Reports s'' (events ++ events') := by
  obtain ⟨⟨rows, hrows, hann⟩, hmetrics, hcancelled⟩ := h
  obtain ⟨⟨rows', hrows', hann'⟩, hmetrics', hcancelled'⟩ := h'
  refine ⟨⟨rows ++ rows', by rw [hrows', hrows, List.append_assoc], List.rel_append hann hann'⟩, fun c => ?_, ?_⟩
  · rw [hmetrics', hmetrics, List.filterMap_append, List.count_append, Nat.add_assoc]
  · rw [hcancelled', hcancelled, List.filterMap_append, List.count_append, Nat.add_assoc]

/-- The counters of events grow with the rows that announce them. -/
theorem Reports.countP_marks (h : s.Reports s' events) (c : Counter) :
    s'.store.outbox.countP c.marks = s.store.outbox.countP c.marks + (events.filterMap Counter.ofEvent?).count c := by
  obtain ⟨rows, hrows, hann⟩ := h.outbox
  rw [hrows, List.countP_append, Counter.countP_marks hann]

private theorem reports_afterAll (hs : s.Consistent) (ts : List Transaction)
    (hd : (ts.foldl (fun s t => t.run s) s).ids.Distinct) :
    ∃ events, s.Reports (ts.foldl (fun s t => t.run s) s) events := by
  induction ts generalizing s with
  | nil => exact ⟨[], .refl s⟩
  | cons t ts ih =>
    obtain ⟨n, hn⟩ := afterAll_ids ts (t.run s)
    have hd' : (t.run s).ids.Distinct := by
      rw [List.foldl_cons, hn] at hd
      exact hd.of_skip
    obtain ⟨first, hfirst⟩ := t.run_reports hs hd'
    obtain ⟨rest, hrest⟩ := ih (hs.run t hd').1 hd
    exact ⟨first ++ rest, hfirst.trans hrest⟩

theorem serve_reports (hs : s.Consistent) (r : Request) (hd : (s.serve r).ids.Distinct) :
    (s.serve r).Consistent ∧ ∃ events, s.Reports (s.serve r) events := by
  have hface := hs.facing ⟨.promote default, r.clock, r.failing⟩
  obtain ⟨ts, hts⟩ := Allocate.composed_command r.command
    { s with store := { s.store with failOnCommit := r.failing }, clock := r.clock }
  have hserve : s.serve r = ts.foldl (fun s t => t.run s)
    (s.facing ⟨.promote default, r.clock, r.failing⟩) := hts
  rw [hserve] at hd ⊢
  obtain ⟨events, hreports⟩ := reports_afterAll hface ts hd
  exact ⟨(hface.afterAll ts hd).1, events, hreports.outbox, hreports.metrics, hreports.cancelled⟩

/-- Every counter of events and of published rows agrees with the rows, and that of cancellations with the
registrations too. -/
structure Audited (s : Session) : Prop where
  confirmed : s.metrics.value (.registrations .confirmed) =
    s.store.outbox.countP fun m => m.messageType = "RegistrationConfirmed"
  waitlisted : s.metrics.value (.registrations .waitlisted) =
    s.store.outbox.countP fun m => m.messageType = "RegistrationWaitlisted"
  promotions : s.metrics.value .promotions = s.store.outbox.countP fun m => m.messageType = "RegistrationPromoted"
  cancellations : s.metrics.value .cancellations =
    s.store.outbox.countP fun m => m.messageType = "RegistrationCancelled"
  cancelled : s.metrics.value .cancellations = s.store.registrations.values.countP fun r => r.status = .cancelled
  published : s.metrics.value .published = s.store.outbox.countP fun m => m.status = .processed
  failed : s.metrics.value .publishFailed = s.store.outbox.countP fun m => m.status = .failed

end Session

/-- Allocation commands and outbox workers over one store, with one set of counters. -/
structure Office (ι : Type) where
  settings : ι → OutboxSettings
  session : Session
  batches : ι → Batch := fun _ => .idle

/-- What can happen next. A command runs to its end, a worker makes one call at any time. -/
inductive Affair (ι : Type) where
  | request (r : Request)
  | transaction (a : Attempt)
  | proceed (worker : ι)
  | call (worker : ι) (topic : Nat) (now : Instant) (bus : Except BusError Unit)

namespace Office
variable {ι : Type} {o : Office ι}

/-- Nobody has counted anything yet, and there are events and registrants only. -/
def opened (settings : ι → OutboxSettings) (events : List ScheduledEvent) (registrants : List Registrant)
    (ids : Nat → Uuid) : Office ι where
  settings := settings
  session := .start events registrants ids

section
variable [Fintype ι]

/-- What is counted, and what the workers are about to count, makes up the rows. -/
structure Balanced (o : Office ι) : Prop where
  consistent : o.session.Consistent
  cancelled : o.session.store.cancelled = o.session.store.outbox.countP Counter.cancellations.marks
  pays : ∀ c, c ≠ .claimed → c ≠ .claimConflicts → ∀ i, (o.batches i).Pays c
  counted : ∀ c, c ≠ .claimed → c ≠ .claimConflicts →
    o.session.metrics.value c + ∑ i, (o.batches i).due c = o.session.store.outbox.countP c.marks

theorem balanced_opened (settings : ι → OutboxSettings) (events : List ScheduledEvent) (registrants : List Registrant)
    (ids : Nat → Uuid) : (opened settings events registrants ids).Balanced where
  consistent := Session.consistent_start events registrants ids
  cancelled := by
    simp only [opened, Session.start, Store.cancelled, Store.prepared_registrations, Store.prepared_outbox]
    rfl
  pays := fun c _ _ i => nofun
  counted := by
    intro c _ _
    simp [opened, Session.start, Store.prepared_outbox, Batch.idle, Batch.due, Metrics.value]

/-- What a command announces it counts. -/
theorem Balanced.reports (h : o.Balanced) {s : Session} {events : List RegistrationEvent}
    (hs : s.Consistent) (hr : o.session.Reports s events) : Balanced { o with session := s } where
  consistent := hs
  cancelled := by rw [hr.cancelled, hr.countP_marks, h.cancelled]
  pays := h.pays
  counted := by
    intro c hc hm
    have hold := h.counted c hc hm
    have hvalue := hr.metrics c
    have hrows := hr.countP_marks c
    dsimp only
    omega

theorem Balanced.audited (h : o.Balanced) (hrest : ∀ i, (o.batches i).resting = true) : o.session.Audited := by
  have hcount (c : Counter) (hc : c ≠ .claimed) (hm : c ≠ .claimConflicts) :
      o.session.metrics.value c = o.session.store.outbox.countP c.marks := by
    have hzero : ∑ i, (o.batches i).due c = 0 := Finset.sum_eq_zero fun i _ => Batch.due_of_resting (hrest i)
    have hall := h.counted c hc hm
    rwa [hzero, Nat.add_zero] at hall
  have hcancellations := hcount .cancellations nofun nofun
  exact ⟨hcount (.registrations .confirmed) nofun nofun, hcount (.registrations .waitlisted) nofun nofun,
    hcount .promotions nofun nofun, hcancellations, hcancellations.trans h.cancelled.symm,
    hcount .published nofun nofun, hcount .publishFailed nofun nofun⟩

end

section
variable [DecidableEq ι]

def step (o : Office ι) : Affair ι → Office ι
  | .request r => { o with session := o.session.serve r }
  | .transaction a => { o with session := a.transaction.run (o.session.facing a) }
  | .proceed i => { o with batches := Function.update o.batches i ((o.batches i).proceed (o.settings i)) }
  | .call i k now bus =>
    match (o.batches i).next? k with
    | some ⟨op, next⟩ =>
      { o with
        session := o.session.attend op
        batches := Function.update o.batches i (next (o.session.store.reply now bus op)) }
    | none => o

def run (o : Office ι) (affairs : List (Affair ι)) : Office ι := affairs.foldl step o

private theorem step_ids (o : Office ι) (a : Affair ι) : ∃ n, (o.step a).session.ids = o.session.ids.skip n := by
  cases a with
  | request r => exact Allocate.on_ids (Allocate.command r.command) _
  | transaction a => exact a.transaction.run_ids (o.session.facing a)
  | proceed i => exact ⟨0, rfl⟩
  | call i k now bus =>
    rw [step]
    split
    · exact ⟨0, rfl⟩
    · exact ⟨0, rfl⟩

private theorem run_item (o : Office ι) (affairs : List (Affair ι)) :
    (o.run affairs).session.ids.item = o.session.ids.item := by
  induction affairs generalizing o with
  | nil => rfl
  | cons a affairs ih =>
    obtain ⟨n, hn⟩ := o.step_ids a
    rw [Office.run, List.foldl_cons, ← Office.run, ih, hn]
    rfl

end

section
variable [DecidableEq ι] [Fintype ι]

private theorem sum_due_update (batches : ι → Batch) (i : ι) (b : Batch) :
    ∑ j, (Function.update batches i b j).due c + (batches i).due c = ∑ j, (batches j).due c + b.due c := by
  have hrest : ∑ j ∈ Finset.univ.erase i, (Function.update batches i b j).due c =
      ∑ j ∈ Finset.univ.erase i, (batches j).due c := by
    refine Finset.sum_congr rfl fun j hj => ?_
    rw [Function.update_of_ne (Finset.ne_of_mem_erase hj)]
  have hnew := Finset.add_sum_erase Finset.univ (fun j => (Function.update batches i b j).due c) (Finset.mem_univ i)
  have hold := Finset.add_sum_erase Finset.univ (fun j => (batches j).due c) (Finset.mem_univ i)
  simp only [Function.update_self] at hnew
  omega

/-- What a call earns the worker is about to count. -/
theorem Balanced.call (h : o.Balanced) {i : ι} {k : Nat} {op : OutboxCall} {next : op.Reply → Batch}
    (hn : (o.batches i).next? k = some ⟨op, next⟩) (now : Instant) (bus : Except BusError Unit) :
    Balanced { o with
      session := o.session.attend op
      batches := Function.update o.batches i (next (o.session.store.reply now bus op)) } where
  consistent := h.consistent.attend op
  cancelled := by
    have hrows := o.session.store.countP_deliver op now bus .cancellations
    rw [OutboxCall.earns_of_ne (c := .cancellations) nofun nofun, Nat.add_zero] at hrows
    exact ((o.session.cancelled_attend op).trans h.cancelled).trans hrows.symm
  pays c hc hm := (Function.forall_update_iff _ fun _ (b : Batch) => b.Pays c).mpr
    ⟨((h.pays c hc hm i).next hn _).2, fun j _ => h.pays c hc hm j⟩
  counted := by
    intro c hc hm
    have hnext := ((h.pays c hc hm i).next hn (o.session.store.reply now bus op)).1
    have hsum := sum_due_update (c := c) o.batches i (next (o.session.store.reply now bus op))
    have hrows := o.session.store.countP_deliver op now bus c
    have hvalue := o.session.value_attend op c
    have hold := h.counted c hc hm
    show _ = (o.session.store.deliver op).outbox.countP c.marks
    dsimp only
    omega

theorem Balanced.step (h : o.Balanced) (a : Affair ι) (hd : (o.step a).session.ids.Distinct) :
    (o.step a).Balanced := by
  cases a with
  | request r =>
    obtain ⟨hs, events, hr⟩ := Session.serve_reports h.consistent r hd
    exact h.reports hs hr
  | transaction a =>
    have hface := h.consistent.facing a
    obtain ⟨events, hr⟩ := a.transaction.run_reports hface hd
    exact h.reports (hface.run a.transaction hd).1 ⟨hr.outbox, hr.metrics, hr.cancelled⟩
  | proceed i =>
    refine ⟨h.consistent, h.cancelled, fun c hc hm => ?_, fun c hc hm => ?_⟩
    · have hpays := ((h.pays c hc hm i).proceed hc hm (o.settings i)).2
      exact (Function.forall_update_iff _ fun _ (b : Batch) => b.Pays c).mpr ⟨hpays, fun j _ => h.pays c hc hm j⟩
    · have hdue := ((h.pays c hc hm i).proceed hc hm (o.settings i)).1
      have hsum := sum_due_update (c := c) o.batches i ((o.batches i).proceed (o.settings i))
      have hold := h.counted c hc hm
      simp only [Office.step]
      omega
  | call i k now bus =>
    rw [Office.step]
    split
    · next op next hn => exact h.call hn now bus
    · exact h

theorem Balanced.run (h : o.Balanced) (affairs : List (Affair ι)) (hd : (o.run affairs).session.ids.Distinct) :
    (o.run affairs).Balanced := by
  induction affairs using List.reverseRecOn with
  | nil => exact h
  | append_singleton affairs a ih =>
    obtain ⟨n, hn⟩ := (o.run affairs).step_ids a
    have hrun : o.run (affairs ++ [a]) = (o.run affairs).step a := List.foldl_append
    rw [hrun] at hd ⊢
    have hd' : (o.run affairs).session.ids.Distinct := by
      rw [hn] at hd
      exact hd.of_skip
    exact (ih hd').step a hd

/-- From zero counters and a store without registrations on, whenever no batch is in the middle of its work, the
counters agree with the rows. -/
theorem metrics_agree (settings : ι → OutboxSettings) (events : List ScheduledEvent) (registrants : List Registrant)
    (ids : Nat → Uuid) (affairs : List (Affair ι))
    (hd : ((opened settings events registrants ids).run affairs).session.ids.Distinct)
    (hrest : ∀ i, (((opened settings events registrants ids).run affairs).batches i).resting = true) :
    ((opened settings events registrants ids).run affairs).session.Audited :=
  ((balanced_opened settings events registrants ids).run affairs hd).audited hrest

/-- Two want the one seat, a worker publishes the row of the first and fails with that of the second; then the first
cancels, at the second try. -/
theorem metrics_agree_oneSeat :
    let batch (bus : Except BusError Unit) : List (Affair Unit) :=
      .proceed () :: List.replicate 4 (.call () 0 default (.ok ())) ++
        .proceed () :: List.replicate 4 (.call () 0 default bus)
    let o := (opened (fun _ => { maxAttempts := 1 }) [.oneSeat] [⟨⟨⟨0, 2⟩⟩, "a"⟩, ⟨⟨⟨0, 3⟩⟩, "b"⟩]
      (IdSupply.counting 1 1).item).run
        (.request ⟨.register ScheduledEvent.oneSeat.id ⟨⟨0, 2⟩⟩, .constant default, false⟩ :: batch (.ok ()) ++
          .request ⟨.register ScheduledEvent.oneSeat.id ⟨⟨0, 3⟩⟩, .constant default, false⟩ ::
          batch (.error (.unavailable "down")) ++
          [.request ⟨.cancel ⟨IdSupply.number 1⟩, .constant default, true⟩,
            .request ⟨.cancel ⟨IdSupply.number 1⟩, .constant default, false⟩])
    (o.batches ()).resting = true ∧ o.session.Audited := by
  intro batch o
  have hrest : (o.batches ()).resting = true := by decide +kernel
  refine ⟨hrest, metrics_agree _ _ _ _ _ (IdSupply.distinct_of_counting ?_ (by decide +kernel)) fun _ => hrest⟩
  rw [run_item]
  rfl

end

end Office
end Turnstile
