import Turnstile.Proofs.Allocation.Invariant

/-!
What allocation commands count: one for every event that is announced, by its type, once its rows are committed.
-/

namespace Turnstile

namespace Metrics
variable {m : Metrics} {c c' : Counter}

theorem value_add (m : Metrics) (c c' : Counter) (n : Nat) :
    (m.add c n).value c' = m.value c' + if c' = c then n else 0 := by
  rw [value, add, Table.get?_insert]
  by_cases h : c' = c
  · simp [h]
  · simp [h, value]

theorem value_foldl (counted : List Counter) (m : Metrics) (c : Counter) :
    (counted.foldl (fun m c => m.add c 1) m).value c = m.value c + counted.count c := by
  induction counted generalizing m with
  | nil => rfl
  | cons c' counted ih =>
    rw [List.foldl_cons, ih, value_add, List.count_cons, Nat.add_assoc, Nat.add_comm (List.count c counted)]
    simp only [beq_iff_eq, @eq_comm _ c' c]

end Metrics

namespace Counter

/-- What is counted of an event that is announced. -/
def ofEvent? : RegistrationEvent → Option Counter
  | .confirmed .. => some (.registrations .confirmed)
  | .waitlisted .. => some (.registrations .waitlisted)
  | .promoted .. => some .promotions
  | .cancelled .. => some .cancellations
  | .positionChanged .. => none

/-- The outbox rows that a counter counts. Of the rest it counts no row. -/
def marks : Counter → OutboxMessage → Bool
  | .registrations .confirmed, m => m.messageType = "RegistrationConfirmed"
  | .registrations .waitlisted, m => m.messageType = "RegistrationWaitlisted"
  | .promotions, m => m.messageType = "RegistrationPromoted"
  | .cancellations, m => m.messageType = "RegistrationCancelled"
  | .published, m => m.status = .processed
  | .publishFailed, m => m.status = .failed
  | _, _ => false

theorem marks_announces {m : OutboxMessage} {e : RegistrationEvent} (h : m.Announces e) (c : Counter) :
    c.marks m = decide (ofEvent? e = some c) := by
  rcases c with status | _ | _ | _ | _ | _ | _ | _ | _ | _ | _ | _
  · cases status <;> cases e <;> simp [marks, ofEvent?, h.messageType, RegistrationEvent.typeName]
  all_goals cases e <;> simp [marks, ofEvent?, h.messageType, h.status, RegistrationEvent.typeName]

/-- New rows are counted as their events are. -/
theorem countP_marks {rows : List OutboxMessage} {events : List RegistrationEvent}
    (h : List.Forall₂ OutboxMessage.Announces rows events) (c : Counter) :
    rows.countP c.marks = (events.filterMap ofEvent?).count c := by
  induction h with
  | nil => rfl
  | @cons m e rows events hm _ ih =>
    rw [List.countP_cons, ih, marks_announces hm, List.filterMap_cons]
    cases ofEvent? e with
    | none => simp
    | some c' => simp [List.count_cons]

end Counter

namespace Decision
variable {α : Type} {s : Store}

/-- What is counted is what is announced. -/
def Counted : Decision α → Prop
  | write _ rows counted _ => counted = (announced rows).filterMap Counter.ofEvent?
  | _ => True

theorem counted_register (event : EventId) (registrant : RegistrantId) (now : Instant) (id : RegistrationId) :
    (register s event registrant now id).Counted := by
  unfold register enter
  repeat' split
  all_goals trivial

private theorem counted_seat (r : Registration) (now : Instant) : (seat s r now).Counted :=
  (congrArg (List.filterMap Counter.ofEvent?) (announced_ahead (.seatedAt r now) (s.behind r) now)).symm

private theorem counted_cancelPlace (r : Registration) (now : Instant) : (cancelPlace s r now).Counted :=
  (congrArg (List.filterMap Counter.ofEvent?) (announced_ahead (.cancelledAt r now) (s.behind r) now)).symm

private theorem counted_cancelSeat (r : Registration) (now : Instant) : (cancelSeat s r now).Counted := by
  have hcons (rest : List Tracked) :
      announced (.cancelledAt r now :: rest) = .cancelled r.subject r.status r.position now :: announced rest := by
    rw [← List.singleton_append, announced_append]
    rfl
  have hannounced : announced (Tracked.advance now (s.queue r.eventId)) =
      ((s.queue r.eventId).head?.map fun x => .promoted x.subject (x.position.getD 0) now).toList := by
    cases s.queue r.eventId with
    | nil => rfl
    | cons x behind => exact announced_ahead _ behind now
  unfold cancelSeat replace
  dsimp only [Counted]
  rw [hcons, hannounced]
  cases s.queue r.eventId <;> rfl

theorem counted_cancel (id : RegistrationId) (now : Instant) : (cancel s id now).Counted := by
  unfold cancel
  split
  · trivial
  split
  · trivial
  split
  · trivial
  · exact counted_cancelSeat _ now
  · exact counted_cancelPlace _ now

theorem counted_confirm (id : RegistrationId) (now : Instant) : (confirm s id now).Counted := by
  unfold confirm
  repeat' split
  all_goals first | trivial | exact counted_seat _ now

theorem counted_promote (event : EventId) (now : Instant) : (promote s event now).Counted := by
  unfold promote
  repeat' split
  all_goals first | trivial | exact counted_seat _ now

theorem counted_promoteStep (event : EventId) (now : Instant) : (promoteStep s event now).Counted := by
  unfold promoteStep
  split
  · trivial
  split
  · trivial
  split
  · trivial
  · next r behind _ _ =>
    exact (congrArg (List.filterMap Counter.ofEvent?) (announced_ahead (.seatedAt r now) behind now)).symm

theorem counted_raiseCapacity (event : EventId) (capacity : UInt32) : (raiseCapacity s event capacity).Counted := by
  unfold raiseCapacity
  repeat' split
  all_goals trivial

end Decision

namespace Store
variable {s : Store} {e : ScheduledEvent} {new : RegistrationId → Prop} {rows : List Tracked}
  {rs : List Registration}

/-- How many registrations are cancelled. -/
def cancelled (s : Store) : Nat := s.registrations.values.countP fun r => r.status = .cancelled

private theorem cancelled_puts (hn : (rs.map Registration.id).Nodup)
    (h : ∀ r ∈ rs, ∀ old, s.registrations.get? r.id = some old → old.status ≠ .cancelled) :
    (s.puts rs).cancelled = s.cancelled + rs.countP fun r => r.status = .cancelled := by
  induction rs generalizing s with
  | nil => rfl
  | cons r rs ih =>
    obtain ⟨hr, hrs⟩ := List.forall_mem_cons.mp h
    obtain ⟨hnot, hn⟩ := List.nodup_cons.mp hn
    have hput : (s.put r).cancelled = s.cancelled + if r.status = .cancelled then 1 else 0 := by
      have hcount := s.registrations.countP_values_insert (fun r => r.status = .cancelled) r (k := r.id)
        fun old hold => by simpa using hr old hold
      simpa [cancelled, put] using hcount
    rw [puts_cons, ih hn, hput, List.countP_cons, Nat.add_assoc, Nat.add_comm (List.countP _ rs)]
    · simp
    · intro x hx old hold
      have hne : x.id ≠ r.id := fun hid => hnot (hid ▸ List.mem_map_of_mem hx)
      rw [put_registrations, Table.get?_insert_of_ne _ _ hne] at hold
      exact hrs x hx old hold

private theorem cancelled_departure (hk : s.Keyed) {pre post : List Registration} {r r' : Registration}
    (hq : s.queue e.id = pre ++ r :: post) (hl : r'.Left r) (now : Instant) :
    (s.puts (departure r' post now)).cancelled = s.cancelled + if r'.status = .cancelled then 1 else 0 := by
  have hq' : s.queue e.id = pre ++ r :: (post ++ []) := by simpa using hq
  rw [cancelled_puts (nodup_departure_ids hk hq' hl now) fun x hx old hold =>
    ((over_departure hk hq hl now x hx).2 old hold).2]
  have hmoved : (post.map fun x => x.movedUpAt now).countP (fun r => r.status = .cancelled) = 0 := by
    refine List.countP_eq_zero.mpr fun x hx => ?_
    obtain ⟨y, hy, rfl⟩ := List.mem_map.mp hx
    have hmem : y ∈ s.queue e.id := hq ▸ List.mem_append_right _ (List.mem_cons_of_mem _ hy)
    simp [((mem_waiting hk).mp (mem_queue.mp hmem)).2.2]
  rw [departure, List.countP_cons, hmoved, Nat.zero_add]
  simp

/-- A move cancels as many registrations as it announces cancellations. -/
theorem Move.cancelled (h : Move new s e rows) (hk : s.Keyed) :
    (s.puts (rows.map Tracked.registration)).cancelled =
      s.cancelled + ((announced rows).filterMap Counter.ofEvent?).count .cancellations := by
  have hover := h.over hk
  have hsingle {t : Tracked} (hrows : rows = [t]) : (s.puts [t.registration]).cancelled =
      s.cancelled + if t.registration.status = .cancelled then 1 else 0 := by
    subst hrows
    have hids : (([t].map Tracked.registration).map Registration.id).Nodup := by simp
    have hone := cancelled_puts hids fun r hr old hold => ((hover r hr).2 old hold).2
    simpa [List.countP_cons] using hone
  cases h with
  | sit => exact hsingle rfl
  | wait => exact hsingle rfl
  | vacate => exact hsingle rfl
  | withdraw hq now =>
    rw [Tracked.map_registration_ahead, announced_ahead]
    exact cancelled_departure hk hq (Registration.left_cancelledAt _ now) now
  | seat hq hfree now =>
    rw [Tracked.map_registration_ahead, announced_ahead]
    exact cancelled_departure hk hq (Registration.left_seatedAt _ now) now

theorem Moves.cancelled (h : Moves new e s rows) (hk : s.Keyed) :
    (s.puts (rows.map Tracked.registration)).cancelled =
      s.cancelled + ((announced rows).filterMap Counter.ofEvent?).count .cancellations := by
  induction h with
  | nil => rfl
  | cons hm _ ih =>
    rw [List.map_append, puts_append, ih hk.puts, hm.cancelled hk, announced_append, List.filterMap_append,
      List.count_append, Nat.add_assoc]

end Store

namespace Session

/-- From `s` to `s'` some events were announced, each was counted, and so many registrations were cancelled. -/
structure Reports (s s' : Session) (events : List RegistrationEvent) : Prop where
  outbox : ∃ rows, s'.store.outbox = s.store.outbox ++ rows ∧ List.Forall₂ OutboxMessage.Announces rows events
  metrics : ∀ c, s'.metrics.value c = s.metrics.value c + (events.filterMap Counter.ofEvent?).count c
  cancelled : s'.store.cancelled = s.store.cancelled + (events.filterMap Counter.ofEvent?).count .cancellations

theorem Reports.refl (s : Session) : s.Reports s [] := ⟨⟨[], by simp, .nil⟩, fun _ => rfl, rfl⟩

end Session

namespace Decision
variable {α : Type} {s : Session} {d : Decision α}

/-- What is not committed is neither announced nor counted. -/
theorem Counted.enact (h : d.Counted) {id : RegistrationId} (hm : d.Moving s.store id) (hk : s.store.Keyed) :
    ∃ events, s.Reports (d.enact s).2 events := by
  cases d with
  | refuse cause => exact ⟨[], .refl s⟩
  | leave a => exact ⟨[], .refl s⟩
  | write fresh rows counted a =>
    obtain ⟨e, -, hmoves⟩ := hm
    rw [Decision.enact]
    by_cases hf : s.store.failOnCommit = true
    · simp only [hf, if_true]
      exact ⟨[], ⟨[], by simp [Session.drawing], .nil⟩, fun _ => rfl, rfl⟩
    · simp only [hf]
      have hrows := announces_announcements (s.ids.skip fresh) (announced rows)
      refine ⟨announced rows, ⟨_, ?_, hrows⟩, fun c => ?_, hmoves.cancelled hk⟩
      · exact congrArg (· ++ _) Store.puts_outbox
      · rw [← show counted = _ from h]
        exact Metrics.value_foldl counted _ c
  | raise event capacity a =>
    rw [Decision.enact]
    by_cases hf : s.store.failOnCommit = true
    · simp only [hf, if_true]
      exact ⟨[], .refl s⟩
    · simp only [hf]
      exact ⟨[], ⟨[], by simp [Store.setCapacity], .nil⟩, fun _ => rfl, rfl⟩

end Decision

namespace Transaction
variable {s : Session}

private theorem reports_of_outcome {α : Type} {p : Allocate α} {d : Decision α} {s₁ : Session}
    (h : p.on s = d.outcome s₁) (hc : d.Counted) (hm : d.Moving s₁.store ⟨s.ids.next⟩) (hk : s₁.store.Keyed)
    (hstore : s₁.store = s.store) (hmetrics : s₁.metrics = s.metrics) : ∃ events, s.Reports (p.on s).2 events := by
  obtain ⟨events, hreports⟩ := hc.enact hm hk
  refine ⟨events, ?_⟩
  rw [h]
  exact ⟨hstore ▸ hreports.outbox, hmetrics ▸ hreports.metrics, hstore ▸ hreports.cancelled⟩

/-- Every transaction counts what it announces. -/
theorem run_reports (hs : s.Consistent) (t : Transaction) (hd : (t.run s).ids.Distinct) :
    ∃ events, s.Reports (t.run s) events := by
  have hi := hs.idle
  have hl := hs.lawful
  cases t with
  | register event registrant =>
    exact reports_of_outcome (Allocate.on_register hi hl event registrant) (Decision.counted_register _ _ _ _)
      (Decision.moving_register hl fun hf => hs.unused_of_fresh hd hf) hl.keyed rfl rfl
  | cancel registration =>
    exact reports_of_outcome (Allocate.on_cancel hi hl registration) (Decision.counted_cancel _ _)
      (Decision.moving_cancel hl) hl.keyed rfl rfl
  | promote event =>
    exact reports_of_outcome (Allocate.on_promote hi hl event) (Decision.counted_promote _ _)
      (Decision.moving_promote hl) hl.keyed rfl rfl
  | confirm registration =>
    exact reports_of_outcome (Allocate.on_confirm hi hl registration) (Decision.counted_confirm _ _)
      (Decision.moving_confirm hl) hl.keyed rfl rfl
  | raiseCapacity event capacity =>
    exact reports_of_outcome (Allocate.on_raiseCapacity hi hl event capacity) (Decision.counted_raiseCapacity _ _)
      Decision.moving_raiseCapacity hl.keyed rfl rfl
  | promoteStep event =>
    exact reports_of_outcome (Allocate.on_promoteStep hi hl event) (Decision.counted_promoteStep _ _)
      (Decision.moving_promoteStep hl) hl.keyed rfl rfl

end Transaction
end Turnstile
