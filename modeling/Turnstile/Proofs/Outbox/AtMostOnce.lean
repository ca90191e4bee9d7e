import Turnstile.Proofs.Outbox.Lease

/-!
What the outbox workers together deliver. A row is processed only after the bus has taken it, and as long as all
are in time the bus takes no row twice.
-/

namespace Turnstile
variable {ι : Type}

namespace Store
variable {s : Store} {i : ι} {now : Instant} {bus : Except BusError Unit} {c : OutboxCall} {id : MessageId}

theorem call_of_offers (h : (s.exchange i now bus c).offers id = true) :
    ∃ topic m, c = .publish topic m ∧ m.id = id := by
  cases c <;> simp_all [exchange, Exchange.offers, Exchange.offer?]

theorem call_of_accepts (h : (s.exchange i now bus c).accepts id = true) :
    ∃ topic m, c = .publish topic m ∧ m.id = id ∧ bus = .ok () := by
  cases c with
  | publish topic m =>
    rcases bus with _ | ⟨⟨⟩⟩
    · cases h
    · exact ⟨topic, m, rfl, by simpa [exchange, Exchange.accepts, Exchange.accepted?, reply] using h, rfl⟩
  | _ => cases h

end Store

namespace Scene
variable {sc sc' : Scene ι} {origin : List (MessageId × String × Json × Instant)} {lease : Duration}

/-- The bus has taken a row at most once, and if so the row is processed or about to be. What came to its end is
not offered any more. -/
structure Once (sc : Scene ι) : Prop where
  accepted : ∀ id, sc.log.countP (·.accepts id) = 0 ∨ sc.log.countP (·.accepts id) = 1 ∧
    ((∃ row ∈ sc.store.outbox, row.id = id ∧ row.status = .processed) ∨
      ∃ i, ∃ o ∈ (sc.errands i).offered, o.1.id = id ∧ o.2 = .ok ())
  closed : ∀ id, sc.log.Pairwise fun e x => e.finishes id = true → x.offers id = false

theorem once_start (settings : ι → OutboxSettings) (store : Store) (clock : Instant) :
    Once { settings, store, clock, errands := fun _ => .publishing [], log := [] } where
  accepted _ := .inl rfl
  closed _ := .nil

section call
variable {i : ι} {bus : Except BusError Unit} {c : OutboxCall} {e : Errand} {m : OutboxMessage} {id : MessageId}

/-- What is handed to the bus in time is leased. -/
private theorem Sound.leased_publish (hsound : sc.Sound origin) {topic : String}
    (hn : (sc.errands i).Next (sc.settings i) sc.store sc.clock bus (.publish topic m) e)
    (hin : Exchange.InTime lease sc.clock (sc.log ++ [sc.store.exchange i sc.clock bus (.publish topic m)])) :
    m ∈ (sc.errands i).held ∧ (∀ o ∈ (sc.errands i).offered, o.1.id ≠ m.id) ∧ (m, bus) ∈ e.offered ∧
      m.Leased lease sc.clock := by
  obtain ⟨rfl, hheld, hothers, hoffered⟩ := hn.of_publish (hsound.errands i).nodup_held
  obtain ⟨t, ht, -⟩ := (hsound.errands i).claimed m hheld
  have hatBus : Exchange.AtBus (sc.log ++ [sc.store.exchange i sc.clock bus (.publish m.messageType m)]) i
      (m, bus) := ⟨sc.log, sc.clock, [], rfl, by simp⟩
  exact ⟨hheld, hothers, hoffered, t, ht, hin.open hatBus ht⟩

/-- A row whose lease is not over is not at its end. -/
private theorem Exclusive.not_ended (h : sc.Exclusive lease) (hsound : sc.Sound origin)
    (hm : m ∈ (sc.errands i).held) (hleased : m.Leased lease sc.clock) :
    ∃ row ∈ sc.store.outbox, row.id = m.id ∧ row.status = .processing ∧
      row.claimedBy = some (sc.settings i).workerId := by
  obtain ⟨row, hrow, hcontent⟩ := hsound.exists_row (List.mem_append_left _ hm)
  have hid : row.id = m.id := congrArg Prod.fst hcontent
  obtain ⟨hs, -, hw⟩ := h.owned i m hm hleased row hrow hid
  exact ⟨row, hrow, hid, hs, hw⟩

private theorem Once.not_accepted (h : sc.Once) (hsound : sc.Sound origin) (hrec : sc.Recorded)
    (hexcl : sc.Exclusive lease) (hin : Exchange.InTime lease sc.clock sc.log) (hm : m ∈ (sc.errands i).held)
    (hothers : ∀ o ∈ (sc.errands i).offered, o.1.id ≠ m.id) (hleased : m.Leased lease sc.clock) :
    sc.log.countP (·.accepts m.id) = 0 := by
  rcases h.accepted m.id with hnone | ⟨-, ⟨row, hrow, hid, hprocessed⟩ | ⟨j, o, ho, hid, -⟩⟩
  · exact hnone
  · obtain ⟨hprocessing, -, -⟩ := hexcl.owned i m hm hleased row hrow hid
    rw [hprocessed] at hprocessing
    cases hprocessing
  · obtain rfl := hexcl.alone j i o.1 (Errand.held_of_offered ho) m hm hid (hrec.leased hsound hin ho) hleased
    exact absurd hid (hothers o ho)

/-- A row that the bus has taken is marked as processed when its worker settles it in time. -/
private theorem Exclusive.processes (h : sc.Exclusive lease) (hsound : sc.Sound origin) (hrec : sc.Recorded)
    (hin : Exchange.InTime lease sc.clock sc.log) {o : OutboxMessage × Except BusError Unit}
    (ho : o ∈ (sc.errands i).offered) (hok : o.2 = .ok ()) (hc : Settlement.Call (sc.settings i) o.1 o.2 c) :
    ∃ row ∈ sc.store.outbox, row.id = o.1.id ∧ (row.after c).status = .processed := by
  obtain ⟨row, hrow, hid, hs, hw⟩ := h.not_ended hsound (Errand.held_of_offered ho) (hrec.leased hsound hin ho)
  refine ⟨row, hrow, hid, ?_⟩
  rw [hok] at hc
  cases hc with
  | processed now =>
    have hallowed : row.id = o.1.id ∧ row.isClaimedBy (sc.settings i).workerId = true :=
      ⟨hid, OutboxMessage.isClaimedBy_iff.mpr ⟨hs, hw⟩⟩
    simp only [OutboxMessage.after, OutboxMessage.under, if_pos hallowed, Option.getD_some]
    rfl

private theorem Once.accepted_call [DecidableEq ι] (h : sc.Once) (hsound : sc.Sound origin) (hrec : sc.Recorded)
    (hexcl : sc.Exclusive lease) (hn : (sc.errands i).Next (sc.settings i) sc.store sc.clock bus c e)
    (hin : Exchange.InTime lease sc.clock (sc.log ++ [sc.store.exchange i sc.clock bus c])) (id : MessageId) :
    let n := (sc.log ++ [sc.store.exchange i sc.clock bus c]).countP (·.accepts id)
    n = 0 ∨ n = 1 ∧ ((∃ row ∈ (sc.store.deliver c).outbox, row.id = id ∧ row.status = .processed) ∨
      ∃ j, ∃ o ∈ (Function.update sc.errands i e j).offered, o.1.id = id ∧ o.2 = .ok ()) := by
  intro n
  have hin₀ : Exchange.InTime lease sc.clock sc.log := hin.before rfl
  have hprocessed : ∀ row ∈ sc.store.outbox, row.id = id → (row.after c).status = .processed →
      ∃ row ∈ (sc.store.deliver c).outbox, row.id = id ∧ row.status = .processed := by
    intro row hrow hid hs
    exact ⟨row.after c, (Store.mem_deliver hsound.numbered).mpr ⟨row, hrow, rfl⟩, (row.id_after c).trans hid, hs⟩
  have hcount : n = sc.log.countP (·.accepts id) +
      if (sc.store.exchange i sc.clock bus c).accepts id = true then 1 else 0 := by
    simp only [n, List.countP_append, List.countP_singleton]
  by_cases hx : (sc.store.exchange i sc.clock bus c).accepts id = true
  · obtain ⟨topic, m, rfl, rfl, rfl⟩ := Store.call_of_accepts hx
    obtain ⟨hheld, hothers, hoffered, hleased⟩ := hsound.leased_publish hn hin
    have hnone := h.not_accepted hsound hrec hexcl hin₀ hheld hothers hleased
    refine .inr ⟨?_, .inr ⟨i, (m, .ok ()), ?_, rfl, rfl⟩⟩
    · rw [hcount, hnone, if_pos hx]
    · rwa [Function.update_self]
  · rw [hcount, if_neg hx, Nat.add_zero]
    refine (h.accepted id).imp_right fun ⟨hone, hwhere⟩ => ⟨hone, ?_⟩
    rcases hwhere with ⟨row, hrow, hid, hs⟩ | ⟨j, o, ho, hid, hok⟩
    · exact .inl (hprocessed row hrow hid ((Store.processed_after_iff hsound.numbered hrow i sc.clock bus c).mpr
        (.inl hs)))
    · by_cases hj : j = i
      · subst hj
        rcases hn.offered_or_settled ho with ho' | hcall
        · exact .inr ⟨j, o, by rwa [Function.update_self], hid, hok⟩
        · obtain ⟨row, hrow, hrowid, hs⟩ := hexcl.processes hsound hrec hin₀ ho hok hcall
          exact .inl (hprocessed row hrow (hrowid.trans hid) hs)
      · exact .inr ⟨j, o, by rwa [Function.update_of_ne hj], hid, hok⟩

private theorem Exclusive.over_call (h : sc.Exclusive lease) (hsound : sc.Sound origin) (hrec : sc.Recorded)
    (hn : (sc.errands i).Next (sc.settings i) sc.store sc.clock bus c e)
    (hin : Exchange.InTime lease sc.clock (sc.log ++ [sc.store.exchange i sc.clock bus c]))
    {x : Exchange ι} (hx : x ∈ sc.log) (hfinish : x.finishes id = true) :
    (sc.store.exchange i sc.clock bus c).offers id = false := by
  refine Bool.eq_false_iff.mpr fun hoffer => ?_
  obtain ⟨topic, m, rfl, rfl⟩ := Store.call_of_offers hoffer
  obtain ⟨hheld, -, -, hleased⟩ := hsound.leased_publish hn hin
  obtain ⟨row, hrow, hid, hs, -⟩ := h.not_ended hsound hheld hleased
  have hended := (hrec.ended row hrow).mpr ⟨x, hx, hid ▸ hfinish⟩
  simp [OutboxMessage.Ended, hs] at hended

end call

theorem Once.step [DecidableEq ι] (h : sc.Once) (hsound : sc.Sound origin) (hrec : sc.Recorded)
    (hexcl : sc.Exclusive lease) (hin : Exchange.InTime lease sc'.clock sc'.log) (hs : Step sc sc') :
    sc'.Once := by
  cases hs with
  | tick => exact ⟨h.accepted, h.closed⟩
  | proceed i hp =>
    refine ⟨fun id => ?_, h.closed⟩
    refine (h.accepted id).imp_right fun ⟨hone, hwhere⟩ => ⟨hone, hwhere.imp_right ?_⟩
    rintro ⟨j, o, ho, hid, hok⟩
    exact ⟨j, o, (hp.all j).offered ▸ ho, hid, hok⟩
  | @call i bus c e hn =>
    refine ⟨h.accepted_call hsound hrec hexcl hn hin, fun id => ?_⟩
    refine List.pairwise_append.mpr ⟨h.closed id, List.pairwise_singleton _ _, fun x hx y hy hfinish => ?_⟩
    obtain rfl := List.mem_singleton.mp hy
    exact hexcl.over_call hsound hrec hn hin hx hfinish

/-- What holds along every run of the workers, and along every one in which all are in time. -/
theorem run_facts [DecidableEq ι] (hrun : Relation.ReflTransGen Step sc sc') (hsound : sc.Sound origin)
    (hrec : sc.Recorded) (hexcl : sc.Exclusive lease) (honce : sc.Once) :
    sc'.Sound origin ∧ sc'.Recorded ∧
      (Exchange.InTime lease sc'.clock sc'.log → sc'.Exclusive lease ∧ sc'.Once) := by
  induction hrun with
  | refl => exact ⟨hsound, hrec, fun _ => ⟨hexcl, honce⟩⟩
  | tail _ hs ih =>
    obtain ⟨hsound, hrec, hguarded⟩ := ih
    refine ⟨hsound.step hs, hrec.step hsound hs, fun hin => ?_⟩
    obtain ⟨hexcl, honce⟩ := hguarded (hs.inTime hin)
    exact ⟨hexcl.step hsound hrec (hs.inTime hin) hs, honce.step hsound hrec hexcl hin hs⟩

end Scene

namespace Fleet

/-- On a clock that shows no leap second: a row is processed or failed exactly if a worker has written so, and it is
written as processed only by a worker from which the bus took the row before. If all are in time the bus takes every
row at most once, and nobody offers it a row that has come to its end. -/
theorem delivered_at_most_once [DecidableEq ι] {settings : ι → OutboxSettings} {store : Store} {lease : Duration}
    (hids : store.Numbered) (hpending : ∀ row ∈ store.outbox, row.status = .pending)
    (hlease : ∀ i, (settings i).leaseTimeout = lease) {clock : Instant} (hclock : ¬ clock.IsLeap) {acts : List (Act ι)}
    (hticks : ∀ t, .tick t ∈ acts → ¬ t.IsLeap) :
    let f := ({ settings, store, clock } : Fleet ι).run acts
    (∀ row ∈ f.store.outbox,
      (row.status = .processed ↔ ∃ e ∈ f.log, e.processes row.id = true) ∧
        (row.status = .processed ∨ row.status = .failed ↔ ∃ e ∈ f.log, e.finishes row.id = true) ∧
        ∀ before e after, f.log = before ++ e :: after → e.processes row.id = true → ∃ p ∈ before,
          p.worker = e.worker ∧ ∃ m, p.accepted? = some (row.messageType, m) ∧ m.id = row.id ∧
            m.payload = row.payload) ∧
      (Exchange.InTime lease f.clock f.log → ∀ id, f.log.countP (·.accepts id) ≤ 1 ∧
        f.log.Pairwise fun e x => e.finishes id = true → x.offers id = false) := by
  intro f
  have hstart : At { settings, store, clock } fun _ : ι => .publishing [] := fun i => Batch.at_idle (settings i)
  obtain ⟨errands, hrun, -⟩ := hstart.run hticks
  obtain ⟨-, hrec, hguarded⟩ := Scene.run_facts hrun (Scene.sound_start hids settings hclock)
    (Scene.recorded_start hpending settings clock) (Scene.exclusive_start hlease store clock)
    (Scene.once_start settings store clock)
  refine ⟨fun row hrow => ⟨hrec.processed row hrow, hrec.ended row hrow, hrec.published row hrow⟩, fun hin id => ?_⟩
  obtain ⟨-, honce⟩ := hguarded hin
  refine ⟨?_, honce.closed id⟩
  rcases honce.accepted id with hnone | ⟨hone, -⟩
  · exact Nat.le_of_lt_succ (hnone ▸ Nat.zero_lt_two)
  · exact Nat.le_of_eq hone

/-- A worker stops with a row in hand, and another delivers the row when the lease is over. -/
theorem delivered_at_most_once_takenOver :
    let store : Store := { outbox := [.pending ⟨⟨0, 1⟩⟩ "RegistrationConfirmed" .null .newYear2024] }
    let settings : Bool → OutboxSettings := fun i => { workerId := if i then "b" else "a" }
    let clock := Instant.newYear2024
    let later := clock.after (.ofSeconds 31)
    let call (i : Bool) : Act Bool := .call i 0 (.ok ())
    let acts := [.proceed false, call false, call false, call false, .tick later,
      .proceed true, call true, call true, call true, call true, .proceed true, call true, call true, call true]
    let f := ({ settings, store, clock } : Fleet Bool).run acts
    Exchange.InTime (.ofSeconds 30) f.clock f.log ∧ f.log.countP (·.accepts ⟨⟨0, 1⟩⟩) = 1 ∧
      ∀ id, f.log.countP (·.accepts id) ≤ 1 := by
  intro store settings clock later call acts f
  have hpending : ∀ row ∈ store.outbox, row.status = .pending := by
    intro row hrow
    obtain rfl := List.mem_singleton.mp hrow
    rfl
  have hids : store.Numbered := List.nodup_singleton _
  have hlease : ∀ i, (settings i).leaseTimeout = .ofSeconds 30 := fun _ => rfl
  have hclock : ¬ clock.IsLeap := by decide
  have hticks : ∀ t, .tick t ∈ acts → ¬ t.IsLeap := by
    intro t ht
    obtain rfl : t = later := by simpa [acts, call] using ht
    decide
  have hin : Exchange.InTime (.ofSeconds 30) f.clock f.log := by decide +kernel
  obtain ⟨-, honce⟩ := delivered_at_most_once hids hpending hlease hclock hticks
  exact ⟨hin, by decide +kernel, fun id => (honce hin id).1⟩

end Fleet

end Turnstile
