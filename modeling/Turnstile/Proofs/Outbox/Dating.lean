import Turnstile.Proofs.Outbox.Course

/-!
What time a batch goes by. It reads the time before anything else, and lists and claims rows by that time whatever
happens meanwhile.
-/

namespace Turnstile

/-- Rows are listed and claimed by the time `t`. -/
def OutboxSettings.Dated (s : OutboxSettings) (t : Instant) : OutboxCall → Prop
  | .claimable limit now cutoff => limit = s.batchSize ∧ now = t ∧ cutoff = s.leaseCutoff t
  | .tryClaim _ worker now cutoff => worker = s.workerId ∧ now = t ∧ cutoff = s.leaseCutoff t
  | .now | .count _ _ | .publish _ _ | .markProcessed _ _ _ | .markRetry _ _ _ _ _ | .markFailed _ _ _ _ => True

namespace Deliver

private theorem asks_claim (s : OutboxSettings) (t : Instant) (rows : List OutboxMessage) :
    (claim s.workerId t (s.leaseCutoff t) rows).run.Asks (s.Dated t) := by
  induction rows with
  | nil => trivial
  | cons m rest ih =>
    refine .bind_except ⟨⟨rfl, rfl, rfl⟩, fun _ => trivial⟩ fun got => ?_
    cases got with
    | true => exact .bind_except ih fun _ => trivial
    | false => exact .bind_except ⟨trivial, fun _ => trivial⟩ fun _ => .bind_except ih fun _ => trivial

private theorem asks_claimDue (s : OutboxSettings) : ∃ next : Instant → _,
    (claimDue s).run = .ask .now next ∧ ∀ t, (next t).Asks (s.Dated t) := by
  refine ⟨_, rfl, fun t => ?_⟩
  have hlisting : (claimable s.batchSize t (s.leaseCutoff t)).run.Asks (s.Dated t) :=
    ⟨⟨rfl, rfl, rfl⟩, fun _ => trivial⟩
  refine .bind_except hlisting fun rows => .bind_except (asks_claim s t rows) fun claimed => ?_
  exact .bind_except ⟨trivial, fun _ => trivial⟩ fun _ => trivial

private theorem asks_settle (s : OutboxSettings) (t : Instant) (m : OutboxMessage) (outcome : Except BusError Unit) :
    (settle s m outcome).run.Asks (s.Dated t) := by
  refine .bind_except ⟨trivial, fun _ => trivial⟩ fun now => ?_
  cases outcome with
  | ok =>
    refine .bind_except ⟨trivial, fun _ => trivial⟩ fun kept => ?_
    cases kept with
    | true => exact .bind_except ⟨trivial, fun _ => trivial⟩ fun _ => trivial
    | false => trivial
  | error e =>
    dsimp only
    split
    · refine .bind_except ⟨trivial, fun _ => trivial⟩ fun kept => ?_
      cases kept with
      | true => exact .bind_except ⟨trivial, fun _ => trivial⟩ fun _ => trivial
      | false => trivial
    · refine .bind_except ⟨trivial, fun _ => trivial⟩ fun kept => ?_
      cases kept with
      | true => trivial
      | false => trivial

private theorem asks_publishAll (s : OutboxSettings) (t : Instant) (topic : String) (rows : List OutboxMessage) :
    (publishAll s topic rows).run.Asks (s.Dated t) := by
  induction rows with
  | nil => trivial
  | cons m rest ih =>
    refine .bind_except ⟨trivial, fun _ => trivial⟩ fun outcome => ?_
    refine .bind_except (asks_settle s t m outcome) fun settlement => ?_
    exact .bind_except ih fun _ => trivial

end Deliver

namespace Batch
variable {s : OutboxSettings} {b : Batch} {log : List Inquiry}

private theorem Course.dated_claims {result : Stored (List OutboxMessage × Nat)}
    (h : Course (.claiming (Deliver.claimDue s).run) log (.claiming (.done result))) :
    ∃ w rest, log = ⟨.now, w⟩ :: rest ∧ ∀ q ∈ log, s.Dated w.time q.call := by
  obtain ⟨next, hnext, hdated⟩ := Deliver.asks_claimDue s
  rw [hnext] at h
  cases h with
  | call hn w rest =>
    cases hn
    rw [w.reply_now] at rest
    exact ⟨w, _, rfl, List.forall_mem_cons.mpr ⟨trivial, rest.asked (hdated w.time)⟩⟩

private theorem Course.dated_offers {rows : List OutboxMessage}
    (h : Course (.publishing (Deliver.publishing s rows)) log b) (t : Instant) : ∀ q ∈ log, s.Dated t q.call := by
  refine h.asked fun topic hin => ?_
  obtain ⟨g, -, rfl⟩ := List.mem_map.mp hin
  exact Deliver.asks_publishAll s t g.1 g.2

/-- Whatever a batch lists and claims, it does so by the time that it has read first. -/
theorem Reports.dated {r : Stored BatchReport} (h : Reports s log r) :
    ∃ w rest, log = ⟨.now, w⟩ :: rest ∧ ∀ q ∈ log, s.Dated w.time q.call := by
  cases h with
  | refused h => exact h.dated_claims
  | settled hclaims hoffers =>
    obtain ⟨w, rest, rfl, hdated⟩ := hclaims.dated_claims
    exact ⟨w, _, rfl, List.forall_mem_append.mpr ⟨hdated, hoffers.dated_offers w.time⟩⟩

end Batch

end Turnstile
