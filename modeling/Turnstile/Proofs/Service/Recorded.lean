import Turnstile.Proofs.Allocation.Composition
import Turnstile.Proofs.Service.Trial

/-!
What commands record on a session while all commits are made to fail, or none: the events that are told, and nothing
if they fail.
-/

namespace Turnstile
open scoped List

namespace Session
variable {s : Session}

/-- The events that a change of the stored registrations calls for. -/
def changes (s s' : Session) : List RegistrationEvent :=
  RegistrationEvent.changes s.store.registrations s'.store.registrations

/-- How every commit ends. -/
def commitError? (s : Session) : Option StoreError :=
  if s.store.failOnCommit then some (.unavailable "injected commit failure") else none

/-- The session as the surroundings see it that decide on commits. -/
structure TriedBy (s : Session) (t : Trial Unit) : Prop where
  session : t.session = s
  commits : ∀ n, t.commits.item n = s.commitError?

private theorem TriedBy.answer {t : Trial Unit} (h : s.TriedBy t) (c : AllocatorCall) :
    (Session.answer c s).1 = (t.answerAllocator c).1 ∧ (Session.answer c s).2.TriedBy (t.answerAllocator c).2 := by
  obtain ⟨rfl, hcommits⟩ := h
  by_cases hc : c = .tx .commit
  · subst hc
    have hnext : t.commits.next = t.session.commitError? := hcommits _
    rw [commitError?] at hnext hcommits
    by_cases hf : t.session.store.failOnCommit = true
    · rw [if_pos hf] at hnext hcommits
      have hsession : Session.answer (.tx .commit) t.session =
          (some (.error (.unavailable "injected commit failure")), t.session.drop) := by
        simp [Session.answer, answerTx, commit, hf]
      have htrial : t.answerAllocator (.tx .commit) = (some (.error (.unavailable "injected commit failure")),
          { t with session := t.session.drop, commits := t.commits.skip 1 }) := by
        simp [Trial.answerAllocator, Trial.commit, hnext]
      rw [hsession, htrial]
      refine ⟨rfl, rfl, fun n => (hcommits n).trans ?_⟩
      rw [commitError?, if_pos (show t.session.drop.store.failOnCommit = true from hf)]
    · rw [if_neg hf] at hnext hcommits
      have hsession : Session.answer (.tx .commit) t.session =
          (some (.ok ()), { t.session with store := t.session.store.apply t.session.tx }.drop) := by
        simp [Session.answer, answerTx, commit, hf]
      have htrial : t.answerAllocator (.tx .commit) = (some (.ok ()), { t with
          session := { t.session with store := t.session.store.apply t.session.tx }.drop
          commits := t.commits.skip 1 }) := by
        simp [Trial.answerAllocator, Trial.commit, hnext]
      rw [hsession, htrial]
      refine ⟨rfl, rfl, fun n => (hcommits n).trans ?_⟩
      exact (if_neg hf).symm
  · rw [Trial.answerAllocator_other hc]
    refine ⟨rfl, rfl, fun n => (hcommits n).trans ?_⟩
    obtain ⟨locked, hstore⟩ := answer_store hc t.session
    rw [commitError?, commitError?, hstore]

theorem run_command (c : Command) (hi : s.Idle) (hl : s.store.Lawful)
    (hid : 0 < c.fresh s → s.store.registrations.get? ⟨s.ids.next⟩ = none) (log : List RegistrationEvent) :
    ∃ reply s' recorded, (Allocate.command c).run.run (Program.watch Session.answer changes) (s, log) =
        (some reply, s', log ++ recorded) ∧
      match reply with
      | .ok a => recorded ~ a.events
      | .error _ => recorded = [] := by
  let t : Trial Unit := { session := s, commits := .constant s.commitError? }
  obtain ⟨reply, t', recorded, n, hrun, hend, hreply⟩ := @Trial.run_command Unit t c hi hl hid log
  have hnote (s₁ s₂ : Session) (t₁ t₂ : Trial Unit) (h₁ : s₁.TriedBy t₁) (h₂ : s₂.TriedBy t₂) :
      s₁.changes s₂ = t₁.changes t₂ := by
    rw [← h₁.session, ← h₂.session]
    rfl
  have hstart : s.TriedBy t := ⟨rfl, fun _ => rfl⟩
  obtain ⟨hfirst, ⟨hsession, -⟩, hlog⟩ :=
    Program.run_watch_related (fun c _ _ h => TriedBy.answer h c) hnote (Allocate.command c).run hstart log
  rw [hrun] at hfirst hsession hlog
  refine ⟨reply, t'.session, recorded, Prod.ext hfirst (Prod.ext hsession.symm hlog), ?_⟩
  cases reply with
  | ok a => exact hreply
  | error e =>
    cases hf : s.store.failOnCommit with
    | false =>
      refine hreply.2 fun k _ _ => ?_
      simp [t, Supply.constant, commitError?, hf]
    | true =>
      refine (hend.refused fun k _ _ => ?_).2
      simp [t, Supply.constant, commitError?, hf]

/-- What a command on a consistent session does, and that the session stays consistent. -/
theorem Consistent.run_command (h : s.Consistent) (c : Command) (hd : ((Allocate.command c).on s).2.ids.Distinct)
    (log : List RegistrationEvent) :
    ∃ reply recorded, (Allocate.command c).run.run (Program.watch Session.answer changes) (s, log) =
        (some reply, ((Allocate.command c).on s).2, log ++ recorded) ∧ ((Allocate.command c).on s).2.Consistent ∧
      match reply with
      | .ok a => recorded ~ a.events
      | .error _ => recorded = [] := by
  have hid : 0 < c.fresh s → s.store.registrations.get? ⟨s.ids.next⟩ = none := by
    cases c with
    | register event registrant => exact fun hf => h.unused_of_fresh hd hf
    | _ => exact fun hf => absurd hf (Nat.lt_irrefl 0)
  obtain ⟨reply, s', recorded, hrun, hreply⟩ := Session.run_command c h.idle h.lawful hid log
  have hs' : s' = ((Allocate.command c).on s).2 := by
    rw [← show _ = s' from congrArg (fun r => r.2.1) hrun]
    exact (Program.run_watch Session.answer changes _ s log).2
  obtain ⟨ts, hts⟩ := Allocate.composed_command c s
  rw [hts] at hd hs' ⊢
  exact ⟨reply, recorded, hs' ▸ hrun, (h.afterAll ts hd).1, hreply⟩

end Session
end Turnstile
