import Turnstile.Queue

/-! What one attempt to take an event does to a queue: it takes the oldest event, or none if there is none. -/

namespace Turnstile.Stage
variable {q : Queue} {c : Nat}

theorem advanceBy_finished (c : Nat) (stopped : Bool) (n : Nat) (e : Option QueuedEvent) (q : Queue) :
    advanceBy c stopped n (.finished e) q = (.finished e, q) := by
  induction n with
  | zero => rfl
  | succ n ih => exact ih

/-- Three steps take the oldest event. -/
theorem advanceBy_taking {e : QueuedEvent} {rest : List QueuedEvent} (h : q.events = e :: rest) (n : Nat) :
    ∃ bell, starting.advanceBy c false (n + 3) q = (.finished (some e), { q with events := rest, bell }) := by
  simp only [advanceBy, advance, h, Bool.false_eq_true, if_false, advanceBy_finished]
  cases (q.bell.register c).1
  · exact ⟨_, rfl⟩
  · exact ⟨_, rfl⟩

/-- Without events nothing but the bell changes. -/
theorem advanceBy_empty (h : q.events = []) {stage : Stage} (hs : ∀ e, stage ≠ .finished (some e)) (stopped : Bool)
    (n : Nat) :
    ∃ stage' bell, stage.advanceBy c stopped n q = (stage', { q with bell }) ∧ ∀ e, stage' ≠ .finished (some e) := by
  induction n generalizing stage q with
  | zero => exact ⟨stage, q.bell, rfl, hs⟩
  | succ n ih =>
    have hstep : ∃ stage' bell, stage.advance c stopped q = (stage', { q with bell }) ∧
        ∀ e, stage' ≠ .finished (some e) := by
      cases stage with
      | starting =>
        cases stopped with
        | true => exact ⟨.finished none, q.bell, rfl, by simp⟩
        | false => exact ⟨.entering, q.bell, rfl, by simp⟩
      | entering => exact ⟨.looking _, (q.bell.register c).2, rfl, by simp⟩
      | looking ready =>
        rw [advance]
        split
        · next e rest he => simp [h] at he
        · exact ⟨.waiting ready, q.bell, rfl, by simp⟩
      | waiting ready =>
        cases ready with
        | true => exact ⟨.starting, q.bell, rfl, by simp⟩
        | false =>
          rw [advance]
          split
          · exact ⟨.starting, q.bell.answer c, rfl, by simp⟩
          · exact ⟨.waiting false, q.bell, rfl, by simp⟩
      | finished e => exact ⟨.finished e, q.bell, rfl, hs⟩
    obtain ⟨stage₁, bell, hfirst, hs₁⟩ := hstep
    rw [advanceBy, hfirst]
    obtain ⟨stage', bell', hrest, hs'⟩ := ih (q := { q with bell }) h hs₁
    exact ⟨stage', bell', hrest, hs'⟩

theorem giveUp_events (c : Nat) (q : Queue) (stage : Stage) : ((stage.giveUp c q).getD (stage, q)).2.events = q.events := by
  cases stage with
  | waiting ready => cases ready <;> rfl
  | _ => rfl

end Turnstile.Stage
