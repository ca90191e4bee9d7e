import Turnstile.Background
import Turnstile.Proofs.Table

/-!
The slots of the background processor. Each of its steps moves a slot, from the free ones to the loop, on to a task and
back, and leaves as many as there were.
-/

namespace Turnstile

namespace Background
variable {τ : Type} {b b' : Background τ} {start : QueuedEvent → τ} {n : Nat}

/-- All slots: those of the tasks, the one that the loop holds, and the free ones. -/
def slots (b : Background τ) : Nat := b.tasks.size + (if b.holdsSlot then 1 else 0) + b.free

/-- No number is given to two tasks. -/
def Numbered (b : Background τ) : Prop := ∀ n ∈ b.tasks.keys, n < b.started

/-! What each step does, if it applies. -/

theorem takeSlot_eq_some :
    b.takeSlot = some b' ↔ b.stage = .ready ∧ 0 < b.free ∧ { b with stage := .asking, free := b.free - 1 } = b' := by
  rw [takeSlot, Option.ite_none_right_eq_some, Option.some_inj, and_assoc]

theorem receive_eq_some {r : Except DispatchError (Option QueuedEvent)} :
    b.receive start r = some b' ↔ b.stage = .asking ∧
      match r with
      | .ok (some e) => { b with
          stage := .ready, tasks := b.tasks.insert b.started (start e), started := b.started + 1 } = b'
      | .ok none => b.releaseSlot = b'
      | .error _ => { b with stage := .backingOff } = b' := by
  rcases r with _ | _ | e <;> rw [receive, Option.ite_none_right_eq_some] <;> simp only [Option.some_inj]

theorem resume_eq_some : b.resume = some b' ↔ b.stage = .backingOff ∧ b.releaseSlot = b' := by
  rw [resume, Option.ite_none_right_eq_some, Option.some_inj]

theorem observeShutdown_eq_some :
    b.observeShutdown = some b' ↔ b.stage = .ready ∧ { b with stage := .draining } = b' := by
  rw [observeShutdown, Option.ite_none_right_eq_some, Option.some_inj]

theorem finish_eq_some : b.finish n = some b' ↔
    n ∈ b.tasks.keys ∧ { b with tasks := b.tasks.erase n, free := b.free + 1 } = b' := by
  rw [finish, Option.ite_none_right_eq_some, Option.some_inj, Table.mem_keys_iff, Table.contains]

theorem drained_eq_some : b.drained = some b' ↔
    b.stage = .draining ∧ b.tasks.keys = [] ∧ { b with stage := .stopped } = b' := by
  rw [drained, Option.ite_none_right_eq_some, Option.some_inj, Table.size_eq_length_keys, List.length_eq_zero_iff,
    and_assoc]

theorem abandon_eq_some : b.abandon = some b' ↔
    b.stage = .draining ∧ { b with stage := .stopped, tasks := .empty, free := b.free + b.tasks.size } = b' := by
  rw [abandon, Option.ite_none_right_eq_some, Option.some_inj]

/-! Every step keeps the slots. -/

private theorem slots_eq (b : Background τ) :
    b.slots = b.tasks.keys.length + (if b.stage = .asking ∨ b.stage = .backingOff then 1 else 0) + b.free := by
  simp only [slots, holdsSlot, Table.size_eq_length_keys, decide_eq_true_eq]

theorem slots_takeSlot (h : b.takeSlot = some b') : b'.slots = b.slots := by
  obtain ⟨hs, hfree, rfl⟩ := takeSlot_eq_some.mp h
  simp only [slots_eq, hs]
  simp
  omega

theorem slots_releaseSlot (h : b.holdsSlot) : b.releaseSlot.slots = b.slots := by
  simp only [slots, h, if_true, releaseSlot]
  simp [holdsSlot]
  omega

theorem slots_receive {r : Except DispatchError (Option QueuedEvent)} (hn : b.Numbered)
    (h : b.receive start r = some b') : b'.slots = b.slots := by
  obtain ⟨hs, hr⟩ := receive_eq_some.mp h
  have hholds : b.holdsSlot := by simp [holdsSlot, hs]
  rcases r with _ | _ | e
  · obtain rfl := hr
    simp [slots_eq, hs]
  · obtain rfl := hr
    exact slots_releaseSlot hholds
  · obtain rfl := hr
    have hnew : b.tasks.get? b.started = none := Table.notMem_keys.mp fun hin => Nat.lt_irrefl _ (hn _ hin)
    simp only [slots_eq, hs, Table.keys_insert_new hnew]
    simp

theorem slots_observeShutdown (h : b.observeShutdown = some b') : b'.slots = b.slots := by
  obtain ⟨hs, rfl⟩ := observeShutdown_eq_some.mp h
  simp [slots_eq, hs]

theorem slots_finish (h : b.finish n = some b') : b'.slots = b.slots := by
  obtain ⟨hn, rfl⟩ := finish_eq_some.mp h
  have hlength := List.length_erase_of_mem hn
  have hpos := List.length_pos_of_mem hn
  simp only [slots_eq, Table.keys_erase, hlength]
  omega

theorem slots_drained (h : b.drained = some b') : b'.slots = b.slots := by
  obtain ⟨hs, -, rfl⟩ := drained_eq_some.mp h
  simp [slots_eq, hs]

theorem slots_abandon (h : b.abandon = some b') : b'.slots = b.slots := by
  obtain ⟨hs, rfl⟩ := abandon_eq_some.mp h
  simp [slots, holdsSlot, hs, Table.size, Table.empty]
  omega

/-- A task that goes on keeps its slot. -/
theorem slots_proceed (hn : n ∈ b.tasks.keys) (t : τ) : { b with tasks := b.tasks.insert n t }.slots = b.slots := by
  simp only [slots_eq, Table.keys_insert_stored (Table.mem_keys_iff.mp hn)]

end Background
end Turnstile
