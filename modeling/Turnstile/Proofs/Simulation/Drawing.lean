import Turnstile.Proofs.Simulation.Surroundings

/-! Identifiers are drawn one after the other, whatever happens in a simulated world. -/

namespace Turnstile.Simulation

namespace World
variable {w w' : World}

/-- `w'` is `w` after identifiers were drawn, or none. -/
def Draws (w w' : World) : Prop := ∃ n, w'.session.ids = w.session.ids.skip n

theorem Draws.trans {w w' w'' : World} (h : w.Draws w') (h' : w'.Draws w'') : w.Draws w'' := by
  obtain ⟨m, hm⟩ := h
  obtain ⟨n, hn⟩ := h'
  exact ⟨m + n, by rw [hn, hm, Supply.skip_skip]⟩

theorem draws_of_eq (h : w'.session.ids = w.session.ids) : w.Draws w' := ⟨0, h⟩

theorem Leads.draws {n : Nat} (h : w.Leads w' n) : w.Draws w' := ⟨n, h.ids⟩

theorem Draws.distinct (h : w.Draws w') (hd : w'.session.ids.Distinct) : w.session.ids.Distinct := by
  obtain ⟨n, hn⟩ := h
  rw [hn] at hd
  exact hd.of_skip

private theorem pass_ids (w : World) (ms : Nat) : (w.pass ms).session.ids = w.session.ids := by
  unfold pass
  split <;> rfl

private theorem handle_ids (w : World) (h : HandlerRef) (e : QueuedEvent) :
    (w.handle h e).2.session.ids = w.session.ids := by
  cases h with
  | notifier => rfl
  | scripted name =>
    have hleave (w : World) (act : HandlerAct) : (w.leaveHandler name act e).2.session.ids = w.session.ids := by
      cases act <;> rfl
    exact (hleave _ _).trans (pass_ids _ _)

private theorem answerAllocator_draws (c : AllocatorCall) (w : World) : w.Draws (w.answerAllocator c).2 := by
  have hstrike : (w.strike (StoreCall.ofAllocator? c)).2.session = w.session := by
    cases h : StoreCall.ofAllocator? c <;> rfl
  have hfault (s : Session) : (afterFault s c).ids = s.ids := by
    unfold afterFault
    split <;> rfl
  obtain ⟨n, hn⟩ := Session.answer_ids c w.session
  unfold answerAllocator
  rcases hs : w.strike (StoreCall.ofAllocator? c) with ⟨struck, u⟩
  rw [hs] at hstrike
  dsimp only at hstrike ⊢
  split
  · exact draws_of_eq ((hfault u.session).trans (congrArg Session.ids hstrike))
  · refine ⟨n, ?_⟩
    rw [← hn, ← hstrike]
    split <;> rfl

private theorem answerService_draws (c : ServiceCall HandlerRef) (w : World) : w.Draws (w.answerService c).2 := by
  cases c with
  | allocate c => exact answerAllocator_draws c w
  | dispatch c =>
    cases c with
    | freshId => exact ⟨1, rfl⟩
    | count counter => exact draws_of_eq rfl
    | enqueue e => exact draws_of_eq rfl
    | handle h e => exact draws_of_eq (handle_ids w h e)

theorem command_draws (d : Dispatcher HandlerRef) (c : Command) (w : World) (log : List RegistrationEvent) :
    w.Draws ((Service.command d c).run.run (Program.watch answerService changes) (w, log)).2.1 := by
  rw [(Program.run_watch answerService changes (Service.command d c).run w log).2]
  exact Program.run_trans (fun w => draws_of_eq rfl) (fun _ _ _ => Draws.trans) answerService_draws _ w

theorem process_draws (w : World) (e : QueuedEvent) : w.Draws (w.process e).2 := by
  refine Program.run_trans (R := Draws) (fun w => draws_of_eq rfl) (fun _ _ _ => Draws.trans) (fun c w => ?_) _ w
  cases c with
  | handle h e => exact draws_of_eq (handle_ids w h e)
  | sleep d =>
    refine draws_of_eq ?_
    change (w.sleep d).session.ids = w.session.ids
    unfold sleep
    split
    · rfl
    · exact pass_ids w d.ticks
  | count counter => exact draws_of_eq rfl

theorem dequeue_draws (w : World) : w.Draws (w.dequeue .nothing).2 := by
  unfold dequeue
  split
  · exact draws_of_eq rfl
  dsimp only
  split
  · exact draws_of_eq rfl
  · exact draws_of_eq (pass_ids _ _)

end World

end Turnstile.Simulation
