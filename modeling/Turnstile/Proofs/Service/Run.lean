import Turnstile.Proofs.Program
import Turnstile.Service

/-! Runs of the service, from those of its parts, on any surroundings. -/

namespace Turnstile.Service
variable {η α β σ : Type} (answer : (c : ServiceCall η) → σ → Option c.Reply × σ)

private theorem run_allocate (p : Allocate α) (s : σ) :
    (allocate p : Service η α).run.run answer s =
      ((p.run.run (fun c => answer (.allocate c)) s).1.map (Except.mapError ServiceError.allocation),
        (p.run.run (fun c => answer (.allocate c)) s).2) := by
  have hrelay : (fun c => (Program.call (.allocate c : ServiceCall η)).run answer) = fun c => answer (.allocate c) :=
    funext fun c => funext fun s => Program.run_call _ _ _
  refine (Program.run_bind _ (p.run.relay _) _ _).trans ?_
  rw [Program.run_relay, hrelay]
  rcases p.run.run (fun c => answer (.allocate c)) s with ⟨_ | _, _⟩ <;> rfl

theorem run_dispatched (p : Dispatch η (α × Except DispatchError β)) (s : σ) :
    (dispatched p : Service η α).run.run answer s =
      ((p.run (fun c => answer (.dispatch c)) s).1.map fun r => (r.2.mapError ServiceError.dispatch).map fun _ => r.1,
        (p.run (fun c => answer (.dispatch c)) s).2) := by
  have hrelay : (fun c => (Program.call (.dispatch c : ServiceCall η)).run answer) = fun c => answer (.dispatch c) :=
    funext fun c => funext fun s => Program.run_call _ _ _
  refine (Program.run_bind _ (p.relay _) _ _).trans ?_
  rw [Program.run_relay, hrelay]
  rcases p.run (fun c => answer (.dispatch c)) s with ⟨_ | _, _⟩ <;> rfl

/-- What is dispatched are the pending events of all sources, in order. -/
theorem dispatch_eq (d : Dispatcher η) (sources : List Tracked) :
    d.dispatch sources = (do
      let results ← ((sources.flatMap Tracked.pending).map RegistrationEvent.record).mapM d.dispatchEvent
      return (sources.map EventSource.clear, Dispatched.report results)) := by
  have hpending : sources.flatMap EventSource.pending =
      (sources.flatMap Tracked.pending).map RegistrationEvent.record := by
    rw [List.map_flatMap]
    rfl
  rw [Dispatcher.dispatch, hpending]

/-- A command is dispatched once it was carried out, unless it changed nothing. -/
theorem run_command (d : Dispatcher η) (c : Command) (s : σ) :
    (command d c).run.run answer s =
      match (Allocate.command c).run.run (fun c => answer (.allocate c)) s with
      | (some (.ok a), s') =>
        if a.isNoop then (some (.ok a.changed), s') else (dispatched (d.dispatch a.changed)).run.run answer s'
      | (some (.error e), s') => (some (.error (.allocation e)), s')
      | (none, s') => (none, s') := by
  rw [command, Program.run_except_bind, run_allocate]
  rcases (Allocate.command c).run.run (fun c => answer (.allocate c)) s with ⟨_ | e | a, s'⟩
  · rfl
  · rfl
  · dsimp only [Option.map, Except.mapError]
    split <;> rfl

end Turnstile.Service
