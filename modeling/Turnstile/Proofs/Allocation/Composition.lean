import Turnstile.Proofs.Allocation.Invariant

/-!
What a command does to a session transactions one after the other do too, so that it keeps what they keep: a session
stays consistent, and registrations stay in the order in which they were stored.
-/

namespace Turnstile
open scoped List

namespace Store
variable {s s' : Store} {new : RegistrationId → Prop}

private theorem keys_prefix_puts (rs : List Registration) : s.registrations.keys <+: (s.puts rs).registrations.keys := by
  induction rs generalizing s with
  | nil => exact List.prefix_rfl
  | cons r rs ih => exact (Table.keys_prefix_insert s.registrations r.id r).trans (@ih (s.put r))

/-- New registrations come in behind all others. -/
theorem Step.keys_grow (h : Step new s s') : s.registrations.keys <+: s'.registrations.keys := by
  cases h with
  | stay => exact List.prefix_rfl
  | write => exact keys_prefix_puts _
  | raise => exact List.prefix_rfl

end Store

namespace Allocate

/-- Whatever it does to a session, transactions one after the other do too. -/
def Composed {α : Type} (p : Allocate α) : Prop :=
  ∀ s, ∃ ts : List Transaction, (p.on s).2 = ts.foldl (fun s t => t.run s) s

private theorem Composed.bind {α β : Type} {p : Allocate α} {f : α → Allocate β} (hp : p.Composed)
    (hf : ∀ a, (f a).Composed) : (p >>= f).Composed := by
  intro s
  obtain ⟨ts, hts⟩ := hp s
  rw [on_bind]
  rcases hon : p.on s with ⟨_ | _ | a, s'⟩ <;> rw [hon] at hts
  · exact ⟨ts, hts⟩
  · exact ⟨ts, hts⟩
  · obtain ⟨us, hus⟩ := hf a s'
    exact ⟨ts ++ us, by rw [List.foldl_append, ← hts, ← hus]⟩

private theorem composed_pure {α : Type} (a : α) : (pure a : Allocate α).Composed := fun _ => ⟨[], rfl⟩

private theorem composed_promoteAll (event : EventId) (limit : Nat) (changed : List Tracked) :
    (promoteAll event limit changed).Composed := by
  induction limit generalizing changed with
  | zero => exact composed_pure changed
  | succ limit ih =>
    have hstep : (promoteStep event).Composed := fun _ => ⟨[.promoteStep event], rfl⟩
    refine hstep.bind fun more => ?_
    cases more with
    | none => exact composed_pure changed
    | some more => exact ih _

theorem composed_command (c : Command) : (command c).Composed := by
  cases c with
  | register event registrant => exact fun _ => ⟨[.register event registrant], rfl⟩
  | cancel registration => exact fun _ => ⟨[.cancel registration], rfl⟩
  | promote event => exact fun _ => ⟨[.promote event], rfl⟩
  | confirm registration => exact fun _ => ⟨[.confirm registration], rfl⟩
  | increaseCapacity event capacity =>
    have hraise : (raiseCapacity event capacity).Composed := fun _ => ⟨[.raiseCapacity event capacity], rfl⟩
    exact hraise.bind fun event => (composed_promoteAll event maxWaitlist []).bind fun _ => composed_pure _

end Allocate

namespace Session
variable {s : Session}

theorem afterAll_ids (ts : List Transaction) (s : Session) :
    ∃ n, (ts.foldl (fun s t => t.run s) s).ids = s.ids.skip n := by
  induction ts generalizing s with
  | nil => exact ⟨0, rfl⟩
  | cons t ts ih =>
    obtain ⟨m, hm⟩ := t.run_ids s
    obtain ⟨n, hn⟩ := ih (t.run s)
    exact ⟨m + n, by rw [List.foldl_cons, hn, hm, Supply.skip_skip]⟩

theorem Consistent.afterAll (h : s.Consistent) (ts : List Transaction)
    (hd : (ts.foldl (fun s t => t.run s) s).ids.Distinct) :
    (ts.foldl (fun s t => t.run s) s).Consistent ∧
      s.store.registrations.keys <+: (ts.foldl (fun s t => t.run s) s).store.registrations.keys := by
  induction ts generalizing s with
  | nil => exact ⟨h, List.prefix_rfl⟩
  | cons t ts ih =>
    obtain ⟨n, hn⟩ := afterAll_ids ts (t.run s)
    have hd' : (t.run s).ids.Distinct := by
      rw [List.foldl_cons, hn] at hd
      exact hd.of_skip
    obtain ⟨hc, hkeys⟩ := ih (h.run t hd').1 hd
    exact ⟨hc, (t.run_step h.idle h.lawful (h.unused t hd')).2.keys_grow.trans hkeys⟩

end Session

end Turnstile
