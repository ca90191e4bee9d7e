import Turnstile.Proofs.Instant.Order
import Turnstile.Proofs.Outbox.Errand
import Mathlib.Data.List.Forall2
import Mathlib.Logic.Relation

/-!
A fleet of outbox workers seen by their errands. Every run of the programs is a run of the errands, so what
every step of the errands keeps holds of the workers however they are interleaved.
-/

namespace Turnstile

namespace Deliver

theorem messageType_groups {taken : List OutboxMessage} {g : String × List OutboxMessage} (hg : g ∈ groups taken) :
    ∀ m ∈ g.2, m.messageType = g.1 := by
  obtain ⟨topic, -, rfl⟩ := List.mem_map.mp hg
  intro m hm
  simpa using (List.mem_filter.mp hm).2

end Deliver

namespace Batch
variable {s : OutboxSettings} {b : Batch} {e : Errand}

/-- The programs that are left of a batch stand at an errand. -/
inductive At (s : OutboxSettings) : Batch → Errand → Prop
  | claiming {e : Errand} {rest : Program OutboxCall.Reply (Stored (List OutboxMessage × Nat))}
    (h : Deliver.Claims s e rest) : At s (.claiming rest) e
  | publishing {desks : List Desk} {topics : List (Program OutboxCall.Reply (Stored (List Settlement)))}
    (h : List.Forall₂ (Deliver.Delivers s) desks topics) : At s (.publishing topics) (.publishing desks)

theorem at_idle (s : OutboxSettings) : At s .idle (.publishing []) := .publishing .nil

/-- The member of a list that goes with a member of the other list, and what may be put in their places. -/
private theorem forall₂_split {α β : Type} {R : α → β → Prop} {xs : List α} {ys : List β} (h : List.Forall₂ R xs ys)
    {k : Nat} {y : β} (hy : ys[k]? = some y) :
    ∃ pre x post, xs = pre ++ x :: post ∧ R x y ∧
      ∀ x' y', R x' y' → List.Forall₂ R (pre ++ x' :: post) (ys.set k y') := by
  induction h generalizing k with
  | nil => simp at hy
  | @cons a c as cs hac has ih =>
    cases k with
    | zero =>
      obtain rfl : c = y := by simpa using hy
      exact ⟨[], a, as, rfl, hac, fun x' y' h => .cons h has⟩
    | succ k =>
      obtain ⟨pre, x, post, rfl, hxy, hset⟩ := ih (by simpa using hy)
      exact ⟨a :: pre, x, post, rfl, hxy, fun x' y' h => .cons hac (hset x' y' h)⟩

/-- The next call of a batch is one of its errand's, whatever the reply. -/
theorem At.next (h : At s b e) {k : Nat} {c : OutboxCall} {next : c.Reply → Batch}
    (hn : b.next? k = some ⟨c, next⟩) (store : Store) (now : Instant) (bus : Except BusError Unit) :
    ∃ e', e.Next s store now bus c e' ∧ At s (next (store.reply now bus c)) e' := by
  cases h with
  | claiming h =>
    cases h with
    | read h =>
      cases hn
      exact ⟨_, .read, .claiming (h now)⟩
    | list h =>
      cases hn
      exact ⟨_, .list _, .claiming (h _)⟩
    | @claim t taken todo m _ hgot hmissed =>
      cases hn
      dsimp only [Store.reply]
      cases hg : (store.tryClaim m.id s.workerId t (s.leaseCutoff t)).1 with
      | true => exact ⟨_, .claim hg, .claiming hgot⟩
      | false => exact ⟨_, .miss hg, .claiming hmissed⟩
    | count h =>
      cases hn
      exact ⟨_, .count _ _ _, .claiming h⟩
    | done => cases hn
  | @publishing desks topics h =>
    simp only [next?] at hn
    split at hn
    · next c' next' hk =>
      cases hn
      obtain ⟨pre, d, post, rfl, hd, hset⟩ := forall₂_split h hk
      cases hd with
      | offer hd => exact ⟨_, .offer pre post _ _, .publishing (hset _ _ (hd bus))⟩
      | glance hd => exact ⟨_, .glance _, .publishing (hset _ _ (hd now))⟩
      | settle hc hd => exact ⟨_, .settle pre post hc _, .publishing (hset _ _ (hd store now bus))⟩
      | count hd => exact ⟨_, .count _ _ _, .publishing (hset _ _ hd)⟩
    · cases hn

private theorem cleared {desks : List Desk} {topics : List (Program OutboxCall.Reply (Stored (List Settlement)))}
    (h : List.Forall₂ (Deliver.Delivers s) desks topics) (hended : topics.all ended = true) :
    ∀ d ∈ desks, d = ⟨none, []⟩ := by
  induction h with
  | nil => simp
  | @cons d p desks topics hd _ ih =>
    rw [List.all_cons, Bool.and_eq_true] at hended
    refine List.forall_mem_cons.mpr ⟨?_, ih hended.2⟩
    cases hd with
    | done => rfl
    | _ => cases hended.1

theorem At.proceed (h : At s b e) : ∃ e', e.Proceeds e' ∧ At s (b.proceed s) e' := by
  cases h with
  | @claiming _ rest h =>
    cases rest with
    | ask c next => exact ⟨e, .stay e, .claiming h⟩
    | done r =>
      cases h with
      | done t taken n =>
        refine ⟨_, .publish t taken, .publishing ?_⟩
        rw [Deliver.publishing, List.forall₂_map_left_iff, List.forall₂_map_right_iff, List.forall₂_same]
        intro g hg
        have hd := Deliver.delivers_publishAll (s := s) (Deliver.messageType_groups hg) (k := .done) .done
        rwa [Program.bind_done] at hd
  | @publishing desks topics h =>
    by_cases hall : topics.all ended = true
    · refine ⟨.reading, .begin ?_, ?_⟩
      · exact cleared h hall
      · rw [Batch.proceed, if_pos hall]
        exact .claiming (Deliver.claims_claimDue s)
    · refine ⟨_, .stay _, ?_⟩
      rw [Batch.proceed, if_neg hall]
      exact .publishing h

end Batch

/-- What is to be seen of a fleet at work. -/
structure Scene (ι : Type) where
  settings : ι → OutboxSettings
  store : Store
  clock : Instant
  errands : ι → Errand
  log : List (Exchange ι)

variable {ι : Type} [DecidableEq ι]

/-- Time passes, but shows no leap second, or a worker goes on with its errand. -/
inductive Scene.Step : Scene ι → Scene ι → Prop
  | tick (sc : Scene ι) {clock : Instant} (h : sc.clock ≤ clock) (hclock : ¬ clock.IsLeap) :
    Step sc { sc with clock }
  | proceed (sc : Scene ι) (i : ι) {e : Errand} (h : (sc.errands i).Proceeds e) :
    Step sc { sc with errands := Function.update sc.errands i e }
  | call (sc : Scene ι) (i : ι) {bus : Except BusError Unit} {c : OutboxCall} {e : Errand}
    (h : (sc.errands i).Next (sc.settings i) sc.store sc.clock bus c e) :
    Step sc { sc with
      store := sc.store.deliver c
      errands := Function.update sc.errands i e
      log := sc.log ++ [sc.store.exchange i sc.clock bus c] }

/-- What was made is not forgotten. -/
theorem Scene.Step.log_eq {sc sc' : Scene ι} (h : Step sc sc') : sc'.log = sc.log ∨ ∃ x, sc'.log = sc.log ++ [x] := by
  cases h with
  | tick | proceed => exact .inl rfl
  | call => exact .inr ⟨_, rfl⟩

/-- When one worker goes on, all do, the others by staying where they are. -/
theorem Errand.Proceeds.all {errands : ι → Errand} {i : ι} {e : Errand} (h : (errands i).Proceeds e) (j : ι) :
    (errands j).Proceeds (Function.update errands i e j) := by
  by_cases hj : j = i
  · subst hj
    rwa [Function.update_self]
  · rw [Function.update_of_ne hj]
    exact .stay _

namespace Fleet
variable {f : Fleet ι} {errands : ι → Errand}

def scene (f : Fleet ι) (errands : ι → Errand) : Scene ι :=
  { settings := f.settings, store := f.store, clock := f.clock, errands, log := f.log }

def At (f : Fleet ι) (errands : ι → Errand) : Prop := ∀ i, (f.batches i).At (f.settings i) (errands i)

theorem At.update (h : f.At errands) {i : ι} {b : Batch} {e : Errand} (hb : b.At (f.settings i) e) (j : ι) :
    (Function.update f.batches i b j).At (f.settings j) (Function.update errands i e j) := by
  by_cases hj : j = i
  · subst hj
    simpa using hb
  · simpa [hj] using h j

theorem settings_run (f : Fleet ι) (acts : List (Act ι)) : (f.run acts).settings = f.settings := by
  induction acts generalizing f with
  | nil => rfl
  | cons a rest ih =>
    refine (ih (f.step a)).trans ?_
    cases a <;> simp only [step] <;> split <;> rfl

/-- All that can happen to a fleet. -/
theorem At.step (h : f.At errands) {a : Act ι} (ha : ∀ t, a = .tick t → ¬ t.IsLeap) :
    ∃ errands', Relation.ReflTransGen Scene.Step (f.scene errands) ((f.step a).scene errands') ∧
      (f.step a).At errands' := by
  cases a with
  | tick clock =>
    by_cases hle : f.clock ≤ clock
    · refine ⟨errands, ?_, ?_⟩ <;> rw [Fleet.step, if_pos hle]
      · exact .single (.tick (f.scene errands) hle (ha clock rfl))
      · exact h
    · refine ⟨errands, ?_, ?_⟩ <;> rw [Fleet.step, if_neg hle]
      exact h
  | proceed i =>
    obtain ⟨e, hproceeds, hat⟩ := (h i).proceed
    exact ⟨_, .single (.proceed (f.scene errands) i hproceeds), h.update hat⟩
  | call i k bus =>
    cases hn : (f.batches i).next? k with
    | none =>
      refine ⟨errands, ?_, ?_⟩ <;> simp only [Fleet.step, hn]
      · exact .refl
      · exact h
    | some call =>
      obtain ⟨c, next⟩ := call
      obtain ⟨e, hnext, hat⟩ := (h i).next hn f.store f.clock bus
      refine ⟨Function.update errands i e, ?_, ?_⟩ <;> simp only [Fleet.step, hn]
      · exact .single (.call (f.scene errands) i hnext)
      · exact h.update hat

/-- A run of the workers is a run of their errands. -/
theorem At.run (h : f.At errands) {acts : List (Act ι)} (hticks : ∀ t, .tick t ∈ acts → ¬ t.IsLeap) :
    ∃ errands', Relation.ReflTransGen Scene.Step (f.scene errands) ((f.run acts).scene errands') ∧
      (f.run acts).At errands' := by
  induction acts generalizing f errands with
  | nil => exact ⟨errands, .refl, h⟩
  | cons a rest ih =>
    obtain ⟨errands₁, hstep, hat⟩ := h.step fun t ht => hticks t (ht ▸ List.mem_cons_self)
    obtain ⟨errands₂, hrun, hat⟩ := ih hat fun t ht => hticks t (List.mem_cons_of_mem a ht)
    exact ⟨errands₂, hstep.trans hrun, hat⟩

end Fleet

end Turnstile
