import Turnstile.Proofs.Allocation.Run
import Turnstile.Proofs.Concurrency.Tracking
import Turnstile.Proofs.Store.Prepared

/-!
Commands that run side by side come to the same end as some order of their transactions, one at a time.
-/

namespace Turnstile
variable {s s' : Store} {k₀ k k' l : Caller} {committing : Bool}

/-- The command `k` is where `k₀` will be, or they are the same if `k` is done. -/
structure Caller.Follows (s : Store) (k₀ k : Caller) : Prop where
  tracks : ∃ mode, Ruled mode k.program ∧ Caller.Tracks s k₀ k mode
  settled : k.result.isSome → k₀ = k

namespace Caller

theorem step_drawn (h : k.step s = some (s', k', committing)) : k.drawn <+: k'.drawn := by
  cases hp : k.program with
  | done a => simp [step, hp] at h
  | ask op next =>
    obtain ⟨n, hids⟩ := Session.answer_ids op (k.session s)
    rw [step, hp] at h
    dsimp only at h
    rcases ha : Session.answer op (k.session s) with ⟨_ | r, σ⟩ <;> rw [ha] at h hids <;> cases h
    have hids' : σ.ids = k.ids.skip n := hids
    simp only [drawn, resume, hids', Supply.skip, List.range_add, List.map_append]
    exact List.prefix_append _ _

/-- A command that is done after a call has ended there. -/
theorem Advance.landed_of_done (h : Advance s k₀ s' k' committing) (hdone : k'.result.isSome) :
    Ruled (.free none) k'.program ∧ k'.tx = {} ∧
      k₀.turn { s with locked := [] } = ({ s' with locked := [] }, k', committing) := by
  cases h with
  | landed hr htx hturn => exact ⟨hr, htx, hturn⟩
  | onward mode hr ht hs =>
    generalize hp : k'.program = p at hr
    cases hr with
    | done => 
      refine ⟨.done, ht.tx, ?_⟩
      rw [ht.turn _ rfl (by simp), turn_done hp, hs]
    | _ => simp [result, hp] at hdone

end Caller

/-- What holds of commands in progress in any order. -/
structure Config.Orderly (c : Config) (s₀ : Store) : Prop where
  keyed : c.store.Keyed
  events_keyed : c.store.events.KeyedBy ScheduledEvent.id
  known : ∀ id, (c.store.registrations.get? id).isSome → (s₀.registrations.get? id).isSome ∨ id ∈ c.drawn
  locks : (c.callers.flatMap fun k => k.tx.held).Perm c.store.locked
  locks_nodup : c.store.locked.Nodup

/-- The transactions of `c` that are over are those of `z`, where none is in progress. -/
structure Config.Simulates (z c : Config) : Prop where
  store : z.store = { c.store with locked := [] }
  committed : z.committed = c.committed
  length : z.callers.length = c.callers.length
  callers : ∀ (i : Nat) k, c.callers[i]? = some k →
    ∃ k₀, z.callers[i]? = some k₀ ∧ Caller.Follows c.store k₀ k

namespace Config
variable {c z : Config} {s₀ : Store} {i : Nat}

private theorem callers_split {cs : List Caller} (h : cs[i]? = some k) :
    ∃ before after, cs = before ++ k :: after ∧ ∀ k', cs.set i k' = before ++ k' :: after := by
  obtain ⟨hlt, rfl⟩ := List.getElem?_eq_some_iff.mp h
  have hset (k' : Caller) : cs.set i k' = cs.take i ++ k' :: cs.drop (i + 1) := by
    rw [List.set_eq_take_append_cons_drop, if_pos hlt]
  exact ⟨cs.take i, cs.drop (i + 1), by rw [← hset, List.set_getElem_self], hset⟩

/-- What two commands must not share, they do not share. -/
private theorem notMem_of_nodup {α : Type} {f : Caller → List α} {cs : List Caller} {j : Nat}
    (h : (cs.flatMap f).Nodup) (hk : cs[i]? = some k) (hl : cs[j]? = some l) (hne : j ≠ i) :
    ∀ x ∈ f l, x ∉ f k := by
  have hp := List.pairwise_iff_getElem.mp (List.nodup_flatMap.mp h).2
  obtain ⟨hi, rfl⟩ := List.getElem?_eq_some_iff.mp hk
  obtain ⟨hj, rfl⟩ := List.getElem?_eq_some_iff.mp hl
  rcases Nat.lt_or_gt_of_ne hne with hlt | hlt
  · exact fun x hx hx' => hp j i hj hi hlt hx hx'
  · exact fun x hx hx' => hp i j hi hj hlt hx' hx

section
variable (hk : c.callers[i]? = some k)
include hk

/-- A call changes the identifiers drawn in one place only. -/
private theorem drawn_update : ∃ before after, c.drawn = before ++ k.drawn ++ after ∧
    ∀ s' k' committing, (c.update i (s', k', committing)).drawn = before ++ k'.drawn ++ after := by
  obtain ⟨before, after, hc, hset⟩ := callers_split hk
  refine ⟨before.flatMap Caller.drawn, after.flatMap Caller.drawn, ?_, fun s' k' committing => ?_⟩
  · simp [drawn, hc]
  · simp [drawn, Config.update, hset]

end

theorem drawn_step (c : Config) (i : Nat) : c.drawn.Sublist (c.step i).drawn := by
  rw [step]
  split
  · next k hk =>
    rcases hs : k.step c.store with _ | ⟨s', k', committing⟩
    · exact .refl _
    · obtain ⟨before, after, hc, hc'⟩ := drawn_update hk
      rw [hc, Option.elim_some, hc']
      exact ((List.Sublist.refl _).append (Caller.step_drawn hs).sublist).append (.refl _)
  · exact .refl _

theorem Fresh.of_sublist {c' : Config} (h : c'.Fresh s₀) (hd : c.drawn.Sublist c'.drawn) : c.Fresh s₀ :=
  ⟨h.nodup.sublist hd, fun id hid => h.unused id (hd.mem hid)⟩

section
variable (hk : c.callers[i]? = some k)
include hk

/-- A newly drawn identifier is not in the store. -/
private theorem Orderly.unused (h : c.Orderly s₀) (hf : (c.update i (s', k', committing)).Fresh s₀)
    {id : RegistrationId} (hid : k'.drawn = k.drawn ++ [id]) : c.store.registrations.get? id = none := by
  obtain ⟨before, after, hc, hc'⟩ := drawn_update hk
  have hperm : (c.update i (s', k', committing)).drawn.Perm (id :: c.drawn) := by
    have hm : (before ++ k.drawn ++ id :: after).Perm (id :: (before ++ k.drawn ++ after)) := List.perm_middle
    rw [hc', hc, hid]
    simpa using hm
  by_contra hsome
  rcases h.known id (Option.isSome_iff_ne_none.mpr hsome) with hinit | hdrawn
  · simp [hf.unused id (hperm.mem_iff.mpr (.head _))] at hinit
  · exact (List.nodup_cons.mp (hperm.nodup_iff.mp hf.nodup)).1 hdrawn

private theorem Orderly.update (h : c.Orderly s₀) (heff : Caller.Effect c.store k k' s')
    (hdrawn : k.drawn <+: k'.drawn) : (c.update i (s', k', committing)).Orderly s₀ := by
  obtain ⟨before, after, hc, hset⟩ := callers_split hk
  have hlocks := h.locks
  rw [hc, List.flatMap_append, List.flatMap_cons, ← List.append_assoc] at hlocks
  obtain ⟨hlocks, hnodup⟩ := heff.locks hlocks h.locks_nodup
  refine ⟨heff.keyed h.keyed, heff.events_keyed h.events_keyed, fun id hid => ?_, ?_, hnodup⟩
  · obtain ⟨before, after, hc, hc'⟩ := drawn_update hk
    have hmem (hm : id ∈ c.drawn) : id ∈ (c.update i (s', k', committing)).drawn := by
      rw [hc] at hm
      rw [hc']
      simp only [List.mem_append] at hm ⊢
      exact hm.imp_left (.imp_right hdrawn.mem)
    have hk : id ∈ k.drawn → id ∈ c.drawn := fun hm => by simp [hc, hm]
    rcases heff.isSome hid with hold | hold
    · exact (h.known id hold).imp_right hmem
    · exact .inr (hmem (hk hold))
  · simpa [Config.update, hset] using hlocks

private theorem Simulates.update {k₁ : Caller} (h : z.Simulates c) (ho : c.Orderly s₀)
    (hn : c.drawn.Nodup) (heff : Caller.Effect c.store k k' s') (hfollows : Caller.Follows s' k₁ k') :
    (z.update i ({ s' with locked := [] }, k₁, committing)).Simulates (c.update i (s', k', committing)) where
  store := rfl
  committed := by simp [Config.update, h.committed]
  length := by simp [Config.update, h.length]
  callers j l hl := by
    obtain ⟨hlt, -⟩ := List.getElem?_eq_some_iff.mp hk
    change (c.callers.set i k')[j]? = some l at hl
    change ∃ l₀, (z.callers.set i k₁)[j]? = some l₀ ∧ Caller.Follows s' l₀ l
    rcases eq_or_ne j i with rfl | hne
    · rw [List.getElem?_set_self hlt] at hl
      obtain rfl := Option.some.inj hl
      exact ⟨k₁, List.getElem?_set_self (h.length ▸ hlt), hfollows⟩
    · rw [List.getElem?_set_ne hne.symm] at hl ⊢
      obtain ⟨l₀, hl₀, ⟨mode, hr, ht⟩, hsettled⟩ := h.callers j l hl
      have hheld := notMem_of_nodup (ho.locks.nodup_iff.mpr ho.locks_nodup) hk hl hne
      have hdrawn := notMem_of_nodup hn hk hl hne
      exact ⟨l₀, hl₀, ⟨mode, hr, heff.tracks ht ho.keyed hheld hdrawn⟩, hsettled⟩

end

/-- One call, and what becomes of the order of transactions. -/
theorem Simulates.step (h : z.Simulates c) (ho : c.Orderly s₀) (hf : (c.step i).Fresh s₀) :
    (c.step i).Orderly s₀ ∧ ((z.Simulates (c.step i)) ∨ (z.turn i).Simulates (c.step i)) := by
  rcases hk : c.callers[i]? with _ | k
  · have hstep : c.step i = c := by rw [Config.step, hk]
    exact hstep.symm ▸ ⟨ho, .inl h⟩
  rcases hs : k.step c.store with _ | ⟨s', k', committing⟩
  · have hstep : c.step i = c := by simp [Config.step, hk, hs]
    exact hstep.symm ▸ ⟨ho, .inl h⟩
  have hstep : c.step i = c.update i (s', k', committing) := by simp [Config.step, hk, hs]
  rw [hstep] at hf ⊢
  obtain ⟨k₀, hk₀, ⟨mode, hr, ht⟩, hsettled⟩ := h.callers i k hk
  obtain ⟨hadv, heff⟩ := Caller.advance hr ht ho.keyed ho.events_keyed hs fun id hid => ho.unused hk hf hid
  have hn : c.drawn.Nodup := (hf.of_sublist (hstep ▸ c.drawn_step i)).nodup
  refine ⟨ho.update hk heff (Caller.step_drawn hs), ?_⟩
  have hland (hr : Ruled (.free none) k'.program) (htx : k'.tx = {})
      (hturn : k₀.turn { c.store with locked := [] } = ({ s' with locked := [] }, k', committing)) :
      (z.turn i).Simulates (c.update i (s', k', committing)) := by
    have hz : z.turn i = z.update i ({ s' with locked := [] }, k', committing) := by
      simp only [turn, hk₀, h.store, hturn]
    rw [hz]
    exact h.update hk ho hn heff ⟨⟨.free none, hr, ⟨htx, by simp, fun _ _ _ => rfl⟩⟩, fun _ => rfl⟩
  by_cases hdone : k'.result.isSome
  · obtain ⟨hr', htx, hturn⟩ := hadv.landed_of_done hdone
    exact .inr (hland hr' htx hturn)
  cases hadv with
  | landed hr' htx hturn => exact .inr (hland hr' htx hturn)
  | onward mode' hr' ht' hlocked =>
    have hz : z.update i ({ s' with locked := [] }, k₀, false) = z := by
      obtain ⟨hlt, heq⟩ := List.getElem?_eq_some_iff.mp hk₀
      rw [Config.update, hlocked, ← h.store, ← heq, List.set_getElem_self]
      rfl
    have hup : (z.update i ({ s' with locked := [] }, k₀, false)).Simulates (c.update i (s', k', false)) :=
      h.update hk ho hn heff ⟨⟨mode', hr', ht'⟩, fun hd => absurd hd hdone⟩
    exact .inl (hz ▸ hup)

theorem drawn_foldl_step (c : Config) (schedule : List Nat) : c.drawn.Sublist (schedule.foldl step c).drawn := by
  induction schedule generalizing c with
  | nil => exact .refl _
  | cons i schedule ih => exact (c.drawn_step i).trans (ih (c.step i))

theorem Simulates.run (h : z.Simulates c) (ho : c.Orderly s₀) (schedule : List Nat)
    (hf : (schedule.foldl Config.step c).Fresh s₀) :
    (schedule.foldl Config.step c).Orderly s₀ ∧
      ∃ order, (List.foldl turn z order).Simulates (schedule.foldl Config.step c) := by
  induction schedule generalizing c z with
  | nil => exact ⟨ho, [], h⟩
  | cons i schedule ih =>
    obtain ⟨ho', h' | h'⟩ := h.step ho (hf.of_sublist (drawn_foldl_step (c.step i) schedule))
    · exact ih h' ho' hf
    · obtain ⟨hlast, order, horder⟩ := ih h' ho' hf
      exact ⟨hlast, i :: order, horder⟩

/-- No deadlock: while a command is not done, one of them can make a call. -/
theorem Simulates.progress (h : z.Simulates c) (ho : c.Orderly s₀) (hk : c.callers[i]? = some k)
    (hdone : ¬ k.result.isSome) :
    ∃ (j : Nat) (l : Caller), c.callers[j]? = some l ∧ (l.step c.store).isSome := by
  obtain ⟨k₀, -, ⟨mode, hr, ht⟩, -⟩ := h.callers i k hk
  rcases Caller.step_or_wait hr ht ho.keyed with hend | hstep | ⟨-, hlocked⟩
  · exact absurd hend hdone
  · exact ⟨i, k, hk, hstep⟩
  -- The lock that is waited for belongs to a command that holds it, and that one goes on.
  obtain ⟨event, hevent⟩ := List.exists_mem_of_ne_nil _ hlocked
  obtain ⟨l, hl, hheld⟩ := List.mem_flatMap.mp (ho.locks.mem_iff.mpr hevent)
  obtain ⟨j, hj⟩ := List.getElem?_of_mem hl
  obtain ⟨l₀, -, ⟨mode', hr', ht'⟩, -⟩ := h.callers j l hj
  rcases Caller.step_or_wait hr' ht' ho.keyed with hend | hstep | ⟨hnone, -⟩
  · generalize hp : l.program = p at hr'
    cases hr' with
    | done => simp [ht'.tx] at hheld
    | _ => simp [Caller.result, hp] at hend
  · exact ⟨j, l, hj, hstep⟩
  · simp [hnone] at hheld

/-- Once all commands are done there is nothing left to tell the two apart. -/
theorem Simulates.eq (h : z.Simulates c) (ho : c.Orderly s₀) (hdone : ∀ k ∈ c.callers, k.result.isSome) :
    z = c := by
  have hfollows : ∀ (i : Nat) k, c.callers[i]? = some k → z.callers[i]? = some k ∧ k.tx.held = [] := by
    intro i k hk
    obtain ⟨k₀, hk₀, ⟨mode, hr, ht⟩, hsettled⟩ := h.callers i k hk
    have hd := hdone k (List.mem_of_getElem? hk)
    generalize hp : k.program = p at hr
    cases hr with
    | done => exact ⟨hsettled hd ▸ hk₀, by rw [ht.tx]⟩
    | _ => simp [Caller.result, hp] at hd
  have hcallers : z.callers = c.callers := by
    refine List.ext_getElem? fun i => ?_
    rcases hk : c.callers[i]? with _ | k
    · exact List.getElem?_eq_none (h.length ▸ List.getElem?_eq_none_iff.mp hk)
    · exact (hfollows i k hk).1
  have hlocked : c.store.locked = [] := by
    have hnone : (c.callers.flatMap fun k => k.tx.held) = [] := by
      refine List.flatMap_eq_nil_iff.mpr fun k hk => ?_
      obtain ⟨i, hi⟩ := List.getElem?_of_mem hk
      exact (hfollows i k hi).2
    exact (hnone ▸ ho.locks).nil_eq.symm
  obtain ⟨zs, zk, zc⟩ := z
  obtain ⟨cs, ck, cc⟩ := c
  obtain rfl : zs = { cs with locked := [] } := h.store
  obtain rfl : zk = ck := hcallers
  obtain rfl : zc = cc := h.committed
  obtain ⟨events, registrants, registrations, outbox, locked, failOnCommit⟩ := cs
  obtain rfl : locked = [] := hlocked
  rfl

section
variable {store : Store} (calls : List (Command × Supply Instant × (Nat → Uuid)))

private theorem mem_start (hk : k ∈ (start store calls).callers) : ∃ c clock ids, k = .start c clock ids := by
  obtain ⟨⟨c, clock, ids⟩, -, rfl⟩ := List.mem_map.mp hk
  exact ⟨c, clock, ids, rfl⟩

theorem orderly_start (hk : store.Keyed) (he : store.events.KeyedBy ScheduledEvent.id) (hl : store.locked = []) :
    (start store calls).Orderly store where
  keyed := hk
  events_keyed := he
  known _ hid := .inl hid
  locks := by
    have hnone : ((start store calls).callers.flatMap fun k => k.tx.held) = [] := by
      refine List.flatMap_eq_nil_iff.mpr fun k hk => ?_
      obtain ⟨c, clock, ids, rfl⟩ := mem_start calls hk
      rfl
    rw [hnone]
    exact hl ▸ .refl _
  locks_nodup := hl ▸ .nil

theorem simulates_start (hl : store.locked = []) : (start store calls).Simulates (start store calls) where
  store := by
    change store = { store with locked := [] }
    rw [← hl]
  committed := rfl
  length := rfl
  callers i k hk := by
    obtain ⟨c, clock, ids, rfl⟩ := mem_start calls (List.mem_of_getElem? hk)
    exact ⟨_, hk, ⟨.free none, Allocate.ruled_command c, ⟨rfl, by simp, fun _ _ _ => rfl⟩⟩, fun _ => rfl⟩

/-- However the calls of some commands are interleaved, when all are done the store, the results and the order
of commits are those of some order of the transactions, one at a time. While some are not done, there is one that
does not have to wait. -/
theorem serializable (hk : store.Keyed) (he : store.events.KeyedBy ScheduledEvent.id) (hl : store.locked = [])
    (schedule : List Nat) (hf : (schedule.foldl step (start store calls)).Fresh store) :
    let c := schedule.foldl step (start store calls)
    ((∀ k ∈ c.callers, k.result.isSome) → ∃ order, List.foldl turn (start store calls) order = c) ∧
      ((∃ k ∈ c.callers, ¬ k.result.isSome) →
        ∃ (j : Nat) (l : Caller), c.callers[j]? = some l ∧ (l.step c.store).isSome) := by
  intro c
  obtain ⟨ho, order, h⟩ := (simulates_start calls hl).run (orderly_start calls hk he hl) schedule hf
  refine ⟨fun hdone => ⟨order, h.eq ho hdone⟩, ?_⟩
  rintro ⟨k, hmem, hk⟩
  obtain ⟨i, hi⟩ := List.getElem?_of_mem hmem
  exact h.progress ho hi hk

/-- Two who want the one seat, call by call. Halfway one of them waits for the lock, and the other goes on. -/
theorem serializable_oneSeat :
    let store := Store.prepared [.oneSeat] [⟨⟨⟨0, 2⟩⟩, "a"⟩, ⟨⟨⟨0, 3⟩⟩, "b"⟩]
    let calls := [(Command.register ScheduledEvent.oneSeat.id ⟨⟨0, 2⟩⟩, Supply.constant default,
        (IdSupply.counting 1 2).item),
      (.register ScheduledEvent.oneSeat.id ⟨⟨0, 3⟩⟩, .constant default, (IdSupply.counting 2 2).item)]
    let c (n : Nat) := ((List.range n).map (· % 2)).foldl step (start store calls)
    (∃ order, List.foldl turn (start store calls) order = c 50) ∧
      ∃ (j : Nat) (l : Caller), (c 10).callers[j]? = some l ∧ (l.step (c 10).store).isSome := by
  intro store calls c
  have hfresh (n : Nat) (hn : (c n).drawn.Nodup) : (c n).Fresh store := by
    refine ⟨hn, fun id _ => ?_⟩
    rw [Store.prepared_registrations]
    rfl
  have hall (n : Nat) (hn : (c n).drawn.Nodup) := serializable calls (Store.prepared_lawful _ _).keyed
    (Store.prepared_lawful _ _).events_keyed (Store.prepared_locked _ _) _ (hfresh n hn)
  refine ⟨(hall 50 ?_).1 ?_, (hall 10 ?_).2 ?_⟩ <;> decide +kernel

end

end Config
end Turnstile
