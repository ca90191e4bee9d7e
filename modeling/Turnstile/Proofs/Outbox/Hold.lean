import Turnstile.Proofs.Outbox.Scene
import Mathlib.Data.List.Perm.Subperm

/-!
What each outbox worker has in hand at any time: copies of distinct rows of the store, which carry the time of
its claim once it has claimed them.
-/

namespace Turnstile
open scoped List

namespace Deliver

private theorem nodup_eraseDups (topics : List String) : topics.eraseDups.Nodup := by
  match topics with
  | [] => exact .nil
  | a :: rest =>
    rw [List.eraseDups_cons]
    refine List.nodup_cons.mpr ⟨fun ha => ?_, nodup_eraseDups _⟩
    simp [List.mem_eraseDups] at ha
termination_by topics.length
decreasing_by
  rw [List.length_cons]
  have := List.length_filter_le (fun b => !b == a) rest
  omega

private theorem flatMap_filter_perm {topics : List String} (ht : topics.Nodup) (rows : List OutboxMessage) :
    (topics.flatMap fun t => rows.filter fun m => m.messageType = t) ~ rows.filter fun m => m.messageType ∈ topics := by
  induction topics with
  | nil => simp
  | cons t rest ih =>
    obtain ⟨hnew, hrest⟩ := List.nodup_cons.mp ht
    have hsplit := List.filter_append_perm (fun m : OutboxMessage => decide (m.messageType = t))
      (rows.filter fun m => m.messageType ∈ t :: rest)
    rw [List.filter_filter, List.filter_filter] at hsplit
    have hfirst : (rows.filter fun m => decide (m.messageType = t) && decide (m.messageType ∈ t :: rest)) =
        rows.filter fun m => m.messageType = t := by
      refine List.filter_congr fun m _ => ?_
      by_cases hm : m.messageType = t <;> simp [hm]
    have hothers : (rows.filter fun m => !decide (m.messageType = t) && decide (m.messageType ∈ t :: rest)) =
        rows.filter fun m => m.messageType ∈ rest := by
      refine List.filter_congr fun m _ => ?_
      by_cases hm : m.messageType = t
      · simp [hm, hnew]
      · simp [hm]
    rw [hfirst, hothers] at hsplit
    exact ((ih hrest).append_left _).trans hsplit

/-- The topics share out the rows. -/
theorem groups_perm (rows : List OutboxMessage) : (groups rows).flatMap Prod.snd ~ rows := by
  have hperm := List.mergeSort_perm (rows.map OutboxMessage.messageType).eraseDups fun a b => a ≤ b
  have hnodup := nodup_eraseDups (rows.map OutboxMessage.messageType)
  have hall : (rows.filter fun m => m.messageType ∈
      (rows.map OutboxMessage.messageType).eraseDups.mergeSort fun a b => a ≤ b) = rows := by
    refine List.filter_eq_self.mpr fun m hm => ?_
    rw [decide_eq_true_eq, hperm.mem_iff, List.mem_eraseDups]
    exact List.mem_map_of_mem hm
  have hshared := flatMap_filter_perm (hperm.nodup_iff.mpr hnodup) rows
  rw [hall] at hshared
  rw [groups, List.flatMap_map]
  exact hshared

/-- Every topic comes once. -/
theorem nodup_topics (rows : List OutboxMessage) : ((groups rows).map Prod.fst).Nodup := by
  rw [groups, List.map_map]
  refine (List.map_id _).symm ▸ ?_
  exact (List.mergeSort_perm _ _).nodup_iff.mpr (nodup_eraseDups (rows.map OutboxMessage.messageType))

end Deliver

theorem Store.claimable_sublist (s : Store) (limit : Nat) (now cutoff : Instant) :
    ∃ rows, rows ~ s.outbox.filter (fun m => m.isClaimable now cutoff) ∧ (s.claimable limit now cutoff).Sublist rows :=
  ⟨_, List.mergeSort_perm _ _, List.take_sublist _ _⟩

/-- The rows of a topic that are claimed and not settled. -/
def Desk.held (d : Desk) : List OutboxMessage := d.offered.toList.map Prod.fst ++ d.rows

namespace Errand

/-- The rows that a worker has claimed and not settled. -/
def held : Errand → List OutboxMessage
  | claiming _ taken _ => taken
  | publishing desks => desks.flatMap Desk.held
  | reading | listing _ => []

/-- The rows that a worker has listed and will try to claim. -/
def todo : Errand → List OutboxMessage
  | claiming _ _ todo => todo
  | reading | listing _ | publishing _ => []

/-- The rows that a worker has handed to the bus and not settled. -/
def offered : Errand → List (OutboxMessage × Except BusError Unit)
  | publishing desks => desks.flatMap fun d => d.offered.toList
  | reading | listing _ | claiming _ _ _ => []

/-- The time with which a worker claims rows. -/
def since? : Errand → Option Instant
  | listing t | claiming t _ _ => some t
  | reading | publishing _ => none

/-- The time with which a worker claims rows that it has listed. -/
def claiming? : Errand → Option Instant
  | claiming t _ _ => some t
  | reading | listing _ | publishing _ => none

variable {e e' : Errand}

theorem since?_of_claiming? {t : Instant} (h : e.claiming? = some t) : e.since? = some t := by
  cases e with
  | claiming => exact h
  | reading | listing | publishing => cases h

theorem held_publishing_append (pre post : List Desk) (d : Desk) :
    (publishing (pre ++ d :: post)).held = pre.flatMap Desk.held ++ (d.held ++ post.flatMap Desk.held) := by
  rw [held, List.flatMap_append, List.flatMap_cons]

theorem offered_publishing_append (pre post : List Desk) (d : Desk) :
    (publishing (pre ++ d :: post)).offered =
      (pre.flatMap fun d => d.offered.toList) ++ (d.offered.toList ++ post.flatMap fun d => d.offered.toList) := by
  rw [offered, List.flatMap_append, List.flatMap_cons]

theorem held_of_offered {o : OutboxMessage × Except BusError Unit} (h : o ∈ e.offered) : o.1 ∈ e.held := by
  cases e with
  | publishing desks =>
    obtain ⟨d, hd, ho⟩ := List.mem_flatMap.mp h
    exact List.mem_flatMap.mpr ⟨d, hd, List.mem_append_left _ (List.mem_map_of_mem ho)⟩
  | _ => cases h

/-- Nobody gets rows by going on without a call, and only a claim begins with none. -/
theorem Proceeds.held_perm (h : e.Proceeds e') : e'.held ~ e.held := by
  cases h with
  | stay => exact .refl _
  | publish t taken =>
    have hdesks : (publishing ((Deliver.groups taken).map fun g => ⟨none, g.2⟩)).held =
        (Deliver.groups taken).flatMap Prod.snd := by
      rw [held, List.flatMap_map]
      rfl
    rw [hdesks]
    exact Deliver.groups_perm taken
  | @begin desks h =>
    have hnone : desks.flatMap Desk.held = [] :=
      List.flatMap_eq_nil_iff.mpr fun d hd => by rw [h d hd]; rfl
    rw [held, held, hnone]

theorem Proceeds.offered (h : e.Proceeds e') : e'.offered = e.offered := by
  cases h with
  | stay => rfl
  | publish t taken =>
    rw [Errand.offered, List.flatMap_map]
    exact List.flatMap_eq_nil_iff.mpr fun _ _ => rfl
  | @begin desks h =>
    exact (List.flatMap_eq_nil_iff.mpr fun d hd => by rw [h d hd]; rfl).symm

theorem Proceeds.todo_cases (h : e.Proceeds e') : e' = e ∨ e'.todo = [] ∧ e'.since? = none := by
  cases h with
  | stay => exact .inl rfl
  | publish | begin => exact .inr ⟨rfl, rfl⟩

namespace Next
variable {s : OutboxSettings} {store : Store} {now : Instant} {bus : Except BusError Unit} {c : OutboxCall}
  {m : OutboxMessage} {o : OutboxMessage × Except BusError Unit}

/-- Rows come into the hands of a worker by claims. -/
theorem held_cases (h : e.Next s store now bus c e') (hm : m ∈ e'.held) : m ∈ e.held ∨ ∃ t, e.since? = some t ∧
    ∃ m₀ ∈ e.todo, c = .tryClaim m₀.id s.workerId t (s.leaseCutoff t) ∧ store.grants c = true ∧
      m = m₀.claim s.workerId t := by
  cases h with
  | count | glance | miss => exact .inl hm
  | read | list => cases hm
  | claim h =>
    rcases List.mem_append.mp hm with hm | hm
    · exact .inl hm
    · exact .inr ⟨_, rfl, _, List.mem_cons_self, rfl, h, List.mem_singleton.mp hm⟩
  | offer pre post m rows =>
    rw [held_publishing_append] at hm ⊢
    exact .inl hm
  | settle pre post hc rows =>
    rw [held_publishing_append] at hm ⊢
    exact .inl (((List.sublist_cons_self _ rows).append_right _).append_left _ |>.subset hm)

/-- What a worker will try to claim it has seen in the store when it listed the due rows. -/
theorem todo_cases (h : e.Next s store now bus c e') (hm : m ∈ e'.todo) :
    m ∈ e.todo ∨ m ∈ store.outbox ∧ c.lists = true := by
  cases h with
  | count => exact .inl hm
  | read | glance | offer | settle => cases hm
  | list t =>
    obtain ⟨rows, hperm, hsub⟩ := store.claimable_sublist s.batchSize t (s.leaseCutoff t)
    exact .inr ⟨(List.mem_filter.mp (hperm.mem_iff.mp (hsub.subset hm))).1, rfl⟩
  | claim | miss => exact .inl (List.mem_cons_of_mem _ hm)

/-- Who lists the due rows starts with nothing else. -/
theorem todo_of_lists (h : e.Next s store now bus c e') (hc : c.lists = true) : e.todo = [] := by
  cases h with
  | list => rfl
  | settle pre post hcall rows => cases hcall <;> cases hc
  | count | read | claim | miss | offer | glance => cases hc

theorem claiming_cases (h : e.Next s store now bus c e') {t : Instant} (ht : e'.claiming? = some t) :
    e.claiming? = some t ∨ c.lists = true := by
  cases h with
  | count | claim | miss => exact .inl ht
  | list => exact .inr rfl
  | read | offer | glance | settle => cases ht

/-- Only what was listed is claimed. -/
theorem of_tryClaim {id : MessageId} {worker : String} {t cutoff : Instant}
    (h : e.Next s store now bus (.tryClaim id worker t cutoff) e') :
    e.claiming? = some t ∧ worker = s.workerId ∧ cutoff = s.leaseCutoff t ∧ ∃ m ∈ e.todo, m.id = id := by
  cases h with
  | claim | miss => exact ⟨rfl, rfl, rfl, _, List.mem_cons_self, rfl⟩
  | settle pre post hc rows => cases hc

private theorem others {pre post : List Desk} {d : Desk} {rows : List OutboxMessage} (hd : d.held = m :: rows)
    (hids : ((publishing (pre ++ d :: post)).held.map OutboxMessage.id).Nodup) :
    ∀ o ∈ (pre.flatMap fun d => d.offered.toList) ++ post.flatMap fun d => d.offered.toList, o.1.id ≠ m.id := by
  rw [held_publishing_append, hd, List.cons_append, List.map_append, List.map_cons, List.nodup_middle,
    List.nodup_cons, List.mem_append] at hids
  intro o ho hid
  refine hids.1 (hid ▸ ?_)
  rcases List.mem_append.mp ho with ho | ho
  · exact .inl (List.mem_map_of_mem (held_of_offered (e := publishing pre) ho))
  · exact .inr (List.mem_map_of_mem (List.mem_append_right _ (held_of_offered (e := publishing post) ho)))

/-- Only what is in hand and is not with the bus is published, under its own topic. -/
theorem of_publish {topic : String} (h : e.Next s store now bus (.publish topic m) e')
    (hids : (e.held.map OutboxMessage.id).Nodup) :
    topic = m.messageType ∧ m ∈ e.held ∧ (∀ o ∈ e.offered, o.1.id ≠ m.id) ∧ (m, bus) ∈ e'.offered := by
  cases h with
  | offer pre post m rows =>
    refine ⟨rfl, ?_, ?_, ?_⟩
    · rw [held_publishing_append]
      exact List.mem_append_right _ List.mem_cons_self
    · rw [offered_publishing_append]
      exact others rfl hids
    · rw [offered_publishing_append]
      exact List.mem_append_right _ List.mem_cons_self
  | settle pre post hc rows => cases hc

/-- What is settled was handed to the bus. -/
theorem of_settled {x : MessageId × String} (h : e.Next s store now bus c e') (hc : c.settled? = some x) :
    ∃ o ∈ e.offered, Settlement.Call s o.1 o.2 c ∧ x = (o.1.id, s.workerId) := by
  cases h with
  | count | read | list | claim | miss | offer | glance => cases hc
  | @settle pre post m outcome c hcall rows =>
    refine ⟨(m, outcome), ?_, hcall, ?_⟩
    · rw [offered_publishing_append]
      exact List.mem_append_right _ List.mem_cons_self
    · cases hcall <;> exact (Option.some_inj.mp hc).symm

/-- What is settled is out of hand. -/
theorem not_held_of_settled {x : MessageId × String} (h : e.Next s store now bus c e') (hc : c.settled? = some x)
    (hids : (e.held.map OutboxMessage.id).Nodup) : ∀ m ∈ e'.held, m.id ≠ x.1 := by
  cases h with
  | count | read | list | claim | miss | offer | glance => cases hc
  | @settle pre post m outcome c hcall rows =>
    have hid : x.1 = m.id := by
      cases hcall <;> (obtain rfl := Option.some_inj.mp hc; rfl)
    rw [held_publishing_append] at hids ⊢
    change ((_ ++ m :: (rows ++ _)).map OutboxMessage.id).Nodup at hids
    rw [List.map_append, List.map_cons, List.nodup_middle, ← List.map_append, List.nodup_cons] at hids
    intro y hy hyid
    refine hids.1 ?_
    rw [← hid, ← hyid]
    exact List.mem_map_of_mem hy

/-- What was handed to the bus stays so until it is settled. -/
theorem offered_or_settled (h : e.Next s store now bus c e') (ho : o ∈ e.offered) :
    o ∈ e'.offered ∨ Settlement.Call s o.1 o.2 c := by
  cases h with
  | count | glance => exact .inl ho
  | read | list | claim | miss => cases ho
  | offer pre post m rows =>
    rw [offered_publishing_append] at ho ⊢
    exact .inl (((List.sublist_append_right _ _).append_left _).subset ho)
  | @settle pre post m outcome c hc rows =>
    rw [offered_publishing_append] at ho ⊢
    rcases List.mem_append.mp ho with ho | ho
    · exact .inl (List.mem_append_left _ ho)
    · rcases List.mem_cons.mp ho with rfl | ho
      · exact .inr hc
      · exact .inl (List.mem_append_right _ ho)

/-- What is handed to the bus and not settled was so before, or was just handed over. -/
theorem offered_cases (h : e.Next s store now bus c e') (hids : (e.held.map OutboxMessage.id).Nodup)
    (ho : o ∈ e'.offered) : o ∈ e.offered ∧ (∀ x, c.settled? = some x → x.1 ≠ o.1.id) ∨
      c = .publish o.1.messageType o.1 ∧ o.2 = bus := by
  cases h with
  | count | glance => exact .inl ⟨ho, fun x hx => by cases hx⟩
  | read | list | claim | miss => cases ho
  | offer pre post m rows =>
    rw [offered_publishing_append] at ho ⊢
    rcases List.mem_append.mp ho with ho | ho
    · exact .inl ⟨List.mem_append_left _ ho, fun x hx => by cases hx⟩
    · rcases List.mem_cons.mp ho with rfl | ho
      · exact .inr ⟨rfl, rfl⟩
      · exact .inl ⟨List.mem_append_right _ ho, fun x hx => by cases hx⟩
  | @settle pre post m outcome c hc rows =>
    rw [offered_publishing_append] at ho ⊢
    have hid : ∀ x, c.settled? = some x → x.1 = m.id := by
      intro x hx
      cases hc <;> (obtain rfl := Option.some_inj.mp hx; rfl)
    refine .inl ⟨((List.sublist_cons_self _ _).append_left _).subset ho, fun x hx hxo => ?_⟩
    exact others rfl hids o ho (hxo.symm.trans (hid x hx))

end Next

end Errand

/-- Distinct rows of those with the given contents, claimed by a clock that has not gone beyond `now`. -/
structure Errand.Sound (e : Errand) (now : Instant) (origin : List (MessageId × String × Json × Instant)) : Prop where
  nodup : ((e.held ++ e.todo).map OutboxMessage.id).Nodup
  copies : ∀ m ∈ e.held ++ e.todo, m.content ∈ origin
  claimed : ∀ m ∈ e.held, ∃ t, m.claimedAt = some t ∧ ¬ t.IsLeap
  begun : ∀ t, e.since? = some t → t ≤ now ∧ ¬ t.IsLeap

namespace Errand.Sound
variable {e e' : Errand} {now : Instant} {origin : List (MessageId × String × Json × Instant)}

theorem tick (h : e.Sound now origin) {now' : Instant} (hle : now ≤ now') : e.Sound now' origin where
  nodup := h.nodup
  copies := h.copies
  claimed := h.claimed
  begun t ht := ⟨(h.begun t ht).1.trans hle, (h.begun t ht).2⟩

theorem nodup_held (h : e.Sound now origin) : (e.held.map OutboxMessage.id).Nodup :=
  ((List.sublist_append_left _ _).map _).nodup h.nodup

theorem held_ne_todo (h : e.Sound now origin) {m m' : OutboxMessage} (hm : m ∈ e.held) (hm' : m' ∈ e.todo) :
    m.id ≠ m'.id := by
  have hids := h.nodup
  rw [List.map_append, List.nodup_append] at hids
  exact hids.2.2 _ (List.mem_map_of_mem hm) _ (List.mem_map_of_mem hm')

/-- Whatever becomes of rows in hand, they were in hand before, with the time of the claim once they are claimed. -/
private theorem of_subperm (h : e.Sound now origin)
    (hsub : ((e'.held ++ e'.todo).map OutboxMessage.id).Subperm ((e.held ++ e.todo).map OutboxMessage.id))
    (hcopies : ∀ m ∈ e'.held ++ e'.todo, m.content ∈ origin)
    (hclaimed : ∀ m ∈ e'.held, ∃ t, m.claimedAt = some t ∧ ¬ t.IsLeap)
    (hbegun : e'.since? = e.since? ∨ e'.since? = none) : e'.Sound now origin where
  nodup := by
    obtain ⟨ids, hperm, hsub⟩ := hsub
    exact hperm.nodup_iff.mp (hsub.nodup h.nodup)
  copies := hcopies
  claimed := hclaimed
  begun t ht := by
    rcases hbegun with hsame | hnone
    · exact h.begun t (hsame ▸ ht)
    · rw [hnone] at ht
      cases ht

theorem proceeds (h : e.Sound now origin) (hp : e.Proceeds e') : e'.Sound now origin := by
  rcases hp.todo_cases with rfl | ⟨htodo, hsince⟩
  · exact h
  · have hperm : e'.held ++ e'.todo ~ e.held := by
      rw [htodo, List.append_nil]
      exact hp.held_perm
    have hsub : e.held.Sublist (e.held ++ e.todo) := List.sublist_append_left _ _
    refine h.of_subperm ((hperm.map _).subperm.trans (hsub.map _).subperm) (fun m hm => ?_) (fun m hm => ?_)
      (.inr hsince)
    · exact h.copies m (hsub.subset (hperm.mem_iff.mp hm))
    · exact h.claimed m (hp.held_perm.mem_iff.mp hm)

theorem next {s : OutboxSettings} {store : Store} {bus : Except BusError Unit} {c : OutboxCall}
    (h : e.Sound now origin) (hnow : ¬ now.IsLeap) (hstore : store.Numbered)
    (hcontents : store.outbox.map OutboxMessage.content = origin) (hn : e.Next s store now bus c e') :
    e'.Sound now origin := by
  cases hn with
  | count | glance => exact h
  | read =>
    exact {
      nodup := .nil
      copies := fun m hm => by cases hm
      claimed := fun m hm => by cases hm
      begun := fun t ht => by
        obtain rfl := Option.some_inj.mp ht
        exact ⟨le_rfl, hnow⟩ }
  | list t =>
    obtain ⟨rows, hperm, hsub⟩ := store.claimable_sublist s.batchSize t (s.leaseCutoff t)
    have hrows : ∀ m ∈ store.claimable s.batchSize t (s.leaseCutoff t), m ∈ store.outbox := fun m hm =>
      (List.mem_filter.mp (hperm.mem_iff.mp (hsub.subset hm))).1
    exact {
      nodup := by
        refine (hsub.map _).nodup ((hperm.map _).nodup_iff.mpr ?_)
        exact (List.filter_sublist.map _).nodup hstore
      copies := fun m hm => hcontents ▸ List.mem_map_of_mem (hrows m hm)
      claimed := fun m hm => by cases hm
      begun := h.begun }
  | @claim t taken rest m =>
    have hids : ((taken ++ [m.claim s.workerId t] ++ rest).map OutboxMessage.id) =
        (taken ++ m :: rest).map OutboxMessage.id := by
      simp [OutboxMessage.claim]
    refine h.of_subperm (List.Perm.of_eq hids).subperm ?_ ?_ (.inl rfl)
    · intro x hx
      have hold := h.copies
      simp only [held, todo, List.mem_append, List.mem_cons, List.not_mem_nil, or_false] at hx hold
      rcases hx with (hx | rfl) | hx
      · exact hold x (.inl hx)
      · exact hold m (.inr (.inl rfl))
      · exact hold x (.inr (.inr hx))
    · intro x hx
      rcases List.mem_append.mp hx with hx | hx
      · exact h.claimed x hx
      · obtain rfl := List.mem_singleton.mp hx
        exact ⟨t, rfl, (h.begun t rfl).2⟩
  | @miss t taken rest m =>
    have hsub : (taken ++ rest).Sublist (taken ++ m :: rest) := (List.sublist_cons_self m rest).append_left taken
    exact h.of_subperm (hsub.map _).subperm (fun x hx => h.copies x (hsub.subset hx)) h.claimed (.inl rfl)
  | offer pre post m rows =>
    have hheld : (publishing (pre ++ ⟨some (m, bus), rows⟩ :: post)).held =
        (publishing (pre ++ ⟨none, m :: rows⟩ :: post)).held := by
      rw [held_publishing_append, held_publishing_append]
      rfl
    exact ⟨hheld ▸ h.nodup, hheld ▸ h.copies, hheld ▸ h.claimed, h.begun⟩
  | @settle pre post m outcome c hc rows =>
    have hsub : (publishing (pre ++ ⟨none, rows⟩ :: post)).held.Sublist
        (publishing (pre ++ ⟨some (m, outcome), rows⟩ :: post)).held := by
      rw [held_publishing_append, held_publishing_append]
      exact ((List.sublist_cons_self m rows).append_right _).append_left _
    have hall := hsub.append_right []
    exact h.of_subperm (hall.map _).subperm (fun x hx => h.copies x (hall.subset hx))
      (fun x hx => h.claimed x (hsub.subset hx)) (.inl rfl)

end Errand.Sound

namespace Scene
variable {ι : Type} {sc sc' : Scene ι} {origin : List (MessageId × String × Json × Instant)}

/-- The store has the rows with which it began, and every worker sound copies of some of them. -/
structure Sound (sc : Scene ι) (origin : List (MessageId × String × Json × Instant)) : Prop where
  numbered : sc.store.Numbered
  contents : sc.store.outbox.map OutboxMessage.content = origin
  errands : ∀ i, (sc.errands i).Sound sc.clock origin
  clock : ¬ sc.clock.IsLeap

/-- What the worker has in hand that made a call, and what the others have. -/
theorem held_update [DecidableEq ι] {i j : ι} {bus : Except BusError Unit} {c : OutboxCall} {e : Errand}
    {m : OutboxMessage} (hn : (sc.errands i).Next (sc.settings i) sc.store sc.clock bus c e)
    (hm : m ∈ (Function.update sc.errands i e j).held) : m ∈ (sc.errands j).held ∨ j = i ∧
      ∃ t, (sc.errands i).since? = some t ∧ ∃ m₀ ∈ (sc.errands i).todo,
        c = .tryClaim m₀.id (sc.settings i).workerId t ((sc.settings i).leaseCutoff t) ∧ sc.store.grants c = true ∧
          m = m₀.claim (sc.settings i).workerId t := by
  by_cases hj : j = i
  · subst hj
    rw [Function.update_self] at hm
    exact (hn.held_cases hm).imp_right fun h => ⟨rfl, h⟩
  · rw [Function.update_of_ne hj] at hm
    exact .inl hm

theorem Sound.step [DecidableEq ι] (h : sc.Sound origin) (hs : Step sc sc') : sc'.Sound origin := by
  cases hs with
  | tick hle hclock => exact ⟨h.numbered, h.contents, fun i => (h.errands i).tick hle, hclock⟩
  | proceed i hp => exact ⟨h.numbered, h.contents, fun j => (h.errands j).proceeds (hp.all j), h.clock⟩
  | @call i bus c e hn =>
    refine ⟨h.numbered.deliver c, (sc.store.contents_deliver h.numbered c).trans h.contents, fun j => ?_, h.clock⟩
    by_cases hj : j = i
    · subst hj
      simpa using (h.errands j).next h.clock h.numbered h.contents hn
    · simpa [hj] using h.errands j

/-- A row in hand is one of the store's. -/
theorem Sound.exists_row (h : sc.Sound origin) {i : ι} {m : OutboxMessage}
    (hm : m ∈ (sc.errands i).held ++ (sc.errands i).todo) : ∃ row ∈ sc.store.outbox, row.content = m.content := by
  have hcopy := (h.errands i).copies m hm
  rw [← h.contents] at hcopy
  exact List.mem_map.mp hcopy

/-- What is in hand is a copy of the row with its identifier. -/
theorem Sound.content_eq (h : sc.Sound origin) {i : ι} {m row : OutboxMessage}
    (hm : m ∈ (sc.errands i).held ++ (sc.errands i).todo) (hrow : row ∈ sc.store.outbox) (hid : row.id = m.id) :
    row.content = m.content := by
  obtain ⟨row', hrow', hcontent⟩ := h.exists_row hm
  have hid' : row'.id = m.id := congrArg Prod.fst hcontent
  rwa [h.numbered.eq_of_id hrow hrow' (hid.trans hid'.symm)]

theorem sound_start {store : Store} (hids : store.Numbered) (settings : ι → OutboxSettings) {clock : Instant}
    (hclock : ¬ clock.IsLeap) : Sound { settings, store, clock, errands := fun _ => .publishing [], log := [] }
      (store.outbox.map OutboxMessage.content) where
  numbered := hids
  contents := rfl
  errands _ := {
    nodup := .nil
    copies := fun m hm => by cases hm
    claimed := fun m hm => by cases hm
    begun := fun t ht => by cases ht }
  clock := hclock

end Scene

end Turnstile
