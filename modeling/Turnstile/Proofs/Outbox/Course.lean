import Turnstile.Proofs.Outbox.Hold
import Turnstile.Proofs.Program

/-!
The course of one batch in a world that others change as they like between any two of its calls. While topics are
published their calls may come in any order, each topic's in its own.
-/

namespace Turnstile
open scoped List

/-- The world as a call finds it: whatever the earlier calls and other workers have made of the store, the time, what
the bus will say, and whether the store fails. -/
structure Moment where
  store : Store
  numbered : store.Numbered
  time : Instant
  bus : Except BusError Unit := .ok ()
  fault : Option StoreError := none

/-- The reply when the store fails, if the call is one to the store. -/
def OutboxCall.refusal? : (c : OutboxCall) → StoreError → Option c.Reply
  | .now, _ | .count _ _, _ | .publish _ _, _ => none
  | .claimable _ _ _, cause => some (.error cause)
  | .tryClaim _ _ _ _, cause | .markProcessed _ _ _, cause | .markRetry _ _ _ _ _, cause | .markFailed _ _ _ _, cause =>
    some (.error cause)

def Moment.reply (w : Moment) (c : OutboxCall) : c.Reply :=
  (w.fault.bind c.refusal?).getD (w.store.reply w.time w.bus c)

theorem Moment.reply_now (w : Moment) : w.reply .now = w.time := by
  cases hf : w.fault <;> rw [Moment.reply, hf] <;> rfl

/-- A call with the world that it found. -/
structure Inquiry where
  call : OutboxCall
  moment : Moment

namespace Deliver
variable {α β : Type}

/-- A program makes the calls of a log, in order, and comes to a result. -/
def Ran : Program OutboxCall.Reply α → List Inquiry → α → Prop
  | .done b, log, a => log = [] ∧ b = a
  | .ask c next, log, a => ∃ w rest, log = ⟨c, w⟩ :: rest ∧ Ran (next (w.reply c)) rest a

theorem Ran.bind {p : Program OutboxCall.Reply α} {f : α → Program OutboxCall.Reply β} {log : List Inquiry} {b : β}
    (h : Ran (p.bind f) log b) : ∃ first a rest, log = first ++ rest ∧ Ran p first a ∧ Ran (f a) rest b := by
  induction p generalizing log with
  | done a => exact ⟨[], a, log, rfl, ⟨rfl, rfl⟩, h⟩
  | ask c next ih =>
    obtain ⟨w, log, rfl, h⟩ := h
    obtain ⟨first, a, rest, rfl, hp, hf⟩ := ih _ h
    exact ⟨⟨c, w⟩ :: first, a, rest, rfl, ⟨w, first, rfl, hp⟩, hf⟩

/-- Whoever gets to a result got through every part. -/
theorem Ran.bind_ok {p : Deliver α} {f : α → Deliver β} {log : List Inquiry} {b : β}
    (h : Ran (p >>= f).run log (.ok b)) :
    ∃ first a rest, log = first ++ rest ∧ Ran p.run first (.ok a) ∧ Ran (f a).run rest (.ok b) := by
  obtain ⟨first, a | a, rest, rfl, hp, hf⟩ := Ran.bind (p := p.run) h
  · cases hf.2
  · exact ⟨first, a, rest, rfl, hp, hf⟩

end Deliver

namespace Batch

/-- The batch goes on, call by call, with any of its topics. -/
inductive Course : Batch → List Inquiry → Batch → Prop
  | stop (b : Batch) : Course b [] b
  | call {b b' : Batch} {k : Nat} {c : OutboxCall} {next : c.Reply → Batch} {log : List Inquiry}
    (h : b.next? k = some ⟨c, next⟩) (w : Moment) (rest : Course (next (w.reply c)) log b') :
    Course b (⟨c, w⟩ :: log) b'

/-- The log and the result of a whole batch. -/
inductive Reports (s : OutboxSettings) : List Inquiry → Stored BatchReport → Prop
  | refused {log : List Inquiry} {cause : StoreError}
    (h : Course (.claiming (Deliver.claimDue s).run) log (.claiming (.done (.error cause)))) :
    Reports s log (.error cause)
  | settled {claims offers : List Inquiry} {claimed : List OutboxMessage} {conflicts : Nat}
    {topics : List (Stored (List Settlement))}
    (hclaims : Course (.claiming (Deliver.claimDue s).run) claims (.claiming (.done (.ok (claimed, conflicts)))))
    (hoffers : Course (.publishing (Deliver.publishing s claimed)) offers (.publishing (topics.map .done))) :
    Reports s (claims ++ offers) (Deliver.report claimed conflicts topics)

/-- Whatever it is answered, a batch only makes such calls. -/
def Asks (allowed : OutboxCall → Prop) : Batch → Prop
  | claiming rest => rest.Asks allowed
  | publishing topics => ∀ topic ∈ topics, topic.Asks allowed

variable {allowed : OutboxCall → Prop} {b b' : Batch}

theorem Asks.next (h : b.Asks allowed) {k : Nat} {c : OutboxCall} {next : c.Reply → Batch}
    (hn : b.next? k = some ⟨c, next⟩) : allowed c ∧ ∀ r, (next r).Asks allowed := by
  cases b with
  | claiming rest =>
    cases rest with
    | done => cases hn
    | ask =>
      cases hn
      exact h
  | publishing topics =>
    simp only [next?] at hn
    split at hn
    · next c' next' hk =>
      cases hn
      have htopic := h _ (List.mem_of_getElem? hk)
      refine ⟨htopic.1, fun r topic hin => ?_⟩
      rcases List.mem_or_eq_of_mem_set hin with hin | rfl
      · exact h topic hin
      · exact htopic.2 r
    · cases hn

/-- What a batch never asks is not asked in the course of it. -/
theorem Course.asked {log : List Inquiry} (h : Course b log b') (hb : b.Asks allowed) : ∀ q ∈ log, allowed q.call := by
  induction h with
  | stop => exact fun q hq => absurd hq List.not_mem_nil
  | call hn w _ ih =>
    obtain ⟨hc, hnext⟩ := hb.next hn
    exact List.forall_mem_cons.mpr ⟨hc, ih (hnext _)⟩

end Batch

/-- A list that has the members of some lists, those of each in their order. -/
inductive Interleaved {α : Type} : List (List α) → List α → Prop
  | nil {lists : List (List α)} (h : ∀ l ∈ lists, l = []) : Interleaved lists []
  | cons (pre post : List (List α)) (x : α) {l merged : List α} (rest : Interleaved (pre ++ l :: post) merged) :
    Interleaved (pre ++ (x :: l) :: post) (x :: merged)

namespace Interleaved
variable {α : Type} {lists : List (List α)} {merged : List α} {R : α → α → Prop}

theorem perm_flatten (h : Interleaved lists merged) : merged ~ lists.flatten := by
  induction h with
  | nil h => rw [List.flatten_eq_nil_iff.mpr h]
  | cons pre post x rest ih =>
    refine (ih.cons x).trans ?_
    simp only [List.flatten_append, List.flatten_cons, List.cons_append]
    exact List.perm_middle.symm

/-- What holds within each list, and either way across them, holds of the whole. -/
theorem pairwise (h : Interleaved lists merged) (hin : ∀ l ∈ lists, l.Pairwise R)
    (hacross : lists.Pairwise fun l l' => ∀ x ∈ l, ∀ y ∈ l', R x y ∧ R y x) : merged.Pairwise R := by
  induction h with
  | nil => exact .nil
  | @cons pre post x l merged rest ih =>
    -- What follows `x` is the rest of its own list, in order after `x`, and all of the other lists.
    have hx := List.pairwise_cons.mp (hin (x :: l) (by simp))
    obtain ⟨hpre, hmid, hbefore⟩ := List.pairwise_append.mp hacross
    obtain ⟨hafter, hpost⟩ := List.pairwise_cons.mp hmid
    refine List.pairwise_cons.mpr ⟨fun y hy => ?_, ih ?_ ?_⟩
    · have hy' := rest.perm_flatten.mem_iff.mp hy
      simp only [List.flatten_append, List.flatten_cons, List.mem_append, List.mem_flatten] at hy'
      rcases hy' with ⟨l', hl', hy⟩ | hy | ⟨l', hl', hy⟩
      · exact (hbefore l' hl' _ List.mem_cons_self y hy x List.mem_cons_self).2
      · exact hx.1 y hy
      · exact (hafter l' hl' x List.mem_cons_self y hy).1
    · intro l' hl'
      rcases List.mem_append.mp hl' with hl' | hl'
      · exact hin l' (List.mem_append_left _ hl')
      · rcases List.mem_cons.mp hl' with rfl | hl'
        · exact hx.2
        · exact hin l' (List.mem_append_right _ (List.mem_cons_of_mem _ hl'))
    · refine List.pairwise_append.mpr
        ⟨hpre, List.pairwise_cons.mpr ⟨fun l' hl' a ha => ?_, hpost⟩, fun l₁ hl₁ l₂ hl₂ => ?_⟩
      · exact hafter l' hl' a (List.mem_cons_of_mem x ha)
      · rcases List.mem_cons.mp hl₂ with rfl | hl₂
        · exact fun a ha b hb => hbefore l₁ hl₁ _ List.mem_cons_self a ha b (List.mem_cons_of_mem x hb)
        · exact hbefore l₁ hl₁ l₂ (List.mem_cons_of_mem _ hl₂)

end Interleaved

namespace Batch.Course
variable {log : List Inquiry}

/-- Claims are made by one program. -/
theorem ran {p : Program OutboxCall.Reply (Stored (List OutboxMessage × Nat))} {r : Stored (List OutboxMessage × Nat)}
    (h : Course (.claiming p) log (.claiming (.done r))) : Deliver.Ran p log r := by
  induction p generalizing log with
  | done a =>
    cases h with
    | stop => exact ⟨rfl, rfl⟩
    | call h => cases h
  | ask c next ih =>
    cases h with
    | call h w rest =>
      cases h
      exact ⟨w, _, rfl, ih _ rest⟩

private theorem forall₂_set {α β : Type} {R : α → β → Prop} {xs : List α} {ys : List β} {k : Nat} {x x' : α}
    (hk : xs[k]? = some x) (h : List.Forall₂ R (xs.set k x') ys) :
    ∃ pre y post, ys = pre ++ y :: post ∧ R x' y ∧ ∀ y', R x y' → List.Forall₂ R xs (pre ++ y' :: post) := by
  induction xs generalizing k ys with
  | nil => simp at hk
  | cons a as ih =>
    cases k with
    | zero =>
      obtain rfl : a = x := by simpa using hk
      cases h with
      | cons hy hrest => exact ⟨[], _, _, rfl, hy, fun y' hy' => .cons hy' hrest⟩
    | succ k =>
      cases h with
      | @cons _ b _ bs hab hrest =>
        obtain ⟨pre, y, post, rfl, hy, hset⟩ := ih (by simpa using hk) hrest
        exact ⟨b :: pre, y, post, rfl, hy, fun y' hy' => .cons hab (hset y' hy')⟩

/-- While topics are published each runs its own program. -/
theorem topics_ran {programs : List (Program OutboxCall.Reply (Stored (List Settlement)))}
    {results : List (Stored (List Settlement))}
    (h : Course (.publishing programs) log (.publishing (results.map .done))) :
    ∃ runs : List (List Inquiry × Stored (List Settlement)),
      List.Forall₂ (fun p run => Deliver.Ran p run.1 run.2) programs runs ∧ results = runs.map Prod.snd ∧
      Interleaved (runs.map Prod.fst) log := by
  generalize hb : Batch.publishing programs = b at h
  generalize hb' : Batch.publishing (results.map .done) = b' at h
  induction h generalizing programs with
  | stop =>
    obtain rfl := Batch.publishing.inj (hb.trans hb'.symm)
    refine ⟨results.map ([], ·), ?_, by simp [Function.comp_def], .nil (by simp)⟩
    rw [List.forall₂_map_left_iff, List.forall₂_map_right_iff, List.forall₂_same]
    exact fun r _ => ⟨rfl, rfl⟩
  | @call b b' k c next log hn w rest ih =>
    subst hb
    simp only [next?] at hn
    split at hn
    · next c' next' hk =>
      cases hn
      obtain ⟨runs, hruns, rfl, hlog⟩ := ih rfl hb'
      -- the call is the first of the topic that made it, in front of what that one still does
      obtain ⟨pre, run, post, rfl, hrun, hset⟩ := forall₂_set hk hruns
      refine ⟨pre ++ (⟨c, w⟩ :: run.1, run.2) :: post, hset _ ⟨w, run.1, rfl, hrun⟩, by simp, ?_⟩
      rw [List.map_append, List.map_cons] at hlog ⊢
      exact .cons _ _ _ hlog
    · cases hn

theorem trans {b b' b'' : Batch} {log' : List Inquiry} (h : Course b log b') (h' : Course b' log' b'') :
    Course b (log ++ log') b'' := by
  induction h with
  | stop => exact h'
  | call hn w _ ih => exact .call hn w (ih h')

theorem of_ran {p : Program OutboxCall.Reply (Stored (List OutboxMessage × Nat))}
    {r : Stored (List OutboxMessage × Nat)} (h : Deliver.Ran p log r) :
    Course (.claiming p) log (.claiming (.done r)) := by
  induction p generalizing log with
  | done a =>
    obtain ⟨rfl, rfl⟩ := h
    exact .stop _
  | ask c next ih =>
    obtain ⟨w, log, rfl, h⟩ := h
    exact .call (k := 0) rfl w (ih _ h)

private theorem of_ran_topic {p : Program OutboxCall.Reply (Stored (List Settlement))} {r : Stored (List Settlement)}
    (h : Deliver.Ran p log r) (pre post : List (Program OutboxCall.Reply (Stored (List Settlement)))) :
    Course (.publishing (pre ++ p :: post)) log (.publishing (pre ++ .done r :: post)) := by
  induction p generalizing log with
  | done a =>
    obtain ⟨rfl, rfl⟩ := h
    exact .stop _
  | ask c next ih =>
    obtain ⟨w, log, rfl, h⟩ := h
    have hn : next? (.publishing (pre ++ .ask c next :: post)) pre.length =
        some ⟨c, fun r => .publishing (pre ++ next r :: post)⟩ := by simp [next?]
    exact .call hn w (ih _ h)

/-- Topics may be published one after the other. -/
theorem of_ran_topics {programs : List (Program OutboxCall.Reply (Stored (List Settlement)))}
    {results : List (Stored (List Settlement))} (h : Deliver.Ran (programs.mapM id) log results)
    (ended : List (Stored (List Settlement))) :
    Course (.publishing (ended.map .done ++ programs)) log (.publishing ((ended ++ results).map .done)) := by
  induction programs generalizing log results ended with
  | nil =>
    obtain ⟨rfl, rfl⟩ := h
    simpa using .stop _
  | cons p rest ih =>
    rw [List.mapM_cons] at h
    obtain ⟨first, r, _, rfl, hp, h⟩ := Deliver.Ran.bind h
    obtain ⟨log, others, _, rfl, hrest, rfl, rfl⟩ := Deliver.Ran.bind h
    have hothers := ih hrest (ended ++ [r])
    rw [List.map_append, List.append_assoc, List.append_assoc] at hothers
    rw [List.append_nil]
    exact (of_ran_topic hp (ended.map .done) rest).trans hothers

end Batch.Course

/-- Answers each call as the world is after the calls before it. -/
def Moment.attend (world : Nat → Moment) (c : OutboxCall) (log : List Inquiry) : c.Reply × List Inquiry :=
  ((world log.length).reply c, log ++ [⟨c, world log.length⟩])

theorem Deliver.ran_exec {α : Type} (world : Nat → Moment) (p : Program OutboxCall.Reply α) (log : List Inquiry) :
    ∃ rest, (p.exec (Moment.attend world) log).2 = log ++ rest ∧ Ran p rest (p.exec (Moment.attend world) log).1 := by
  induction p generalizing log with
  | done a => exact ⟨[], (List.append_nil log).symm, rfl, rfl⟩
  | ask c next ih =>
    obtain ⟨rest, hlog, hran⟩ := ih ((world log.length).reply c) (log ++ [⟨c, world log.length⟩])
    exact ⟨⟨c, world log.length⟩ :: rest, hlog.trans (List.append_assoc ..), _, rest, rfl, hran⟩

namespace Batch.Reports
variable {s : OutboxSettings} {log : List Inquiry} {r : Stored BatchReport}

/-- A batch in which each topic comes to its end before the next reports like any other. -/
theorem of_ran (h : Deliver.Ran (Deliver.batch s).run log r) : Reports s log r := by
  obtain ⟨first, cause | ⟨claimed, conflicts⟩, rest, rfl, hclaims, h⟩ :=
    Deliver.Ran.bind (p := (Deliver.claimDue s).run) h
  · obtain ⟨rfl, rfl⟩ := h
    rw [List.append_nil]
    exact .refused (.of_ran hclaims)
  · obtain ⟨offers, topics, _, rfl, hoffers, rfl, rfl⟩ :=
      Deliver.Ran.bind (p := (Deliver.publishing s claimed).mapM id) h
    rw [List.append_nil]
    exact .settled (.of_ran hclaims) (.of_ran_topics hoffers [])

/-- Whatever the world, such a batch comes to its report. -/
theorem exec (s : OutboxSettings) (world : Nat → Moment) :
    Reports s ((Deliver.batch s).run.exec (Moment.attend world) []).2
      ((Deliver.batch s).run.exec (Moment.attend world) []).1 := by
  obtain ⟨log, hlog, hran⟩ := Deliver.ran_exec world (Deliver.batch s).run []
  rw [hlog]
  exact .of_ran hran

end Batch.Reports
end Turnstile
