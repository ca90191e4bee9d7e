import Turnstile.Program

/-! Runs of programs: the questions that they ask, and what is noted down on the way. -/

namespace Turnstile.Program
variable {Op Op' : Type} {Reply : Op → Type} {Reply' : Op' → Type} {α β σ τ ε : Type}

/-- The questions that a run asks, in order. -/
def asked (answer : (op : Op) → σ → Option (Reply op) × σ) : Program Reply α → σ → List Op
  | done _, _ => []
  | ask op next, s =>
    op :: match answer op s with
      | (some r, s') => (next r).asked answer s'
      | (none, _) => []

theorem asked_bind (answer : (op : Op) → σ → Option (Reply op) × σ) (p : Program Reply α)
    (f : α → Program Reply β) (s : σ) :
    (p.bind f).asked answer s = p.asked answer s ++
      match p.run answer s with
      | (some a, s') => (f a).asked answer s'
      | (none, _) => [] := by
  induction p generalizing s with
  | done a => rfl
  | ask op next ih =>
    simp only [ask_bind, asked, run, List.cons_append]
    split <;> simp_all

/-- The questions of a run that is always answered, with their answers, in order. -/
def transcript (answer : (op : Op) → σ → Reply op × σ) : Program Reply α → σ → List ((op : Op) × Reply op)
  | done _, _ => []
  | ask op next, s => ⟨op, (answer op s).1⟩ :: (next (answer op s).1).transcript answer (answer op s).2

theorem transcript_bind (answer : (op : Op) → σ → Reply op × σ) (p : Program Reply α) (f : α → Program Reply β)
    (s : σ) :
    (p.bind f).transcript answer s =
      p.transcript answer s ++ (f (p.exec answer s).1).transcript answer (p.exec answer s).2 := by
  induction p generalizing s with
  | done a => rfl
  | ask op next ih =>
    simp only [ask_bind, transcript, exec, List.cons_append]
    rw [ih]

/-- What is left of a program once some of its questions were answered. -/
inductive Leaves (p : Program Reply α) : List ((op : Op) × Reply op) → Program Reply α → Prop
  | whole : p.Leaves [] p
  | answered {calls : List ((op : Op) × Reply op)} {op : Op} {next : Reply op → Program Reply α}
    (h : p.Leaves calls (ask op next)) (r : Reply op) : p.Leaves (calls ++ [⟨op, r⟩]) (next r)

/-- Whatever it is answered, a program only asks such questions. -/
def Asks (allowed : Op → Prop) : Program Reply α → Prop
  | done _ => True
  | ask op next => allowed op ∧ ∀ r, (next r).Asks allowed

theorem Asks.bind {allowed : Op → Prop} {p : Program Reply α} {f : α → Program Reply β} (hp : p.Asks allowed)
    (hf : ∀ a, (f a).Asks allowed) : (p.bind f).Asks allowed := by
  induction p with
  | done a => exact hf a
  | ask op next ih => exact ⟨hp.1, fun r => ih r (hp.2 r)⟩

theorem Asks.bind_except {allowed : Op → Prop} {p : ExceptT ε (Program Reply) α} {f : α → ExceptT ε (Program Reply) β}
    (hp : p.run.Asks allowed) (hf : ∀ a, (f a).run.Asks allowed) : (p >>= f).run.Asks allowed := by
  refine Asks.bind hp fun x => ?_
  cases x with
  | ok a => exact hf a
  | error e => trivial

theorem run_call (answer : (op : Op) → σ → Option (Reply op) × σ) (op : Op) (s : σ) :
    (call op).run answer s = answer op s := by
  unfold call run
  rcases answer op s with ⟨_ | _, _⟩ <;> rfl

theorem run_call_bind {answer : (op : Op) → σ → Option (Reply op) × σ} {op : Op} {s s' : σ} {r : Reply op}
    (h : answer op s = (some r, s')) (f : Reply op → Program Reply α) :
    (call op >>= f).run answer s = (f r).run answer s' := by
  refine (run_bind answer (call op) f s).trans ?_
  rw [run_call, h]

theorem run_except_bind {ε : Type} (answer : (op : Op) → σ → Option (Reply op) × σ)
    (p : ExceptT ε (Program Reply) α) (f : α → ExceptT ε (Program Reply) β) (s : σ) :
    (p >>= f).run.run answer s =
      match p.run.run answer s with
      | (some (.ok a), s') => (f a).run.run answer s'
      | (some (.error e), s') => (some (.error e), s')
      | (none, s') => (none, s') := by
  refine (run_bind answer p.run (ExceptT.bindCont fun a => f a) s).trans ?_
  rcases p.run.run answer s with ⟨_ | _ | _, _⟩ <;> rfl

/-- A relayed program runs as if the programs that ask its questions answered them. -/
theorem run_relay (f : (op : Op) → Program Reply' (Reply op)) (answer : (op : Op') → σ → Option (Reply' op) × σ)
    (p : Program Reply α) (s : σ) :
    (p.relay f).run answer s = p.run (fun op => (f op).run answer) s := by
  induction p generalizing s with
  | done a => rfl
  | ask op next ih =>
    rw [relay, run_bind, run]
    rcases (f op).run answer s with ⟨_ | r, s'⟩
    · rfl
    · exact ih r s'

/-- Whatever every answer does to the state, the whole run does too. -/
theorem run_trans {answer : (op : Op) → σ → Option (Reply op) × σ} {R : σ → σ → Prop} (hrefl : ∀ s, R s s)
    (htrans : ∀ s s' s'', R s s' → R s' s'' → R s s'') (h : ∀ op s, R s (answer op s).2) (p : Program Reply α) (s : σ) :
    R s (p.run answer s).2 := by
  induction p generalizing s with
  | done a => exact hrefl s
  | ask op next ih =>
    have hfirst := h op s
    rw [run]
    rcases hr : answer op s with ⟨_ | r, s'⟩ <;> rw [hr] at hfirst
    · exact hfirst
    · exact htrans _ _ _ hfirst (ih r s')

/-- Two ways to answer that keep states related give the same result and related states. -/
theorem run_related {answer : (op : Op) → σ → Option (Reply op) × σ} {answer' : (op : Op) → τ → Option (Reply op) × τ}
    {R : σ → τ → Prop}
    (h : ∀ op s t, R s t → (answer op s).1 = (answer' op t).1 ∧ R (answer op s).2 (answer' op t).2)
    (p : Program Reply α) {s : σ} {t : τ} (hst : R s t) :
    (p.run answer s).1 = (p.run answer' t).1 ∧ R (p.run answer s).2 (p.run answer' t).2 := by
  induction p generalizing s t with
  | done a => exact ⟨rfl, hst⟩
  | ask op next ih =>
    obtain ⟨hreply, hrel⟩ := h op s t hst
    rw [run, run]
    rcases hs : answer op s with ⟨reply, s'⟩
    rcases ht : answer' op t with ⟨reply', t'⟩
    rw [hs, ht] at hreply hrel
    obtain rfl : reply = reply' := hreply
    cases reply with
    | none => exact ⟨rfl, hrel⟩
    | some r => exact ih r hrel

/-- Answers as before and keeps a log of what each answer changes. -/
def watch (answer : (op : Op) → σ → Option (Reply op) × σ) (note : σ → σ → List ε) (op : Op) (s : σ × List ε) :
    Option (Reply op) × σ × List ε :=
  ((answer op s.1).1, (answer op s.1).2, s.2 ++ note s.1 (answer op s.1).2)

/-- The log does not matter to the run. -/
theorem run_watch (answer : (op : Op) → σ → Option (Reply op) × σ) (note : σ → σ → List ε) (p : Program Reply α)
    (s : σ) (log : List ε) :
    (p.run (watch answer note) (s, log)).1 = (p.run answer s).1 ∧
      (p.run (watch answer note) (s, log)).2.1 = (p.run answer s).2 := by
  refine run_related (R := fun (x : σ × List ε) s => x.1 = s) ?_ p rfl
  rintro op x _ rfl
  exact ⟨rfl, rfl⟩

/-- Related states of which the same is noted have the same log. -/
theorem run_watch_related {answer : (op : Op) → σ → Option (Reply op) × σ}
    {answer' : (op : Op) → τ → Option (Reply op) × τ} {note : σ → σ → List ε} {note' : τ → τ → List ε}
    {R : σ → τ → Prop} (h : ∀ op s t, R s t → (answer op s).1 = (answer' op t).1 ∧ R (answer op s).2 (answer' op t).2)
    (hnote : ∀ s s' t t', R s t → R s' t' → note s s' = note' t t') (p : Program Reply α) {s : σ} {t : τ} (hst : R s t)
    (log : List ε) :
    (p.run (watch answer note) (s, log)).1 = (p.run (watch answer' note') (t, log)).1 ∧
      R (p.run (watch answer note) (s, log)).2.1 (p.run (watch answer' note') (t, log)).2.1 ∧
      (p.run (watch answer note) (s, log)).2.2 = (p.run (watch answer' note') (t, log)).2.2 := by
  refine run_related (R := fun (x : σ × List ε) (y : τ × List ε) => R x.1 y.1 ∧ x.2 = y.2) ?_ p ⟨hst, rfl⟩
  rintro op ⟨s, log⟩ ⟨t, log'⟩ ⟨hst, rfl⟩
  obtain ⟨hreply, hrel⟩ := h op s t hst
  exact ⟨hreply, hrel, congrArg (log ++ ·) (hnote _ _ _ _ hst hrel)⟩

end Turnstile.Program
