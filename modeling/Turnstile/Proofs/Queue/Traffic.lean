import Turnstile.Proofs.Queue.Wakeups
import Turnstile.Shutdown

/-!
A queue between any number of producers and consumers, whose steps are taken in any order. What was pushed is
returned once and in its order, and nobody waits in vain for an event that is there.
-/

namespace Turnstile
open scoped List

/-- Where a producer stands in one attempt to add an event. -/
inductive Producer where
  | idle
  | admitted (event : QueuedEvent)
  /-- The event is in the queue, and nobody was woken for it yet. -/
  | ringing (event : QueuedEvent)

def Producer.ringing? : Producer → Option QueuedEvent
  | ringing e => some e
  | idle | admitted _ => none

/-- A queue in use, with all that went in, what producers were told of their events, and what consumers returned.
Those who went astray were woken, but then told to shut down before they looked at the queue. -/
structure Traffic where
  queue : Queue := {}
  shutdowns : Nat → Shutdown := fun _ => {}
  producers : List Producer
  consumers : List Consumer
  pushed : List QueuedEvent := []
  replies : List (QueuedEvent × Except DispatchError Unit) := []
  answers : List (Nat × Option QueuedEvent) := []
  astray : List Nat := []

namespace Traffic

inductive Act where
  | disable (on : Bool)
  | trigger (signal : Nat)
  | dropTrigger (signal : Nat)
  /-- A producer sees whether the queue is available. -/
  | offer (producer : Nat) (event : QueuedEvent)
  | push (producer : Nat)
  | ring (producer : Nat)
  | call (consumer : Nat)
  | advance (consumer : Nat)
  /-- A consumer stops waiting, because its time is over or it was told to shut down. -/
  | giveUp (consumer : Nat)

/-- Nobody does anything yet. -/
def start (signals : List Nat) (producers : Nat) : Traffic :=
  { producers := List.replicate producers .idle
    consumers := signals.map fun signal => { signal, stage := .finished none } }

/-- The events that were returned, in order. -/
def returned (s : Traffic) : List QueuedEvent := s.answers.filterMap Prod.snd

/-- The events of which producers were told that they are in the queue. -/
def accepted (s : Traffic) : List QueuedEvent := s.replies.filterMap fun (e, reply) => reply.toOption.map fun _ => e

/-- The events in the queue of which nobody was told yet. -/
def unannounced (s : Traffic) : List QueuedEvent := s.producers.filterMap Producer.ringing?

def setShutdown (s : Traffic) (n : Nat) (d : Shutdown) : Traffic :=
  { s with shutdowns := fun m => if m = n then d else s.shutdowns m }

/-- The consumer was told to shut down. -/
def stopped (s : Traffic) (x : Consumer) : Bool := (s.shutdowns x.signal).triggered

/-- A consumer took a step, which may have ended its attempt. -/
def moved (s : Traffic) (c : Nat) (x x' : Consumer) (queue : Queue) : Traffic :=
  { s with
    queue
    consumers := s.consumers.set c x'
    answers := s.answers ++ match x'.stage with
      | .finished e? => [(c, e?)]
      | _ => []
    astray := s.astray ++ if x.strays x'.stage then [c] else [] }

/-- What happens next, if it can. -/
def step? (s : Traffic) : Act → Option Traffic
  | .disable on => some { s with queue := { s.queue with disabled := on } }
  | .trigger n => (s.shutdowns n).trigger.map (s.setShutdown n)
  | .dropTrigger n => some (s.setShutdown n (s.shutdowns n).drop)
  | .offer p e =>
    match s.producers[p]?, (s.queue.enqueue e).1 with
    | some .idle, .ok () => some { s with producers := s.producers.set p (.admitted e) }
    | some .idle, .error refusal => some { s with replies := s.replies ++ [(e, .error refusal)] }
    | _, _ => none
  | .push p =>
    match s.producers[p]? with
    | some (.admitted e) => some { s with
        queue := s.queue.push e, producers := s.producers.set p (.ringing e), pushed := s.pushed ++ [e] }
    | _ => none
  | .ring p =>
    match s.producers[p]? with
    | some (.ringing e) => some { s with
        queue := s.queue.ring, producers := s.producers.set p .idle, replies := s.replies ++ [(e, .ok ())] }
    | _ => none
  | .call c =>
    match s.consumers[c]? with
    | some ⟨n, .finished e?, roused⟩ => some (s.moved c ⟨n, .finished e?, roused⟩ ⟨n, .starting, false⟩ s.queue)
    | _ => none
  | .advance c =>
    match s.consumers[c]? with
    | some ⟨_, .finished _, _⟩ | none => none
    | some x =>
      let (stage, queue) := x.stage.advance c (s.stopped x) s.queue
      some (s.moved c x (x.go stage) queue)
  | .giveUp c => do
    let x ← s.consumers[c]?
    let (stage, queue) ← x.stage.giveUp c s.queue
    some (s.moved c x (x.go stage) queue)

/-- What cannot happen is left out. -/
def run (s : Traffic) (acts : List Act) : Traffic := acts.foldl (fun s a => (s.step? a).getD s) s

/-- What can happen, and what it does. -/
inductive Steps (s : Traffic) : Act → Traffic → Prop
  | disabled (on : Bool) : Steps s (.disable on) { s with queue := { s.queue with disabled := on } }
  /-- Who was told to shut down stays so. -/
  | shutdown {a : Act} {n : Nat} {d : Shutdown} (hd : (s.shutdowns n).triggered = true → d.triggered = true) :
    Steps s a (s.setShutdown n d)
  | admitted {p : Nat} {e : QueuedEvent} (hp : s.producers[p]? = some .idle) :
    Steps s (.offer p e) { s with producers := s.producers.set p (.admitted e) }
  | refused {p : Nat} {e : QueuedEvent} {refusal : DispatchError} (hrefusal : (s.queue.enqueue e).1 = .error refusal) :
    Steps s (.offer p e) { s with replies := s.replies ++ [(e, .error refusal)] }
  | pushed {p : Nat} {e : QueuedEvent} (hp : s.producers[p]? = some (.admitted e)) :
    Steps s (.push p) { s with
      queue := s.queue.push e, producers := s.producers.set p (.ringing e), pushed := s.pushed ++ [e] }
  | rang {p : Nat} {e : QueuedEvent} (hp : s.producers[p]? = some (.ringing e)) :
    Steps s (.ring p) { s with
      queue := s.queue.ring, producers := s.producers.set p .idle, replies := s.replies ++ [(e, .ok ())] }
  | called {c n : Nat} {e? : Option QueuedEvent} {roused : Bool}
    (hx : s.consumers[c]? = some ⟨n, .finished e?, roused⟩) :
    Steps s (.call c) (s.moved c ⟨n, .finished e?, roused⟩ ⟨n, .starting, false⟩ s.queue)
  | advanced {c : Nat} {x : Consumer} (hx : s.consumers[c]? = some x) (hrunning : ∀ e?, x.stage ≠ .finished e?) :
    Steps s (.advance c) (s.moved c x (x.go (x.stage.advance c (s.stopped x) s.queue).1)
      (x.stage.advance c (s.stopped x) s.queue).2)
  | gaveUp {c : Nat} {x : Consumer} {q : Queue} (hx : s.consumers[c]? = some x)
    (hgive : x.stage.giveUp c s.queue = some (.finished none, q)) :
    Steps s (.giveUp c) (s.moved c x (x.go (.finished none)) q)

theorem steps {s s' : Traffic} {a : Act} (hs : s.step? a = some s') : s.Steps a s' := by
  cases a with
  | disable on =>
    obtain rfl := Option.some.inj hs
    exact .disabled on
  | trigger n =>
    obtain ⟨d, hd, rfl⟩ := Option.map_eq_some_iff.mp hs
    apply Steps.shutdown
    intro _
    unfold Shutdown.trigger at hd
    split at hd
    · obtain rfl := Option.some.inj hd
      rfl
    · cases hd
  | dropTrigger n =>
    obtain rfl := Option.some.inj hs
    exact .shutdown fun h => h
  | offer p e =>
    simp only [step?] at hs
    split at hs
    · next hp _ =>
      obtain rfl := Option.some.inj hs
      exact .admitted hp
    · next hrefusal =>
      obtain rfl := Option.some.inj hs
      exact .refused hrefusal
    · cases hs
  | push p =>
    simp only [step?] at hs
    split at hs
    · next hp =>
      obtain rfl := Option.some.inj hs
      exact .pushed hp
    · cases hs
  | ring p =>
    simp only [step?] at hs
    split at hs
    · next hp =>
      obtain rfl := Option.some.inj hs
      exact .rang hp
    · cases hs
  | call c =>
    simp only [step?] at hs
    split at hs
    · next hx =>
      obtain rfl := Option.some.inj hs
      exact .called hx
    · cases hs
  | advance c =>
    simp only [step?] at hs
    split at hs
    · cases hs
    · cases hs
    · next x hrunning hx =>
      obtain rfl := Option.some.inj hs
      apply Steps.advanced hx
      intro e? he
      exact hrunning x.signal e? x.roused (congrArg (Consumer.mk x.signal · x.roused) he)
  | giveUp c =>
    obtain ⟨x, hx, hs⟩ := Option.bind_eq_some_iff.mp hs
    obtain ⟨⟨stage, q⟩, hgive, hs⟩ := Option.bind_eq_some_iff.mp hs
    obtain rfl := Option.some.inj hs
    obtain rfl := Stage.giveUp_finishes hgive
    exact .gaveUp hx hgive

/-- The consumer waits and was not woken. -/
def Parked (s : Traffic) (b : Nat) : Prop :=
  b ∉ s.queue.bell.woken ∧ ∃ x, s.consumers[b]? = some x ∧ x.stage = .waiting false

/-- A consumer is parked beside an event, and nobody is about to wake it or to take the event. -/
structure Stranded (s : Traffic) (b : Nat) : Prop where
  left : s.queue.events ≠ []
  parked : s.Parked b
  quiet : s.unannounced = []
  others : ∀ c x, c ≠ b → s.consumers[c]? = some x → c ∉ s.queue.bell.woken ∧ x.stage.looks = false

/-- Those who are about to wake somebody, were woken, or were woken and are about to look. -/
def underway (s : Traffic) : Nat :=
  s.unannounced.length + s.queue.bell.woken.length + s.consumers.countP (·.roused)

/-- A producer whose steps nobody comes between does what adding an event does at once. -/
theorem enqueue_undisturbed (s : Traffic) {p : Nat} (hp : s.producers[p]? = some .idle) (e : QueuedEvent) :
    let s' := s.run [.offer p e, .push p, .ring p]
    s'.queue = (s.queue.enqueue e).2 ∧ s'.replies = s.replies ++ [(e, (s.queue.enqueue e).1)] := by
  have hlt : p < s.producers.length := (List.getElem?_eq_some_iff.mp hp).1
  intro s'
  by_cases hdisabled : s.queue.disabled = true
  · have hstill : s' = { s with replies := s.replies ++ [(e, (s.queue.enqueue e).1)] } := by
      simp [s', run, step?, hp, Queue.enqueue, hdisabled]
    rw [hstill, Queue.enqueue, if_pos hdisabled]
    exact ⟨rfl, rfl⟩
  · have hok : (s.queue.enqueue e).1 = .ok () := by rw [Queue.enqueue, if_neg hdisabled]
    have hoffer : s.step? (.offer p e) = some { s with producers := s.producers.set p (.admitted e) } := by
      simp only [step?, hp, hok]
    have hadmitted : (s.producers.set p (.admitted e))[p]? = some (.admitted e) := List.getElem?_set_self hlt
    have hringing : ((s.producers.set p (.admitted e)).set p (.ringing e))[p]? = some (.ringing e) := by
      apply List.getElem?_set_self
      rwa [List.length_set]
    have hdone : s' = { s with
        queue := (s.queue.push e).ring
        producers := ((s.producers.set p (.admitted e)).set p (.ringing e)).set p .idle
        pushed := s.pushed ++ [e], replies := s.replies ++ [(e, .ok ())] } := by
      change (((s.step? (.offer p e)).getD s).run [.push p, .ring p]) = _
      rw [hoffer]
      simp only [run, List.foldl_cons, List.foldl_nil, Option.getD_some, step?, hadmitted, hringing]
    rw [hdone, Queue.enqueue, if_neg hdisabled]
    exact ⟨rfl, rfl⟩

/-- What holds at every moment. -/
structure Kept (signals : List Nat) (s : Traffic) : Prop where
  signals : s.consumers.map Consumer.signal = signals
  fifo : s.returned ++ s.queue.events = s.pushed
  /-- What was pushed is what was accepted, and what is about to be. -/
  told : s.pushed ~ s.accepted ++ s.unannounced
  nodup : s.queue.bell.members.Nodup
  registered : ∀ c, c ∈ s.queue.bell.members ↔ ∃ x, s.consumers[c]? = some x ∧ x.stage.registered
  looks : ∀ x ∈ s.consumers, x.roused → x.stage.looks
  astray : ∀ c ∈ s.astray, ∃ x, s.consumers[c]? = some x ∧ s.stopped x = true
  /-- There is one underway for every event that somebody waits for, or one that went astray. -/
  awaited : ∀ b, s.Parked b → s.queue.events.length ≤ s.underway + s.astray.length

section
variable {s : Traffic} {b c d : Nat} {x x' : Consumer} {q : Queue}

theorem returned_moved (hstage : ∀ e, x'.stage ≠ .finished (some e)) : (s.moved c x x' q).returned = s.returned := by
  rw [returned, moved, List.filterMap_append]
  cases hx : x'.stage with
  | finished e? =>
    cases e? with
    | none => exact List.append_nil _
    | some e => exact absurd hx (hstage e)
  | starting | entering | looking | waiting => exact List.append_nil _

theorem answers_moved {e : QueuedEvent} (hstage : x'.stage = .finished (some e)) :
    (s.moved c x x' q).answers = s.answers ++ [(c, some e)] := by
  rw [moved, hstage]

theorem moved_self (hx : s.consumers[c]? = some x) : (s.moved c x x' q).consumers[c]? = some x' :=
  List.getElem?_set_self (List.getElem?_eq_some_iff.mp hx).1

theorem moved_other (hd : d ≠ c) : (s.moved c x x' q).consumers[d]? = s.consumers[d]? :=
  List.getElem?_set_ne (Ne.symm hd)

theorem signals_moved (hx : s.consumers[c]? = some x) (hsignal : x'.signal = x.signal) :
    (s.moved c x x' q).consumers.map Consumer.signal = s.consumers.map Consumer.signal := by
  apply List.ext_getElem?
  intro d
  rw [List.getElem?_map, List.getElem?_map]
  by_cases hd : d = c
  · subst hd
    rw [moved_self hx, hx]
    exact congrArg some hsignal
  · rw [moved_other hd]

/-- Who was told to shut down is still told so after a step of a consumer. -/
theorem stopped_moved {y : Consumer} (hx : s.consumers[c]? = some x) (hsignal : x'.signal = x.signal)
    (hy : s.consumers[d]? = some y) (hstopped : s.stopped y = true) :
    ∃ z, (s.moved c x x' q).consumers[d]? = some z ∧ (s.moved c x x' q).stopped z = true := by
  by_cases hd : d = c
  · subst hd
    obtain rfl := Option.some.inj (hx.symm.trans hy)
    refine ⟨x', moved_self hx, ?_⟩
    rw [stopped, hsignal]
    exact hstopped
  · exact ⟨y, (moved_other hd).trans hy, hstopped⟩

/-- Who is parked was parked before, or begins to wait because there is nothing. -/
theorem parked_of_moved (hx : s.consumers[c]? = some x) (hg : Consumer.Goes c (s.stopped x) x s.queue x' q)
    (hb : (s.moved c x x' q).Parked b) : q.events = [] ∨ s.Parked b := by
  obtain ⟨hb, y, hy, hstage⟩ := hb
  by_cases hbc : b = c
  · subst hbc
    obtain rfl := Option.some.inj ((moved_self hx).symm.trans hy)
    rcases hg.waits hstage with hnone | ⟨hwaiting, rfl⟩
    · exact .inl hnone
    · exact .inr ⟨hb, x, hx, hwaiting⟩
  · exact .inr ⟨fun hin => hb (hg.woken b hbc hin), y, (moved_other hbc).symm.trans hy, hstage⟩

/-- If those who are in the bell are those who registered, a parked consumer is one that the bell can wake. -/
theorem Parked.mem_waiting (hb : s.Parked b)
    (hregistered : ∀ c, c ∈ s.queue.bell.members ↔ ∃ x, s.consumers[c]? = some x ∧ x.stage.registered) :
    b ∈ s.queue.bell.waiting := by
  obtain ⟨hb, y, hy, hstage⟩ := hb
  have hmember : b ∈ s.queue.bell.members := (hregistered b).mpr ⟨y, hy, by rw [hstage]; rfl⟩
  exact (List.mem_append.mp hmember).resolve_right hb

end

theorem countP_set_add {α : Type} {f : α → Bool} {l : List α} {i : Nat} {a b : α} (h : l[i]? = some a) :
    (l.set i b).countP f + (f a).toNat = l.countP f + (f b).toNat := by
  induction l generalizing i with
  | nil => cases h
  | cons first rest ih =>
    cases i with
    | zero =>
      obtain rfl := Option.some.inj h
      simp only [List.set_cons_zero, List.countP_cons]
      cases f first <;> cases f b <;> simp
    | succ i =>
      have hrest : (rest.set i b).countP f + (f a).toNat = rest.countP f + (f b).toNat := ih h
      simp only [List.set_cons_succ, List.countP_cons]
      omega

theorem filterMap_set_perm {α β : Type} {f : α → Option β} {l : List α} {i : Nat} {a b : α} (h : l[i]? = some a) :
    (l.set i b).filterMap f ++ (f a).toList ~ l.filterMap f ++ (f b).toList := by
  induction l generalizing i with
  | nil => cases h
  | cons first rest ih =>
    cases i with
    | zero =>
      obtain rfl := Option.some.inj h
      have hcons : ∀ x, (x :: rest).filterMap f = (f x).toList ++ rest.filterMap f := by
        intro x
        rw [List.filterMap_cons]
        cases f x <;> rfl
      rw [List.set_cons_zero, hcons, hcons, List.append_assoc (f first).toList]
      exact List.perm_append_comm.trans (List.perm_append_comm.append_left _)
    | succ i =>
      have hrest : (rest.set i b).filterMap f ++ (f a).toList ~ rest.filterMap f ++ (f b).toList := ih h
      rw [List.set_cons_succ, List.filterMap_cons, List.filterMap_cons]
      cases f first with
      | none => exact hrest
      | some c => exact hrest.cons c

namespace Kept
variable {signals : List Nat} {s s' : Traffic} {c : Nat} {x x' : Consumer} {q : Queue}

theorem start (signals : List Nat) (producers : Nat) : Kept signals (.start signals producers) where
  signals := by simp [Traffic.start, Function.comp_def]
  fifo := rfl
  told := by simp [Traffic.start, accepted, unannounced, Producer.ringing?]
  nodup := List.nodup_nil
  registered := by
    intro c
    apply iff_of_false
    · simp [Traffic.start, Bell.members]
    · rintro ⟨x, hx, hr⟩
      obtain ⟨n, -, rfl⟩ := List.mem_map.mp (List.mem_of_getElem? hx)
      cases hr
  looks := by simp [Traffic.start]
  astray := by simp [Traffic.start]
  awaited := fun _ _ => Nat.zero_le _

theorem registered_iff (h : s.Kept signals) (hx : s.consumers[c]? = some x) :
    c ∈ s.queue.bell.members ↔ x.stage.registered := by
  rw [h.registered c, hx]
  simp

theorem advances (h : s.Kept signals) (hx : s.consumers[c]? = some x) (hrunning : ∀ e?, x.stage ≠ .finished e?) :
    Consumer.Goes c (s.stopped x) x s.queue (x.go (x.stage.advance c (s.stopped x) s.queue).1)
      (x.stage.advance c (s.stopped x) s.queue).2 :=
  Consumer.goes_advance h.nodup (h.registered_iff hx) (h.looks x (List.mem_of_getElem? hx)) hrunning

theorem givesUp {stage : Stage} (h : s.Kept signals) (hx : s.consumers[c]? = some x)
    (hgive : x.stage.giveUp c s.queue = some (stage, q)) :
    Consumer.Goes c (s.stopped x) x s.queue (x.go stage) q :=
  Consumer.goes_giveUp h.nodup (h.registered_iff hx) (h.looks x (List.mem_of_getElem? hx)) hgive

/-- A step of one consumer keeps what holds of all. -/
theorem moved (h : s.Kept signals) (hx : s.consumers[c]? = some x)
    (hg : Consumer.Goes c (s.stopped x) x s.queue x' q) : (s.moved c x x' q).Kept signals := by
  have hregistered : ∀ d, d ∈ q.bell.members ↔
      ∃ y, (s.moved c x x' q).consumers[d]? = some y ∧ y.stage.registered := by
    intro d
    by_cases hd : d = c
    · subst hd
      rw [hg.self, moved_self hx]
      simp
    · rw [hg.others d hd, moved_other hd]
      exact h.registered d
  constructor
  case signals => rw [signals_moved hx hg.signal, h.signals]
  case fifo =>
    rcases hg.takes with ⟨hevents, hstage⟩ | ⟨e, hevents, hstage⟩
    · rw [returned_moved hstage]
      exact hevents ▸ h.fifo
    · have hfifo := h.fifo
      rw [hevents] at hfifo
      rw [returned, answers_moved hstage, List.filterMap_append, List.append_assoc]
      exact hfifo
  case told => exact h.told
  case nodup => exact hg.nodup
  case registered => exact hregistered
  case looks =>
    intro y hy
    rcases List.mem_or_eq_of_mem_set hy with hy | rfl
    · exact h.looks y hy
    · exact hg.looks
  case astray =>
    intro d hd
    rcases List.mem_append.mp hd with hd | hd
    · obtain ⟨y, hy, hstopped⟩ := h.astray d hd
      exact stopped_moved hx hg.signal hy hstopped
    · obtain ⟨hstray, hd⟩ := List.mem_ite_nil_right.mp hd
      obtain rfl := List.mem_singleton.mp hd
      exact stopped_moved hx hg.signal hx (hg.astray hstray)
  case awaited =>
    intro b hb
    have hempty : q.events = [] → q.events.length ≤ (s.moved c x x' q).underway + (s.moved c x x' q).astray.length := by
      intro hnone
      rw [hnone]
      exact Nat.zero_le _
    -- Either nothing is left, or nobody can be parked, or who is parked was so before and there still is one for each.
    rcases hg.balance with hnone | hnobody | hle
    · exact hempty hnone
    · have hwaiting : b ∈ q.bell.waiting := hb.mem_waiting hregistered
      rw [hnobody] at hwaiting
      cases hwaiting
    · rcases parked_of_moved hx hg hb with hnone | hbefore
      · exact hempty hnone
      · have henough := h.awaited b hbefore
        have hcount : (s.consumers.set c x').countP (fun z => z.roused) + x.roused.toNat =
            s.consumers.countP (fun z => z.roused) + x'.roused.toNat := countP_set_add hx
        have hastray : (if x.strays x'.stage then [c] else []).length = (x.strays x'.stage).toNat := by
          cases x.strays x'.stage <;> rfl
        simp only [underway, unannounced, Traffic.moved, List.length_append] at henough ⊢
        omega

/-- A step of a producer keeps what holds of all, if nobody goes away and whoever is underway for an event stays so. -/
theorem produced {p : Nat} {old new : Producer} {pushed : List QueuedEvent}
    {replies : List (QueuedEvent × Except DispatchError Unit)} (h : s.Kept signals) (hp : s.producers[p]? = some old)
    (hfifo : s.returned ++ q.events = pushed)
    (htold : pushed ++ old.ringing?.toList ~ accepted { s with replies } ++ (s.unannounced ++ new.ringing?.toList))
    (hmembers : q.bell.members ~ s.queue.bell.members)
    (hwoken : ∀ d, d ∈ s.queue.bell.woken → d ∈ q.bell.woken)
    (hbalance : q.bell.waiting = [] ∨
      q.events.length + s.queue.bell.woken.length + old.ringing?.toList.length ≤
        s.queue.events.length + q.bell.woken.length + new.ringing?.toList.length) :
    Kept signals { s with queue := q, producers := s.producers.set p new, pushed, replies } := by
  have hregistered : ∀ d, d ∈ q.bell.members ↔ ∃ x, s.consumers[d]? = some x ∧ x.stage.registered := by
    intro d
    rw [hmembers.mem_iff]
    exact h.registered d
  have hset : (s.producers.set p new).filterMap Producer.ringing? ++ old.ringing?.toList ~
      s.unannounced ++ new.ringing?.toList := filterMap_set_perm hp
  constructor
  case signals => exact h.signals
  case fifo => exact hfifo
  case told =>
    rw [← List.perm_append_right_iff old.ringing?.toList, List.append_assoc]
    exact htold.trans (hset.symm.append_left _)
  case nodup => exact hmembers.nodup_iff.mpr h.nodup
  case registered => exact hregistered
  case looks => exact h.looks
  case astray => exact h.astray
  case awaited =>
    intro b hb
    rcases hbalance with hnobody | hle
    · have hwaiting : b ∈ q.bell.waiting := hb.mem_waiting hregistered
      rw [hnobody] at hwaiting
      cases hwaiting
    · obtain ⟨hnotwoken, hwaits⟩ := hb
      have henough := h.awaited b ⟨fun hin => hnotwoken (hwoken b hin), hwaits⟩
      have hcount := hset.length_eq
      simp only [List.length_append] at hcount
      simp only [underway, unannounced] at henough hcount ⊢
      omega

/-- Shutdown reaches more and more consumers. -/
theorem setShutdown {n : Nat} {d : Shutdown} (h : s.Kept signals)
    (hd : (s.shutdowns n).triggered = true → d.triggered = true) : (s.setShutdown n d).Kept signals where
  signals := h.signals
  fifo := h.fifo
  told := h.told
  nodup := h.nodup
  registered := h.registered
  looks := h.looks
  astray := by
    intro c hc
    obtain ⟨x, hx, hstopped⟩ := h.astray c hc
    refine ⟨x, hx, ?_⟩
    by_cases hn : x.signal = n
    · have hstill : (s.setShutdown n d).stopped x = d.triggered := by simp [stopped, Traffic.setShutdown, hn]
      rw [hstill]
      exact hd (hn ▸ hstopped)
    · simpa [stopped, Traffic.setShutdown, hn] using hstopped
  awaited := h.awaited

theorem step {a : Act} (h : s.Kept signals) (hs : s.step? a = some s') : s'.Kept signals := by
  cases steps hs with
  | disabled on => exact { h with }
  | shutdown hd => exact h.setShutdown hd
  | admitted hp =>
    apply h.produced hp h.fifo
    case htold => simpa [accepted, Producer.ringing?] using h.told
    case hmembers => exact List.Perm.refl _
    case hwoken => exact fun _ hd => hd
    case hbalance => exact .inr (Nat.le_refl _)
  | @refused p e refusal hrefusal =>
    have haccepted : accepted { s with replies := s.replies ++ [(e, .error refusal)] } = s.accepted := by
      simp [accepted, Except.toOption]
    have htold : s.pushed ~ accepted { s with replies := s.replies ++ [(e, .error refusal)] } ++ s.unannounced := by
      rw [haccepted]
      exact h.told
    exact { h with told := htold }
  | pushed hp =>
    apply h.produced hp
    case hfifo =>
      rw [← h.fifo, List.append_assoc]
      rfl
    case htold =>
      simp only [Producer.ringing?, Option.toList_none, Option.toList_some, List.append_nil, ← List.append_assoc]
      exact h.told.append_right _
    case hmembers => exact List.Perm.refl _
    case hwoken => exact fun _ hd => hd
    case hbalance =>
      refine .inr ?_
      simp only [Queue.push, List.length_append, List.length_singleton, Producer.ringing?, Option.toList_none,
        Option.toList_some, List.length_nil]
      omega
  | @rang p e hp =>
    apply h.produced hp
    case hfifo => exact h.fifo
    case htold =>
      have haccepted : accepted { s with replies := s.replies ++ [(e, .ok ())] } = s.accepted ++ [e] := by
        simp [accepted, Except.toOption]
      rw [haccepted]
      simp only [Producer.ringing?, Option.toList_none, Option.toList_some, List.append_nil, List.append_assoc]
      calc s.pushed ++ [e]
        _ ~ s.accepted ++ s.unannounced ++ [e] := h.told.append_right _
        _ ~ s.accepted ++ (s.unannounced ++ [e]) := .of_eq (List.append_assoc ..)
        _ ~ s.accepted ++ ([e] ++ s.unannounced) := List.perm_append_comm.append_left _
    case hmembers => exact Bell.members_ring _
    case hwoken => exact fun _ hd => Bell.woken_ring hd
    case hbalance =>
      rcases s.queue.bell.ring_wakes with hnobody | hwoken
      · exact .inl hnobody
      · refine .inr ?_
        simp only [Queue.ring, hwoken, Producer.ringing?, Option.toList_none, Option.toList_some, List.length_nil,
          List.length_singleton]
        omega
  | called hx =>
    exact h.moved hx (Consumer.goes_call h.nodup (h.registered_iff hx) (h.looks _ (List.mem_of_getElem? hx)))
  | advanced hx hrunning => exact h.moved hx (h.advances hx hrunning)
  | gaveUp hx hgive => exact h.moved hx (h.givesUp hx hgive)

theorem run (h : s.Kept signals) (acts : List Act) : (s.run acts).Kept signals := by
  induction acts generalizing s with
  | nil => exact h
  | cons a acts ih =>
    apply ih
    cases ha : s.step? a with
    | none => simpa [ha] using h
    | some s' => simpa [ha] using h.step ha

/-- Beside a stranded consumer there are no more events than wake-ups that went astray. -/
theorem length_le_of_stranded (h : s.Kept signals) {b : Nat} (hs : s.Stranded b) :
    s.queue.events.length ≤ s.astray.length := by
  obtain ⟨hb, y, hy, hstage⟩ := hs.parked
  have hwoken : s.queue.bell.woken = [] := by
    apply List.eq_nil_iff_forall_not_mem.mpr
    intro c hc
    obtain ⟨x, hx, _⟩ := (h.registered c).mp (List.mem_append_right _ hc)
    by_cases hcb : c = b
    · exact hb (hcb ▸ hc)
    · exact (hs.others c x hcb hx).1 hc
  have hconsumers : s.consumers.countP (fun x => x.roused) = 0 := by
    rw [List.countP_eq_zero]
    intro x hx hroused
    have hlooks := h.looks x hx hroused
    obtain ⟨c, hc⟩ := List.getElem?_of_mem hx
    by_cases hcb : c = b
    · obtain rfl : y = x := Option.some.inj (hy.symm.trans (hcb ▸ hc))
      rw [hstage] at hlooks
      cases hlooks
    · rw [(hs.others c x hcb hc).2] at hlooks
      cases hlooks
  have henough := h.awaited b hs.parked
  rw [underway, hs.quiet, hwoken, hconsumers] at henough
  simpa using henough

end Kept

/-- What a step may do to what is in the queue. -/
inductive Moves (s : Traffic) (a : Act) (s' : Traffic) : Prop
  | still (hevents : s'.queue.events = s.queue.events) (hpushed : s'.pushed = s.pushed)
    (hreturned : s'.returned = s.returned)
  | pushed {p : Nat} {e : QueuedEvent} (ha : a = .push p) (hp : s.producers[p]? = some (.admitted e))
    (hevents : s'.queue.events = s.queue.events ++ [e]) (hpushed : s'.pushed = s.pushed ++ [e])
    (hanswers : s'.answers = s.answers)
  | taken {c : Nat} {e : QueuedEvent} (ha : a = .advance c) (hevents : s.queue.events = e :: s'.queue.events)
    (hpushed : s'.pushed = s.pushed) (hanswers : s'.answers = s.answers ++ [(c, some e)])

theorem Kept.moves {signals : List Nat} {s s' : Traffic} {a : Act} (h : s.Kept signals) (hs : s.step? a = some s') :
    s.Moves a s' := by
  cases steps hs with
  | disabled | shutdown | admitted | refused | rang => exact .still rfl rfl rfl
  | pushed hp => exact .pushed rfl hp rfl rfl rfl
  | called hx => exact .still rfl rfl (returned_moved (by simp))
  | @advanced c x hx hrunning =>
    rcases (h.advances hx hrunning).takes with ⟨hevents, hstage⟩ | ⟨e, hevents, hstage⟩
    · exact .still hevents rfl (returned_moved hstage)
    · exact .taken rfl hevents rfl (answers_moved hstage)
  | @gaveUp c x q hx hgive =>
    rcases (h.givesUp hx hgive).takes with ⟨hevents, hstage⟩ | ⟨e, _, hstage⟩
    · exact .still hevents rfl (returned_moved hstage)
    · cases hstage

/-- If nobody was woken and nobody looks, a consumer that waits beside an event is stranded. -/
private theorem stranded_of_quiet {s : Traffic} {b : Nat} (hleft : s.queue.events ≠ [])
    (hwoken : s.queue.bell.woken = []) (hquiet : s.unannounced = [])
    (hb : ∃ x, s.consumers[b]? = some x ∧ x.stage = .waiting false)
    (hothers : ∀ x ∈ s.consumers, x.stage.looks = false) : s.Stranded b where
  left := hleft
  parked := ⟨by simp [hwoken], hb⟩
  quiet := hquiet
  others _ x _ hx := ⟨by simp [hwoken], hothers x (List.mem_of_getElem? hx)⟩

/-- Events are returned once and in the order in which they were pushed, and those are the events that were accepted
or are about to be. A consumer that returns none has removed none, and a producer that is refused has added none. A
producer left alone does what adding an event does. Beside a stranded consumer there are no more events than wake-ups
that were lost to consumers told to shut down. -/
theorem fifo_and_stranded_le_astray (signals : List Nat) (producers : Nat) (acts : List Act) :
    let s := (start signals producers).run acts
    s.returned ++ s.queue.events = s.pushed ∧ s.pushed ~ s.accepted ++ s.unannounced ∧
      (∀ a s', s.step? a = some s' → s.Moves a s') ∧
      (∀ p e s', s.queue.disabled = true → s.step? (.offer p e) = some s' →
        s' = { s with replies := s.replies ++ [(e, .error (.transient "in-memory queue unavailable"))] }) ∧
      (∀ p e, s.producers[p]? = some .idle →
        (s.run [.offer p e, .push p, .ring p]).queue = (s.queue.enqueue e).2 ∧
          (s.run [.offer p e, .push p, .ring p]).replies = s.replies ++ [(e, (s.queue.enqueue e).1)]) ∧
      (∀ b, s.Stranded b → s.queue.events.length ≤ s.astray.length) ∧
      ∀ c ∈ s.astray, ∃ x, s.consumers[c]? = some x ∧ s.stopped x = true := by
  intro s
  have hkept : s.Kept signals := (Kept.start signals producers).run acts
  refine ⟨hkept.fifo, hkept.told, fun a s' hs => hkept.moves hs, ?_, fun p e hp => s.enqueue_undisturbed hp e,
    fun b hb => hkept.length_le_of_stranded hb, hkept.astray⟩
  intro p e s' hdisabled hs
  have hrefused : (s.queue.enqueue e).1 = .error (.transient "in-memory queue unavailable") := by
    rw [Queue.enqueue, if_pos hdisabled]
  simp only [step?, hrefused] at hs
  split at hs
  · next hok => cases hok
  · next hrefusal =>
    obtain rfl := Except.error.inj hrefusal
    exact (Option.some.inj hs).symm
  · cases hs

/-- Two consumers are woken and told to shut down before they resume. The third has to wait beside two events. -/
theorem fifo_and_stranded_le_astray_two :
    let e : QueuedEvent := ⟨⟨⟨0, 1⟩⟩, "Moved", "Seat", ⟨0, 2⟩, default, .null⟩
    let acts : List Act := [.call 0, .advance 0, .advance 0, .advance 0, .call 1, .advance 1, .advance 1, .advance 1,
      .call 2, .advance 2, .advance 2, .advance 2, .offer 0 e, .push 0, .ring 0, .offer 0 e, .push 0, .ring 0,
      .trigger 0, .advance 0, .advance 0, .advance 1, .advance 1]
    let s := (start [0, 0, 1] 1).run acts
    s.Stranded 2 ∧ s.queue.events.length = 2 ∧ 2 ≤ s.astray.length ∧ s.astray = [0, 1] ∧
      ∃ x, s.consumers[0]? = some x ∧ s.stopped x = true := by
  intro e acts s
  have hall := fifo_and_stranded_le_astray [0, 0, 1] 1 acts
  rw [show (start [0, 0, 1] 1).run acts = s from rfl] at hall
  have hconsumers : s.consumers =
      [⟨0, .finished none, false⟩, ⟨0, .finished none, false⟩, ⟨1, .waiting false, false⟩] := by
    subst s acts e
    cbv
  have hevents : s.queue.events = [e, e] := by
    subst s acts e
    cbv
  have hwoken : s.queue.bell.woken = [] := by
    subst s acts e
    cbv
  have hquiet : s.unannounced = [] := by
    subst s acts e
    cbv
  have hlost : s.astray = [0, 1] := by
    subst s acts e
    cbv
  clear_value acts s
  obtain ⟨-, -, -, -, -, hle, hastray⟩ := hall
  have hstranded : s.Stranded 2 :=
    stranded_of_quiet (by simp [hevents]) hwoken hquiet (by simp [hconsumers]) (by simp [hconsumers, Stage.looks])
  have htwo := hle 2 hstranded
  rw [hevents] at htwo
  exact ⟨hstranded, by rw [hevents]; rfl, htwo, hlost, hastray 0 (by simp [hlost])⟩

/-- Of two consumers that listen to different signals the one that was woken is told to shut down before it resumes.
It returns none, and the other stays parked beside the event though nobody told it to shut down. -/
theorem stranded_beside_event :
    let e : QueuedEvent := ⟨⟨⟨0, 1⟩⟩, "Moved", "Seat", ⟨0, 2⟩, default, .null⟩
    let s := (start [0, 1] 1).run [.call 0, .advance 0, .advance 0, .advance 0, .call 1, .advance 1, .advance 1,
      .advance 1, .offer 0 e, .push 0, .ring 0, .trigger 0, .advance 0, .advance 0]
    s.Stranded 1 ∧ (s.shutdowns 1).triggered = false := by
  intro e s
  have hconsumers : s.consumers = [⟨0, .finished none, false⟩, ⟨1, .waiting false, false⟩] := by
    subst s e
    cbv
  have hevents : s.queue.events = [e] := by
    subst s e
    cbv
  have hwoken : s.queue.bell.woken = [] := by
    subst s e
    cbv
  have hquiet : s.unannounced = [] := by
    subst s e
    cbv
  have hrunning : (s.shutdowns 1).triggered = false := by
    subst s e
    cbv
  clear_value s
  refine ⟨?_, hrunning⟩
  exact stranded_of_quiet (by simp [hevents]) hwoken hquiet (by simp [hconsumers]) (by simp [hconsumers, Stage.looks])

/-! A consumer whose time is over just when it was woken leaves the event to the other. -/

example (e : QueuedEvent) :
    ((start [0, 0] 1).run [.call 0, .advance 0, .advance 0, .advance 0, .call 1, .advance 1, .advance 1, .advance 1,
      .offer 0 e, .push 0, .ring 0, .giveUp 0, .advance 1, .advance 1, .advance 1, .advance 1]).answers =
      [(0, none), (1, some e)] := by cbv

end Traffic
end Turnstile
