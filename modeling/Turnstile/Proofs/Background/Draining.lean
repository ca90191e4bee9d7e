import Turnstile.Proofs.Background.Slots
import Turnstile.Proofs.Program
import Turnstile.Shutdown
import Mathlib.Computability.Primrec.List

-- The import of Mathlib holds the equations of `List.lookup`, by which a run on fixed inputs evaluates.

/-!
The background processor among all that can happen to it: a queue that answers what it likes, handlers that take any
time and end as they like, and shutdown at any moment. No event gets lost, and the slots come back.
-/

namespace Turnstile.Background
open scoped List
variable {η : Type}

/-- A task: the event it was started for, and what is left to do. -/
structure Job (η : Type) where
  event : QueuedEvent
  rest : Handling η Outcome

/-- How a task that ends here ends. One that has no outcome yet panics. -/
def Job.outcome? (j : Job η) : Option Outcome :=
  match j.rest with
  | Program.done outcome => some outcome
  | Program.ask _ _ => none

inductive Happening (η : Type) where
  | asked
  | answered (reply : Except DispatchError (Option QueuedEvent))
  | noticed
  /-- A task calls its handler, sleeps or counts. -/
  | called (task : Nat) (call : HandlingCall η) (reply : call.Reply)
  | ended (task : Nat) (event : QueuedEvent) (outcome : Option Outcome)
  /-- The grace period is over while these tasks run. -/
  | outOfTime (tasks : List Nat)

namespace Happening

/-- The event that the queue gave away. -/
def returned? : Happening η → Option QueuedEvent
  | answered (.ok (some e)) => some e
  | _ => none

/-- The tasks that are no more. -/
def gone : Happening η → List Nat
  | ended n _ _ => [n]
  | outOfTime tasks => tasks
  | _ => []

/-- What the task asked, with the reply. -/
def call? (n : Nat) : Happening η → Option ((call : HandlingCall η) × call.Reply)
  | called m call reply => if m = n then some ⟨call, reply⟩ else none
  | _ => none

@[simp] theorem gone_answered (reply : Except DispatchError (Option QueuedEvent)) :
    (answered reply : Happening η).gone = [] := rfl

end Happening

/-- A processor at work. `clear` says that the loop has just looked for the shutdown signal and found none. -/
structure Run (η : Type) where
  processor : Background (Job η)
  shutdown : Shutdown := {}
  clear : Bool := false
  log : List (Happening η) := []

/-- A reply to whatever a task asks; a handler gives the result. -/
def replying (result : Except HandlerError Unit) : (call : HandlingCall η) → call.Reply
  | .handle _ _ => result
  | .sleep _ => ()
  | .count _ => ()

inductive Act (η : Type) where
  | trigger
  | dropTrigger
  | look
  | take
  | answer (reply : Except DispatchError (Option QueuedEvent))
  /-- The queue stops waiting for an event because of shutdown. -/
  | interrupt
  | resume
  /-- The loop stops waiting after a failure because of shutdown. -/
  | hurry
  | work (task : Nat) (reply : (c : HandlingCall η) → c.Reply)
  | finish (task : Nat)
  | drained
  | outOfTime

namespace Run
variable {s s' : Run η}

def start (settings : BackgroundSettings) : Run η := { processor := .ofSettings settings }

/-- The events that the queue gave away, in order. -/
def returned (s : Run η) : List QueuedEvent := s.log.filterMap Happening.returned?

/-- The tasks that have ended or were given up. -/
def gone (s : Run η) : List Nat := s.log.flatMap Happening.gone

/-- What a task asked so far, with the replies. -/
def calls (s : Run η) (n : Nat) : List ((call : HandlingCall η) × call.Reply) := s.log.filterMap (Happening.call? n)

def note (s : Run η) (x : Happening η) : Run η := { s with log := s.log ++ [x] }

section
variable (handlers : Registry η) (policy : RetryPolicy)

def job (e : QueuedEvent) : Job η := ⟨e, Handling.handle handlers policy e⟩

/-- The loop looks for the signal, and leaves if it is there. -/
def look (s : Run η) : Option (Run η) :=
  if s.shutdown.waitEnds then
    s.processor.observeShutdown.map fun b => { s with processor := b, clear := false }.note .noticed
  else if s.processor.stage = .ready then some { s with clear := true }
  else none

/-- The loop takes a slot and asks the queue. If there is none it has to look again later. -/
def take (s : Run η) : Option (Run η) :=
  if s.clear then
    match s.processor.takeSlot with
    | some b => some ({ s with processor := b, clear := false }.note .asked)
    | none => some { s with clear := false }
  else none

def answer (s : Run η) (reply : Except DispatchError (Option QueuedEvent)) : Option (Run η) :=
  (s.processor.receive (job handlers policy) reply).map fun b => { s with processor := b }.note (.answered reply)

def resume (s : Run η) : Option (Run η) := s.processor.resume.map fun b => { s with processor := b }

def finish (s : Run η) (n : Nat) : Option (Run η) := do
  let j ← s.processor.tasks.get? n
  let b ← s.processor.finish n
  some ({ s with processor := b }.note (.ended n j.event j.outcome?))

/-- A task goes on with the reply to what it asks. -/
def work (s : Run η) (n : Nat) (reply : (c : HandlingCall η) → c.Reply) : Option (Run η) := do
  let j ← s.processor.tasks.get? n
  match j.rest with
  | Program.done _ => none
  | Program.ask c next =>
    let tasks := s.processor.tasks.insert n { j with rest := next (reply c) }
    some ({ s with processor := { s.processor with tasks } }.note (.called n c (reply c)))

/-- What happens next, if it can. -/
def step? (s : Run η) : Act η → Option (Run η)
  | .trigger => s.shutdown.trigger.map fun d => { s with shutdown := d }
  | .dropTrigger => some { s with shutdown := s.shutdown.drop }
  | .look => s.look
  | .take => s.take
  | .answer reply => s.answer handlers policy reply
  | .interrupt => if s.shutdown.waitEnds then (s.answer handlers policy (.ok none)).map (note · .noticed) else none
  | .resume => s.resume
  | .hurry => if s.shutdown.waitEnds then s.resume.map (note · .noticed) else none
  | .work n reply => s.work n reply
  | .finish n => s.finish n
  | .drained => s.processor.drained.map fun b => { s with processor := b }
  | .outOfTime =>
    s.processor.abandon.map fun b => { s with processor := b }.note (.outOfTime s.processor.tasks.keys)

/-- What cannot happen is left out. -/
def run (s : Run η) (acts : List (Act η)) : Run η :=
  acts.foldl (fun s a => (s.step? handlers policy a).getD s) s

end

/-- Task `n` handles the event and does nothing else, whether it runs, has ended or was given up. What it asked is
accounted for by the handling, and what is left of that is what it has before it, or what it ended with. -/
def Handles (handlers : Registry η) (policy : RetryPolicy) (s : Run η) (n : Nat) (e : QueuedEvent) : Prop :=
  ∃ rest, (Handling.handle handlers policy e).Leaves (s.calls n) rest ∧
    (∀ j, s.processor.tasks.get? n = some j → j = ⟨e, rest⟩) ∧
    ∀ e' o, .ended n e' o ∈ s.log → e' = e ∧ o = Job.outcome? ⟨e, rest⟩

/-- What holds at every moment. -/
structure Kept (handlers : Registry η) (policy : RetryPolicy) (slots : Nat) (s : Run η) : Prop where
  slots : s.processor.slots = slots
  started : s.processor.started = s.returned.length
  accounted : s.processor.tasks.keys ++ s.gone ~ List.range s.processor.started
  handled : ∀ n e, s.returned[n]? = some e → s.Handles handlers policy n e
  silent : ∀ n, s.returned.length ≤ n → s.calls n = []
  clear : s.clear → s.processor.stage = .ready
  noticed : .noticed ∈ s.log → s.shutdown.waitEnds ∧ s.clear = false ∧ s.processor.holdsSlot = false
  order : s.log.Pairwise fun x y => x = .noticed → y ≠ .asked
  leaving : s.processor.stage = .draining ∨ s.processor.stage = .stopped → .noticed ∈ s.log
  stopped : s.processor.stage = .stopped → s.processor.tasks.keys = []

theorem returned_note (s : Run η) (x : Happening η) : (s.note x).returned = s.returned ++ x.returned?.toList := by
  rw [returned, note, List.filterMap_append]
  cases h : x.returned? <;> simp [h, returned]

theorem gone_note (s : Run η) (x : Happening η) : (s.note x).gone = s.gone ++ x.gone := by
  rw [gone, note, List.flatMap_append, List.flatMap_singleton]
  rfl

theorem calls_note (s : Run η) (x : Happening η) (n : Nat) :
    (s.note x).calls n = s.calls n ++ (x.call? n).toList := by
  rw [calls, note, List.filterMap_append]
  cases h : x.call? n <;> simp [h, calls]

theorem mem_gone_of_ended {n : Nat} {e : QueuedEvent} {o : Option Outcome} (h : .ended n e o ∈ s.log) : n ∈ s.gone :=
  List.mem_flatMap.mpr ⟨_, h, List.mem_singleton_self n⟩

section
variable {handlers : Registry η} {policy : RetryPolicy} {n : Nat} {e : QueuedEvent} {b : Background (Job η)}
  {x : Happening η}

theorem handles_note (rest : Handling η Outcome)
    (hleaves : (Handling.handle handlers policy e).Leaves (s.calls n ++ (x.call? n).toList) rest)
    (hrunning : ∀ j, b.tasks.get? n = some j → j = ⟨e, rest⟩)
    (hended : ∀ e' o, .ended n e' o ∈ s.log ∨ x = .ended n e' o → e' = e ∧ o = Job.outcome? ⟨e, rest⟩) :
    ({ s with processor := b }.note x).Handles handlers policy n e := by
  refine ⟨rest, ?_, hrunning, fun e' o hin => ?_⟩
  · rw [calls_note]
    exact hleaves
  · rcases List.mem_append.mp hin with hin | hin
    · exact hended e' o (.inl hin)
    · exact hended e' o (.inr (List.mem_singleton.mp hin).symm)

/-- A task that does not move goes on as before. -/
theorem Handles.still (h : s.Handles handlers policy n e) (hcall : x.call? n = none)
    (htask : ∀ j, b.tasks.get? n = some j → s.processor.tasks.get? n = some j) (hended : ∀ e' o, x ≠ .ended n e' o) :
    ({ s with processor := b }.note x).Handles handlers policy n e := by
  obtain ⟨rest, hleaves, hrunning, hlog⟩ := h
  apply handles_note rest
  · rw [hcall]
    exact (List.append_nil (s.calls n)).symm ▸ hleaves
  · exact fun j hj => hrunning j (htask j hj)
  · exact fun e' o hin => hlog e' o (hin.resolve_right (hended e' o))

end

namespace Kept
variable {handlers : Registry η} {policy : RetryPolicy} {k n : Nat} {b : Background (Job η)} {x : Happening η}

theorem start (settings : BackgroundSettings) :
    Kept handlers policy (max 1 settings.maxConcurrency) (Run.start settings) where
  slots := by simp [Run.start, ofSettings, Background.slots, holdsSlot, Table.size, Table.empty]
  started := rfl
  accounted := List.Perm.refl _
  handled n e h := by simp [Run.start, returned] at h
  silent _ _ := rfl
  clear h := by simp [Run.start] at h
  noticed h := by simp [Run.start] at h
  order := List.Pairwise.nil
  leaving h := by simp [Run.start, ofSettings] at h
  stopped h := by simp [Run.start, ofSettings] at h

theorem numbered (h : Kept handlers policy k s) : s.processor.Numbered := by
  intro n hn
  exact List.mem_range.mp (h.accounted.subset (List.mem_append_left _ hn))

theorem lt_of_mem_gone (h : Kept handlers policy k s) (hn : n ∈ s.gone) : n < s.processor.started :=
  List.mem_range.mp (h.accounted.subset (List.mem_append_right _ hn))

theorem notMem_gone (h : Kept handlers policy k s) (hn : n ∈ s.processor.tasks.keys) : n ∉ s.gone := by
  intro hgone
  have hnodup := h.accounted.nodup_iff.mpr List.nodup_range
  exact (List.nodup_append.mp hnodup).2.2 n hn n hgone rfl

theorem unnoticed (h : Kept handlers policy k s) (hc : s.clear = true) : .noticed ∉ s.log := by
  intro hn
  have hclear := (h.noticed hn).2.1
  rw [hc] at hclear
  cases hclear

theorem calm (h : Kept handlers policy k s) : Kept handlers policy k { s with clear := false } :=
  { h with
    clear := fun hc => absurd hc Bool.false_ne_true
    noticed := fun hn => ⟨(h.noticed hn).1, rfl, (h.noticed hn).2.2⟩ }

/-- The signal is there for good once it is there. -/
theorem channel (h : Kept handlers policy k s) {d : Shutdown} (hd : s.shutdown.waitEnds → d.waitEnds) :
    Kept handlers policy k { s with shutdown := d } :=
  { h with noticed := fun hn => ⟨hd (h.noticed hn).1, (h.noticed hn).2⟩ }

/-- What is noted of the queue and the signal. -/
theorem note (h : Kept handlers policy k s) (hreturned : x.returned? = none) (hgone : x.gone = [])
    (hcall : ∀ n, x.call? n = none) (hended : ∀ n e o, x ≠ .ended n e o)
    (hasked : x = .asked → .noticed ∉ s.log)
    (hnoticed : x = .noticed → s.shutdown.waitEnds ∧ s.clear = false ∧ s.processor.holdsSlot = false) :
    Kept handlers policy k (s.note x) := by
  have hr : (s.note x).returned = s.returned := by rw [returned_note, hreturned]; exact List.append_nil _
  have ho : (s.note x).gone = s.gone := by rw [gone_note, hgone, List.append_nil]
  refine ⟨h.slots, ?_, ?_, ?_, ?_, h.clear, ?_, ?_, ?_, h.stopped⟩
  · rw [hr]
    exact h.started
  · rw [ho]
    exact h.accounted
  · intro n e hn
    rw [hr] at hn
    exact (h.handled n e hn).still (hcall n) (fun _ hj => hj) (hended n)
  · intro n hn
    rw [hr] at hn
    rw [calls_note, hcall, Option.toList_none, List.append_nil]
    exact h.silent n hn
  · intro hin
    rcases List.mem_append.mp hin with hin | hin
    · exact h.noticed hin
    · exact hnoticed (List.mem_singleton.mp hin).symm
  · refine List.pairwise_append.mpr ⟨h.order, List.pairwise_singleton _ _, fun y hy z hz hyn hza => ?_⟩
    obtain rfl := List.mem_singleton.mp hz
    exact hasked hza (hyn ▸ hy)
  · exact fun hs => List.mem_append_left _ (h.leaving hs)

theorem noteNoticed (h : Kept handlers policy k s) (hw : s.shutdown.waitEnds) (hc : s.clear = false)
    (hs : s.processor.holdsSlot = false) : Kept handlers policy k (s.note .noticed) :=
  h.note rfl rfl (fun _ => rfl) (by simp) (by simp) fun _ => ⟨hw, hc, hs⟩

/-- The loop moves on; the tasks stay as they are. -/
theorem restage (h : Kept handlers policy k s) (htasks : b.tasks = s.processor.tasks)
    (hstarted : b.started = s.processor.started) (hslots : b.slots = s.processor.slots)
    (hclear : s.clear → b.stage = .ready) (hnoticed : .noticed ∈ s.log → b.holdsSlot = false)
    (hleaving : b.stage = .draining ∨ b.stage = .stopped → .noticed ∈ s.log)
    (hstopped : b.stage = .stopped → b.tasks.keys = []) : Kept handlers policy k { s with processor := b } where
  slots := hslots.trans h.slots
  started := hstarted.trans h.started
  accounted := by
    simp only [htasks, hstarted]
    exact h.accounted
  handled n e hn := by
    obtain ⟨rest, hleaves, hrunning, hended⟩ := h.handled n e hn
    exact ⟨rest, hleaves, fun j hj => hrunning j (htasks ▸ hj), hended⟩
  silent := h.silent
  clear := hclear
  noticed hn := ⟨(h.noticed hn).1, (h.noticed hn).2.1, hnoticed hn⟩
  order := h.order
  leaving := hleaving
  stopped := hstopped

/-- The processor moves on, and what happened is noted. -/
theorem advance (h : Kept handlers policy k s) (hslots : b.slots = s.processor.slots)
    (hstarted : b.started = s.processor.started + x.returned?.toList.length)
    (haccounted : b.tasks.keys ++ (s.gone ++ x.gone) ~ List.range b.started)
    (hhandled : ∀ n e, (s.returned ++ x.returned?.toList)[n]? = some e →
      ({ s with processor := b }.note x).Handles handlers policy n e)
    (hcall : ∀ n, s.processor.started ≤ n → x.call? n = none)
    (hclear : s.clear → b.stage = .ready) (hnoticed : .noticed ∈ s.log → b.holdsSlot = false)
    (hnot : x ≠ .noticed) (hasked : x ≠ .asked)
    (hleaving : b.stage = .draining ∨ b.stage = .stopped → .noticed ∈ s.log)
    (hstopped : b.stage = .stopped → b.tasks.keys = []) :
    Kept handlers policy k ({ s with processor := b }.note x) where
  slots := hslots.trans h.slots
  started := by
    rw [returned_note, List.length_append]
    exact hstarted.trans (congrArg (· + _) h.started)
  accounted := by
    rw [gone_note]
    exact haccounted
  handled n e hn := by
    rw [returned_note] at hn
    exact hhandled n e hn
  silent n hn := by
    have hbefore : s.returned.length ≤ n := by
      rw [returned_note, List.length_append] at hn
      exact Nat.le_trans (Nat.le_add_right _ _) hn
    rw [calls_note, hcall n (h.started ▸ hbefore), Option.toList_none, List.append_nil]
    exact h.silent n hbefore
  clear := hclear
  noticed hin := by
    rcases List.mem_append.mp hin with hin | hin
    · exact ⟨(h.noticed hin).1, (h.noticed hin).2.1, hnoticed hin⟩
    · exact absurd (List.mem_singleton.mp hin).symm hnot
  order := by
    refine List.pairwise_append.mpr ⟨h.order, List.pairwise_singleton _ _, fun y _ z hz _ => ?_⟩
    rw [List.mem_singleton.mp hz]
    exact hasked
  leaving hs := List.mem_append_left _ (hleaving hs)
  stopped := hstopped

/-- The loop only asks the queue, and only waits after a failure, while it has not noticed the signal. -/
private theorem unnoticed_of_holdsSlot (h : Kept handlers policy k s) (hs : s.processor.holdsSlot = true) :
    s.clear = false ∧ .noticed ∉ s.log := by
  constructor
  · by_contra hc
    have hready := h.clear (by simpa using hc)
    simp [holdsSlot, hready] at hs
  · intro hn
    rw [(h.noticed hn).2.2] at hs
    cases hs

private theorem release (h : Kept handlers policy k s) (hs : s.processor.holdsSlot = true) :
    Kept handlers policy k { s with processor := s.processor.releaseSlot } :=
  h.restage rfl rfl (slots_releaseSlot hs) (fun _ => rfl) (fun _ => rfl) (by simp [releaseSlot])
    (by simp [releaseSlot])

theorem look (h : Kept handlers policy k s) (hstep : s.look = some s') : Kept handlers policy k s' := by
  rw [Run.look] at hstep
  split at hstep
  · next hw =>
    obtain ⟨b, hb, rfl⟩ := Option.map_eq_some_iff.mp hstep
    obtain ⟨hready, rfl⟩ := observeShutdown_eq_some.mp hb
    have hnoted := h.calm.noteNoticed hw rfl (by simp [holdsSlot, hready])
    exact hnoted.restage rfl rfl (slots_observeShutdown hb) (by simp [Run.note]) (fun _ => rfl)
      (fun _ => List.mem_append_right _ (List.mem_singleton_self _)) (by simp)
  · next hw =>
    split at hstep
    · next hready =>
      obtain rfl := Option.some.inj hstep
      exact { h with
        clear := fun _ => hready
        noticed := fun hn => absurd (h.noticed hn).1 hw }
    · cases hstep

theorem take (h : Kept handlers policy k s) (hstep : s.take = some s') : Kept handlers policy k s' := by
  rw [Run.take] at hstep
  split at hstep
  · next hc =>
    split at hstep
    · next b hb =>
      obtain rfl := Option.some.inj hstep
      have hnot := h.unnoticed hc
      obtain ⟨hready, -, rfl⟩ := takeSlot_eq_some.mp hb
      have hasking := h.calm.restage (b := { s.processor with stage := .asking, free := s.processor.free - 1 }) rfl rfl
        (slots_takeSlot hb) (by simp) (fun hn => absurd hn hnot) (by simp) (by simp)
      exact hasking.note rfl rfl (fun _ => rfl) (by simp) (fun _ => hnot) (by simp)
    · obtain rfl := Option.some.inj hstep
      exact h.calm
  · cases hstep

theorem resume (h : Kept handlers policy k s) (hstep : s.resume = some s') : Kept handlers policy k s' := by
  obtain ⟨b, hb, rfl⟩ := Option.map_eq_some_iff.mp hstep
  obtain ⟨hs, rfl⟩ := resume_eq_some.mp hb
  exact h.release (by simp [holdsSlot, hs])

/-- An event gets the task with the next number. -/
private theorem given (h : Kept handlers policy k s) {e : QueuedEvent}
    (hb : s.processor.receive (job handlers policy) (.ok (some e)) = some b) :
    Kept handlers policy k ({ s with processor := b }.note (.answered (.ok (some e)))) := by
  have hslots := slots_receive h.numbered hb
  obtain ⟨hs, rfl⟩ := receive_eq_some.mp hb
  obtain ⟨-, hnot⟩ := h.unnoticed_of_holdsSlot (by simp [holdsSlot, hs])
  have hnew : s.processor.tasks.get? s.processor.started = none :=
    Table.notMem_keys.mp fun hin => Nat.lt_irrefl _ (h.numbered _ hin)
  refine h.advance hslots rfl ?_ (fun n e' hn => ?_) (fun _ _ => rfl) (fun _ => rfl) (fun hn => absurd hn hnot)
    (by simp) (by simp) (by simp) (by simp)
  · rw [Table.keys_insert_new hnew, Happening.gone_answered, List.append_nil, List.append_assoc]
    calc s.processor.tasks.keys ++ ([s.processor.started] ++ s.gone)
        ~ s.processor.tasks.keys ++ s.gone ++ [s.processor.started] := by
          rw [List.append_assoc]
          exact List.perm_append_comm.append_left _
      _ ~ List.range s.processor.started ++ [s.processor.started] := h.accounted.append_right _
      _ = List.range (s.processor.started + 1) := List.range_succ.symm
  · rcases Nat.lt_or_ge n s.returned.length with hlt | hge
    · rw [List.getElem?_append_left hlt] at hn
      refine (h.handled n e' hn).still rfl (fun j hj => ?_) (by simp)
      have hne : n ≠ s.processor.started := by
        rw [h.started]
        exact Nat.ne_of_lt hlt
      rw [Table.get?_insert, if_neg hne] at hj
      exact hj
    · change (s.returned ++ [e])[n]? = some e' at hn
      have hle : n ≤ s.returned.length := by
        have hlt := (List.getElem?_eq_some_iff.mp hn).1
        rw [List.length_append, List.length_singleton] at hlt
        exact Nat.le_of_lt_succ hlt
      obtain rfl : n = s.processor.started := by
        rw [h.started]
        exact Nat.le_antisymm hle hge
      rw [h.started, List.getElem?_concat_length] at hn
      obtain rfl := Option.some.inj hn
      apply handles_note (Handling.handle handlers policy e)
      · rw [h.silent _ hge]
        exact .whole
      · intro j hj
        rw [Table.get?_insert, if_pos rfl] at hj
        exact (Option.some.inj hj).symm
      · intro e' o hin
        have hbefore : .ended s.processor.started e' o ∈ s.log := hin.resolve_right (by simp)
        exact absurd (h.lt_of_mem_gone (mem_gone_of_ended hbefore)) (Nat.lt_irrefl _)

theorem answer {reply : Except DispatchError (Option QueuedEvent)} (h : Kept handlers policy k s)
    (hstep : s.answer handlers policy reply = some s') : Kept handlers policy k s' := by
  obtain ⟨b, hb, rfl⟩ := Option.map_eq_some_iff.mp hstep
  rcases reply with cause | _ | e
  · obtain ⟨hs, rfl⟩ := receive_eq_some.mp hb
    obtain ⟨hclear, hnot⟩ := h.unnoticed_of_holdsSlot (by simp [holdsSlot, hs])
    have hwaiting := h.restage (b := { s.processor with stage := .backingOff }) rfl rfl (slots_receive h.numbered hb)
      (fun hc => by rw [hclear] at hc; cases hc) (fun hn => absurd hn hnot) (by simp) (by simp)
    exact hwaiting.note rfl rfl (fun _ => rfl) (by simp) (by simp) (by simp)
  · obtain ⟨hs, rfl⟩ := receive_eq_some.mp hb
    exact (h.release (by simp [holdsSlot, hs])).note rfl rfl (fun _ => rfl) (by simp) (by simp) (by simp)
  · exact h.given hb

/-- What a task asks belongs to the handling of its event. -/
theorem work (h : Kept handlers policy k s) {reply : (c : HandlingCall η) → c.Reply}
    (hstep : s.work n reply = some s') : Kept handlers policy k s' := by
  obtain ⟨⟨e, rest⟩, hj, hstep⟩ := Option.bind_eq_some_iff.mp hstep
  cases rest with
  | done outcome => cases hstep
  | ask c next =>
  obtain rfl := Option.some.inj hstep
  have hn : n ∈ s.processor.tasks.keys := Table.mem_keys_iff.mpr (by rw [hj]; rfl)
  have hkeys (j : Job η) : (s.processor.tasks.insert n j).keys = s.processor.tasks.keys :=
    Table.keys_insert_stored (Table.mem_keys_iff.mp hn) _
  refine h.advance (slots_proceed hn _) rfl ?_ (fun m e' hm => ?_) (fun m hm => ?_) h.clear
    (fun hin => (h.noticed hin).2.2) (by simp) (by simp) h.leaving fun hs => ?_
  · rw [hkeys]
    exact (List.append_nil s.gone).symm ▸ h.accounted
  · have hbefore : s.returned[m]? = some e' := List.append_nil s.returned ▸ hm
    by_cases hmn : n = m
    · subst hmn
      obtain ⟨rest, hleaves, hrunning, -⟩ := h.handled n e' hbefore
      obtain ⟨rfl, rfl⟩ := Job.mk.inj (hrunning _ hj)
      apply handles_note (next (reply c))
      · rw [Happening.call?, if_pos rfl]
        exact hleaves.answered (reply c)
      · intro j hj'
        rw [Table.get?_insert, if_pos rfl] at hj'
        exact (Option.some.inj hj').symm
      · intro e' o hin
        have hgone : n ∈ s.gone := mem_gone_of_ended (hin.resolve_right (by simp))
        exact absurd hgone (h.notMem_gone hn)
    · refine (h.handled m e' hbefore).still (if_neg hmn) (fun j hj' => ?_) (by simp)
      rw [Table.get?_insert, if_neg (Ne.symm hmn)] at hj'
      exact hj'
  · have hlt := h.numbered n hn
    rw [Happening.call?, if_neg (by omega)]
  · exact (hkeys _).trans (h.stopped hs)

theorem finish (h : Kept handlers policy k s) (hstep : s.finish n = some s') : Kept handlers policy k s' := by
  obtain ⟨j, hj, hstep⟩ := Option.bind_eq_some_iff.mp hstep
  obtain ⟨b, hb, hend⟩ := Option.bind_eq_some_iff.mp hstep
  obtain rfl := Option.some.inj hend
  have hslots := slots_finish hb
  obtain ⟨hn, rfl⟩ := finish_eq_some.mp hb
  refine h.advance hslots rfl ?_ (fun m e hm => ?_) (fun _ _ => rfl) h.clear (fun hin => (h.noticed hin).2.2)
    (by simp) (by simp) h.leaving fun hs => ?_
  · have hkeys := List.perm_cons_erase hn
    calc (s.processor.tasks.erase n).keys ++ (s.gone ++ [n])
        = s.processor.tasks.keys.erase n ++ s.gone ++ [n] := by rw [Table.keys_erase, List.append_assoc]
      _ ~ n :: (s.processor.tasks.keys.erase n ++ s.gone) := List.perm_append_singleton _ _
      _ ~ s.processor.tasks.keys ++ s.gone := hkeys.symm.append_right _
      _ ~ List.range s.processor.started := h.accounted
  · have hbefore : s.returned[m]? = some e := List.append_nil s.returned ▸ hm
    by_cases hmn : m = n
    · subst hmn
      obtain ⟨rest, hleaves, hrunning, -⟩ := h.handled m e hbefore
      obtain rfl := hrunning j hj
      apply handles_note rest
      · exact (List.append_nil (s.calls m)).symm ▸ hleaves
      · intro j' hj'
        have hnone : m ∉ (s.processor.tasks.erase m).keys := by
          rw [Table.keys_erase]
          exact List.Nodup.not_mem_erase s.processor.tasks.keys_nodup
        rw [Table.notMem_keys.mp hnone] at hj'
        cases hj'
      · rintro e' o (hin | hx)
        · exact absurd (mem_gone_of_ended hin) (h.notMem_gone hn)
        · obtain ⟨-, rfl, rfl⟩ := Happening.ended.inj hx
          exact ⟨rfl, rfl⟩
    · refine (h.handled m e hbefore).still rfl (fun j' hj' => ?_) fun e' o hx => ?_
      · exact (Table.get?_erase_of_ne _ hmn).symm.trans hj'
      · exact hmn (Happening.ended.inj hx).1.symm
  · rw [h.stopped hs] at hn
    cases hn

/-- The tasks that are given up are accounted for as well. -/
theorem outOfTime (h : Kept handlers policy k s) (hb : s.processor.abandon = some b) :
    Kept handlers policy k ({ s with processor := b }.note (.outOfTime s.processor.tasks.keys)) := by
  have hslots := slots_abandon hb
  obtain ⟨hs, rfl⟩ := abandon_eq_some.mp hb
  refine h.advance hslots rfl ?_ (fun n e hn => ?_) (fun _ _ => rfl) (fun hc => ?_) (by simp [holdsSlot]) (by simp)
    (by simp) (fun _ => h.leaving (.inl hs)) fun _ => rfl
  · change s.gone ++ s.processor.tasks.keys ~ _
    exact List.perm_append_comm.trans h.accounted
  · have hbefore : s.returned[n]? = some e := List.append_nil s.returned ▸ hn
    exact (h.handled n e hbefore).still rfl (by simp) (by simp)
  · have hready := h.clear hc
    rw [hs] at hready
    cases hready

theorem drained (h : Kept handlers policy k s) {b : Background (Job η)} (hb : s.processor.drained = some b) :
    Kept handlers policy k { s with processor := b } := by
  have hslots := slots_drained hb
  obtain ⟨hs, hnone, rfl⟩ := drained_eq_some.mp hb
  exact h.restage rfl rfl hslots
    (fun hc => by have hready := h.clear hc; rw [hs] at hready; cases hready) (by simp [holdsSlot])
    (fun _ => h.leaving (.inl hs)) (fun _ => hnone)

theorem step (h : Kept handlers policy k s) {a : Act η} (hstep : s.step? handlers policy a = some s') :
    Kept handlers policy k s' := by
  cases a with
  | trigger =>
    obtain ⟨d, hd, rfl⟩ := Option.map_eq_some_iff.mp hstep
    refine h.channel fun _ => ?_
    rw [Shutdown.trigger, Option.ite_none_right_eq_some] at hd
    rw [← Option.some.inj hd.2, Shutdown.waitEnds, Bool.true_or]
  | dropTrigger =>
    obtain rfl := Option.some.inj hstep
    exact h.channel fun _ => by simp [Shutdown.drop, Shutdown.waitEnds]
  | look => exact h.look hstep
  | take => exact h.take hstep
  | answer reply => exact h.answer hstep
  | interrupt =>
    obtain ⟨hw, hstep⟩ := Option.ite_none_right_eq_some.mp hstep
    obtain ⟨s₁, hs₁, rfl⟩ := Option.map_eq_some_iff.mp hstep
    have h₁ := h.answer hs₁
    obtain ⟨b, hb, rfl⟩ := Option.map_eq_some_iff.mp hs₁
    obtain ⟨hs, rfl⟩ := receive_eq_some.mp hb
    exact h₁.noteNoticed hw (h.unnoticed_of_holdsSlot (by simp [holdsSlot, hs])).1 rfl
  | resume => exact h.resume hstep
  | hurry =>
    obtain ⟨hw, hstep⟩ := Option.ite_none_right_eq_some.mp hstep
    obtain ⟨s₁, hs₁, rfl⟩ := Option.map_eq_some_iff.mp hstep
    have h₁ := h.resume hs₁
    obtain ⟨b, hb, rfl⟩ := Option.map_eq_some_iff.mp hs₁
    obtain ⟨hs, rfl⟩ := resume_eq_some.mp hb
    exact h₁.noteNoticed hw (h.unnoticed_of_holdsSlot (by simp [holdsSlot, hs])).1 rfl
  | work n reply => exact h.work hstep
  | finish n => exact h.finish hstep
  | drained =>
    obtain ⟨b, hb, rfl⟩ := Option.map_eq_some_iff.mp hstep
    exact h.drained hb
  | outOfTime =>
    obtain ⟨b, hb, rfl⟩ := Option.map_eq_some_iff.mp hstep
    exact h.outOfTime hb

theorem run (h : Kept handlers policy k s) (acts : List (Act η)) :
    Kept handlers policy k (s.run handlers policy acts) := by
  induction acts generalizing s with
  | nil => exact h
  | cons a acts ih =>
    have hfirst : Kept handlers policy k ((s.step? handlers policy a).getD s) := by
      cases hstep : s.step? handlers policy a with
      | none => exact h
      | some s' => exact h.step hstep
    exact ih hfirst

theorem returned_of_running (h : Kept handlers policy k s) {j : Job η} (hj : s.processor.tasks.get? n = some j) :
    s.returned[n]? = some j.event := by
  have hlt : n < s.returned.length := h.started ▸ h.numbered n (Table.mem_keys_iff.mpr (by rw [hj]; rfl))
  have hget : s.returned[n]? = some s.returned[n] := List.getElem?_eq_getElem hlt
  obtain ⟨rest, -, hrunning, -⟩ := h.handled n _ hget
  rw [hget, hrunning j hj]

theorem returned_of_ended (h : Kept handlers policy k s) {e : QueuedEvent} {o : Option Outcome}
    (hin : .ended n e o ∈ s.log) : s.returned[n]? = some e := by
  have hlt : n < s.returned.length := h.started ▸ h.lt_of_mem_gone (mem_gone_of_ended hin)
  have hget : s.returned[n]? = some s.returned[n] := List.getElem?_eq_getElem hlt
  obtain ⟨rest, -, -, hended⟩ := h.handled n _ hget
  rw [hget, (hended e o hin).1]

end Kept

/-- What the processor keeps to, whatever happens. -/
structure Orderly (handlers : Registry η) (settings : BackgroundSettings) (s : Run η) : Prop where
  slots : s.processor.tasks.size + (if s.processor.holdsSlot then 1 else 0) + s.processor.free =
    max 1 settings.maxConcurrency
  /-- There is one task for each event that the queue gave away: it runs, has ended, or was given up. -/
  given : s.processor.tasks.keys ++ s.gone ~ List.range s.returned.length
  running : ∀ n j, s.processor.tasks.get? n = some j → s.returned[n]? = some j.event
  ended : ∀ n e o, .ended n e o ∈ s.log → s.returned[n]? = some e
  handled : ∀ n e, s.returned[n]? = some e → s.Handles handlers settings.retry n e
  /-- Nobody else calls a handler. -/
  silent : ∀ n, s.returned.length ≤ n → s.calls n = []
  noticed : s.log.Pairwise fun x y => x = .noticed → y ≠ .asked
  /-- If the grace period did not run out, everything has ended when the loop has. -/
  drained : s.processor.stage = .stopped → (∀ tasks, .outOfTime tasks ∉ s.log) →
    .noticed ∈ s.log ∧ (∀ n e, s.returned[n]? = some e → ∃ o, .ended n e o ∈ s.log) ∧
      s.processor.free = max 1 settings.maxConcurrency

/-- Every event of the queue gets a task of its own that handles it, no more of them run at a time than there are
slots, and once shutdown is noticed the loop asks for no more and waits for all of them. -/
theorem orderly (handlers : Registry η) (settings : BackgroundSettings) (acts : List (Act η)) :
    Orderly handlers settings ((Run.start settings).run handlers settings.retry acts) := by
  have h : Kept handlers settings.retry (max 1 settings.maxConcurrency)
      ((Run.start settings).run handlers settings.retry acts) := (Kept.start settings).run acts
  generalize (Run.start settings).run handlers settings.retry acts = s at h
  have hgiven : s.processor.tasks.keys ++ s.gone ~ List.range s.returned.length := h.started ▸ h.accounted
  have hended : ∀ n e o, .ended n e o ∈ s.log → s.returned[n]? = some e := fun n e o hin => h.returned_of_ended hin
  refine ⟨h.slots, hgiven, fun n j hj => h.returned_of_running hj, hended, h.handled, h.silent, h.order,
    fun hstopped htime => ?_⟩
  have hkeys := h.stopped hstopped
  rw [hkeys, List.nil_append] at hgiven
  refine ⟨h.leaving (.inr hstopped), fun n e hn => ?_, ?_⟩
  · have hgone : n ∈ s.gone := hgiven.mem_iff.mpr (List.mem_range.mpr (List.getElem?_eq_some_iff.mp hn).1)
    obtain ⟨x, hx, hnx⟩ := List.mem_flatMap.mp hgone
    cases x with
    | ended m f o =>
      obtain rfl := List.mem_singleton.mp hnx
      obtain rfl := Option.some.inj ((hended _ f o hx).symm.trans hn)
      exact ⟨o, hx⟩
    | outOfTime tasks => exact absurd hx (htime tasks)
    | asked | answered _ | noticed | called => cases hnx
  · have hslots := h.slots
    simpa [Background.slots, Table.size_eq_length_keys, hkeys, holdsSlot, hstopped] using hslots

/-- There is one slot even if the settings say zero. Its task is tried twice, and shutdown waits for the second time. -/
theorem orderly_secondAttempt :
    let e : QueuedEvent := ⟨⟨⟨0, 1⟩⟩, "Moved", "Seat", ⟨0, 2⟩, default, .null⟩
    let handlers : Registry Bool := Table.empty.insert "Moved" true
    let settings : BackgroundSettings := { maxConcurrency := 0 }
    let s := (Run.start settings).run handlers settings.retry
      [.look, .take, .answer (.ok (some e)), .work 0 (replying (.error (.retryable "busy"))), .look, .take,
        .work 0 (replying (.ok ())), .work 0 (replying (.ok ())), .trigger, .work 0 (replying (.ok ())), .look,
        .drained, .work 0 (replying (.ok ())), .work 0 (replying (.ok ())), .finish 0, .drained]
    (s.calls 0).map Sigma.fst = [.handle true e, .count .handlerRetries, .sleep (.ofMillis 200), .handle true e,
        .count .handlerDurations, .count (.processed .handled)] ∧
      s.processor.stage = .stopped ∧ (∀ tasks, .outOfTime tasks ∉ s.log) ∧
      Orderly handlers settings s ∧ .ended 0 e (some (.handled 2)) ∈ s.log ∧ s.processor.free = 1 := by
  intro e handlers settings s
  have horderly : Orderly handlers settings s := orderly handlers settings _
  have hstage : s.processor.stage = .stopped := by decide +kernel
  have hlog : s.log = [.asked, .answered (.ok (some e)), .called 0 (.handle true e) (.error (.retryable "busy")),
      .called 0 (.count .handlerRetries) (), .called 0 (.sleep (.ofMillis 200)) (), .called 0 (.handle true e) (.ok ()),
      .noticed, .called 0 (.count .handlerDurations) (), .called 0 (.count (.processed .handled)) (),
      .ended 0 e (some (.handled 2))] := by
    subst s settings handlers e
    cbv
  clear_value s
  have hreturned : s.returned[0]? = some e := by
    rw [returned, hlog]
    rfl
  have hcalls : (s.calls 0).map Sigma.fst = [.handle true e, .count .handlerRetries, .sleep (.ofMillis 200),
      .handle true e, .count .handlerDurations, .count (.processed .handled)] := by
    rw [calls, hlog]
    rfl
  have htime : ∀ tasks, .outOfTime tasks ∉ s.log := by simp [hlog]
  obtain ⟨-, hended, hfree⟩ := horderly.drained hstage htime
  obtain ⟨o, ho⟩ := hended 0 e hreturned
  obtain rfl : o = some (.handled 2) := by simpa [hlog] using ho
  exact ⟨hcalls, hstage, htime, horderly, ho, hfree⟩

end Run
end Turnstile.Background
