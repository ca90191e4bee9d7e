import Turnstile.Background.Retrying
import Turnstile.Proofs.Metrics.Commands
import Mathlib.Data.Nat.Find

/-!
The retry loop against every sequence of results: which attempt is the last one, what is asked up to there, and what
is reported and counted of it.
-/

namespace Turnstile
variable {η : Type}

/-- A result that calls for another attempt. -/
def HandlerError.retries : Except HandlerError Unit → Bool
  | .ok () => false
  | .error cause => cause.isRetryable

namespace RetryPolicy
variable {p : RetryPolicy} {results : Nat → Except HandlerError Unit} {m m' : Nat}

theorem one_le_attempts (p : RetryPolicy) : 1 ≤ p.attempts := by
  rw [attempts, UInt32.max_def]
  split
  · exact Nat.le_refl 1
  · next h => exact Nat.le_of_lt (UInt32.lt_iff_toNat_lt.mp (UInt32.not_le.mp h))

theorem attempts_lt (p : RetryPolicy) : p.attempts < UInt32.size := UInt32.toNat_lt_size _

/-- The attempt after which there is no other: the first whose result does not call for one, or the last that the
policy allows. -/
structure LastAttempt (p : RetryPolicy) (results : Nat → Except HandlerError Unit) (m : Nat) : Prop where
  pos : 1 ≤ m
  le : m ≤ p.attempts
  earlier : ∀ i, 1 ≤ i → i < m → HandlerError.retries (results i)
  final : m = p.attempts ∨ HandlerError.retries (results m) = false

theorem LastAttempt.unique (h : p.LastAttempt results m) (h' : p.LastAttempt results m') : m = m' := by
  have hle : ∀ {m m' : Nat}, p.LastAttempt results m → p.LastAttempt results m' → m ≤ m' := by
    intro m m' h h'
    by_contra hlt
    rcases h'.final with hmax | hend
    · have hle := h.le
      omega
    · rw [h.earlier m' h'.pos (by omega)] at hend
      cases hend
  exact Nat.le_antisymm (hle h h') (hle h' h)

theorem exists_lastAttempt (p : RetryPolicy) (results : Nat → Except HandlerError Unit) :
    ∃ m, p.LastAttempt results m := by
  have hmax : ∃ m, 1 ≤ m ∧ (m = p.attempts ∨ HandlerError.retries (results m) = false) :=
    ⟨p.attempts, p.one_le_attempts, .inl rfl⟩
  have hfirst := Nat.find_spec hmax
  refine ⟨Nat.find hmax, hfirst.1, Nat.find_min' hmax ⟨p.one_le_attempts, .inl rfl⟩, fun i hi hlt => ?_, hfirst.2⟩
  have hnot := Nat.find_min hmax hlt
  by_contra h
  exact hnot ⟨hi, .inr (by simpa using h)⟩

end RetryPolicy

namespace HandlingCall

def handled? : HandlingCall η → Option (η × QueuedEvent)
  | handle handler e => some (handler, e)
  | _ => none

def slept? : HandlingCall η → Option Duration
  | sleep delay => some delay
  | _ => none

def counted? : HandlingCall η → Option Counter
  | count counter => some counter
  | _ => none

end HandlingCall

/-- Surroundings in which the results of the attempts are given beforehand. -/
structure Rehearsal (η : Type) where
  results : Nat → Except HandlerError Unit
  /-- How many attempts were made. -/
  made : Nat := 0
  log : List (HandlingCall η) := []
  metrics : Metrics := .empty

namespace Rehearsal
variable {s : Rehearsal η} {c : HandlingCall η} {calls : List (HandlingCall η)}

def answer : (c : HandlingCall η) → Rehearsal η → c.Reply × Rehearsal η
  | .handle h e, s => (s.results (s.made + 1), { s with made := s.made + 1, log := s.log ++ [.handle h e] })
  | .sleep delay, s => ((), { s with log := s.log ++ [.sleep delay] })
  | .count counter, s => ((), { s with log := s.log ++ [.count counter], metrics := s.metrics.add counter 1 })

/-- What is left after some calls. -/
def after (s : Rehearsal η) (calls : List (HandlingCall η)) : Rehearsal η :=
  calls.foldl (fun s c => (answer c s).2) s

theorem answer_log (c : HandlingCall η) (s : Rehearsal η) : (answer c s).2.log = s.log ++ [c] := by
  cases c <;> rfl

theorem answer_metrics (c : HandlingCall η) (s : Rehearsal η) (counter : Counter) :
    (answer c s).2.metrics.value counter = s.metrics.value counter + c.counted?.toList.count counter := by
  cases c with
  | count counter' =>
    rw [answer, Metrics.value_add, HandlingCall.counted?, Option.toList_some, List.count_singleton]
    simp only [beq_iff_eq, @eq_comm _ counter counter']
  | handle | sleep => rfl

theorem after_log (s : Rehearsal η) (calls : List (HandlingCall η)) : (s.after calls).log = s.log ++ calls := by
  induction calls generalizing s with
  | nil => exact (List.append_nil _).symm
  | cons c calls ih =>
    refine (ih (answer c s).2).trans ?_
    rw [answer_log, List.append_assoc, List.singleton_append]

theorem after_metrics (s : Rehearsal η) (calls : List (HandlingCall η)) (counter : Counter) :
    (s.after calls).metrics.value counter =
      s.metrics.value counter + (calls.filterMap HandlingCall.counted?).count counter := by
  induction calls generalizing s with
  | nil => rfl
  | cons c calls ih =>
    refine (ih (answer c s).2).trans ?_
    rw [answer_metrics, Nat.add_assoc, ← List.count_append, List.filterMap_cons]
    cases c.counted? <;> rfl

theorem after_append (s : Rehearsal η) (calls calls' : List (HandlingCall η)) :
    s.after (calls ++ calls') = (s.after calls).after calls' := List.foldl_append

end Rehearsal

/-- How an event ended with the result of its last attempt. -/
def Outcome.of (attempts : UInt32) : Except HandlerError Unit → Outcome
  | .ok () => .handled attempts
  | .error cause => .failed attempts cause

namespace Handling
variable {policy : RetryPolicy} {handler : η} {e : QueuedEvent} {s : Rehearsal η} {m : Nat} {attempt : UInt32}

/-- An attempt and what comes of its result. -/
theorem attempts_eq :
    attempts policy handler e attempt = (do
      let result ← ask (.handle handler e)
      if HandlerError.retries result && policy.shouldRetry attempt then
        ask (.count .handlerRetries)
        ask (.sleep (policy.delayAfter attempt))
        attempts policy handler e (attempt + 1)
      else return .of attempt result) := by
  rw [attempts]
  refine congrArg (ask _ >>= ·) (funext fun result => ?_)
  cases result with
  | ok => rfl
  | error cause =>
    by_cases hmore : cause.isRetryable ∧ policy.shouldRetry attempt
    · exact (dif_pos hmore).trans (if_pos (Bool.and_eq_true_iff.mpr hmore)).symm
    · exact (dif_neg hmore).trans (if_neg fun h => hmore (Bool.and_eq_true_iff.mp h)).symm

/-- The calls of failed attempts, from the given one on. -/
def tries (policy : RetryPolicy) (handler : η) (e : QueuedEvent) (first n : Nat) : List (HandlingCall η) :=
  (List.range' first n).flatMap fun i =>
    [.handle handler e, .count .handlerRetries, .sleep (policy.delayAfter (.ofNat i))]

theorem tries_succ (first n : Nat) :
    tries policy handler e first (n + 1) =
      [.handle handler e, .count .handlerRetries, .sleep (policy.delayAfter (.ofNat first))] ++
        tries policy handler e (first + 1) n := by
  rw [tries, List.range'_succ, List.flatMap_cons]
  rfl

open Rehearsal

/-- The loop from some attempt on: those that fail and call for another, and the last one. -/
theorem exec_attempts (hlast : policy.LastAttempt s.results m) {n : Nat} (hm : s.made + 1 + n = m)
    (hattempt : attempt.toNat = s.made + 1) :
    (attempts policy handler e attempt).exec answer s =
      (.of (.ofNat m) (s.results m), s.after (tries policy handler e (s.made + 1) n ++ [.handle handler e])) := by
  have hnumber : UInt32.ofNat (s.made + 1) = attempt := by rw [← hattempt, UInt32.ofNat_toNat]
  induction n generalizing s attempt with
  | zero =>
    have hend : (HandlerError.retries (s.results (s.made + 1)) && policy.shouldRetry attempt) = false := by
      rcases hlast.final with hmax | hend
      · have hlast : policy.shouldRetry attempt = false := by
          rw [← Bool.not_eq_true, RetryPolicy.shouldRetry_iff]
          omega
        rw [hlast, Bool.and_false]
      · rw [show s.made + 1 = m from hm, hend, Bool.false_and]
    rw [attempts_eq, ← show s.made + 1 = m from hm, hnumber]
    change (ite _ _ _ : Handling η Outcome).exec answer _ = _
    rw [if_neg (by rw [hend]; exact Bool.false_ne_true)]
    rfl
  | succ n ih =>
    have hagain := hlast.earlier (s.made + 1) (by omega) (by omega)
    have hmore : policy.shouldRetry attempt = true := by
      have hle := hlast.le
      rw [RetryPolicy.shouldRetry_iff]
      omega
    let s₁ := s.after [.handle handler e, .count .handlerRetries, .sleep (policy.delayAfter attempt)]
    have hmade : (attempt + 1).toNat = s₁.made + 1 := by
      rw [RetryPolicy.toNat_succ_of_shouldRetry hmore, hattempt]
      rfl
    have hrest := ih (s := s₁) hlast (show s.made + 1 + 1 + n = m by omega) hmade
      (by rw [← hmade, UInt32.ofNat_toNat])
    rw [attempts_eq, tries_succ, hnumber]
    change (ite _ _ _ : Handling η Outcome).exec answer _ = _
    rw [if_pos (by rw [hagain, hmore]; rfl), List.append_assoc, after_append]
    exact hrest

private theorem handled_tries (first n : Nat) :
    (tries policy handler e first n).filterMap HandlingCall.handled? = List.replicate n (handler, e) := by
  induction n generalizing first with
  | zero => rfl
  | succ n ih =>
    rw [tries_succ, List.filterMap_append, ih]
    rfl

private theorem slept_tries (first n : Nat) :
    (tries policy handler e first n).filterMap HandlingCall.slept? =
      (List.range' first n).map fun i => policy.delayAfter (.ofNat i) := by
  induction n generalizing first with
  | zero => rfl
  | succ n ih =>
    rw [tries_succ, List.filterMap_append, ih, List.range'_succ]
    rfl

private theorem counted_tries (first n : Nat) :
    (tries policy handler e first n).filterMap HandlingCall.counted? = List.replicate n .handlerRetries := by
  induction n generalizing first with
  | zero => rfl
  | succ n ih =>
    rw [tries_succ, List.filterMap_append, ih]
    rfl

/-- What is seen of an event whose handler was tried `m` times. -/
structure Retried (policy : RetryPolicy) (handler : η) (e : QueuedEvent) (m : Nat) (s : Rehearsal η)
    (outcome : Outcome) (s' : Rehearsal η) : Prop where
  last : policy.LastAttempt s.results m
  only : ∀ m', policy.LastAttempt s.results m' → m' = m
  attempts : ∃ n : UInt32, n.toNat = m ∧ outcome = .of n (s.results m)
  log : s'.log = s.log ++ (tries policy handler e 1 (m - 1) ++
    [.handle handler e, .count .handlerDurations, .count (.processed outcome.label)])
  handled : s'.log.filterMap HandlingCall.handled? =
    s.log.filterMap HandlingCall.handled? ++ List.replicate m (handler, e)
  slept : s'.log.filterMap HandlingCall.slept? =
    s.log.filterMap HandlingCall.slept? ++ (List.range' 1 (m - 1)).map fun i => policy.delayAfter (.ofNat i)
  counted : ∀ c, s'.metrics.value c = s.metrics.value c +
    if c = .handlerRetries then m - 1
    else if c = .handlerDurations ∨ c = .processed outcome.label then 1
    else 0

private theorem count_counted (n : Nat) (label : OutcomeLabel) (c : Counter) :
    (List.replicate n Counter.handlerRetries ++ [Counter.handlerDurations, Counter.processed label]).count c =
      if c = .handlerRetries then n
      else if c = .handlerDurations ∨ c = .processed label then 1
      else 0 := by
  rw [List.count_append, List.count_replicate, List.count_cons, List.count_singleton]
  by_cases hretries : c = .handlerRetries
  · simp [hretries]
  · by_cases hdurations : c = .handlerDurations
    · simp [hdurations]
    · simp [hretries, hdurations, Ne.symm hretries, Ne.symm hdurations, @eq_comm _ c]

private theorem exec_handle_some {handlers : Registry η} (hget : handlers.get? e.type = some handler)
    (hlast : policy.LastAttempt s.results m) (hnew : s.made = 0) :
    let outcome := Outcome.of (.ofNat m) (s.results m)
    (handle handlers policy e).exec answer s =
      (outcome, s.after (tries policy handler e 1 (m - 1) ++
        [.handle handler e, .count .handlerDurations, .count (.processed outcome.label)])) := by
  intro outcome
  have hfirst : s.made + 1 + (m - 1) = m := by
    have hpos := hlast.pos
    omega
  have hone : (1 : UInt32).toNat = s.made + 1 := by rw [hnew]; rfl
  have hloop : (attempts policy handler e 1).exec answer s = _ := exec_attempts hlast hfirst hone
  have hend : s.after (tries policy handler e 1 (m - 1) ++
      [.handle handler e, .count .handlerDurations, .count (.processed outcome.label)]) =
      (s.after (tries policy handler e 1 (m - 1) ++ [.handle handler e])).after
        [.count .handlerDurations, .count (.processed outcome.label)] := by
    rw [List.append_cons]
    exact after_append s _ _
  rw [hnew] at hloop
  rw [handle, hget]
  refine (Program.exec_bind answer _ _ s).trans ?_
  rw [hloop, hend]
  rfl

/-- A registered handler is tried until it succeeds, fails for good or has used up its attempts, with the growing
waits in between and none at the end. An event without a handler is dropped. -/
theorem handle_retries (handlers : Registry η) (policy : RetryPolicy) (e : QueuedEvent)
    (results : Nat → Except HandlerError Unit) (metrics : Metrics) :
    let s : Rehearsal η := { results, metrics }
    ∃ outcome s', (handle handlers policy e).exec answer s = (outcome, s') ∧
      match handlers.get? e.type with
      | some handler => ∃ m, Retried policy handler e m s outcome s'
      | none => outcome = .dropped ∧ s'.log = [.count (.processed .dropped)] ∧
        ∀ c, s'.metrics.value c = metrics.value c + if c = .processed .dropped then 1 else 0 := by
  intro s
  cases hget : handlers.get? e.type with
  | none =>
    refine ⟨.dropped, s.after [.count (.processed .dropped)], ?_, rfl, rfl, fun c => ?_⟩
    · rw [handle, hget]
      rfl
    · exact Metrics.value_add metrics _ c 1
  | some handler =>
    obtain ⟨m, hlast⟩ := policy.exists_lastAttempt results
    have hexec := exec_handle_some (s := s) hget hlast rfl
    have hone : m - 1 + 1 = m := Nat.sub_add_cancel hlast.pos
    refine ⟨_, _, hexec, m, hlast, fun m' h => h.unique hlast, ⟨.ofNat m, ?_, rfl⟩, after_log _ _, ?_, ?_, fun c => ?_⟩
    · exact UInt32.toNat_ofNat_of_lt' (Nat.lt_of_le_of_lt hlast.le policy.attempts_lt)
    · rw [after_log, List.filterMap_append, List.filterMap_append, handled_tries, ← hone, List.replicate_succ']
      rfl
    · rw [after_log, List.filterMap_append, List.filterMap_append, slept_tries]
      simp [HandlingCall.slept?]
    · rw [after_metrics, List.filterMap_append, counted_tries]
      exact congrArg (s.metrics.value c + ·) (count_counted (m - 1) _ c)

/-- The second attempt fails for good although the policy allows a third. -/
example :
    let results n : Except HandlerError Unit := .error (if n = 2 then .permanent "gone" else .retryable "busy")
    ((handle (Table.empty.insert "Moved" true) {} ⟨⟨⟨0, 1⟩⟩, "Moved", "Seat", ⟨0, 2⟩, default, .null⟩).exec answer
      { results }).1 = .failed 2 (.permanent "gone") := by
  decide +kernel

end Handling
end Turnstile
