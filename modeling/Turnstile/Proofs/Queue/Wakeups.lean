import Turnstile.Queue

/-!
What one step of a consumer does to a queue and its bell. Consumers that need not act stay registered, a wake-up that
is not used goes on to another, and only an event that is returned leaves the queue.
-/

namespace Turnstile
open scoped List

namespace Bell
variable {b : Bell} {c d : Nat}

/-- The consumers that are registered, woken or not. -/
def members (b : Bell) : List Nat := b.waiting ++ b.woken

theorem members_ring (b : Bell) : b.ring.members ~ b.members := by
  unfold ring members
  cases b.waiting with
  | nil => exact List.Perm.refl _
  | cons c rest => exact List.perm_middle

theorem woken_ring (hd : d ∈ b.woken) : d ∈ b.ring.woken := by
  unfold ring
  cases b.waiting with
  | nil => exact hd
  | cons c rest => exact List.mem_cons_of_mem c hd

/-- A wake-up reaches somebody if anybody waits. -/
theorem ring_wakes (b : Bell) : b.ring.waiting = [] ∨ b.ring.woken.length = b.woken.length + 1 := by
  unfold ring
  cases b.waiting with
  | nil => exact .inl rfl
  | cons c rest => exact .inr rfl

theorem members_answer (h : b.members.Nodup) (hc : c ∈ b.woken) : (b.answer c).members = b.members.erase c := by
  have hwaiting : c ∉ b.waiting := fun hw => (List.nodup_append.mp h).2.2 c hw c hc rfl
  exact (List.erase_append_right b.woken hwaiting).symm

theorem members_leave (h : b.members.Nodup) (c : Nat) : (b.leave c).members ~ b.members.erase c := by
  unfold leave
  split
  · next hc =>
    rw [← members_answer h hc]
    exact members_ring _
  · next hc =>
    apply List.Perm.of_eq
    unfold members
    by_cases hw : c ∈ b.waiting
    · exact (List.erase_append_left b.woken hw).symm
    · rw [List.erase_append_right b.woken hw, List.erase_of_not_mem hc]
      exact congrArg (· ++ b.woken) (List.erase_of_not_mem hw)

theorem leave_of_not_mem (hc : c ∉ b.members) : b.leave c = b := by
  obtain ⟨hwaiting, hwoken⟩ := not_or.mp (fun h => hc (List.mem_append.mpr h))
  rw [leave, if_neg hwoken, List.erase_of_not_mem hwaiting]

theorem woken_leave (hne : d ≠ c) (hd : d ∈ b.woken) : d ∈ (b.leave c).woken := by
  unfold leave
  split
  · exact woken_ring ((List.mem_erase_of_ne hne).mpr hd)
  · exact hd

/-- One that leaves takes no wake-up along as long as anybody waits. -/
theorem leave_wakes (b : Bell) (c : Nat) :
    (b.leave c).waiting = [] ∨ b.woken.length ≤ (b.leave c).woken.length := by
  unfold leave
  split
  · next hc =>
    have hlength : (b.answer c).woken.length = b.woken.length - 1 := List.length_erase_of_mem hc
    rcases (b.answer c).ring_wakes with hnone | hwakes
    · exact .inl hnone
    · exact .inr (by omega)
  · exact .inr (Nat.le_refl _)

end Bell

namespace Stage

/-- The consumer waits to be woken, or will before it looks again. -/
def registered : Stage → Bool
  | looking false | waiting false => true
  | _ => false

/-- The consumer looks at the queue before it waits. -/
def looks : Stage → Bool
  | starting | entering | looking _ => true
  | waiting _ | finished _ => false

theorem giveUp_finishes {c : Nat} {stage stage' : Stage} {q q' : Queue} (h : stage.giveUp c q = some (stage', q')) :
    stage' = finished none := by
  cases stage with
  | waiting ready => exact (Prod.mk.inj (Option.some.inj h)).1.symm
  | starting | entering | looking | finished => cases h

end Stage

/-- A consumer, and the number of the shutdown channel that it listens to. `roused` says that it was woken and has
not looked at the queue since. -/
structure Consumer where
  signal : Nat
  stage : Stage
  roused : Bool := false

namespace Consumer

/-- The consumer went on. It goes back to the start when it was woken. -/
def go (x : Consumer) (stage : Stage) : Consumer :=
  { x with
    stage
    roused := match stage with
      | .starting => true
      | .entering | .looking _ => x.roused
      | .waiting _ | .finished _ => false }

/-- The consumer was woken, and returns none without a look at the queue. -/
def strays (x : Consumer) : Stage → Bool
  | .finished none => x.roused
  | _ => false

/-- What a step of a consumer may do. -/
structure Goes (c : Nat) (stopped : Bool) (x : Consumer) (q : Queue) (x' : Consumer) (q' : Queue) : Prop where
  signal : x'.signal = x.signal
  /-- Only an event that is returned leaves the queue, and it is the oldest. -/
  takes : q'.events = q.events ∧ (∀ e, x'.stage ≠ .finished (some e)) ∨
    ∃ e, q.events = e :: q'.events ∧ x'.stage = .finished (some e)
  nodup : q'.bell.members.Nodup
  others : ∀ d ≠ c, d ∈ q'.bell.members ↔ d ∈ q.bell.members
  self : c ∈ q'.bell.members ↔ x'.stage.registered
  woken : ∀ d ≠ c, d ∈ q.bell.woken → d ∈ q'.bell.woken
  looks : x'.roused → x'.stage.looks
  /-- The consumer begins to wait only if there is nothing. -/
  waits : x'.stage = .waiting false → q'.events = [] ∨ x.stage = .waiting false ∧ q' = q
  /-- Only one that was told to shut down goes astray. -/
  astray : x.strays x'.stage → stopped
  /-- While somebody waits, those who were woken and have yet to look are fewer by one only if the events are, or if
  the consumer goes astray. -/
  balance : q'.events = [] ∨ q'.bell.waiting = [] ∨
    q'.events.length + q.bell.woken.length + x.roused.toNat ≤
      q.events.length + q'.bell.woken.length + x'.roused.toNat + (x.strays x'.stage).toNat

variable {c : Nat} {stopped : Bool} {x x' : Consumer} {stage : Stage} {q q' : Queue}

/-- A step that leaves the queue alone. -/
theorem Goes.still (hsignal : x'.signal = x.signal) (hnodup : q.bell.members.Nodup)
    (hself : c ∈ q.bell.members ↔ x'.stage.registered) (hlooks : x'.roused → x'.stage.looks)
    (hfinished : ∀ e, x'.stage ≠ .finished (some e))
    (hwaits : x'.stage = .waiting false → q.events = [] ∨ x.stage = .waiting false)
    (hastray : x.strays x'.stage → stopped)
    (hbalance : q.events = [] ∨ x.roused.toNat ≤ x'.roused.toNat + (x.strays x'.stage).toNat) :
    Goes c stopped x q x' q where
  signal := hsignal
  takes := .inl ⟨rfl, hfinished⟩
  nodup := hnodup
  others _ _ := Iff.rfl
  self := hself
  woken _ _ hd := hd
  looks := hlooks
  waits hs := (hwaits hs).imp_right fun h => ⟨h, rfl⟩
  astray := hastray
  balance := by
    rcases hbalance with hnone | hle
    · exact .inl hnone
    · exact .inr (.inr (by omega))

/-- A consumer that leaves, be it with the oldest event or with none. -/
theorem Goes.leaving {e? : Option QueuedEvent} (hnodup : q.bell.members.Nodup)
    (htakes : q'.events = q.events ∧ e? = none ∨ ∃ e, q.events = e :: q'.events ∧ e? = some e)
    (hbell : q'.bell = q.bell.leave c) (hroused : e? = none → x.roused = false) :
    Goes c stopped x q (x.go (.finished e?)) q' := by
  have hmembers : q'.bell.members ~ q.bell.members.erase c := hbell ▸ Bell.members_leave hnodup c
  have hstray : x.strays (.finished e?) = false := by
    cases e? with
    | none => exact hroused rfl
    | some e => rfl
  constructor
  case signal => rfl
  case takes =>
    rcases htakes with ⟨hevents, rfl⟩ | ⟨e, hevents, rfl⟩
    · exact .inl ⟨hevents, by simp [go]⟩
    · exact .inr ⟨e, hevents, rfl⟩
  case nodup => exact hmembers.nodup_iff.mpr (hnodup.erase c)
  case others =>
    intro d hd
    rw [hmembers.mem_iff, List.mem_erase_of_ne hd]
  case self =>
    rw [hmembers.mem_iff, hnodup.mem_erase_iff]
    simp [go, Stage.registered]
  case woken =>
    intro d hd hin
    rw [hbell]
    exact Bell.woken_leave hd hin
  case looks => simp [go]
  case waits => simp [go]
  case astray => simp [go, hstray]
  case balance =>
    rcases q.bell.leave_wakes c with hnone | hwoken
    · exact .inr (.inl (hbell ▸ hnone))
    · refine .inr (.inr ?_)
      rw [hbell]
      rcases htakes with ⟨hevents, rfl⟩ | ⟨e, hevents, rfl⟩
      · rw [hevents, hroused rfl, Bool.toNat_false]
        omega
      · have hone := x.roused.toNat_le
        rw [hevents, List.length_cons]
        omega

/-- Who took a wake-up that was kept is not registered, and has none to leave. -/
theorem bell_left {ready : Bool} (hself : c ∈ q.bell.members ↔ ready = false) :
    (if ready then q else q.leave c).bell = q.bell.leave c := by
  cases ready with
  | false => rfl
  | true =>
    have hout : c ∉ q.bell.members := by simpa using hself
    exact (Bell.leave_of_not_mem hout).symm

/-! What happens at each stage. -/

private theorem goes_starting (hnodup : q.bell.members.Nodup) (hself : c ∈ q.bell.members ↔ x.stage.registered)
    (hstage : x.stage = .starting) :
    Goes c stopped x q (x.go (if stopped then .finished none else .entering)) q := by
  rw [hstage] at hself
  cases stopped with
  | true => exact .still rfl hnodup hself (by simp [go]) (by simp [go]) (by simp [go]) (by simp) (by simp [go, strays])
  | false =>
    exact .still rfl hnodup hself (by simp [go, Stage.looks]) (by simp [go]) (by simp [go]) (by simp [go, strays])
      (by simp [go])

private theorem goes_entering (hnodup : q.bell.members.Nodup) (hself : c ∈ q.bell.members ↔ x.stage.registered)
    (hstage : x.stage = .entering) :
    Goes c stopped x q (x.go (.looking (q.bell.register c).1)) { q with bell := (q.bell.register c).2 } := by
  have hout : c ∉ q.bell.members := by simpa [hstage, Stage.registered] using hself
  cases hstored : q.bell.stored with
  | true =>
    have hbell : q.bell.register c = (true, { q.bell with stored := false }) := if_pos hstored
    rw [hbell]
    exact { signal := rfl, takes := .inl ⟨rfl, by simp [go]⟩, nodup := hnodup, others := fun _ _ => Iff.rfl,
            self := iff_of_false hout Bool.false_ne_true, woken := fun _ _ hd => hd, looks := fun _ => rfl,
            waits := by simp [go], astray := by simp [go, strays], balance := .inr (.inr (Nat.le_add_right _ _)) }
  | false =>
    have hbell : q.bell.register c = (false, { q.bell with waiting := q.bell.waiting ++ [c] }) :=
      if_neg (by simp [hstored])
    have hmembers : q.bell.waiting ++ [c] ++ q.bell.woken ~ c :: q.bell.members := by
      rw [List.append_assoc]
      exact List.perm_middle
    rw [hbell]
    constructor
    case signal => rfl
    case takes => exact .inl ⟨rfl, by simp [go]⟩
    case nodup => exact hmembers.nodup_iff.mpr (List.nodup_cons.mpr ⟨hout, hnodup⟩)
    case others =>
      intro d hd
      exact hmembers.mem_iff.trans (by simp [hd])
    case self => exact iff_of_true (hmembers.mem_iff.mpr List.mem_cons_self) rfl
    case woken => exact fun _ _ hd => hd
    case looks => exact fun _ => rfl
    case waits => simp [go]
    case astray => simp [go, strays]
    case balance => exact .inr (.inr (Nat.le_add_right _ _))

private theorem goes_looking {ready : Bool} (hnodup : q.bell.members.Nodup)
    (hself : c ∈ q.bell.members ↔ x.stage.registered) (hstage : x.stage = .looking ready) :
    Goes c stopped x q (x.go ((Stage.looking ready).advance c stopped q).1)
      ((Stage.looking ready).advance c stopped q).2 := by
  have hready : c ∈ q.bell.members ↔ ready = false := by
    rw [hself, hstage]
    cases ready <;> simp [Stage.registered]
  cases hevents : q.events with
  | nil =>
    have hstep : (Stage.looking ready).advance c stopped q = (.waiting ready, q) := by simp [Stage.advance, hevents]
    rw [hstep]
    apply Goes.still
    case hsignal => rfl
    case hnodup => exact hnodup
    case hself =>
      rw [hready]
      cases ready <;> simp [go, Stage.registered]
    case hlooks => simp [go]
    case hfinished => simp [go]
    case hwaits => exact fun _ => .inl hevents
    case hastray => simp [go, strays]
    case hbalance => exact .inl hevents
  | cons e rest =>
    have hstep : (Stage.looking ready).advance c stopped q = (.finished (some e),
        if ready then { q with events := rest } else Queue.leave { q with events := rest } c) := by
      simp [Stage.advance, hevents]
    rw [hstep]
    apply Goes.leaving hnodup
    case htakes =>
      refine .inr ⟨e, ?_, rfl⟩
      cases ready <;> exact hevents
    case hbell => exact bell_left (q := { q with events := rest }) hready
    case hroused => simp

/-- A consumer that was woken keeps that in mind. -/
private theorem goes_woken (hnodup : q.bell.members.Nodup) (hroused : x.roused = false) (hwoken : c ∈ q.bell.woken) :
    Goes c stopped x q (x.go .starting) { q with bell := q.bell.answer c } := by
  have hmembers := Bell.members_answer hnodup hwoken
  have hlength : (q.bell.answer c).woken.length = q.bell.woken.length - 1 := List.length_erase_of_mem hwoken
  have hpos : 0 < q.bell.woken.length := List.length_pos_of_mem hwoken
  constructor
  case signal => rfl
  case takes => exact .inl ⟨rfl, by simp [go]⟩
  case nodup =>
    rw [hmembers]
    exact hnodup.erase c
  case others =>
    intro d hd
    rw [hmembers, List.mem_erase_of_ne hd]
  case self =>
    rw [hmembers, hnodup.mem_erase_iff]
    simp [go, Stage.registered]
  case woken =>
    intro d hd hin
    exact (List.mem_erase_of_ne hd).mpr hin
  case looks => exact fun _ => rfl
  case waits => simp [go]
  case astray => simp [go, strays]
  case balance =>
    refine .inr (.inr ?_)
    simp only [hroused, go, Bool.toNat_false, Bool.toNat_true]
    omega

private theorem goes_waiting {ready : Bool} (hnodup : q.bell.members.Nodup)
    (hself : c ∈ q.bell.members ↔ x.stage.registered) (hroused : x.roused = false)
    (hstage : x.stage = .waiting ready) :
    Goes c stopped x q (x.go ((Stage.waiting ready).advance c stopped q).1)
      ((Stage.waiting ready).advance c stopped q).2 := by
  rw [hstage] at hself
  cases ready with
  | true =>
    exact .still rfl hnodup hself (by simp [go, Stage.advance, Stage.looks]) (by simp [go, Stage.advance])
      (by simp [go, Stage.advance]) (by simp [go, Stage.advance, strays]) (by simp [hroused])
  | false =>
    by_cases hwoken : c ∈ q.bell.woken
    · have hstep : (Stage.waiting false).advance c stopped q = (.starting, { q with bell := q.bell.answer c }) := by
        simp [Stage.advance, hwoken]
      rw [hstep]
      exact goes_woken hnodup hroused hwoken
    · have hstep : (Stage.waiting false).advance c stopped q = (.waiting false, q) := by simp [Stage.advance, hwoken]
      rw [hstep]
      exact .still rfl hnodup hself (by simp [go]) (by simp [go]) (fun _ => .inr hstage) (by simp [go, strays])
        (by simp [hroused])

theorem goes_advance (hnodup : q.bell.members.Nodup) (hself : c ∈ q.bell.members ↔ x.stage.registered)
    (hlooks : x.roused → x.stage.looks) (hrunning : ∀ e?, x.stage ≠ .finished e?) :
    Goes c stopped x q (x.go (x.stage.advance c stopped q).1) (x.stage.advance c stopped q).2 := by
  cases hstage : x.stage with
  | starting => exact goes_starting hnodup hself hstage
  | entering => exact goes_entering hnodup hself hstage
  | looking ready => exact goes_looking hnodup hself hstage
  | waiting ready => exact goes_waiting hnodup hself (by simpa [hstage, Stage.looks] using hlooks) hstage
  | finished e? => exact absurd hstage (hrunning e?)

theorem goes_giveUp (hnodup : q.bell.members.Nodup) (hself : c ∈ q.bell.members ↔ x.stage.registered)
    (hlooks : x.roused → x.stage.looks) (h : x.stage.giveUp c q = some (stage, q')) :
    Goes c stopped x q (x.go stage) q' := by
  cases hstage : x.stage with
  | waiting ready =>
    rw [hstage] at h hself hlooks
    obtain ⟨rfl, rfl⟩ : .finished none = stage ∧ (if ready then q else q.leave c) = q' := by
      simpa [Stage.giveUp] using h
    have hready : c ∈ q.bell.members ↔ ready = false := by
      cases ready <;> simpa [Stage.registered] using hself
    apply Goes.leaving hnodup
    case htakes =>
      refine .inl ⟨?_, rfl⟩
      cases ready <;> rfl
    case hbell => exact bell_left hready
    case hroused => exact fun _ => by simpa [Stage.looks] using hlooks
  | starting | entering | looking | finished =>
    rw [hstage] at h
    cases h

/-- A new attempt begins. -/
theorem goes_call {n : Nat} {e? : Option QueuedEvent} {roused : Bool} (hnodup : q.bell.members.Nodup)
    (hself : c ∈ q.bell.members ↔ (Stage.finished e?).registered) (hlooks : roused → (Stage.finished e?).looks) :
    Goes c stopped ⟨n, .finished e?, roused⟩ q ⟨n, .starting, false⟩ q := by
  obtain rfl : roused = false := by simpa [Stage.looks] using hlooks
  exact .still rfl hnodup hself (by simp) (by simp) (by simp) (by simp [strays]) (.inr (Nat.zero_le _))

end Consumer
end Turnstile
