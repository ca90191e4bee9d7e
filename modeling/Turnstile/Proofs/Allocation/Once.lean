import Turnstile.Allocation
import Turnstile.Proofs.Program

/-!
Every transaction asks for one commit at most, and if that fails it ends with the error.
-/

namespace Turnstile

/-- A program that asks for one commit at most. If that fails it ends, and tells why. -/
inductive CommitsOnce {α : Type} : Program AllocatorCall.Reply (Except AllocationError α) → Prop where
  | done (result : Except AllocationError α) : CommitsOnce (.done result)
  | other {c : AllocatorCall} {next : c.Reply → Program AllocatorCall.Reply (Except AllocationError α)}
    (hc : c ≠ .tx .commit) (h : ∀ r, CommitsOnce (next r)) : CommitsOnce (.ask c next)
  | commit {next : Stored Unit → Program AllocatorCall.Reply (Except AllocationError α)}
    (herror : ∀ e, next (.error e) = .done (.error (.ofStore e))) (hok : (next (.ok ())).Asks (· ≠ .tx .commit)) :
    CommitsOnce (.ask (.tx .commit) next)

namespace Allocate
variable {α β : Type} {p : Allocate α} {f : α → Allocate β} {event : EventId} {now : Instant}

/-- A part of a command that commits nothing. -/
def Calm (p : Allocate α) : Prop := p.run.Asks (· ≠ .tx .commit)

/-- A part of a command that commits at most once. -/
def Once (p : Allocate α) : Prop := CommitsOnce p.run

theorem Calm.bind (hp : p.Calm) (hf : ∀ a, (f a).Calm) : (p >>= f).Calm := Program.Asks.bind_except hp hf

private theorem CommitsOnce.of_asks {q : Program AllocatorCall.Reply (Except AllocationError α)}
    (h : q.Asks (· ≠ .tx .commit)) : CommitsOnce q := by
  induction q with
  | done a => exact .done a
  | ask c next ih => exact .other h.1 fun r => ih r (h.2 r)

theorem Calm.once (h : p.Calm) : p.Once := CommitsOnce.of_asks h

private theorem once_after {q : Program AllocatorCall.Reply β}
    {g : β → Program AllocatorCall.Reply (Except AllocationError α)} (hq : q.Asks (· ≠ .tx .commit))
    (hg : ∀ b, CommitsOnce (g b)) : CommitsOnce (q.bind g) := by
  induction q with
  | done b => exact hg b
  | ask c next ih => exact .other hq.1 fun r => ih r (hq.2 r)

theorem Calm.then_once (hp : p.Calm) (hf : ∀ a, (f a).Once) : (p >>= f).Once := by
  refine once_after hp fun x => ?_
  cases x with
  | ok a => exact hf a
  | error e => exact .done _

/-- What follows a transaction commits nothing more. -/
theorem Once.then_calm (hp : p.Once) (hf : ∀ a, (f a).Calm) : (p >>= f).Once := by
  have hbind (x : Except AllocationError α) : ((ExceptT.bindCont fun a => f a) x).Asks (· ≠ .tx .commit) := by
    cases x with
    | ok a => exact hf a
    | error e => trivial
  show CommitsOnce (p.run.bind (ExceptT.bindCont fun a => f a))
  unfold Once at hp
  generalize p.run = q at hp
  induction hp with
  | done x => exact CommitsOnce.of_asks (hbind x)
  | other hc _ ih => exact .other hc ih
  | commit herror hok =>
    refine .commit (fun e => ?_) (hok.bind hbind)
    rw [herror]
    rfl

theorem calm_pure (a : α) : (pure a : Allocate α).Calm := trivial

theorem calm_throw (e : AllocationError) : (throw e : Allocate α).Calm := trivial

theorem calm_checked (r : Except RegistrationError α) : (checked r).Calm := trivial

theorem calm_now : Allocate.now.Calm := ⟨nofun, fun _ => trivial⟩

theorem calm_count (c : Counter) : (count c).Calm := ⟨nofun, fun _ => trivial⟩

theorem calm_freshId {kind : IdKind} : (freshId : Allocate (Id kind)).Calm := ⟨nofun, fun _ => trivial⟩

theorem calm_waitlist : (Tx.waitlist event).Calm := ⟨nofun, fun _ => trivial⟩

theorem calm_countConfirmed : (Tx.countConfirmed event).Calm := ⟨nofun, fun _ => trivial⟩

theorem calm_updateRegistration (r : Registration) : (Tx.updateRegistration r).Calm :=
  ⟨nofun, fun _ => trivial⟩

theorem calm_lockExisting : (lockExisting event).Calm := by
  refine Calm.bind (p := Tx.lockEvent event) ⟨nofun, fun _ => trivial⟩ fun e => ?_
  cases e with
  | none => exact calm_throw _
  | some e => exact calm_pure e

theorem calm_eventOf (id : RegistrationId) : (eventOf id).Calm := by
  refine Calm.bind (p := getRegistration id) ⟨nofun, fun _ => trivial⟩ fun r => ?_
  cases r with
  | none => exact calm_throw _
  | some r => exact calm_pure _

theorem calm_lockedRegistration (id : RegistrationId) : (lockedRegistration id).Calm := by
  refine Calm.bind (p := Tx.getRegistration id) ⟨nofun, fun _ => trivial⟩ fun r => ?_
  cases r with
  | none => exact calm_throw _
  | some r => exact calm_pure _

private theorem calm_stageEvent (e : EventRecord) : (stageEvent e).Calm := by
  unfold stageEvent
  split
  · split
    · exact calm_throw _
    · exact calm_freshId.bind fun _ => ⟨nofun, fun _ => trivial⟩
  · exact calm_pure _

private theorem calm_forM {ι : Type} {g : ι → Allocate Unit} (h : ∀ x, (g x).Calm) (xs : List ι) :
    (xs.forM g).Calm := by
  induction xs with
  | nil => exact calm_pure _
  | cons x xs ih => exact (h x).bind fun _ => ih

theorem calm_stage (rows : List Tracked) : (stage rows).Calm := by
  refine calm_forM (fun t => ?_) rows
  exact calm_forM (fun e => calm_stageEvent e.record) t.pending

theorem calm_shiftUp (rs : List Registration) : (shiftUp now rs).Calm := by
  induction rs with
  | nil => exact calm_pure _
  | cons r rs ih =>
    refine (calm_checked _).bind fun x => ?_
    exact (calm_updateRegistration _).bind fun _ => ih.bind fun _ => calm_pure _

theorem calm_closeGap (released : UInt32) : (closeGap event released now).Calm :=
  calm_waitlist.bind fun _ => calm_shiftUp _

theorem calm_promoteHead : (promoteHead event now).Calm := by
  refine calm_waitlist.bind fun q => ?_
  cases q with
  | nil => exact calm_pure _
  | cons r rest =>
    refine (calm_checked _).bind fun x => ?_
    exact (calm_updateRegistration _).bind fun _ => (calm_shiftUp rest).bind fun _ => calm_pure _

theorem calm_promoteIfFree (e : ScheduledEvent) : (promoteIfFree e now).Calm := by
  refine calm_countConfirmed.bind fun n => ?_
  split
  · exact calm_promoteHead
  · exact calm_pure _

theorem once_transact {body : Allocate (Verdict α)} (h : body.Calm) : (transact body).Once := by
  have hbegin : (stored (ask .begin)).Calm := ⟨nofun, fun _ => trivial⟩
  have hbody : (lift body.run).Calm := Program.Asks.bind h fun _ => trivial
  refine hbegin.then_once fun _ => hbody.then_once fun x => ?_
  rcases x with e | a | a
  · exact Calm.once (Calm.bind (p := lift (tx .drop)) ⟨nofun, fun _ => trivial⟩ fun _ => calm_throw e)
  · exact .commit (fun _ => rfl) trivial
  · exact Calm.once (Calm.bind (p := stored (tx .rollback)) ⟨nofun, fun _ => trivial⟩ fun _ => calm_pure a)

theorem once_register (event : EventId) (registrant : RegistrantId) : (register event registrant).Once := by
  refine calm_now.then_once fun now => (once_transact ?_).then_calm fun created =>
    (calm_count _).bind fun _ => calm_pure _
  refine calm_lockExisting.bind fun e => ?_
  refine Calm.bind (p := Tx.registrantExists registrant) ⟨nofun, fun _ => trivial⟩ fun known => ?_
  dsimp only
  split
  · exact calm_throw _
  refine Calm.bind (p := Tx.findActive event registrant) ⟨nofun, fun _ => trivial⟩ fun active => ?_
  split
  · exact calm_throw _
  split
  · exact calm_throw _
  have henter (t : Tracked) : (do
      Tx.insertRegistration t.registration
      stage [t]
      pure (.commit t) : Allocate (Verdict Tracked)).Calm :=
    Calm.bind (p := Tx.insertRegistration t.registration) ⟨nofun, fun _ => trivial⟩ fun _ =>
      (calm_stage [t]).bind fun _ => calm_pure _
  refine calm_countConfirmed.bind fun seated => ?_
  split
  · refine calm_freshId.bind fun id => ?_
    rw [pure_bind]
    exact henter _
  · refine calm_waitlist.bind fun queue => (calm_checked _).bind fun create => calm_freshId.bind fun id => ?_
    rw [pure_bind]
    exact henter _

private theorem calm_report (t : Tracked) (moved : List Tracked) (a : α) :
    (do
      stage [t]
      stage moved
      pure (.commit a) : Allocate (Verdict α)).Calm :=
  (calm_stage [t]).bind fun _ => (calm_stage moved).bind fun _ => calm_pure _

theorem once_cancel (id : RegistrationId) : (cancel id).Once := by
  refine calm_now.then_once fun now => (calm_eventOf id).then_once fun event =>
    (once_transact ?_).then_calm fun x => ?_
  · refine calm_lockExisting.bind fun e => (calm_lockedRegistration id).bind fun r => ?_
    split
    · exact calm_pure _
    · refine (calm_updateRegistration _).bind fun _ => ?_
      dsimp only
      split
      · exact (calm_closeGap _).bind fun moved => calm_report _ moved _
      split
      · exact (calm_promoteIfFree e).bind fun moved => calm_report _ moved _
      · exact calm_report _ [] _
  · obtain ⟨allocation, released | released⟩ := x
    · exact calm_pure _
    · refine (calm_count _).bind fun _ => ?_
      split
      · exact (calm_count _).bind fun _ => calm_pure _
      · exact calm_pure _

theorem once_promote (event : EventId) : (promote event).Once := by
  refine calm_now.then_once fun now => (once_transact ?_).then_calm fun x => ?_
  · refine calm_lockExisting.bind fun e => calm_waitlist.bind fun queue => ?_
    dsimp only
    split
    · exact calm_pure _
    refine calm_countConfirmed.bind fun seated => ?_
    split
    · exact calm_throw _
    · exact calm_promoteHead.bind fun changed => (calm_stage changed).bind fun _ => calm_pure _
  · rcases x with _ | _ | _
    · exact calm_pure _
    · exact (calm_count _).bind fun _ => calm_pure _
    · exact (calm_count _).bind fun _ => calm_pure _

theorem once_confirm (id : RegistrationId) : (confirm id).Once := by
  refine calm_now.then_once fun now => (calm_eventOf id).then_once fun event =>
    (once_transact ?_).then_calm fun a => (calm_count _).bind fun _ => calm_pure a
  refine calm_lockExisting.bind fun e => (calm_lockedRegistration id).bind fun r => ?_
  refine (calm_checked _).bind fun x => calm_countConfirmed.bind fun seated => ?_
  dsimp only
  split
  · exact calm_throw _
  · exact (calm_updateRegistration _).bind fun _ => (calm_closeGap _).bind fun moved => calm_report _ moved _

theorem once_raiseCapacity (event : EventId) (capacity : UInt32) : (raiseCapacity event capacity).Once := by
  refine once_transact (calm_lockExisting.bind fun e => ?_)
  dsimp only
  split
  · exact calm_throw _
  split
  · exact Calm.bind (p := Tx.updateCapacity e.id capacity) ⟨nofun, fun _ => trivial⟩ fun _ => calm_pure _
  · exact calm_pure _

theorem once_promoteStep (event : EventId) : (promoteStep event).Once := by
  refine calm_now.then_once fun now => (once_transact ?_).then_calm fun x => ?_
  · refine calm_lockExisting.bind fun e => (calm_promoteIfFree e).bind fun changed => ?_
    cases changed with
    | nil => exact calm_pure _
    | cons t rest => exact (calm_stage (t :: rest)).bind fun _ => calm_pure _
  · split
    · exact (calm_count _).bind fun _ => calm_pure _
    · exact calm_pure _

end Allocate
end Turnstile
