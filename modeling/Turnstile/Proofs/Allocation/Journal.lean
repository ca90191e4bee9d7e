import Turnstile.Proofs.Allocation.Run
import Turnstile.Proofs.Program

/-!
The rows that a command writes, in the order of its calls, and the parts of commands that write none.
-/

namespace Turnstile

/-- The row that a call writes. -/
def AllocatorCall.row? : AllocatorCall → Option Registration
  | .tx (.insertRegistration r) | .tx (.updateRegistration r) => some r
  | _ => none

namespace Allocate
variable {α β : Type} {s s' : Session} {p : Allocate α} {f : α → Allocate β}

/-- The rows that a run writes, in order. -/
def written (p : Allocate α) (s : Session) : List Registration :=
  (p.run.asked Session.answer s).filterMap AllocatorCall.row?

theorem written_bind (p : Allocate α) (f : α → Allocate β) (s : Session) :
    (p >>= f).written s = p.written s ++
      match p.on s with
      | (some (.ok a), s') => (f a).written s'
      | _ => [] := by
  have h := Program.asked_bind Session.answer p.run (ExceptT.bindCont fun a => f a) s
  rw [written, show (p >>= f).run.asked Session.answer s = _ from h, List.filterMap_append]
  unfold on
  rcases p.run.run Session.answer s with ⟨_ | (_ | _), s'⟩ <;> rfl

theorem written_bind_ok {a : α} (h : p.on s = (some (.ok a), s')) (f : α → Allocate β) :
    (p >>= f).written s = p.written s ++ (f a).written s' := by
  rw [written_bind, h]

/-- A part of a command that only reads. -/
def Silent (p : Allocate α) : Prop := ∀ s, p.written s = []

theorem Silent.after (hp : p.Silent) {a : α} (h : p.on s = (some (.ok a), s')) (f : α → Allocate β) :
    (p >>= f).written s = (f a).written s' := by
  rw [written_bind_ok h, hp s, List.nil_append]

theorem Silent.failed (hp : p.Silent) {cause : AllocationError} (h : p.on s = (some (.error cause), s'))
    (f : α → Allocate β) : (p >>= f).written s = [] := by
  rw [written_bind, h, hp s, List.nil_append]

/-- What only reads adds nothing behind. -/
theorem written_before (hf : ∀ a, (f a).Silent) : (p >>= f).written s = p.written s := by
  rw [written_bind]
  rcases p.on s with ⟨_ | _ | a, s'⟩
  · exact List.append_nil _
  · exact List.append_nil _
  · exact (congrArg (p.written s ++ ·) (hf a s')).trans (List.append_nil _)

theorem Silent.bind (hp : p.Silent) (hf : ∀ a, (f a).Silent) : (p >>= f).Silent :=
  fun s => (written_before hf).trans (hp s)

theorem silent_pure (a : α) : (pure a : Allocate α).Silent := fun _ => rfl

theorem silent_throw (cause : AllocationError) : (throw cause : Allocate α).Silent := fun _ => rfl

theorem silent_checked (r : Except RegistrationError α) : (checked r).Silent := fun _ => rfl

theorem rows_asked (c : AllocatorCall) (s : Session) :
    ((ask c).asked Session.answer s).filterMap AllocatorCall.row? = c.row?.toList := by
  have h : (ask c).asked Session.answer s = [c] := by
    unfold ask Program.call Program.asked
    rcases Session.answer c s with ⟨_ | r, s'⟩ <;> rfl
  rw [h]
  cases hc : c.row? <;> simp [hc]

theorem written_lift (p : Program AllocatorCall.Reply α) (s : Session) :
    (lift p).written s = (p.asked Session.answer s).filterMap AllocatorCall.row? := by
  have h := Program.asked_bind Session.answer p (fun a => pure (Except.ok (ε := AllocationError) a)) s
  rw [written, show (lift p).run.asked Session.answer s = _ from h, List.filterMap_append]
  rcases p.run Session.answer s with ⟨_ | _, s'⟩ <;> exact List.append_nil _

theorem written_stored (p : Program AllocatorCall.Reply (Stored α)) (s : Session) :
    (stored p).written s = (p.asked Session.answer s).filterMap AllocatorCall.row? := by
  have h := Program.asked_bind Session.answer p (fun r => pure (r.mapError AllocationError.ofStore)) s
  rw [written, show (stored p).run.asked Session.answer s = _ from h, List.filterMap_append]
  rcases p.run Session.answer s with ⟨_ | _, s'⟩ <;> exact List.append_nil _

theorem silent_lift (c : AllocatorCall) (hc : c.row? = none) : (lift (ask c)).Silent := by
  intro s
  rw [written_lift, rows_asked, hc]
  rfl

theorem silent_stored {p : Program AllocatorCall.Reply (Stored α)}
    (h : ∀ s, (p.asked Session.answer s).filterMap AllocatorCall.row? = []) : (stored p).Silent := by
  intro s
  rw [written_stored, h]

theorem silent_now : Allocate.now.Silent := silent_lift .now rfl

theorem silent_count (c : Counter) : (count c).Silent := silent_lift (.count c) rfl

theorem silent_freshId {kind : IdKind} : (freshId : Allocate (Id kind)).Silent := fun _ => rfl

theorem silent_getRegistration (id : RegistrationId) : (getRegistration id).Silent :=
  silent_stored (rows_asked (.getRegistration id))

theorem silent_registrantExists (registrant : RegistrantId) : (Tx.registrantExists registrant).Silent :=
  silent_stored (rows_asked (.tx (.registrantExists registrant)))

theorem silent_findActive (event : EventId) (registrant : RegistrantId) :
    (Tx.findActive event registrant).Silent :=
  silent_stored (rows_asked (.tx (.findActive event registrant)))

theorem silent_countConfirmed (event : EventId) : (Tx.countConfirmed event).Silent :=
  silent_stored (rows_asked (.tx (.countConfirmed event)))

theorem silent_waitlist (event : EventId) : (Tx.waitlist event).Silent :=
  silent_stored (rows_asked (.tx (.waitlist event)))

theorem silent_lockExisting (event : EventId) : (lockExisting event).Silent := by
  refine (silent_stored (rows_asked (.tx (.lockEvent event)))).bind fun e => ?_
  cases e with
  | none => exact silent_throw _
  | some e => exact silent_pure e

theorem silent_eventOf (id : RegistrationId) : (eventOf id).Silent := by
  refine (silent_getRegistration id).bind fun r => ?_
  cases r with
  | none => exact silent_throw _
  | some r => exact silent_pure _

theorem silent_lockedRegistration (id : RegistrationId) : (lockedRegistration id).Silent := by
  refine (silent_stored (rows_asked (.tx (.getRegistration id)))).bind fun r => ?_
  cases r with
  | none => exact silent_throw _
  | some r => exact silent_pure _

private theorem silent_stageEvent (e : EventRecord) : (stageEvent e).Silent := by
  unfold stageEvent
  split
  · split
    · exact silent_throw _
    · exact silent_freshId.bind fun id => silent_stored (rows_asked (.tx (.insertMessage _)))
  · exact silent_pure _

private theorem silent_forM {ι : Type} {f : ι → Allocate Unit} (h : ∀ x, (f x).Silent) (xs : List ι) :
    (xs.forM f).Silent := by
  induction xs with
  | nil => exact silent_pure _
  | cons x xs ih => exact (h x).bind fun _ => ih

theorem silent_stage (rows : List Tracked) : (stage rows).Silent := by
  refine silent_forM (fun t => ?_) rows
  exact silent_forM (fun e => silent_stageEvent e.record) t.pending

theorem written_insert (r : Registration) (s : Session) : (Tx.insertRegistration r).written s = [r] :=
  (written_stored _ s).trans (rows_asked (.tx (.insertRegistration r)) s)

theorem written_update (r : Registration) (s : Session) : (Tx.updateRegistration r).written s = [r] :=
  (written_stored _ s).trans (rows_asked (.tx (.updateRegistration r)) s)

/-- A transaction writes what its body writes. -/
theorem written_transact (body : Allocate (Verdict α)) (s : Session) :
    (transact body).written s = body.written { s with tx := {} } := by
  have hbegin : (stored (ask .begin)).Silent := silent_stored (rows_asked .begin)
  rw [transact, hbegin.after on_begin]
  refine (written_before fun x => ?_).trans ?_
  · rcases x with e | a | a
    · exact (silent_lift (.tx .drop) rfl).bind fun _ => silent_throw e
    · exact (silent_stored (rows_asked (.tx .commit))).bind fun _ => silent_pure a
    · exact (silent_stored (rows_asked (.tx .rollback))).bind fun _ => silent_pure a
  rw [written_lift]
  rfl

end Allocate
end Turnstile
