import Turnstile.Registration
import Mathlib.Tactic.Simps.Basic

/-! What each transition makes of a registration that allows it, and the event it records. -/

namespace Turnstile

namespace Registration

@[simps] def cancelledAt (r : Registration) (now : Instant) : Registration :=
  { r with status := .cancelled, position := none, updatedAt := now }

@[simps] def seatedAt (r : Registration) (now : Instant) : Registration :=
  { r with status := .confirmed, position := none, updatedAt := now }

@[simps] def movedUpAt (r : Registration) (now : Instant) : Registration :=
  { r with position := r.position.map (· - 1), updatedAt := now }

/-- The place of a registration as a number. -/
def rank (r : Registration) : Option Nat := r.position.map UInt32.toNat

/-- `r'` is what a waiting registration `r` becomes when it leaves the waitlist, for a seat or for good. -/
structure Left (r' r : Registration) : Prop where
  id : r'.id = r.id
  eventId : r'.eventId = r.eventId
  registrantId : r'.registrantId = r.registrantId
  position : r'.position = none
  status : r'.status ≠ .waitlisted

theorem left_cancelledAt (r : Registration) (now : Instant) : (r.cancelledAt now).Left r :=
  ⟨rfl, rfl, rfl, rfl, by simp⟩

theorem left_seatedAt (r : Registration) (now : Instant) : (r.seatedAt now).Left r :=
  ⟨rfl, rfl, rfl, rfl, by simp⟩

end Registration

namespace Tracked
variable {r : Registration} {p : UInt32}

def cancelledAt (r : Registration) (now : Instant) : Tracked :=
  ⟨r.cancelledAt now, [.cancelled r.subject r.status r.position now]⟩

def seatedAt (r : Registration) (now : Instant) : Tracked :=
  ⟨r.seatedAt now, [.promoted r.subject (r.position.getD 0) now]⟩

def movedUpAt (r : Registration) (now : Instant) : Tracked :=
  ⟨r.movedUpAt now, [.positionChanged r.subject (r.position.getD 0) (r.position.getD 0 - 1) now]⟩

@[simp] theorem cancelledAt_registration (now : Instant) :
    (cancelledAt r now).registration = r.cancelledAt now := rfl

@[simp] theorem seatedAt_registration (now : Instant) : (seatedAt r now).registration = r.seatedAt now := rfl

@[simp] theorem movedUpAt_registration (now : Instant) :
    (movedUpAt r now).registration = r.movedUpAt now := rfl

theorem cancel_of_cancelled (h : r.status = .cancelled) (now : Instant) :
    Tracked.cancel ⟨r, []⟩ now = none := by
  simp [Tracked.cancel, Registration.cancel, h, RegistrationStatus.canCancel, RegistrationStatus.isActive]

theorem cancel_of_active (h : r.status ≠ .cancelled) (now : Instant) :
    Tracked.cancel ⟨r, []⟩ now = some (⟨r.status, r.position⟩, cancelledAt r now) := by
  have hc : r.status.canCancel = true := by
    cases hs : r.status <;> simp_all [RegistrationStatus.canCancel, RegistrationStatus.isActive]
  simp [Tracked.cancel, Registration.cancel, hc, cancelledAt, Registration.cancelledAt]

theorem promote_of_waiting (h : r.status = .waitlisted) (hp : r.position = some p) (now : Instant) :
    Tracked.promote ⟨r, []⟩ now = .ok (p, seatedAt r now) := by
  simp [Tracked.promote, Registration.promote, Registration.waitlistPosition, h, hp, seatedAt,
    Registration.seatedAt, Except.map, bind, Except.bind, pure, Except.pure]

theorem promote_of_not_waiting (h : r.status ≠ .waitlisted) (now : Instant) :
    Tracked.promote ⟨r, []⟩ now = .error (.invalidTransition r.status "promote") := by
  cases hs : r.status <;>
    simp_all [Tracked.promote, Registration.promote, Registration.waitlistPosition, Except.map, bind,
      Except.bind]

theorem moveUp_of_waiting (h : r.status = .waitlisted) (hp : r.position = some p) (hlt : 1 < p)
    (now : Instant) : Tracked.moveUp ⟨r, []⟩ now = .ok (p - 1, movedUpAt r now) := by
  have hnot : ¬ p ≤ 1 := UInt32.not_le.mpr hlt
  simp [Tracked.moveUp, Registration.moveUp, Registration.waitlistPosition, h, hp, hnot, movedUpAt,
    Registration.movedUpAt, Except.map, bind, Except.bind, pure, Except.pure]

end Tracked
end Turnstile
