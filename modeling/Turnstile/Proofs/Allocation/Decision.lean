import Turnstile.Proofs.Allocation.Shifts

/-!
What each allocation command decides, read off the store as it is: a refusal, nothing to do, or rows to write.
-/

namespace Turnstile

def Store.announce (s : Store) (messages : List OutboxMessage) : Store :=
  { s with outbox := s.outbox ++ messages }

theorem Store.apply_announce (s : Store) (tx : Tx) (messages : List OutboxMessage) :
    s.apply (tx.announce messages) = (s.apply tx).announce messages := by
  simp [apply, Tx.announce, announce]

def Store.setCapacity (s : Store) (event : EventId) (capacity : UInt32) : Store :=
  { s with events := s.events.adjust event fun e => { e with capacity } }

/-- Those who wait behind a registration, nearest first. -/
def Store.behind (s : Store) (r : Registration) : List Registration :=
  (s.queue r.eventId).filter fun x => Tx.place r < Tx.place x

theorem Store.behind_eq {s : Store} {r : Registration} {pre post : List Registration}
    (hq : s.queue r.eventId = pre ++ r :: post) (hn : NumberedFrom 1 (pre ++ r :: post)) : s.behind r = post := by
  obtain ⟨-, hr, hpre⟩ := List.pairwise_append.mp hn.pairwise
  have hpost := (List.pairwise_cons.mp hr).1
  have hbefore : pre.filter (fun x => Tx.place r < Tx.place x) = [] := by
    refine List.filter_eq_nil_iff.mpr fun x hx => ?_
    have hlt := hpre x hx r List.mem_cons_self
    simp only [decide_eq_true_eq]
    omega
  rw [behind, hq, List.filter_append, hbefore, List.filter_cons, if_neg (by simp), List.nil_append]
  exact List.filter_eq_self.mpr fun x hx => by simpa using hpost x hx

/-- A new registration at a place of the waitlist. -/
def Tracked.queued (event : EventId) (registrant : RegistrantId) (position : UInt32) (now : Instant)
    (id : RegistrationId) : Tracked :=
  let r : Registration := ⟨id, event, registrant, .waitlisted, some position, now, now⟩
  ⟨r, [.waitlisted r.subject position now]⟩

theorem toNat_ofNat_succ {n : Nat} (h : n + 1 < UInt32.size) : (UInt32.ofNat n + 1).toNat = n + 1 := by
  rw [UInt32.toNat_add, UInt32.toNat_ofNat_of_lt' (by omega)]
  exact Nat.mod_eq_of_lt h

namespace Tracked
variable {event : EventId} {registrant : RegistrantId} {now : Instant} {n : Nat}

theorem waitlisted_of_lt (h : n + 1 < UInt32.size) :
    waitlisted event registrant (.ofNat n + 1) now = .ok (queued event registrant (.ofNat n + 1) now) := by
  refine if_neg fun h0 => ?_
  have hn := toNat_ofNat_succ h
  rw [h0] at hn
  simp at hn

/-- Behind the last place that a 32-bit number can name there is none. -/
theorem waitlisted_of_full (h : n + 1 = UInt32.size) :
    waitlisted event registrant (.ofNat n + 1) now = .error (.invalidPosition 0) := by
  have h0 : UInt32.ofNat n + 1 = 0 := by
    obtain rfl : n = UInt32.size - 1 := by omega
    decide
  rw [h0]
  rfl

end Tracked

inductive Decision (α : Type) where
  | refuse (cause : AllocationError)
  | leave (result : α)
  /-- Writes the rows and announces their events, after `fresh` identifiers were drawn for the rows. -/
  | write (fresh : Nat) (rows : List Tracked) (counted : List Counter) (result : α)
  | raise (event : EventId) (capacity : UInt32) (result : α)

namespace Decision
variable {α : Type}

/-- Only what is written can fail to be committed. Identifiers that were drawn stay drawn. -/
def enact (s : Session) : Decision α → Except AllocationError α × Session
  | refuse cause => (.error cause, s)
  | leave a => (.ok a, s)
  | write fresh rows counted a =>
    let s' := s.drawing (fresh + (announced rows).length)
    if s.store.failOnCommit then (.error (.store (.unavailable "injected commit failure")), s')
    else (.ok a, { s' with
      store := (s.store.puts (rows.map Tracked.registration)).announce
        (announcements (s.ids.skip fresh) (announced rows))
      metrics := counted.foldl (fun m c => m.add c 1) s.metrics })
  | raise event capacity a =>
    if s.store.failOnCommit then (.error (.store (.unavailable "injected commit failure")), s)
    else (.ok a, { s with store := s.store.setCapacity event capacity })

/-- The answer that a decision leads to and the session afterwards. -/
def outcome (s : Session) (d : Decision α) : Option (Except AllocationError α) × Session :=
  Prod.map some id (d.enact s)

variable (s : Store)

/-- A seat for a newcomer while there are free ones, a place at the end of the waitlist otherwise. -/
def enter (e : ScheduledEvent) (registrant : RegistrantId) (now : Instant) (id : RegistrationId) :
    Decision Allocation :=
  if (s.seated e.id).length < e.capacity.toNat then
    let t := Tracked.confirmed e.id registrant now id
    .write 1 [t] [.registrations .confirmed] { target := some t }
  else if (s.queue e.id).length + 1 < UInt32.size then
    let t := Tracked.queued e.id registrant (.ofNat (s.queue e.id).length + 1) now id
    .write 1 [t] [.registrations .waitlisted] { target := some t }
  else .refuse (.invalidState (.invalidPosition 0))

def register (event : EventId) (registrant : RegistrantId) (now : Instant) (id : RegistrationId) :
    Decision Allocation :=
  match s.events.get? event with
  | none => .refuse (.eventNotFound event)
  | some e =>
    if !s.registrants.contains registrant then .refuse (.registrantNotFound registrant)
    else if (s.active event).any (·.registrantId = registrant) then .refuse (.conflict event registrant)
    else if !e.isOpen now then .refuse (.registrationClosed event)
    else enter s e registrant now id

/-- A registration leaves its seat or place; `moved` are the changes that follow. -/
def replace (t : Tracked) (moved : List Tracked) (counted : List Counter) : Decision Allocation :=
  .write 0 (t :: moved) counted { target := some t, affected := moved }

/-- A freed seat goes to the first who waits. -/
def cancelSeat (r : Registration) (now : Instant) : Decision Allocation :=
  let moved := Tracked.advance now (s.queue r.eventId)
  replace (.cancelledAt r now) moved (.cancellations :: if moved.isEmpty then [] else [.promotions])

def cancelPlace (r : Registration) (now : Instant) : Decision Allocation :=
  replace (.cancelledAt r now) ((s.behind r).map fun x => .movedUpAt x now) [.cancellations]

def cancel (id : RegistrationId) (now : Instant) : Decision Allocation :=
  match s.registrations.get? id with
  | none => .refuse (.registrationNotFound id)
  | some r =>
    match s.events.get? r.eventId with
    | none => .refuse (.eventNotFound r.eventId)
    | some _ =>
      match r.status with
      | .cancelled => .leave { target := some ⟨r, []⟩ }
      | .confirmed => cancelSeat s r now
      | .waitlisted => cancelPlace s r now

def seat (r : Registration) (now : Instant) : Decision Allocation :=
  replace (.seatedAt r now) ((s.behind r).map fun x => .movedUpAt x now) [.promotions]

def promote (event : EventId) (now : Instant) : Decision Allocation :=
  match s.events.get? event with
  | none => .refuse (.eventNotFound event)
  | some e =>
    match s.queue event with
    | [] => .leave {}
    | r :: _ =>
      if e.capacity.toNat ≤ (s.seated event).length then .refuse (.capacityExhausted event e.capacity)
      else seat s r now

def confirm (id : RegistrationId) (now : Instant) : Decision Allocation :=
  match s.registrations.get? id with
  | none => .refuse (.registrationNotFound id)
  | some r =>
    match s.events.get? r.eventId with
    | none => .refuse (.eventNotFound r.eventId)
    | some e =>
      if r.status ≠ .waitlisted then .refuse (.invalidState (.invalidTransition r.status "promote"))
      else if e.capacity.toNat ≤ (s.seated r.eventId).length then
        .refuse (.capacityExhausted r.eventId e.capacity)
      else seat s r now

def raiseCapacity (event : EventId) (capacity : UInt32) : Decision EventId :=
  match s.events.get? event with
  | none => .refuse (.eventNotFound event)
  | some e =>
    if capacity < e.capacity then .refuse (.invalidCapacity event e.capacity capacity)
    else if e.capacity < capacity then .raise event capacity event
    else .leave event

def promoteStep (event : EventId) (now : Instant) : Decision (Option (List Tracked)) :=
  match s.events.get? event with
  | none => .refuse (.eventNotFound event)
  | some e =>
    match s.queue event with
    | [] => .leave none
    | r :: behind =>
      if e.capacity.toNat ≤ (s.seated event).length then .leave none
      else
        let changed := (Tracked.seatedAt r now).ahead behind now
        .write 0 changed [.promotions] (some changed)

end Decision
end Turnstile
