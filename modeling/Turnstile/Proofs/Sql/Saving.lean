import Turnstile.Proofs.Outbox.LifeCycle
import Turnstile.Proofs.Registration.Life
import Turnstile.Proofs.Sql.Reading

/-!
Records that go to a database and come back. An INSERT binds all that a record is when it is made, and an UPDATE of a
registration all that may have changed in it since.
-/

namespace Turnstile

namespace Registration
variable {r r' r'' : Registration}

/-- The place is a number that the database has. -/
def Fits (r : Registration) : Prop := ∀ p, r.position = some p → p.toNat ≤ 2_147_483_647

/-- The same registration later on. No transition changes what an UPDATE leaves out. -/
structure Later (r r' : Registration) : Prop where
  subject : r'.subject = r.subject
  createdAt : r'.createdAt = r.createdAt
  fits : r.Fits → r'.Fits

theorem Later.refl (r : Registration) : r.Later r := ⟨rfl, rfl, fun h => h⟩

theorem Later.trans (h : r.Later r') (h' : r'.Later r'') : r.Later r'' where
  subject := h'.subject.trans h.subject
  createdAt := h'.createdAt.trans h.createdAt
  fits hr := h'.fits (h.fits hr)

theorem Turn.later {now : Instant} {e : RegistrationEvent} (ht : r.Turn now e r') : r.Later r' where
  subject := ht.subject
  createdAt := ht.createdAt
  fits := by
    intro hr
    cases ht with
    | cancelled => intro p hp; cases hp
    | promoted => intro p hp; cases hp
    | movedUp hs hq hlt =>
      rename_i q
      intro p hp
      obtain rfl : q - 1 = p := by simpa [hq] using hp
      have hle : (q - 1).toNat ≤ q.toNat := by
        rw [UInt32.toNat_sub_of_le _ _ (UInt32.le_of_lt hlt)]
        omega
      exact Nat.le_trans hle (hr q hq)

end Registration

theorem Life.later_step (l : Life) (c : Tracked.Call) :
    l.current.registration.Later (l.step c).current.registration := by
  cases l.stepped c with
  | refused _ h => rw [h]; exact .refl _
  | recorded _ ht _ => exact ht.later
  | taken _ _ h => rw [h]; exact .refl _

theorem Life.later_run (l : Life) (calls : List Tracked.Call) :
    l.current.registration.Later (l.run calls).current.registration := by
  induction calls generalizing l with
  | nil => exact .refl _
  | cons c calls ih => exact (l.later_step c).trans (ih (l.step c))

namespace Sql
variable {r r' : Registration} {row : Bound}

/-- The cell of a place. -/
def positionCell (r : Registration) : Cell := ⟨.int4, r.position.map fun p => .int p.toNat⟩

theorem positionParam_of_fits (h : r.Fits) : positionParam r = .ok (positionCell r) := by
  unfold positionParam positionCell
  cases hp : r.position with
  | none => rfl
  | some p =>
    simp [toInt4_eq_ok (h p hp), bind, Except.bind, pure, Except.pure, Functor.map, Except.map]

theorem positionParam_of_large (h : ¬ r.Fits) : Corrupt (positionParam r) := by
  obtain ⟨p, hp, hlarge⟩ : ∃ p, r.position = some p ∧ 2_147_483_647 < p.toNat := by simpa [Registration.Fits] using h
  obtain ⟨reason, hreason⟩ := corrupt_toInt4 hlarge "position_in_queue"
  refine ⟨reason, ?_⟩
  unfold positionParam
  rw [hp]
  simp [hreason, bind, Except.bind, Functor.map, Except.map]

/-! The statements that are sent, and what is refused before any is. -/

theorem insertRegistration_sends (h : r.Fits) :
    (Store.insertRegistration r).Sends (.insertRegistration [.id r.id, .id r.eventId, .id r.registrantId,
      .text r.status.name, positionCell r, .time r.createdAt, .time r.updatedAt]) := by
  have hparams : insertParams r = .ok [.id r.id, .id r.eventId, .id r.registrantId, .text r.status.name,
      positionCell r, .time r.createdAt, .time r.updatedAt] := by
    rw [insertParams, positionParam_of_fits h]
    rfl
  unfold Store.insertRegistration
  rw [hparams]
  refine ⟨_, rfl, ?_⟩
  intro reply
  cases reply <;> exact ⟨_, rfl⟩

theorem updateRegistration_sends (h : r.Fits) :
    (Store.updateRegistration r).Sends (.updateRegistration [.id r.id, .text r.status.name, positionCell r,
      .time r.updatedAt]) := by
  have hparams : updateParams r = .ok [.id r.id, .text r.status.name, positionCell r, .time r.updatedAt] := by
    rw [updateParams, positionParam_of_fits h]
    rfl
  unfold Store.updateRegistration
  rw [hparams]
  refine ⟨_, rfl, ?_⟩
  intro reply
  cases reply with
  | error refusal => exact ⟨_, rfl⟩
  | ok response =>
    obtain ⟨affected, rows⟩ := response
    cases affected with
    | zero => exact ⟨_, rfl⟩
    | succ n => exact ⟨_, rfl⟩

theorem insertRegistration_declines (h : ¬ r.Fits) : (Store.insertRegistration r).Declines := by
  obtain ⟨reason, hreason⟩ := positionParam_of_large h
  have hparams : insertParams r = .error (.corrupt reason) := by
    rw [insertParams, hreason]
    rfl
  unfold Store.insertRegistration
  rw [hparams]
  exact ⟨reason, rfl⟩

theorem updateRegistration_declines (h : ¬ r.Fits) : (Store.updateRegistration r).Declines := by
  obtain ⟨reason, hreason⟩ := positionParam_of_large h
  have hparams : updateParams r = .error (.corrupt reason) := by
    rw [updateParams, hreason]
    rfl
  unfold Store.updateRegistration
  rw [hparams]
  exact ⟨reason, rfl⟩

/-- What a row says of a registration. -/
structure Bound.Shows (row : Bound) (r : Registration) : Prop where
  id : row.lookup "id" = some (.id r.id)
  event : row.lookup "event_id" = some (.id r.eventId)
  registrant : row.lookup "registrant_id" = some (.id r.registrantId)
  status : row.lookup "status" = some (.text r.status.name)
  position : row.lookup "position_in_queue" = some (positionCell r)
  created : row.lookup "created_at" = some (.time r.createdAt)
  updated : row.lookup "updated_at" = some (.time r.updatedAt)

theorem Bound.Shows.read (h : row.Shows r) : registrationOfRow (row.given registrationsTable) = .ok r := by
  have hcell : ∀ {name : String} {c : Column} {cell : Cell},
      registrationsTable.find? (fun c => c.name = name) = some c → row.lookup name = some cell →
        (row.given registrationsTable).lookup name = some cell := by
    intro name c cell hc hlookup
    rw [lookup_given hc, hlookup, Option.getD_some]
  have hstatus : RegistrationStatus.parse r.status.name = .ok r.status := by
    cases r.status <;> rfl
  have hposition : (row.given registrationsTable).optional "position_in_queue" .int4 Row.asInt? =
      .ok (r.position.map fun p => (p.toNat : Int)) := by
    have hlookup := hcell rfl h.position
    cases hp : r.position with
    | none => exact Row.optional_null (hlookup.trans (by rw [positionCell, hp]; rfl))
    | some p => exact Row.optional_value (hlookup.trans (by rw [positionCell, hp]; rfl)) rfl
  have hplace : (r.position.map fun p => (p.toNat : Int)).mapM (fun p => ofInt4 p "position_in_queue") =
      .ok r.position := by
    cases r.position with
    | none => rfl
    | some p => simp [ofInt4_toNat, Functor.map, Except.map]
  rw [registrationOfRow, Row.text_cell (hcell rfl h.status), hposition]
  simp only [bind, Except.bind, hstatus, Except.mapError, hplace, Row.id_cell (hcell rfl h.id),
    Row.id_cell (hcell rfl h.event), Row.id_cell (hcell rfl h.registrant), Row.time_cell (hcell rfl h.created),
    Row.time_cell (hcell rfl h.updated)]
  rfl

/-- An inserted registration is shown by its row. -/
theorem insertRegistration_shows (h : r.Fits) : (Store.insertRegistration r).Leaves none (Bound.Shows · r) := by
  refine ⟨_, _, insertRegistration_sends h, Statement.leaves?_insertRegistration .., ?_⟩
  constructor <;> rfl

/-- The row of a registration that is updated later on shows it as it is then. -/
theorem updateRegistration_shows (hrow : row.Shows r) (hlater : r.Later r') (h : r'.Fits) :
    (Store.updateRegistration r').Leaves (some row) (Bound.Shows · r') := by
  obtain ⟨hid, hevent, hregistrant⟩ : r'.id = r.id ∧ r'.eventId = r.eventId ∧ r'.registrantId = r.registrantId := by
    simpa [Registration.subject] using hlater.subject
  have hkey : row.lookup "id" = some (.id r'.id) := by
    rw [hid]
    exact hrow.id
  refine ⟨_, _, updateRegistration_sends h, Statement.leaves?_updateRegistration _ _ _ hkey, ?_⟩
  constructor
  case id => exact hkey
  case event =>
    rw [hevent]
    exact hrow.event
  case registrant =>
    rw [hregistrant]
    exact hrow.registrant
  case created =>
    rw [hlater.createdAt]
    exact hrow.created
  case status => rfl
  case position => rfl
  case updated => rfl

theorem insertMessage_gives {m : OutboxMessage} (h : m.Created) :
    (Store.insertMessage m).Leaves none fun row => messageOfRow (row.given outboxTable) = .ok m := by
  rw [h.eq_pending]
  generalize m.id = id, m.messageType = type, m.payload = payload, m.createdAt = now
  refine ⟨.insertMessage [.id id, .text type, .json payload, .text "Pending", .int4 0, .time now, .time now], _, ?_,
    Statement.leaves?_insertMessage .., rfl⟩
  refine ⟨_, rfl, ?_⟩
  intro reply
  cases reply <;> exact ⟨_, rfl⟩

theorem insertEvent_gives {e : ScheduledEvent} (h : e.capacity.toNat ≤ 2_147_483_647) :
    (Store.insertEvent e).Leaves none fun row => eventOfRow (row.given eventsTable) = .ok e := by
  have hparams : eventParams e = .ok [.id e.id, .text e.title, .int4 e.capacity.toNat, .bool e.published,
      .time e.startsAt, .time e.endsAt] := by
    rw [eventParams, toInt4_eq_ok h]
    rfl
  refine ⟨.insertEvent [.id e.id, .text e.title, .int4 e.capacity.toNat, .bool e.published, .time e.startsAt,
    .time e.endsAt], _, ?_, Statement.leaves?_insertEvent .., ?_⟩
  · unfold Store.insertEvent
    rw [hparams]
    refine ⟨_, rfl, ?_⟩
    intro reply
    cases reply <;> exact ⟨_, rfl⟩
  · have hread := ofInt4_toNat e.capacity "capacity"
    change (do return { e with capacity := ← ofInt4 e.capacity.toNat "capacity" }) = Except.ok e
    rw [hread]
    rfl

theorem insertEvent_declines {e : ScheduledEvent} (h : 2_147_483_647 < e.capacity.toNat) :
    (Store.insertEvent e).Declines := by
  obtain ⟨reason, hreason⟩ := corrupt_toInt4 h "capacity"
  have hparams : eventParams e = .error (.corrupt reason) := by
    rw [eventParams, hreason]
    rfl
  unfold Store.insertEvent
  rw [hparams]
  exact ⟨reason, rfl⟩

/-- The row gives the registration back, now and after each of some runs of calls that end in an update. -/
def Keeps (l : Life) (row : Bound) : List (List Tracked.Call) → Prop
  | [] => registrationOfRow (row.given registrationsTable) = .ok l.current.registration
  | calls :: later => registrationOfRow (row.given registrationsTable) = .ok l.current.registration ∧
    (Store.updateRegistration (l.run calls).current.registration).Leaves (some row)
      fun row' => Keeps (l.run calls) row' later

theorem keeps {l : Life} (hrow : row.Shows l.current.registration) (hfits : l.current.registration.Fits)
    (later : List (List Tracked.Call)) : Keeps l row later := by
  induction later generalizing l row with
  | nil => exact hrow.read
  | cons calls later ih =>
    have hlater := l.later_run calls
    refine ⟨hrow.read, ?_⟩
    apply (updateRegistration_shows hrow hlater (hlater.fits hfits)).imp
    intro row' hrow'
    exact ih hrow' (hlater.fits hfits)

/-- Whatever is stored comes back, as long as its numbers are ones that the database has; else nothing is sent.
A registration may be inserted at any point of its life, and updated at any points after it. What no record is
stored as is reported as corrupt. -/
theorem rows_lose_nothing :
    (∀ (l : Life) (later : List (List Tracked.Call)), l.current.registration.Fits →
      (Store.insertRegistration l.current.registration).Leaves none fun row => Keeps l row later) ∧
    (∀ r : Registration, ¬ r.Fits → (Store.insertRegistration r).Declines ∧ (Store.updateRegistration r).Declines) ∧
    (∀ m : OutboxMessage, m.Created →
      (Store.insertMessage m).Leaves none fun row => messageOfRow (row.given outboxTable) = .ok m) ∧
    (∀ e : ScheduledEvent, e.capacity.toNat ≤ 2_147_483_647 →
      (Store.insertEvent e).Leaves none fun row => eventOfRow (row.given eventsTable) = .ok e) ∧
    (∀ e : ScheduledEvent, 2_147_483_647 < e.capacity.toNat → (Store.insertEvent e).Declines) ∧
    (∀ row : Row, row.Fits registrationsTable →
      row.Unknown RegistrationStatus.ofName? ∨ row.Negative "position_in_queue" → Corrupt (registrationOfRow row)) ∧
    (∀ row : Row, row.Fits eventsTable → row.Negative "capacity" → Corrupt (eventOfRow row)) ∧
    (∀ row : Row, row.Fits outboxTable → row.Unknown OutboxStatus.ofName? ∨ row.Negative "attempts" →
      Corrupt (messageOfRow row)) := by
  refine ⟨?registrations, ?oversized, ?messages, ?events, ?crowded, ?badRegistrations, ?badEvents, ?badMessages⟩
  case registrations =>
    intro l later hfits
    apply (insertRegistration_shows hfits).imp
    intro row hrow
    exact keeps hrow hfits later
  case oversized =>
    intro r hlarge
    exact ⟨insertRegistration_declines hlarge, updateRegistration_declines hlarge⟩
  case messages => exact fun _ => insertMessage_gives
  case events => exact fun _ => insertEvent_gives
  case crowded => exact fun _ => insertEvent_declines
  case badRegistrations => exact fun _ => registrationOfRow_corrupt
  case badEvents => exact fun _ => eventOfRow_corrupt
  case badMessages => exact fun _ => messageOfRow_corrupt

end Sql
end Turnstile
