import Turnstile.Outbox.Message
import Turnstile.Proofs.Table
import Turnstile.Proofs.Uuid
import Turnstile.Registration.Event
import Mathlib.Data.Finset.Dedup
import Mathlib.Data.Finset.Erase
import Mathlib.Data.Finset.Insert

/-!
The seats and the waitlist of an event as other systems learn them, from the payloads of its messages alone.
-/

namespace Turnstile

/-- What a message says of a registration. -/
inductive Notice where
  | confirmed
  | waitlisted (position : UInt32)
  | promoted (previous : UInt32)
  | cancelled (status : RegistrationStatus) (previous : Option UInt32)

namespace Notice

/-- Nothing is said of a change of place. -/
def of? : RegistrationEvent → Option Notice
  | .confirmed _ _ => some .confirmed
  | .waitlisted _ p _ => some (.waitlisted p)
  | .promoted _ p _ => some (.promoted p)
  | .cancelled _ status p _ => some (.cancelled status p)
  | .positionChanged _ _ _ _ => none

def number? (data : Json) (name : String) : Option UInt32 := (data.field? name).bind Json.uint32?

/-- Reads the data of a message but for its time, by the type of the message. -/
def ofData? (data : Json) : String → Option Notice
  | "RegistrationConfirmed" => some .confirmed
  | "RegistrationWaitlisted" => (number? data "position").map .waitlisted
  | "RegistrationPromoted" => (number? data "previous_position").map .promoted
  | "RegistrationCancelled" => do
    let status ← (data.field? "previous_status").bind (RegistrationStatus.ofJson? Json.isNull)
    (Json.optional? Json.uint32? (data.field? "previous_position")).map (.cancelled status)
  | _ => none

/-- What a payload says, and of which registration. -/
def read? (payload : Json) : Option (RegistrationRef × Notice) := do
  let data ← payload.field? "data"
  let subject ← RegistrationRef.ofJson? (← data.field? "subject")
  some (subject, ← ofData? data (← (← payload.field? "type").string?))

end Notice

theorem RegistrationRef.ofJson?_toJson (r : RegistrationRef) : ofJson? r.toJson = some r := by
  simp [ofJson?, toJson, Json.record?, Table.lookup_cons_of_ne, Id.ofJson?_toJson]

theorem RegistrationStatus.ofJson?_toJson (unit : Json → Bool) (s : RegistrationStatus) :
    ofJson? unit s.toJson = some s := by
  cases s <;> rfl

theorem RegistrationEvent.uint32?_number (n : UInt32) : (number n).uint32? = some n := by
  have hn : (0 : Int) ≤ (n.toNat : Int) ∧ (n.toNat : Int) < UInt32.size := by
    have hlt := n.toNat_lt_size
    omega
  rw [number, Json.nat, Json.uint32?, Json.below?, if_pos hn, Option.map_some, Int.toNat_natCast,
    UInt32.ofNat_toNat]

namespace RegistrationEvent
variable (e : RegistrationEvent)

theorem field?_type : e.toJson.field? "type" = some (.string e.typeName) := by
  simp [toJson, Json.field?]

theorem field?_data : e.toJson.field? "data" = some e.data := by
  simp [toJson, Json.field?, Table.lookup_cons_of_ne]

theorem field?_subject : e.data.field? "subject" = some e.subject.toJson := by
  cases e <;> simp [data, subject, Json.field?]

theorem optional?_number (p : Option UInt32) :
    Json.optional? Json.uint32? (some (.option number p)) = some p := by
  cases p with
  | none => simp [Json.option, Json.optional?]
  | some p => simpa [Json.option, Json.optional?, number, Json.nat] using uint32?_number p

end RegistrationEvent

private theorem Notice.number?_of_field {data : Json} {name : String} {p : UInt32}
    (h : data.field? name = some (RegistrationEvent.number p)) : number? data name = some p :=
  Option.bind_eq_some_iff.mpr ⟨_, h, RegistrationEvent.uint32?_number p⟩

theorem Notice.ofData?_data {e : RegistrationEvent} {n : Notice} (h : of? e = some n) :
    ofData? e.data e.typeName = some n := by
  cases e with
  | confirmed s t =>
    obtain rfl := Option.some.inj h
    rfl
  | waitlisted s p t =>
    obtain rfl := Option.some.inj h
    have hp : number? (RegistrationEvent.waitlisted s p t).data "position" = some p :=
      number?_of_field (by simp [RegistrationEvent.data, Json.field?, Table.lookup_cons_of_ne])
    simp [RegistrationEvent.typeName, ofData?, hp]
  | promoted s p t =>
    obtain rfl := Option.some.inj h
    have hp : number? (RegistrationEvent.promoted s p t).data "previous_position" = some p :=
      number?_of_field (by simp [RegistrationEvent.data, Json.field?, Table.lookup_cons_of_ne])
    simp [RegistrationEvent.typeName, ofData?, hp]
  | cancelled s status p t =>
    obtain rfl := Option.some.inj h
    have hs : (RegistrationEvent.cancelled s status p t).data.field? "previous_status" = some status.toJson := by
      simp [RegistrationEvent.data, Json.field?, Table.lookup_cons_of_ne]
    have hp : (RegistrationEvent.cancelled s status p t).data.field? "previous_position" =
        some (.option RegistrationEvent.number p) := by
      simp [RegistrationEvent.data, Json.field?, Table.lookup_cons_of_ne]
    simp [RegistrationEvent.typeName, ofData?, hs, hp, RegistrationStatus.ofJson?_toJson,
      RegistrationEvent.optional?_number]
  | positionChanged => cases h

/-- What is written down of an event that is announced is read back. -/
theorem Notice.read?_toJson {e : RegistrationEvent} {n : Notice} (h : of? e = some n) :
    read? e.toJson = some (e.subject, n) := by
  simp only [read?, e.field?_data, e.field?_subject, e.field?_type, RegistrationRef.ofJson?_toJson, Json.string?,
    ofData?_data h, Option.bind_eq_bind, Option.bind_some]

/-- The seats and the waitlist of an event. -/
structure Roster where
  seated : Finset RegistrationId := ∅
  queue : List RegistrationId := []

namespace Roster
variable {r : Roster} {id : RegistrationId} {event : EventId}

/-- Takes out whom the waitlist has at a place, counted from 1, if it is the one who is meant. -/
def takeOut? (queue : List RegistrationId) (id : RegistrationId) (place : UInt32) : Option (List RegistrationId) :=
  if 0 < place ∧ queue[place.toNat - 1]? = some id then some (queue.eraseIdx (place.toNat - 1)) else none

/-- Follows a notice. Some are not legal: nobody comes in twice or leaves from where they are not. -/
def follow? (r : Roster) (id : RegistrationId) : Notice → Option Roster
  | .confirmed => if id ∈ r.seated ∨ id ∈ r.queue then none else some { r with seated := insert id r.seated }
  | .waitlisted position =>
    if (id ∈ r.seated ∨ id ∈ r.queue) ∨ position.toNat ≠ r.queue.length + 1 then none
    else some { r with queue := r.queue ++ [id] }
  | .promoted previous =>
    (takeOut? r.queue id previous).map fun queue => { seated := insert id r.seated, queue }
  | .cancelled .confirmed none => if id ∈ r.seated then some { r with seated := r.seated.erase id } else none
  | .cancelled .waitlisted (some previous) => (takeOut? r.queue id previous).map fun queue => { r with queue }
  | .cancelled _ _ => none

/-- Follows a payload if it is about the event. -/
def hear? (event : EventId) (r : Roster) (payload : Json) : Option Roster := do
  let (subject, notice) ← Notice.read? payload
  if subject.eventId = event then r.follow? subject.registrationId notice else some r

/-- What payloads tell of an event, if every step is legal. -/
def replay? (event : EventId) (payloads : List Json) : Option Roster := payloads.foldlM (hear? event) {}

theorem hear?_toJson {e : RegistrationEvent} {n : Notice} (h : Notice.of? e = some n) :
    r.hear? event e.toJson =
      if e.subject.eventId = event then r.follow? e.subject.registrationId n else some r := by
  rw [hear?, Notice.read?_toJson h]
  rfl

theorem replay?_append (payloads more : List Json) :
    replay? event (payloads ++ more) = (replay? event payloads).bind fun r => more.foldlM (hear? event) r := by
  rw [replay?, List.foldlM_append]
  rfl

theorem takeOut?_append {pre post : List RegistrationId} {place : UInt32} (h : place.toNat = pre.length + 1) :
    takeOut? (pre ++ id :: post) id place = some (pre ++ post) := by
  have hpos : 0 < place := UInt32.lt_iff_toNat_lt.mpr (by simp [h])
  have hget : (pre ++ id :: post)[place.toNat - 1]? = some id := by
    rw [h, Nat.add_sub_cancel, List.getElem?_append_right (Nat.le_refl _), Nat.sub_self, List.getElem?_cons_zero]
  rw [takeOut?, if_pos ⟨hpos, hget⟩, h, Nat.add_sub_cancel, List.eraseIdx_append_of_length_le (Nat.le_refl _),
    Nat.sub_self, List.eraseIdx_cons_zero]

end Roster
end Turnstile
