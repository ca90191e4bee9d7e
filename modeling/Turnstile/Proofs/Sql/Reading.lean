import Turnstile.Proofs.Sql.Tables

/-!
What is read from a row. A row that fits its table gives every column, so that nothing but a status that is not known
or a number below zero can be wrong with it, and that is reported as such.
-/

namespace Turnstile.Sql

theorem Bound.lookup_given {row : Bound} {table : List Column} {name : String} {c : Column}
    (hc : table.find? (fun c => c.name = name) = some c) :
    (row.given table).lookup name = some ((row.lookup name).getD ⟨c.type, none⟩) := by
  unfold Bound.given
  induction table with
  | nil => cases hc
  | cons first rest ih =>
    rw [List.map_cons, List.lookup_cons]
    by_cases hname : first.name = name
    · obtain rfl : first = c := by simpa [hname] using hc
      simp [hname]
    · have hne : (name == first.name) = false := beq_false_of_ne (Ne.symm hname)
      rw [hne]
      exact ih (by simpa [hname] using hc)

namespace Row
variable {α : Type} {row : Row} {name : String} {type : ColumnType} {read : Value → Option α} {v : Value} {a : α}

theorem optional_value (h : row.lookup name = some ⟨type, some v⟩) (hread : read v = some a) :
    row.optional name type read = .ok (some a) := by
  rw [optional, h]
  simp [Cell.read, hread]

theorem optional_null {type' : ColumnType} (h : row.lookup name = some ⟨type', none⟩) :
    row.optional name type read = .ok none := by
  rw [optional, h]
  rfl

theorem required_value (h : row.lookup name = some ⟨type, some v⟩) (hread : read v = some a) :
    row.required name type read = .ok a := by
  rw [required, optional_value h hread]
  rfl

theorem id_cell {kind : IdKind} {i : Id kind} (h : row.lookup name = some (.id i)) : row.id name = .ok i := by
  have hread : asUuid? (.uuid i.uuid) = some i.uuid := rfl
  rw [id, required_value h hread]
  rfl

theorem text_cell {s : String} (h : row.lookup name = some (.text s)) : row.text name = .ok s := required_value h rfl

theorem int4_cell {n : Int} (h : row.lookup name = some (.int4 n)) : row.int4 name = .ok n := required_value h rfl

theorem time_cell {t : Instant} (h : row.lookup name = some (.time t)) : row.time name = .ok t := required_value h rfl

end Row

def Value.isOf : Value → ColumnType → Bool
  | .uuid _, .uuid | .text _, .text | .bool _, .bool | .time _, .timestamptz | .json _, .jsonb => true
  | .int _, .int2 | .int _, .int4 | .int _, .int8 => true
  | _, _ => false

/-- A cell has the type of its column, and is NULL only where that may be. -/
def Cell.fits (cell : Cell) (c : Column) : Bool :=
  cell.type = c.type && match cell.value with
    | some v => v.isOf c.type
    | none => c.nullable

/-- A row holds every column of its table. -/
def Row.Fits (row : Row) (table : List Column) : Prop := ∀ c ∈ table, (row.lookup c.name).any fun cell => cell.fits c

instance (row : Row) (table : List Column) : Decidable (row.Fits table) := inferInstanceAs (Decidable (∀ c ∈ table, _))

/-- The status is none of those there are. -/
def Row.Unknown {σ : Type} (row : Row) (ofName? : String → Option σ) : Prop :=
  ∃ text, row.lookup "status" = some (.text text) ∧ ofName? text = none

def Row.Negative (row : Row) (column : String) : Prop := ∃ n : Int, row.lookup column = some (.int4 n) ∧ n < 0

namespace Row.Fits
variable {α : Type} {row : Row} {table : List Column} {name : String} {type : ColumnType} {read : Value → Option α}

theorem cell {nullable : Bool} (h : row.Fits table) (hc : ⟨name, type, nullable⟩ ∈ table) :
    ∃ value : Option Value, row.lookup name = some ⟨type, value⟩ ∧ match value with
      | some v => v.isOf type
      | none => nullable := by
  obtain ⟨⟨type', value⟩, hlookup, hfits⟩ := (Option.any_eq_true _ _).mp (h _ hc)
  simp only [Cell.fits, Bool.and_eq_true, decide_eq_true_eq] at hfits
  obtain ⟨rfl, hvalue⟩ := hfits
  cases value with
  | none => exact ⟨none, hlookup, hvalue⟩
  | some v => exact ⟨some v, hlookup, hvalue⟩

theorem optional (h : row.Fits table) (hc : ⟨name, type, true⟩ ∈ table)
    (hread : ∀ v : Value, v.isOf type → ∃ a, read v = some a) : ∃ a?, row.optional name type read = .ok a? := by
  obtain ⟨value, hlookup, hvalue⟩ := h.cell hc
  cases value with
  | none => exact ⟨none, optional_null hlookup⟩
  | some v =>
    obtain ⟨a, ha⟩ := hread v hvalue
    exact ⟨some a, optional_value hlookup ha⟩

theorem required (h : row.Fits table) (hc : ⟨name, type, false⟩ ∈ table)
    (hread : ∀ v : Value, v.isOf type → ∃ a, read v = some a) : ∃ a, row.required name type read = .ok a := by
  obtain ⟨value, hlookup, hvalue⟩ := h.cell hc
  cases value with
  | none => cases hvalue
  | some v =>
    obtain ⟨a, ha⟩ := hread v hvalue
    exact ⟨a, required_value hlookup ha⟩

theorem uuid (v : Value) (h : v.isOf .uuid) : ∃ a, asUuid? v = some a := by
  cases v <;> simp_all [Value.isOf, asUuid?]

theorem text (v : Value) (h : v.isOf .text) : ∃ a, asText? v = some a := by
  cases v <;> simp_all [Value.isOf, asText?]

theorem int4 (v : Value) (h : v.isOf .int4) : ∃ a, asInt? v = some a := by
  cases v <;> simp_all [Value.isOf, asInt?]

theorem time (v : Value) (h : v.isOf .timestamptz) : ∃ a, asTime? v = some a := by
  cases v <;> simp_all [Value.isOf, asTime?]

theorem json (v : Value) (h : v.isOf .jsonb) : ∃ a, asJson? v = some a := by
  cases v <;> simp_all [Value.isOf, asJson?]

end Row.Fits

/-- The result is an error that tells of a bad row. -/
def Corrupt {α : Type} (r : Stored α) : Prop := ∃ reason, r = .error (.corrupt reason)

theorem corrupt_ofInt4 {n : Int} (hn : n < 0) (what : String) : Corrupt (ofInt4 n what) :=
  ⟨_, if_neg (Int.not_le.mpr hn)⟩

theorem corrupt_toInt4 {n : UInt32} (hn : 2_147_483_647 < n.toNat) (what : String) : Corrupt (toInt4 n what) :=
  ⟨_, if_neg (by omega)⟩

theorem toInt4_eq_ok {n : UInt32} (hn : n.toNat ≤ 2_147_483_647) (what : String) :
    toInt4 n what = .ok (n.toNat : Int) :=
  if_pos (by omega)

/-- A number that the database has is read as it was bound. -/
theorem ofInt4_toNat (n : UInt32) (what : String) : ofInt4 n.toNat what = .ok n := by
  rw [ofInt4, if_pos (by omega), Int.toNat_natCast, UInt32.ofNat_toNat]

theorem registrationOfRow_corrupt {row : Row} (hfits : row.Fits registrationsTable)
    (hbad : row.Unknown RegistrationStatus.ofName? ∨ row.Negative "position_in_queue") :
    Corrupt (registrationOfRow row) := by
  obtain ⟨status, hstatus⟩ : ∃ s, row.text "status" = .ok s := hfits.required (by decide) Row.Fits.text
  cases hknown : RegistrationStatus.parse status with
  | error e =>
    refine ⟨e.message, ?_⟩
    simp [registrationOfRow, hstatus, hknown, bind, Except.bind, Except.mapError]
  | ok s =>
    rcases hbad with ⟨text, htext, hnone⟩ | ⟨n, hn, hneg⟩
    · obtain rfl : text = status := by simpa [Row.text_cell htext] using hstatus
      simp [RegistrationStatus.parse, hnone] at hknown
    · have hposition : row.optional "position_in_queue" .int4 Row.asInt? = .ok (some n) := Row.optional_value hn rfl
      obtain ⟨reason, hreason⟩ := corrupt_ofInt4 hneg "position_in_queue"
      refine ⟨reason, ?_⟩
      simp [registrationOfRow, hstatus, hknown, hposition, hreason, bind, Except.bind, Except.mapError]

theorem eventOfRow_corrupt {row : Row} (hfits : row.Fits eventsTable) (hbad : row.Negative "capacity") :
    Corrupt (eventOfRow row) := by
  obtain ⟨id, hid⟩ : ∃ u, row.required "id" .uuid Row.asUuid? = .ok u := hfits.required (by decide) Row.Fits.uuid
  obtain ⟨title, htitle⟩ : ∃ s, row.text "title" = .ok s := hfits.required (by decide) Row.Fits.text
  obtain ⟨n, hn, hneg⟩ := hbad
  obtain ⟨reason, hreason⟩ := corrupt_ofInt4 hneg "capacity"
  refine ⟨reason, ?_⟩
  simp [eventOfRow, Row.id, hid, htitle, Row.int4_cell hn, hreason, bind, Except.bind, Functor.map, Except.map]

theorem messageOfRow_corrupt {row : Row} (hfits : row.Fits outboxTable)
    (hbad : row.Unknown OutboxStatus.ofName? ∨ row.Negative "attempts") : Corrupt (messageOfRow row) := by
  obtain ⟨status, hstatus⟩ : ∃ s, row.text "status" = .ok s := hfits.required (by decide) Row.Fits.text
  obtain ⟨id, hid⟩ : ∃ u, row.required "id" .uuid Row.asUuid? = .ok u := hfits.required (by decide) Row.Fits.uuid
  obtain ⟨type, htype⟩ : ∃ s, row.text "message_type" = .ok s := hfits.required (by decide) Row.Fits.text
  obtain ⟨payload, hpayload⟩ : ∃ j, row.json "payload" = .ok j := hfits.required (by decide) Row.Fits.json
  cases hknown : OutboxStatus.ofName? status with
  | none =>
    refine ⟨s!"unknown outbox status {status}", ?_⟩
    simp [messageOfRow, hstatus, Row.id, hid, htype, hpayload, OutboxStatus.parse, hknown, bind, Except.bind,
      Functor.map, Except.map]
  | some s =>
    rcases hbad with ⟨text, htext, hnone⟩ | ⟨n, hn, hneg⟩
    · obtain rfl : text = status := by simpa [Row.text_cell htext] using hstatus
      simp [hnone] at hknown
    · obtain ⟨worker, hworker⟩ : ∃ w, row.optional "claimed_by" .text Row.asText? = .ok w :=
        hfits.optional (by decide) Row.Fits.text
      obtain ⟨time, htime⟩ : ∃ t, row.optional "claimed_at" .timestamptz Row.asTime? = .ok t :=
        hfits.optional (by decide) Row.Fits.time
      obtain ⟨reason, hreason⟩ := corrupt_ofInt4 hneg "attempts"
      refine ⟨reason, ?_⟩
      simp [messageOfRow, hstatus, Row.id, hid, htype, hpayload, OutboxStatus.parse, hknown, hworker, htime,
        Row.int4_cell hn, hreason, bind, Except.bind, Functor.map, Except.map]

example :
    let m : Bound := [("id", .uuid ⟨0, 1⟩), ("message_type", .text "a"), ("payload", .json .null),
      ("status", .text "Pending"), ("attempts", .int4 (-1)), ("next_attempt_at", .time .first),
      ("created_at", .time .first)]
    (m.given outboxTable).Fits outboxTable ∧
      messageOfRow (m.given outboxTable) = .error (.corrupt "attempts -1 out of range") :=
  ⟨by decide, rfl⟩

end Turnstile.Sql
