import Turnstile.Proofs.Registration.Transition

/-!
The life of a registration under any calls at any times, with its events taken now and then. What it recorded is one
chain of events, and whoever folds the chain knows where the registration stands.
-/

namespace Turnstile

/-- What an event says of the state before it. The two events that begin a registration say nothing. -/
def RegistrationEvent.previous? : RegistrationEvent → Option (RegistrationStatus × Option UInt32)
  | confirmed .. | waitlisted .. => none
  | promoted _ p _ => some (.waitlisted, some p)
  | cancelled _ status p _ => some (status, p)
  | positionChanged _ p _ _ => some (.waitlisted, some p)

/-- Where a registration stands according to its events. -/
structure Standing where
  status : RegistrationStatus
  position : Option UInt32
  since : Instant
  deriving DecidableEq, Repr

namespace Standing

/-- What an event makes of the standing before it. A registration begins once, and nothing else comes first. -/
def follow : Option Standing → RegistrationEvent → Option Standing
  | none, .confirmed _ t => some ⟨.confirmed, none, t⟩
  | none, .waitlisted _ p t => some ⟨.waitlisted, some p, t⟩
  | some _, .promoted _ _ t => some ⟨.confirmed, none, t⟩
  | some _, .cancelled _ _ _ t => some ⟨.cancelled, none, t⟩
  | some s, .positionChanged _ _ n t => some { s with position := some n, since := t }
  | _, _ => none

def fold (events : List RegistrationEvent) : Option Standing := events.foldl follow none

theorem fold_concat (events : List RegistrationEvent) (e : RegistrationEvent) :
    fold (events ++ [e]) = follow (fold events) e := by
  rw [fold, List.foldl_append]
  rfl

theorem cancelled_of_follow {s? : Option Standing} {s : Standing} {subject : RegistrationRef}
    {status : RegistrationStatus} {p : Option UInt32} {t : Instant}
    (h : follow s? (.cancelled subject status p t) = some s) : s.status = .cancelled := by
  cases s? with
  | none => cases h
  | some _ => exact (Option.some.inj h) ▸ rfl

end Standing

namespace Registration
variable {r r' : Registration} {now : Instant} {e : RegistrationEvent} {events : List RegistrationEvent}

def standing (r : Registration) : Standing := ⟨r.status, r.position, r.updatedAt⟩

/-- One change of a registration, with the event that it records. -/
inductive Turn (r : Registration) (now : Instant) : RegistrationEvent → Registration → Prop
  | cancelled (hs : r.status ≠ .cancelled) :
    Turn r now (.cancelled r.subject r.status r.position now) (r.cancelledAt now)
  | promoted {p : UInt32} (hs : r.status = .waitlisted) (hp : r.position = some p) :
    Turn r now (.promoted r.subject p now) (r.seatedAt now)
  | movedUp {p : UInt32} (hs : r.status = .waitlisted) (hp : r.position = some p) (hlt : 1 < p) :
    Turn r now (.positionChanged r.subject p (p - 1) now) (r.movedUpAt now)

theorem Turn.subject (ht : r.Turn now e r') : r'.subject = r.subject := by
  cases ht <;> rfl

theorem Turn.createdAt (ht : r.Turn now e r') : r'.createdAt = r.createdAt := by
  cases ht <;> rfl

theorem cancel_eq_some {c : Cancellation} (h : r.cancel now = some (c, r', e)) : r.Turn now e r' := by
  unfold cancel at h
  split at h
  · next hc =>
    obtain ⟨-, rfl, rfl⟩ := by simpa using h
    exact .cancelled (by rintro hs; simp [hs, RegistrationStatus.canCancel, RegistrationStatus.isActive] at hc)
  · cases h

theorem waitlistPosition_eq_ok {action : String} {p : UInt32} (h : r.waitlistPosition action = .ok p) :
    r.status = .waitlisted ∧ r.position = some p := by
  unfold waitlistPosition at h
  split at h
  · next hs hp => exact ⟨hs, hp.trans (congrArg some (Except.ok.inj h))⟩
  · cases h

theorem promote_eq_ok {p : UInt32} (h : r.promote now = .ok (p, r', e)) : r.Turn now e r' := by
  unfold promote at h
  cases hw : r.waitlistPosition "promote" with
  | error _ => simp [hw, bind, Except.bind] at h
  | ok q =>
    obtain ⟨hs, hp⟩ := waitlistPosition_eq_ok hw
    obtain ⟨rfl, rfl, rfl⟩ : q = p ∧ _ ∧ _ := by simpa [hw, bind, Except.bind, pure, Except.pure] using h
    exact .promoted hs hp

theorem moveUp_eq_ok {p : UInt32} (h : r.moveUp now = .ok (p, r', e)) : r.Turn now e r' := by
  unfold moveUp at h
  cases hw : r.waitlistPosition "move up" with
  | error _ => simp [hw, bind, Except.bind] at h
  | ok q =>
    obtain ⟨hs, hp⟩ := waitlistPosition_eq_ok hw
    by_cases hq : q ≤ 1
    · simp [hw, hq, bind, Except.bind, throw, throwThe, MonadExceptOf.throw] at h
    · obtain ⟨-, rfl, rfl⟩ : q - 1 = p ∧ _ ∧ _ := by
        simpa [hw, hq, bind, Except.bind, pure, Except.pure] using h
      have hmoved : r.Turn now (.positionChanged r.subject q (q - 1) now) (r.movedUpAt now) :=
        .movedUp hs hp (UInt32.not_le.mp hq)
      rw [movedUpAt, hp] at hmoved
      exact hmoved

/-- A list of events is the whole history of a registration. -/
structure Told (r : Registration) (events : List RegistrationEvent) : Prop where
  begins : ∃ first rest, events = first :: rest ∧ first.previous? = none
  /-- What any other event says of the state before it is what the events before it come to. -/
  continues : ∀ before e, before ≠ [] → before ++ [e] <+: events →
    ∃ s, Standing.fold before = some s ∧ e.previous? = some (s.status, s.position)
  steps : ∀ subject p n t, .positionChanged subject p n t ∈ events → n.toNat + 1 = p.toNat
  /-- Nothing follows a cancellation. -/
  ends : ∀ before subject status p t, before ++ [.cancelled subject status p t] <+: events →
    before ++ [.cancelled subject status p t] = events
  standing : Standing.fold events = some r.standing
  updated : events.getLast?.map RegistrationEvent.occurredAt = some r.updatedAt
  subject : ∀ e ∈ events, e.subject = r.subject
  placed : r.position.isSome ↔ r.status = .waitlisted
  positive : ∀ p, r.position = some p → 1 ≤ p

namespace Told

/-- A single first event is a whole history. -/
theorem begin (hfirst : e.previous? = none) (hstanding : Standing.follow none e = some r.standing)
    (hsubject : e.subject = r.subject) (hplaced : r.position.isSome ↔ r.status = .waitlisted)
    (hpositive : ∀ p, r.position = some p → 1 ≤ p) : r.Told [e] := by
  have hsole : ∀ before x, before ++ [x] <+: [e] → before = [] ∧ x = e := by
    intro before x hx
    have hx : before ++ [x] <+: [] ++ [e] := hx
    rcases List.prefix_concat_iff.mp hx with heq | hnil
    · obtain ⟨rfl, he⟩ := List.append_inj' heq rfl
      exact ⟨rfl, List.singleton_inj.mp he⟩
    · exact absurd (List.prefix_nil.mp hnil) (by simp)
  constructor
  case begins => exact ⟨e, [], rfl, hfirst⟩
  case continues =>
    intro before x hne hx
    exact absurd (hsole before x hx).1 hne
  case steps =>
    intro subject p n t hin
    obtain rfl := List.mem_singleton.mp hin
    cases hfirst
  case ends =>
    intro before subject status p t hx
    obtain ⟨-, rfl⟩ := hsole before _ hx
    cases hfirst
  case standing => exact hstanding
  case updated =>
    cases e with
    | confirmed subject t => exact congrArg (·.map Standing.since) hstanding
    | waitlisted subject p t => exact congrArg (·.map Standing.since) hstanding
    | promoted | cancelled | positionChanged => cases hfirst
  case subject => exact List.forall_mem_singleton.mpr hsubject
  case placed => exact hplaced
  case positive => exact hpositive

/-- One more event that fits the present state goes at the end of the history. -/
theorem concat (h : r.Told events) (hopen : r.status ≠ .cancelled)
    (hprevious : e.previous? = some (r.status, r.position))
    (hstep : ∀ subject p n t, e = .positionChanged subject p n t → n.toNat + 1 = p.toNat)
    (hstanding : Standing.follow (some r.standing) e = some r'.standing) (htime : e.occurredAt = r'.updatedAt)
    (hsubject : e.subject = r.subject) (hsame : r'.subject = r.subject)
    (hplaced : r'.position.isSome ↔ r'.status = .waitlisted) (hpositive : ∀ p, r'.position = some p → 1 ≤ p) :
    r'.Told (events ++ [e]) := by
  constructor
  case begins =>
    obtain ⟨first, rest, rfl, hfirst⟩ := h.begins
    exact ⟨first, rest ++ [e], rfl, hfirst⟩
  case continues =>
    intro before x hne hx
    rcases List.prefix_concat_iff.mp hx with heq | hx
    · obtain ⟨rfl, hxe⟩ := List.append_inj' heq rfl
      obtain rfl := List.singleton_inj.mp hxe
      exact ⟨r.standing, h.standing, hprevious⟩
    · exact h.continues before x hne hx
  case steps =>
    intro subject p n t hin
    rcases List.mem_append.mp hin with hin | hin
    · exact h.steps subject p n t hin
    · exact hstep subject p n t (List.mem_singleton.mp hin).symm
  case ends =>
    intro before subject status p t hx
    rcases List.prefix_concat_iff.mp hx with heq | hx
    · exact heq
    · -- The history would end with a cancellation already, but its registration is not cancelled.
      have hstands := h.standing
      rw [← h.ends before subject status p t hx, Standing.fold_concat] at hstands
      exact absurd (Standing.cancelled_of_follow hstands) hopen
  case standing => rw [Standing.fold_concat, h.standing, hstanding]
  case updated => rw [List.getLast?_concat, Option.map_some, htime]
  case subject =>
    intro x hx
    rw [hsame]
    rcases List.mem_append.mp hx with hx | hx
    · exact h.subject x hx
    · exact (List.mem_singleton.mp hx) ▸ hsubject
  case placed => exact hplaced
  case positive => exact hpositive

theorem turn (h : r.Told events) (ht : r.Turn now e r') : r'.Told (events ++ [e]) := by
  cases ht with
  | cancelled hs =>
    apply h.concat hs
    case hprevious => rfl
    case hstep => intro _ _ _ _ he; cases he
    case hstanding => rfl
    case htime => rfl
    case hsubject => rfl
    case hsame => rfl
    case hplaced => simp
    case hpositive => simp
  | promoted hs hp =>
    apply h.concat (by simp [hs])
    case hprevious => rw [hs, hp]; rfl
    case hstep => intro _ _ _ _ he; cases he
    case hstanding => rfl
    case htime => rfl
    case hsubject => rfl
    case hsame => rfl
    case hplaced => simp
    case hpositive => simp
  | movedUp hs hp hlt =>
    rename_i p
    have hpos : 1 < p.toNat := UInt32.lt_iff_toNat_lt.mp hlt
    have hnext : (p - 1).toNat + 1 = p.toNat := by
      rw [UInt32.toNat_sub_of_le _ _ (UInt32.le_of_lt hlt), UInt32.toNat_one]
      omega
    apply h.concat (by simp [hs])
    case hprevious => rw [hs, hp]; rfl
    case hstep =>
      intro _ _ _ _ he
      cases he
      exact hnext
    case hstanding => simp [Standing.follow, Registration.standing, hp]
    case htime => rfl
    case hsubject => rfl
    case hsame => rfl
    case hplaced => simp [hs, hp]
    case hpositive =>
      intro q hq
      obtain rfl : p - 1 = q := by simpa [hp] using hq
      rw [UInt32.le_iff_toNat_le, UInt32.toNat_one]
      omega

end Told
end Registration

namespace Tracked
variable {t t' : Tracked} {now : Instant}

/-- A registration as it is made, at some place from the first on or with a seat. -/
inductive Created : Tracked → Prop
  | confirmed (event : EventId) (registrant : RegistrantId) (now : Instant) (id : RegistrationId) :
    Created (.confirmed event registrant now id)
  | waitlisted {event : EventId} {registrant : RegistrantId} {position : UInt32} {now : Instant}
    {create : RegistrationId → Tracked} (h : waitlisted event registrant position now = .ok create)
    (id : RegistrationId) : Created (create id)

theorem Created.told (h : t.Created) : t.registration.Told t.pending := by
  cases h with
  | confirmed event registrant now id =>
    apply Registration.Told.begin
    case hfirst => rfl
    case hstanding => rfl
    case hsubject => rfl
    case hplaced => simp [Tracked.confirmed]
    case hpositive => simp [Tracked.confirmed]
  | waitlisted h id =>
    rename_i position now create
    unfold Tracked.waitlisted at h
    split at h
    · cases h
    · next hp =>
      obtain rfl := Except.ok.inj h
      apply Registration.Told.begin
      case hfirst => rfl
      case hstanding => rfl
      case hsubject => rfl
      case hplaced => simp
      case hpositive =>
        intro q hq
        obtain rfl : position = q := by simpa using hq
        have hne : position.toNat ≠ 0 := fun h0 => hp (UInt32.toNat_inj.mp h0)
        rw [UInt32.le_iff_toNat_le, UInt32.toNat_one]
        omega

/-- What may be asked of a registration. -/
inductive Call where
  | cancel (now : Instant)
  | promote (now : Instant)
  | moveUp (now : Instant)
  | take
  deriving DecidableEq, Repr

/-- The call gives nothing or an error. -/
inductive Refuses (t : Tracked) : Call → Prop
  | cancel {now : Instant} (h : t.cancel now = none) : Refuses t (.cancel now)
  | promote {now : Instant} {e : RegistrationError} (h : t.promote now = .error e) : Refuses t (.promote now)
  | moveUp {now : Instant} {e : RegistrationError} (h : t.moveUp now = .error e) : Refuses t (.moveUp now)

end Tracked

/-- A registration with the events that were taken from it so far. -/
structure Life where
  current : Tracked
  taken : List RegistrationEvent := []
  deriving Repr

namespace Life
variable {l : Life} {c : Tracked.Call}

def history (l : Life) : List RegistrationEvent := l.taken ++ l.current.pending

def step (l : Life) : Tracked.Call → Life
  | .cancel now => { l with current := ((l.current.cancel now).map Prod.snd).getD l.current }
  | .promote now => { l with current := ((l.current.promote now).toOption.map Prod.snd).getD l.current }
  | .moveUp now => { l with current := ((l.current.moveUp now).toOption.map Prod.snd).getD l.current }
  | .take => { current := l.current.detached, taken := l.history }

def run (l : Life) (calls : List Tracked.Call) : Life := calls.foldl step l

/-- A call is refused and changes nothing, or it records one event, or it takes the events that are pending. -/
inductive Stepped (l : Life) (c : Tracked.Call) : Prop
  | refused (hr : l.current.Refuses c) (h : l.step c = l)
  | recorded {now : Instant} {e : RegistrationEvent} (hr : ¬ l.current.Refuses c)
    (ht : l.current.registration.Turn now e (l.step c).current.registration)
    (h : (l.step c).history = l.history ++ [e])
  | taken (hc : c = .take) (h : (l.step c).history = l.history)
    (hr : (l.step c).current.registration = l.current.registration)

theorem Stepped.of_turn {r : Registration} {now : Instant} {e : RegistrationEvent} (hr : ¬ l.current.Refuses c)
    (ht : l.current.registration.Turn now e r)
    (h : l.step c = { l with current := ⟨r, l.current.pending ++ [e]⟩ }) : l.Stepped c := by
  have hturn : l.current.registration.Turn now e (l.step c).current.registration := by
    rw [h]
    exact ht
  have hhistory : (l.step c).history = l.history ++ [e] := by
    rw [h]
    exact (List.append_assoc _ _ _).symm
  exact recorded hr hturn hhistory

theorem stepped (l : Life) (c : Tracked.Call) : l.Stepped c := by
  cases c with
  | cancel now =>
    cases hc : l.current.registration.cancel now with
    | none =>
      have hnone : l.current.cancel now = none := by simp [Tracked.cancel, hc]
      exact .refused (.cancel hnone) (by simp [step, hnone])
    | some x =>
      obtain ⟨released, r, e⟩ := x
      have hsome : l.current.cancel now = some (released, ⟨r, l.current.pending ++ [e]⟩) := by
        simp [Tracked.cancel, hc]
      apply Stepped.of_turn ?_ (Registration.cancel_eq_some hc) (by simp [step, hsome])
      intro hr
      cases hr with
      | cancel hnone => simp [hsome] at hnone
  | promote now =>
    cases hc : l.current.registration.promote now with
    | error e =>
      have herr : l.current.promote now = .error e := by simp [Tracked.promote, hc, Except.map]
      exact .refused (.promote herr) (by simp [step, herr, Except.toOption])
    | ok x =>
      obtain ⟨place, r, e⟩ := x
      have hok : l.current.promote now = .ok (place, ⟨r, l.current.pending ++ [e]⟩) := by
        simp [Tracked.promote, hc, Except.map]
      apply Stepped.of_turn ?_ (Registration.promote_eq_ok hc) (by simp [step, hok, Except.toOption])
      intro hr
      cases hr with
      | promote herr => simp [hok] at herr
  | moveUp now =>
    cases hc : l.current.registration.moveUp now with
    | error e =>
      have herr : l.current.moveUp now = .error e := by simp [Tracked.moveUp, hc, Except.map]
      exact .refused (.moveUp herr) (by simp [step, herr, Except.toOption])
    | ok x =>
      obtain ⟨place, r, e⟩ := x
      have hok : l.current.moveUp now = .ok (place, ⟨r, l.current.pending ++ [e]⟩) := by
        simp [Tracked.moveUp, hc, Except.map]
      apply Stepped.of_turn ?_ (Registration.moveUp_eq_ok hc) (by simp [step, hok, Except.toOption])
      intro hr
      cases hr with
      | moveUp herr => simp [hok] at herr
  | take => exact .taken rfl (List.append_nil _) rfl

/-- The history tells where the registration stands, and this is the same registration as ever. -/
structure Kept (subject : RegistrationRef) (l : Life) : Prop where
  told : l.current.registration.Told l.history
  subject : l.current.registration.subject = subject

theorem Kept.step {subject : RegistrationRef} (h : l.Kept subject) (c : Tracked.Call) : (l.step c).Kept subject := by
  cases l.stepped c with
  | refused _ heq => rwa [heq]
  | recorded _ ht heq =>
    exact ⟨heq ▸ h.told.turn ht, ht.subject.trans h.subject⟩
  | taken _ heq hr => exact ⟨heq ▸ hr ▸ h.told, hr ▸ h.subject⟩

theorem Kept.run {subject : RegistrationRef} (h : l.Kept subject) (calls : List Tracked.Call) :
    (l.run calls).Kept subject := by
  induction calls generalizing l with
  | nil => exact h
  | cons c calls ih => exact ih (h.step c)

/-- A registration is the fold of its events, whatever was asked of it since it was made. A call that is refused
changes nothing; any other but `take` records one event. -/
theorem history_tells {t : Tracked} (h : t.Created) (calls : List Tracked.Call) :
    let l := run { current := t } calls
    l.current.registration.Told l.history ∧ (∀ e ∈ l.history, e.subject = t.registration.subject) ∧
      (∀ c, l.current.Refuses c → l.step c = l) ∧
      ∀ c, ¬ l.current.Refuses c → c ≠ .take → ∃ e, (l.step c).history = l.history ++ [e] := by
  intro l
  have hstart : Kept t.registration.subject { current := t } := ⟨h.told, rfl⟩
  have hkept : l.Kept t.registration.subject := hstart.run calls
  refine ⟨hkept.told, ?_, ?_, ?_⟩
  · intro e he
    rw [hkept.told.subject e he, hkept.subject]
  · intro c hrefuses
    cases l.stepped c with
    | refused _ heq => exact heq
    | recorded hr => exact absurd hrefuses hr
    | taken hc => exact absurd hrefuses (by rintro hr; cases hc; cases hr)
  · intro c hr hc
    cases l.stepped c with
    | refused hrefuses => exact absurd hrefuses hr
    | recorded _ _ heq => exact ⟨_, heq⟩
    | taken htake => exact absurd htake hc

/-- From the third place to a seat and out again, with calls that come too late. -/
theorem history_tells_thirdPlace :
    let subject : RegistrationRef := ⟨⟨⟨0, 1⟩⟩, ⟨⟨0, 2⟩⟩, ⟨⟨0, 3⟩⟩⟩
    let create (id : RegistrationId) : Tracked :=
      ⟨⟨id, subject.eventId, subject.registrantId, .waitlisted, some 3, .first, .first⟩,
        [.waitlisted { subject with registrationId := id } 3 .first]⟩
    let l := run { current := create subject.registrationId } [.moveUp .newYear2024, .take, .moveUp .first,
      .moveUp .last, .promote .last, .take, .cancel .newYear2024, .cancel .last]
    (create subject.registrationId).Created ∧ l.current.pending = [.cancelled subject .confirmed none .newYear2024] ∧
      l.taken = [.waitlisted subject 3 .first, .positionChanged subject 3 2 .newYear2024,
        .positionChanged subject 2 1 .first, .promoted subject 1 .last] ∧
      l.current.registration.Told l.history := by
  intro subject create l
  have hcreate : Tracked.waitlisted subject.eventId subject.registrantId 3 .first = .ok create := rfl
  have hcreated : (create subject.registrationId).Created := .waitlisted hcreate _
  exact ⟨hcreated, by decide +kernel, by decide +kernel, (history_tells hcreated _).1⟩

end Life
end Turnstile
