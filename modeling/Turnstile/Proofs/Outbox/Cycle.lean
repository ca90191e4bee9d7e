import Turnstile.Proofs.Outbox.Solo

/-!
A batch of a lone outbox worker. The rows listed are all claimed, each is handed over once and settled by what the bus
said, and the others are left alone.
-/

namespace Turnstile
open scoped List

/-- What the bus said when a row was handed over. -/
def Inquiry.outcome? (id : MessageId) (q : Inquiry) : Option (Except BusError Unit) :=
  match q with
  | ⟨.publish topic m, w⟩ => if m.id = id then some (w.reply (.publish topic m)) else none
  | _ => none

theorem Inquiry.outcome?_eq_none {q : Inquiry} (h : q.offers = false) (id : MessageId) : q.outcome? id = none := by
  obtain ⟨c, w⟩ := q
  cases c with
  | publish => cases h
  | _ => rfl

theorem Inquiry.outcome?_of_publish {q : Inquiry} {topic : String} {m : OutboxMessage} (h : q.call = .publish topic m)
    (id : MessageId) : q.outcome? id = if m.id = id then some q.moment.bus else none := by
  obtain ⟨c, w⟩ := q
  cases h
  exact if_congr Iff.rfl (congrArg some (w.reply_publish topic m)) rfl

theorem Settlement.Call.row?_eq {s : OutboxSettings} {m : OutboxMessage} {outcome : Except BusError Unit}
    {c : OutboxCall} (h : Settlement.Call s m outcome c) : c.row? = some m.id := by
  cases h <;> rfl

/-- A key picks one member of a list in which no key comes twice. -/
private theorem filter_key {α κ : Type} [DecidableEq κ] {key : α → κ} {l : List α} (hn : (l.map key).Nodup) {a : α}
    (ha : a ∈ l) : (l.filter fun x => key x = key a) = [a] := by
  refine List.perm_singleton.mp ((List.perm_ext_iff_of_nodup (hn.of_map.filter _) (List.nodup_singleton a)).mpr ?_)
  intro x
  rw [List.mem_filter, List.mem_singleton, decide_eq_true_iff]
  constructor
  · rintro ⟨hx, hkey⟩
    exact List.inj_on_of_nodup_map hn hx ha hkey
  · rintro rfl
    exact ⟨ha, rfl⟩

/-- Where every topic came to its end there is a report. -/
theorem Deliver.report_settled (claimed : List OutboxMessage) (conflicts : Nat) (settlements : List (List Settlement)) :
    report claimed conflicts (settlements.map .ok) =
      .ok (settlements.flatten.foldl BatchReport.add { claimed := claimed.length, conflicts }) := by
  have hall : (settlements.map .ok).mapM id = (.ok settlements : Stored (List (List Settlement))) := by
    rw [List.mapM_map]
    exact List.mapM_pure.trans (congrArg Except.ok (List.map_id settlements))
  rw [report, hall]
  rfl

namespace SideBySide
variable {s : OutboxSettings} {rows : List OutboxMessage} {log : List Inquiry} {dealings : List Dealing}

/-- What the bus said to a row is what it said in the dealings with it. -/
theorem outcomes (h : SideBySide s rows log dealings) (id : MessageId) :
    log.filterMap (Inquiry.outcome? id) ~
      (dealings.filter fun d => d.row.id = id).map fun d => d.offer.moment.bus := by
  have honly : log.filterMap (Inquiry.outcome? id) = (log.filter Inquiry.offers).filterMap (Inquiry.outcome? id) := by
    rw [List.filterMap_filter]
    refine List.filterMap_congr fun q _ => ?_
    cases hq : q.offers with
    | true => rfl
    | false => rw [Inquiry.outcome?_eq_none hq]; rfl
  rw [honly]
  refine (h.offers.filterMap _).trans (.of_eq ?_)
  rw [List.filterMap_map, ← List.filterMap_eq_map, List.filterMap_filter]
  refine List.filterMap_congr fun d hd => ?_
  simpa using Inquiry.outcome?_of_publish (h.sound d hd).offer id

/-- The calls that change a row are those that settle it. -/
theorem changes (h : SideBySide s rows log dealings) (id : MessageId) :
    (log.map Inquiry.call).filter (fun c => c.row? = some id) ~
      (dealings.filter fun d => d.row.id = id).map fun d => d.settling.call := by
  have honly : log.filter (fun q => q.call.row? = some id) =
      (log.filter Inquiry.settles).filter fun q => q.call.row? = some id := by
    rw [List.filter_filter]
    refine List.filter_congr fun q hq => ?_
    have htry : q.tried? = none := List.filterMap_eq_nil_iff.mp h.tries q hq
    obtain ⟨c, w⟩ := q
    cases c with
    | tryClaim => cases htry
    | _ => simp [OutboxCall.row?, Inquiry.settles, OutboxCall.settled?]
  have hrow : ∀ d ∈ dealings, decide (d.settling.call.row? = some id) = decide (d.row.id = id) := by
    intro d hd
    simp [(h.sound d hd).settling.row?_eq]
  rw [List.filter_map]
  refine ((List.Perm.of_eq honly).trans (h.settles.filter _)).map Inquiry.call |>.trans (.of_eq ?_)
  rw [List.filter_map, List.map_map]
  exact congrArg _ (List.filter_congr hrow)

/-- A row that was claimed is handed over once, and settled by what the bus said. -/
theorem of_mem (h : SideBySide s rows log dealings) (hids : (rows.map OutboxMessage.id).Nodup) {m : OutboxMessage}
    (hm : m ∈ rows) : ∃ outcome c, Settlement.Call s m outcome c ∧
      m.afterAll (log.map Inquiry.call) = m.after c ∧ log.filterMap (Inquiry.outcome? m.id) = [outcome] := by
  obtain ⟨d, hd, rfl⟩ := List.mem_map.mp (h.rows.mem_iff.mpr hm)
  have hnodup : (dealings.map fun d => d.row.id).Nodup := by
    have hall := (h.rows.map OutboxMessage.id).nodup_iff.mpr hids
    rwa [List.map_map] at hall
  have honce : (dealings.filter fun x => x.row.id = d.row.id) = [d] := filter_key hnodup hd
  have hchanges := h.changes d.row.id
  have houtcomes := h.outcomes d.row.id
  rw [honce] at hchanges houtcomes
  refine ⟨d.offer.moment.bus, d.settling.call, (h.sound d hd).settling, ?_, List.perm_singleton.mp houtcomes⟩
  rw [← OutboxMessage.afterAll_filter, List.perm_singleton.mp hchanges]
  rfl

/-- A row that was not claimed is left alone. -/
theorem of_ne (h : SideBySide s rows log dealings) {m : OutboxMessage} (hm : ∀ row ∈ rows, row.id ≠ m.id) :
    m.afterAll (log.map Inquiry.call) = m ∧ log.filterMap (Inquiry.outcome? m.id) = [] := by
  have hnone : (dealings.filter fun d => d.row.id = m.id) = [] := by
    refine List.filter_eq_nil_iff.mpr fun d hd => ?_
    simpa using hm d.row (h.rows.mem_iff.mp (List.mem_map_of_mem hd))
  have hchanges := h.changes m.id
  have houtcomes := h.outcomes m.id
  rw [hnone] at hchanges houtcomes
  refine ⟨?_, houtcomes.eq_nil⟩
  rw [← OutboxMessage.afterAll_filter, hchanges.eq_nil]
  rfl

end SideBySide

namespace Solo
variable (time : Nat → Instant) (bus : Nat → Except BusError Unit)

/-- What the bus said to a row so far, in order. -/
def outcomes (s : Solo) (id : MessageId) : List (Except BusError Unit) := s.log.filterMap (Inquiry.outcome? id)

/-- What the calls of a batch made of the rows: the oldest that were due were listed, and each of these was claimed,
handed over once and settled by what the bus said. The others were left alone. -/
structure Batched (settings : OutboxSettings) (s : Solo) (t : Instant) (listed : List OutboxMessage)
    (made : List Inquiry) : Prop where
  oldest : s.store.Oldest settings.batchSize t (settings.leaseCutoff t) listed
  taken : ∀ m ∈ listed, ∃ outcome c, Settlement.Call settings (m.claim settings.workerId t) outcome c ∧
    m.afterAll (made.map Inquiry.call) = (m.claim settings.workerId t).after c ∧
      made.filterMap (Inquiry.outcome? m.id) = [outcome]
  left : ∀ m ∈ s.store.outbox, m ∉ listed →
    m.afterAll (made.map Inquiry.call) = m ∧ made.filterMap (Inquiry.outcome? m.id) = []
  offers : ∀ q ∈ made, ∀ topic m, q.call.offer? = some (topic, m) → ∃ row ∈ listed, m = row.claim settings.workerId t

section phases
variable {settings : OutboxSettings} {t : Instant} {listed : List OutboxMessage} {s : Solo} {claims : List Inquiry}

private theorem id_ne (hold : s.store.Oldest settings.batchSize t (settings.leaseCutoff t) listed) {m : OutboxMessage}
    (hm : m ∈ s.store.outbox) (hout : m ∉ listed) : ∀ x ∈ listed, x.id ≠ m.id := by
  intro x hx hid
  exact hout (s.numbered.eq_of_id (hold.claimable x hx).1 hm hid ▸ hx)

/-- The calls that claim the rows listed change those and no others. -/
private theorem afterAll_claims (hold : s.store.Oldest settings.batchSize t (settings.leaseCutoff t) listed) :
    (∀ m ∈ listed, m.afterAll (Deliver.claimCalls settings t listed) = m.claim settings.workerId t) ∧
      ∀ m ∈ s.store.outbox, m ∉ listed → m.afterAll (Deliver.claimCalls settings t listed) = m := by
  have hnamed (m : OutboxMessage) : m.afterAll (Deliver.claimCalls settings t listed) =
      m.afterAll ((listed.filter fun x => x.id = m.id).map fun x =>
        .tryClaim x.id settings.workerId t (settings.leaseCutoff t)) := by
    rw [← OutboxMessage.afterAll_filter, Deliver.claimCalls]
    simp [List.filter_map, OutboxCall.row?, Function.comp_def]
  constructor
  · intro m hm
    rw [hnamed, filter_key hold.ids hm]
    exact OutboxMessage.after_of_under (if_pos ⟨rfl, (hold.claimable m hm).2⟩)
  · intro m hm hout
    have hnone : (listed.filter fun x => x.id = m.id) = [] :=
      List.filter_eq_nil_iff.mpr fun x hx => by simpa using id_ne hold hm hout x hx
    rw [hnamed, hnone]
    rfl

/-- The calls that claim rows hand nothing over. -/
private theorem quiet_claims (hcalls : claims.map Inquiry.call = Deliver.claimCalls settings t listed) :
    ∀ q ∈ claims, q.offers = false := by
  intro q hq
  have hcall := List.mem_map_of_mem (f := Inquiry.call) hq
  rw [hcalls, Deliver.claimCalls] at hcall
  simp only [List.mem_cons, List.mem_append, List.mem_map, List.not_mem_nil, or_false] at hcall
  rw [Inquiry.offers]
  rcases hcall with h | h | ⟨m, -, h⟩ | h
  · rw [h]; rfl
  · rw [h]; rfl
  · rw [← h]; rfl
  · rw [h]; rfl

/-- The calls that claim the rows listed, and then those that publish what was claimed, are a batch. -/
private theorem Batched.of_phases (hold : s.store.Oldest settings.batchSize t (settings.leaseCutoff t) listed)
    (hcalls : claims.map Inquiry.call = Deliver.claimCalls settings t listed) {offers : List Inquiry}
    {dealings : List Dealing}
    (hdealt : SideBySide settings (listed.map (·.claim settings.workerId t)) offers dealings) :
    Batched settings s t listed (claims ++ offers) := by
  obtain ⟨htaken, hleft⟩ := afterAll_claims hold
  rw [← hcalls] at htaken hleft
  have hquiet := quiet_claims hcalls
  have hsilent (id : MessageId) : claims.filterMap (Inquiry.outcome? id) = [] :=
    List.filterMap_eq_nil_iff.mpr fun q hq => Inquiry.outcome?_eq_none (hquiet q hq) id
  constructor
  case oldest => exact hold
  case taken =>
    intro m hm
    have hids : ((listed.map (·.claim settings.workerId t)).map OutboxMessage.id).Nodup := by
      rw [List.map_map]
      exact hold.ids
    obtain ⟨outcome, c, hcall, hafter, houtcome⟩ := hdealt.of_mem hids (List.mem_map_of_mem hm)
    refine ⟨outcome, c, hcall, ?_, ?_⟩
    · rw [List.map_append, OutboxMessage.afterAll_append, htaken m hm, hafter]
    · rw [List.filterMap_append, hsilent, List.nil_append]
      exact houtcome
  case left =>
    intro m hm hout
    have hne : ∀ row ∈ listed.map (·.claim settings.workerId t), row.id ≠ m.id := by
      intro _ hclaimed
      obtain ⟨row, hrow, rfl⟩ := List.mem_map.mp hclaimed
      exact id_ne hold hm hout row hrow
    obtain ⟨hafter, houtcomes⟩ := hdealt.of_ne hne
    refine ⟨?_, ?_⟩
    · rw [List.map_append, OutboxMessage.afterAll_append, hleft m hm hout, hafter]
    · rw [List.filterMap_append, hsilent, houtcomes, List.nil_append]
  case offers =>
    intro q hq topic m hm
    rcases List.mem_append.mp hq with hq | hq
    · have hno := hquiet q hq
      rw [Inquiry.offers, hm] at hno
      cases hno
    · have hoffered := hdealt.offered.mem_iff.mp (List.mem_filterMap.mpr ⟨q, hq, hm⟩)
      obtain ⟨_, hclaimed, heq⟩ := List.mem_map.mp hoffered
      obtain ⟨row, hrow, rfl⟩ := List.mem_map.mp hclaimed
      exact ⟨row, hrow, (Prod.mk.inj heq).2.symm⟩

end phases

/-- A batch of a lone worker comes to its report, and settles what it has listed. -/
theorem cycle_batched (settings : OutboxSettings) (order : List Nat) (s : Solo) :
    let t := time s.log.length
    let listed := settings.listed (s.moment time bus) t
    (∃ report, (cycle time bus settings order s).1 = .ok report) ∧
      ∃ made, s.Leads made (cycle time bus settings order s).2 ∧ Batched settings s t listed made := by
  intro t listed
  let claimed := listed.map (·.claim settings.workerId t)
  have hold : s.store.Oldest settings.batchSize t (settings.leaseCutoff t) listed := Store.oldest_claimable s.numbered
  obtain ⟨claims, s₁, hexec, hclaims, hcalls⟩ := exec_claimDue time bus settings s
  obtain ⟨offers, hoffers, hcourse⟩ := publish_leads time bus order (Deliver.publishing settings claimed) s₁
  let turned := order.foldl (turn time bus) (Deliver.publishing settings claimed, s₁)
  let ended := (turned.1.mapM id).exec (answer time bus) turned.2
  have hcycle : cycle time bus settings order s = (Deliver.report claimed 0 ended.1, ended.2) := by
    rw [cycle, hexec]
  obtain ⟨settlements, hok⟩ := hcourse.results_ok hoffers.faultless
  rw [hok] at hcourse
  obtain ⟨dealings, hdealt, -⟩ := hcourse.sideBySide (List.pairwise_map.mpr hold.ordered)
  rw [hcycle]
  refine ⟨⟨_, (congrArg _ hok).trans (Deliver.report_settled claimed 0 settlements)⟩, claims ++ offers, ?_, ?_⟩
  · exact hclaims.trans hoffers
  · exact .of_phases hold hcalls hdealt

end Solo
end Turnstile
