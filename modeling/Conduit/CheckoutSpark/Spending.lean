import Conduit.CheckoutSpark.Steps

namespace Conduit.CheckoutSpark

open Js Throwing Runs List Keyed

def DistinctLegDigests (P : Platform) (plan : SettledPlan) : Prop :=
  ((plan.recipients.map SettledRecipient.toRecipientInput).zipIdx.map fun c =>
    P.digest (legPreimage plan.checkoutId plan.orderId c.2 c.1)).Nodup

variable (s : SettledReconciliation)

def OverwritesReceipt (evidence : LegEvidence) : Prop :=
  evidence.status = .paid ∧ ∃ leg ∈ s.legs, leg.legId = evidence.legId ∧ leg.status = .paid ∧
    leg.finalFeeSats ≠ evidence.finalFeeSats

def SettledReconciliation.NativePaid : Prop :=
  ∃ t ∈ s.treasuryFinalization, t.status = .paid

/-- The step does not rewrite a receipt that the native collection has already counted. -/
def SettledOp.KeepsBudget : SettledOp → Prop
  | .status evidence => ¬ (OverwritesReceipt s evidence ∧ s.NativePaid)
  | _ => True

/-- An operation that succeeds and meets a condition on the state before it. -/
def SettledStep (P : Platform) (good : SettledReconciliation → SettledOp → Prop) (op : SettledOp)
    (s t : SettledReconciliation) : Prop :=
  op.apply P s = .ok t ∧ good s op

lemma legIds_nodup {P : Platform} {p plan : SettledPlan} (h : restoreSettledPlan P p = .ok plan)
    (hd : DistinctLegDigests P p) : (plan.recipients.map (·.legId)).Nodup := by
  simp only [restoreSettledPlan, run_ok] at h
  obtain ⟨-, canonical, h, -, rfl⟩ := h
  simp only [freezeSettledPlanInternal, run_ok] at h
  obtain ⟨checkoutId, hc, orderId, ho, merchant, -, walletId, -, createdAt, -,
    takeoverAt, -, -, quote, -, event, -, -, weights, -, gross, -, expected, -, -, funding, -, -,
    recipients, hr, u, -, zap, -, treasury, -, canonical, -, rfl⟩ := h
  obtain rfl := text_eq hc
  obtain rfl := text_eq ho
  rw [freezeRecipients_legIds hr]
  exact hd

section
variable {P : Platform} {s t c : SettledReconciliation}

lemma funded_baseline {weights : AllocationWeights} (hf : FrozenPlan P s.plan weights)
    (hids : (s.plan.recipients.map (·.legId)).Nodup)
    (hb : Baseline s.plan s.credit s.legs) : Funded s := by
  obtain ⟨fee, hfee, hm, -⟩ := exists_feeRecipient hf
  have hi := isNativeLeg_iff_fee hf hids hfee
  have hnd : (s.legs.map (·.legId)).Nodup := hb.ids ▸ hids
  have hst : ∀ l ∈ s.legs, l.status ≠ .paid := by
    intro l hl
    rw [hb.fresh l hl]
    simp [freshLeg]
  refine ⟨hnd, ?_, ?_, ?_, ?_, ?_, ?_, ?_, hb.nonneg, hb.total, ?_⟩
  · intro hn
    have hin : fee.legId ∈ s.legs.map fun l => l.legId := by
      rw [hb.ids]
      exact mem_map_of_mem hm
    obtain ⟨l, hl, hid⟩ := mem_map.1 hin
    exact ⟨l, hl, (hi _).2 ⟨hn, hid⟩⟩
  · intro l hl l' hl' hn hn'
    exact eq_of_key_eq hnd hl hl' (((hi _).1 hn).2.trans ((hi _).1 hn').2.symm)
  · intro l hl _
    rw [hb.fresh l hl]
    rfl
  · exact fun l hl hp => absurd hp (hst l hl)
  · intro l hl
    rw [hb.fresh l hl]
    exact le_refl 0
  · exact fun l hl hp => absurd hp (hst l hl)
  · exact fun l hl hp => absurd hp (hst l hl)
  · exact fun hno l hl => ⟨hst l hl, hb.uncredited hno l hl⟩

lemma Credits.baseline {evidence credit : CreditEvidence} {legs : List LegProgress}
    (hc : Restores P s c) (hids : (c.plan.recipients.map (·.legId)).Nodup)
    (h : Credits P c evidence credit legs) : Baseline c.plan (some credit) legs := by
  obtain ⟨base, hl⟩ := hc.loaded hids
  have hok := hl.ok
  simp only [baselineLegs, bind_ok] at hok
  obtain ⟨created, hm, -⟩ := hok
  refine baseline_of_ok hc.plan hids (P := P) ?_
  simp only [baselineLegs, hm, ok_bind]
  exact h.allocated

variable {evidence : LegEvidence} {i : Nat}

lemma Funded.set (h : Funded s) {leg leg' : LegProgress} {updatedAt : Int}
    (hleg : s.legs[i]? = some leg) (hid : leg'.legId = leg.legId)
    (ha : leg'.allocationSats = leg.allocationSats) (hn : ¬ s.plan.IsNativeLeg leg.legId)
    (hopen : ∀ l ∈ s.legs, l.status = .paid → ¬ s.plan.IsNativeLeg l.legId)
    (hcr : s.credit ≠ none) (hu : leg'.status ≠ .paid → leg'.finalDebitSats = none)
    (hp : leg'.status = .paid →
      ∃ debit ∈ leg'.finalDebitSats, ∃ alloc ∈ leg'.allocationSats,
        0 ≤ debit ∧ debit ≤ alloc) : Funded { s with legs := s.legs.set i leg', updatedAt } := by
  have hids := map_set (f := fun l : LegProgress => l.legId) hleg hid
  have hal := map_set (f := fun l : LegProgress => l.allocationSats.getD 0) hleg
    (by rw [ha])
  have hm : ∀ l ∈ s.legs.set i leg', l ∈ s.legs ∨ l = leg' := fun l hl =>
    mem_or_eq_of_mem_set hl
  have ho : ∀ l ∈ s.legs.set i leg', s.plan.IsNativeLeg l.legId → l ∈ s.legs := by
    intro l hl hln
    rcases hm l hl with hl | rfl
    · exact hl
    · exact absurd (hid ▸ hln) hn
  have hcls : ∀ l ∈ s.legs.set i leg', l.status = .paid → ¬ s.plan.IsNativeLeg l.legId :=
    fun l hl hlp hln => hopen l (ho l hl hln) hlp hln
  refine ⟨?_, ?_, ?_, ?_, ?_, ?_, ?_, ?_, ?_, ?_, fun hno => absurd hno hcr⟩
  · exact hids ▸ h.nodup
  · intro hpl
    obtain ⟨l, hl, hln⟩ := h.fee hpl
    have hin : l.legId ∈ (s.legs.set i leg').map fun l => l.legId :=
      hids ▸ mem_map_of_mem (f := fun l : LegProgress => l.legId) hl
    obtain ⟨l', hl', heq⟩ := mem_map.1 hin
    exact ⟨l', hl', heq ▸ hln⟩
  · intro l hl l' hl' hln hln'
    exact h.unique l (ho l hl hln) l' (ho l' hl' hln') hln hln'
  · intro l hl hlu
    rcases hm l hl with hl | rfl
    · exact h.unpaid l hl hlu
    · exact hu hlu
  · intro l hl hlp hln
    rcases hm l hl with hl | rfl
    · exact h.paid l hl hlp hln
    · obtain ⟨debit, hd, alloc, halloc, -, hle⟩ := hp hlp
      exact ⟨debit, hd, alloc, halloc, hle⟩
  · intro l hl
    rcases hm l hl with hl | rfl
    · exact h.debit l hl
    · by_cases hlp : l.status = .paid
      · obtain ⟨debit, hd, -, -, hpos, -⟩ := hp hlp
        rw [Option.mem_def.1 hd]
        exact hpos
      · rw [hu hlp]
        exact le_refl 0
  · exact fun l hl hlp hln => absurd hln (hcls l hl hlp)
  · exact fun l hl hlp hln => absurd hln (hcls l hl hlp)
  · intro l hl
    rcases hm l hl with hl | rfl
    · exact h.nonneg l hl
    · rw [ha]
      exact h.nonneg leg (mem_of_getElem? hleg)
  · intro credit hc
    rw [← h.total credit hc]
    exact congrArg sum hal

variable {leg : LegProgress}

lemma Restores.recorded (hc : Restores P s c)
    (hids : (c.plan.recipients.map (·.legId)).Nodup) (hleg : leg ∈ c.legs)
    (hst : leg.status = .paid) :
    ∃ l ∈ s.legs, l.legId = leg.legId ∧ l.status = .paid ∧ l.finalFeeSats = leg.finalFeeSats := by
  obtain ⟨base, hl⟩ := hc.loaded hids
  obtain ⟨i, hi, rfl⟩ := getElem_of_mem hleg
  have hlen := hl.forall₂.length_eq
  obtain ⟨row, hrow, hlo⟩ := (forall₂_iff_get.1 hl.forall₂).2 i (hlen ▸ hi) hi
  have hid := hlo.legId
  have hf := hlo.fresh
  have hm : row.leg ∈ s.legs := hrow ▸ get_mem _ _
  simp only [get_eq_getElem] at hid hf hlo
  have hr := hlo.restored
  generalize c.legs[i] = leg at hid hf hr hst
  refine ⟨row.leg, hm, hid, ?_⟩
  cases hr with
  | native => exact ⟨hst, rfl⟩
  | prepared => exact ⟨hst, rfl⟩
  | empty =>
    rw [hf, emptiedLeg_empty.status] at hst
    cases hst

structure Sound (s : SettledReconciliation) : Prop where
  ids : (s.plan.recipients.map (·.legId)).Nodup
  funded : Funded s

lemma Restores.sound (hc : Restores P s c)
    (hids : (s.plan.recipients.map (·.legId)).Nodup) : Sound c := by
  have hids' := restoreSettledPlan_legIds hc.plan ▸ hids
  exact ⟨hids', hc.funded hids'⟩

lemma evidenceReceipt_ok {intent : LegIntent} {fee debit : Option Int}
    (h : evidenceReceipt leg intent evidence = .ok (fee, debit)) :
    (evidence.status = .paid ∧ ∃ f, fee = some f ∧ evidence.finalFeeSats = some f ∧
        debit = some (intent.invoiceAmountSats + f) ∧ NonnegativeSafe f ∧
        PositiveSats (intent.invoiceAmountSats + f) ∧
        intent.invoiceAmountSats + f ≤ leg.allocationSats.getD 0) ∨
      (evidence.status ≠ .paid ∧ fee = none ∧ debit = none) := by
  unfold evidenceReceipt at h
  split at h
  · rename_i hp
    left
    refine ⟨hp, ?_⟩
    simp only [requiredSats, run_ok, not_or, not_not, not_lt, Prod.mk.injEq] at h
    obtain ⟨f, hf, d, hd, ⟨rfl, -, hle⟩, rfl, rfl⟩ := h
    split at hf
    · rename_i hfee
      split at hd
      · obtain ⟨rfl, hs, hpos, -⟩ := sats_ok_iff.1 hf
        obtain ⟨hde, hs', hpos', hne⟩ := sats_ok_iff.1 hd
        have := hne rfl
        exact ⟨f, rfl, hfee, rfl, ⟨hs, hpos⟩, hde ▸ ⟨hs', by omega⟩, hle⟩
      · cases hd
    · cases hf
  · rename_i hu
    simp only [rejects_ok, pure_ok, Prod.mk.injEq] at h
    exact .inr ⟨hu, h.2.1.symm, h.2.2.symm⟩

lemma paid_of_transition {status next : LegStatus} (h : assertLegTransition status next = .ok ())
    (hp : status = .paid) : next = .paid := by
  simp only [assertLegTransition, rejects_ok, not_and, not_not] at h
  exact h.1 hp

lemma Restores.intent (hc : Restores P s c)
    (hids : (c.plan.recipients.map (·.legId)).Nodup) (hleg : leg ∈ c.legs)
    {intent : LegIntent} (hitt : leg.intent = some intent) :
    ¬ c.plan.IsNativeLeg leg.legId ∧ c.credit ≠ none ∧ ∃ alloc,
      leg.allocationSats = some alloc ∧ leg.status ≠ .unprepared ∧
      leg.ReceiptValid intent alloc ∧ ∃ t ∈ leg.observedAt, intent.preparedAt ≤ t := by
  obtain ⟨base, hl⟩ := hc.loaded hids
  obtain ⟨row, hr⟩ := hl.mem hleg
  have hn : ¬ c.plan.IsNativeLeg leg.legId := by
    intro hn
    rw [(hr.of_native hn).1] at hitt
    cases hitt
  refine ⟨hn, ?_⟩
  obtain he | ⟨i, alloc, hi, hcrd, ha, hst, hrc, ho⟩ :=
    hr.receipt hn
  · rw [he.intent] at hitt
    cases hitt
  · obtain rfl : i = intent := Option.some.inj (hi.symm.trans hitt)
    exact ⟨Option.isSome_iff_ne_none.1 hcrd, alloc, ha, hst, hrc, ho⟩

lemma ReceiptValid.debit {intent : LegIntent} {alloc : Int}
    (h : leg.ReceiptValid intent alloc) (hp : leg.status = .paid) :
    ∃ fee, leg.finalFeeSats = some fee ∧
      leg.finalDebitSats = some (intent.invoiceAmountSats + fee) := by
  unfold LegProgress.ReceiptValid at h
  rw [if_pos hp] at h
  obtain ⟨fee, hf, debit, hd, -, -, rfl, -⟩ := h
  exact ⟨fee, hf, hd⟩

lemma Observes.overwrites {intent : LegIntent} {fee debit : Option Int} (hc : Restores P s c)
    (hids : (c.plan.recipients.map (·.legId)).Nodup)
    (h : Observes c evidence i leg intent fee debit) (hp : leg.status = .paid) :
    OverwritesReceipt s evidence := by
  have hm := mem_of_getElem? h.at_
  have hn := paid_of_transition h.transition hp
  obtain ⟨-, -, allocation, -, -, hv, -⟩ := hc.intent hids hm h.intent_eq
  obtain ⟨f₀, hf₀, hd₀⟩ := ReceiptValid.debit hv hp
  obtain ⟨-, f, rfl, hf, rfl, -⟩ | ⟨hne, -⟩ := evidenceReceipt_ok h.receipt
  · obtain ⟨l, hl, hid, hlp, hlf⟩ := hc.recorded hids hm hp
    refine ⟨hn, l, hl, hid.trans h.legId, hlp, ?_⟩
    rw [hlf, hf]
    intro heq
    apply h.changes
    rw [hf₀] at heq
    cases heq
    exact ⟨hp.trans hn.symm, hf₀, hd₀⟩
  · exact absurd hn hne

lemma Restores.nativePaid (hc : Restores P s c)
    (hids : (c.plan.recipients.map (·.legId)).Nodup) {l : LegProgress} (hl : l ∈ c.legs)
    (hp : l.status = .paid) (hn : c.plan.IsNativeLeg l.legId) : s.NativePaid := by
  obtain ⟨t, ht, ⟨hst, -⟩, -⟩ := hc.nativeLeg hids hl hn
  exact ⟨t, by rw [← hc.same.2.2]; exact ht, hst ▸ hp⟩

section
variable (hids : (s.plan.recipients.map (·.legId)).Nodup)
include hids

lemma sound_credit {evidence : CreditEvidence} (h : recordSettledCredit P s evidence = .ok t) :
    Sound t := by
  obtain ⟨c, hc, rfl | ⟨credit, legs, hcr, rfl⟩⟩ := recordSettledCredit_cases h
  · exact hc.sound hids
  · have hids' := (hc.sound hids).ids
    obtain ⟨weights, hf⟩ := hc.frozen
    have hb := hcr.baseline hc hids'
    exact ⟨hids', funded_baseline hf hids' hb⟩

lemma sound_prepare {input : LegIntent} (h : prepareSettledLeg P s input = .ok t) : Sound t := by
  obtain ⟨c, hc, rfl | ⟨i, leg, intent, credit, hp, rfl⟩⟩ := prepareSettledLeg_cases h
  · exact hc.sound hids
  · obtain ⟨hids', hf⟩ := hc.sound hids
    have hm := mem_of_getElem? hp.at_
    obtain ⟨base, hl⟩ := hc.loaded hids'
    obtain ⟨row, hr⟩ := hl.mem hm
    have he : EmptyLeg leg := by
      obtain he | ⟨_, _, hi, -⟩ := hr.receipt hp.ordinary
      · exact he
      · rw [hp.fresh] at hi
        cases hi
    refine ⟨hids', hf.set hp.at_ rfl rfl hp.ordinary ?_ ?_ ?_ ?_⟩
    · intro l hlm hpa hn
      have := hf.last l hlm hpa hn leg hm
      rw [he.status] at this
      cases this
    · rw [hp.credited]
      exact Option.some_ne_none credit
    · exact fun _ => he.finalDebitSats
    · intro hpa
      cases hpa

lemma sound_status {evidence : LegEvidence} (h : recordSettledLegStatus P s evidence = .ok t)
    (hg : ¬ (OverwritesReceipt s evidence ∧ s.NativePaid)) : Sound t := by
  obtain ⟨c, hc, rfl | ⟨i, leg, intent, fee, debit, ho, rfl⟩⟩ := recordSettledLegStatus_cases h
  · exact hc.sound hids
  · obtain ⟨hids', hf⟩ := hc.sound hids
    have hm := mem_of_getElem? ho.at_
    obtain ⟨hn, hcr, allocation, ha, -⟩ := hc.intent hids' hm ho.intent_eq
    have hr := evidenceReceipt_ok ho.receipt
    refine ⟨hids', hf.set ho.at_ rfl rfl hn ?_ hcr ?_ ?_⟩
    · intro l hl hp hln
      have hla := hf.last l hl hp hln leg hm
      exact hg ⟨ho.overwrites hc hids' hla, hc.nativePaid hids' hl hp hln⟩
    · intro hu
      obtain ⟨hp, -⟩ | ⟨-, -, hd⟩ := hr
      · exact absurd hp hu
      · exact hd
    · intro hp
      obtain ⟨-, f, -, -, rfl, -, hpos, hle⟩ | ⟨hne, -⟩ := hr
      · rw [ha] at hle
        exact ⟨_, rfl, allocation, ha, hpos.2.le, hle⟩
      · exact absurd hp hne

lemma sound_renew {input : RenewInput} (h : renewSettledLeg P s input = .ok t) : Sound t := by
  obtain ⟨c, leg, legIntent, intent, closure, hc, -, ht⟩ := renewSettledLeg_cases h
  exact ht.sound (hc.sound hids).ids

lemma sound_prepareNative {settlement : MerchantSettlementRecord} {preparedAt : Int}
    (h : prepareNativeTreasury P s settlement preparedAt = .ok t) : Sound t := by
  obtain ⟨c, hc, rfl | ⟨fee, known, treasury, -, -, -, ht⟩⟩ := prepareNativeTreasury_cases h
  · exact hc.sound hids
  · exact ht.sound (hc.sound hids).ids

lemma sound_nativeStatus {evidence : NativeTreasuryEvidence}
    (h : recordNativeTreasuryStatus P s evidence = .ok t) : Sound t := by
  obtain ⟨c, fee, previous, treasury, hc, -, -, -, ht⟩ := recordNativeTreasuryStatus_cases h
  exact ht.sound (hc.sound hids).ids

end

lemma sound_created {p : SettledPlan} (h : createSettledReconciliation P p = .ok s)
    (hd : DistinctLegDigests P p) : Sound s := by
  simp only [createSettledReconciliation, run_ok] at h
  obtain ⟨plan, hp, rfl⟩ := h
  have hids := legIds_nodup hp hd
  obtain ⟨weights, hf⟩ := frozenPlan_of_restore hp
  refine ⟨hids, funded_baseline hf hids ⟨?_, ?_, fun _ => ?_, ?_, by simp⟩⟩
  · rw [map_map]
    rfl
  all_goals
    intro b hb
    obtain ⟨r, -, rfl⟩ := mem_map.1 hb
  · rfl
  · rfl
  · exact le_refl 0

lemma sound_step {op : SettledOp} (h : SettledStep P SettledOp.KeepsBudget op s t)
    (hs : Sound s) : Sound t := by
  obtain ⟨ha, hg⟩ := h
  cases op with
  | credit evidence => exact sound_credit hs.ids ha
  | prepare input => exact sound_prepare hs.ids ha
  | renew input => exact sound_renew hs.ids ha
  | status evidence => exact sound_status hs.ids ha hg
  | prepareNative settlement preparedAt => exact sound_prepareNative hs.ids ha
  | nativeStatus evidence => exact sound_nativeStatus hs.ids ha

end

end Conduit.CheckoutSpark
