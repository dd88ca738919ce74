import Conduit.CheckoutSpark.Intents
import Conduit.CheckoutSpark.Spending

namespace Conduit.CheckoutSpark

open Js Throwing Runs List Option

structure SameReceipt (leg leg' : LegProgress) : Prop where
  legId : leg'.legId = leg.legId
  status : leg'.status = .paid
  intent : leg'.intent = leg.intent
  generation : leg'.generationNumber = leg.generationNumber
  finalFeeSats : leg'.finalFeeSats = leg.finalFeeSats
  finalDebitSats : leg'.finalDebitSats = leg.finalDebitSats

/-- Every payment recorded in `s` is recorded unchanged in `t`. -/
def KeepsPaid (s t : SettledReconciliation) : Prop :=
  ∀ (i : Nat) (leg : LegProgress), s.legs[i]? = some leg → leg.status = .paid →
    ∃ leg', t.legs[i]? = some leg' ∧ SameReceipt leg leg'

/-- The step reports no second fee for a payment that is already recorded. -/
def SettledOp.KeepsReceipts (s : SettledReconciliation) : SettledOp → Prop
  | .status evidence => ¬ OverwritesReceipt s evidence
  | _ => True

structure Requested (s : SettledReconciliation) : Prop where
  ids : (s.plan.recipients.map (·.legId)).Nodup
  accepted : ∀ leg ∈ s.legs, ∀ intent ∈ leg.intent, AcceptedRequest intent.paymentRequest
  paid : ∀ leg ∈ s.legs, leg.status = .paid →
    ∀ intent ∈ leg.intent, IsCanonicalRequest intent.paymentRequest

def RequestsAccepted (s : SettledReconciliation) : Prop :=
  ∀ leg ∈ s.legs, ∀ intent ∈ leg.intent, AcceptedRequest intent.paymentRequest

section
variable {P : Platform} {s t c x : SettledReconciliation}

lemma KeepsPaid.refl (s : SettledReconciliation) : KeepsPaid s s :=
  fun _ leg hl hp => ⟨leg, hl, rfl, hp, rfl, rfl, rfl, rfl⟩

lemma KeepsPaid.trans (h₁ : KeepsPaid s c) (h₂ : KeepsPaid c t) : KeepsPaid s t := by
  intro i leg hl hp
  obtain ⟨leg', hl', heq⟩ := h₁ i leg hl hp
  obtain ⟨leg'', hl'', heq'⟩ := h₂ i leg' hl' heq.status
  exact ⟨leg'', hl'', heq'.legId.trans heq.legId, heq'.status,
    heq'.intent.trans heq.intent, heq'.generation.trans heq.generation,
    heq'.finalFeeSats.trans heq.finalFeeSats, heq'.finalDebitSats.trans heq.finalDebitSats⟩

variable {leg : LegProgress} {updatedAt : Int} {i : Nat} {intent : LegIntent}

lemma LoadedLegs.getElem? {baseline : List LegProgress} (h : LoadedLegs P s c baseline)
    (hleg : s.legs[i]? = some leg) : ∃ leg' row, c.legs[i]? = some leg' ∧ row.leg = leg ∧
      LoadedLeg P s.schemaVersion c.plan c.credit.isSome row leg' := by
  obtain ⟨hi, rfl⟩ := List.getElem?_eq_some_iff.1 hleg
  have hl := h.forall₂.length_eq
  obtain ⟨row, hr, hlo⟩ := (forall₂_iff_get.1 h.forall₂).2 i hi (hl ▸ hi)
  exact ⟨_, row, List.getElem?_eq_getElem (hl ▸ hi), hr, hlo⟩

lemma LoadedLeg.same {v : Nat} {plan : SettledPlan} {credited : Bool} {row : LegRow}
    (h : LoadedLeg P v plan credited row leg) :
    leg.status = row.leg.status ∧ leg.observedAt = row.leg.observedAt ∧
      leg.finalFeeSats = row.leg.finalFeeSats ∧ leg.finalDebitSats = row.leg.finalDebitSats ∧
      leg.generationNumber = row.leg.generationNumber ∧
      leg.intent = row.leg.intent.map fun i =>
        { i with paymentRequest := canonicalPaymentRequest i.paymentRequest } := by
  have hf := h.fresh
  cases h.restored with
  | native _ hi hg => exact ⟨rfl, rfl, rfl, rfl, hg.symm, by simp [hi]⟩
  | empty _ he =>
    rw [hf, he.status, he.observedAt, he.finalFeeSats, he.finalDebitSats, he.generation, he.intent]
    exact ⟨emptiedLeg_empty.status, emptiedLeg_empty.observedAt, emptiedLeg_empty.finalFeeSats,
      emptiedLeg_empty.finalDebitSats, emptiedLeg_empty.generation, emptiedLeg_empty.intent⟩
  | prepared _ hi _ hp =>
    refine ⟨rfl, rfl, rfl, rfl, ?_, ?_⟩
    · unfold preparedLeg LegProgress.generationNumber
      split <;> rfl
    · rw [hi, map_some, ← (normalizeIntent_eq hp.normalized).1]
      rfl

lemma Restores.keepsPaid (hc : Restores P s c) (hs : Requested s) : KeepsPaid s c := by
  obtain ⟨baseline, hl⟩ := hc.loaded (restoreSettledPlan_legIds hc.plan ▸ hs.ids)
  intro i leg hleg hp
  obtain ⟨leg', row, hleg', rfl, hlo⟩ := hl.getElem? hleg
  obtain ⟨hst, -, hf, hd, hg, hi⟩ := hlo.same
  refine ⟨leg', hleg', hlo.legId.symm, hst.trans hp, ?_, hg, hf, hd⟩
  rw [hi]
  cases hr : row.leg.intent with
  | none => rfl
  | some intent =>
    have hcan := hs.paid row.leg (mem_of_getElem? hleg) hp intent hr
    rw [map_some, show canonicalPaymentRequest intent.paymentRequest = _ from hcan]

lemma Restores.canonical (hc : Restores P s c)
    (hids : (s.plan.recipients.map (·.legId)).Nodup) (ha : RequestsAccepted s) :
    ∀ leg ∈ c.legs, ∀ intent ∈ leg.intent, IsCanonicalRequest intent.paymentRequest := by
  obtain ⟨baseline, hl⟩ := hc.loaded (restoreSettledPlan_legIds hc.plan ▸ hids)
  intro leg hleg intent hitt
  obtain ⟨i, hi, rfl⟩ := getElem_of_mem hleg
  have hlen := hl.forall₂.length_eq
  obtain ⟨leg', row, hleg', hrow, hlo⟩ :=
    hl.getElem? (getElem?_eq_getElem (l := s.legs) (hlen ▸ hi))
  obtain rfl : c.legs[i] = leg' := some.inj ((getElem?_eq_getElem hi).symm.trans hleg')
  obtain ⟨-, -, -, -, -, heq⟩ := hlo.same
  rw [heq, hrow] at hitt
  obtain ⟨recorded, hr, rfl⟩ := map_eq_some_iff.1 hitt
  exact ha _ (getElem_mem _) recorded hr

lemma Restores.requested (hc : Restores P s c)
    (hids : (s.plan.recipients.map (·.legId)).Nodup) (ha : RequestsAccepted s) : Requested c := by
  have hcan := hc.canonical hids ha
  exact ⟨restoreSettledPlan_legIds hc.plan ▸ hids,
    fun leg hl intent hi => acceptedRequest_of_canonical (hcan leg hl intent hi),
    fun leg hl _ intent hi => hcan leg hl intent hi⟩

lemma keepsPaid_set {leg leg' : LegProgress} (hleg : c.legs[i]? = some leg)
    (hu : leg.status ≠ .paid) : KeepsPaid c { c with legs := c.legs.set i leg', updatedAt } := by
  intro j l hl hp
  by_cases hij : i = j
  · subst hij
    rw [hleg] at hl
    cases hl
    exact absurd hp hu
  · exact ⟨l, by dsimp only; rw [getElem?_set_ne hij]; exact hl, rfl, hp, rfl, rfl, rfl, rfl⟩

lemma keepsPaid_map {f : LegProgress → LegProgress} (hx : x.legs = c.legs.map f)
    (hf : ∀ leg ∈ c.legs, leg.status = .paid → SameReceipt leg (f leg)) : KeepsPaid c x := by
  intro i leg hl hp
  refine ⟨f leg, ?_, hf leg (mem_of_getElem? hl) hp⟩
  rw [hx, getElem?_map, hl]
  rfl

def Advances (s t : SettledReconciliation) : Prop := Requested t ∧ KeepsPaid s t

lemma Restores.advances (hc : Restores P s c) (hs : Requested s) : Advances s c :=
  ⟨hc.requested hs.ids hs.accepted, hc.keepsPaid hs⟩

lemma Advances.trans (h₁ : Advances s c) (h₂ : Advances c t) : Advances s t :=
  ⟨h₂.1, h₁.2.trans h₂.2⟩

section

variable (hc : Restores P s c)
include hc

lemma Restores.treasury_native {t : NativeTreasuryFinalization}
    (ht : c.treasuryFinalization = some t) : c.plan.IsNativeTreasuryPlan := by
  have htrs := hc.treasury
  unfold restoreTreasury at htrs
  rw [ht] at htrs
  split at htrs
  · rename_i hv
    rw [hc.same.1] at hv
    exact hv.imp hc.ordinary.2 hc.event.2
  · cases htrs

lemma advances_mirrored {fee : SettledRecipient} {previous treasury : NativeTreasuryFinalization}
    (hs : Requested c) (hfee : c.plan.feeRecipient = some fee)
    (hpr : c.treasuryFinalization = some previous)
    (hk : previous.status = .paid → treasury.status = .paid ∧
      treasury.finalFeeSats = previous.finalFeeSats ∧
      treasury.finalDebitSats = previous.finalDebitSats) :
    Advances c (mirroredState c fee treasury) := by
  obtain ⟨weights, hf⟩ := hc.frozen
  refine ⟨⟨hs.ids, ?_, ?_⟩, keepsPaid_map rfl ?_⟩
  · intro leg hleg intent hi
    obtain ⟨l, hl, rfl⟩ := mem_map.1 hleg
    refine hs.accepted l hl intent ?_
    split at hi <;> exact hi
  · intro leg hleg hpa intent hi
    obtain ⟨l, hl, rfl⟩ := mem_map.1 hleg
    split at hi
    · rename_i hid
      have hn := (isNativeLeg_iff_fee hf hs.ids hfee l.legId).2
        ⟨hc.treasury_native hpr, hid⟩
      obtain ⟨baseline, hlo⟩ := hc.loaded hs.ids
      obtain ⟨row, hr⟩ := hlo.mem hl
      have hno : l.intent = none := (hr.of_native hn).1
      rw [show (mirroredLeg l treasury).intent = l.intent from rfl, hno] at hi
      cases hi
    · rename_i hid
      rw [if_neg hid] at hpa
      exact hs.paid l hl hpa intent hi
  · intro leg hleg hpa
    split
    · rename_i hid
      have hn := (isNativeLeg_iff_fee hf hs.ids hfee leg.legId).2
        ⟨hc.treasury_native hpr, hid⟩
      obtain ⟨t, ht, ⟨hst, -, hfe, hd⟩, -⟩ := hc.nativeLeg hs.ids hleg hn
      obtain rfl : t = previous := some.inj (ht.symm.trans hpr)
      obtain ⟨hp, hpf, hpd⟩ := hk (hst ▸ hpa)
      exact ⟨rfl, hp, rfl, rfl, hpf.trans hfe.symm, hpd.trans hd.symm⟩
    · exact ⟨rfl, hpa, rfl, rfl, rfl, rfl⟩

lemma advances_renewed {input : RenewInput} {legIntent : LegIntent} {closure : ReturnClosure}
    (hs : Requested c) (h : Renews P c input leg legIntent intent closure) :
    Advances c (renewedState c input leg legIntent intent closure) := by
  have hnd : (c.legs.map (·.legId)).Nodup := hc.ids hs.ids ▸ hs.ids
  have hleg := (Keyed.find?_key_iff hnd).1 h.leg_eq
  have ha := (normalizeIntent_eq h.normalized).2.2.1
  refine ⟨⟨hs.ids, ?_, ?_⟩, keepsPaid_map rfl ?_⟩
  · intro l hl i hi
    obtain ⟨item, hitem, rfl⟩ := mem_map.1 hl
    split at hi
    · cases hi
      exact ha
    · exact hs.accepted item hitem i hi
  · intro l hl hp i hi
    obtain ⟨item, hitem, rfl⟩ := mem_map.1 hl
    split at hi
    · rename_i hid
      rw [if_pos hid] at hp
      cases hp
    · rename_i hid
      rw [if_neg hid] at hp
      exact hs.paid item hitem hp i hi
  · intro item hitem hp
    split
    · rename_i hid
      obtain rfl : item = leg := Keyed.eq_of_key_eq hnd hitem hleg.1 (hid.trans hleg.2.symm)
      exact absurd hp h.allowed.1
    · exact ⟨rfl, hp, rfl, rfl, rfl, rfl⟩

lemma requested_observed {evidence : LegEvidence} {fee debit : Option Int} (hs : Requested s)
    (ho : Observes c evidence i leg intent fee debit) : Requested { c with
      legs := c.legs.set i (observeLeg leg evidence fee debit)
      updatedAt := updatedAt } := by
  have hcan := hc.canonical hs.ids hs.accepted
  have ha : ∀ l ∈ c.legs.set i (observeLeg leg evidence fee debit), ∀ j ∈ l.intent,
      IsCanonicalRequest j.paymentRequest := by
    intro l hl j hj
    rcases mem_or_eq_of_mem_set hl with hl | rfl
    · exact hcan l hl j hj
    · exact hcan leg (mem_of_getElem? ho.at_) j hj
  exact ⟨(hc.requested hs.ids hs.accepted).ids, fun l hl j hj => acceptedRequest_of_canonical (ha l hl j hj),
    fun l hl _ j hj => ha l hl j hj⟩

end

section
variable (hs : Requested s)
include hs

lemma advances_credit {evidence : CreditEvidence} (h : recordSettledCredit P s evidence = .ok t) :
    Advances s t := by
  obtain ⟨c, hc, rfl | ⟨credit, legs, hcr, rfl⟩⟩ := recordSettledCredit_cases h
  · exact hc.advances hs
  · obtain ⟨hr, hk⟩ := hc.advances hs
    have hb := hcr.baseline hc hr.ids
    refine ⟨⟨hr.ids, ?_, ?_⟩, hk.trans ?_⟩
    · intro leg hl intent hi
      rw [hb.fresh leg hl] at hi
      cases hi
    · intro leg hl hp
      rw [hb.fresh leg hl] at hp
      cases hp
    · intro i leg hl hp
      exact absurd hp ((hc.funded hr.ids).uncredited hcr.fresh leg
        (mem_of_getElem? hl)).1

lemma advances_prepare {input : LegIntent} (h : prepareSettledLeg P s input = .ok t) :
    Advances s t := by
  obtain ⟨c, hc, rfl | ⟨i, leg, intent, credit, hp, rfl⟩⟩ := prepareSettledLeg_cases h
  · exact hc.advances hs
  · obtain ⟨hr, hk⟩ := hc.advances hs
    have ha := (normalizeIntent_eq hp.normalized).2.2.1
    refine ⟨⟨hr.ids, ?_, ?_⟩, hk.trans (keepsPaid_set hp.at_ ?_)⟩
    · intro l hl j hj
      rcases mem_or_eq_of_mem_set hl with hl | rfl
      · exact hr.accepted l hl j hj
      · cases hj
        exact ha
    · intro l hl hpa j hj
      rcases mem_or_eq_of_mem_set hl with hl | rfl
      · exact hr.paid l hl hpa j hj
      · cases hpa
    · obtain ⟨baseline, hl⟩ := hc.loaded hr.ids
      obtain ⟨row, hrow⟩ := hl.mem (mem_of_getElem? hp.at_)
      obtain he | ⟨_, _, hi, -⟩ := hrow.receipt hp.ordinary
      · rw [he.status]
        decide
      · rw [hp.fresh] at hi
        cases hi

lemma advances_status {evidence : LegEvidence} (h : recordSettledLegStatus P s evidence = .ok t)
    (hg : ¬ OverwritesReceipt s evidence) : Advances s t := by
  obtain ⟨c, hc, rfl | ⟨i, leg, intent, fee, debit, ho, rfl⟩⟩ := recordSettledLegStatus_cases h
  · exact hc.advances hs
  · obtain ⟨hr, hk⟩ := hc.advances hs
    refine ⟨requested_observed hc hs ho, hk.trans (keepsPaid_set ho.at_ ?_)⟩
    exact fun hp => hg (ho.overwrites hc hr.ids hp)

lemma advances_renew {input : RenewInput} (h : renewSettledLeg P s input = .ok t) :
    Advances s t := by
  obtain ⟨c, leg, legIntent, intent, closure, hc, hr, ht⟩ := renewSettledLeg_cases h
  have hcs := hc.advances hs
  have hx := advances_renewed hc hcs.1 hr
  exact (hcs.trans hx).trans (ht.advances hx.1)

lemma advances_prepareNative {settlement : MerchantSettlementRecord} {preparedAt : Int}
    (h : prepareNativeTreasury P s settlement preparedAt = .ok t) : Advances s t := by
  obtain ⟨c, hc, rfl | ⟨fee, known, treasury, hkn, hn, hf, ht⟩⟩ :=
    prepareNativeTreasury_cases h
  · exact hc.advances hs
  · have hcs := hc.advances hs
    have hu : known.status ≠ .paid := by
      obtain ⟨fee', leg, known', hnat⟩ := hc.native hcs.1.ids (hc.treasury_native hkn)
      obtain rfl : known = known' := some.inj (hkn.symm.trans hnat.treasury)
      obtain rfl | ⟨intent, hfin⟩ := finalizing_or_created hnat.restored
      · decide
      · rw [hfin.intent_eq] at hn
        cases hn
    have hx : Advances c (mirroredState c fee treasury) :=
      advances_mirrored hc hcs.1 hf hkn fun hp => absurd hp hu
    exact (hcs.trans hx).trans (ht.advances hx.1)

lemma advances_nativeStatus {evidence : NativeTreasuryEvidence}
    (h : recordNativeTreasuryStatus P s evidence = .ok t) : Advances s t := by
  obtain ⟨c, fee, previous, treasury, hc, hp, hk, hf, ht⟩ :=
    recordNativeTreasuryStatus_cases h
  have hcs := hc.advances hs
  have hx := advances_mirrored hc hcs.1 hf hp hk
  exact (hcs.trans hx).trans (ht.advances hx.1)

end

lemma advances_step {op : SettledOp} (hs : Requested s)
    (h : SettledStep P SettledOp.KeepsReceipts op s t) : Advances s t := by
  obtain ⟨ha, hg⟩ := h
  cases op with
  | credit evidence => exact advances_credit hs ha
  | prepare input => exact advances_prepare hs ha
  | renew input => exact advances_renew hs ha
  | status evidence => exact advances_status hs ha hg
  | prepareNative settlement preparedAt => exact advances_prepareNative hs ha
  | nativeStatus evidence => exact advances_nativeStatus hs ha

lemma requested_created {p : SettledPlan} (h : createSettledReconciliation P p = .ok s)
    (hd : DistinctLegDigests P p) : Requested s := by
  refine ⟨(sound_created h hd).ids, ?_, ?_⟩ <;>
    simp only [createSettledReconciliation, run_ok] at h <;>
    obtain ⟨plan, hplan, rfl⟩ := h <;>
    intro leg hl
  · obtain ⟨r, -, rfl⟩ := mem_map.1 hl
    intro intent hi
    cases hi
  · obtain ⟨r, -, rfl⟩ := mem_map.1 hl
    intro hp
    cases hp

end

end Conduit.CheckoutSpark
