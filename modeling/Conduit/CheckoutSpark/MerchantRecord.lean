import Conduit.Agreement
import Conduit.CheckoutSpark.MerchantFacts
import Conduit.CheckoutSpark.Restorable

namespace Conduit.CheckoutSpark

open Js Throwing

section
variable {P : Platform} {plan : SettledPlan}

def loadedReconciliation (P : Platform) (plan : SettledPlan) : Result SettledReconciliation := do
  let created ← createSettledReconciliation P plan
  restoreSettledReconciliation P created

lemma loadedReconciliation_eq {current : SettledReconciliation}
    (h : loadedReconciliation P plan = .ok current) : current.credit = none ∧
      ∃ canon, restoreSettledPlan P plan = .ok canon ∧
        restoreSettledPlan P canon = .ok current.plan := by
  simp only [loadedReconciliation, createSettledReconciliation, run_ok] at h
  obtain ⟨_, ⟨canon, hc, rfl⟩, hl⟩ := h
  have hr := restore_ok_iff.1 hl
  exact ⟨(Except.ok.inj hr.credit).symm, canon, hc, hr.plan⟩

variable {v : SettledReconciliation} {e : CreditEvidence}

lemma creditedReconciliation_ok (h : creditedReconciliation P plan e = .ok v) :
    ∃ current, loadedReconciliation P plan = .ok current ∧ normalizeCredit current.plan e = .ok e ∧
      v.credit = some e ∧ allocatedLegs current.plan e.creditedSats = .ok v.legs := by
  simp only [creditedReconciliation, recordSettledCredit, bind_ok] at h
  obtain ⟨created, hm, current, hlo, credit, hc, h⟩ := h
  have hl : loadedReconciliation P plan = .ok current := by
    simp only [loadedReconciliation, bind_ok]
    exact ⟨created, hm, hlo⟩
  rw [(loadedReconciliation_eq hl).1] at h
  simp only [run_ok] at h
  obtain ⟨_, -, legs, hle, rfl⟩ := h
  obtain rfl := normalizeCredit_eq hc
  exact ⟨current, hl, hc, rfl, hle⟩

lemma creditedReconciliation_legs {e e' : CreditEvidence} {v v' : SettledReconciliation}
    (h : creditedReconciliation P plan e = .ok v) (h' : creditedReconciliation P plan e' = .ok v')
    (hs : e.creditedSats = e'.creditedSats) (legId : Text) :
    v.allocation legId = v'.allocation legId := by
  obtain ⟨current, hc, -, -, hl⟩ := creditedReconciliation_ok h
  obtain ⟨current', hc', -, -, hl'⟩ := creditedReconciliation_ok h'
  obtain rfl : current = current' := Except.ok.inj (hc.symm.trans hc')
  rw [hs, hl'] at hl
  unfold SettledReconciliation.allocation SettledReconciliation.leg
  rw [Except.ok.inj hl]

lemma creditedReconciliation_scope (h : creditedReconciliation P plan e = .ok v)
    (hh : e.paymentHash = plan.funding.paymentHash) :
    e = recordedEvidence plan ⟨e.transferId, e.creditedSats, e.observedAt⟩ := by
  obtain ⟨current, hcur, hc, -, -⟩ := creditedReconciliation_ok h
  obtain ⟨-, canonical, hcan, hp⟩ := loadedReconciliation_eq hcur
  obtain ⟨-, hr, hrcv, hgr⟩ := restoreSettledPlan_keeps hp
  obtain ⟨-, hr', hrcv', hgr'⟩ := restoreSettledPlan_keeps hcan
  simp only [normalizeCredit, run_ok, not_or, ne_eq, not_not] at hc
  obtain ⟨id, hid, hash, -, transfer, -, receiver, hk, ⟨rfl, -, hg, rfl⟩, -⟩ := hc
  obtain ⟨requestId, paymentHash, transferId, receiverKey, grossSats, creditedSats, at_⟩ := e
  have hid' : _ = requestId := text_eq hid
  have hk' : _ = receiverKey := compressedPublicKey_eq hk
  simp only [recordedEvidence, CreditEvidence.mk.injEq, true_and, and_true]
  exact ⟨hid'.symm.trans (hr.trans hr'), hh,
    hk'.symm.trans (hrcv.trans hrcv'), hg.trans (hgr.trans hgr')⟩

lemma creditedReconciliation_valid (h : creditedReconciliation P plan e = .ok v) :
    IsId e.transferId 512 ∧ PositiveSats e.creditedSats ∧ NonnegativeSafe e.observedAt := by
  obtain ⟨current, -, hc, -, -⟩ := creditedReconciliation_ok h
  simp only [normalizeCredit, text, run_ok, not_or, ne_eq, not_not, not_lt] at hc
  obtain ⟨-, -, hash, -, transfer, ⟨ht, rfl⟩, receiver, -, -, amount, ha, -, at_, hat, -⟩ :=
    hc
  obtain ⟨rfl, hs, hnon, hne⟩ := sats_ok_iff.1 ha
  obtain ⟨rfl, hti, hti'⟩ := time_ok_iff.1 hat
  have := hne rfl
  refine ⟨⟨ht.1, ?_, ht.2.2⟩, ⟨hs, by omega⟩, hti, hti'⟩
  exact ht.2.1

lemma isId_settledTransferId {legId id : Text} {gen : Nat}
    (h : settledTransferId P plan legId gen = .ok id) : IsId id 512 := by
  unfold settledTransferId at h
  split at h
  · simp only [deriveSettledTransferId, run_ok] at h
    obtain ⟨_, -, -, -, rfl⟩ := h
    exact isId_uuidFromDigest _
  · simp only [deriveSettledRenewalTransferId, run_ok] at h
    obtain ⟨_, -, rfl⟩ := h
    exact isId_uuidFromDigest _

end

/-- `s` is `created` with some credit and some paid legs. -/
def MerchantSettlementRecord.Extends (created s : MerchantSettlementRecord) : Prop :=
  s = { created with credit := s.credit, paidLegs := s.paidLegs }

section
variable {P : Platform} {plan : SettledPlan} {created s : MerchantSettlementRecord}

lemma SettlementPaidLeg.valid_extends (he : created.Extends s) (leg : SettlementPaidLeg) :
    leg.Valid s ↔ leg.Valid created := by
  rw [he]
  rfl

lemma tracks_extends (he : created.Extends s) (legId : Text) :
    s.Tracks legId ↔ created.Tracks legId := by
  rw [he]
  rfl

variable {r : MerchantSettlementRecord}

lemma paidLegs_length_le {legs : List SettlementPaidLeg}
    (hnd : (legs.map SettlementPaidLeg.legId).Nodup) (hle : ∀ leg ∈ legs, leg.Valid r) :
    legs.length ≤ r.requiredCommerceLegIds.length + 1 := by
  have hsub : ∃ extra : Text, ∀ leg ∈ legs, leg.legId ∈ extra :: r.requiredCommerceLegIds := by
    by_cases h1 : r.schemaVersion = 1
    · refine ⟨r.feeLegId, fun leg hl => ?_⟩
      obtain ⟨-, hin, -⟩ := hle leg hl
      rcases hin with hf | hin | ⟨h3, -⟩
      · exact hf ▸ .head _
      · exact .tail _ hin
      · omega
    · refine ⟨r.organizerLegId.getD [], fun leg hl => ?_⟩
      obtain ⟨hf, hin, -⟩ := hle leg hl
      rcases hin with hf' | hin | ⟨-, ho⟩
      · exact absurd ⟨h1, hf'⟩ hf
      · exact .tail _ hin
      · rw [← ho]
        exact .head _
  obtain ⟨extra, hsub⟩ := hsub
  have hs : legs.map SettlementPaidLeg.legId ⊆ extra :: r.requiredCommerceLegIds := by
    intro id hid
    obtain ⟨leg, hl, rfl⟩ := List.mem_map.1 hid
    exact hsub leg hl
  simpa using (List.subperm_of_subset hnd hs).length_le

lemma valid_of_extends (he : created.Extends s) (hv : created.Valid)
    (hc : ∀ credit ∈ s.credit, IsId credit.transferId 512 ∧
      PositiveSats credit.creditedSats ∧ NonnegativeSafe credit.observedAt)
    (hl : ∀ leg ∈ s.paidLegs, leg.Valid created)
    (hnd : (s.paidLegs.map SettlementPaidLeg.legId).Nodup) : s.Valid := by
  obtain ⟨hver, hmer, hd, ho, hch, hm, horg, hfee, hf, hr, hh, -, hn, -, -, -⟩ := hv
  have hlen := paidLegs_length_le hnd hl
  have hl' : ∀ leg ∈ s.paidLegs, leg.Valid s :=
    fun leg hleg => (leg.valid_extends he).2 (hl leg hleg)
  rw [he] at hl' ⊢
  exact ⟨hver, hmer, hd, ho, hch, hm, horg, hfee, hf, hr, hh, hlen, hn, hc, hl', hnd⟩

lemma valid_of_created (he : created.Extends s) (hc : created.credit = none)
    (hp : created.paidLegs = []) (hv : s.Valid) : created.Valid := by
  rw [he] at hv
  obtain ⟨hver, hmer, hd, ho, hch, hm, horg, hfee, hf, hr, hh, -, hn, -, -, -⟩ := hv
  refine ⟨hver, hmer, hd, ho, hch, hm, horg, hfee, hf, hr, hh, ?_, hn, ?_, ?_, ?_⟩
  · simp [hp]
  · simp [hc]
  · simp [hp]
  · simp [hp]

section

variable (hcreate : createMerchantSettlementRecord P plan = .ok created)
include hcreate

lemma restore_extends (he : created.Extends s) :
    restoreMerchantSettlementRecord P s plan = .ok r ↔ s.Valid ∧ r = s := by
  simp only [restoreMerchantSettlementRecord, hcreate, ok_bind, run_ok, not_not]
  rw [he]
  simp only [ne_eq, not_true, or_self, not_false_eq_true, true_and, eq_comm]

lemma createMerchantSettlementRecord_empty : created.credit = none ∧ created.paidLegs = [] := by
  simp only [createMerchantSettlementRecord, run_ok] at hcreate
  obtain ⟨_, -, _, -, rfl⟩ := hcreate
  exact ⟨rfl, rfl⟩

end

end

end Conduit.CheckoutSpark
