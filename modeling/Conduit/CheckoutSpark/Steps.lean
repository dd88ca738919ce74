import Conduit.CheckoutSpark.Funded
import Conduit.Runs

namespace Conduit.CheckoutSpark

open Js Throwing

inductive SettledOp where
  | credit (evidence : CreditEvidence)
  | prepare (input : LegIntent)
  | renew (input : RenewInput)
  | status (evidence : LegEvidence)
  | prepareNative (settlement : MerchantSettlementRecord) (preparedAt : Int)
  | nativeStatus (evidence : NativeTreasuryEvidence)

def SettledOp.apply (P : Platform) (s : SettledReconciliation) :
    SettledOp → Result SettledReconciliation
  | .credit evidence => recordSettledCredit P s evidence
  | .prepare input => prepareSettledLeg P s input
  | .renew input => renewSettledLeg P s input
  | .status evidence => recordSettledLegStatus P s evidence
  | .prepareNative settlement preparedAt => prepareNativeTreasury P s settlement preparedAt
  | .nativeStatus evidence => recordNativeTreasuryStatus P s evidence

section
variable {P : Platform} {s t : SettledReconciliation}

structure Credits (P : Platform) (c : SettledReconciliation) (evidence credit : CreditEvidence)
    (legs : List LegProgress) : Prop where
  fresh : c.credit = none
  normalized : normalizeCredit c.plan evidence = .ok credit
  covered : assertSettledFundingCoverage c.plan credit.creditedSats = .ok ()
  allocated : allocatedLegs c.plan credit.creditedSats = .ok legs

lemma recordSettledCredit_cases {evid : CreditEvidence} (h : recordSettledCredit P s evid = .ok t) :
    ∃ c, Restores P s c ∧ (t = c ∨ ∃ credit legs, Credits P c evid credit legs ∧
      t = { c with credit := some credit, legs, updatedAt := max c.updatedAt credit.observedAt }) := by
  simp only [recordSettledCredit, bind_ok, restore_ok_iff] at h
  obtain ⟨c, hc, credit, hcr, h⟩ := h
  refine ⟨c, hc, ?_⟩
  split at h
  · simp only [rejects_ok, pure_ok] at h
    exact .inl h.2.symm
  · rename_i hn
    simp only [run_ok] at h
    obtain ⟨u, hcov, legs, hl, rfl⟩ := h
    exact .inr ⟨credit, legs, ⟨hn, hcr, hcov, hl⟩, rfl⟩

structure Prepares (P : Platform) (c : SettledReconciliation) (input : LegIntent) (i : Nat)
    (leg : LegProgress) (intent : LegIntent) (credit : CreditEvidence) : Prop where
  credited : c.credit = some credit
  at_ : c.legs[i]? = some leg
  ordinary : ¬ c.plan.IsNativeLeg leg.legId
  fresh : leg.intent = none
  normalized : normalizeIntent P c.plan leg.legId leg.allocationSats input leg.generationNumber =
    .ok intent
  ordered : credit.observedAt ≤ intent.preparedAt

def prepareLeg (leg : LegProgress) (intent : LegIntent) : LegProgress :=
  { leg with
    intent := some intent
    status := .prepared
    observedAt := some intent.preparedAt }

lemma getElem?_of_findIdx? {legs : List LegProgress} {legId : Text} {i : Nat} {leg : LegProgress}
    (h : legs.findIdx? (fun l => l.legId = legId) = some i) (hl : legs[i]? = some leg) :
    leg.legId = legId := by
  obtain ⟨hi, hid, -⟩ := List.findIdx?_eq_some_iff_getElem.1 h
  obtain ⟨-, rfl⟩ := List.getElem?_eq_some_iff.1 hl
  simpa using hid

lemma prepareSettledLeg_cases {input : LegIntent} (h : prepareSettledLeg P s input = .ok t) :
    ∃ c, Restores P s c ∧ (t = c ∨ ∃ i leg intent credit, Prepares P c input i leg intent credit ∧
      t = { c with
        legs := c.legs.set i (prepareLeg leg intent)
        updatedAt := max c.updatedAt intent.preparedAt }) := by
  simp only [prepareSettledLeg, bind_ok, restore_ok_iff] at h
  obtain ⟨c, hc, h⟩ := h
  refine ⟨c, hc, ?_⟩
  cases hcr : c.credit with
  | none =>
    simp only [hcr, ok_bind, rejects_ok] at h
    obtain ⟨-, h⟩ := h
    split at h
    · rename_i heq
      cases heq
    · cases h
  | some credit =>
    simp only [hcr, run_ok] at h
    obtain ⟨u, -, hnat, h⟩ := h
    split at h
    · rename_i position credit' hf heq
      obtain rfl : credit = credit' := Option.some.inj heq
      simp only [bind_ok, requireSome_ok] at h
      obtain ⟨leg, hl, intent, hi, h⟩ := h
      have hid := getElem?_of_findIdx? hf hl
      split at h
      · simp only [rejects_ok, pure_ok] at h
        exact .inl h.2.symm
      · rename_i hn
        simp only [rejects_ok, pure_ok, not_lt] at h
        obtain ⟨ho, rfl⟩ := h
        exact .inr ⟨position, leg, intent, credit, ⟨hcr, hl, hid ▸ hnat, hn, hi, ho⟩, rfl⟩
    · cases h

structure Observes (c : SettledReconciliation) (evidence : LegEvidence) (i : Nat)
    (leg : LegProgress) (intent : LegIntent) (fee debit : Option Int) : Prop where
  at_ : c.legs[i]? = some leg
  legId : leg.legId = evidence.legId
  intent_eq : leg.intent = some intent
  final : evidence.status ≠ .unprepared ∧ evidence.status ≠ .prepared
  time : NonnegativeSafe evidence.observedAt ∧ intent.preparedAt ≤ evidence.observedAt
  transition : assertLegTransition leg.status evidence.status = .ok ()
  receipt : evidenceReceipt leg intent evidence = .ok (fee, debit)
  changes : ¬ (leg.status = evidence.status ∧ leg.finalFeeSats = fee ∧ leg.finalDebitSats = debit)

def observeLeg (leg : LegProgress) (evidence : LegEvidence) (fee debit : Option Int) :
    LegProgress :=
  { leg with
    status := evidence.status
    observedAt := some evidence.observedAt
    finalFeeSats := fee
    finalDebitSats := debit }

lemma recordSettledLegStatus_cases {evid : LegEvidence}
    (h : recordSettledLegStatus P s evid = .ok t) :
    ∃ c, Restores P s c ∧ (t = c ∨ ∃ i leg intent fee debit,
      Observes c evid i leg intent fee debit ∧
      t = { c with
        legs := c.legs.set i (observeLeg leg evid fee debit)
        updatedAt := max c.updatedAt evid.observedAt }) := by
  simp only [recordSettledLegStatus, bind_ok, restore_ok_iff] at h
  obtain ⟨c, hc, h⟩ := h
  refine ⟨c, hc, ?_⟩
  split at h
  · cases h
  · rename_i i hfi
    simp only [bind_ok, requireSome_ok] at h
    obtain ⟨leg, hl, h⟩ := h
    split at h
    · cases h
    · rename_i intent hi
      simp only [run_ok, time_ok_iff, not_or, not_lt] at h
      obtain ⟨⟨-, -, hf⟩, observedAt, ⟨rfl, ht⟩, ⟨ha, -⟩, u, htr, ⟨fee, debit⟩, hr, h⟩ := h
      split at h
      · exact .inl (Except.ok.inj h).symm
      · rename_i hchg
        exact .inr ⟨i, leg, intent, fee, debit, ⟨hl, getElem?_of_findIdx? hfi hl, hi,
          hf, ⟨ht, ha⟩, htr, hr, hchg⟩, (Except.ok.inj h).symm⟩

structure Renews (P : Platform) (c : SettledReconciliation) (input : RenewInput)
    (leg : LegProgress) (legIntent intent : LegIntent) (closure : ReturnClosure) : Prop where
  leg_eq : c.leg input.legId = some leg
  intent_eq : leg.intent = some legIntent
  allowed : RenewAllowed P c input leg legIntent
  normalized : normalizeIntent P c.plan leg.legId leg.allocationSats input.intent 1 = .ok intent

def renewedState (c : SettledReconciliation) (input : RenewInput) (leg : LegProgress)
    (legIntent intent : LegIntent) (closure : ReturnClosure) : SettledReconciliation :=
  { c with
    schemaVersion := if c.plan.schemaVersion = 5 then 6
      else if c.plan.schemaVersion = 4 then 5 else 4
    legs := c.legs.map fun item =>
      if item.legId = input.legId then
        renewedLeg item (archivedGeneration leg legIntent closure) intent
      else versionedLeg item
    updatedAt := input.nowMs }

lemma renewSettledLeg_cases {input : RenewInput} (h : renewSettledLeg P s input = .ok t) :
    ∃ c leg legIntent intent closure, Restores P s c ∧
      Renews P c input leg legIntent intent closure ∧
      Restores P (renewedState c input leg legIntent intent closure) t := by
  simp only [renewSettledLeg, bind_ok, restore_ok_iff] at h
  obtain ⟨c, hc, h⟩ := h
  split at h
  · rename_i credit leg recipient hcred hl hrcp
    split at h
    · rename_i legIntent allocation hi halloc
      simp only [run_ok, restore_ok_iff, not_not] at h
      obtain ⟨ha, closure, -, -, -, intent, hn, ht⟩ := h
      exact ⟨c, leg, legIntent, intent, closure, hc, ⟨hl, hi, ha, hn⟩, ht⟩
    · cases h
  · cases h

def mirroredState (c : SettledReconciliation) (fee : SettledRecipient)
    (treasury : NativeTreasuryFinalization) : SettledReconciliation :=
  { c with
    treasuryFinalization := some treasury
    legs := c.legs.map fun leg =>
      if leg.legId = fee.legId then mirroredLeg leg treasury else leg
    updatedAt := max c.updatedAt (treasury.observedAt.getD c.updatedAt) }

lemma mirror_ok_iff {c : SettledReconciliation} {treasury : NativeTreasuryFinalization} :
    mirror P c treasury = .ok t ↔ ∃ fee, c.plan.feeRecipient = some fee ∧
      Restores P (mirroredState c fee treasury) t := by
  simp only [mirror, bind_ok, requireSome_ok, restore_ok_iff]
  rfl

lemma prepareNativeTreasury_cases {settlement : MerchantSettlementRecord} {preparedAt : Int}
    (h : prepareNativeTreasury P s settlement preparedAt = .ok t) :
    ∃ c, Restores P s c ∧ (t = c ∨ ∃ fee known treasury, c.treasuryFinalization = some known ∧
      known.intent = none ∧ c.plan.feeRecipient = some fee ∧
      Restores P (mirroredState c fee treasury) t) := by
  simp only [prepareNativeTreasury, run_ok, restore_ok_iff, requireSome_ok] at h
  obtain ⟨c, hc, budget, -, -, known, hkn, h⟩ := h
  refine ⟨c, hc, ?_⟩
  split at h
  · exact .inl (Except.ok.inj h).symm
  · rename_i hn
    simp only [bind_ok, requireSome_ok, mirror_ok_iff] at h
    obtain ⟨native, -, fee, hf, ht⟩ := h
    exact .inr ⟨fee, known, _, hkn, not_not.1 hn, hf, ht⟩

lemma recordNativeTreasuryStatus_cases {evid : NativeTreasuryEvidence}
    (h : recordNativeTreasuryStatus P s evid = .ok t) :
    ∃ c fee prev treasury, Restores P s c ∧ c.treasuryFinalization = some prev ∧
      (prev.status = .paid → treasury.status = .paid ∧
        treasury.finalFeeSats = prev.finalFeeSats ∧
        treasury.finalDebitSats = prev.finalDebitSats) ∧
      c.plan.feeRecipient = some fee ∧ Restores P (mirroredState c fee treasury) t := by
  simp only [recordNativeTreasuryStatus, bind_ok, restore_ok_iff] at h
  obtain ⟨c, hc, h⟩ := h
  split at h
  · cases h
  · rename_i prev hpr
    split at h
    · cases h
    · rename_i intent hitt
      simp only [rejects_ok, mirror_ok_iff] at h
      obtain ⟨-, hpa, fee, hf, ht⟩ := h
      refine ⟨c, fee, prev, _, hc, hpr, ?_, hf, ht⟩
      intro hp
      simp only [hp, true_and, not_or, not_not] at hpa
      exact hpa

end

end Conduit.CheckoutSpark
