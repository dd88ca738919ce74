import Conduit.CheckoutSpark.Reconciliation

namespace Conduit.CheckoutSpark

open Js Throwing

/-- A short receive is evidence to reconcile, never approval to reduce payouts. -/
def assertSettledFundingCoverage (plan : SettledPlan) (creditedSats : Int) : Result Unit := do
  let weights ← planWeights plan.commerceQuote plan.market plan.conduitFeePolicy
  reject (¬ IsSafeInteger creditedSats ∨
      creditedSats < weights.commerceWeightSats + weights.conduitWeightSats +
        (plan.market.map (·.organizerFeeSats)).getD 0)
    (.error "Checkout Spark funding shortfall requires reconciliation.")

variable (P : Platform)

variable (state : SettledReconciliation)

def recordSettledCredit (evidence : CreditEvidence) : Result SettledReconciliation := do
  let current ← restoreSettledReconciliation P state
  let credit ← normalizeCredit current.plan evidence
  match current.credit with
  | some known => do
    reject ({ credit with observedAt := known.observedAt } ≠ known)
      (.error "Checkout Spark settled credit conflicts with prior evidence.")
    return current
  | none => do
    assertSettledFundingCoverage current.plan credit.creditedSats
    let legs ← allocatedLegs current.plan credit.creditedSats
    return { current with
      credit := some credit
      legs := legs
      updatedAt := max current.updatedAt credit.observedAt }

/-- Persist this exact invoice and stable transfer id before provider I/O. -/
def prepareSettledLeg (input : LegIntent) : Result SettledReconciliation := do
  let current ← restoreSettledReconciliation P state
  match current.credit with
  | some credit => assertSettledFundingCoverage current.plan credit.creditedSats
  | none => .ok ()
  reject (current.plan.IsNativeLeg input.legId)
    (.error "Checkout Spark native treasury cannot prepare a Lightning invoice.")
  match current.legs.findIdx? (fun leg => leg.legId = input.legId), current.credit with
  | some position, some credit => do
    let leg ← requireSome current.legs[position]?
    let intent ← normalizeIntent P current.plan leg.legId leg.allocationSats input
      leg.generationNumber
    match leg.intent with
    | some known => do
      reject (known ≠ intent) (.error "Checkout Spark settled intent cannot be replaced.")
      return current
    | none => do
      reject (intent.preparedAt < credit.observedAt)
        (.error "Checkout Spark settled intent is stale.")
      let prepared := { leg with
        intent := some intent
        status := .prepared
        observedAt := some intent.preparedAt }
      return { current with
        legs := current.legs.set position prepared
        updatedAt := max current.updatedAt intent.preparedAt }
  | _, _ => .error (.error "Checkout Spark settled leg is not funded.")

structure LegEvidence where
  (legId transferId paymentHash : Text)
  status : LegStatus
  observedAt : Int
  finalFeeSats : Option Int
  finalDebitSats : Option Int

/-- `sats(value!, label, allowZero)`. -/
def requiredSats (value : Option Int) (label : String) (allowZero : Bool) : Result Int :=
  match value with
  | some v => sats v label allowZero
  | none => .error (invalidText label)

variable (leg : LegProgress)

def evidenceReceipt (intent : LegIntent) (evidence : LegEvidence) :
    Result (Option Int × Option Int) :=
  if evidence.status = .paid then do
    let fee ← requiredSats evidence.finalFeeSats "Checkout Spark final fee" true
    let debit ← requiredSats evidence.finalDebitSats "Checkout Spark final debit" false
    reject (debit ≠ intent.invoiceAmountSats + fee ∨ fee > intent.maxFeeSats ∨
        debit > leg.allocationSats.getD 0)
      (.error "Checkout Spark paid leg exceeded allocation.")
    return (some fee, some debit)
  else do
    reject (evidence.finalFeeSats ≠ none ∨ evidence.finalDebitSats ≠ none)
      (.error "Checkout Spark unconfirmed fee is invalid.")
    return (none, none)

def assertLegTransition (status next : LegStatus) : Result Unit := do
  reject (status = .paid ∧ next ≠ .paid)
    (.error "Checkout Spark paid leg cannot become payable again.")
  reject (status = .terminalFailure ∧ next ≠ .terminalFailure ∧ next ≠ .paid)
    (.error "Checkout Spark terminal leg cannot be retried.")
  reject (status ≠ .prepared ∧ next = .submitted ∧ status ≠ .submitted)
    (.error "Checkout Spark uncertain leg cannot be resubmitted.")

def recordSettledLegStatus (evidence : LegEvidence) : Result SettledReconciliation := do
  let current ← restoreSettledReconciliation P state
  match current.legs.findIdx? (fun leg => leg.legId = evidence.legId) with
  | none => .error (.error "Checkout Spark settled leg evidence is out of scope.")
  | some position => do
    let leg ← requireSome current.legs[position]?
    match leg.intent with
    | none => .error (.error "Checkout Spark settled leg evidence is out of scope.")
    | some intent => do
      reject (evidence.transferId ≠ intent.transferId ∨
          evidence.paymentHash ≠ intent.paymentHash ∨ evidence.status = .unprepared ∨
          evidence.status = .prepared)
        (.error "Checkout Spark settled leg evidence is out of scope.")
      let observedAt ← time evidence.observedAt "Outgoing observation time"
      reject (observedAt < intent.preparedAt ∨ ∃ previous ∈ leg.observedAt, observedAt < previous)
        (.error "Checkout Spark settled leg observation is stale.")
      assertLegTransition leg.status evidence.status
      let receipt ← evidenceReceipt leg intent evidence
      if leg.status = evidence.status ∧ leg.finalFeeSats = receipt.1 ∧
          leg.finalDebitSats = receipt.2 then
        return current
      else
        let recorded := { leg with
          status := evidence.status
          observedAt := some observedAt
          finalFeeSats := receipt.1
          finalDebitSats := receipt.2 }
        return { current with
          legs := current.legs.set position recorded
          updatedAt := max current.updatedAt observedAt }

structure RenewInput where
  legId : Text
  intent : LegIntent
  proof : ReturnedProof
  nowMs : Int

def unpaidAllocationSats (legs : List LegProgress) : Int :=
  (legs.map fun leg => if leg.status = .paid then 0 else leg.allocationSats.getD 0).sum

def RenewAllowed (current : SettledReconciliation) (input : RenewInput)
    (leg : LegProgress) (intent : LegIntent) : Prop :=
  leg.status ≠ .paid ∧ leg.generationNumber = 0 ∧ IsSafeInteger input.nowMs ∧
    current.plan.takeoverAt ≤ input.nowMs ∧ current.updatedAt ≤ input.nowMs ∧
    input.intent.preparedAt = input.nowMs ∧
    ¬ SendWindowOpenAt P intent.paymentRequest input.nowMs
  deriving Decidable

def archivedGeneration (intent : LegIntent) (closure : ReturnClosure) : ClosedGeneration where
  intent := intent
  status := leg.status
  observedAt := leg.observedAt.getD 0
  closure := closure

def renewedLeg (archived : ClosedGeneration) (intent : LegIntent) : LegProgress :=
  { leg with
    generation := some 1
    closedGenerations := some [archived]
    intent := some intent
    status := .prepared
    observedAt := some intent.preparedAt
    finalFeeSats := none
    finalDebitSats := none }

def versionedLeg : LegProgress :=
  { leg with generation := some leg.generationNumber, closedGenerations := some leg.closed }

/-- Advance only after exact positive full return. -/
def renewSettledLeg (input : RenewInput) : Result SettledReconciliation := do
  let current ← restoreSettledReconciliation P state
  match current.credit, current.leg input.legId, current.plan.recipient input.legId with
  | some _, some leg, some recipient =>
    match leg.intent, leg.allocationSats with
    | some legIntent, some allocation => do
      reject (¬ RenewAllowed P current input leg legIntent)
        (.error "Checkout Spark payout cannot be renewed.")
      let closure ← assertSettledReturnedProof P input.proof current.plan {
        generation := none
        walletId := current.plan.walletId
        network := current.plan.network
        legId := leg.legId
        recipientId := recipient.recipientId
        allocationSats := allocation
        unpaidAllocationSats := unpaidAllocationSats current.legs
        intent := legIntent } input.nowMs
      reject (closure.observedAt < leg.observedAt.getD legIntent.preparedAt)
        (.error "Checkout Spark returned transfer observation is stale.")
      reject (legIntent.publicZap ≠ none ∧ input.intent.publicZap = none)
        (.error "Checkout Spark public payout renewal requires fresh buyer signing.")
      let intent ← normalizeIntent P current.plan leg.legId leg.allocationSats input.intent 1
      let archived := archivedGeneration leg legIntent closure
      restoreSettledReconciliation P { current with
        schemaVersion := if current.plan.schemaVersion = 5 then 6
          else if current.plan.schemaVersion = 4 then 5 else 4
        legs := current.legs.map fun item =>
          if item.legId = input.legId then renewedLeg item archived intent else versionedLeg item
        updatedAt := input.nowMs }
    | _, _ => .error (.error "Checkout Spark payout cannot be renewed.")
  | _, _, _ => .error (.error "Checkout Spark payout cannot be renewed.")

def SettlementPaidLeg.Matches (paid : SettlementPaidLeg) (leg : LegProgress) : Prop :=
  paid.recipientVerified = true ∧
    some paid.transferId = leg.intent.map (·.transferId) ∧
    some paid.allocationSats = leg.allocationSats ∧
    some paid.finalDebitSats = leg.finalDebitSats ∧ some paid.finalFeeSats = leg.finalFeeSats
  deriving Decidable

def requiredPayoutIds (plan : SettledPlan) (record : MerchantSettlementRecord) : List Text :=
  if plan.schemaVersion = 5 then
    (plan.recipients.filter fun r => r.kind ≠ .conduit).map (·.legId)
  else record.requiredCommerceLegIds

variable (input : SettledReconciliation)

/-- Credit-attributed residual only. -/
def deriveNativeTreasuryBudget
    (settlement : MerchantSettlementRecord) : Result NativeTreasuryBudget := do
  let state ← restoreSettledReconciliation P input
  let record ← restoreMerchantSettlementRecord P settlement state.plan
  let budget ← budgetFromExactState P state
  let credit ← requireSome state.credit
  reject (¬ ∃ known ∈ record.credit, known.transferId = credit.transferId ∧
      known.creditedSats = credit.creditedSats)
    nativeInvalid
  reject (∃ legId ∈ requiredPayoutIds state.plan record, ¬ ∃ leg ∈ state.leg legId,
      ∃ paid ∈ record.paidLegs.find? (fun (p : SettlementPaidLeg) => p.legId = legId),
        paid.Matches leg)
    nativeInvalid
  return budget

def mirroredLeg (treasury : NativeTreasuryFinalization) : LegProgress :=
  { leg with
    status := treasury.status
    observedAt := treasury.observedAt
    finalFeeSats := treasury.finalFeeSats
    finalDebitSats := treasury.finalDebitSats }

def mirror (treasury : NativeTreasuryFinalization) : Result SettledReconciliation := do
  let fee ← requireSome state.plan.feeRecipient
  restoreSettledReconciliation P { state with
    treasuryFinalization := some treasury
    legs := state.legs.map fun leg =>
      if leg.legId = fee.legId then mirroredLeg leg treasury else leg
    updatedAt := max state.updatedAt (treasury.observedAt.getD state.updatedAt) }

def prepareNativeTreasury
    (settlement : MerchantSettlementRecord) (preparedAt : Int) : Result SettledReconciliation := do
  let state ← restoreSettledReconciliation P input
  let budget ← deriveNativeTreasuryBudget P state settlement
  reject (budget.authorizedDebitSats = 0)
    (.error "Checkout Spark native treasury has zero attributed remainder.")
  let known ← requireSome state.treasuryFinalization
  if known.intent ≠ none then return state
  else
    let native ← requireSome state.plan.nativeTreasury
    mirror P state { createNativeTreasuryFinalization with
      status := .prepared
      observedAt := some preparedAt
      intent := some {
        budget := budget
        invoiceId := native.invoiceId
        invoiceRequest := native.invoiceRequest
        amountSats := budget.authorizedDebitSats
        preparedAt := preparedAt } }

structure NativeTreasuryEvidence where
  invoiceId : Text
  status : LegStatus
  providerTransferId : Option Text
  observedAt : Int
  (finalFeeSats finalDebitSats : Option Int)

def ReferenceConflict (previous next : Option Text) : Prop :=
  ∃ p ∈ previous, ∃ n ∈ next, p ≠ [] ∧ n ≠ [] ∧ n ≠ p
  deriving Decidable

def recordNativeTreasuryStatus
    (evidence : NativeTreasuryEvidence) : Result SettledReconciliation := do
  let state ← restoreSettledReconciliation P input
  match state.treasuryFinalization with
  | none => .error nativeInvalid
  | some previous =>
    match previous.intent with
    | none => .error nativeInvalid
    | some intent => do
      reject (evidence.invoiceId ≠ intent.invoiceId ∨
          (∃ known ∈ previous.observedAt, evidence.observedAt < known) ∨
          ReferenceConflict previous.providerTransferId evidence.providerTransferId)
        nativeInvalid
      let next : NativeTreasuryFinalization := { previous with
        status := evidence.status
        providerTransferId := evidence.providerTransferId.or previous.providerTransferId
        observedAt := some evidence.observedAt
        finalFeeSats := evidence.finalFeeSats
        finalDebitSats := evidence.finalDebitSats }
      reject (previous.status = .paid ∧ (next.status ≠ .paid ∨
          next.finalFeeSats ≠ previous.finalFeeSats ∨
          next.finalDebitSats ≠ previous.finalDebitSats))
        nativeInvalid
      mirror P state next

end Conduit.CheckoutSpark
