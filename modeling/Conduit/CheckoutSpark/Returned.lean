import Conduit.CheckoutSpark.State

namespace Conduit.CheckoutSpark

open Js Throwing

structure OutgoingTarget where
  generation : Option Nat
  walletId : Text
  network : Network
  (legId recipientId : Text)
  allocationSats : Int
  unpaidAllocationSats : Int
  intent : LegIntent

/-- The facts a native adapter proved. -/
structure ReturnedProofFacts where
  closure : ReturnClosure
  (allocationSats availableSats : Int)

/-- An opaque token: the facts of the process that issued it, or nothing for any other value. -/
abbrev ReturnedProof := Option ReturnedProofFacts

def returnedInvalid : Failure := .error "Checkout Spark returned transfer proof is unavailable."

variable (P : Platform)

def returnedIntentDigest (plan : SettledPlan) (intent : LegIntent) : Text :=
  P.digest (.arr [.str "conduit:checkout-spark-returned-intent:v1", .str plan.planDigest,
    .str plan.walletId, .str plan.network.name, .str intent.legId, .str intent.transferId,
    .str intent.paymentRequest, .str intent.paymentHash, .num intent.invoiceAmountSats,
    .num intent.maxFeeSats, .num intent.preparedAt])

/-- The request that the signed plan freezes, never one from UI state. -/
def requireSettledExactOutgoingRequest (plan : SettledPlan)
    (target : OutgoingTarget) : Result Unit :=
  match plan.recipient target.legId with
  | none => .error (.error "Checkout Spark settled payout differs from its plan.")
  | some recipient => do
    reject ((plan.schemaVersion ≠ 3 ∧ plan.schemaVersion ≠ 4 ∧ plan.schemaVersion ≠ 5) ∨
        target.walletId ≠ plan.walletId ∨ target.network ≠ plan.network ∨
        (plan.IsNativeTreasuryPlan ∧ recipient.kind = .conduit) ∨
        target.recipientId ≠ recipient.recipientId ∨ target.intent.legId ≠ recipient.legId ∨
        (target.generation ≠ none ∧ target.generation ≠ some 0 ∧ target.generation ≠ some 1))
      (.error "Checkout Spark settled payout differs from its plan.")
    let transferId ← settledTransferId P plan recipient.legId
      (if target.generation = some 1 then 1 else 0)
    reject (target.intent.transferId ≠ transferId ∨ ¬ IsSafeInteger target.allocationSats ∨
        target.allocationSats ≤ 0 ∨
        target.intent.invoiceAmountSats + target.intent.maxFeeSats ≠ target.allocationSats ∨
        ¬ IsSafeInteger target.unpaidAllocationSats ∨
        target.unpaidAllocationSats < target.allocationSats ∨
        target.unpaidAllocationSats > plan.funding.grossFundingSats ∨
        decodeLightningInvoicePaymentHash P target.intent.paymentRequest ≠
          some target.intent.paymentHash)
      (.error "Checkout Spark settled payout differs from its plan.")

def restoreSettledReturnClosure (value : ReturnClosure) (plan : SettledPlan)
    (intent : LegIntent) : Result ReturnClosure := do
  reject (value.planDigest ≠ plan.planDigest ∨ value.legId ≠ intent.legId ∨
      value.intentDigest ≠ returnedIntentDigest P plan intent ∨
      value.transferId ≠ intent.transferId ∨ value.paymentHash ≠ intent.paymentHash ∨
      trim value.requestId = [] ∨ length value.requestId > 512 ∨
      ¬ IsSafeInteger value.debitedSats ∨ value.debitedSats < 0 ∨
      value.debitedSats < intent.invoiceAmountSats ∨
      value.debitedSats > intent.invoiceAmountSats + intent.maxFeeSats ∨
      value.returnedSats ≠ value.debitedSats ∨ value.netDebitSats ≠ 0 ∨
      ¬ IsSafeInteger value.observedAt ∨ value.observedAt < 0 ∨
      value.observedAt < intent.preparedAt)
    returnedInvalid
  return value

def assertSettledReturnedProof (proof : ReturnedProof) (plan : SettledPlan)
    (target : OutgoingTarget) (nowMs : Int) : Result ReturnClosure := do
  requireSettledExactOutgoingRequest P plan target
  reject (target.generation = some 1) returnedInvalid
  match proof with
  | none => .error returnedInvalid
  | some observed =>
    reject (observed.allocationSats ≠ target.allocationSats ∨
        observed.availableSats < target.unpaidAllocationSats ∨ ¬ IsSafeInteger nowMs ∨ nowMs < 0 ∨
        observed.closure.observedAt > nowMs ∨ nowMs - observed.closure.observedAt > 5000)
      returnedInvalid
    restoreSettledReturnClosure P observed.closure plan target.intent

lemma restoreSettledReturnClosure_eq {P : Platform} {v c : ReturnClosure} {plan : SettledPlan}
    {intent : LegIntent} (h : restoreSettledReturnClosure P v plan intent = .ok c) :
    c = v ∧ v.netDebitSats = 0 := by
  simp only [restoreSettledReturnClosure, run_ok, not_or, not_not, ne_eq] at h
  obtain ⟨⟨-, -, -, -, -, -, -, -, -, -, -, -, hn, -⟩, rfl⟩ := h
  exact ⟨rfl, hn⟩

end Conduit.CheckoutSpark
