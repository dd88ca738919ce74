import Conduit.Orders.Transactions

namespace Conduit.Orders

open Js

def interruptedBeforeWalletError : Text :=
  "Payment setup was interrupted before a wallet request was sent."

def interruptedAfterWalletError : Text :=
  "Payment was interrupted after the invoice reached a wallet. Check that wallet before trying another payment path."

variable (attempt : StoredPaymentAttempt)

variable (lifecycle : OrderLifecycle)

/-- `isMatchingPaymentAttemptForLifecycle`. -/
def StoredPaymentAttempt.Matches : Prop :=
  Present lifecycle.invoice ∧ attempt.orderId = lifecycle.orderId ∧
    attempt.buyerPubkey = lifecycle.buyerPubkey ∧
    attempt.merchantPubkey = lifecycle.merchantPubkey ∧
    attempt.amountMsats = lifecycle.totalMsats ∧ attempt.currency = "SATS" ∧
    attempt.invoice = lifecycle.invoice
  deriving Decidable

/-- `isConclusivePaymentAttemptForLifecycle`. -/
def StoredPaymentAttempt.Conclusive (lifecycle : OrderLifecycle) : Prop :=
  attempt.Matches lifecycle ∧
    (Present attempt.preimage ∨
      (Present attempt.zapReceiptId ∧ Present attempt.zapRequestId ∧
        attempt.zapRequestId = lifecycle.zapRequestId))
  deriving Decidable

def conclusiveAttempt (attempt : Option StoredPaymentAttempt) (lifecycle : OrderLifecycle) :
    Option StoredPaymentAttempt :=
  attempt.filter fun attempt => decide (attempt.Conclusive lifecycle)

def OrderLifecycle.HasEvidence : Prop :=
  Present lifecycle.preimage ∨ (Present lifecycle.zapReceiptId ∧ Present lifecycle.zapRequestId)
  deriving Decidable

/-- `hasConclusiveLifecyclePaymentProof`. -/
def OrderLifecycle.Conclusive : Prop :=
  Present lifecycle.invoice ∧ lifecycle.HasEvidence
  deriving Decidable

/-- `attempt.proofDeliveryStatus === "sent" ? "sent" : "retry_needed"`. -/
def StoredPaymentAttempt.delivery : OrderProofDeliveryStatus :=
  if attempt.proofDeliveryStatus = .sent then .sent else .retryNeeded

inductive InterruptedPaymentStatus where
  | recoveredBeforePayment
  | restoredPaid
  | markedAmbiguous
  | notInterrupted
  | claimMismatch
  | claimActive

/-- The evidence of the attempt, as `reconcileInterruptedOrderPayment` restores it. -/
def restoredFromAttempt : OrderLifecyclePatch where
  paymentClaimId := some none
  invoiceStatus := some .received
  paymentStatus := some .paid
  proofDeliveryStatus := some attempt.delivery
  invoice := some attempt.invoice
  paymentHash := some attempt.paymentHash
  preimage := some attempt.preimage
  feeMsats := some attempt.feeMsats
  zapRequestId := some attempt.zapRequestId
  zapReceiptId := if Present attempt.zapReceiptId then some attempt.zapReceiptId else none
  zapReceiptStatus := if Present attempt.zapReceiptId then some .observed else none
  lastError := some none

def reconcileInterruptedOrderPayment (paymentClaimId : Text) (now : Int)
    (attempt : Option StoredPaymentAttempt) (lifecycle : OrderLifecycle) :
    Reply InterruptedPaymentStatus :=
  if paymentClaimId = [] ∨ lifecycle.paymentClaimId ≠ some paymentClaimId then
    .kept .claimMismatch
  else if now < lifecycle.paymentClaimLeaseExpiresAt.getD now then .kept .claimActive
  else
    match conclusiveAttempt attempt lifecycle with
    | some attempt =>
      .putBoth .restoredPaid (mergeOrderLifecyclePatch lifecycle (restoredFromAttempt attempt) now)
        { attempt with
          proofDeliveryStatus := attempt.delivery
          updatedAt := now }
    | none =>
      if lifecycle.Conclusive then
        .put .restoredPaid (mergeOrderLifecyclePatch lifecycle
          { paymentClaimId := some none
            invoiceStatus := some .received
            paymentStatus := some .paid
            proofDeliveryStatus :=
              some (if lifecycle.proofDeliveryStatus = .sent then .sent else .retryNeeded)
            lastError := some none } now)
      else if lifecycle.invoiceStatus = .requesting ∧
          (lifecycle.paymentStatus = .notStarted ∨ lifecycle.paymentStatus = .paying) ∧
          ¬ Present lifecycle.invoice ∧ ¬ Present lifecycle.preimage ∧
          ¬ Present lifecycle.paymentHash ∧ ¬ Present lifecycle.zapReceiptId ∧
          attempt.isNone = true then
        .put .recoveredBeforePayment (mergeOrderLifecyclePatch lifecycle
          { paymentClaimId := some none
            invoiceStatus := some .failed
            paymentStatus := some .failed
            proofDeliveryStatus := some .notStarted
            zapReceiptStatus := some .notApplicable
            invoice := some none
            paymentHash := some none
            preimage := some none
            feeMsats := some none
            zapRequestId := some none
            zapRequestCreatedAt := some none
            zapReceiptId := some none
            zapReceiptRelayUrls := some none
            zapLnurl := some none
            zapReceiptPubkey := some none
            invoiceExpiresAt := some none
            zapReceiptObservationDeadline := some none
            lastError := some (some interruptedBeforeWalletError) } now)
      else if Present lifecycle.invoice ∧
          (lifecycle.invoiceStatus = .requesting ∨ lifecycle.invoiceStatus = .received) ∧
          (lifecycle.paymentStatus = .notStarted ∨ lifecycle.paymentStatus = .paying) then
        .put .markedAmbiguous (mergeOrderLifecyclePatch lifecycle
          { paymentClaimId := some none
            invoiceStatus := some .received
            paymentStatus := some .ambiguous
            lastError := some (some interruptedAfterWalletError) } now)
      else .kept .notInterrupted

inductive InterruptedDeliveryStatus where
  | recovered
  | claimActive
  | claimMismatch
  | notInterrupted

def reconcileInterruptedOrderProofDelivery (proofDeliveryClaimId : Text) (now : Int)
    (attempt : Option StoredPaymentAttempt) (lifecycle : OrderLifecycle) :
    Reply InterruptedDeliveryStatus :=
  if lifecycle.paymentStatus ≠ .paid ∨ lifecycle.proofDeliveryStatus ≠ .pending ∨
      ¬ Present lifecycle.proofDeliveryClaimId then
    .kept .notInterrupted
  else if proofDeliveryClaimId = [] ∨
      lifecycle.proofDeliveryClaimId ≠ some proofDeliveryClaimId then
    .kept .claimMismatch
  else if now < lifecycle.proofDeliveryClaimLeaseExpiresAt.getD 0 then .kept .claimActive
  else if lifecycle.paymentClaimId = lifecycle.proofDeliveryClaimId ∧
      now < lifecycle.paymentClaimLeaseExpiresAt.getD 0 then
    .kept .claimActive
  else
    let proofWasSent := attempt.any fun attempt =>
      decide (attempt.Matches lifecycle) && decide (attempt.proofDeliveryStatus = .sent)
    .put .recovered (mergeOrderLifecyclePatch lifecycle
      { paymentClaimId := some none
        proofDeliveryClaimId := some none
        proofDeliveryStatus := some (if proofWasSent = true then .sent else .retryNeeded) } now)

inductive LegacyInterruptedStatus where
  | recoveredBeforePayment
  | restoredPaid
  | markedAmbiguous
  | notLegacyInterrupted
  | notStale

def isLegacyInterruptedOrderPayment : Bool :=
  (decide (lifecycle.paymentStatus = .paying) &&
    (decide (lifecycle.invoiceStatus = .requesting) ||
      decide (lifecycle.invoiceStatus = .received))) ||
  (decide (lifecycle.paymentStatus = .paid) &&
    decide (lifecycle.proofDeliveryStatus = .pending) &&
    decide (¬ Present lifecycle.proofDeliveryClaimId))

def LegacyInterrupted (now : Int) : Prop :=
  ¬ Present lifecycle.paymentClaimId ∧ ¬ Present lifecycle.proofDeliveryClaimId ∧
    isLegacyInterruptedOrderPayment lifecycle = true ∧
    legacyOrderPaymentRecoveryGraceMs ≤ now - lifecycle.updatedAt

def restoredPatch : OrderLifecyclePatch where
  invoiceStatus := some .received
  paymentStatus := some .paid
  proofDeliveryStatus := some .retryNeeded
  lastError := some none

/-- The evidence of the attempt, as `reconcileLegacyInterruptedOrderPayment` restores it: without
its receipt. -/
def restoredFromLegacyAttempt : OrderLifecyclePatch where
  invoiceStatus := some .received
  paymentStatus := some .paid
  proofDeliveryStatus := some attempt.delivery
  invoice := some attempt.invoice
  paymentHash := some attempt.paymentHash
  preimage := some attempt.preimage
  feeMsats := some attempt.feeMsats
  zapRequestId := some attempt.zapRequestId
  lastError := some none

def recoverLegacyInterruptedOrderPayment (now : Int) (attempt : Option StoredPaymentAttempt)
    (lifecycle : OrderLifecycle) : Reply LegacyInterruptedStatus :=
  match conclusiveAttempt attempt lifecycle with
  | some attempt =>
    .putBoth .restoredPaid
      (mergeOrderLifecyclePatch lifecycle (restoredFromLegacyAttempt attempt) now)
      { attempt with
        proofDeliveryStatus := attempt.delivery
        updatedAt := now }
  | none =>
    if lifecycle.Conclusive then
      .put .restoredPaid (mergeOrderLifecyclePatch lifecycle restoredPatch now)
    else if lifecycle.paymentStatus = .paid ∧ lifecycle.proofDeliveryStatus = .pending ∧
        Present lifecycle.invoice ∧ lifecycle.zapSigner = none then
      .put .restoredPaid (mergeOrderLifecyclePatch lifecycle restoredPatch now)
    else if ¬ Present lifecycle.invoice then
      .put .recoveredBeforePayment (mergeOrderLifecyclePatch lifecycle
        { invoiceStatus := some .failed
          paymentStatus := some .failed
          proofDeliveryStatus := some .notStarted
          lastError := some (some interruptedBeforeWalletError) } now)
    else
      .put .markedAmbiguous (mergeOrderLifecyclePatch lifecycle
        { invoiceStatus := some .received
          paymentStatus := some .ambiguous
          lastError := some (some interruptedAfterWalletError) } now)

def reconcileLegacyInterruptedOrderPayment (now : Int) (attempt : Option StoredPaymentAttempt)
    (lifecycle : OrderLifecycle) : Reply LegacyInterruptedStatus :=
  if Present lifecycle.paymentClaimId then .kept .notLegacyInterrupted
  else if Present lifecycle.proofDeliveryClaimId then .kept .notLegacyInterrupted
  else if isLegacyInterruptedOrderPayment lifecycle = false then .kept .notLegacyInterrupted
  else if now - lifecycle.updatedAt < legacyOrderPaymentRecoveryGraceMs then .kept .notStale
  else recoverLegacyInterruptedOrderPayment now attempt lifecycle

inductive OrderTransaction where
  | claimOrderLifecyclePayment (input : OrderPaymentClaimInput) (shouldContinue : Bool)
    (fresh : Text)
  | claimExpiredOrderInvoiceForRetry (input : OrderPaymentClaimInput) (expectedInvoice : Text)
    (expectedUpdatedAt : Option Int) (shouldContinue : Bool) (fresh : Text)
  | claimOrderLifecycleUpdatedAddressPayment (input : OrderPaymentClaimInput)
    (expectedUpdatedAt : Int) (newMerchantLightningAddress : Text) (shouldContinue : Bool)
    (fresh : Text)
  | claimOrderLifecyclePrivateFallbackPayment (input : OrderPaymentClaimInput)
    (shouldContinue : Bool) (fresh : Text)
  | replaceOrderPaymentTarget (paymentTarget : OrderPaymentTarget) (shouldContinue : Bool)
  | recordOrderPaymentPreparationFailure (input : OrderPaymentClaimInput) (lastError : Text)
  | patchClaimedOrderLifecyclePayment (paymentClaimId : Text) (patch : FencedOrderLifecyclePatch)
  | fenceClaimedOrderLifecyclePaymentAuthority (paymentClaimId : Text)
  | recordObservedOrderPaymentReceipt (input : ObservedReceiptInput)
  | recordOrderPaymentReceiptTimeout (zapRequestId : Text)
  | recordOrderPaymentProofDelivery (proofDeliveryStatus : OrderProofDeliveryStatus)
    (patch : ProofDeliveryPatch) (proofDeliveryClaimId : Option Text)
  | claimOrderPaymentProofDelivery (proofDeliveryClaimId : Text)
  | renewOrderPaymentProofDeliveryClaim (proofDeliveryClaimId : Text)
  | bindMerchantInvoiceForPayment (merchantInvoice : ProjectedMerchantInvoiceClaim)
  | claimExternalOrderPaymentProof (proofDeliveryClaimId : Text)
    (options : ExternalPaymentProofOptions)
  | recordOrderPaymentWalletSuccessRecovery (input : WalletSuccessRecoveryInput)
  | reconcileInterruptedOrderPayment (paymentClaimId : Text)
  | reconcileInterruptedOrderProofDelivery (proofDeliveryClaimId : Text)
  | reconcileLegacyInterruptedOrderPayment

variable (P : OrderPlatform)

def OrderTransaction.next (now : Int) (attempt : Option StoredPaymentAttempt)
    (lifecycle : OrderLifecycle) : OrderTransaction → OrderLifecycle
  | .claimOrderLifecyclePayment input shouldContinue fresh =>
    (Orders.claimOrderLifecyclePayment P input shouldContinue now fresh lifecycle).row lifecycle
  | .claimExpiredOrderInvoiceForRetry input expectedInvoice expectedUpdatedAt shouldContinue
      fresh =>
    (Orders.claimExpiredOrderInvoiceForRetry P input expectedInvoice expectedUpdatedAt
      shouldContinue now fresh attempt lifecycle).row lifecycle
  | .claimOrderLifecycleUpdatedAddressPayment input expectedUpdatedAt address shouldContinue
      fresh =>
    (Orders.claimOrderLifecycleUpdatedAddressPayment P input expectedUpdatedAt address
      shouldContinue now fresh attempt lifecycle).row lifecycle
  | .claimOrderLifecyclePrivateFallbackPayment input shouldContinue fresh =>
    (Orders.claimOrderLifecyclePrivateFallbackPayment P input shouldContinue now fresh
      lifecycle).row lifecycle
  | .replaceOrderPaymentTarget paymentTarget shouldContinue =>
    (Orders.replaceOrderPaymentTarget paymentTarget shouldContinue now lifecycle).row lifecycle
  | .recordOrderPaymentPreparationFailure input lastError =>
    (Orders.recordOrderPaymentPreparationFailure P input lastError now lifecycle).row lifecycle
  | .patchClaimedOrderLifecyclePayment paymentClaimId patch =>
    (Orders.patchClaimedOrderLifecyclePayment paymentClaimId patch now lifecycle).row lifecycle
  | .fenceClaimedOrderLifecyclePaymentAuthority paymentClaimId =>
    (Orders.fenceClaimedOrderLifecyclePaymentAuthority paymentClaimId now lifecycle).row lifecycle
  | .recordObservedOrderPaymentReceipt input =>
    (Orders.recordObservedOrderPaymentReceipt input now lifecycle).row lifecycle
  | .recordOrderPaymentReceiptTimeout zapRequestId =>
    (Orders.recordOrderPaymentReceiptTimeout zapRequestId now lifecycle).row lifecycle
  | .recordOrderPaymentProofDelivery proofDeliveryStatus patch proofDeliveryClaimId =>
    (Orders.recordOrderPaymentProofDelivery proofDeliveryStatus patch proofDeliveryClaimId now
      lifecycle).row lifecycle
  | .claimOrderPaymentProofDelivery proofDeliveryClaimId =>
    (Orders.claimOrderPaymentProofDelivery proofDeliveryClaimId now lifecycle).row lifecycle
  | .renewOrderPaymentProofDeliveryClaim proofDeliveryClaimId =>
    (Orders.renewOrderPaymentProofDeliveryClaim proofDeliveryClaimId now lifecycle).row lifecycle
  | .bindMerchantInvoiceForPayment merchantInvoice =>
    (Orders.bindMerchantInvoiceForPayment P merchantInvoice now lifecycle).row lifecycle
  | .claimExternalOrderPaymentProof proofDeliveryClaimId options =>
    (Orders.claimExternalOrderPaymentProof P proofDeliveryClaimId options now attempt
      lifecycle).row lifecycle
  | .recordOrderPaymentWalletSuccessRecovery input =>
    (Orders.recordOrderPaymentWalletSuccessRecovery input now lifecycle).row lifecycle
  | .reconcileInterruptedOrderPayment paymentClaimId =>
    (Orders.reconcileInterruptedOrderPayment paymentClaimId now attempt lifecycle).row lifecycle
  | .reconcileInterruptedOrderProofDelivery proofDeliveryClaimId =>
    (Orders.reconcileInterruptedOrderProofDelivery proofDeliveryClaimId now attempt
      lifecycle).row lifecycle
  | .reconcileLegacyInterruptedOrderPayment =>
    (Orders.reconcileLegacyInterruptedOrderPayment now attempt lifecycle).row lifecycle

end Conduit.Orders
