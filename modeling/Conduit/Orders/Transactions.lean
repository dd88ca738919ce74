import Conduit.Orders.Claims

namespace Conduit.Orders

open Js

variable (P : OrderPlatform)

/-- `FencedOrderLifecyclePatch`. -/
structure FencedOrderLifecyclePatch extends OrderLifecyclePatch where
  claim : paymentClaimId = none ∨ paymentClaimId = some none
  claimedAt : paymentClaimedAt = none
  lease : paymentClaimLeaseExpiresAt = none

lemma untouched_claim :
    (none : Option (Option Text)) = none ∨ (none : Option (Option Text)) = some none :=
  .inl rfl

lemma untouched_time : (none : Option (Option Int)) = none := rfl

variable (lifecycle : OrderLifecycle)

variable (paymentClaimId : Text)

/-- The caller's claim is the order's, and the order is neither cancelled nor completed. -/
def OwnsClaim : Prop :=
  paymentClaimId ≠ [] ∧ lifecycle.paymentClaimId = some paymentClaimId ∧
    lifecycle.phase ≠ .cancelled ∧ lifecycle.phase ≠ .completed
  deriving Decidable

def Downgrades (patch : OrderLifecyclePatch) : Prop :=
  (lifecycle.paymentStatus = .paid ∧ patch.paymentStatus ≠ none ∧
      patch.paymentStatus ≠ some .paid) ∨
    (lifecycle.proofDeliveryStatus = .sent ∧ patch.proofDeliveryStatus ≠ none ∧
      patch.proofDeliveryStatus ≠ some .sent)
  deriving Decidable

inductive ClaimedPatchStatus where
  | patched
  | claimMismatch

variable (patch : FencedOrderLifecyclePatch)

variable (now : Int)

def FencedOrderLifecyclePatch.renewing : OrderLifecyclePatch :=
  if patch.ReleasesClaim then patch.toOrderLifecyclePatch
  else
    { patch.toOrderLifecyclePatch with
      paymentClaimLeaseExpiresAt := some (some (now + orderPaymentClaimLeaseMs)) }

def patchClaimedOrderLifecyclePayment
    (now : Int) (lifecycle : OrderLifecycle) : Reply ClaimedPatchStatus :=
  if ¬ OwnsClaim lifecycle paymentClaimId ∨ Downgrades lifecycle patch.toOrderLifecyclePatch then
    .kept .claimMismatch
  else .put .patched (mergeOrderLifecyclePatch lifecycle (patch.renewing now) now)

inductive AuthorityFenceStatus where
  | fenced
  | claimMismatch

def fenceClaimedOrderLifecyclePaymentAuthority
    (lifecycle : OrderLifecycle) : Reply AuthorityFenceStatus :=
  if ¬ OwnsClaim lifecycle paymentClaimId ∨ lifecycle.paymentStatus = .paid ∨
      lifecycle.proofDeliveryStatus = .sent then
    .kept .claimMismatch
  else
    .put .fenced (mergeOrderLifecyclePatch lifecycle
      { paymentClaimLeaseExpiresAt := some (some (now + orderPaymentClaimLeaseMs)) } now)

def emptyPatch : FencedOrderLifecyclePatch where
  claim := untouched_claim
  claimedAt := untouched_time
  lease := untouched_time

def renewOrderLifecyclePaymentClaim : OrderLifecycle → Reply ClaimedPatchStatus :=
  patchClaimedOrderLifecyclePayment paymentClaimId emptyPatch now

def LiveProofLease : Prop :=
  Present lifecycle.proofDeliveryClaimId ∧ now < lifecycle.proofDeliveryClaimLeaseExpiresAt.getD 0
  deriving Decidable

structure ObservedReceiptInput where
  (zapRequestId zapReceiptId : Text)
  proofDeliveryStatus : OrderProofDeliveryStatus
  proofDeliveryClaimId : Option Text

inductive ObservedReceiptStatus where
  | recorded (proofDeliveryClaimed : Bool)
  | requestMismatch

def recordObservedOrderPaymentReceipt (input : ObservedReceiptInput) (now : Int)
    (lifecycle : OrderLifecycle) : Reply ObservedReceiptStatus :=
  if input.zapRequestId = [] ∨ lifecycle.zapRequestId ≠ some input.zapRequestId then
    .kept .requestMismatch
  else
    let proofDeliveryClaimId := input.proofDeliveryClaimId.map trim
    let live := decide (lifecycle.proofDeliveryStatus = .pending ∧ LiveProofLease lifecycle now)
    let claimed :=
      decide (lifecycle.proofDeliveryStatus ≠ .sent ∧ input.proofDeliveryStatus = .pending ∧
        Present proofDeliveryClaimId ∧ live = false)
    let proofDeliveryStatus : OrderProofDeliveryStatus :=
      if lifecycle.proofDeliveryStatus = .sent ∨ input.proofDeliveryStatus = .sent then .sent
      else if live = true ∨ claimed = true then .pending
      else .retryNeeded
    .put (.recorded claimed) (mergeOrderLifecyclePatch lifecycle
      { paymentClaimId := some none
        invoiceStatus := some .received
        paymentStatus := some .paid
        proofDeliveryStatus := some proofDeliveryStatus
        proofDeliveryClaimId := if claimed = true then some proofDeliveryClaimId else none
        proofDeliveryClaimedAt := if claimed = true then some (some now) else none
        proofDeliveryClaimLeaseExpiresAt :=
          if claimed = true then some (some (now + orderProofDeliveryClaimLeaseMs)) else none
        zapReceiptStatus := some .observed
        zapReceiptId := some (some input.zapReceiptId)
        lastError := some none } now)

inductive ReceiptTimeoutStatus where
  | recorded
  | preserved
  | requestMismatch

def receiptNotObservedError : Text :=
  "A matching public receipt was not observed. Do not pay again if your wallet shows payment."

def recordOrderPaymentReceiptTimeout (zapRequestId : Text) (now : Int)
    (lifecycle : OrderLifecycle) : Reply ReceiptTimeoutStatus :=
  if zapRequestId = [] ∨ lifecycle.zapRequestId ≠ some zapRequestId then .kept .requestMismatch
  else if lifecycle.zapReceiptStatus = .observed ∨ Present lifecycle.zapReceiptId then
    .kept .preserved
  else if lifecycle.paymentStatus = .paid then
    .put .recorded (mergeOrderLifecyclePatch lifecycle
      { zapReceiptStatus := some .receiptNotObserved } now)
  else
    .put .recorded (mergeOrderLifecyclePatch lifecycle
      { paymentStatus := some .ambiguous
        zapReceiptStatus := some .receiptNotObserved
        lastError := some (some receiptNotObservedError) } now)

inductive ProofDeliveryResult where
  | recorded
  | preserved
  | claimMismatch

/-- `Pick<OrderLifecycle, "deliveryNotice" | "lastError">`. -/
structure ProofDeliveryPatch where
  deliveryNotice : Given Text := none
  lastError : Given Text := none

def recordOrderPaymentProofDelivery (proofDeliveryStatus : OrderProofDeliveryStatus)
    (patch : ProofDeliveryPatch) (proofDeliveryClaimId : Option Text) (now : Int)
    (lifecycle : OrderLifecycle) : Reply ProofDeliveryResult :=
  if lifecycle.proofDeliveryStatus = .sent ∧ proofDeliveryStatus ≠ .sent then .kept .preserved
  else if proofDeliveryStatus ≠ .sent ∧ Present lifecycle.proofDeliveryClaimId ∧
      lifecycle.proofDeliveryClaimId ≠ proofDeliveryClaimId then
    .kept .claimMismatch
  else
    .put .recorded (mergeOrderLifecyclePatch lifecycle
      { deliveryNotice := patch.deliveryNotice
        lastError := patch.lastError
        proofDeliveryStatus := some proofDeliveryStatus } now)

inductive ProofClaimStatus where
  | claimed
  | preserved

variable (proofDeliveryClaimId : Text)

def claimOrderPaymentProofDelivery (now : Int)
    (lifecycle : OrderLifecycle) : Reply ProofClaimStatus :=
  let normalizedClaimId := trim proofDeliveryClaimId
  if normalizedClaimId = [] ∨ lifecycle.proofDeliveryStatus = .sent ∨
      (lifecycle.proofDeliveryStatus = .pending ∧
        lifecycle.proofDeliveryClaimId ≠ some normalizedClaimId ∧
        now < lifecycle.proofDeliveryClaimLeaseExpiresAt.getD 0) then
    .kept .preserved
  else
    .put .claimed (mergeOrderLifecyclePatch lifecycle
      { proofDeliveryStatus := some .pending
        proofDeliveryClaimId := some (some normalizedClaimId)
        proofDeliveryClaimedAt := some (some
          (if lifecycle.proofDeliveryClaimId = some normalizedClaimId then
            lifecycle.proofDeliveryClaimedAt.getD now else now))
        proofDeliveryClaimLeaseExpiresAt :=
          some (some (now + orderProofDeliveryClaimLeaseMs)) } now)

def renewOrderPaymentProofDeliveryClaim (now : Int)
    (lifecycle : OrderLifecycle) : Reply ProofClaimStatus :=
  let normalizedClaimId := trim proofDeliveryClaimId
  if normalizedClaimId = [] ∨ lifecycle.proofDeliveryStatus ≠ .pending ∨
      lifecycle.proofDeliveryClaimId ≠ some normalizedClaimId then
    .kept .preserved
  else
    .put .claimed (mergeOrderLifecyclePatch lifecycle
      { proofDeliveryClaimLeaseExpiresAt :=
          some (some (now + orderProofDeliveryClaimLeaseMs)) } now)

structure MerchantInvoiceReopenEvidence where
  cancellationEventId : Text
  messages : List ParsedOrderMessage

def hasEffectiveMerchantInvoiceReopenEvidence
    (evidence : Option MerchantInvoiceReopenEvidence) : Bool :=
  match evidence with
  | none => false
  | some evidence =>
    let exactOrderMessages := evidence.messages.filter fun message =>
      decide (message.orderId = lifecycle.orderId)
    let projection := P.getEffectiveMerchantOrderStatus exactOrderMessages lifecycle.buyerPubkey
      lifecycle.merchantPubkey
    let summary := P.extractOrderSummary exactOrderMessages lifecycle.buyerPubkey
      lifecycle.merchantPubkey
    decide (IsHex64 evidence.cancellationEventId) &&
    decide (projection.reopenedCancellationId = some evidence.cancellationEventId) &&
    decide (projection.knownStatus ≠ none) &&
    decide (projection.knownStatus ≠ some .cancelled) &&
    decide (projection.knownStatus ≠ some .refundRequested) &&
    !summary.paymentConfirmed && !summary.shippingUpdateReceived

structure ProjectedMerchantInvoiceClaim where
  (buyerPubkey merchantPubkey : Text)
  totalMsats : Int
  (invoice paymentHash : Text)
  expiresAt : Int
  reopenEvidence : Option MerchantInvoiceReopenEvidence

structure AdmittedProjectedMerchantInvoice where
  (invoice paymentHash : Text)
  expiresAt : Int
  alreadyBound : Bool

def admitProjectedMerchantInvoice
    (merchantInvoice : ProjectedMerchantInvoiceClaim) (nowMs : Int) (allowExpired : Bool) :
    Option AdmittedProjectedMerchantInvoice :=
  let invoice := normalizeLightningInvoice merchantInvoice.invoice
  let paymentHash := toLowerCase (trim merchantInvoice.paymentHash)
  let awaitingMerchantInvoice :=
    decide (lifecycle.invoiceStatus = .notRequested) &&
    decide (lifecycle.paymentStatus = .notStarted) && decide (¬ Present lifecycle.invoice) &&
    decide (¬ Present lifecycle.paymentHash) && decide (lifecycle.invoiceExpiresAt = none)
  let sameActiveMerchantInvoice :=
    decide (lifecycle.invoiceStatus = .manualRequired) &&
    decide (lifecycle.paymentStatus = .manualRequired) && decide (Present lifecycle.invoice) &&
    decide (lifecycle.invoice.map (fun stored => toLowerCase (normalizeLightningInvoice stored)) =
      some (toLowerCase invoice)) &&
    decide (¬ Present lifecycle.paymentHash ∨
      lifecycle.paymentHash.map toLowerCase = some paymentHash) &&
    decide (lifecycle.invoiceExpiresAt = none ∨
      lifecycle.invoiceExpiresAt = some merchantInvoice.expiresAt)
  let hasReopenEvidence :=
    hasEffectiveMerchantInvoiceReopenEvidence P lifecycle merchantInvoice.reopenEvidence
  if lifecycle.checkoutSparkRouterBinding ≠ none ∨ lifecycle.zapSigner ≠ none ∨
      lifecycle.checkoutMode ≠ .payLater ∨ lifecycle.orderDeliveryStatus ≠ .sent ∨
      lifecycle.phase = .completed ∨
      (lifecycle.phase = .cancelled ∧ hasReopenEvidence = false) ∨
      (merchantInvoice.reopenEvidence.isSome = true ∧ hasReopenEvidence = false) ∨
      lifecycle.proofDeliveryStatus ≠ .notStarted ∨ Present lifecycle.paymentClaimId ∨
      lifecycle.buyerPubkey ≠ merchantInvoice.buyerPubkey ∨
      lifecycle.merchantPubkey ≠ merchantInvoice.merchantPubkey ∨
      lifecycle.totalMsats ≠ merchantInvoice.totalMsats ∨ ¬ IsHex64 paymentHash ∨
      decodeLightningInvoicePaymentHash P.toPlatform invoice ≠ some paymentHash ∨
      validateLightningInvoiceForPayment P invoice lifecycle.totalMsats (toSeconds nowMs)
        allowExpired ≠ some merchantInvoice.expiresAt ∨
      ¬ IsSafeInteger merchantInvoice.expiresAt ∨ merchantInvoice.expiresAt ≤ 0 ∨
      (awaitingMerchantInvoice = false ∧ sameActiveMerchantInvoice = false) then
    none
  else
    some
      { invoice := invoice
        paymentHash := paymentHash
        expiresAt := merchantInvoice.expiresAt
        alreadyBound := sameActiveMerchantInvoice &&
          decide (lifecycle.paymentHash.map toLowerCase = some paymentHash) &&
          decide (lifecycle.invoiceExpiresAt = some merchantInvoice.expiresAt) }

inductive InvoiceBindingStatus where
  | bound
  | preserved

def bindMerchantInvoiceForPayment (merchantInvoice : ProjectedMerchantInvoiceClaim) (nowMs : Int)
    (lifecycle : OrderLifecycle) : Reply InvoiceBindingStatus :=
  match admitProjectedMerchantInvoice P lifecycle merchantInvoice nowMs false with
  | none => .kept .preserved
  | some admitted =>
    if admitted.alreadyBound = true then .kept .bound
    else
      .put .bound (mergeOrderLifecyclePatch lifecycle
        { invoiceStatus := some .manualRequired
          paymentStatus := some .manualRequired
          invoice := some (some admitted.invoice)
          paymentHash := some (some admitted.paymentHash)
          invoiceExpiresAt := some (some admitted.expiresAt)
          lastError := some none } nowMs)

structure ExternalPaymentProofOptions where
  merchantInvoice : Option ProjectedMerchantInvoiceClaim
  priorExpiredManualInvoice : Option ExpiredManualInvoice
  authorizeClaim : OrderLifecycle → Bool

variable (evidence : ExpiredManualInvoice)

def priorHistoryEntry (now : Int) : Option ExpiredManualInvoice :=
  let normalizedPriorInvoice := normalizeLightningInvoice evidence.invoice
  match validateLightningInvoiceForPayment P normalizedPriorInvoice lifecycle.totalMsats
      (toSeconds now) true with
  | none => none
  | some expiresAt =>
    if (decodeLightningInvoicePaymentHash P.toPlatform normalizedPriorInvoice).map toLowerCase ≠
        some (toLowerCase evidence.paymentHash) ∨
      ¬ IsHex64 (toLowerCase evidence.paymentHash) then none
    else
      (lifecycle.priorExpiredManualInvoices.getD []).find? fun entry =>
        decide (toLowerCase (normalizeLightningInvoice entry.invoice) =
          toLowerCase normalizedPriorInvoice) &&
        decide (toLowerCase entry.paymentHash = toLowerCase evidence.paymentHash) &&
        decide (entry.expiresAt = evidence.expiresAt) && decide (evidence.expiresAt = expiresAt)

def priorInvoiceIsOpen (now : Int) : Bool :=
  (decide (lifecycle.paymentStatus = .failed) && decide (lifecycle.invoiceStatus = .failed) &&
    decide (¬ Present lifecycle.invoice)) ||
  (decide (lifecycle.paymentStatus = .manualRequired) &&
    decide (lifecycle.invoiceStatus = .manualRequired) && decide (Present lifecycle.invoice) &&
    decide (lifecycle.invoice.map (fun stored => toLowerCase (normalizeLightningInvoice stored)) ≠
      some (toLowerCase (normalizeLightningInvoice evidence.invoice))) &&
    match decodeLightningInvoicePaymentHash P.toPlatform (lifecycle.invoice.getD []),
      validateLightningInvoiceForPayment P (lifecycle.invoice.getD []) lifecycle.totalMsats
        (toSeconds now) true with
    | some activeHash, some activeExpiresAt =>
      decide (lifecycle.paymentHash = none ∨
        lifecycle.paymentHash.map toLowerCase = some (toLowerCase activeHash)) &&
      decide (lifecycle.invoiceExpiresAt = none ∨ lifecycle.invoiceExpiresAt = some activeExpiresAt)
    | _, _ => false)

def isManualAndIdle : Bool :=
  (decide (lifecycle.checkoutMode = .privateCheckout) ||
    decide (lifecycle.checkoutMode = .externalWallet)) &&
  decide (lifecycle.publicZapSigner = none) &&
  decide (lifecycle.paymentTarget = some .manual) &&
  decide (lifecycle.orderDeliveryStatus = .sent) && decide (lifecycle.phase ≠ .completed) &&
  decide (lifecycle.completedAt = none) && decide (lifecycle.walletPaymentAttemptId = none) &&
  decide (lifecycle.paymentClaimId = none) && decide (lifecycle.proofDeliveryClaimId = none) &&
  decide (lifecycle.proofDeliveryStatus = .notStarted) && decide (lifecycle.preimage = none) &&
  decide (lifecycle.feeMsats = none) && decide (lifecycle.zapReceiptId = none) &&
  decide (lifecycle.zapRequestId = none) && decide (lifecycle.zapReceiptStatus = .notApplicable)

def admittedPriorInvoice (options : ExternalPaymentProofOptions)
    (now : Int) : Option ExpiredManualInvoice :=
  match options.priorExpiredManualInvoice with
  | none => none
  | some evidence =>
    if options.merchantInvoice.isNone = true ∧ isManualAndIdle lifecycle = true ∧
        priorInvoiceIsOpen P lifecycle evidence now = true then
      priorHistoryEntry P lifecycle evidence now
    else none

inductive ExternalProofClaimStatus where
  | claimed
  | preserved

def reportedInvoicePatch (admitted : Option AdmittedProjectedMerchantInvoice)
    (prior : Option ExpiredManualInvoice) : OrderLifecyclePatch :=
  match admitted, prior with
  | some admitted, _ =>
    { invoiceStatus := some .manualRequired
      invoice := some (some admitted.invoice)
      paymentHash := some (some admitted.paymentHash)
      invoiceExpiresAt := some (some admitted.expiresAt) }
  | none, some prior =>
    { invoice := some (some prior.invoice)
      paymentHash := some (some prior.paymentHash)
      invoiceExpiresAt := some (some prior.expiresAt) }
  | none, none => {}

def claimExternalOrderPaymentProof
    (options : ExternalPaymentProofOptions) (now : Int) (attempt : Option StoredPaymentAttempt)
    (lifecycle : OrderLifecycle) : Reply ExternalProofClaimStatus :=
  let normalizedClaimId := trim proofDeliveryClaimId
  let admitted := options.merchantInvoice.bind fun merchantInvoice =>
    admitProjectedMerchantInvoice P lifecycle merchantInvoice now true
  let prior := admittedPriorInvoice P lifecycle options now
  let existingManualInvoiceIsAdmissible :=
    options.merchantInvoice.isNone && options.priorExpiredManualInvoice.isNone &&
    decide (Present lifecycle.invoice) && decide (lifecycle.paymentStatus = .manualRequired)
  if lifecycle.checkoutSparkRouterBinding ≠ none then .kept .preserved
  else if normalizedClaimId = [] ∨ lifecycle.phase = .completed ∨
      lifecycle.proofDeliveryStatus ≠ .notStarted ∨
      (admitted.isNone = true ∧ existingManualInvoiceIsAdmissible = false ∧
        prior.isNone = true) then
    .kept .preserved
  else if prior.isSome = true ∧ attempt.isSome = true then .kept .preserved
  else if options.authorizeClaim lifecycle = false then .kept .preserved
  else
    .put .claimed (mergeOrderLifecyclePatch lifecycle
      { reportedInvoicePatch admitted prior with
        paymentStatus := some .paid
        proofDeliveryStatus := some .pending
        proofDeliveryClaimId := some (some normalizedClaimId)
        proofDeliveryClaimedAt := some (some now)
        proofDeliveryClaimLeaseExpiresAt := some (some (now + orderProofDeliveryClaimLeaseMs))
        lastError := some none } now)

structure WalletSuccessRecoveryInput where
  proofDeliveryStatus : OrderProofDeliveryStatus
  proofDeliveryClaimId : Option Text
  invoice : Text
  paymentHash : Option Text
  preimage : Text
  feeMsats : Option Int
  zapRequestId : Option Text

def recordOrderPaymentWalletSuccessRecovery (input : WalletSuccessRecoveryInput) (now : Int)
    (lifecycle : OrderLifecycle) : Reply ProofDeliveryResult :=
  let proofDeliveryClaimMatches :=
    decide (¬ Present lifecycle.proofDeliveryClaimId ∨
      lifecycle.proofDeliveryClaimId = input.proofDeliveryClaimId)
  let proofDeliveryStatus : OrderProofDeliveryStatus :=
    if lifecycle.proofDeliveryStatus = .sent ∨ input.proofDeliveryStatus = .sent then .sent
    else if proofDeliveryClaimMatches = false then lifecycle.proofDeliveryStatus
    else if input.proofDeliveryStatus = .pending ∧ lifecycle.proofDeliveryStatus = .pending ∧
        lifecycle.zapReceiptStatus = .observed ∧ LiveProofLease lifecycle now then .pending
    else .retryNeeded
  .put .recorded (mergeOrderLifecyclePatch lifecycle
    { paymentClaimId := some none
      invoiceStatus := some .received
      paymentStatus := some .paid
      proofDeliveryStatus := some proofDeliveryStatus
      invoice := some (some input.invoice)
      paymentHash := some input.paymentHash
      preimage := some (some input.preimage)
      feeMsats := some input.feeMsats
      zapRequestId := some input.zapRequestId
      lastError := some none } now)

end Conduit.Orders
