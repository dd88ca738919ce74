import Conduit.Orders.Recovery

namespace Conduit.Orders

open Js

structure ValidatedInvoice where
  invoice : Text
  isPublicZap : Bool
  zapRequestId : Option Text
  zapRequestCreatedAt : Option Int
  zapRelayUrls : List Text
  (expectedLnurl lnurlNostrPubkey : Option Text)
  (invoiceExpiresAt zapReceiptObservationDeadline : Int)

structure WalletSuccess where
  preimage : Text
  paymentHash : Option Text
  feeMsats : Option Int

/-- What `payCheckoutInvoice` came to. `failed` is a definite failure or a refusal. -/
inductive PaymentOutcome where
  | paid (success : WalletSuccess)
  | failed (reason : Text)
  | ambiguous (message : Text)
  | manualRequired (reason : Text)

def released (patch : OrderLifecyclePatch) (h₁ : patch.paymentClaimedAt = none)
    (h₂ : patch.paymentClaimLeaseExpiresAt = none) : FencedOrderLifecyclePatch :=
  { patch with
    paymentClaimId := some none
    claim := Or.inr rfl
    claimedAt := h₁
    lease := h₂ }

def preclaimPaymentContractPatch (lifecycle : OrderLifecycle) : FencedOrderLifecyclePatch :=
  released
    { merchantLightningAddress := some lifecycle.merchantLightningAddress
      checkoutMode := some lifecycle.checkoutMode
      publicZapSigner := some lifecycle.publicZapSigner
      publicZapFallback := some lifecycle.publicZapFallback
      zapContent := some lifecycle.zapContent
      walletPaymentAttemptId := some lifecycle.walletPaymentAttemptId
      invoiceStatus := some lifecycle.invoiceStatus
      paymentStatus := some lifecycle.paymentStatus
      proofDeliveryStatus := some lifecycle.proofDeliveryStatus
      zapReceiptStatus := some lifecycle.zapReceiptStatus
      invoice := some lifecycle.invoice
      paymentHash := some lifecycle.paymentHash
      preimage := some lifecycle.preimage
      feeMsats := some lifecycle.feeMsats
      zapRequestId := some lifecycle.zapRequestId
      zapRequestCreatedAt := some lifecycle.zapRequestCreatedAt
      zapReceiptId := some lifecycle.zapReceiptId
      zapReceiptRelayUrls := some lifecycle.zapReceiptRelayUrls
      zapLnurl := some lifecycle.zapLnurl
      zapReceiptPubkey := some lifecycle.zapReceiptPubkey
      invoiceExpiresAt := some lifecycle.invoiceExpiresAt
      zapReceiptObservationDeadline := some lifecycle.zapReceiptObservationDeadline
      phase := some lifecycle.phase
      lastError := some lifecycle.lastError
      deliveryNotice := some lifecycle.deliveryNotice
      completedAt := some lifecycle.completedAt } rfl rfl

def privateFallbackPatch : FencedOrderLifecyclePatch where
  checkoutMode := some .privateCheckout
  publicZapSigner := some none
  publicZapFallback := some (some true)
  zapContent := some (some [])
  zapReceiptStatus := some .notApplicable
  zapRequestId := some none
  zapRequestCreatedAt := some none
  zapReceiptId := some none
  zapReceiptRelayUrls := some none
  zapLnurl := some none
  zapReceiptPubkey := some none
  invoiceExpiresAt := some none
  zapReceiptObservationDeadline := some none
  claim := untouched_claim
  claimedAt := untouched_time
  lease := untouched_time

def ValidatedInvoice.forZap {α : Type} (request : ValidatedInvoice) (value : α) : Option α :=
  if request.isPublicZap = true then some value else none

variable (request : ValidatedInvoice)

/-- The invoice, written before any wallet sees it. -/
def invoicePatch : FencedOrderLifecyclePatch where
  invoiceStatus := some .received
  paymentStatus := some .paying
  invoice := some (some request.invoice)
  zapRequestId := some request.zapRequestId
  zapRequestCreatedAt := request.forZap request.zapRequestCreatedAt
  zapReceiptRelayUrls := request.forZap (some request.zapRelayUrls)
  zapLnurl := request.forZap request.expectedLnurl
  zapReceiptPubkey := request.forZap request.lnurlNostrPubkey
  invoiceExpiresAt := request.forZap (some request.invoiceExpiresAt)
  zapReceiptObservationDeadline := request.forZap (some request.zapReceiptObservationDeadline)
  zapReceiptStatus := request.forZap .waiting
  claim := untouched_claim
  claimedAt := untouched_time
  lease := untouched_time

def errorPatch (paymentStatus : OrderPaymentStatus) (invoiceReceived : Bool) (message : Text) :
    FencedOrderLifecyclePatch :=
  released
    { invoiceStatus := if invoiceReceived = true then none else some .failed
      paymentStatus := some paymentStatus
      lastError := some (some message) } rfl rfl

def retryableFailurePatch (invoice reason : Text) : FencedOrderLifecyclePatch :=
  released
    { invoiceStatus := some .failed
      paymentStatus := some .failed
      invoice := some (some invoice)
      zapReceiptStatus := some .notApplicable
      lastError := some (some reason) } rfl rfl

def manualRequiredPatch (reason : Text) : FencedOrderLifecyclePatch :=
  released
    { invoiceStatus := some .manualRequired
      paymentStatus := some .manualRequired
      invoice := some (some request.invoice)
      zapReceiptStatus := some (if request.isPublicZap = true then .waiting else .notApplicable)
      lastError := some (if request.isPublicZap = true then none else some reason) } rfl rfl

def paidPatch (success : WalletSuccess) (paymentClaimId : Text)
    (now : Int) : FencedOrderLifecyclePatch where
  paymentStatus := some .paid
  proofDeliveryStatus := some .pending
  proofDeliveryClaimId := some (some paymentClaimId)
  proofDeliveryClaimedAt := some (some now)
  proofDeliveryClaimLeaseExpiresAt := some (some (now + orderProofDeliveryClaimLeaseMs))
  invoice := some (some request.invoice)
  paymentHash := some success.paymentHash
  preimage := some (some success.preimage)
  feeMsats := some success.feeMsats
  zapRequestId := some request.zapRequestId
  claim := untouched_claim
  claimedAt := untouched_time
  lease := untouched_time

def deliveredPatch (proofDeliveryStatus : OrderProofDeliveryStatus) (deliveryNotice : Given Text) :
    FencedOrderLifecyclePatch :=
  released
    { proofDeliveryStatus := some proofDeliveryStatus
      deliveryNotice := deliveryNotice } rfl rfl

def walletSuccessRecovery (success : WalletSuccess)
    (paymentClaimId : Text) (proofDeliveryStatus : OrderProofDeliveryStatus) :
    WalletSuccessRecoveryInput where
  proofDeliveryStatus := proofDeliveryStatus
  proofDeliveryClaimId := some paymentClaimId
  invoice := request.invoice
  paymentHash := success.paymentHash
  preimage := success.preimage
  feeMsats := success.feeMsats
  zapRequestId := request.zapRequestId

/-- Where a run stands at an await. -/
inductive Stage where
  | idle
  | preparing (preclaimLifecycle : OrderLifecycle)
  | paying (preclaimLifecycle : OrderLifecycle) (request : ValidatedInvoice)
  | admitted (preclaimLifecycle : OrderLifecycle) (request : ValidatedInvoice)
  | asked (request : ValidatedInvoice)
  | answered (request : ValidatedInvoice) (outcome : PaymentOutcome)
  | delivering (request : ValidatedInvoice) (success : WalletSuccess)
  | refused (preclaimLifecycle : OrderLifecycle) (invoiceReceived : Bool)
  | done

structure PaymentRun where
  stage : Stage
  paymentTarget : OrderPaymentTarget
  asked : Bool
  failureWritten : Bool

def PaymentRun.to (run : PaymentRun) (stage : Stage) : PaymentRun := { run with stage := stage }

structure PaymentSystem where
  order : OrderLifecycle
  runs : Nat → PaymentRun

/-- Run `i` moves on, over this order. -/
def PaymentSystem.step (s : PaymentSystem) (i : Nat) (run : PaymentRun) (order : OrderLifecycle) :
    PaymentSystem :=
  ⟨order, Function.update s.runs i run⟩

inductive ClaimKind where
  | runOrderPayment
  | runOrderPaymentWithUpdatedAddress (expectedUpdatedAt : Int) (newAddress : Text)
  | runOrderPrivateFallback

def ClaimKind.reply (P : OrderPlatform) (kind : ClaimKind) (input : OrderPaymentClaimInput)
    (shouldContinue : Bool) (now : Int) (fresh : Text) (attempt : Option StoredPaymentAttempt)
    (lifecycle : OrderLifecycle) : Reply OrderPaymentClaimStatus :=
  match kind with
  | .runOrderPayment => claimOrderLifecyclePayment P input shouldContinue now fresh lifecycle
  | .runOrderPaymentWithUpdatedAddress expectedUpdatedAt newAddress =>
    claimOrderLifecycleUpdatedAddressPayment P input expectedUpdatedAt newAddress shouldContinue
      now fresh attempt lifecycle
  | .runOrderPrivateFallback =>
    claimOrderLifecyclePrivateFallbackPayment P input shouldContinue now fresh lifecycle

inductive Observation where
  | reconcileInterruptedOrderPayment (paymentClaimId : Text)
  | recordObservedOrderPaymentReceipt (input : ObservedReceiptInput)
  | recordOrderPaymentReceiptTimeout (zapRequestId : Text)
  | recordOrderPaymentProofDelivery (proofDeliveryStatus : OrderProofDeliveryStatus)
    (patch : ProofDeliveryPatch) (proofDeliveryClaimId : Option Text)
  | claimOrderPaymentProofDelivery (proofDeliveryClaimId : Text)
  | renewOrderPaymentProofDeliveryClaim (proofDeliveryClaimId : Text)
  | reconcileInterruptedOrderProofDelivery (proofDeliveryClaimId : Text)

def Observation.next (now : Int) (attempt : Option StoredPaymentAttempt)
    (lifecycle : OrderLifecycle) : Observation → OrderLifecycle
  | .reconcileInterruptedOrderPayment paymentClaimId =>
    (Orders.reconcileInterruptedOrderPayment paymentClaimId now attempt lifecycle).row lifecycle
  | .recordObservedOrderPaymentReceipt input =>
    (Orders.recordObservedOrderPaymentReceipt input now lifecycle).row lifecycle
  | .recordOrderPaymentReceiptTimeout zapRequestId =>
    (Orders.recordOrderPaymentReceiptTimeout zapRequestId now lifecycle).row lifecycle
  | .recordOrderPaymentProofDelivery proofDeliveryStatus patch proofDeliveryClaimId =>
    (Orders.recordOrderPaymentProofDelivery proofDeliveryStatus patch proofDeliveryClaimId now
      lifecycle).row lifecycle
  | .claimOrderPaymentProofDelivery proofDeliveryClaimId =>
    (Orders.claimOrderPaymentProofDelivery proofDeliveryClaimId now lifecycle).row lifecycle
  | .renewOrderPaymentProofDeliveryClaim proofDeliveryClaimId =>
    (Orders.renewOrderPaymentProofDeliveryClaim proofDeliveryClaimId now lifecycle).row lifecycle
  | .reconcileInterruptedOrderProofDelivery proofDeliveryClaimId =>
    (Orders.reconcileInterruptedOrderProofDelivery proofDeliveryClaimId now attempt
      lifecycle).row lifecycle

inductive PaymentAction where
  | claim (i : Nat)
  | prepare (i : Nat)
  | check (i : Nat)
  | send (i : Nat)
  | answer (i : Nat)
  | write (i : Nat)
  | stop (i : Nat)
  | heartbeat (i : Nat)
  | recordOrderPaymentPreparationFailure
  | observe (observation : Observation)

def Stage.Unasked (stage : Stage) (preclaim : OrderLifecycle) (invoiceReceived : Bool) : Prop :=
  match stage with
  | .preparing p => p = preclaim ∧ invoiceReceived = false
  | .paying p _ => p = preclaim ∧ invoiceReceived = true
  | .admitted p _ => p = preclaim ∧ invoiceReceived = true
  | .refused p received => p = preclaim ∧ invoiceReceived = received
  | _ => False

def patched (paymentClaimId : Text) (patch : FencedOrderLifecyclePatch) (now : Int)
    (order : OrderLifecycle) : OrderLifecycle :=
  (patchClaimedOrderLifecyclePayment paymentClaimId patch now order).row order

/-- Run `i` owns the claim `ids i`. -/
inductive PaymentStep (P : OrderPlatform) (ids : Nat → Text) :
    PaymentAction → PaymentSystem → PaymentSystem → Prop
  | claim {s : PaymentSystem} {i : Nat} {kind : ClaimKind} {input : OrderPaymentClaimInput}
    {shouldContinue : Bool} {now : Int} {fresh : Text} {attempt : Option StoredPaymentAttempt}
    {preclaim claimed : OrderLifecycle} (idle : (s.runs i).stage = .idle)
    (owner : input.paymentClaimId = ids i)
    (reply : kind.reply P input shouldContinue now fresh attempt s.order =
      .put (.claimed preclaim) claimed) :
    PaymentStep P ids (.claim i) s
      (s.step i
        { s.runs i with
          stage := .preparing preclaim
          paymentTarget := input.paymentTarget } claimed)
  | prepareWithoutClaim {s : PaymentSystem} {input : OrderPaymentClaimInput} {lastError : Text}
    {now : Int} :
    PaymentStep P ids .recordOrderPaymentPreparationFailure s
      { s with
        order := (recordOrderPaymentPreparationFailure P input lastError now s.order).row
          s.order }
  /-- `patchClaim({})` before an invoice request, or the fallback to a private one. -/
  | prepare {s : PaymentSystem} {i : Nat} {preclaim : OrderLifecycle}
    {patch : FencedOrderLifecyclePatch} {now : Int}
    (preparing : (s.runs i).stage = .preparing preclaim)
    (patch_eq : patch = emptyPatch ∨ patch = privateFallbackPatch) :
    PaymentStep P ids (.prepare i) s (s.step i (s.runs i) (patched (ids i) patch now s.order))
  | writeInvoice {s : PaymentSystem} {i : Nat} {preclaim next : OrderLifecycle}
    {request : ValidatedInvoice} {totalMsats now : Int}
    (preparing : (s.runs i).stage = .preparing preclaim)
    (valid : validateLightningInvoiceForPayment P request.invoice totalMsats (toSeconds now)
      false ≠ none)
    (reply : patchClaimedOrderLifecyclePayment (ids i) (invoicePatch request) now s.order =
      .put .patched next) :
    PaymentStep P ids (.prepare i) s (s.step i ((s.runs i).to (.paying preclaim request)) next)
  /-- `assertPaymentAuthority` while the invoice is being prepared. -/
  | check {s : PaymentSystem} {i : Nat} {preclaim next : OrderLifecycle} {now : Int}
    (preparing : (s.runs i).stage = .preparing preclaim)
    (reply : fenceClaimedOrderLifecyclePaymentAuthority (ids i) now s.order = .put .fenced next) :
    PaymentStep P ids (.check i) s (s.step i (s.runs i) next)
  /-- `assertPaymentAuthority` over the written invoice, by the run or in its wallet's
  `beforeSend`. -/
  | checkWritten {s : PaymentSystem} {i : Nat} {preclaim next : OrderLifecycle}
    {request : ValidatedInvoice} {now : Int}
    (written : (s.runs i).stage = .paying preclaim request ∨
      (s.runs i).stage = .admitted preclaim request)
    (reply : fenceClaimedOrderLifecyclePaymentAuthority (ids i) now s.order = .put .fenced next) :
    PaymentStep P ids (.check i) s (s.step i ((s.runs i).to (.admitted preclaim request)) next)
  | refuse {s : PaymentSystem} {i : Nat} {preclaim next : OrderLifecycle} {received : Bool}
    {now : Int} (unasked : (s.runs i).stage.Unasked preclaim received)
    (order : next = s.order ∨
      next = (fenceClaimedOrderLifecyclePaymentAuthority (ids i) now s.order).row s.order) :
    PaymentStep P ids (.check i) s (s.step i ((s.runs i).to (.refused preclaim received)) next)
  | restore {s : PaymentSystem} {i : Nat} {preclaim : OrderLifecycle} {received : Bool} {now : Int}
    (refused : (s.runs i).stage = .refused preclaim received) :
    PaymentStep P ids (.write i) s
      (s.step i ((s.runs i).to .done)
        (patched (ids i) (preclaimPaymentContractPatch preclaim) now s.order))
  | fail {s : PaymentSystem} {i : Nat} {preclaim : OrderLifecycle} {received : Bool}
    {status : OrderPaymentStatus} {message : Text} {now : Int}
    (unasked : (s.runs i).stage.Unasked preclaim received)
    (status_eq : status = .failed ∨ status = .ambiguous) :
    PaymentStep P ids (.write i) s
      (s.step i ((s.runs i).to .done)
        (patched (ids i) (errorPatch status received message) now s.order))
  /-- The wallet, once its last `beforeSend` returned. -/
  | send {s : PaymentSystem} {i : Nat} {preclaim : OrderLifecycle} {request : ValidatedInvoice}
    (admitted : (s.runs i).stage = .admitted preclaim request)
    (automatic : (s.runs i).paymentTarget ≠ .manual) :
    PaymentStep P ids (.send i) s
      (s.step i
        { s.runs i with
          stage := .asked request
          asked := true } s.order)
  | answer {s : PaymentSystem} {i : Nat} {request : ValidatedInvoice} {outcome : PaymentOutcome}
    (asked : (s.runs i).stage = .asked request)
    (outcome_eq : ∀ reason, outcome ≠ .manualRequired reason) :
    PaymentStep P ids (.answer i) s
      (s.step i ((s.runs i).to (.answered request outcome)) s.order)
  | answerUnasked {s : PaymentSystem} {i : Nat} {preclaim : OrderLifecycle}
    {request : ValidatedInvoice} {outcome : PaymentOutcome}
    (admitted : (s.runs i).stage = .admitted preclaim request)
    (outcome_eq : ∀ success, outcome ≠ .paid success) :
    PaymentStep P ids (.answer i) s
      (s.step i ((s.runs i).to (.answered request outcome)) s.order)
  | writeFailure {s : PaymentSystem} {i : Nat} {next : OrderLifecycle}
    {request : ValidatedInvoice} {reason : Text} {now : Int}
    (answered : (s.runs i).stage = .answered request (.failed reason))
    (reply : patchClaimedOrderLifecyclePayment (ids i)
      (retryableFailurePatch request.invoice reason) now s.order = .put .patched next) :
    PaymentStep P ids (.write i) s
      (s.step i
        { s.runs i with
          stage := .done
          failureWritten := true } next)
  | writeAmbiguous {s : PaymentSystem} {i : Nat} {request : ValidatedInvoice} {message : Text}
    {now : Int} (answered : (s.runs i).stage = .answered request (.ambiguous message)) :
    PaymentStep P ids (.write i) s
      (s.step i ((s.runs i).to .done)
        (patched (ids i) (errorPatch .ambiguous true message) now s.order))
  | writeManual {s : PaymentSystem} {i : Nat} {request : ValidatedInvoice} {reason : Text}
    {now : Int} (answered : (s.runs i).stage = .answered request (.manualRequired reason)) :
    PaymentStep P ids (.write i) s
      (s.step i ((s.runs i).to .done)
        (patched (ids i) (manualRequiredPatch request reason) now s.order))
  | writePaid {s : PaymentSystem} {i : Nat} {next : OrderLifecycle} {request : ValidatedInvoice}
    {success : WalletSuccess} {claimedAt now : Int}
    (answered : (s.runs i).stage = .answered request (.paid success))
    (reply : patchClaimedOrderLifecyclePayment (ids i)
      (paidPatch request success (ids i) claimedAt) now s.order = .put .patched next) :
    PaymentStep P ids (.write i) s
      (s.step i ((s.runs i).to (.delivering request success)) next)
  | writeDelivered {s : PaymentSystem} {i : Nat} {request : ValidatedInvoice}
    {success : WalletSuccess} {status : OrderProofDeliveryStatus} {notice : Given Text} {now : Int}
    (delivering : (s.runs i).stage = .delivering request success) :
    PaymentStep P ids (.write i) s
      (s.step i ((s.runs i).to .done)
        (patched (ids i) (deliveredPatch status notice) now s.order))
  | recordDelivered {s : PaymentSystem} {i : Nat} {request : ValidatedInvoice}
    {success : WalletSuccess} {status : OrderProofDeliveryStatus} {patch : ProofDeliveryPatch}
    {now : Int} (delivering : (s.runs i).stage = .delivering request success) :
    PaymentStep P ids (.write i) s
      (s.step i ((s.runs i).to .done)
        ((recordOrderPaymentProofDelivery status patch (some (ids i)) now s.order).row s.order))
  | recover {s : PaymentSystem} {i : Nat} {request : ValidatedInvoice} {success : WalletSuccess}
    {status : OrderProofDeliveryStatus} {now : Int}
    (paid : (s.runs i).stage = .answered request (.paid success) ∨
      (s.runs i).stage = .delivering request success) :
    PaymentStep P ids (.write i) s
      (s.step i ((s.runs i).to .done)
        ((recordOrderPaymentWalletSuccessRecovery
          (walletSuccessRecovery request success (ids i) status) now s.order).row s.order))
  | stop {s : PaymentSystem} {i : Nat} (started : (s.runs i).stage ≠ .idle) :
    PaymentStep P ids (.stop i) s (s.step i ((s.runs i).to .done) s.order)
  | heartbeat {s : PaymentSystem} {i : Nat} {now : Int} :
    PaymentStep P ids (.heartbeat i) s
      { s with order := patched (ids i) emptyPatch now s.order }
  | observe {s : PaymentSystem} {observation : Observation} {now : Int}
    {attempt : Option StoredPaymentAttempt} :
    PaymentStep P ids (.observe observation) s
      { s with order := observation.next now attempt s.order }

end Conduit.Orders
