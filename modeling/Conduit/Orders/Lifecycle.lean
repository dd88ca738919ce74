import Conduit.Lightning

namespace Conduit.Orders

open Js

inductive OrderCheckoutMode where
  | anonymousPublicZap
  | publicZapAsShopper
  | publicZap
  | privateCheckout
  | payLater
  | externalWallet
  deriving DecidableEq

inductive OrderPublicZapSigner where
  | anon
  | shopper
  deriving DecidableEq

inductive OrderDeliveryStatus where
  | notStarted
  | pending
  | sent
  | failed
  deriving DecidableEq

inductive OrderInvoiceStatus where
  | notRequested
  | requesting
  | received
  | manualRequired
  | failed
  deriving DecidableEq

inductive OrderPaymentStatus where
  | notStarted
  | paying
  | paid
  | manualRequired
  | failed
  | ambiguous
  deriving DecidableEq

inductive OrderProofDeliveryStatus where
  | notStarted
  | pending
  | sent
  | retryNeeded
  | failed
  deriving DecidableEq

inductive OrderZapReceiptStatus where
  | notApplicable
  | waiting
  | observed
  | receiptNotObserved
  | timedOut
  deriving DecidableEq

inductive OrderLifecyclePhase where
  | pending
  | inProgress
  | completed
  | failed
  | cancelled
  deriving DecidableEq

inductive OrderPaymentTarget where
  | wallet (walletId providerId : Text)
  | webln
  | manual
  deriving DecidableEq

structure OrderLifecycleItem where
  productId : Text
  quantity : Int
  deriving DecidableEq

structure ExpiredManualInvoice where
  (invoice paymentHash : Text)
  expiresAt : Int
  deriving DecidableEq

structure OrderLifecycle where
  (orderId buyerPubkey merchantPubkey : Text)
  checkoutMode : OrderCheckoutMode
  checkoutSparkRouterBinding : Option Text
  publicZapSigner : Option OrderPublicZapSigner
  publicZapFallback : Option Bool
  merchantLightningAddress : Option Text
  paymentTarget : Option OrderPaymentTarget
  walletPaymentAttemptId : Option Text
  items : List OrderLifecycleItem
  (totalSats totalMsats : Int)
  zapContent : Option Text
  orderDeliveryStatus : OrderDeliveryStatus
  paymentClaimId : Option Text
  (paymentClaimedAt paymentClaimLeaseExpiresAt : Option Int)
  proofDeliveryClaimId : Option Text
  (proofDeliveryClaimedAt proofDeliveryClaimLeaseExpiresAt : Option Int)
  invoiceStatus : OrderInvoiceStatus
  paymentStatus : OrderPaymentStatus
  proofDeliveryStatus : OrderProofDeliveryStatus
  zapReceiptStatus : OrderZapReceiptStatus
  (invoice paymentHash : Option Text)
  priorExpiredManualInvoices : Option (List ExpiredManualInvoice)
  preimage : Option Text
  feeMsats : Option Int
  zapRequestId : Option Text
  zapRequestCreatedAt : Option Int
  zapReceiptId : Option Text
  zapReceiptRelayUrls : Option (List Text)
  (zapLnurl zapReceiptPubkey : Option Text)
  (invoiceExpiresAt zapReceiptObservationDeadline : Option Int)
  phase : OrderLifecyclePhase
  (lastError deliveryNotice : Option Text)
  (createdAt updatedAt : Int)
  completedAt : Option Int
  deriving DecidableEq

/-- A key of a patch: absent, or present with a value or `undefined`. -/
abbrev Given (α : Type) := Option (Option α)

/-- `Partial<Omit<OrderLifecycle, "orderId" | "createdAt">>`. -/
structure OrderLifecyclePatch where
  buyerPubkey : Option Text := none
  merchantPubkey : Option Text := none
  checkoutMode : Option OrderCheckoutMode := none
  checkoutSparkRouterBinding : Given Text := none
  publicZapSigner : Given OrderPublicZapSigner := none
  publicZapFallback : Given Bool := none
  merchantLightningAddress : Given Text := none
  paymentTarget : Given OrderPaymentTarget := none
  walletPaymentAttemptId : Given Text := none
  items : Option (List OrderLifecycleItem) := none
  totalSats : Option Int := none
  totalMsats : Option Int := none
  zapContent : Given Text := none
  orderDeliveryStatus : Option OrderDeliveryStatus := none
  paymentClaimId : Given Text := none
  paymentClaimedAt : Given Int := none
  paymentClaimLeaseExpiresAt : Given Int := none
  proofDeliveryClaimId : Given Text := none
  proofDeliveryClaimedAt : Given Int := none
  proofDeliveryClaimLeaseExpiresAt : Given Int := none
  invoiceStatus : Option OrderInvoiceStatus := none
  paymentStatus : Option OrderPaymentStatus := none
  proofDeliveryStatus : Option OrderProofDeliveryStatus := none
  zapReceiptStatus : Option OrderZapReceiptStatus := none
  invoice : Given Text := none
  paymentHash : Given Text := none
  priorExpiredManualInvoices : Given (List ExpiredManualInvoice) := none
  preimage : Given Text := none
  feeMsats : Given Int := none
  zapRequestId : Given Text := none
  zapRequestCreatedAt : Given Int := none
  zapReceiptId : Given Text := none
  zapReceiptRelayUrls : Given (List Text) := none
  zapLnurl : Given Text := none
  zapReceiptPubkey : Given Text := none
  invoiceExpiresAt : Given Int := none
  zapReceiptObservationDeadline : Given Int := none
  phase : Option OrderLifecyclePhase := none
  lastError : Given Text := none
  deliveryNotice : Given Text := none
  completedAt : Given Int := none

/-- A text that JavaScript takes for true. -/
def Present (value : Option Text) : Prop := value ≠ none ∧ value ≠ some []
  deriving Decidable

def getOrderPublicZapSigner : OrderCheckoutMode → Option OrderPublicZapSigner
  | .anonymousPublicZap => some .anon
  | .publicZapAsShopper => some .shopper
  | .publicZap => some .shopper
  | _ => none

variable (lifecycle : OrderLifecycle)

/-- `lifecycle.publicZapSigner ?? getOrderPublicZapSigner(lifecycle.checkoutMode)`. -/
def OrderLifecycle.zapSigner : Option OrderPublicZapSigner :=
  lifecycle.publicZapSigner.orElse fun _ => getOrderPublicZapSigner lifecycle.checkoutMode

def deriveOrderLifecyclePhase : OrderLifecyclePhase :=
  if lifecycle.phase = .cancelled then .cancelled
  else if lifecycle.phase = .completed then .completed
  else if lifecycle.orderDeliveryStatus = .failed then .failed
  else if lifecycle.paymentStatus = .paid then .inProgress
  else if lifecycle.paymentStatus = .paying ∨ lifecycle.invoiceStatus = .requesting ∨
      lifecycle.invoiceStatus = .received ∨ lifecycle.orderDeliveryStatus = .sent then
    .inProgress
  else if lifecycle.paymentStatus = .failed then .failed
  else .pending

variable (patch : OrderLifecyclePatch)

/-- `{ ...existing, ...patch }`, stamped. -/
def OrderLifecyclePatch.spread (existing : OrderLifecycle) (now : Int) : OrderLifecycle where
  orderId := existing.orderId
  buyerPubkey := patch.buyerPubkey.getD existing.buyerPubkey
  merchantPubkey := patch.merchantPubkey.getD existing.merchantPubkey
  checkoutMode := patch.checkoutMode.getD existing.checkoutMode
  checkoutSparkRouterBinding :=
    patch.checkoutSparkRouterBinding.getD existing.checkoutSparkRouterBinding
  publicZapSigner := patch.publicZapSigner.getD existing.publicZapSigner
  publicZapFallback := patch.publicZapFallback.getD existing.publicZapFallback
  merchantLightningAddress :=
    patch.merchantLightningAddress.getD existing.merchantLightningAddress
  paymentTarget := patch.paymentTarget.getD existing.paymentTarget
  walletPaymentAttemptId := patch.walletPaymentAttemptId.getD existing.walletPaymentAttemptId
  items := patch.items.getD existing.items
  totalSats := patch.totalSats.getD existing.totalSats
  totalMsats := patch.totalMsats.getD existing.totalMsats
  zapContent := patch.zapContent.getD existing.zapContent
  orderDeliveryStatus := patch.orderDeliveryStatus.getD existing.orderDeliveryStatus
  paymentClaimId := patch.paymentClaimId.getD existing.paymentClaimId
  paymentClaimedAt := patch.paymentClaimedAt.getD existing.paymentClaimedAt
  paymentClaimLeaseExpiresAt :=
    patch.paymentClaimLeaseExpiresAt.getD existing.paymentClaimLeaseExpiresAt
  proofDeliveryClaimId := patch.proofDeliveryClaimId.getD existing.proofDeliveryClaimId
  proofDeliveryClaimedAt := patch.proofDeliveryClaimedAt.getD existing.proofDeliveryClaimedAt
  proofDeliveryClaimLeaseExpiresAt :=
    patch.proofDeliveryClaimLeaseExpiresAt.getD existing.proofDeliveryClaimLeaseExpiresAt
  invoiceStatus := patch.invoiceStatus.getD existing.invoiceStatus
  paymentStatus := patch.paymentStatus.getD existing.paymentStatus
  proofDeliveryStatus := patch.proofDeliveryStatus.getD existing.proofDeliveryStatus
  zapReceiptStatus := patch.zapReceiptStatus.getD existing.zapReceiptStatus
  invoice := patch.invoice.getD existing.invoice
  paymentHash := patch.paymentHash.getD existing.paymentHash
  priorExpiredManualInvoices :=
    patch.priorExpiredManualInvoices.getD existing.priorExpiredManualInvoices
  preimage := patch.preimage.getD existing.preimage
  feeMsats := patch.feeMsats.getD existing.feeMsats
  zapRequestId := patch.zapRequestId.getD existing.zapRequestId
  zapRequestCreatedAt := patch.zapRequestCreatedAt.getD existing.zapRequestCreatedAt
  zapReceiptId := patch.zapReceiptId.getD existing.zapReceiptId
  zapReceiptRelayUrls := patch.zapReceiptRelayUrls.getD existing.zapReceiptRelayUrls
  zapLnurl := patch.zapLnurl.getD existing.zapLnurl
  zapReceiptPubkey := patch.zapReceiptPubkey.getD existing.zapReceiptPubkey
  invoiceExpiresAt := patch.invoiceExpiresAt.getD existing.invoiceExpiresAt
  zapReceiptObservationDeadline :=
    patch.zapReceiptObservationDeadline.getD existing.zapReceiptObservationDeadline
  phase := patch.phase.getD existing.phase
  lastError := patch.lastError.getD existing.lastError
  deliveryNotice := patch.deliveryNotice.getD existing.deliveryNotice
  createdAt := existing.createdAt
  updatedAt := now
  completedAt := patch.completedAt.getD existing.completedAt

def OrderLifecyclePatch.ReleasesClaim : Prop :=
  patch.paymentClaimId = some none
  deriving Decidable

def OrderLifecyclePatch.EndsProofDelivery : Prop :=
  patch.proofDeliveryClaimId = some none ∨
    (patch.proofDeliveryStatus ≠ none ∧ patch.proofDeliveryStatus ≠ some .pending)
  deriving Decidable

def OrderLifecycle.withPhase (phase : OrderLifecyclePhase) : OrderLifecycle :=
  { lifecycle with
    phase := phase
    completedAt :=
      if phase = .completed ∧ (lifecycle.completedAt = none ∨ lifecycle.completedAt = some 0) then
        some lifecycle.updatedAt
      else lifecycle.completedAt }

def mergeOrderLifecyclePatch (existing : OrderLifecycle) (patch : OrderLifecyclePatch)
    (now : Int) : OrderLifecycle :=
  let spread := patch.spread existing now
  let merged :=
    { spread with
      paymentClaimedAt := if patch.ReleasesClaim then none else spread.paymentClaimedAt
      paymentClaimLeaseExpiresAt :=
        if patch.ReleasesClaim then none else spread.paymentClaimLeaseExpiresAt
      proofDeliveryClaimId :=
        if patch.EndsProofDelivery then none else spread.proofDeliveryClaimId
      proofDeliveryClaimedAt :=
        if patch.EndsProofDelivery then none else spread.proofDeliveryClaimedAt
      proofDeliveryClaimLeaseExpiresAt :=
        if patch.EndsProofDelivery then none else spread.proofDeliveryClaimLeaseExpiresAt }
  merged.withPhase (patch.phase.getD (deriveOrderLifecyclePhase merged))

section Merge

variable (existing : OrderLifecycle) (patch : OrderLifecyclePatch) (now : Int)

lemma merge_proofDeliveryClaimId :
    (mergeOrderLifecyclePatch existing patch now).proofDeliveryClaimId =
      if patch.EndsProofDelivery then none
      else patch.proofDeliveryClaimId.getD existing.proofDeliveryClaimId := rfl

end Merge

structure StoredPaymentAttempt where
  (id orderId buyerPubkey merchantPubkey : Text)
  amountMsats : Int
  currency : Text
  (invoice paymentHash preimage : Option Text)
  feeMsats : Option Int
  (zapRequestId zapReceiptId : Option Text)
  proofDeliveryStatus : OrderProofDeliveryStatus
  (createdAt updatedAt : Int)

inductive Reply (σ : Type) where
  | rejected (message : String)
  | missing
  | kept (status : σ)
  | put (status : σ) (lifecycle : OrderLifecycle)
  | putBoth (status : σ) (lifecycle : OrderLifecycle) (attempt : StoredPaymentAttempt)

def Reply.row {σ : Type} (lifecycle : OrderLifecycle) : Reply σ → OrderLifecycle
  | .put _ next => next
  | .putBoth _ next _ => next
  | _ => lifecycle

/-- The attempt's row after the transaction. -/
def Reply.attempt {σ : Type} (attempt : Option StoredPaymentAttempt) :
    Reply σ → Option StoredPaymentAttempt
  | .putBoth _ _ next => some next
  | _ => attempt

/-- A transaction that first reads the order. -/
def onOrder {σ : Type} (lifecycle : Option OrderLifecycle) (f : OrderLifecycle → Reply σ) :
    Reply σ :=
  match lifecycle with
  | some lifecycle => f lifecycle
  | none => .missing

end Conduit.Orders
