import Conduit.Orders.Lifecycle
import Mathlib.Data.List.Sort

namespace Conduit.Orders

open Js

structure ParsedOrderMessage where
  (orderId content : Text)

inductive KnownOrderStatus where
  | cancelled
  | refundRequested
  | other (status : Text)
  deriving DecidableEq

structure EffectiveMerchantOrderStatus where
  knownStatus : Option KnownOrderStatus
  reopenedCancellationId : Option Text

structure OrderSummary where
  (paymentConfirmed shippingUpdateReceived : Bool)

structure OrderPlatform extends Platform where
  /-- `getExpectedLightningNetworks()`. -/
  expectedLightningNetworks : List LightningInvoiceNetwork
  /-- `String.prototype.localeCompare`. -/
  localeCompare : Text → Text → Int
  /-- `getEffectiveMerchantOrderStatus` of an order's messages, for its buyer and merchant. -/
  getEffectiveMerchantOrderStatus : List ParsedOrderMessage → Text → Text →
    EffectiveMerchantOrderStatus
  /-- `extractOrderSummary` of the same. -/
  extractOrderSummary : List ParsedOrderMessage → Text → Text → OrderSummary

variable (P : OrderPlatform)

def isInvoiceCompatibleWithCurrentNetwork (invoice : Text) : Bool :=
  decide (getLightningInvoiceNetwork invoice ∈ P.expectedLightningNetworks)

/-- `validateLightningInvoiceForPayment(…)` with its metadata's `expiresAt`, where it is `ok`. -/
def validateLightningInvoiceForPayment (invoice : Text) (expectedAmountMsats nowSeconds : Int)
    (allowExpired : Bool) : Option Int :=
  if isInvoiceCompatibleWithCurrentNetwork P invoice = true ∧
      decodeLightningInvoiceMsats P.toPlatform invoice = some expectedAmountMsats then
    (decodeLightningInvoiceExpiresAt P.toPlatform invoice).filter fun expiresAt =>
      allowExpired || decide (nowSeconds < expiresAt)
  else none

structure OrderPaymentClaimInput where
  (orderId paymentClaimId buyerPubkey merchantPubkey : Text)
  merchantLightningAddress : Option Text
  checkoutMode : OrderCheckoutMode
  zapContent : Text
  (totalSats totalMsats : Int)
  items : List OrderLifecycleItem
  paymentTarget : OrderPaymentTarget

def canonicalPaymentItems (items : List OrderLifecycleItem) : List OrderLifecycleItem :=
  items.insertionSort fun left right =>
    if left.productId = right.productId then left.quantity ≤ right.quantity
    else P.localeCompare left.productId right.productId ≤ 0

variable (lifecycle : OrderLifecycle)

def checkoutModesMatchForPayment (requestedMode : OrderCheckoutMode) : Bool :=
  let storedSigner := lifecycle.zapSigner
  let requestedSigner := getOrderPublicZapSigner requestedMode
  if storedSigner ≠ none ∨ requestedSigner ≠ none then decide (storedSigner = requestedSigner)
  else
    decide (requestedMode = .privateCheckout) &&
      (decide (lifecycle.checkoutMode = .privateCheckout) ||
        decide (lifecycle.checkoutMode = .externalWallet))

def paymentTargetsEqual (stored : Option OrderPaymentTarget) (requested : OrderPaymentTarget) :
    Bool :=
  decide (stored = some requested)

def paymentClaimIdentityMatchesLifecycle (input : OrderPaymentClaimInput) : Bool :=
  decide (lifecycle.orderId = input.orderId) &&
  decide (lifecycle.buyerPubkey = input.buyerPubkey) &&
  decide (lifecycle.merchantPubkey = input.merchantPubkey) &&
  decide (lifecycle.merchantLightningAddress = input.merchantLightningAddress) &&
  decide (lifecycle.totalSats = input.totalSats) &&
  decide (lifecycle.totalMsats = input.totalMsats) &&
  paymentTargetsEqual lifecycle.paymentTarget input.paymentTarget &&
  decide (canonicalPaymentItems P lifecycle.items = canonicalPaymentItems P input.items)

variable (input : OrderPaymentClaimInput)

def paymentClaimMatchesLifecycle : Bool :=
  paymentClaimIdentityMatchesLifecycle P lifecycle input &&
  checkoutModesMatchForPayment lifecycle input.checkoutMode &&
  decide (lifecycle.zapContent.getD [] = input.zapContent)

/-- `/^[0-9a-f]{8}-[0-9a-f]{4}-4[0-9a-f]{3}-[89ab][0-9a-f]{3}-[0-9a-f]{12}$/i`. -/
def IsUuidV4 (id : Text) : Prop :=
  match split '-' (toLowerCase id) with
  | [a, b, '4' :: c, d :: e, f] =>
    (a ++ b ++ c ++ e ++ f).all isHexChar = true ∧ d ∈ ['8', '9', 'a', 'b'] ∧
      a.length = 8 ∧ b.length = 4 ∧ c.length = 3 ∧ e.length = 3 ∧ f.length = 12
  | _ => False

instance (id : Text) : Decidable (IsUuidV4 id) := by
  unfold IsUuidV4; split <;> infer_instance

/-- The attempt's token is kept for retries; `fresh` is the value of `crypto.randomUUID()`. -/
def getWalletPaymentAttemptId (fresh : Text) : Text :=
  match lifecycle.walletPaymentAttemptId with
  | some existing =>
    if existing ≠ [] ∧ existing ≠ lifecycle.orderId ∧ IsUuidV4 existing then existing else fresh
  | none => fresh

def OrderPaymentTarget.isWallet : OrderPaymentTarget → Bool
  | .wallet .. => true
  | _ => false

def orderPaymentClaimLeaseMs : Int := 15000
def orderProofDeliveryClaimLeaseMs : Int := 30000
def legacyOrderPaymentRecoveryGraceMs : Int := 300000
def maxPriorExpiredManualInvoices : Nat := 32

def claimPatch (walletPaymentAttemptId : Option Text) (now : Int) : OrderLifecyclePatch where
  paymentClaimId := some (some input.paymentClaimId)
  paymentClaimedAt := some (some now)
  paymentClaimLeaseExpiresAt := some (some (now + orderPaymentClaimLeaseMs))
  walletPaymentAttemptId := some walletPaymentAttemptId
  invoiceStatus := some .requesting
  paymentStatus := some .notStarted
  proofDeliveryStatus := some .notStarted
  zapReceiptStatus := some .notApplicable
  invoice := some none
  paymentHash := some none
  preimage := some none
  feeMsats := some none
  zapRequestId := some none
  zapRequestCreatedAt := some none
  zapReceiptId := some none
  zapReceiptRelayUrls := some none
  zapLnurl := some none
  zapReceiptPubkey := some none
  invoiceExpiresAt := some none
  zapReceiptObservationDeadline := some none
  lastError := some none

/-- `buildClaimedOrderLifecycle`; `overrides` edits the claim's patch. -/
def buildClaimedOrderLifecycle (walletPaymentAttemptId : Option Text) (now : Int)
    (overrides : OrderLifecyclePatch → OrderLifecyclePatch) : OrderLifecycle :=
  mergeOrderLifecyclePatch lifecycle (overrides (claimPatch input walletPaymentAttemptId now)) now

/-- The token of a claim that does not override it. -/
def claimedAttemptId (fresh : Text) : Option Text :=
  if input.paymentTarget.isWallet = true then some (getWalletPaymentAttemptId lifecycle fresh)
  else none

/-- The token of a claim that starts over. -/
def newAttemptId (fresh : Text) : Option Text :=
  if input.paymentTarget.isWallet = true then some fresh else none

def OrderLifecycle.IsOpen : Prop :=
  lifecycle.checkoutSparkRouterBinding = none ∧ lifecycle.orderDeliveryStatus = .sent ∧
    lifecycle.phase ≠ .completed ∧ lifecycle.phase ≠ .cancelled
  deriving Decidable

def canStartOrReplaceOrderPayment : Bool :=
  decide lifecycle.IsOpen &&
    ((decide (lifecycle.paymentStatus = .notStarted) &&
        decide (lifecycle.invoiceStatus = .notRequested)) ||
      decide (lifecycle.paymentStatus = .failed))

inductive OrderPaymentClaimStatus where
  | claimed (preclaimLifecycle : OrderLifecycle)
  | snapshotMismatch
  | unsafeState
  | invoiceHistoryLimit

/-- `getOrderLifecyclePaymentAdmission` of an order that exists: `none` where it is admissible. -/
def getOrderLifecyclePaymentAdmission
    (input : OrderPaymentClaimInput) : Option OrderPaymentClaimStatus :=
  if Present lifecycle.paymentClaimId then some .unsafeState
  else if paymentClaimMatchesLifecycle P lifecycle input = false then some .snapshotMismatch
  else if canStartOrReplaceOrderPayment lifecycle = true then none
  else some .unsafeState

def claimIdRequired : String := "Payment claim ID is required."

def putClaim (shouldContinue : Bool) (lifecycle claimed : OrderLifecycle) :
    Reply OrderPaymentClaimStatus :=
  if shouldContinue = true then .put (.claimed lifecycle) claimed else .kept .unsafeState

def claimOrderLifecyclePayment (shouldContinue : Bool)
    (now : Int) (fresh : Text) (lifecycle : OrderLifecycle) : Reply OrderPaymentClaimStatus :=
  if trim input.paymentClaimId = [] then .rejected claimIdRequired
  else
    match getOrderLifecyclePaymentAdmission P lifecycle input with
    | some refusal => .kept refusal
    | none =>
      putClaim shouldContinue lifecycle
        (buildClaimedOrderLifecycle lifecycle input (claimedAttemptId lifecycle input fresh) now
          id)

/-- `Math.floor(nowMs / 1_000)`. -/
def toSeconds (nowMs : Int) : Int := nowMs.fdiv 1000

def isExpiredManualInvoiceRetryEligible (normalizedExpectedInvoice : Text) (nowMs : Int) : Bool :=
  let storedInvoice := normalizeLightningInvoice (lifecycle.invoice.getD [])
  match decodeLightningInvoicePaymentHash P.toPlatform storedInvoice,
    validateLightningInvoiceForPayment P storedInvoice lifecycle.totalMsats (toSeconds nowMs)
      true with
  | some storedPaymentHash, some expiresAt =>
    decide (lifecycle.checkoutSparkRouterBinding = none) &&
    decide (normalizedExpectedInvoice ≠ []) &&
    decide (toLowerCase storedInvoice = toLowerCase normalizedExpectedInvoice) &&
    (decide (lifecycle.checkoutMode = .privateCheckout) ||
      decide (lifecycle.checkoutMode = .externalWallet)) &&
    decide (lifecycle.publicZapSigner = none) &&
    decide (lifecycle.paymentTarget = some .manual) &&
    decide (lifecycle.orderDeliveryStatus = .sent) &&
    decide (lifecycle.phase ≠ .completed) && decide (lifecycle.phase ≠ .cancelled) &&
    decide (lifecycle.completedAt = none) &&
    decide (lifecycle.invoiceStatus = .manualRequired) &&
    decide (lifecycle.paymentStatus = .manualRequired) &&
    decide (lifecycle.proofDeliveryStatus = .notStarted) &&
    decide (lifecycle.zapReceiptStatus = .notApplicable) &&
    decide (lifecycle.paymentClaimId = none) && decide (lifecycle.proofDeliveryClaimId = none) &&
    decide (lifecycle.preimage = none) && decide (lifecycle.feeMsats = none) &&
    decide (lifecycle.invoiceExpiresAt = none ∨ lifecycle.invoiceExpiresAt = some expiresAt) &&
    decide (expiresAt ≤ toSeconds nowMs) &&
    decide (lifecycle.paymentHash = none ∨
      lifecycle.paymentHash.map toLowerCase = some (toLowerCase storedPaymentHash))
  | _, _ => false

def ExpiredManualInvoice.SameAs (a b : ExpiredManualInvoice) : Prop :=
  toLowerCase a.invoice = toLowerCase b.invoice ∧
    toLowerCase a.paymentHash = toLowerCase b.paymentHash
  deriving Decidable

def distinctInvoices : List ExpiredManualInvoice → List ExpiredManualInvoice :=
  List.foldl (fun kept entry =>
    if kept.any (fun candidate => decide (candidate.SameAs entry)) = true then kept
    else kept ++ [entry]) []

def currentManualInvoice (now : Int) : ExpiredManualInvoice where
  invoice := normalizeLightningInvoice (lifecycle.invoice.getD [])
  paymentHash :=
    (decodeLightningInvoicePaymentHash P.toPlatform (lifecycle.invoice.getD [])).getD []
  expiresAt :=
    (validateLightningInvoiceForPayment P (lifecycle.invoice.getD []) lifecycle.totalMsats
      (toSeconds now) true).getD 0

def claimExpiredOrderInvoiceForRetry (expectedInvoice : Text)
    (expectedUpdatedAt : Option Int) (shouldContinue : Bool) (now : Int) (fresh : Text)
    (attempt : Option StoredPaymentAttempt) (lifecycle : OrderLifecycle) :
    Reply OrderPaymentClaimStatus :=
  if trim input.paymentClaimId = [] then .rejected claimIdRequired
  else if paymentClaimMatchesLifecycle P lifecycle input = false ∨
      (expectedUpdatedAt ≠ none ∧ some lifecycle.updatedAt ≠ expectedUpdatedAt) then
    .kept .snapshotMismatch
  else if isExpiredManualInvoiceRetryEligible P lifecycle
        (normalizeLightningInvoice expectedInvoice) now = false ∨
      input.paymentTarget ≠ .manual then
    .kept .unsafeState
  else if attempt ≠ none then .kept .unsafeState
  else
    let currentInvoice := currentManualInvoice P lifecycle now
    let priorInvoices := lifecycle.priorExpiredManualInvoices.getD []
    let retained := priorInvoices.any fun entry => decide (entry.SameAs currentInvoice)
    let distinctPriorInvoices := distinctInvoices priorInvoices
    if retained = false ∧ maxPriorExpiredManualInvoices ≤ distinctPriorInvoices.length then
      .kept .invoiceHistoryLimit
    else
      putClaim shouldContinue lifecycle
        (buildClaimedOrderLifecycle lifecycle input (claimedAttemptId lifecycle input fresh)
          (max now (lifecycle.updatedAt + 1)) fun patch =>
            { patch with
              priorExpiredManualInvoices := some (some (if retained = true then
                distinctPriorInvoices else distinctPriorInvoices ++ [currentInvoice])) })

/-- `getOrderPaymentAddressReplacementAdmission` of an order that exists. -/
def isAddressReplaceable : Bool :=
  decide lifecycle.IsOpen &&
  decide (lifecycle.completedAt = none) &&
  decide (lifecycle.checkoutMode ≠ .payLater) &&
  decide (lifecycle.paymentStatus = .failed) && decide (lifecycle.invoiceStatus = .failed) &&
  decide (lifecycle.proofDeliveryStatus = .notStarted) &&
  decide (lifecycle.zapReceiptStatus = .notApplicable) &&
  decide (¬ Present lifecycle.paymentClaimId) &&
  decide (¬ Present lifecycle.proofDeliveryClaimId) &&
  decide (¬ Present lifecycle.invoice) && decide (¬ Present lifecycle.paymentHash) &&
  decide (¬ Present lifecycle.preimage) && decide (lifecycle.feeMsats = none) &&
  decide (¬ Present lifecycle.zapReceiptId) && decide (lifecycle.invoiceExpiresAt = none) &&
  decide (lifecycle.zapReceiptObservationDeadline = none)

def claimOrderLifecycleUpdatedAddressPayment
    (expectedUpdatedAt : Int) (newMerchantLightningAddress : Text) (shouldContinue : Bool)
    (now : Int) (fresh : Text) (attempt : Option StoredPaymentAttempt)
    (lifecycle : OrderLifecycle) : Reply OrderPaymentClaimStatus :=
  let address := toLowerCase (trim newMerchantLightningAddress)
  if trim input.paymentClaimId = [] then .rejected claimIdRequired
  else if isAddressReplaceable lifecycle = false then .kept .unsafeState
  else if lifecycle.updatedAt ≠ expectedUpdatedAt ∨
      paymentClaimMatchesLifecycle P lifecycle input = false then
    .kept .snapshotMismatch
  else if ¬ IsValidLud16Address address ∨
      some address = lifecycle.merchantLightningAddress.map fun stored =>
        toLowerCase (trim stored) then
    .kept .unsafeState
  else if attempt ≠ none then .kept .unsafeState
  else
    putClaim shouldContinue lifecycle
      (buildClaimedOrderLifecycle lifecycle input (newAttemptId input fresh)
        (max now (lifecycle.updatedAt + 1)) fun patch =>
          { patch with merchantLightningAddress := some (some address) })

def claimOrderLifecyclePrivateFallbackPayment
    (shouldContinue : Bool) (now : Int) (fresh : Text) (lifecycle : OrderLifecycle) :
    Reply OrderPaymentClaimStatus :=
  if input.checkoutMode ≠ .privateCheckout ∨
      paymentClaimIdentityMatchesLifecycle P lifecycle input = false then
    .kept .snapshotMismatch
  else if ¬ lifecycle.IsOpen ∨ Present lifecycle.paymentClaimId ∨
      lifecycle.zapSigner ≠ some .anon ∨ lifecycle.invoiceStatus ≠ .failed ∨
      lifecycle.paymentStatus ≠ .failed then
    .kept .unsafeState
  else
    putClaim shouldContinue lifecycle
      (buildClaimedOrderLifecycle lifecycle input (newAttemptId input fresh) now fun patch =>
        { patch with
          merchantLightningAddress := some input.merchantLightningAddress
          checkoutMode := some .privateCheckout
          publicZapSigner := some none
          publicZapFallback := some (some true)
          zapContent := some (some []) })

inductive ReplaceOrderPaymentTargetStatus where
  | updated
  | unsafeState

def replaceOrderPaymentTarget (paymentTarget : OrderPaymentTarget) (shouldContinue : Bool)
    (now : Int) (lifecycle : OrderLifecycle) : Reply ReplaceOrderPaymentTargetStatus :=
  if canStartOrReplaceOrderPayment lifecycle = false then .kept .unsafeState
  else if shouldContinue = false then .kept .unsafeState
  else
    .put .updated
      { lifecycle with
        paymentTarget := some paymentTarget
        walletPaymentAttemptId :=
          if paymentTargetsEqual lifecycle.paymentTarget paymentTarget = true ∧
              paymentTarget.isWallet = true then
            lifecycle.walletPaymentAttemptId
          else none
        updatedAt := now }

inductive PreparationFailureStatus where
  | recorded
  | refused (refusal : OrderPaymentClaimStatus)

def recordOrderPaymentPreparationFailure (lastError : Text)
    (now : Int) (lifecycle : OrderLifecycle) : Reply PreparationFailureStatus :=
  match getOrderLifecyclePaymentAdmission P lifecycle input with
  | some refusal => .kept (.refused refusal)
  | none =>
    .put .recorded (mergeOrderLifecyclePatch lifecycle
      { paymentClaimId := some none
        invoiceStatus := some .failed
        paymentStatus := some .failed
        proofDeliveryStatus := some .notStarted
        zapReceiptStatus := some .notApplicable
        lastError := some (some lastError) } now)

end Conduit.Orders
