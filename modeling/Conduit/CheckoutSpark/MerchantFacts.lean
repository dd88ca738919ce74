import Conduit.CheckoutSpark.Operations

namespace Conduit.CheckoutSpark

open Js Throwing

inductive ReceiveCreditMode where
  | ordinaryV3
  | committedQuoteV4
  deriving DecidableEq

structure ReceiveCreditProof where
  mode : ReceiveCreditMode
  (requestId transferId receiverIdentityPublicKey : Text)
  (grossSats creditedSats : Int)

inductive OutgoingStatus where
  | notFound
  | lookupUnavailable
  | conflictingEvidence
  | pending
  | terminalFailure
  | paid (finalFeeSats finalDebitSats : Int)

structure OutgoingObservation where
  (legId transferId paymentRequest paymentHash : Text)
  (invoiceAmountSats maxFeeSats : Int)
  status : OutgoingStatus

/-- Private device-local attestation. -/
structure InvoiceOriginRecord where
  schemaVersion : Nat
  (legId intentDigest : Text)
  resolvedAt : Int

/-- Device-local fresh provider observation. -/
structure InvoiceRecipientRecord where
  schemaVersion : Nat
  (source legId intentDigest : Text)
  verifiedAt : Int
  providerSettled : Bool

def ReceiverMode.name : ReceiverMode → Text
  | .isPrivate => "private"
  | .isPublic => "public"

def publicZapValue (zap : PublicZapContext) : Json :=
  .obj [("schemaVersion", .num 1), ("requestJson", .str zap.requestJson),
    ("requestId", .str zap.requestId), ("requestCreatedAt", .num zap.requestCreatedAt),
    ("recipientPubkey", .str zap.recipientPubkey), ("receiptPubkey", .str zap.receiptPubkey),
    ("lnurl", .str zap.lnurl), ("callback", .str zap.callback),
    ("payRequestUrl", .str zap.payRequestUrl)]

def receiverBindingValue (binding : ReceiverBinding) : Json :=
  .obj [("schemaVersion", .num 1), ("contractId", .str binding.contractId),
    ("mode", .str binding.mode.name), ("lud16", .str binding.lud16),
    ("payRequestUrl", .str binding.payRequestUrl), ("callbackUrl", .str binding.callbackUrl),
    ("metadata", .str binding.metadata), ("verifyUrl", .str binding.verifyUrl)]

variable (P : Platform)

variable (plan : SettledPlan)

variable (target : OutgoingTarget)

/-- `intentDigest` of the invoice origin. -/
def originIntentDigest : Result Text := do
  requireSettledExactOutgoingRequest P plan target
  let binding ← optionResult (freezeReceiverBinding P) target.intent.receiverBinding
  return P.digest (.arr ([.str "conduit.checkout-spark.local-invoice-origin.v1",
      .str plan.checkoutId, .str plan.planDigest, .str target.legId, .str target.recipientId,
      .num target.allocationSats, .str plan.walletId, .str plan.network.name,
      .str target.intent.transferId, .str target.intent.paymentRequest,
      .str target.intent.paymentHash, .num target.intent.invoiceAmountSats,
      .num target.intent.maxFeeSats, .num target.intent.preparedAt] ++
    Json.ofOption (fun zap => .arr [.str "conduit:checkout-spark-public-invoice-origin:v1",
      publicZapValue zap]) target.intent.publicZap ++
    Json.ofOption (fun b => .arr [.str "conduit:checkout-spark-receiver-binding:v1",
      receiverBindingValue b]) binding))

def qualifiedReceiverSource : Text := "qualified_receiver_v1"

/-- `intentDigest` of the invoice recipient. -/
def recipientIntentDigest : Result Text := do
  requireSettledExactOutgoingRequest P plan target
  let recipient ← requireSome (plan.recipient target.legId)
  let binding ← optionResult (freezeReceiverBinding P) target.intent.receiverBinding
  return P.digest (.arr [.str "conduit.checkout-spark.provider-invoice-recipient.v1",
    .str qualifiedReceiverSource, .str plan.checkoutId, .str plan.planDigest,
    .str plan.merchantPubkey, .str plan.orderId, .str plan.walletId, .str target.legId,
    .str target.recipientId, .num target.allocationSats, .str recipient.kind.name,
    .str "lightning_address", .str recipient.destination, .str plan.network.name,
    .str target.intent.transferId, .str target.intent.paymentRequest,
    .str target.intent.paymentHash, .num target.intent.invoiceAmountSats,
    .num target.intent.maxFeeSats, .num target.intent.preparedAt,
    (binding.map receiverBindingValue).getD .null])

def hasInvoiceOrigin (record : Option InvoiceOriginRecord) (plan : SettledPlan)
    (target : OutgoingTarget) : Result Bool :=
  match record with
  | none => .ok false
  | some record =>
    if record.schemaVersion = 1 ∧ record.legId = target.legId ∧
        NonnegativeSafe record.resolvedAt ∧ record.resolvedAt ≤ target.intent.preparedAt then do
      let digest ← originIntentDigest P plan target
      return record.intentDigest = digest
    else .ok false

variable (record : Option InvoiceRecipientRecord)

/-- Accept only records from this device's trusted verification storage. -/
def hasInvoiceRecipient (plan : SettledPlan) (target : OutgoingTarget) : Bool :=
  match record with
  | none => false
  | some record =>
    if record.schemaVersion = 1 ∧ record.source = qualifiedReceiverSource ∧
        record.legId = target.legId ∧ IsSafeInteger record.verifiedAt ∧
        target.intent.preparedAt ≤ record.verifiedAt then
      match recipientIntentDigest P plan target with
      | .ok digest => record.intentDigest = digest
      | .error _ => false
    else false

def hasInvoiceRecipientSettlement (plan : SettledPlan) (target : OutgoingTarget) : Bool :=
  record.any (·.providerSettled) && hasInvoiceRecipient P record plan target

def isAttributed (origin : Option InvoiceOriginRecord) (recipient : Option InvoiceRecipientRecord) :
    Result Bool :=
  if target.intent.receiverBinding.isSome then
    .ok (hasInvoiceRecipientSettlement P recipient plan target)
  else do
    let byOrigin ← hasInvoiceOrigin P origin plan target
    return byOrigin || hasInvoiceRecipient P recipient plan target

def creditedReconciliation (evidence : CreditEvidence) : Result SettledReconciliation := do
  let created ← createSettledReconciliation P plan
  recordSettledCredit P created evidence

def SettledReconciliation.allocation (state : SettledReconciliation) (legId : Text) : Option Int :=
  (state.leg legId).bind (·.allocationSats)

def proofEvidence (proof : ReceiveCreditProof) (observedAt : Int) : CreditEvidence where
  requestId := proof.requestId
  paymentHash := plan.funding.paymentHash
  transferId := proof.transferId
  receiverIdentityPublicKey := proof.receiverIdentityPublicKey
  grossSats := proof.grossSats
  creditedSats := proof.creditedSats
  observedAt := observedAt

def recordedEvidence (credit : SettlementCredit) : CreditEvidence where
  requestId := plan.funding.requestId
  paymentHash := plan.funding.paymentHash
  transferId := credit.transferId
  receiverIdentityPublicKey := plan.funding.receiverIdentityPublicKey
  grossSats := plan.funding.grossFundingSats
  creditedSats := credit.creditedSats
  observedAt := credit.observedAt

variable (record : MerchantSettlementRecord)

def recordMerchantCredit (plan : SettledPlan)
    (proof : ReceiveCreditProof) (observedAt : Int) : Result MerchantSettlementRecord := do
  let current ← restoreMerchantSettlementRecord P record plan
  reject (proof.mode ≠ .ordinaryV3) settlementInvalid
  reject (¬ NonnegativeSafe observedAt) settlementInvalid
  let verified ← creditedReconciliation P plan (proofEvidence plan proof observedAt)
  let credit ← requireSome verified.credit
  reject (∃ paid ∈ current.paidLegs, verified.allocation paid.legId ≠ some paid.allocationSats)
    settlementInvalid
  match current.credit with
  | some known => do
    reject (known.transferId ≠ credit.transferId ∨ known.creditedSats ≠ credit.creditedSats)
      settlementInvalid
    return current
  | none =>
    return { current with
      credit := some {
        transferId := credit.transferId
        creditedSats := credit.creditedSats
        observedAt := credit.observedAt } }

def MerchantSettlementRecord.Tracks (legId : Text) : Prop :=
  legId ∈ record.requiredCommerceLegIds ∨ legId = record.feeLegId ∨
    (record.schemaVersion = 3 ∧ some legId = record.organizerLegId)
  deriving Decidable

def OutgoingObservation.Answers (observation : OutgoingObservation) (target : OutgoingTarget)
    (finalFeeSats finalDebitSats : Int) : Prop :=
  observation.legId = target.legId ∧ observation.transferId = target.intent.transferId ∧
  observation.paymentRequest = target.intent.paymentRequest ∧
  observation.paymentHash = target.intent.paymentHash ∧
  observation.invoiceAmountSats = target.intent.invoiceAmountSats ∧
  observation.maxFeeSats = target.intent.maxFeeSats ∧
  NonnegativeSafe finalFeeSats ∧ finalFeeSats ≤ target.intent.maxFeeSats ∧
  finalDebitSats = target.intent.invoiceAmountSats + finalFeeSats ∧
  finalDebitSats ≤ target.allocationSats
  deriving Decidable

def assertRecordedAllocation (credit : Option SettlementCredit) : Result Unit :=
  match credit with
  | none => .ok ()
  | some credit => do
    let verified ← creditedReconciliation P plan (recordedEvidence plan credit)
    reject (verified.allocation target.legId ≠ some target.allocationSats) settlementInvalid

/-- The provider facts that two records of one paid leg must share. -/
def SettlementPaidLeg.receipt (leg : SettlementPaidLeg) : Text × Int × Int × Int :=
  (leg.transferId, leg.allocationSats, leg.finalDebitSats, leg.finalFeeSats)

def addPaidLeg (next : SettlementPaidLeg) : Result MerchantSettlementRecord :=
  match record.paidLegs.find? fun leg => leg.legId = next.legId with
  | some previous => do
    reject (previous.receipt ≠ next.receipt) settlementInvalid
    return if next.recipientVerified = true ∧ previous.recipientVerified = false then
      { record with
        paidLegs := record.paidLegs.map fun leg =>
          if leg.legId = next.legId then { leg with recipientVerified := true } else leg }
    else record
  | none => return { record with paidLegs := record.paidLegs ++ [next] }

/-- Input observation must come from exact provider history, never from buyer state. -/
def recordMerchantPayout (plan : SettledPlan)
    (target : OutgoingTarget) (observation : OutgoingObservation) (observedAt : Int)
    (invoiceOrigin : Option InvoiceOriginRecord)
    (invoiceRecipient : Option InvoiceRecipientRecord) : Result MerchantSettlementRecord := do
  let current ← restoreMerchantSettlementRecord P record plan
  requireSettledExactOutgoingRequest P plan target
  match observation.status with
  | .paid finalFeeSats finalDebitSats => do
    reject (plan.recipient target.legId = none ∨ ¬ current.Tracks target.legId ∨
        ¬ observation.Answers target finalFeeSats finalDebitSats ∨
        observedAt < target.intent.preparedAt ∨ ¬ NonnegativeSafe observedAt)
      settlementInvalid
    assertRecordedAllocation P plan target current.credit
    let recipientVerified ← isAttributed P plan target invoiceOrigin invoiceRecipient
    addPaidLeg current {
      legId := target.legId
      transferId := target.intent.transferId
      allocationSats := target.allocationSats
      finalDebitSats := finalDebitSats
      finalFeeSats := finalFeeSats
      observedAt := observedAt
      recipientVerified := recipientVerified }
  | _ => .error settlementInvalid

structure SettlementProjection where
  (creditVerified merchantVerified commerceVerified feePending recipientUnverified : Bool)

def MerchantSettlementRecord.Attributes (legId : Text) : Prop :=
  ∃ leg ∈ record.paidLegs, leg.recipientVerified = true ∧ leg.legId = legId
  deriving Decidable

/-- A buyer-signed paid claim is intentionally not an input to this projection. -/
def projectMerchantSettlement : Result SettlementProjection := do
  reject (¬ record.Valid) settlementInvalid
  let creditVerified := record.credit.isSome
  return {
    creditVerified := creditVerified
    merchantVerified := match record.merchantLegId with
      | none => creditVerified
      | some merchantLegId => record.Attributes merchantLegId
    commerceVerified := creditVerified ∧ ∀ legId ∈ record.requiredCommerceLegIds,
      record.Attributes legId
    feePending := creditVerified ∧
      if record.schemaVersion = 2 ∨ record.schemaVersion = 3 then record.nativeTreasury = none
      else ¬ ∃ leg ∈ record.paidLegs, leg.legId = record.feeLegId
    recipientUnverified := ∃ leg ∈ record.paidLegs, leg.recipientVerified = false }

end Conduit.CheckoutSpark
