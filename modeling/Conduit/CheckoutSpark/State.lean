import Conduit.CheckoutSpark.Plan

namespace Conduit.CheckoutSpark

open Js Throwing

structure CreditEvidence where
  (requestId paymentHash transferId receiverIdentityPublicKey : Text)
  (grossSats creditedSats observedAt : Int)
  deriving DecidableEq

structure LegIntent where
  (legId transferId paymentRequest paymentHash : Text)
  (invoiceAmountSats maxFeeSats preparedAt : Int)
  publicZap : Option PublicZapContext
  receiverBinding : Option ReceiverBinding
  deriving DecidableEq

inductive LegStatus where
  | unprepared
  | prepared
  | submitted
  | ambiguous
  | lookupUnavailable
  | conflictingEvidence
  | paid
  | terminalFailure
  deriving DecidableEq

/-- Immutable journal metadata, not provider authority. -/
structure ReturnClosure where
  (planDigest legId intentDigest transferId requestId paymentHash : Text)
  (debitedSats returnedSats netDebitSats observedAt : Int)
  deriving DecidableEq

/-- An archived generation zero. -/
structure ClosedGeneration where
  intent : LegIntent
  status : LegStatus
  observedAt : Int
  closure : ReturnClosure
  deriving DecidableEq

structure LegProgress where
  legId : Text
  /-- Absent until one exact provider receive has been proved. -/
  allocationSats : Option Int
  intent : Option LegIntent
  status : LegStatus
  (observedAt finalFeeSats finalDebitSats : Option Int)
  generation : Option Nat
  closedGenerations : Option (List ClosedGeneration)
  deriving DecidableEq

structure NativeTreasuryBudget where
  (baseConduitAllocationSats unusedCommerceReserveSats authorizedDebitSats : Int)
  accountingDigest : Text
  deriving DecidableEq

structure NativeTreasuryIntent where
  budget : NativeTreasuryBudget
  (invoiceId invoiceRequest : Text)
  (amountSats preparedAt : Int)
  deriving DecidableEq

structure NativeTreasuryFinalization where
  intent : Option NativeTreasuryIntent
  status : LegStatus
  providerTransferId : Option Text
  (observedAt finalFeeSats finalDebitSats : Option Int)
  deriving DecidableEq

structure SettledReconciliation where
  schemaVersion : Nat
  treasuryFinalization : Option NativeTreasuryFinalization
  plan : SettledPlan
  credit : Option CreditEvidence
  legs : List LegProgress
  updatedAt : Int
  deriving DecidableEq

/-- `getCheckoutSparkSettledLegGeneration`. -/
def LegProgress.generationNumber (leg : LegProgress) : Nat := leg.generation.getD 0

/-- `leg.closedGenerations ?? []`. -/
def LegProgress.closed (leg : LegProgress) : List ClosedGeneration := leg.closedGenerations.getD []

/-- `getCheckoutSparkSettledClosedGeneration`. -/
def LegProgress.closedGeneration (leg : LegProgress) : Option ClosedGeneration :=
  leg.closed.head?

def SettledPlan.recipient (plan : SettledPlan) (legId : Text) : Option SettledRecipient :=
  plan.recipients.find? fun r => r.legId = legId

def SettledReconciliation.leg (state : SettledReconciliation) (legId : Text) : Option LegProgress :=
  state.legs.find? fun l => l.legId = legId

def SettledPlan.IsNativeLeg (plan : SettledPlan) (legId : Text) : Prop :=
  plan.IsNativeTreasuryPlan ∧ (plan.recipient legId).map (·.kind) = some .conduit
  deriving Decidable

variable (P : Platform)

variable (plan : SettledPlan)

variable (legId : Text)

def deriveSettledTransferId : Result Text := do
  let canonical ← restoreSettledPlan P plan
  reject (canonical.IsNativeLeg legId)
    (.error "Checkout Spark native treasury has no local provider transfer ID.")
  reject (canonical.recipient legId = none)
    (.error "Checkout Spark settled leg is out of scope.")
  return uuidFromDigest (P.digest (.arr [.str "conduit:checkout-spark-settled-transfer:v3",
    .str canonical.planDigest, .str legId]))

/-- One bounded successor; generation zero retains its historical identity. -/
def deriveSettledRenewalTransferId : Result Text := do
  let parent ← deriveSettledTransferId P plan legId
  return uuidFromDigest (P.digest (.arr
    [.str "conduit:checkout-spark-settled-transfer-generation:v1", .str plan.planDigest,
      .str legId, .num 1, .str parent]))

def settledTransferId (generation : Nat) : Result Text :=
  if generation = 0 then deriveSettledTransferId P plan legId
  else deriveSettledRenewalTransferId P plan legId

variable (paymentRequest : Text)

/-- The signed invoice's exclusive send deadline, in milliseconds. -/
def providerSendWindowEndsAt : Option Int :=
  if isValidLightningInvoice P paymentRequest then
    (decodeLightningInvoiceExpiresAt P paymentRequest).bind fun seconds =>
      if IsSafeInteger (seconds * 1000) then some (seconds * 1000) else none
  else none

/-- Fail closed before a provider preflight or send if this exact leg is stale. -/
def hasProviderSendWindow (nowMs : Int) : Bool :=
  if ¬ IsSafeInteger nowMs ∨ nowMs < 0 then false
  else match providerSendWindowEndsAt P paymentRequest with
    | some endsAt => nowMs < endsAt
    | none => false

/-- `(endsAt ?? Infinity) > at`. -/
def SendWindowOpenAt (at_ : Int) : Prop :=
  ∀ endsAt ∈ providerSendWindowEndsAt P paymentRequest, at_ < endsAt
  deriving Decidable

end Conduit.CheckoutSpark
