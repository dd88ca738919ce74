import Conduit.CheckoutSpark.Plan

namespace Conduit.Router

open Js Throwing CheckoutSpark

structure FundingPlan where
  (requestId paymentRequest paymentHash : Text)
  (requiredNetSats grossFundingSats createdAt expiresAt : Int)
  deriving DecidableEq

structure ObligationPlanInput where
  kind : ObligationKind
  (recipientId paymentRequest : Text)
  (amountSats maxFeeSats : Int)
  deriving DecidableEq

structure ObligationPlan extends ObligationPlanInput where
  (obligationId outgoingId : Text)
  position : Nat
  deriving DecidableEq

structure PlanTerms where
  (checkoutId orderId merchantPubkey walletId : Text)
  network : Network
  (createdAt takeoverAt : Int)
  funding : FundingPlan
  commerceQuote : Option CommerceQuote
  deriving DecidableEq

structure FreezePlanInput extends PlanTerms where
  obligations : List ObligationPlanInput

structure Plan extends PlanTerms where
  schemaVersion : Nat
  planDigest : Text
  obligations : List ObligationPlan
  deriving DecidableEq

structure RetirementTombstone where
  schemaVersion : Nat
  planDigest : Text
  retiredAt : Int

def normalizeTimestamp (value : Int) (label : String) : Result Int := time value label

variable (P : Platform)

def deriveObligationId (checkoutId orderId : Text) (position : Nat)
    (obligation : ObligationPlanInput) : Text :=
  P.digest (.arr [.str "conduit:checkout-spark-obligation:v1", .str checkoutId, .str orderId,
    .num position, .str obligation.kind.name, .str obligation.recipientId,
    .str obligation.paymentRequest, .num obligation.amountSats, .num obligation.maxFeeSats])

def deriveOutgoingId (checkoutId orderId obligationId : Text) : Text :=
  uuidFromDigest (P.digest (.arr [.str "conduit:checkout-spark-outgoing:v1", .str checkoutId,
    .str orderId, .str obligationId]))

def canonicalPlanValue (plan : Plan) : Json :=
  .arr ([.str (if plan.schemaVersion = 2 then "conduit:checkout-spark-plan:v2"
      else "conduit:checkout-spark-plan:v1"),
    .num plan.schemaVersion, .str plan.checkoutId, .str plan.orderId, .str plan.merchantPubkey,
    .str plan.walletId, .str plan.network.name, .num plan.createdAt, .num plan.takeoverAt,
    .arr [.str plan.funding.requestId, .str plan.funding.paymentRequest,
      .str plan.funding.paymentHash, .num plan.funding.requiredNetSats,
      .num plan.funding.grossFundingSats, .num plan.funding.createdAt,
      .num plan.funding.expiresAt],
    .arr (plan.obligations.map fun o => .arr [.num o.position, .str o.obligationId,
      .str o.outgoingId, .str o.kind.name, .str o.recipientId, .str o.paymentRequest,
      .num o.amountSats, .num o.maxFeeSats])] ++
    if plan.schemaVersion = 2 then Json.ofOption (commerceQuoteDigestValue P) plan.commerceQuote
    else [])

variable (merchantPubkey : Text)

variable (obligations : List ObligationPlan)

def assertMerchantPayoutRecipient : Result Unit := do
  let merchant ← normalizeHex64 merchantPubkey "Merchant pubkey"
  reject (((obligations.filter fun o => o.kind = .merchant).map (·.recipientId)) ≠
      [merchant])
    (.error "Checkout Spark merchant payout differs from signed quote.")

def freezeFunding (input : FundingPlan) : Result FundingPlan := do
  let requestId ← normalizeBoundedString input.requestId "Funding request id" 256
  let paymentRequest ← normalizeBoundedString input.paymentRequest "Funding payment request" 16384
  let paymentHash ← normalizeHex64 input.paymentHash "Funding payment hash"
  let requiredNetSats ← normalizeSats input.requiredNetSats "Required funding" false
  let grossFundingSats ← normalizeSats input.grossFundingSats "Gross funding" false
  let createdAt ← normalizeTimestamp input.createdAt "Funding creation time"
  let expiresAt ← normalizeTimestamp input.expiresAt "Funding expiry time"
  return {
    requestId := requestId
    paymentRequest := paymentRequest
    paymentHash := paymentHash
    requiredNetSats := requiredNetSats
    grossFundingSats := grossFundingSats
    createdAt := createdAt
    expiresAt := expiresAt }

def freezeObligation (checkoutId orderId : Text)
    (candidate : ObligationPlanInput × Nat) : Result ObligationPlan := do
  let recipientId ← normalizeBoundedString candidate.1.recipientId "Obligation recipient" 512
  let paymentRequest ← normalizeBoundedString candidate.1.paymentRequest
    "Obligation payment request" 16384
  let amountSats ← normalizeSats candidate.1.amountSats "Obligation amount" false
  let maxFeeSats ← normalizeSats candidate.1.maxFeeSats "Obligation fee" true
  let obligation : ObligationPlanInput := {
    kind := candidate.1.kind
    recipientId := recipientId
    paymentRequest := paymentRequest
    amountSats := amountSats
    maxFeeSats := maxFeeSats }
  let obligationId := deriveObligationId P checkoutId orderId candidate.2 obligation
  return {
    toObligationPlanInput := obligation
    position := candidate.2
    obligationId := obligationId
    outgoingId := deriveOutgoingId P checkoutId orderId obligationId }

def assertObligations (requiredNetSats : Int) (obligations : List ObligationPlan) :
    Result Unit := do
  reject (((obligations.filter fun o => o.kind = .conduit).map (·.position)) ≠
      [obligations.length - 1])
    (.error "Checkout Spark plan must pay Conduit exactly once and last.")
  let total := (obligations.map fun o => o.amountSats + o.maxFeeSats).sum
  reject (¬ IsSafeInteger total ∨ total ≠ requiredNetSats)
    (.error "Checkout Spark funding does not cover its exact obligations.")
  reject (¬ (obligations.map (·.paymentRequest)).Nodup)
    (.error "Checkout Spark obligations must use distinct payment requests.")

def assertCommerceLegs (quote : CommerceQuote) : Result Unit := do
  assertMerchantPayoutRecipient merchantPubkey obligations
  let commerceSum := ((obligations.filter fun o => o.kind = .merchant ∨ o.kind = .supplier).map
    (·.amountSats)).sum
  reject (commerceSum ≠ quote.commerceTotalSats)
    (.error "Checkout Spark commerce legs differ from signed quote.")

def freezeQuote (quote : CommerceQuote) : Result CommerceQuote := do
  let commerceQuote ← normalizeCommerceQuote P quote merchantPubkey false
  assertCommerceLegs merchantPubkey obligations commerceQuote
  return commerceQuote

def freezePlan (input : FreezePlanInput) : Result Plan := do
  let checkoutId ← normalizeBoundedString input.checkoutId "Checkout id" 256
  let orderId ← normalizeBoundedString input.orderId "Order id" 256
  let merchantPubkey ← normalizeHex64 input.merchantPubkey "Merchant pubkey"
  let walletId ← normalizeBoundedString input.walletId "Wallet id" 256
  let createdAt ← normalizeTimestamp input.createdAt "Plan creation time"
  let takeoverAt ← normalizeTimestamp input.takeoverAt "Takeover time"
  reject (takeoverAt ≤ createdAt) (.error "Checkout Spark takeover must follow plan creation.")
  let funding ← freezeFunding input.funding
  reject (funding.createdAt ≠ createdAt ∨ funding.expiresAt ≤ funding.createdAt ∨
      funding.grossFundingSats < funding.requiredNetSats)
    (.error "Checkout Spark funding terms are inconsistent.")
  reject (input.obligations = [])
    (.error "Checkout Spark plan requires an outgoing obligation.")
  let obligations ← mapResult (freezeObligation P checkoutId orderId) input.obligations.zipIdx
  assertObligations funding.requiredNetSats obligations
  let commerceQuote ← optionResult (freezeQuote P merchantPubkey obligations) input.commerceQuote
  let plan : Plan := {
    schemaVersion := if commerceQuote.isSome then 2 else 1
    planDigest := []
    checkoutId := checkoutId
    orderId := orderId
    merchantPubkey := merchantPubkey
    walletId := walletId
    network := input.network
    createdAt := createdAt
    takeoverAt := takeoverAt
    funding := funding
    obligations := obligations
    commerceQuote := commerceQuote }
  return { plan with planDigest := P.digest (canonicalPlanValue P plan) }

def refreezePlan (plan : Plan) : Result Plan :=
  freezePlan P {
    toPlanTerms := plan.toPlanTerms
    obligations := plan.obligations.map ObligationPlan.toObligationPlanInput }

def ObligationPlan.derived (o : ObligationPlan) : Nat × Text × Text :=
  (o.position, o.obligationId, o.outgoingId)

def canonicalizePlan (plan : Plan) : Result Plan := do
  reject ((plan.schemaVersion ≠ 1 ∧ plan.schemaVersion ≠ 2) ∨
      (plan.schemaVersion = 1 ∧ plan.commerceQuote ≠ none) ∨
      (plan.schemaVersion = 2 ∧ plan.commerceQuote = none))
    (.error "Checkout Spark plan version is invalid.")
  let canonical ← refreezePlan P plan
  reject (canonical.planDigest ≠ plan.planDigest ∨
      canonical.obligations.map ObligationPlan.derived ≠
        plan.obligations.map ObligationPlan.derived)
    (.error "Checkout Spark plan integrity check failed.")
  return canonical

def assertPlanIntegrity (plan : Plan) : Result Unit := do
  let _ ← canonicalizePlan P plan
  return

def assertPlanNotRetired (plan : Plan) : List RetirementTombstone → Result Unit
  | [] => return
  | tombstone :: tombstones => do
    reject (tombstone.schemaVersion ≠ 1 ∨ ¬ IsHex64 tombstone.planDigest ∨
        ¬ IsSafeInteger tombstone.retiredAt ∨ tombstone.retiredAt < 0)
      (.error "Checkout Spark retirement tombstone is invalid.")
    reject (tombstone.planDigest = plan.planDigest)
      (.error "Checkout Spark plan is already retired.")
    assertPlanNotRetired plan tombstones

variable {o : ObligationPlan} {P : Platform}

lemma freezeObligation_position {checkoutId orderId : Text} {cand : ObligationPlanInput × Nat}
    (h : freezeObligation P checkoutId orderId cand = .ok o) : o.position = cand.2 := by
  simp only [freezeObligation, run_ok] at h
  obtain ⟨-, -, -, -, -, -, -, -, rfl⟩ := h
  rfl

variable {i : Nat} {plan : Plan}

lemma freezePlan_positions {input : FreezePlanInput} (h : freezePlan P input = .ok plan)
    (ho : plan.obligations[i]? = some o) : o.position = i := by
  simp only [freezePlan, run_ok] at h
  obtain ⟨_, -, _, -, _, -, _, -, _, -, _, -, -, _, -, -, -, obligations, hm, _, -, _, -, rfl⟩ := h
  obtain ⟨hi, -⟩ : ∃ hi : i < obligations.length, obligations[i] = o :=
    List.getElem?_eq_some_iff.1 ho
  obtain ⟨hl, ha⟩ := mapResult_eq_ok_getElem?.1 hm
  have hi' : i < input.obligations.length := by
    rw [← hl, List.length_zipIdx] at hi
    exact hi
  have hz : input.obligations.zipIdx[i]? = some (input.obligations[i], i) := by
    simp [hi']
  exact freezeObligation_position (ha i _ o hz ho)

lemma canonicalizePlan_positions {canon : Plan} (h : canonicalizePlan P plan = .ok canon)
    (ho : canon.obligations[i]? = some o) : o.position = i := by
  simp only [canonicalizePlan, refreezePlan, run_ok] at h
  obtain ⟨-, frozen, hf, -, rfl⟩ := h
  exact freezePlan_positions hf ho

end Conduit.Router
