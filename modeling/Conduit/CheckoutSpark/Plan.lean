import Conduit.CheckoutSpark.Allocation
import Conduit.CheckoutSpark.Receiver

namespace Conduit.CheckoutSpark

open Js Throwing

inductive DestinationSource where
  | signedProfile (profileEventId : Text) (profileEventCreatedAt : Int)
  | signedEventMarket (marketCoordinate eventId : Text) (eventCreatedAt : Int)
  | conduitAllowlist (policy : ConduitDestinationPolicy)
  deriving DecidableEq

structure RecipientInput where
  kind : ObligationKind
  recipientId : Text
  destination : Text
  source : DestinationSource
  weightSats : Int
  deriving DecidableEq

structure SettledRecipient extends RecipientInput where
  position : Nat
  legId : Text
  deriving DecidableEq

structure FundingPlan where
  (requestId paymentRequest paymentHash receiverIdentityPublicKey : Text)
  (grossFundingSats createdAt expiresAt : Int)
  deriving DecidableEq

structure NativeTreasuryPlan where
  (sparkAddress receiverIdentityPublicKey senderIdentityPublicKey invoiceId : Text)
  invoiceRequest : Text
  deriving DecidableEq

structure PlanTerms where
  (checkoutId orderId merchantPubkey walletId : Text)
  network : Network
  (createdAt takeoverAt : Int)
  commerceQuote : CommerceQuote
  funding : FundingPlan
  merchantPublicZapPolicy : Option MerchantPublicZapPolicy
  conduitFeePolicy : Option Text
  deriving DecidableEq

/-- V3 freezes identities, endpoints and weights, but no outgoing invoice. -/
structure SettledPlan extends PlanTerms where
  schemaVersion : Nat
  recipients : List SettledRecipient
  nativeTreasury : Option NativeTreasuryPlan
  eventMarket : Option EventMarketBinding
  planDigest : Text
  deriving DecidableEq

variable (value : Text)

variable (label : String)

def text (limit : Nat) : Result Text := do
  reject (value = [] ∨ length value > limit ∨ trim value ≠ value) (invalidText label)
  return value

def hex : Result Text := do
  reject (¬ IsHex64 value) (invalidText label)
  return value

def compressedPublicKey : Result Text := do
  reject (¬ IsCompressedPubkey value) (invalidText label)
  return value

def sats (value : Int) (label : String) (allowZero : Bool) : Result Int :=
  normalizeSats value label allowZero

def time (value : Int) (label : String) : Result Int := do
  reject (¬ IsSafeInteger value ∨ value < 0) (invalidText label)
  return value

structure NormalizedInvoice where
  (paymentRequest paymentHash : Text)
  expiresAt : Int

def Network.lightning : Network → LightningInvoiceNetwork
  | .mainnet => .mainnet
  | .regtest => .regtest

variable (P : Platform)

def normalizeInvoice (request hash : Text) (amountSats : Int) (network : Network)
    (at_ : Int) : Result NormalizedInvoice := do
  let paymentRequest ← text (canonicalPaymentRequest request) "Checkout Spark invoice" 16384
  reject (isValidLightningInvoice P paymentRequest = false ∨
      getLightningInvoiceNetwork paymentRequest ≠ network.lightning)
    (.error "Checkout Spark invoice network or signature is invalid.")
  let paymentHash ← hex hash "Checkout Spark invoice hash"
  match decodeLightningInvoiceExpiresAt P paymentRequest with
  | none => .error (.error "Checkout Spark invoice amount, hash, or expiry is invalid.")
  | some seconds =>
    let expiresAt := seconds * 1000
    reject (amountSats * 1000 > maxSafeInteger ∨
        decodeLightningInvoiceMsats P paymentRequest ≠ some (amountSats * 1000) ∨
        decodeLightningInvoicePaymentHash P paymentRequest ≠ some paymentHash ∨
        ¬ IsSafeInteger expiresAt ∨ expiresAt ≤ at_)
      (.error "Checkout Spark invoice amount, hash, or expiry is invalid.")
    return { paymentRequest, paymentHash, expiresAt }

def hexDigitValue (c : Char) : Nat :=
  if 48 ≤ c.toNat ∧ c.toNat ≤ 57 then c.toNat - 48
  else if 97 ≤ c.toNat ∧ c.toNat ≤ 102 then c.toNat - 87
  else 0

def hexDigit (n : Nat) : Char := if n < 10 then Char.ofNat (48 + n) else Char.ofNat (87 + n)

def hexBytes : List Char → List Nat
  | c :: d :: l => (16 * hexDigitValue c + hexDigitValue d) :: hexBytes l
  | _ => []

/-- The version and variant bits of a name-based UUID. -/
def uuidFromDigest : Text :=
  let bytes := hexBytes (value.take 32)
  let marked := bytes.mapIdx fun i b =>
    if i = 6 then b % 16 + 0x50 else if i = 8 then b % 64 + 0x80 else b
  let encoded := marked.flatMap fun b => [hexDigit (b / 16), hexDigit (b % 16)]
  (List.intercalate ['-']
    [encoded.take 8, (encoded.drop 8).take 4, (encoded.drop 12).take 4, (encoded.drop 16).take 4,
      encoded.drop 20])

def Network.name : Network → Text
  | .mainnet => "mainnet"
  | .regtest => "regtest"

def ObligationKind.name : ObligationKind → Text
  | .merchant => "merchant"
  | .supplier => "supplier"
  | .organizer => "organizer"
  | .conduit => "conduit"

def nativeInvalid : Failure := .error "Checkout Spark native treasury evidence is invalid."

/-- `id` of the native treasury module. -/
def IsId (max : Nat) : Prop := value ≠ [] ∧ length value ≤ max ∧ trim value = value
  deriving Decidable

/-- The binding deliberately has no digest cycle. -/
def deriveNativeTreasuryInvoiceId (terms : PlanTerms) (value : NativeTreasuryPlan) :
    Result Text := do
  reject (¬ IsId terms.checkoutId 512 ∨ ¬ IsId terms.orderId 512 ∨ ¬ IsId terms.walletId 512 ∨
      ¬ IsId value.sparkAddress 16384 ∨ ¬ IsSafeInteger terms.createdAt ∨ terms.createdAt < 0 ∨
      ¬ IsCompressedPubkey value.receiverIdentityPublicKey ∨
      ¬ IsCompressedPubkey value.senderIdentityPublicKey)
    nativeInvalid
  return uuidFromDigest (P.digest (.arr
    [.str "conduit:checkout-spark-native-treasury-invoice:v1", .str terms.checkoutId,
      .str terms.orderId, .str terms.walletId, .str terms.network.name, .num terms.createdAt,
      .str value.sparkAddress, .str value.receiverIdentityPublicKey,
      .str value.senderIdentityPublicKey]))

def restoreNativeTreasuryPlan (value : NativeTreasuryPlan) (terms : PlanTerms) :
    Result NativeTreasuryPlan := do
  reject (¬ IsId value.invoiceRequest 16384 ∨
      value.senderIdentityPublicKey ≠ terms.funding.receiverIdentityPublicKey)
    nativeInvalid
  let invoiceId ← deriveNativeTreasuryInvoiceId P terms value
  reject (value.invoiceId ≠ invoiceId) nativeInvalid
  return value

def destinationSourceDigestValue : DestinationSource → Json
  | .signedProfile eventId createdAt => .arr [.str "signed_profile", .str eventId, .num createdAt]
  | .signedEventMarket coordinate eventId createdAt =>
    .arr [.str "signed_event_market", .str coordinate, .str eventId, .num createdAt]
  | .conduitAllowlist policy => .arr [.str "conduit_allowlist", .str (match policy with
    | .production => "production"
    | .localRouterCanary => "local_router_canary")]

variable (plan : SettledPlan)

/-- Native final collection is shared by ordinary v4 and event v5 plans. -/
def SettledPlan.IsNativeTreasuryPlan : Prop :=
  plan.schemaVersion = 4 ∨ plan.schemaVersion = 5
  deriving Decidable

def canonicalPlanValue : Result Json := do
  let zap ← optionResult (merchantPublicZapPolicyDigestValue P) plan.merchantPublicZapPolicy
  return .arr ([
    .str (if plan.schemaVersion = 5 then "conduit:checkout-spark-settled-plan:v5"
      else if plan.schemaVersion = 4 then "conduit:checkout-spark-settled-plan:v4"
      else "conduit:checkout-spark-settled-plan:v3"),
    .num plan.schemaVersion, .str plan.checkoutId, .str plan.orderId, .str plan.merchantPubkey,
    .str plan.walletId, .str plan.network.name, .num plan.createdAt, .num plan.takeoverAt,
    commerceQuoteDigestValue P plan.commerceQuote,
    .arr [.str plan.funding.requestId, .str plan.funding.paymentRequest,
      .str plan.funding.paymentHash, .str plan.funding.receiverIdentityPublicKey,
      .num plan.funding.grossFundingSats, .num plan.funding.createdAt, .num plan.funding.expiresAt],
    .arr (plan.recipients.map fun r => .arr [.num r.position, .str r.legId, .str r.kind.name,
      .str r.recipientId, .str "lightning_address", .str r.destination,
      destinationSourceDigestValue r.source, .num r.weightSats])] ++
    Json.ofOption (fun (n : NativeTreasuryPlan) => .arr [.num 1, .str n.sparkAddress,
      .str n.receiverIdentityPublicKey, .str n.senderIdentityPublicKey, .str n.invoiceId,
      .str n.invoiceRequest, .str "zero_required", .str "unused_commerce_reserves"])
      plan.nativeTreasury ++
    Json.ofOption eventMarketBindingDigestValue plan.eventMarket ++
    Json.ofOption id zap ++
    Json.ofOption (fun p => .arr [.str "conduit-fee-policy", .str p]) plan.conduitFeePolicy)

def legPreimage (checkoutId orderId : Text) (position : Nat) (recipient : RecipientInput) : Json :=
  .arr [.str "conduit:checkout-spark-settled-leg:v3", .str checkoutId, .str orderId,
    .num position, .str recipient.kind.name, .str recipient.recipientId, .str "lightning_address",
    .str recipient.destination, destinationSourceDigestValue recipient.source,
    .num recipient.weightSats]

def normalizeSource (createdAt : Int) (eventMarket : Option EventMarketBinding)
    (candidate : RecipientInput) : Result DestinationSource :=
  match candidate.kind, eventMarket with
  | .conduit, _ =>
    match candidate.source with
    | .conduitAllowlist policy => do
      reject (candidate.recipientId ≠ candidate.destination ∨
          candidate.destination ≠ conduitFeeRecipient policy)
        (.error "Checkout Spark Conduit destination is invalid.")
      return .conduitAllowlist policy
    | _ => .error (.error "Checkout Spark Conduit destination is invalid.")
  | .organizer, some market =>
    match candidate.source, market.organizerFee.state with
    | .signedEventMarket coordinate eventId eventCreatedAt, .active _ _ lightningAddress _ => do
      reject (candidate.recipientId ≠ market.organizerPubkey ∨
          coordinate ≠ market.marketCoordinate ∨ eventId ≠ market.marketEventId ∨
          eventCreatedAt * 1000 > createdAt ∨ eventCreatedAt ≠ market.organizerFee.createdAt ∨
          candidate.destination ≠ lightningAddress ∨
          candidate.weightSats ≠ market.organizerFeeSats)
        (.error "Checkout Spark organizer lacks exact signed event fee evidence.")
      let eventId ← hex eventId "Organizer fee event"
      let eventCreatedAt ← time eventCreatedAt "Organizer fee time"
      return .signedEventMarket coordinate eventId eventCreatedAt
    | _, _ => .error (.error "Checkout Spark organizer lacks exact signed event fee evidence.")
  | _, _ =>
    match candidate.source with
    | .signedProfile profileEventId profileEventCreatedAt => do
      reject (¬ IsHex64 candidate.recipientId)
        (.error "Checkout Spark recipient lacks signed profile evidence.")
      let profileEventCreatedAt ← time profileEventCreatedAt "Recipient profile time"
      reject (profileEventCreatedAt * 1000 > createdAt)
        (.error "Checkout Spark recipient profile postdates plan.")
      let profileEventId ← hex profileEventId "Recipient profile event"
      return .signedProfile profileEventId profileEventCreatedAt
    | _ => .error (.error "Checkout Spark recipient lacks signed profile evidence.")

def freezeRecipient (checkoutId orderId : Text) (createdAt : Int)
    (eventMarket : Option EventMarketBinding) (candidate : RecipientInput × Nat) :
    Result SettledRecipient := do
  let recipientId ← text candidate.1.recipientId "Recipient id" 512
  let source ← normalizeSource createdAt eventMarket candidate.1
  let destination ← text candidate.1.destination "Recipient destination" 512
  let weightSats ← sats candidate.1.weightSats "Recipient weight" false
  let frozen : RecipientInput := {
    kind := candidate.1.kind
    recipientId := recipientId
    destination := destination
    source := source
    weightSats := weightSats }
  return {
    toRecipientInput := frozen
    position := candidate.2
    legId := P.digest (legPreimage checkoutId orderId candidate.2 frozen) }

def ofKind (kind : ObligationKind) (recipients : List SettledRecipient) : List SettledRecipient :=
  recipients.filter fun r => r.kind = kind

def ObligationKind.rank : ObligationKind → Nat
  | .merchant => 0
  | .supplier => 1
  | .organizer => 2
  | .conduit => 3

def isCommerceRecipient (eventMarket : Option EventMarketBinding) (r : SettledRecipient) : Bool :=
  match eventMarket with
  | some _ => r.kind = .merchant ∨ r.kind = .supplier
  | none => r.kind ≠ .conduit

def assertMerchantPayoutRecipient (merchantPubkey : Text) (recipients : List SettledRecipient) :
    Result Unit := do
  let merchant ← normalizeHex64 merchantPubkey "Merchant pubkey"
  reject ((ofKind .merchant recipients).map (·.recipientId) ≠ [merchant])
    (.error "Checkout Spark merchant payout differs from signed quote.")

def assertRecipients (merchantPubkey : Text) (commerceTotalSats : Int)
    (eventMarket : Option EventMarketBinding) (weights : AllocationWeights)
    (recipients : List SettledRecipient) : Result Unit := do
  reject ((ofKind .conduit recipients).map (·.weightSats) ≠
        [weights.conduitWeightSats] ∨
      recipients.getLast?.map (·.kind) ≠ some .conduit ∨
      (ofKind .merchant recipients).length ≠
        if eventMarket ≠ none ∧ commerceTotalSats = 0 then 0 else 1)
    (.error "Checkout Spark recipient authority is invalid.")
  if eventMarket = none ∨ commerceTotalSats > 0 then
    assertMerchantPayoutRecipient merchantPubkey recipients
  reject (((recipients.filter (isCommerceRecipient eventMarket)).map
      (·.weightSats)).sum ≠ weights.commerceWeightSats)
    (.error "Checkout Spark recipients differ from commerce quote.")
  match eventMarket with
  | none => return
  | some market =>
    reject ((ofKind .organizer recipients).length ≠
          (if market.organizerFeeSats > 0 then 1 else 0) ∨
        ¬ (recipients.map (·.kind.rank)).Pairwise (· ≤ ·))
      (.error "Checkout Spark event payout ordering is invalid.")

def planWeights (quote : CommerceQuote) (eventMarket : Option EventMarketBinding)
    (conduitFeePolicy : Option Text) : Result AllocationWeights :=
  match eventMarket with
  | some market =>
    calculateEventAllocationWeights quote.commerceTotalSats market.organizerFeeSats
      conduitFeePolicy
  | none => calculateAllocationWeights quote.commerceTotalSats conduitFeePolicy

def planGrossFundingSats (quote : CommerceQuote) (eventMarket : Option EventMarketBinding)
    (conduitFeePolicy : Option Text) : Result Int :=
  match eventMarket with
  | some market =>
    calculateEventSettledGrossFundingSats quote.commerceTotalSats market.organizerFeeSats
      conduitFeePolicy
  | none => calculateSettledGrossFundingSats quote.commerceTotalSats conduitFeePolicy

def freezeFunding (terms : PlanTerms) (createdAt grossFundingSats : Int) : Result FundingPlan := do
  let request ← normalizeInvoice P terms.funding.paymentRequest terms.funding.paymentHash
    grossFundingSats terms.network createdAt
  let requestId ← text terms.funding.requestId "Funding request id" 512
  let receiver ← compressedPublicKey terms.funding.receiverIdentityPublicKey
    "Funding receiver identity"
  let fundingCreatedAt ← time terms.funding.createdAt "Funding creation time"
  let expiresAt ← time terms.funding.expiresAt "Funding expiry time"
  reject (fundingCreatedAt ≠ createdAt ∨ expiresAt ≠ request.expiresAt ∨ expiresAt ≤ createdAt)
    (.error "Checkout Spark funding window is invalid.")
  return {
    requestId := requestId
    paymentRequest := request.paymentRequest
    paymentHash := request.paymentHash
    receiverIdentityPublicKey := receiver
    grossFundingSats := grossFundingSats
    createdAt := fundingCreatedAt
    expiresAt := expiresAt }

def freezeSettledPlanInternal (input : PlanTerms)
    (recipientInputs : List RecipientInput) (allowPreAllowanceV3 : Bool)
    (nativeTreasury : Option NativeTreasuryPlan) (eventMarketInput : Option EventMarketBinding) :
    Result SettledPlan := do
  let checkoutId ← text input.checkoutId "Checkout id" 512
  let orderId ← text input.orderId "Order id" 512
  let merchantPubkey ← hex input.merchantPubkey "Merchant pubkey"
  let walletId ← text input.walletId "Wallet id" 512
  let createdAt ← time input.createdAt "Plan creation time"
  let takeoverAt ← time input.takeoverAt "Takeover time"
  reject (takeoverAt ≤ createdAt)
    (.error "Checkout Spark takeover must follow plan creation.")
  let commerceQuote ← freezeCommerceQuote P input.commerceQuote merchantPubkey
    eventMarketInput.isSome
  let eventMarket ← optionResult
    (fun market => freezeEventMarketBinding P market merchantPubkey commerceQuote createdAt)
    eventMarketInput
  reject (eventMarket ≠ none ∧ nativeTreasury = none)
    (.error "Checkout Spark event plans require native final collection.")
  let weights ← planWeights commerceQuote eventMarket input.conduitFeePolicy
  let grossFundingSats ← sats input.funding.grossFundingSats "Gross funding" false
  let expectedGross ← planGrossFundingSats commerceQuote eventMarket input.conduitFeePolicy
  reject (grossFundingSats ≠ expectedGross ∧
      (allowPreAllowanceV3 = false ∨ input.conduitFeePolicy ≠ none ∨
        grossFundingSats ≠ weights.commerceWeightSats + weights.conduitWeightSats))
    (.error "Checkout Spark gross funding differs from frozen terms.")
  let funding ← freezeFunding P input createdAt grossFundingSats
  reject (recipientInputs.length < 2) (.error "Checkout Spark recipients are missing.")
  let recipients ← mapResult (freezeRecipient P checkoutId orderId createdAt eventMarket)
    recipientInputs.zipIdx
  assertRecipients merchantPubkey commerceQuote.commerceTotalSats eventMarket weights recipients
  let zapPolicy ← optionResult (freezeMerchantPublicZapPolicy P) input.merchantPublicZapPolicy
  let terms : PlanTerms := {
    checkoutId := checkoutId
    orderId := orderId
    merchantPubkey := merchantPubkey
    walletId := walletId
    network := input.network
    createdAt := createdAt
    takeoverAt := takeoverAt
    commerceQuote := commerceQuote
    funding := funding
    merchantPublicZapPolicy := zapPolicy
    conduitFeePolicy := input.conduitFeePolicy }
  let treasury ← optionResult (fun n => restoreNativeTreasuryPlan P n terms) nativeTreasury
  let unsigned : SettledPlan := {
    toPlanTerms := terms
    schemaVersion := if eventMarket ≠ none then 5 else if nativeTreasury ≠ none then 4 else 3
    recipients := recipients
    nativeTreasury := treasury
    eventMarket := eventMarket
    planDigest := [] }
  let canonical ← canonicalPlanValue P unsigned
  return { unsigned with planDigest := P.digest canonical }

def restoreSettledPlan : Result SettledPlan := do
  reject ((plan.schemaVersion ≠ 3 ∧ plan.schemaVersion ≠ 4 ∧ plan.schemaVersion ≠ 5) ∨
      (plan.schemaVersion = 3 ∧ plan.nativeTreasury ≠ none) ∨
      (plan.IsNativeTreasuryPlan ∧ plan.nativeTreasury = none) ∨
      (if plan.schemaVersion = 5 then plan.eventMarket = none else plan.eventMarket ≠ none) ∨
      (plan.schemaVersion = 5 ∧ plan.merchantPublicZapPolicy ≠ none))
    (.error "Checkout Spark settled plan version is invalid.")
  let canonical ← freezeSettledPlanInternal P plan.toPlanTerms
    (plan.recipients.map SettledRecipient.toRecipientInput) (plan.schemaVersion = 3)
    plan.nativeTreasury plan.eventMarket
  reject (canonical.planDigest ≠ plan.planDigest ∨
      plan.recipients.map (fun r => (r.position, r.legId)) ≠
        canonical.recipients.map (fun r => (r.position, r.legId)))
    (.error "Checkout Spark settled plan integrity check failed.")
  return canonical

end Conduit.CheckoutSpark
