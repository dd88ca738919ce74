import Conduit.Orders.Lifecycle
import Conduit.Stock.Records

namespace Conduit.OrderRelay

open Js Stock Throwing
open Orders (OrderCheckoutMode OrderPublicZapSigner OrderPaymentTarget OrderLifecycleItem
  OrderDeliveryStatus deriveOrderLifecyclePhase)

def retryDelayMs : Int := 60000

def foregroundRetryDelayMs : Int := 15000

def orderRelayDeliveryLeaseMs : Int := 30000

def guestOrderLocalRetentionMs : Int := 86400000

def maxCompatibilityOrderRelays : Nat := 3

def maxDeclaredInboxWriteRelays : Nat := 3

/-- `EVENT_KINDS.GIFT_WRAP`. -/
def giftWrap : Int := 1059

/-- `EVENT_KINDS.PRIVATE_MESSAGE_RELAYS`. -/
def privateMessageRelays : Int := 10050

def historicalCompatibilityOrderRelays : List Text :=
  ["wss://relay.conduit.market", "wss://relay.ditto.pub", "wss://conduit-congee.fly.dev"]

def historicalConduitRelays : List Text :=
  ["wss://relay.conduit.market", "wss://conduit-congee.fly.dev"]

inductive OrderDeliveryRoute where
  | declaredInbox
  | compatibilityOrder
  deriving DecidableEq

inductive OrderRelaySource where
  | declared
  | recipientNip65
  | compatibilityRegistry
  deriving DecidableEq

inductive OrderRelayDeliveryStatus where
  | pending
  | acked
  | rejected
  | timedOut
  | authRequired
  | cancelled
  | policyBlocked
  | error
  deriving DecidableEq

inductive OrderBuyerIdentityKind where
  | signedIn
  | guestEphemeral
  deriving DecidableEq

structure OrderRelayDelivery where
  relayUrl : Text
  source : OrderRelaySource
  status : OrderRelayDeliveryStatus
  attemptCount : Nat
  attemptGeneration : Option Nat
  lastAttemptAt : Option Int := none
  acknowledgedAt : Option Int := none
  rejectedAt : Option Int := none
  timedOutAt : Option Int := none
  deriving DecidableEq

structure OrderRelayRoutingAuthority where
  eventId : Text
  eventCreatedAt : Int
  pubkey : Text
  kind : Int
  relayUrls : List Text
  deriving DecidableEq

structure OrderRelayCompatibilityPlan where
  relayUrls : List Text
  deriving DecidableEq

structure OrderRelayDeliveryRecord where
  rumorId : Text
  signedRecipientWrap : SignedEvent
  route : OrderDeliveryRoute
  routingAuthority : Option OrderRelayRoutingAuthority
  compatibilityPlan : Option OrderRelayCompatibilityPlan
  relayDelivery : List OrderRelayDelivery
  deliveryAttemptCount : Nat
  deliveryAttemptGeneration : Option Nat
  retryCount : Nat
  nextRetryAt : Option Int
  deliveryLeaseOwner : Option Text
  deliveryLeaseExpiresAt : Option Int
  (createdAt updatedAt expiresAt : Int)
  deriving DecidableEq

/-- The organizer's packet of a free pickup order. What no check reads is in `packet`. -/
structure EventMarketFreePurchaseDelivery where
  (orderId senderPubkey merchantPubkey : Text)
  buyerIdentityKind : OrderBuyerIdentityKind
  createdAt : Int
  (handoffId purchaseClaimDigest : Text)
  (merchantDelivered acknowledged : Bool)
  packet : Text
  deriving DecidableEq

/-- What a checkout stages. The fields of the snapshot that no check reads are in `details`. -/
structure StagedOrderLifecycleInput where
  (orderId buyerPubkey : Text)
  buyerIdentityKind : Option OrderBuyerIdentityKind
  guestSessionExpiresAt : Option Int
  merchantPubkey : Text
  checkoutMode : OrderCheckoutMode
  checkoutSparkRouterBinding : Option Text
  eventMarketFreePurchaseDelivery : Option EventMarketFreePurchaseDelivery
  publicZapSigner : Option OrderPublicZapSigner
  publicZapFallback : Option Bool
  merchantLightningAddress : Option Text
  paymentTarget : Option OrderPaymentTarget
  items : List OrderLifecycleItem
  (totalSats totalMsats : Int)
  (zapContent shippingAddress contactNote guestContact : Option Text)
  createdAt : Int
  details : Text
  deriving DecidableEq

structure OrderLifecycle extends Orders.OrderLifecycle where
  buyerIdentityKind : Option OrderBuyerIdentityKind
  guestSessionExpiresAt : Option Int
  eventMarketFreePurchaseDelivery : Option EventMarketFreePurchaseDelivery
  (shippingAddress contactNote guestContact : Option Text)
  details : Text
  orderDeliveryRoute : Option OrderDeliveryRoute
  orderRelayDelivery : Option OrderRelayDeliveryRecord
  checkoutRecoveryPending : Bool
  deriving DecidableEq

abbrev OrderTable := Table OrderLifecycle (·.orderId)

structure PreparedOrderRelayDelivery where
  rumorId : Text
  signedRecipientWrap : SignedEvent
  route : OrderDeliveryRoute
  routingAuthority : Option OrderRelayRoutingAuthority
  compatibilityPlan : Option OrderRelayCompatibilityPlan
  relayPlan : List (Text × OrderRelaySource)

/-- The configuration, and what is checked by code of its own. -/
structure RelayPlatform where
  isValidSignedPublicNostrEvent : SignedEvent → Bool
  tryNormalizeRelayUrl : Text → Option Text
  (normalizeSecureOrIsolatedE2eRelayUrls secureAutomaticRelayUrls : List Text → List Text)
  normalizePublicWebSocketUrl : Text → Option Text
  dmCompatibilityOrderRelayUrls : List Text
  parseEventMarketFreePurchaseDelivery :
    EventMarketFreePurchaseDelivery → Result EventMarketFreePurchaseDelivery
  jsonLength : List EventMarketFreePurchaseDelivery → Nat

variable (P : RelayPlatform)

def IsApprovedCompatibilityOrderRelayPlan (relayUrls : List Text) : Prop :=
  relayUrls ≠ [] ∧ relayUrls.length ≤ maxCompatibilityOrderRelays ∧ relayUrls.Nodup ∧
    ∀ url ∈ relayUrls, (P.secureAutomaticRelayUrls [url]).head? = some url ∧
      url ∈ P.secureAutomaticRelayUrls P.dmCompatibilityOrderRelayUrls
  deriving Decidable

def IsValidPersistedCompatibilityPlan (relayUrls : List Text) : Prop :=
  IsApprovedCompatibilityOrderRelayPlan P relayUrls ∨
    relayUrls ≠ [] ∧ relayUrls.length ≤ maxCompatibilityOrderRelays ∧ relayUrls.Nodup ∧
      (∃ url ∈ relayUrls, url ∈ historicalConduitRelays) ∧
      ∀ url ∈ relayUrls, url ∈ historicalCompatibilityOrderRelays
  deriving Decidable

variable (target : OrderRelayDelivery)

def Outstanding : Prop :=
  target.status ≠ .acked ∧ target.status ≠ .policyBlocked
  deriving Decidable

variable (delivery : OrderRelayDeliveryRecord)

def AnyAcked : Prop :=
  ∃ target ∈ delivery.relayDelivery, target.status = .acked
  deriving Decidable

def Retryable (route : OrderDeliveryRoute) (target : OrderRelayDelivery) : Prop :=
  Outstanding target ∧ P.normalizePublicWebSocketUrl target.relayUrl ≠ none ∧
    (route ≠ .compatibilityOrder ∨ IsApprovedCompatibilityOrderRelayPlan P [target.relayUrl])
  deriving Decidable

def HasRetryablePublicTarget : Prop :=
  ∃ target ∈ delivery.relayDelivery, Retryable P delivery.route target
  deriving Decidable

def OrderRelayDeliveryRecord.relayUrls : List Text :=
  delivery.relayDelivery.map (·.relayUrl)

def isGuestOrderDataExpired (lifecycle : OrderLifecycle) (nowMs : Int) : Bool :=
  match lifecycle.buyerIdentityKind, lifecycle.guestSessionExpiresAt with
  | some .guestEphemeral, some deadline =>
    !IsSafeInteger deadline || !IsSafeInteger lifecycle.createdAt ||
      deadline ≤ lifecycle.createdAt ||
      lifecycle.createdAt + guestOrderLocalRetentionMs < deadline ||
      lifecycle.createdAt ≤ nowMs - guestOrderLocalRetentionMs || deadline ≤ nowMs
  | some .guestEphemeral, none => lifecycle.createdAt ≤ nowMs - guestOrderLocalRetentionMs
  | _, _ => false

/-- The recipients that the `p` tags of a wrap name. -/
def outerRecipients (wrap : SignedEvent) : List Text :=
  wrap.tags.filterMap fun tag =>
    match tag with
    | name :: recipient :: _ =>
      if name = "p" then some (toLowerCase (trim recipient)) else none
    | _ => none

def InOrderScope (wrap : SignedEvent) (merchantPubkey : Text) : Prop :=
  wrap.kind = giftWrap ∧ outerRecipients wrap = [toLowerCase (trim merchantPubkey)]
  deriving Decidable

def FromRegistry (source : OrderRelaySource) : Prop :=
  source = .recipientNip65 ∨ source = .compatibilityRegistry
  deriving Decidable

def IsAuthority (authority : OrderRelayRoutingAuthority) (merchantPubkey : Text) : Prop :=
  authority.kind = privateMessageRelays ∧ IsHex64 authority.eventId ∧
    IsSafeInteger authority.eventCreatedAt ∧ 0 ≤ authority.eventCreatedAt ∧
    authority.pubkey = toLowerCase (trim merchantPubkey)
  deriving Decidable

/-- The shape of the records that were staged before an authority or a plan was stored. -/
def IsHistorical (merchantPubkey : Text) : Prop :=
  P.isValidSignedPublicNostrEvent delivery.signedRecipientWrap = true ∧
    InOrderScope delivery.signedRecipientWrap merchantPubkey ∧ delivery.relayUrls ≠ [] ∧
    delivery.relayUrls.length ≤ maxDeclaredInboxWriteRelays ∧ delivery.relayUrls.Nodup ∧
    P.normalizeSecureOrIsolatedE2eRelayUrls delivery.relayUrls = delivery.relayUrls ∧
    match delivery.route with
    | .declaredInbox => ∀ target ∈ delivery.relayDelivery, target.source = .declared
    | .compatibilityOrder => IsValidPersistedCompatibilityPlan P delivery.relayUrls ∧
        ∀ target ∈ delivery.relayDelivery, FromRegistry target.source

instance (delivery : OrderRelayDeliveryRecord) (merchantPubkey : Text) :
    Decidable (IsHistorical P delivery merchantPubkey) := by
  unfold IsHistorical
  cases delivery.route <;> infer_instance

def HasValidOrderRelayRoutingAuthority (merchantPubkey : Text) : Prop :=
  match delivery.routingAuthority, delivery.compatibilityPlan, delivery.route with
  | none, none, _ => IsHistorical P delivery merchantPubkey
  | none, some plan, .compatibilityOrder =>
    P.isValidSignedPublicNostrEvent delivery.signedRecipientWrap = true ∧
      InOrderScope delivery.signedRecipientWrap merchantPubkey ∧
      plan.relayUrls = delivery.relayUrls ∧
      IsValidPersistedCompatibilityPlan P delivery.relayUrls ∧
      ∀ target ∈ delivery.relayDelivery, FromRegistry target.source
  | some authority, none, .declaredInbox =>
    IsAuthority authority merchantPubkey ∧ authority.relayUrls ≠ [] ∧
      authority.relayUrls = delivery.relayUrls
  | _, _, _ => False

instance (delivery : OrderRelayDeliveryRecord) (merchantPubkey : Text) :
    Decidable (HasValidOrderRelayRoutingAuthority P delivery merchantPubkey) := by
  unfold HasValidOrderRelayRoutingAuthority
  split <;> infer_instance

section Stage
variable (lifecycle : StagedOrderLifecycleInput) (prepared : PreparedOrderRelayDelivery)
  (leaseOwner : Text) (timestamp : Int)

def PacketMatches (packet : EventMarketFreePurchaseDelivery) : Prop :=
  packet.orderId = lifecycle.orderId ∧ packet.senderPubkey = lifecycle.buyerPubkey ∧
    packet.merchantPubkey = lifecycle.merchantPubkey ∧
    some packet.buyerIdentityKind = lifecycle.buyerIdentityKind ∧
    packet.createdAt = lifecycle.createdAt ∧ lifecycle.totalSats = 0 ∧ lifecycle.totalMsats = 0 ∧
    lifecycle.checkoutMode = .payLater ∧ packet.merchantDelivered = false ∧
    packet.acknowledged = false
  deriving Decidable

def checkPacket : Result Unit :=
  match lifecycle.eventMarketFreePurchaseDelivery with
  | none => .ok ()
  | some saved => do
    let packet ← P.parseEventMarketFreePurchaseDelivery saved
    reject (¬ PacketMatches lifecycle packet)
      (.error "Free pickup delivery does not match the original order.")

def Declared : Prop :=
  prepared.route = .declaredInbox ∧ prepared.compatibilityPlan = none ∧
    ∃ authority ∈ prepared.routingAuthority, IsAuthority authority lifecycle.merchantPubkey
  deriving Decidable

def Compatibility : Prop :=
  prepared.route = .compatibilityOrder ∧ prepared.routingAuthority = none ∧
    ∃ plan ∈ prepared.compatibilityPlan, IsApprovedCompatibilityOrderRelayPlan P plan.relayUrls
  deriving Decidable

def PreparedOrderRelayDelivery.relayUrls : List Text := prepared.relayPlan.map Prod.fst

def RelayPlanOk : Prop :=
  prepared.relayUrls ≠ [] ∧
    (∀ target ∈ prepared.relayPlan, if Declared lifecycle prepared then target.2 = .declared
      else FromRegistry target.2) ∧
    (∀ url ∈ prepared.relayUrls, P.tryNormalizeRelayUrl url = some url ∧
      url ∈ P.normalizeSecureOrIsolatedE2eRelayUrls prepared.relayUrls) ∧
    prepared.relayUrls.Nodup ∧
    if Declared lifecycle prepared then
      prepared.routingAuthority.map (·.relayUrls) = some prepared.relayUrls
    else prepared.compatibilityPlan.map (·.relayUrls) = some prepared.relayUrls
  deriving Decidable

def stagedDelivery : OrderRelayDeliveryRecord where
  rumorId := toLowerCase prepared.rumorId
  signedRecipientWrap := prepared.signedRecipientWrap
  route := prepared.route
  routingAuthority := prepared.routingAuthority
  compatibilityPlan := prepared.compatibilityPlan
  relayDelivery := prepared.relayPlan.map fun target =>
    { relayUrl := target.1, source := target.2, status := .pending, attemptCount := 0,
      attemptGeneration := some 0 }
  deliveryAttemptCount := 0
  deliveryAttemptGeneration := some 0
  retryCount := 0
  nextRetryAt := none
  deliveryLeaseOwner := some leaseOwner
  deliveryLeaseExpiresAt := some (timestamp + orderRelayDeliveryLeaseMs)
  createdAt := timestamp
  updatedAt := timestamp
  expiresAt :=
    match lifecycle.buyerIdentityKind, lifecycle.guestSessionExpiresAt with
    | some .guestEphemeral, some deadline =>
      min (lifecycle.createdAt + guestOrderLocalRetentionMs) deadline
    | _, _ => lifecycle.createdAt + guestOrderLocalRetentionMs

def stagedRecord : OrderLifecycle where
  orderId := lifecycle.orderId
  buyerPubkey := lifecycle.buyerPubkey
  merchantPubkey := lifecycle.merchantPubkey
  checkoutMode := lifecycle.checkoutMode
  checkoutSparkRouterBinding := lifecycle.checkoutSparkRouterBinding
  publicZapSigner := lifecycle.publicZapSigner
  publicZapFallback := lifecycle.publicZapFallback
  merchantLightningAddress := lifecycle.merchantLightningAddress
  paymentTarget := lifecycle.paymentTarget
  walletPaymentAttemptId := none
  items := lifecycle.items
  totalSats := lifecycle.totalSats
  totalMsats := lifecycle.totalMsats
  zapContent := lifecycle.zapContent
  orderDeliveryStatus := .pending
  paymentClaimId := none
  paymentClaimedAt := none
  paymentClaimLeaseExpiresAt := none
  proofDeliveryClaimId := none
  proofDeliveryClaimedAt := none
  proofDeliveryClaimLeaseExpiresAt := none
  invoiceStatus := .notRequested
  paymentStatus := .notStarted
  proofDeliveryStatus := .notStarted
  zapReceiptStatus := .notApplicable
  invoice := none
  paymentHash := none
  priorExpiredManualInvoices := none
  preimage := none
  feeMsats := none
  zapRequestId := none
  zapRequestCreatedAt := none
  zapReceiptId := none
  zapReceiptRelayUrls := none
  zapLnurl := none
  zapReceiptPubkey := none
  invoiceExpiresAt := none
  zapReceiptObservationDeadline := none
  phase := .pending
  lastError := none
  deliveryNotice := none
  createdAt := lifecycle.createdAt
  updatedAt := timestamp
  completedAt := none
  buyerIdentityKind := lifecycle.buyerIdentityKind
  guestSessionExpiresAt := lifecycle.guestSessionExpiresAt
  eventMarketFreePurchaseDelivery := lifecycle.eventMarketFreePurchaseDelivery
  shippingAddress := lifecycle.shippingAddress
  contactNote := lifecycle.contactNote
  guestContact := lifecycle.guestContact
  details := lifecycle.details
  orderDeliveryRoute := some prepared.route
  orderRelayDelivery := some (stagedDelivery lifecycle prepared leaseOwner timestamp)
  checkoutRecoveryPending := true

/-- The checks of `stageOrderRelayDelivery`, and the record that it stages. -/
def prepareStage : Result OrderLifecycle := do
  checkPacket P lifecycle
  reject (¬ (IsHex64 (toLowerCase prepared.rumorId) ∧ trim leaseOwner ≠ [] ∧
      lifecycle.buyerIdentityKind ≠ none ∧
      (Declared lifecycle prepared ∨ Compatibility P prepared)))
    (.error "Cannot stage order delivery without a validated relay plan.")
  reject (P.isValidSignedPublicNostrEvent prepared.signedRecipientWrap = false)
    (.error "Cannot stage an invalid signed recipient wrap.")
  reject (¬ InOrderScope prepared.signedRecipientWrap lifecycle.merchantPubkey)
    (.error "Cannot stage a recipient wrap outside the order scope.")
  reject (lifecycle.buyerIdentityKind = some .guestEphemeral ∧
      ¬ (lifecycle.shippingAddress = none ∧ lifecycle.contactNote = none ∧
        lifecycle.guestContact = none))
    (.error "Cannot stage plaintext guest fulfillment data.")
  reject (¬ RelayPlanOk P lifecycle prepared)
    (.error "Cannot stage an invalid order relay plan.")
  let record := stagedRecord lifecycle prepared leaseOwner timestamp
  reject (isGuestOrderDataExpired record timestamp = true)
    (.error "Cannot stage an expired guest order.")
  pure record

end Stage

def immutableLifecycleSnapshot (row : OrderLifecycle) : StagedOrderLifecycleInput × Option Text :=
  ({ orderId := row.orderId
     buyerPubkey := row.buyerPubkey
     buyerIdentityKind := row.buyerIdentityKind
     guestSessionExpiresAt := row.guestSessionExpiresAt
     merchantPubkey := row.merchantPubkey
     checkoutMode := row.checkoutMode
     checkoutSparkRouterBinding := row.checkoutSparkRouterBinding
     eventMarketFreePurchaseDelivery := row.eventMarketFreePurchaseDelivery.map fun packet =>
       { packet with merchantDelivered := false, acknowledged := false }
     publicZapSigner := row.publicZapSigner
     publicZapFallback := row.publicZapFallback
     merchantLightningAddress := row.merchantLightningAddress
     paymentTarget := row.paymentTarget
     items := row.items
     totalSats := row.totalSats
     totalMsats := row.totalMsats
     zapContent := row.zapContent
     shippingAddress := row.shippingAddress
     contactNote := row.contactNote
     guestContact := row.guestContact
     createdAt := row.createdAt
     details := row.details }, row.walletPaymentAttemptId)

structure RelayPlan where
  rumorId : Text
  signedRecipientWrap : SignedEvent
  route : OrderDeliveryRoute
  routingAuthority : Option OrderRelayRoutingAuthority
  compatibilityPlan : Option OrderRelayCompatibilityPlan
  relayPlan : List (Text × OrderRelaySource)
  deriving DecidableEq

def immutableRelayPlan : RelayPlan where
  rumorId := delivery.rumorId
  signedRecipientWrap := delivery.signedRecipientWrap
  route := delivery.route
  routingAuthority := delivery.routingAuthority
  compatibilityPlan := delivery.compatibilityPlan
  relayPlan := delivery.relayDelivery.map fun target => (target.relayUrl, target.source)

def stageConflict : Failure :=
  .error "Order delivery staging conflicts with an existing order snapshot."

def checkSavedPackets (table : OrderTable) (packet : EventMarketFreePurchaseDelivery) :
    Result Unit := do
  let saved := table.rows.filterMap (·.eventMarketFreePurchaseDelivery)
  let pending := saved.filter fun packet => packet.acknowledged = false
  reject (64 ≤ pending.length ∨ 4 * 1024 * 1024 < P.jsonLength (pending ++ [packet]))
    (.error "Finish a saved free pickup delivery before another order.")
  reject (∃ other ∈ saved, other.handoffId = packet.handoffId ∨
    other.purchaseClaimDigest = packet.purchaseClaimDigest) stageConflict

def checkOrganizerPacket (record : OrderLifecycle) (table : OrderTable) : Result Unit :=
  match record.eventMarketFreePurchaseDelivery with
  | some packet => checkSavedPackets P table packet
  | none => .ok ()

/-- The transaction of `stage`. -/
def stageTransaction (record : OrderLifecycle) (table : OrderTable) : Result (Bool × OrderTable) :=
  match table.get record.orderId with
  | some current => do
    reject (¬ (immutableLifecycleSnapshot current = immutableLifecycleSnapshot record ∧
        current.orderRelayDelivery ≠ none ∧
        current.orderRelayDelivery.map immutableRelayPlan =
          record.orderRelayDelivery.map immutableRelayPlan)) stageConflict
    pure (false, table)
  | none => do
    checkOrganizerPacket P record table
    pure (true, table.put record)

/-- `repository.update`. -/
def updateOrder (orderId : Text) (updater : OrderLifecycle → OrderLifecycle)
    (table : OrderTable) : OrderTable :=
  match table.get orderId with
  | some current => table.put (updater current)
  | none => table

/-- Another tab holds the lease. -/
def ActiveOtherLease (leaseOwner : Text) (timestamp : Int) : Prop :=
  ∃ owner ∈ delivery.deliveryLeaseOwner, owner ≠ [] ∧ owner ≠ leaseOwner ∧
    timestamp < delivery.deliveryLeaseExpiresAt.getD 0
  deriving Decidable

structure BeginInput where
  (orderId buyerPubkey leaseOwner : Text)
  relayUrls : List Text

section Begin
variable (input : BeginInput) (shouldContinue : Bool) (timestamp : Int)

variable (current : OrderLifecycle)

def MayBegin (delivery : OrderRelayDeliveryRecord) : Prop :=
  HasValidOrderRelayRoutingAuthority P delivery current.merchantPubkey ∧ shouldContinue = true ∧
    current.buyerPubkey = input.buyerPubkey ∧
    ¬ ActiveOtherLease delivery input.leaseOwner timestamp ∧
    isGuestOrderDataExpired current timestamp = false ∧ timestamp < delivery.expiresAt ∧
    input.relayUrls ≠ [] ∧
    ∀ url ∈ input.relayUrls, url ∈ delivery.relayUrls ∧
      (delivery.route = .compatibilityOrder → IsApprovedCompatibilityOrderRelayPlan P [url])
  deriving Decidable

def outstandingRelayUrls (delivery : OrderRelayDeliveryRecord) : List Text :=
  input.relayUrls.filter fun url =>
    ∃ target ∈ delivery.relayDelivery, target.relayUrl = url ∧ Outstanding target

def OrderRelayDelivery.nextGeneration : Nat :=
  target.attemptGeneration.getD 0 + 1

variable (urls : List Text)

def Begins (target : OrderRelayDelivery) : Prop :=
  target.relayUrl ∈ urls ∧ target.status ≠ .acked
  deriving Decidable

def beginTarget (target : OrderRelayDelivery) : OrderRelayDelivery :=
  if Begins urls target then
    { target with
      status := .pending
      attemptCount := target.attemptCount + 1
      attemptGeneration := some target.nextGeneration
      lastAttemptAt := some timestamp
      acknowledgedAt := none
      rejectedAt := none
      timedOutAt := none }
  else target

def generationsByRelay (delivery : OrderRelayDeliveryRecord) : List (Text × Nat) :=
  (delivery.relayDelivery.filter fun target => Begins urls target).map fun target =>
    (target.relayUrl, target.nextGeneration)

def begunRow (delivery : OrderRelayDeliveryRecord) (urls : List Text) : OrderLifecycle :=
  { current with
    orderDeliveryStatus := if current.orderDeliveryStatus = .sent then .sent else .pending
    orderRelayDelivery := some { delivery with
      relayDelivery := delivery.relayDelivery.map (beginTarget timestamp urls)
      deliveryAttemptCount := delivery.deliveryAttemptCount + 1
      deliveryAttemptGeneration := some (delivery.deliveryAttemptGeneration.getD 0 + 1)
      deliveryLeaseOwner := some input.leaseOwner
      deliveryLeaseExpiresAt := some (timestamp + orderRelayDeliveryLeaseMs)
      nextRetryAt := none
      updatedAt := timestamp }
    updatedAt := timestamp }

/-- The row that `beginOrderRelayDeliveryAttempt` leaves and the generations that it begins. -/
def beginAttempt : Option (OrderLifecycle × List (Text × Nat)) := do
  let delivery ← current.orderRelayDelivery
  guard (MayBegin P input shouldContinue timestamp current delivery)
  let urls := outstandingRelayUrls input delivery
  if urls = [] then pure (current, [])
  else pure (begunRow input timestamp current delivery urls, generationsByRelay urls delivery)

end Begin

structure Outcome where
  relayUrl : Text
  status : OrderRelayDeliveryStatus
  generation : Int
  settled : status ≠ .pending

structure RecordInput where
  (orderId buyerPubkey leaseOwner wrapId : Text)
  outcomes : List Outcome
  releaseLease : Bool
  retryDelayMs : Option Int

section Record
variable (input : RecordInput) (timestamp : Int)

/-- One outcome a relay: the first, unless a later one is an acknowledgement. -/
def chooseOutcome (chosen : Option Outcome) (outcome : Outcome) : Option Outcome :=
  match chosen with
  | none => some outcome
  | some current =>
    if current.status = .acked then some current
    else if outcome.status = .acked then some outcome else some current

def outcomeFor (outcomes : List Outcome) (relayUrl : Text) : Option Outcome :=
  (outcomes.filter fun outcome => outcome.relayUrl = relayUrl).foldl chooseOutcome none

def Accepts (delivery : OrderRelayDeliveryRecord) (target : OrderRelayDelivery)
    (outcome : Outcome) : Prop :=
  target.status ≠ .acked ∧ 0 < target.attemptCount ∧ IsSafeInteger outcome.generation ∧
    0 < outcome.generation ∧ outcome.generation ≤ (target.attemptGeneration.getD 0 : Nat) ∧
    (outcome.status ≠ .acked → outcome.generation = (target.attemptGeneration.getD 0 : Nat) ∧
      delivery.deliveryLeaseOwner = some input.leaseOwner)
  deriving Decidable

def recordTarget (delivery : OrderRelayDeliveryRecord) (target : OrderRelayDelivery) :
    OrderRelayDelivery :=
  match outcomeFor input.outcomes target.relayUrl with
  | none => target
  | some outcome =>
    if Accepts input delivery target outcome then
      { target with
        status := outcome.status
        acknowledgedAt := if outcome.status = .acked then some timestamp else target.acknowledgedAt
        rejectedAt := if outcome.status = .rejected then some timestamp else target.rejectedAt
        timedOutAt := if outcome.status = .timedOut then some timestamp else target.timedOutAt }
    else target

def releaseLease (release : Bool) (leaseOwner : Text) (delivery : OrderRelayDeliveryRecord) :
    OrderRelayDeliveryRecord :=
  if release = true ∧ delivery.deliveryLeaseOwner = some leaseOwner then
    { delivery with deliveryLeaseOwner := none, deliveryLeaseExpiresAt := none }
  else delivery

def recordedDelivery (delivery : OrderRelayDeliveryRecord) : OrderRelayDeliveryRecord :=
  let relayDelivery := delivery.relayDelivery.map (recordTarget input timestamp delivery)
  releaseLease input.releaseLease input.leaseOwner { delivery with
    relayDelivery := relayDelivery
    nextRetryAt :=
      if ∃ target ∈ relayDelivery, Outstanding target then
        some (timestamp + input.retryDelayMs.getD foregroundRetryDelayMs)
      else none
    updatedAt := timestamp }

def recordedRow (current : OrderLifecycle) (delivery : OrderRelayDeliveryRecord) : OrderLifecycle :=
  let next := { current with
    orderDeliveryStatus :=
      if AnyAcked (recordedDelivery input timestamp delivery) then .sent else .pending
    orderRelayDelivery := some (recordedDelivery input timestamp delivery)
    updatedAt := timestamp }
  { next with phase := deriveOrderLifecyclePhase next.toOrderLifecycle }

/-- The updater of `recordOrderRelayDeliveryOutcomes`. -/
def recordOutcomes (current : OrderLifecycle) : OrderLifecycle :=
  match current.orderRelayDelivery with
  | none => current
  | some delivery =>
    if HasValidOrderRelayRoutingAuthority P delivery current.merchantPubkey ∧
        current.buyerPubkey = input.buyerPubkey ∧
        delivery.signedRecipientWrap.id = input.wrapId then
      recordedRow input timestamp current delivery
    else current

end Record

structure RetryInput where
  (orderId activeBuyerPubkey leaseOwner : Text)
  allowGuest : Bool
  deriving DecidableEq

section Retry
variable (input : RetryInput) (timestamp : Int)

def MayClaim (current : OrderLifecycle) (delivery : OrderRelayDeliveryRecord) : Prop :=
  HasValidOrderRelayRoutingAuthority P delivery current.merchantPubkey ∧
    (current.buyerIdentityKind = some .guestEphemeral → input.allowGuest = true) ∧
    current.buyerPubkey = input.activeBuyerPubkey ∧
    isGuestOrderDataExpired current timestamp = false ∧ timestamp < delivery.expiresAt ∧
    HasRetryablePublicTarget P delivery ∧ ¬ ActiveOtherLease delivery input.leaseOwner timestamp
  deriving Decidable

/-- The first transaction of `retryOrderRelayDelivery`. -/
def claimRetry (current : OrderLifecycle) : OrderLifecycle :=
  match current.orderRelayDelivery with
  | none => current
  | some delivery =>
    if MayClaim P input timestamp current delivery then
      { current with
        orderRelayDelivery := some { delivery with
          deliveryLeaseOwner := some input.leaseOwner
          deliveryLeaseExpiresAt := some (timestamp + orderRelayDeliveryLeaseMs)
          retryCount := delivery.retryCount + 1
          updatedAt := timestamp }
        updatedAt := timestamp }
    else current

/-- The retry goes on where the row is its own. -/
def Claimed (claimed : OrderLifecycle) (delivery : OrderRelayDeliveryRecord) : Prop :=
  claimed.orderRelayDelivery = some delivery ∧
    HasValidOrderRelayRoutingAuthority P delivery claimed.merchantPubkey ∧
    delivery.deliveryLeaseOwner = some input.leaseOwner
  deriving Decidable

def retryLeg : List Text :=
  (delivery.relayDelivery.filter fun target => Retryable P delivery.route target).map (·.relayUrl)

end Retry

inductive DeclarationState where
  | declared (relayUrls : List Text)
  | signedEmpty
  | malformed
  | notFound
  | lookupUnavailable

/-- `privateDeliveryRetryTargets` on a leg of which no relay is acknowledged. -/
def privateDeliveryRetryTargets (relayUrls : List Text) (compatibility : Bool)
    (declaration : DeclarationState) : List Text :=
  match declaration with
  | .signedEmpty => []
  | .malformed => []
  | .declared declared =>
    if compatibility then
      if IsApprovedCompatibilityOrderRelayPlan P relayUrls then relayUrls else []
    else relayUrls.filter fun url => url ∈ declared
  | _ =>
    if compatibility ∧ ¬ IsApprovedCompatibilityOrderRelayPlan P relayUrls then [] else relayUrls

/-- The update of the `finally` block of a retry. -/
def finishRetry (leaseOwner : Text) (retryNow now : Int) (current : OrderLifecycle) :
    OrderLifecycle :=
  match current.orderRelayDelivery with
  | none => current
  | some delivery =>
    if delivery.deliveryLeaseOwner = some leaseOwner then
      { current with
        orderRelayDelivery := some { delivery with
          deliveryLeaseOwner := none
          deliveryLeaseExpiresAt := none
          nextRetryAt :=
            if delivery.nextRetryAt = none ∧ HasRetryablePublicTarget P delivery then
              some (retryNow + retryDelayMs)
            else delivery.nextRetryAt }
        updatedAt := now }
    else current

/-- A row that `resumePendingOrderRelayDeliveries` retries. -/
def Resumable (timestamp : Int) (lifecycle : OrderLifecycle) : Prop :=
  ∃ delivery ∈ lifecycle.orderRelayDelivery,
    lifecycle.buyerIdentityKind ≠ some .guestEphemeral ∧
      HasValidOrderRelayRoutingAuthority P delivery lifecycle.merchantPubkey ∧
      timestamp < delivery.expiresAt ∧ delivery.nextRetryAt.getD 0 ≤ timestamp ∧
      HasRetryablePublicTarget P delivery
  deriving Decidable

end Conduit.OrderRelay
