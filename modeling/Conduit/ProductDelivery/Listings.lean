import Conduit.Joined
import Conduit.Js.Lines
import Conduit.Network.RelaySets

namespace Conduit.ProductDelivery

open Js Stock Throwing
open CheckoutSpark (TextLe)

/-- What deliveries take from the address parser, the configuration and the signature checks. -/
structure DeliveryPlatform where
  (tryNormalizeRelayUrl normalizePublicWebSocketUrl : Text → Option Text)
  e2eRelayIsolationEnabled : Bool
  /-- `getConfiguredIsolatedE2eRelayUrl()`. -/
  isolatedRelayUrl : Option Text
  /-- `[...config.appWriteRelayUrls, ...config.commerceRelayUrls]`. -/
  configuredRelayUrls : List Text
  isValidSignedPublicNostrEvent : SignedEvent → Bool
  /-- `admitPublicEvent` verifies the event. -/
  admitted : SignedEvent → Bool
  /-- `validateProductDeletionEvent` finds evidence. -/
  deletesProducts : SignedEvent → Bool

inductive ListingStatus where
  | pending
  | acked
  | rejected
  | timed_out
  deriving DecidableEq

inductive ListingState where
  | pending
  | partialDelivery
  | delivered
  | failed
  | superseded_unpublished
  deriving DecidableEq

structure ListingTarget where
  relayUrl : Text
  (ownerSelected appRelay personalRelay independentRelay : Bool)
  deriving DecidableEq

structure ListingDelivery where
  (eventId relayUrl : Text)
  status : ListingStatus
  attemptCount : Nat
  (lastAttemptAt acknowledgedAt rejectedAt timedOutAt : Option Int)
  deriving DecidableEq

/-- `ProductListingDeliveryJob`. `localReplaySupersededBy`: the ids of the events that were
superseded. -/
structure ListingJob where
  (id merchantPubkey : Text)
  signedEvents : List SignedEvent
  relayTargets : List ListingTarget
  relayDelivery : List ListingDelivery
  companionDeletionJobId : Option Text
  prerequisiteShippingEventIds : List Text
  readyForDelivery : Bool
  replacesRejectedListingJobId : Option Text
  localReplaySupersededBy : List Text
  state : ListingState
  deliveryAttemptCount : Nat
  (lastAttemptAt nextRetryAt : Option Int)
  (createdAt updatedAt : Int)
  deriving DecidableEq

structure ListingInput where
  merchantPubkey : Text
  signedEvents : List SignedEvent
  relayTargets : List ListingTarget
  companionDeletionJobId : Option Text
  prerequisiteShippingEventIds : List Text
  readyForDelivery : Option Bool
  replacesRejectedListingJobId : Option Text

def kindProduct : Int := 30402

variable (P : DeliveryPlatform)

def normalizeMerchantPubkey (raw : Text) : Result Text := do
  let normalized := toLowerCase (trim raw)
  reject (¬ IsHex64 normalized) (.error "Product listing delivery requires a valid merchant pubkey")
  pure normalized

variable (target : ListingTarget)

def HasProvenance : Prop :=
  target.appRelay = true ∨ target.personalRelay = true ∨ target.independentRelay = true
  deriving Decidable

def normalizeRelayTarget : Result ListingTarget := do
  let url ← (P.tryNormalizeRelayUrl target.relayUrl).elim
    (.error (.error "Product listing delivery relay target is invalid")) .ok
  let isIsolatedE2eRelay := P.isolatedRelayUrl = some url
  reject (P.e2eRelayIsolationEnabled = true ∧ ¬ isIsolatedE2eRelay)
    (.error "Product listing delivery target must match the configured E2E relay")
  reject (startsWith url "wss://" = false ∧ ¬ isIsolatedE2eRelay ∧ target.ownerSelected = false)
    (.error "Unencrypted product listing delivery targets must be owner selected")
  reject (¬ HasProvenance target)
    (.error "Product listing delivery target lacks source provenance")
  pure { target with relayUrl := url }

/-- Two targets of one address count as one with the sources of both. -/
def mergeTargets (existing target : ListingTarget) : ListingTarget where
  relayUrl := existing.relayUrl
  ownerSelected := target.ownerSelected || existing.ownerSelected
  appRelay := target.appRelay || existing.appRelay
  personalRelay := target.personalRelay || existing.personalRelay
  independentRelay := target.independentRelay || existing.independentRelay

def normalizeRelayTargets (targets : List ListingTarget) : Result (List ListingTarget) := do
  reject (targets = []) (.error "Product listing delivery requires at least one relay target")
  let normalized ← mapResult (normalizeRelayTarget P) targets
  pure (sortBy (fun a b => decide (TextLe a.relayUrl b.relayUrl))
    (joinAll ListingTarget.relayUrl mergeTargets normalized))

def IsApprovedListingTarget : Prop :=
  HasProvenance target ∧ P.tryNormalizeRelayUrl target.relayUrl = some target.relayUrl ∧
    if P.e2eRelayIsolationEnabled = true then P.isolatedRelayUrl = some target.relayUrl
    else startsWith target.relayUrl "wss://" = true ∨ P.isolatedRelayUrl = some target.relayUrl ∨
      target.ownerSelected = true
  deriving Decidable

/-- `assertSignedProductFamily`. -/
def IsSignedProductFamily (merchantPubkey : Text) (signedEvents : List SignedEvent) : Prop :=
  signedEvents ≠ [] ∧ (∀ event ∈ signedEvents, event.kind = kindProduct ∧
    toLowerCase event.pubkey = merchantPubkey ∧ P.isValidSignedPublicNostrEvent event = true) ∧
    (signedEvents.map SignedEvent.id).Nodup
  deriving Decidable

def getProductListingDeliveryJobId (signedEvents : List SignedEvent) : Text :=
  "product-listing:".toList ++ joinWith ':' (signedEvents.map SignedEvent.id)

def normalizedCompanionDeletionJobId : Option Text → Result (Option Text)
  | none => .ok none
  | some raw => do
    let normalized := toLowerCase (trim raw)
    reject (¬ IsHex64 normalized) (.error "Product listing companion deletion id is invalid")
    pure (some normalized)

def prepareProductListingDeliveryJob (input : ListingInput) (now : Int) : Result ListingJob := do
  let merchantPubkey ← normalizeMerchantPubkey input.merchantPubkey
  reject (¬ IsSignedProductFamily P merchantPubkey input.signedEvents)
    (.error "Product listing delivery requires a signed product family")
  let relayTargets ← normalizeRelayTargets P input.relayTargets
  let companionDeletionJobId ← normalizedCompanionDeletionJobId input.companionDeletionJobId
  let prerequisites := input.prerequisiteShippingEventIds
  reject (¬ (prerequisites.Nodup ∧ ∀ id ∈ prerequisites, IsHex64 id))
    (.error "Product listing shipping prerequisite ids are invalid")
  let id := getProductListingDeliveryJobId input.signedEvents
  reject (∃ replaced ∈ input.replacesRejectedListingJobId,
      startsWith replaced "product-listing:" = false ∨ replaced = id ∨
      input.readyForDelivery ≠ some false ∨ companionDeletionJobId ≠ none ∨ prerequisites ≠ [])
    (.error "Rejected listing recovery must stage an unarmed exact successor")
  pure {
    id := id
    merchantPubkey := merchantPubkey
    signedEvents := input.signedEvents
    relayTargets := relayTargets
    relayDelivery := input.signedEvents.flatMap fun event => relayTargets.map fun target =>
      ⟨event.id, target.relayUrl, .pending, 0, none, none, none, none⟩
    companionDeletionJobId := companionDeletionJobId
    prerequisiteShippingEventIds := prerequisites
    readyForDelivery := if prerequisites ≠ [] then false
      else input.readyForDelivery.getD (companionDeletionJobId = none)
    replacesRejectedListingJobId := input.replacesRejectedListingJobId
    localReplaySupersededBy := []
    state := .pending
    deliveryAttemptCount := 0
    lastAttemptAt := none
    nextRetryAt := some now
    createdAt := now
    updatedAt := now }

variable (job : ListingJob)

def AckedBy (event : SignedEvent) (target : ListingTarget) : Prop :=
  ∃ delivery ∈ job.relayDelivery, delivery.eventId = event.id ∧
    delivery.relayUrl = target.relayUrl ∧ delivery.status = .acked
  deriving Decidable

def HasCommonAcknowledgedRelay : Prop :=
  job.signedEvents ≠ [] ∧
    ∃ target ∈ job.relayTargets, ∀ event ∈ job.signedEvents, AckedBy job event target
  deriving Decidable

def IsReplayEligible (eventId : Text) : Prop :=
  job.state ≠ .superseded_unpublished ∧ (∃ event ∈ job.signedEvents, event.id = eventId) ∧
    eventId ∉ job.localReplaySupersededBy
  deriving Decidable

def HasReplayEligibleEvent : Prop :=
  ∃ event ∈ job.signedEvents, IsReplayEligible job event.id
  deriving Decidable

def ListingStatus.Retryable (status : ListingStatus) : Prop :=
  status = .pending ∨ status = .timed_out
  deriving Decidable

def HasRetryableReplayPair : Prop :=
  ∃ delivery ∈ job.relayDelivery, IsReplayEligible job delivery.eventId ∧ delivery.status.Retryable
  deriving Decidable

def deriveListingState : ListingState :=
  if HasCommonAcknowledgedRelay job then .delivered
  else if ¬ ∃ delivery ∈ job.relayDelivery, delivery.status.Retryable then .failed
  else if 0 < job.deliveryAttemptCount then .partialDelivery else .pending

def reconcileListing (timestamp retryDelayMs : Int) : ListingJob :=
  let state := deriveListingState job
  { job with
    state := state
    nextRetryAt := if HasRetryableReplayPair job ∧ (state = .pending ∨ state = .partialDelivery) then
      some (timestamp + retryDelayMs) else none
    updatedAt := timestamp }

def markListingRunStarted (timestamp retryDelayMs : Int) (current : ListingJob) : ListingJob :=
  if HasReplayEligibleEvent current then
    reconcileListing { current with
      deliveryAttemptCount := current.deliveryAttemptCount + 1
      lastAttemptAt := some timestamp } timestamp retryDelayMs
  else current

def startedDelivery (eventId relayUrl : Text) (timestamp : Int) (delivery : ListingDelivery) :
    ListingDelivery :=
  if delivery.eventId = eventId ∧ delivery.relayUrl = relayUrl ∧ delivery.status.Retryable then
    { delivery with
      status := .pending
      attemptCount := delivery.attemptCount + 1
      lastAttemptAt := some timestamp }
  else delivery

def startedDeliveryAttempt (eventId relayUrl : Text) (timestamp : Int) (current : ListingJob) :
    ListingJob :=
  { current with
    relayDelivery := current.relayDelivery.map (startedDelivery eventId relayUrl timestamp)
    updatedAt := timestamp }

def recordedDelivery (eventId relayUrl : Text) (status : ListingStatus) (timestamp : Int)
    (delivery : ListingDelivery) : ListingDelivery :=
  if delivery.eventId ≠ eventId ∨ delivery.relayUrl ≠ relayUrl then delivery
  else if delivery.status = .acked then delivery
  else if delivery.status = .rejected ∧ status ≠ .acked then delivery
  else { delivery with
    status := status
    acknowledgedAt := if status = .acked then some timestamp else delivery.acknowledgedAt
    rejectedAt := if status = .rejected then some timestamp else delivery.rejectedAt
    timedOutAt := if status = .timed_out then some timestamp else delivery.timedOutAt }

def markListingOutcome (eventId relayUrl : Text) (status : ListingStatus)
    (timestamp retryDelayMs : Int) (current : ListingJob) : ListingJob :=
  reconcileListing { current with
    relayDelivery := current.relayDelivery.map
      (recordedDelivery eventId relayUrl status timestamp) } timestamp retryDelayMs

end Conduit.ProductDelivery
