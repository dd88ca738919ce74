import Conduit.ProductDelivery.Listings

namespace Conduit.ProductDelivery

open Js Stock Throwing
open Network (sortUrls)

inductive RelayRole where
  | author_write
  | source
  | conduit
  deriving DecidableEq

def roleOrder : List RelayRole := [.author_write, .source, .conduit]

inductive DeletionStatus where
  | pending
  | acked
  | rejected
  | timed_out
  | cancelled
  | auth_required
  | error
  | policy_blocked
  deriving DecidableEq

inductive DeletionState where
  | pending
  | partialDelivery
  | delivered
  | superseded_unpublished
  deriving DecidableEq

structure DeletionTarget where
  relayUrl : Text
  roles : List RelayRole
  (appRelay personalRelay : Bool)
  deriving DecidableEq

structure DeletionDelivery where
  relayUrl : Text
  status : DeletionStatus
  attemptCount : Nat
  consecutiveRejections : Option Nat
  (lastAttemptAt acknowledgedAt rejectedAt timedOutAt : Option Int)
  deriving DecidableEq

/-- `ProductDeletionDeliveryJob`. -/
structure DeletionJob where
  id : Text
  signedEvent : SignedEvent
  relayPlan : List DeletionTarget
  relayDelivery : List DeletionDelivery
  state : DeletionState
  (deliveryAttemptCount retryCount : Nat)
  companionListingJobId : Option Text
  (lastAttemptAt nextRetryAt : Option Int)
  deliveryLeaseOwner : Option Text
  deliveryLeaseExpiresAt : Option Int
  (createdAt updatedAt : Int)
  deriving DecidableEq

structure DeletionInput where
  signedEvent : SignedEvent
  (currentWriteRelayUrls currentAppRelayUrls currentPersonalRelayUrls : List Text)
  sourceRelayUrls : List Text
  canonicalConduitRelayUrl : Text
  companionListingJobId : Option Text

variable (P : DeliveryPlatform)

def normalizeConfiguredE2eLoopbackRelayUrl (raw : Text) : Option Text := do
  let url ← P.tryNormalizeRelayUrl raw
  guard (startsWith url "ws://" = true ∧ P.isolatedRelayUrl = some url)
  pure url

def IsApprovedDeletionTarget (target : DeletionTarget) : Prop :=
  ∃ url ∈ P.tryNormalizeRelayUrl target.relayUrl,
    if P.e2eRelayIsolationEnabled = true then
      (normalizeConfiguredE2eLoopbackRelayUrl P url).isSome = true
    else (P.normalizePublicWebSocketUrl url).isSome = true ∨
      (normalizeConfiguredE2eLoopbackRelayUrl P url).isSome = true ∨
      .author_write ∈ target.roles
  deriving Decidable

def approvedSourceRelayUrls (relayUrls approved : List Text) : List Text :=
  (relayUrls.filterMap P.tryNormalizeRelayUrl).filter fun url =>
    decide (startsWith url "ws://" = false ∧ ((P.normalizePublicWebSocketUrl url).isSome = true ∨
      ∃ a ∈ approved, P.tryNormalizeRelayUrl a = some url))

/-- The targets of a plan: one for each address, with the roles that were added to it. -/
def targetsOf (entries : List (Text × RelayRole)) (appRelayUrls personalRelayUrls : List Text) :
    List DeletionTarget :=
  (sortUrls (entries.map Prod.fst).eraseDups).map fun url =>
    ⟨url, roleOrder.filter fun role => decide ((url, role) ∈ entries), decide (url ∈ appRelayUrls),
      decide (url ∈ personalRelayUrls)⟩

def planProductDeletionRelays (input : DeletionInput) : Result (List DeletionTarget) :=
  let configured := if P.e2eRelayIsolationEnabled = true then []
    else input.currentWriteRelayUrls.filter fun url => decide (url ∈ P.configuredRelayUrls)
  let appRelayUrls :=
    (input.currentAppRelayUrls ++ configured).filterMap P.tryNormalizeRelayUrl
  let personalRelayUrls := input.currentPersonalRelayUrls.filterMap P.tryNormalizeRelayUrl
  if P.e2eRelayIsolationEnabled = true then
    match P.isolatedRelayUrl with
    | none => .error (.error "E2E relay isolation requires one configured loopback relay")
    | some isolated => do
      reject (normalizeConfiguredE2eLoopbackRelayUrl P input.canonicalConduitRelayUrl = none)
        (.error "Canonical Conduit relay must match the configured E2E loopback relay")
      let matching (urls : List Text) := ∃ url ∈ urls,
        normalizeConfiguredE2eLoopbackRelayUrl P url = some isolated
      pure (targetsOf ([(isolated, .conduit)] ++
        (if matching input.currentWriteRelayUrls then [(isolated, .author_write)] else []) ++
        (if matching input.sourceRelayUrls then [(isolated, .source)] else []))
        appRelayUrls personalRelayUrls)
  else do
    let canonical ← ((P.normalizePublicWebSocketUrl input.canonicalConduitRelayUrl).or
        (normalizeConfiguredE2eLoopbackRelayUrl P input.canonicalConduitRelayUrl)).elim
      (.error (.error "Canonical Conduit relay must use a public secure wss:// URL")) .ok
    let sources := approvedSourceRelayUrls P input.sourceRelayUrls input.currentWriteRelayUrls
    let withRole (urls : List Text) (role : RelayRole) : List (Text × RelayRole) :=
      (urls.filterMap P.tryNormalizeRelayUrl).map fun url => (url, role)
    pure (targetsOf (withRole input.currentWriteRelayUrls .author_write ++
      withRole sources .source ++ withRole [canonical] .conduit) appRelayUrls personalRelayUrls)

/-- `assertSignedDeletionEvent`. -/
def IsSignedDeletion (event : SignedEvent) : Prop :=
  P.admitted event = true ∧ P.deletesProducts event = true
  deriving Decidable

def normalizeCompanionListingJobId : Option Text → Result (Option Text)
  | none => .ok none
  | some raw => do
    let normalized := trim raw
    reject (startsWith normalized "product-listing:" = false)
      (.error "Product deletion companion listing job id is invalid")
    pure (some normalized)

def prepareProductDeletionDeliveryJob (input : DeletionInput) (now : Int) : Result DeletionJob := do
  reject (¬ IsSignedDeletion P input.signedEvent)
    (.error "Product deletion outbox requires a valid signed kind-5 event")
  let relayPlan ← planProductDeletionRelays P input
  let companionListingJobId ← normalizeCompanionListingJobId input.companionListingJobId
  pure {
    id := input.signedEvent.id
    signedEvent := input.signedEvent
    relayPlan := relayPlan
    relayDelivery := relayPlan.map fun target =>
      ⟨target.relayUrl, .pending, 0, none, none, none, none, none⟩
    state := .pending
    deliveryAttemptCount := 0
    retryCount := 0
    companionListingJobId := companionListingJobId
    lastAttemptAt := none
    nextRetryAt := some now
    deliveryLeaseOwner := none
    deliveryLeaseExpiresAt := none
    createdAt := now
    updatedAt := now }

/-- The replacement family may release the deletion. -/
def IsDeliveredCompanionListingForDeletion (listing : Option ListingJob) (job : DeletionJob) :
    Prop :=
  ∃ l ∈ listing, job.companionListingJobId = some l.id ∧ l.companionDeletionJobId = some job.id ∧
    job.id = job.signedEvent.id ∧ l.merchantPubkey = job.signedEvent.pubkey ∧
    l.readyForDelivery = true ∧ l.state = .delivered ∧ l.signedEvents ≠ [] ∧
    IsSignedDeletion P job.signedEvent ∧
    (∀ event ∈ l.signedEvents, event.kind = kindProduct ∧ event.pubkey = l.merchantPubkey ∧
      P.admitted event = true) ∧ (l.signedEvents.map SignedEvent.id).Nodup ∧
    l.id = getProductListingDeliveryJobId l.signedEvents ∧ HasCommonAcknowledgedRelay l
  deriving Decidable

variable (deliveries : List DeletionDelivery)

def AllAcked : Prop := ∀ d ∈ deliveries, d.status = .acked
  deriving Decidable

def deriveDeletionState (attempts : Nat) : DeletionState :=
  if AllAcked deliveries then .delivered
  else if 0 < attempts then .partialDelivery else .pending

def maxRejectedRetryDelayMs : Int := 1800000

variable (delivery : DeletionDelivery)

def rejectedRetryDelayMs (retryDelayMs : Int) : Int :=
  let rejections := max 1 (delivery.consecutiveRejections.getD 0)
  max retryDelayMs (min maxRejectedRetryDelayMs (retryDelayMs * 2 ^ min (rejections - 1) 16))

def rejectedTargetNextRetryAt (retryDelayMs : Int) : Int :=
  let attemptAt := (delivery.rejectedAt.or delivery.lastAttemptAt).filter fun at_ =>
    decide (IsSafeInteger at_ ∧ 0 ≤ at_)
  attemptAt.getD 0 + rejectedRetryDelayMs delivery retryDelayMs

def reconcileDeletion (timestamp retryDelayMs : Int) (job : DeletionJob) : DeletionJob :=
  let state := deriveDeletionState job.relayDelivery job.deliveryAttemptCount
  let outstanding := job.relayDelivery.filter fun d => decide (d.status ≠ .acked)
  { job with
    state := state
    nextRetryAt := if state = .delivered then none
      else (outstanding.map fun d =>
        if d.status = .rejected then rejectedTargetNextRetryAt d retryDelayMs
        else timestamp + retryDelayMs).min?
    updatedAt := timestamp }

def retireUnapprovedPersistedRelayTargets (timestamp retryDelayMs : Int) (current : DeletionJob) :
    Result DeletionJob :=
  let relayPlan := current.relayPlan.filter fun target =>
    decide (IsApprovedDeletionTarget P target)
  if current.state = .superseded_unpublished then .ok current
  else if relayPlan.length = current.relayPlan.length then .ok current
  else if relayPlan.length = 0 then
    .error (.error "Product deletion delivery job has no approved relay targets")
  else .ok (reconcileDeletion timestamp retryDelayMs { current with
    relayPlan := relayPlan
    relayDelivery := current.relayDelivery.filter fun d =>
      decide (d.relayUrl ∈ relayPlan.map DeletionTarget.relayUrl) })

variable (leaseOwner : Text)

def markDeletionRunStarted (timestamp retryDelayMs : Int) (current : DeletionJob) : DeletionJob :=
  if current.state = .superseded_unpublished then current
  else if current.deliveryLeaseOwner ≠ some leaseOwner then current
  else reconcileDeletion timestamp retryDelayMs { current with
    deliveryAttemptCount := current.deliveryAttemptCount + 1
    retryCount := current.deliveryAttemptCount
    lastAttemptAt := some timestamp }

def attemptedDelivery (relayUrl : Text) (timestamp : Int) (d : DeletionDelivery) :
    DeletionDelivery :=
  if d.relayUrl = relayUrl ∧ d.status ≠ .acked then
    { d with status := .pending, attemptCount := d.attemptCount + 1, lastAttemptAt := some timestamp }
  else d

def markRelayAttemptStarted (relayUrl leaseOwner : Text) (timestamp leaseMs : Int)
    (current : DeletionJob) : DeletionJob :=
  if current.state = .superseded_unpublished then current
  else if current.deliveryLeaseOwner ≠ some leaseOwner then current
  else { current with
    relayDelivery := current.relayDelivery.map (attemptedDelivery relayUrl timestamp)
    deliveryLeaseExpiresAt := some (timestamp + leaseMs)
    updatedAt := timestamp }

def outcomeDelivery (relayUrl : Text) (status : DeletionStatus) (timestamp : Int)
    (d : DeletionDelivery) : DeletionDelivery :=
  if d.relayUrl ≠ relayUrl then d
  else { d with
    status := status
    consecutiveRejections :=
      if status = .rejected then some (min 17 (d.consecutiveRejections.getD 0 + 1))
      else if d.consecutiveRejections = none then none else some 0
    acknowledgedAt := if status = .acked then some timestamp else d.acknowledgedAt
    rejectedAt := if status = .rejected then some timestamp else d.rejectedAt
    timedOutAt := if status = .timed_out then some timestamp else d.timedOutAt }

def markRelayOutcome (relayUrl leaseOwner : Text) (status : DeletionStatus)
    (timestamp retryDelayMs : Int) (current : DeletionJob) : DeletionJob :=
  let delivery := current.relayDelivery.find? fun d => decide (d.relayUrl = relayUrl)
  if (∃ d ∈ delivery, d.status = .acked) ∨
      current.deliveryLeaseOwner ≠ some leaseOwner ∧ status ≠ .acked then current
  else reconcileDeletion timestamp retryDelayMs { current with
    relayDelivery := current.relayDelivery.map (outcomeDelivery relayUrl status timestamp) }

def claimDeliveryLease (timestamp leaseMs : Int) (forceRecovery : Bool)
    (current : DeletionJob) : DeletionJob :=
  if current.state = .delivered ∨ current.state = .superseded_unpublished then current
  else if (∃ owner ∈ current.deliveryLeaseOwner, owner ≠ leaseOwner) ∧
      timestamp < current.deliveryLeaseExpiresAt.getD 0 ∧ forceRecovery = false then current
  else { current with
    deliveryLeaseOwner := some leaseOwner
    deliveryLeaseExpiresAt := some (timestamp + leaseMs)
    updatedAt := timestamp }

def releaseDeliveryLease (current : DeletionJob) : DeletionJob :=
  if current.deliveryLeaseOwner ≠ some leaseOwner then current
  else { current with deliveryLeaseOwner := none, deliveryLeaseExpiresAt := none }

end Conduit.ProductDelivery
