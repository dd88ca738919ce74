import Conduit.Network.InboxMerge

namespace Conduit.Network

open Js Stock Throwing CheckoutSpark

structure PublishObservation where
  relayUrl : Text
  status : NetworkPreferencePublishStatus

structure ReadbackObservation where
  relayUrl : Text
  status : NetworkPreferenceReadbackStatus

/-- `NetworkPreferenceDistributionOutcomeUpdate`. -/
structure OutcomeUpdate where
  publish : List PublishObservation
  readback : List ReadbackObservation
  observedAt : Int

def publishStrength : NetworkPreferencePublishStatus → Nat
  | .pending => 0
  | .cancelled | .policyBlocked | .authRequired | .error | .timedOut => 1
  | .rejected => 2
  | .acked => 3

def readbackStrength : NetworkPreferenceReadbackStatus → Nat
  | .pending => 0
  | .timedOut | .authRequired | .verificationUnavailable | .unavailable | .policyBlocked
  | .cancelled => 1
  | .absent => 2
  | .observed => 3

def indexObservations (relayUrls plannedRelayUrls : List Text) (label : String) : Result Unit :=
  reject (¬ relayUrls.Nodup ∨ ∃ url ∈ relayUrls, url ∉ plannedRelayUrls)
    (.error (label ++ " observations must target the immutable plan"))

def publishOutcome (observedAt : Int) (observation : Option PublishObservation)
    (next : NetworkPreferenceRelayOutcome) : NetworkPreferenceRelayOutcome :=
  match observation with
  | none => next
  | some publish =>
    if next.publishStatus = .acked ∨ next.readbackStatus = .observed then next
    else { next with
      publishAttemptCount := next.publishAttemptCount + 1
      publishAttemptedAt := some observedAt
      publishStatus := if publishStrength next.publishStatus ≤ publishStrength publish.status
        then publish.status else next.publishStatus }

def readbackOutcome (observedAt : Int) (observation : Option ReadbackObservation)
    (next : NetworkPreferenceRelayOutcome) : NetworkPreferenceRelayOutcome :=
  match observation with
  | none => next
  | some readback =>
    if next.readbackStatus = .observed then next
    else
      let attempted := { next with
        readbackAttemptCount := next.readbackAttemptCount + 1
        readbackAttemptedAt := some observedAt }
      if readbackStrength next.readbackStatus ≤ readbackStrength readback.status then
        { attempted with
          readbackStatus := readback.status
          observedAt := if readback.status = .observed then some observedAt else next.observedAt }
      else attempted

def applyNetworkPreferenceDistributionOutcomes (outcomes : List NetworkPreferenceRelayOutcome)
    (update : OutcomeUpdate) : Result (List NetworkPreferenceRelayOutcome) := do
  reject (¬ IsSafeInteger update.observedAt ∨ update.observedAt < 0)
    (.error "Network preference observation time must be valid")
  let planned := outcomes.map (·.relayUrl)
  reject (¬ planned.Nodup) (.error "Network preference distribution plan must be unique")
  indexObservations (update.publish.map (·.relayUrl)) planned "Publish"
  indexObservations (update.readback.map (·.relayUrl)) planned "Readback"
  return outcomes.map fun current =>
    readbackOutcome update.observedAt
      (update.readback.find? fun o => decide (o.relayUrl = current.relayUrl))
      (publishOutcome update.observedAt
        (update.publish.find? fun o => decide (o.relayUrl = current.relayUrl)) current)

section
variable (P : NetworkPlatform)

def distributionConflict : Failure := .error
  "A newer inbox declaration was retained before this signed event could be staged"

def createStagedCandidate (input : StageInput) (now : Int) :
    Result InboxDeclarationEvidenceCandidate :=
  let stagedAt := input.stagedAt.getD now
  createEventEvidence P ⟨input.pubkey, input.signedEvent, [], [], none, some stagedAt, none,
    some (input.cachedAt.getD stagedAt)⟩ now (some { input with stagedAt := some stagedAt })

variable (record : InboxDeclarationEvidenceRecord)

def StagedCandidateWon (candidate : InboxDeclarationEvidenceCandidate) : Prop :=
  ∃ pending ∈ candidate.pendingDistribution, ∃ retained ∈ record.pendingDistribution,
    record.current.signedEvent = candidate.current.signedEvent ∧
      retained.signedEvent = pending.signedEvent ∧
      retained.publishRelayUrls = pending.publishRelayUrls ∧
      retained.confirmationRelayUrls = pending.confirmationRelayUrls
  deriving Decidable

def applyInboxDeclarationDistributionStage (existing : Option InboxDeclarationEvidenceRecord)
    (input : StageInput) (now : Int) : Result InboxDeclarationEvidenceRecord := do
  let candidate ← createStagedCandidate P input now
  reject (existing.map (·.current.signedEvent.id) ≠ input.expectedCurrentEventId)
    distributionConflict
  let merged ← applyEvidenceMerge P existing candidate
  reject (¬ StagedCandidateWon merged candidate) distributionConflict
  cloneInboxDeclarationEvidenceRecord P merged

/-- `RestageInboxDeclarationDistributionInput`. -/
structure RestageInput where
  pubkey : Text
  signedEvent : SignedEvent
  (expectedPublishRelayUrls publishRelayUrls : List Text)
  relayOutcomes : Option (List NetworkPreferenceRelayOutcome)
  (stagedAt cachedAt : Option Int)

def initialRelayOutcome (relayUrl : Text) : NetworkPreferenceRelayOutcome where
  relayUrl := relayUrl
  publishStatus := .pending
  publishAttemptCount := 0
  publishAttemptedAt := none
  readbackStatus := .pending
  readbackAttemptCount := 0
  readbackAttemptedAt := none
  observedAt := none

def addAttempt (event : SignedEvent) (attempt : InboxDeclarationCutoverConfirmationAttempt) :
    List InboxDeclarationCutoverRecovery → List InboxDeclarationCutoverRecovery
  | [] => []
  | recovery :: rest =>
    if recovery.replacementEventId = event.id ∧ recovery.replacementEventSig = some event.sig ∧
        recovery.readbackObservedAt = none then
      { recovery with confirmationAttempts := some (mergeConfirmationAttempts P
          (recovery.confirmationAttempts.getD [] ++ [attempt])) } :: rest
    else recovery :: addAttempt event attempt rest

def restagedOutcomes (publishRelayUrls : List Text) :
    Option (List NetworkPreferenceRelayOutcome) → Result (List NetworkPreferenceRelayOutcome)
  | some outcomes => normalizeRelayOutcomes P publishRelayUrls outcomes
  | none => .ok (publishRelayUrls.map initialRelayOutcome)

variable (existing : InboxDeclarationEvidenceRecord)

def applyInboxDeclarationDistributionRestage
    (input : RestageInput) (now : Int) : Result InboxDeclarationEvidenceRecord := do
  let pubkey := toLowerCase (trim input.pubkey)
  reject (¬ IsHex64 pubkey ∨ pubkey ≠ existing.pubkey)
    (.error "Inbox redistribution requires its retained account")
  assertValidDeclarationEvent P pubkey input.signedEvent
  reject (existing.current.state ≠ .declared ∨ existing.current.signedEvent ≠ input.signedEvent)
    distributionConflict
  let expectedPublishRelayUrls := normalizeRetainedRelayUrls P input.expectedPublishRelayUrls
  reject (∃ pending ∈ existing.pendingDistribution, pending.signedEvent ≠ input.signedEvent ∨
      pending.publishRelayUrls ≠ expectedPublishRelayUrls) distributionConflict
  let publishRelayUrls := normalizeSecureOrIsolatedE2eRelayUrls P input.publishRelayUrls
  reject (publishRelayUrls = []) (.error "Inbox redistribution requires secure publish targets")
  let stagedAt ← assertLocalTimestamp (input.stagedAt.getD now) "Inbox redistribution stagedAt"
  let relayOutcomes ← restagedOutcomes P publishRelayUrls input.relayOutcomes
  let next ← cloneInboxDeclarationEvidenceRecord P existing
  let cachedAt ← assertLocalTimestamp (input.cachedAt.getD stagedAt)
    "Inbox redistribution cachedAt"
  cloneInboxDeclarationEvidenceRecord P { next with
    pendingDistribution := some ⟨input.signedEvent, publishRelayUrls,
      some (sortUrls publishRelayUrls), some relayOutcomes, stagedAt⟩
    cachedAt := max next.cachedAt cachedAt
    cutoverRecoveries := next.cutoverRecoveries.map (addAttempt P input.signedEvent
      ⟨sortUrls publishRelayUrls, none, none, some stagedAt⟩) }

/-- `now` is not read: the observation's time is the update's. -/
def applyInboxDeclarationDistributionOutcomes
    (update : OutcomeUpdate) : Result InboxDeclarationEvidenceRecord := do
  match existing.pendingDistribution.bind fun p => p.relayOutcomes.map fun o => (p, o) with
  | none => .error (.error "Inbox declaration distribution outcomes are not pending")
  | some (pending, outcomes) =>
    let relayOutcomes ← applyNetworkPreferenceDistributionOutcomes outcomes update
    let exactSourceRelayUrls := (relayOutcomes.filter fun o =>
      decide (o.readbackStatus = .observed)).map (·.relayUrl)
    let completed := hasCompletedExactNetworkPreferenceReadback relayOutcomes
    let confirmationRelayUrls ← normalizedPendingConfirmationRelayUrls P pending
    let retained ← cloneInboxDeclarationEvidenceRecord P existing
    let candidate ← createEventEvidence P {
      pubkey := retained.pubkey
      signedEvent := pending.signedEvent
      sourceRelayUrls := exactSourceRelayUrls
      sharedSourceRelayUrls :=
        exactSourceRelayUrls.filter fun url => decide (url ∈ confirmationRelayUrls)
      pendingDistribution := none
      observedAt := some update.observedAt
      completeObservedAt := if completed then some update.observedAt else none
      cachedAt := some update.observedAt } update.observedAt none
    applyEvidenceMerge P (some { retained with
      pendingDistribution := some { pending with relayOutcomes := some relayOutcomes } }) candidate

variable (recovery : InboxDeclarationCutoverRecovery)

def historicalRelayUrls : List Text :=
  recovery.relayUrls ++ (recovery.confirmationAttempts.getD []).flatMap (·.relayUrls)

def blockRelays (excluded : List Text) (recovery : InboxDeclarationCutoverRecovery) :
    InboxDeclarationCutoverRecovery :=
  let policyBlockedRelayUrls := sortUrls (normalizeRetainedRelayUrls P
    (recovery.policyBlockedRelayUrls.getD [] ++
      (historicalRelayUrls recovery).filter fun url => decide (url ∈ excluded)))
  { recovery with
    policyBlockedRelayUrls := unlessEmpty policyBlockedRelayUrls <|> recovery.policyBlockedRelayUrls }

def applyInboxDeclarationCutoverExclusions (excludedRelayUrls : List Text) (excludedAt : Int) :
    Result InboxDeclarationEvidenceRecord := do
  let excluded := normalizeRetainedRelayUrls P excludedRelayUrls
  let next ← cloneInboxDeclarationEvidenceRecord P record
  match next.cutoverRecoveries with
  | none => return next
  | some recoveries =>
    if excluded = [] then return next
    let _ ← assertLocalTimestamp excludedAt "Inbox cutover exclusion observedAt"
    cloneInboxDeclarationEvidenceRecord P
      { next with cutoverRecoveries := some (recoveries.map (blockRelays P excluded)) }

/-- `RecordInboxDeclarationCutoverRecoveryReadbackInput`. -/
structure ReadbackInput where
  (replacementEventId replacementEventSig : Text)
  readback : List ReadbackObservation
  observedAt : Int

def admitObservation (seen : List ReadbackObservation) (observation : ReadbackObservation) :
    Result (List ReadbackObservation) :=
  let failure : Failure :=
    .error "Inbox cutover readback must target its immutable shared set"
  match (normalizeSecureOrIsolatedE2eRelayUrls P [observation.relayUrl]).head? with
  | none => .error failure
  | some relayUrl => do
    reject (relayUrl ∈ recovery.policyBlockedRelayUrls.getD [] ∨
      (∃ o ∈ seen, o.relayUrl = relayUrl) ∨
      ¬ ∃ attempt ∈ recovery.confirmationAttempts.getD [], relayUrl ∈ attempt.relayUrls) failure
    return seen ++ [⟨relayUrl, observation.status⟩]

def observedOn (statuses : List NetworkPreferenceReadbackStatus) (relayUrls : List Text)
    (observations : List ReadbackObservation) : List Text :=
  (observations.filter fun o => decide (o.relayUrl ∈ relayUrls ∧ o.status ∈ statuses)).map
    (·.relayUrl)

def recordAttempt (observations : List ReadbackObservation)
    (attempt : InboxDeclarationCutoverConfirmationAttempt) :
    InboxDeclarationCutoverConfirmationAttempt :=
  let completedRelayUrls := attempt.completedRelayUrls.getD [] ++
    observedOn [.observed, .absent] attempt.relayUrls observations
  let observedRelayUrls := attempt.observedRelayUrls.getD [] ++
    observedOn [.observed] attempt.relayUrls observations
  { attempt with
    completedRelayUrls := if completedRelayUrls = [] then attempt.completedRelayUrls
      else some (sharedUrls P completedRelayUrls)
    observedRelayUrls := if observedRelayUrls = [] then attempt.observedRelayUrls
      else some (sharedUrls P observedRelayUrls) }

def setRecovery (replacementEventId : Text) (updated : InboxDeclarationCutoverRecovery) :
    List InboxDeclarationCutoverRecovery → List InboxDeclarationCutoverRecovery
  | [] => []
  | recovery :: rest =>
    if recovery.replacementEventId = replacementEventId then updated :: rest
    else recovery :: setRecovery replacementEventId updated rest

def applyInboxDeclarationCutoverRecoveryReadback
    (input : ReadbackInput) : Result InboxDeclarationEvidenceRecord := do
  let observedAt ← assertLocalTimestamp input.observedAt "Inbox cutover readback observedAt"
  let next ← cloneInboxDeclarationEvidenceRecord P record
  let failure : Failure := .error
    "Inbox cutover readback must match a locally planned replacement"
  match lookup (·.replacementEventId) input.replacementEventId
      (next.cutoverRecoveries.getD []) with
  | none => .error failure
  | some recovery =>
    reject (recovery.replacementEventSig ≠ some input.replacementEventSig ∨
      recovery.confirmationAttempts.getD [] = []) failure
    if recovery.readbackObservedAt ≠ none then return next
    let observations ← foldResult (admitObservation P recovery) [] input.readback
    let attempts := (recovery.confirmationAttempts.getD []).map (recordAttempt P observations)
    let updated ← startGrace observedAt attempts recovery
    cloneInboxDeclarationEvidenceRecord P { next with
      cutoverRecoveries := next.cutoverRecoveries.map
        (setRecovery input.replacementEventId updated) }

structure InboxRecoveryRoute where
  relayUrl : Text
  /-- No expiry while the replacement awaits its confirmation. -/
  expiresAt : Option Int

def routeRelay (batch : InboxDeclarationCutoverRecovery) (routes : List InboxRecoveryRoute)
    (relayUrl : Text) : List InboxRecoveryRoute :=
  if relayUrl ∈ batch.policyBlockedRelayUrls.getD [] then routes
  else
    let current := lookup (·.relayUrl) relayUrl routes
    match batch.readbackObservedAt, batch.expiresAt with
    | some _, some expiresAt =>
      if ∃ route ∈ current, route.expiresAt = none then
        mapSet (·.relayUrl) routes ⟨relayUrl, none⟩
      else mapSet (·.relayUrl) routes
        ⟨relayUrl, some (max ((current.bind (·.expiresAt)).getD 0) expiresAt)⟩
    | _, _ => mapSet (·.relayUrl) routes ⟨relayUrl, none⟩

def interpretAccountNetworkInboxRecovery (batches : List InboxDeclarationCutoverRecovery)
    (now : Int) : List InboxRecoveryRoute :=
  batches.foldl (fun routes batch =>
    if ∃ expiresAt ∈ batch.expiresAt, expiresAt ≤ now then routes
    else batch.relayUrls.foldl (routeRelay batch) routes) []

/-- Read-only cutover relays whose exact-readback grace has not expired. -/
def getActiveInboxCutoverRecoveryRelayUrls (now : Int) : Result (List Text) := do
  let recoveries ← normalizeCutoverRecoveries P (recoveriesOf record) record.pendingDistribution
  return normalizeRetainedRelayUrls P
    ((interpretAccountNetworkInboxRecovery recoveries now).map (·.relayUrl))

end

end Conduit.Network
