import Conduit.Network.Cutover

namespace Conduit.Network

open Js Stock Throwing CheckoutSpark

section
variable (P : NetworkPlatform)

def assertCanonicalStoredEventEvidence (pubkey : Text)
    (evidence : InboxDeclarationEventEvidence) : Result Unit := do
  assertValidDeclarationEvent P pubkey evidence.signedEvent
  let sourceRelayUrls := normalizeRetainedRelayUrls P evidence.sourceRelayUrls
  reject (evidence.sourceRelayUrls ≠ sourceRelayUrls)
    (.error "Retained inbox declaration sources must remain canonical and ordered")
  let sharedSourceRelayUrls :=
    normalizeSecureOrIsolatedE2eRelayUrls P (evidence.sharedSourceRelayUrls.getD [])
  reject (∃ shared ∈ evidence.sharedSourceRelayUrls, shared ≠ sharedSourceRelayUrls)
    (.error "Retained shared inbox declaration sources must remain canonical and ordered")
  reject (∃ url ∈ sharedSourceRelayUrls, url ∉ sourceRelayUrls)
    (.error "Retained shared inbox declaration sources must also be event sources")
  let observedAt ← assertLocalTimestamp evidence.observedAt
    "Retained inbox declaration observedAt"
  let completeObservedAt ← optionResult
    (assertLocalTimestamp · "Retained inbox declaration completeObservedAt")
    evidence.completeObservedAt
  reject (∃ complete ∈ completeObservedAt, observedAt < complete)
    (.error "Retained inbox declaration completeObservedAt cannot exceed observedAt")

def clonePendingDistribution (current : InboxDeclarationEventEvidence)
    (pending : PendingInboxDeclarationDistribution) :
    Result PendingInboxDeclarationDistribution := do
  reject (pending.signedEvent ≠ current.signedEvent)
    (.error "Pending inbox declaration distribution must match its signed frontier")
  let publishRelayUrls := normalizeRetainedRelayUrls P pending.publishRelayUrls
  reject (publishRelayUrls = [] ∨ pending.publishRelayUrls ≠ publishRelayUrls)
    (.error "Retained pending inbox declaration targets must remain canonical and ordered")
  let confirmationRelayUrls ← optionResult (normalizeConfirmationRelayUrls P publishRelayUrls)
    pending.confirmationRelayUrls
  let relayOutcomes ← optionResult (normalizeRelayOutcomes P publishRelayUrls)
    pending.relayOutcomes
  let stagedAt ← assertLocalTimestamp pending.stagedAt "Inbox declaration distribution stagedAt"
  return ⟨pending.signedEvent, publishRelayUrls, confirmationRelayUrls, relayOutcomes, stagedAt⟩

def cloneInboxDeclarationEvidenceRecord (record : InboxDeclarationEvidenceRecord) :
    Result InboxDeclarationEvidenceRecord := do
  reject (¬ IsHex64 (toLowerCase (trim record.pubkey)) ∨
      toLowerCase (trim record.pubkey) ≠ record.pubkey)
    (.error "Retained inbox declaration evidence requires a canonical account pubkey")
  assertCanonicalStoredEventEvidence P record.pubkey record.current
  let _ ← optionResult (assertCanonicalStoredEventEvidence P record.pubkey) record.lastUsable
  reject (∃ lastUsable ∈ record.lastUsable, lastUsable.state ≠ .declared)
    (.error "Retained last-usable inbox declaration must remain declared")
  let cachedAt ← assertLocalTimestamp record.cachedAt "Retained inbox declaration cachedAt"
  let pendingDistribution ← optionResult (clonePendingDistribution P record.current)
    record.pendingDistribution
  let cutoverRecoveries ← normalizeCutoverRecoveries P (recoveriesOf record) pendingDistribution
  return { record with
    pendingDistribution := pendingDistribution
    cutoverRecoveries := unlessEmpty cutoverRecoveries
    cutoverRecovery := none
    cachedAt := cachedAt }

/-- `MergeInboxDeclarationEvidenceInput`, without what is known of the lookup. -/
structure MergeInput where
  pubkey : Text
  signedEvent : SignedEvent
  (sourceRelayUrls sharedSourceRelayUrls : List Text)
  pendingDistribution : Option PendingInboxDeclarationDistribution
  (observedAt completeObservedAt cachedAt : Option Int)

/-- `StageInboxDeclarationDistributionInput`. -/
structure StageInput where
  pubkey : Text
  signedEvent : SignedEvent
  publishRelayUrls : List Text
  confirmationRelayUrls : Option (List Text)
  relayOutcomes : Option (List NetworkPreferenceRelayOutcome)
  (previousRelayUrls excludedRelayUrls : Option (List Text))
  (cutoverPolicyVersion cutoverGraceMs : Option Int)
  expectedCurrentEventId : Option Text
  (stagedAt cachedAt : Option Int)

variable (input : MergeInput)

/-- The plan that is asked for. -/
def requestedPending (pendingInput : Option StageInput) :
    Option (SignedEvent × List Text × Option (List Text) ×
      Option (List NetworkPreferenceRelayOutcome) × Option Int) :=
  match pendingInput, input.pendingDistribution with
  | some stage, _ => some (stage.signedEvent, stage.publishRelayUrls,
      stage.confirmationRelayUrls, stage.relayOutcomes, stage.stagedAt)
  | none, some pending => some (pending.signedEvent, pending.publishRelayUrls,
      pending.confirmationRelayUrls, pending.relayOutcomes, some pending.stagedAt)
  | none, none => none

def createPending (state : InboxDeclarationEvidenceState) (now : Int) :
    SignedEvent × List Text × Option (List Text) × Option (List NetworkPreferenceRelayOutcome) ×
      Option Int → Result PendingInboxDeclarationDistribution
  | (signedEvent, requestedUrls, requestedConfirmation, outcomes, requestedStagedAt) => do
    reject (state ≠ .declared)
      (.error "Pending inbox declaration distribution requires usable relay tags")
    reject (signedEvent ≠ input.signedEvent)
      (.error "Pending inbox declaration distribution must match its signed frontier")
    let publishRelayUrls := normalizeRetainedRelayUrls P requestedUrls
    reject (publishRelayUrls = [])
      (.error "Pending inbox declaration distribution requires valid publish targets")
    reject (∃ pending ∈ input.pendingDistribution, pending.publishRelayUrls ≠ publishRelayUrls)
      (.error "Retained pending inbox declaration targets must remain canonical and ordered")
    let confirmationRelayUrls ← optionResult (normalizeConfirmationRelayUrls P publishRelayUrls)
      requestedConfirmation
    let relayOutcomes ← optionResult (normalizeRelayOutcomes P publishRelayUrls) outcomes
    let stagedAt ← assertLocalTimestamp (requestedStagedAt.getD now)
      "Inbox declaration distribution stagedAt"
    return ⟨input.signedEvent, publishRelayUrls, confirmationRelayUrls, relayOutcomes, stagedAt⟩

def replacedRelayUrls (stage : StageInput) (secureRelayUrls : List Text) : List Text :=
  (normalizeRetainedRelayUrls P (stage.previousRelayUrls.getD [])).filter
    fun url => decide (url ∉ secureRelayUrls)

def createCutover (stage : StageInput) (secureRelayUrls : List Text)
    (pending : PendingInboxDeclarationDistribution) :
    Result (PendingInboxDeclarationDistribution × List InboxDeclarationCutoverRecovery) := do
  let relayUrls := replacedRelayUrls P stage secureRelayUrls
  if relayUrls = [] then return (pending, [])
  let excluded := normalizeRetainedRelayUrls P (stage.excludedRelayUrls.getD [])
  let confirmationRelayUrls ← normalizeConfirmationRelayUrls P pending.publishRelayUrls
    (stage.confirmationRelayUrls.getD pending.publishRelayUrls)
  let policyVersion ← assertPositiveInteger stage.cutoverPolicyVersion
    "Inbox cutover policy version"
  let graceMs ← assertPositiveInteger stage.cutoverGraceMs "Inbox cutover grace"
  let expectedGraceMs ← cutoverGraceMsForPolicyVersion policyVersion
  reject (graceMs ≠ expectedGraceMs)
    (.error "Inbox cutover grace does not match its durable policy version")
  let cutoverRecoveries ← mergeCutoverRecoveries P none (some [{
    policyVersion := policyVersion
    replacementEventId := pending.signedEvent.id
    relayUrls := relayUrls
    replacementEventSig := some pending.signedEvent.sig
    confirmationAttempts := some [⟨confirmationRelayUrls, none, none, some pending.stagedAt⟩]
    confirmationRelayUrls := none
    completedRelayUrls := none
    observedRelayUrls := none
    policyBlockedRelayUrls := some (relayUrls.filter fun url => decide (url ∈ excluded))
    readbackObservedAt := none
    expiresAt := none }])
  return ({ pending with confirmationRelayUrls := some confirmationRelayUrls }, cutoverRecoveries)

def declarationState (event : SignedEvent) : InboxDeclarationEvidenceState × List Text :=
  let relayTags := event.tags.filter fun tag => decide (tag.head? = some "relay".toList)
  let secureRelayUrls := normalizeRetainedRelayUrls P (relayTags.map fun tag => tag.getD 1 [])
  if secureRelayUrls ≠ [] then (.declared, secureRelayUrls)
  else if relayTags = [] then (.signedEmpty, [])
  else (.malformed, [])

def createEventEvidence (now : Int) (pendingInput : Option StageInput) :
    Result InboxDeclarationEvidenceCandidate := do
  let pubkey := toLowerCase (trim input.pubkey)
  reject (¬ IsHex64 pubkey) (.error "Inbox declaration evidence requires a valid hex pubkey")
  assertValidDeclarationEvent P pubkey input.signedEvent
  let state := (declarationState P input.signedEvent).1
  let secureRelayUrls := (declarationState P input.signedEvent).2
  let observedAt ← assertLocalTimestamp (input.observedAt.getD now)
    "Inbox declaration observedAt"
  let completeObservedAt ← optionResult
    (assertLocalTimestamp · "Inbox declaration completeObservedAt") input.completeObservedAt
  reject (∃ complete ∈ completeObservedAt, observedAt < complete)
    (.error "Inbox declaration completeObservedAt cannot exceed observedAt")
  let cachedAt ← assertLocalTimestamp (input.cachedAt.getD observedAt)
    "Inbox declaration cachedAt"
  let sourceRelayUrls := normalizeRetainedRelayUrls P input.sourceRelayUrls
  let sharedSourceRelayUrls := normalizeSecureOrIsolatedE2eRelayUrls P input.sharedSourceRelayUrls
  reject (∃ url ∈ sharedSourceRelayUrls, url ∉ sourceRelayUrls)
    (.error "Inbox declaration shared sources must also be event source relays")
  let current : InboxDeclarationEventEvidence := ⟨state, input.signedEvent, secureRelayUrls,
    sourceRelayUrls, some sharedSourceRelayUrls, observedAt, completeObservedAt⟩
  let created ← optionResult (createPending P input state now)
    (requestedPending input pendingInput)
  match created, pendingInput with
  | some pending, some stage => do
    let cutover ← createCutover P stage secureRelayUrls pending
    return ⟨pubkey, current, some cutover.1, unlessEmpty cutover.2, cachedAt⟩
  | pending, _ => return ⟨pubkey, current, pending, none, cachedAt⟩

def readAttempt (blocked : List Text) (sources : List Text)
    (matchingPending : Option PendingInboxDeclarationDistribution)
    (attempt : InboxDeclarationCutoverConfirmationAttempt) :
    Result InboxDeclarationCutoverConfirmationAttempt := do
  let outcomes ← matchingOutcomes P attempt.relayUrls matchingPending
  let counted := fun url => decide (url ∉ blocked)
  let shared := sources.filter fun url => decide (url ∈ attempt.relayUrls ∧ url ∉ blocked)
  let completedRelayUrls := sharedUrls P (attempt.completedRelayUrls.getD [] ++
    (readbackRelayUrls [.observed, .absent] attempt.relayUrls outcomes).filter counted ++ shared)
  let observedRelayUrls := sharedUrls P (attempt.observedRelayUrls.getD [] ++
    (readbackRelayUrls [.observed] attempt.relayUrls outcomes).filter counted ++ shared)
  return { attempt with
    completedRelayUrls := unlessEmpty completedRelayUrls <|> attempt.completedRelayUrls
    observedRelayUrls := unlessEmpty observedRelayUrls <|> attempt.observedRelayUrls }

def IsComplete (blocked : List Text) (attempt : InboxDeclarationCutoverConfirmationAttempt) :
    Prop :=
  (∀ url ∈ attempt.relayUrls, url ∉ blocked ∧ url ∈ attempt.completedRelayUrls.getD []) ∧
    0 < (attempt.observedRelayUrls.getD []).length
  deriving Decidable

def startGrace (observedAt : Int) (attempts : List InboxDeclarationCutoverConfirmationAttempt)
    (recovery : InboxDeclarationCutoverRecovery) : Result InboxDeclarationCutoverRecovery :=
  let updated := { recovery with confirmationAttempts := some attempts }
  if ∃ attempt ∈ attempts, IsComplete (recovery.policyBlockedRelayUrls.getD []) attempt then do
    let graceMs ← cutoverGraceMsForPolicyVersion recovery.policyVersion
    return { updated with
      readbackObservedAt := some observedAt
      expiresAt := some (observedAt + graceMs) }
  else return updated

def readRecovery (candidate : InboxDeclarationEvidenceCandidate)
    (pendingDistribution : Option PendingInboxDeclarationDistribution)
    (recovery : InboxDeclarationCutoverRecovery) : Result InboxDeclarationCutoverRecovery :=
  if recovery.replacementEventId ≠ candidate.current.signedEvent.id ∨
      recovery.readbackObservedAt ≠ none ∨ recovery.confirmationAttempts.getD [] = [] then
    return recovery
  else do
    let matchingPending := pendingForCurrent pendingDistribution recovery.replacementEventId
    let sources := if recovery.replacementEventSig = none ∨
        recovery.replacementEventSig = some candidate.current.signedEvent.sig then
      candidate.current.sharedSourceRelayUrls.getD [] else []
    let attempts ← mapResult (readAttempt P (recovery.policyBlockedRelayUrls.getD []) sources
      matchingPending) (recovery.confirmationAttempts.getD [])
    startGrace candidate.current.observedAt attempts recovery

def completeCutoverRecoveryReadback (recoveries : List InboxDeclarationCutoverRecovery)
    (candidate : InboxDeclarationEvidenceCandidate)
    (pendingDistribution : Option PendingInboxDeclarationDistribution) :
    Result (List InboxDeclarationCutoverRecovery) := do
  let read ← mapResult (readRecovery P candidate pendingDistribution) recoveries
  normalizeCutoverRecoveries P read none

def completesExactPendingReadback (pending : Option PendingInboxDeclarationDistribution)
    (candidate : InboxDeclarationEvidenceCandidate) : Result Bool :=
  match pending with
  | none => return false
  | some pending => do
    let confirmationRelayUrls ← normalizedPendingConfirmationRelayUrls P pending
    match pending.relayOutcomes with
    | some relayOutcomes =>
      return hasCompletedExactNetworkPreferenceReadback relayOutcomes &&
        hasCompletedExactNetworkPreferenceReadback
          (relayOutcomes.filter fun o => decide (o.relayUrl ∈ confirmationRelayUrls))
    | none =>
      return decide (pending.signedEvent = candidate.current.signedEvent ∧
        candidate.current.completeObservedAt ≠ none ∧ ∀ url ∈ confirmationRelayUrls,
          url ∈ candidate.current.sharedSourceRelayUrls.getD [])

structure EventMerge where
  pubkey : Text
  current : InboxDeclarationEventEvidence
  lastUsable : Option InboxDeclarationEventEvidence
  pendingDistribution : Option PendingInboxDeclarationDistribution

def mergeObservations (existing candidate : InboxDeclarationEventEvidence) :
    InboxDeclarationEventEvidence :=
  { existing with
    sourceRelayUrls := mergeRetainedSourceRelayUrls P existing.sourceRelayUrls
      candidate.sourceRelayUrls
    sharedSourceRelayUrls := some (mergeSharedSourceRelayUrls P
      (existing.sharedSourceRelayUrls.getD []) (candidate.sharedSourceRelayUrls.getD []))
    observedAt := max existing.observedAt candidate.observedAt
    completeObservedAt :=
      maxOptionalTimestamp existing.completeObservedAt candidate.completeObservedAt }

variable (existing : InboxDeclarationEvidenceRecord)

def enrichSameEvent (candidate : InboxDeclarationEvidenceCandidate) : Result EventMerge := do
  let merged := mergeObservations P existing.current candidate.current
  let selectedPending := selectEarlierPendingDistribution P existing.pendingDistribution
    candidate.pendingDistribution merged.signedEvent.id
  let completed ← completesExactPendingReadback P selectedPending candidate
  let pendingDistribution := if completed then none else selectedPending
  -- the staged bytes own the representation until the plan is confirmed
  let current := match pendingDistribution with
    | some pending => { merged with signedEvent := pending.signedEvent }
    | none => merged
  let kept := existing.lastUsable.map fun lastUsable =>
    if lastUsable.signedEvent.id = existing.current.signedEvent.id then
      { lastUsable with
        sourceRelayUrls := merged.sourceRelayUrls
        sharedSourceRelayUrls := merged.sharedSourceRelayUrls
        observedAt := merged.observedAt
        completeObservedAt := merged.completeObservedAt }
    else lastUsable
  let lastUsable := if current.state = .declared ∧ hasSharedConfirmation current then some current
    else kept
  return ⟨existing.pubkey, current, lastUsable, pendingDistribution⟩

def mergeHistoricalUsableEvidence (candidate : InboxDeclarationEvidenceCandidate) : EventMerge :=
  let existingPending := pendingForCurrent existing.pendingDistribution
    existing.current.signedEvent.id
  if (existing.current.state = .declared ∧ existingPending = none) ∨
      candidate.current.state ≠ .declared ∨ candidate.pendingDistribution ≠ none then
    ⟨existing.pubkey, existing.current, existing.lastUsable, existing.pendingDistribution⟩
  else
    let lastUsable := match existing.lastUsable with
      | none => candidate.current
      | some prior =>
        let frontier := compareAccountNetworkRevisions candidate.current.signedEvent
          prior.signedEvent
        if frontier < 0 then prior
        else if frontier > 0 then candidate.current
        else mergeObservations P prior candidate.current
    ⟨existing.pubkey, existing.current, some lastUsable, existingPending⟩

variable (existing : Option InboxDeclarationEvidenceRecord)

def mergeNewerEvent (candidate : InboxDeclarationEvidenceCandidate) : Result EventMerge := do
  let selectedPending := pendingForCurrent candidate.pendingDistribution
    candidate.current.signedEvent.id
  let completed ← completesExactPendingReadback P selectedPending candidate
  let pendingDistribution := if completed then none else selectedPending
  let retained := existing.bind fun record => record.lastUsable <|>
    if record.current.state = .declared ∧
        pendingForCurrent record.pendingDistribution record.current.signedEvent.id = none then
      some record.current
    else none
  let lastUsable := if candidate.current.state = .declared ∧ pendingDistribution = none then
    some candidate.current else retained
  return ⟨candidate.pubkey, candidate.current, lastUsable, pendingDistribution⟩

def applyEventEvidenceMerge (candidate : InboxDeclarationEvidenceCandidate) : Result EventMerge :=
  match existing with
  | none => mergeNewerEvent P none candidate
  | some record =>
    let frontier := compareAccountNetworkRevisions candidate.current.signedEvent
      record.current.signedEvent
    if frontier < 0 then return mergeHistoricalUsableEvidence P record candidate
    else if frontier = 0 then enrichSameEvent P record candidate
    else mergeNewerEvent P (some record) candidate

def applyEvidenceMerge
    (candidate : InboxDeclarationEvidenceCandidate) : Result InboxDeclarationEvidenceRecord := do
  let canonicalExisting ← optionResult (cloneInboxDeclarationEvidenceRecord P) existing
  let merged ← applyEventEvidenceMerge P canonicalExisting candidate
  let readbackPending := selectEarlierPendingDistribution P
    (canonicalExisting.bind (·.pendingDistribution)) candidate.pendingDistribution
    candidate.current.signedEvent.id
  let recoveries ← mergeCutoverRecoveries P (canonicalExisting.bind (·.cutoverRecoveries))
    candidate.cutoverRecoveries
  let cutoverRecoveries ← completeCutoverRecoveryReadback P recoveries candidate readbackPending
  return {
    pubkey := merged.pubkey
    current := merged.current
    lastUsable := merged.lastUsable
    pendingDistribution := merged.pendingDistribution
    cutoverRecoveries := unlessEmpty cutoverRecoveries
    cutoverRecovery := none
    cachedAt := max ((canonicalExisting.map (·.cachedAt)).getD 0) candidate.cachedAt }

def applyInboxDeclarationEvidenceMerge
    (input : MergeInput) (now : Int) : Result InboxDeclarationEvidenceRecord := do
  let candidate ← createEventEvidence P input now none
  applyEvidenceMerge P existing candidate

end

end Conduit.Network
