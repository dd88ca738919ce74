import Conduit.Network.Relays

namespace Conduit.Network

open Js Stock Throwing CheckoutSpark

/-- `EVENT_KINDS.PRIVATE_MESSAGE_RELAYS`. -/
def privateMessageRelays : Int := 10050

def inboxDeclarationCutoverPolicyVersion : Int := 1

def inboxDeclarationCutoverGraceMs : Int := 604800000

inductive InboxDeclarationEvidenceState where
  | declared
  | signedEmpty
  | malformed
  deriving DecidableEq

structure InboxDeclarationEventEvidence where
  state : InboxDeclarationEvidenceState
  signedEvent : SignedEvent
  (secureRelayUrls sourceRelayUrls : List Text)
  sharedSourceRelayUrls : Option (List Text)
  observedAt : Int
  completeObservedAt : Option Int

inductive NetworkPreferencePublishStatus where
  | pending
  | acked
  | rejected
  | timedOut
  | authRequired
  | cancelled
  | policyBlocked
  | error
  deriving DecidableEq

inductive NetworkPreferenceReadbackStatus where
  | pending
  | observed
  | absent
  | timedOut
  | authRequired
  | verificationUnavailable
  | unavailable
  | policyBlocked
  | cancelled
  deriving DecidableEq

structure NetworkPreferenceRelayOutcome where
  relayUrl : Text
  publishStatus : NetworkPreferencePublishStatus
  publishAttemptCount : Int
  publishAttemptedAt : Option Int
  readbackStatus : NetworkPreferenceReadbackStatus
  readbackAttemptCount : Int
  (readbackAttemptedAt observedAt : Option Int)

structure PendingInboxDeclarationDistribution where
  signedEvent : SignedEvent
  publishRelayUrls : List Text
  confirmationRelayUrls : Option (List Text)
  relayOutcomes : Option (List NetworkPreferenceRelayOutcome)
  stagedAt : Int

structure InboxDeclarationCutoverConfirmationAttempt where
  relayUrls : List Text
  (completedRelayUrls observedRelayUrls : Option (List Text))
  stagedAt : Option Int

/-- The fields after `confirmationAttempts` up to `observedRelayUrls` are those of older rows. -/
structure InboxDeclarationCutoverRecovery where
  policyVersion : Int
  replacementEventId : Text
  relayUrls : List Text
  replacementEventSig : Option Text
  confirmationAttempts : Option (List InboxDeclarationCutoverConfirmationAttempt)
  (confirmationRelayUrls completedRelayUrls observedRelayUrls : Option (List Text))
  policyBlockedRelayUrls : Option (List Text)
  (readbackObservedAt expiresAt : Option Int)

structure InboxDeclarationEvidenceRecord where
  pubkey : Text
  current : InboxDeclarationEventEvidence
  lastUsable : Option InboxDeclarationEventEvidence
  pendingDistribution : Option PendingInboxDeclarationDistribution
  cutoverRecoveries : Option (List InboxDeclarationCutoverRecovery)
  cutoverRecovery : Option InboxDeclarationCutoverRecovery
  cachedAt : Int

/-- `createEventEvidence`'s result. -/
structure InboxDeclarationEvidenceCandidate where
  pubkey : Text
  current : InboxDeclarationEventEvidence
  pendingDistribution : Option PendingInboxDeclarationDistribution
  cutoverRecoveries : Option (List InboxDeclarationCutoverRecovery)
  cachedAt : Int

/-- `...(l.length > 0 ? { field: l } : {})`. -/
def unlessEmpty {α : Type} (l : List α) : Option (List α) :=
  if l.isEmpty then none else some l

@[simp] lemma unlessEmpty_getD {α : Type} (l : List α) : (unlessEmpty l).getD [] = l := by
  cases l <;> rfl

def assertLocalTimestamp (value : Int) (name : String) : Result Int := do
  reject (¬ IsSafeInteger value ∨ value < 0)
    (.error (name ++ " must be a non-negative integer timestamp"))
  return value

def assertPositiveInteger (value : Option Int) (label : String) : Result Int := do
  reject (¬ IsSafeInteger (value.getD 0) ∨ value.getD 0 ≤ 0)
    (.error (label ++ " must be a positive integer"))
  return value.getD 0

/-- Positive means candidate wins the NIP-01 replaceable frontier. -/
def compareAccountNetworkRevisions (candidate current : SignedEvent) : Int :=
  if candidate.createdAt ≠ current.createdAt then
    if candidate.createdAt > current.createdAt then 1 else -1
  else if candidate.id = current.id then 0
  else if TextLe candidate.id current.id then 1
  else -1

def cutoverGraceMsForPolicyVersion (policyVersion : Int) : Result Int := do
  reject (policyVersion ≠ inboxDeclarationCutoverPolicyVersion)
    (.error "Inbox cutover policy version is unsupported")
  return inboxDeclarationCutoverGraceMs

def hasCompletedExactNetworkPreferenceReadback
    (outcomes : List NetworkPreferenceRelayOutcome) : Bool :=
  let exactReadbackCount := outcomes.countP fun o => decide (o.readbackStatus = .observed)
  let absentCount := outcomes.countP fun o => decide (o.readbackStatus = .absent)
  decide (0 < outcomes.length ∧ 0 < exactReadbackCount ∧
    outcomes.length - exactReadbackCount - absentCount = 0)

section
variable (P : NetworkPlatform)

def assertValidDeclarationEvent (pubkey : Text) (event : SignedEvent) : Result Unit := do
  reject (P.isVerifiedNostrEvent event = false)
    (.error "Inbox declaration evidence requires an admitted signed event")
  reject (event.id ≠ toLowerCase event.id ∨ event.pubkey ≠ toLowerCase event.pubkey ∨
      event.sig ≠ toLowerCase event.sig)
    (.error "Inbox declaration evidence requires canonical lowercase hex")
  reject (event.kind ≠ privateMessageRelays)
    (.error "Inbox declaration evidence requires a kind-10050 event")
  reject (event.pubkey ≠ pubkey)
    (.error "Inbox declaration evidence author does not match the account")

/-- `areSameSignedInboxDeclarationEvent` compares every field of the event. -/
def normalizeConfirmationRelayUrls (publishRelayUrls confirmationRelayUrls : List Text) :
    Result (List Text) := do
  let normalized := sortUrls (normalizeSecureOrIsolatedE2eRelayUrls P confirmationRelayUrls)
  reject (normalized = [] ∨ ∃ url ∈ normalized, url ∉ publishRelayUrls) (.error
    "Inbox cutover confirmation relays must be a non-empty subset of its publish plan")
  return normalized

def validOutcome (outcome : NetworkPreferenceRelayOutcome) (url : Text) : Prop :=
  P.tryNormalizeRelayUrl outcome.relayUrl = some url ∧
    IsSafeInteger outcome.publishAttemptCount ∧ 0 ≤ outcome.publishAttemptCount ∧
    IsSafeInteger outcome.readbackAttemptCount ∧ 0 ≤ outcome.readbackAttemptCount
  deriving Decidable

def normalizeRelayOutcome (pair : NetworkPreferenceRelayOutcome × Text) :
    Result NetworkPreferenceRelayOutcome := do
  reject (¬ validOutcome P pair.1 pair.2) (.error "Inbox declaration outcomes are invalid")
  let _ ← optionResult (assertLocalTimestamp · "publishAttemptedAt") pair.1.publishAttemptedAt
  let _ ← optionResult (assertLocalTimestamp · "readbackAttemptedAt") pair.1.readbackAttemptedAt
  let _ ← optionResult (assertLocalTimestamp · "observedAt") pair.1.observedAt
  return { pair.1 with relayUrl := pair.2 }

def normalizeRelayOutcomes (publishRelayUrls : List Text)
    (outcomes : List NetworkPreferenceRelayOutcome) :
    Result (List NetworkPreferenceRelayOutcome) := do
  reject (outcomes.length ≠ publishRelayUrls.length)
    (.error "Inbox declaration outcomes must match the immutable publish plan")
  mapResult (normalizeRelayOutcome P) (outcomes.zip publishRelayUrls)

def mergeRetainedSourceRelayUrls (current candidate : List Text) : List Text :=
  sortUrls (normalizeRetainedRelayUrls P (current ++ candidate))

def mergeSharedSourceRelayUrls (current candidate : List Text) : List Text :=
  sortUrls (normalizeSecureOrIsolatedE2eRelayUrls P (current ++ candidate))

end

def maxOptionalTimestamp (current candidate : Option Int) : Option Int :=
  if current = none ∧ candidate = none then none
  else some (max (current.getD 0) (candidate.getD 0))

def hasSharedConfirmation (evidence : InboxDeclarationEventEvidence) : Bool :=
  decide (0 < (evidence.sharedSourceRelayUrls.getD []).length)

def pendingForCurrent (pending : Option PendingInboxDeclarationDistribution)
    (currentEventId : Text) : Option PendingInboxDeclarationDistribution :=
  pending.filter fun p => decide (p.signedEvent.id = currentEventId)

/-- Texts are compared with `<=`. -/
def selectEarlierPendingDistribution (P : NetworkPlatform)
    (existing candidate : Option PendingInboxDeclarationDistribution) (currentEventId : Text) :
    Option PendingInboxDeclarationDistribution :=
  match pendingForCurrent existing currentEventId, pendingForCurrent candidate currentEventId with
  | none, right => right
  | some left, none => some left
  | some left, some right =>
    if left.stagedAt ≠ right.stagedAt then
      if left.stagedAt < right.stagedAt then some left else some right
    else if TextLe (P.confirmationAttemptKey left.publishRelayUrls)
        (P.confirmationAttemptKey right.publishRelayUrls) then some left
    else some right

def normalizedPendingConfirmationRelayUrls (P : NetworkPlatform)
    (pending : PendingInboxDeclarationDistribution) : Result (List Text) :=
  normalizeConfirmationRelayUrls P pending.publishRelayUrls
    (pending.confirmationRelayUrls.getD pending.publishRelayUrls)

end Conduit.Network
