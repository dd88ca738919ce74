import Conduit.Network.InboxEvidence
import Conduit.Joined

namespace Conduit.Network

open Js Stock Throwing CheckoutSpark

section
variable (P : NetworkPlatform)

/-- The relays of a plan on which an outcome is `observed`, or also `absent`. -/
def readbackRelayUrls (statuses : List NetworkPreferenceReadbackStatus) (relayUrls : List Text)
    (outcomes : List NetworkPreferenceRelayOutcome) : List Text :=
  (outcomes.filter fun o => decide (o.relayUrl ∈ relayUrls ∧ o.readbackStatus ∈ statuses)).map
    (·.relayUrl)

/-- `normalizeSecureOrIsolatedE2eRelayUrls(urls).sort()`. -/
def sharedUrls (urls : List Text) : List Text :=
  sortUrls (normalizeSecureOrIsolatedE2eRelayUrls P urls)

def matchingOutcomes (relayUrls : List Text)
    (matchingPending : Option PendingInboxDeclarationDistribution) :
    Result (List NetworkPreferenceRelayOutcome) :=
  match matchingPending with
  | none => return []
  | some pending => do
    let confirmation ← normalizedPendingConfirmationRelayUrls P pending
    return if relayUrls = confirmation then pending.relayOutcomes.getD [] else []

variable (attempt : InboxDeclarationCutoverConfirmationAttempt)

def normalizeConfirmationAttempt (matchingPending : Option PendingInboxDeclarationDistribution) :
    Result (Option InboxDeclarationCutoverConfirmationAttempt) := do
  let relayUrls := sharedUrls P attempt.relayUrls
  if relayUrls = [] then return none
  let outcomes ← matchingOutcomes P relayUrls matchingPending
  let completedRelayUrls := sharedUrls P (attempt.completedRelayUrls.getD [] ++
    readbackRelayUrls [.observed, .absent] relayUrls outcomes)
  let observedRelayUrls := sharedUrls P (attempt.observedRelayUrls.getD [] ++
    readbackRelayUrls [.observed] relayUrls outcomes)
  reject ((∃ url ∈ completedRelayUrls ++ observedRelayUrls, url ∉ relayUrls) ∨
      ∃ url ∈ observedRelayUrls, url ∉ completedRelayUrls)
    (.error "Inbox cutover confirmation must stay within its immutable relay set")
  let stagedAt ← optionResult (assertLocalTimestamp · "Inbox cutover confirmation stagedAt")
    attempt.stagedAt
  return some ⟨relayUrls, unlessEmpty completedRelayUrls, unlessEmpty observedRelayUrls, stagedAt⟩

/-- The earlier of two times, where there are two. -/
def earlierStagedAt : Option Int → Option Int → Option Int
  | none, right => right
  | some left, none => some left
  | some left, some right => some (min left right)

def joinAttempts (retained attempt : InboxDeclarationCutoverConfirmationAttempt) :
    InboxDeclarationCutoverConfirmationAttempt where
  relayUrls := retained.relayUrls
  completedRelayUrls := unlessEmpty (sharedUrls P
    (retained.completedRelayUrls.getD [] ++ attempt.completedRelayUrls.getD []))
  observedRelayUrls := unlessEmpty (sharedUrls P
    (retained.observedRelayUrls.getD [] ++ attempt.observedRelayUrls.getD []))
  stagedAt := earlierStagedAt retained.stagedAt attempt.stagedAt

def attemptLe (left right : InboxDeclarationCutoverConfirmationAttempt) : Bool :=
  let staged := left.stagedAt.getD 0 - right.stagedAt.getD 0
  if staged ≠ 0 then decide (staged ≤ 0)
  else P.localeLe (P.confirmationAttemptKey left.relayUrls)
    (P.confirmationAttemptKey right.relayUrls)

def attemptKey : Text :=
  P.confirmationAttemptKey attempt.relayUrls

def mergeConfirmationAttempts (attempts : List InboxDeclarationCutoverConfirmationAttempt) :
    List InboxDeclarationCutoverConfirmationAttempt :=
  sortBy (attemptLe P) (joinAll (attemptKey P) (joinAttempts P) attempts)

/-- `flatMap` of the attempts that are normalised. -/
def normalizeConfirmationAttempts (attempts : List InboxDeclarationCutoverConfirmationAttempt)
    (matchingPending : Option PendingInboxDeclarationDistribution) :
    Result (List InboxDeclarationCutoverConfirmationAttempt) := do
  let normalized ← mapResult (normalizeConfirmationAttempt P · matchingPending) attempts
  return mergeConfirmationAttempts P (normalized.filterMap id)

variable (recovery : InboxDeclarationCutoverRecovery)

/-- The attempts of a row, which an older row has only one of. -/
def rawAttempts (matchingPending : Option PendingInboxDeclarationDistribution) :
    Result (List InboxDeclarationCutoverConfirmationAttempt) :=
  match recovery.confirmationAttempts, recovery.confirmationRelayUrls, matchingPending with
  | some attempts, _, _ => return attempts
  | none, some relayUrls, pending => return [⟨relayUrls, recovery.completedRelayUrls,
      recovery.observedRelayUrls, pending.map (·.stagedAt)⟩]
  | none, none, some pending => do
    let relayUrls ← normalizedPendingConfirmationRelayUrls P pending
    return [⟨relayUrls, recovery.completedRelayUrls, recovery.observedRelayUrls,
      some pending.stagedAt⟩]
  | none, none, none => return []

def IsHex128 (s : Text) : Prop := s.length = 128 ∧ s.all isHexChar = true
  deriving Decidable

def normalizeCutoverRecovery (pendingDistribution : Option PendingInboxDeclarationDistribution) :
    Result (Option InboxDeclarationCutoverRecovery) := do
  if ¬ IsHex64 recovery.replacementEventId then return none
  let relayUrls := sortUrls (normalizeRetainedRelayUrls P recovery.relayUrls)
  if relayUrls = [] then return none
  let matchingPending := pendingForCurrent pendingDistribution recovery.replacementEventId
  let replacementEventSig :=
    recovery.replacementEventSig <|> matchingPending.map (·.signedEvent.sig)
  reject (∃ sig ∈ replacementEventSig, ¬ IsHex128 sig)
    (.error "Inbox cutover replacement signature is invalid")
  let raw ← rawAttempts P recovery matchingPending
  let confirmationAttempts ← normalizeConfirmationAttempts P raw matchingPending
  let policyBlockedRelayUrls :=
    sortUrls (normalizeRetainedRelayUrls P (recovery.policyBlockedRelayUrls.getD []))
  reject (∃ url ∈ policyBlockedRelayUrls,
      url ∉ relayUrls ++ confirmationAttempts.flatMap (·.relayUrls))
    (.error "Inbox cutover policy blocks must stay within immutable recovery evidence")
  let policyVersion ← assertPositiveInteger (some recovery.policyVersion)
    "Inbox cutover policy version"
  let graceMs ← cutoverGraceMsForPolicyVersion policyVersion
  let readbackObservedAt ← optionResult
    (assertLocalTimestamp · "Inbox cutover readbackObservedAt") recovery.readbackObservedAt
  let expiresAt ← optionResult (assertLocalTimestamp · "Inbox cutover expiresAt")
    recovery.expiresAt
  reject (expiresAt ≠ readbackObservedAt.map (· + graceMs))
    (.error "Inbox cutover expiry must follow exact shared readback")
  return some {
    policyVersion := policyVersion
    replacementEventId := recovery.replacementEventId
    relayUrls := relayUrls
    replacementEventSig := replacementEventSig
    confirmationAttempts := unlessEmpty confirmationAttempts
    confirmationRelayUrls := none
    completedRelayUrls := none
    observedRelayUrls := none
    policyBlockedRelayUrls := unlessEmpty policyBlockedRelayUrls
    readbackObservedAt := readbackObservedAt
    expiresAt := expiresAt }

/-- The earlier of the two readbacks, the first where they are at the same time. -/
def activeReadback (retained recovery : InboxDeclarationCutoverRecovery) :
    Option Int × Option Int :=
  match retained.readbackObservedAt, recovery.readbackObservedAt with
  | none, none => (none, none)
  | some _, none => (retained.readbackObservedAt, retained.expiresAt)
  | none, some _ => (recovery.readbackObservedAt, recovery.expiresAt)
  | some left, some right =>
    if left ≤ right then (retained.readbackObservedAt, retained.expiresAt)
    else (recovery.readbackObservedAt, recovery.expiresAt)

def joinRecoveries (retained recovery : InboxDeclarationCutoverRecovery) :
    InboxDeclarationCutoverRecovery where
  policyVersion := retained.policyVersion
  replacementEventId := retained.replacementEventId
  relayUrls := retained.relayUrls
  replacementEventSig := retained.replacementEventSig <|> recovery.replacementEventSig
  confirmationAttempts := unlessEmpty (mergeConfirmationAttempts P
    (retained.confirmationAttempts.getD [] ++ recovery.confirmationAttempts.getD []))
  confirmationRelayUrls := none
  completedRelayUrls := none
  observedRelayUrls := none
  policyBlockedRelayUrls := unlessEmpty (sortUrls (normalizeRetainedRelayUrls P
    (retained.policyBlockedRelayUrls.getD [] ++ recovery.policyBlockedRelayUrls.getD [])))
  readbackObservedAt := (activeReadback retained recovery).1
  expiresAt := (activeReadback retained recovery).2

def mergeRetainedRecovery (retained recovery : InboxDeclarationCutoverRecovery) :
    Result InboxDeclarationCutoverRecovery := do
  reject (retained.relayUrls ≠ recovery.relayUrls)
    (.error "Inbox cutover recovery relay set changed for one replacement")
  reject (∃ left ∈ retained.replacementEventSig, ∃ right ∈ recovery.replacementEventSig,
      left ≠ right)
    (.error "Inbox cutover replacement signature changed for one replacement")
  return joinRecoveries P retained recovery

def storeRecovery (byReplacement : List InboxDeclarationCutoverRecovery)
    (entry : Option InboxDeclarationCutoverRecovery) :
    Result (List InboxDeclarationCutoverRecovery) :=
  match entry with
  | none => return byReplacement
  | some recovery =>
    match lookup (·.replacementEventId) recovery.replacementEventId byReplacement with
    | none => return mapSet (·.replacementEventId) byReplacement recovery
    | some retained => do
      let joined ← mergeRetainedRecovery P retained recovery
      return mapSet (·.replacementEventId) byReplacement joined

def recoveryLe (left right : InboxDeclarationCutoverRecovery) : Bool :=
  P.localeLe left.replacementEventId right.replacementEventId

def normalizeCutoverRecoveries (source : List InboxDeclarationCutoverRecovery)
    (pendingDistribution : Option PendingInboxDeclarationDistribution) :
    Result (List InboxDeclarationCutoverRecovery) := do
  let byReplacement ← foldResult (fun byReplacement entry => do
    let recovery ← normalizeCutoverRecovery P entry pendingDistribution
    storeRecovery P byReplacement recovery) [] source
  return sortBy (recoveryLe P) byReplacement

/-- The recoveries of a row, which an older row has only one of. -/
def recoveriesOf (record : InboxDeclarationEvidenceRecord) : List InboxDeclarationCutoverRecovery :=
  match record.cutoverRecoveries, record.cutoverRecovery with
  | some recoveries, _ => recoveries
  | none, some recovery => [recovery]
  | none, none => []

def mergeCutoverRecoveries (existing candidate : Option (List InboxDeclarationCutoverRecovery)) :
    Result (List InboxDeclarationCutoverRecovery) :=
  normalizeCutoverRecoveries P (existing.getD [] ++ candidate.getD []) none

end

end Conduit.Network
