import Conduit.Router.Plan

namespace Conduit.Router

open Js Throwing CheckoutSpark

inductive FundingState where
  | unreconciled
  | pending
  | fundedPendingClaim
  | spendable
  | unresolvedFailure
  | lookupUnavailable
  | conflictingEvidence
  deriving DecidableEq

inductive ObligationState where
  | unreconciled
  | notFound
  | pending
  | ambiguous
  | lookupUnavailable
  | conflictingEvidence
  | paid
  | terminalFailure
  deriving DecidableEq

structure FundingProgress where
  state : FundingState
  observedAt : Option Int
  deriving DecidableEq

structure ObligationProgress where
  obligationId : Text
  state : ObligationState
  observedAt : Option Int
  deriving DecidableEq

structure Reconciliation where
  schemaVersion : Nat
  plan : Plan
  funding : FundingProgress
  obligations : List ObligationProgress
  updatedAt : Int
  deriving DecidableEq

structure FundingEvidence where
  (requestId paymentRequest paymentHash walletId : Text)
  network : Network
  (requiredNetSats grossFundingSats : Int)
  state : FundingState
  observedAt : Int

structure ObligationEvidence where
  (obligationId outgoingId paymentRequest : Text)
  (amountSats maxFeeSats : Int)
  state : ObligationState
  observedAt : Int

inductive Evidence where
  | funding (evidence : FundingEvidence)
  | obligation (evidence : ObligationEvidence)

def Evidence.observedAt : Evidence → Int
  | .funding evidence => evidence.observedAt
  | .obligation evidence => evidence.observedAt

inductive Actor where
  | shopper
  | merchant
  deriving DecidableEq

inductive WaitReason where
  | fundingNotSpendable
  | obligationPending
  | obligationAmbiguous
  | evidenceUnavailable
  | evidenceConflicting
  | obligationFailed
  | executionAuthorityTransferred
  | executionAuthorityNotStarted
  deriving DecidableEq

inductive NextAction where
  | reconcileFunding
  | reconcileObligation (obligationId : Text)
  | sendObligation (obligation : ObligationPlan)
  | wait (reason : WaitReason)
  | readyToRetire
  deriving DecidableEq

variable (state : Reconciliation)

def Reconciliation.latestObservation : Int :=
  (state.obligations.map fun o => o.observedAt.getD state.plan.createdAt).foldl max
    (max state.plan.createdAt (state.funding.observedAt.getD state.plan.createdAt))

def ObservedSince (createdAt : Int) (observedAt : Option Int) : Prop :=
  ∀ at_ ∈ observedAt, IsSafeInteger at_ ∧ createdAt ≤ at_
  deriving Decidable

variable (P : Platform)

def assertReconciliationIntegrity (state : Reconciliation) : Result Unit := do
  reject (state.schemaVersion ≠ 1) (.error "Checkout Spark reconciliation version is invalid.")
  assertPlanIntegrity P state.plan
  reject (¬ IsSafeInteger state.updatedAt ∨ state.updatedAt < state.plan.createdAt ∨
      state.obligations.length ≠ state.plan.obligations.length ∨
      ¬ (state.funding.state = .unreconciled ↔ state.funding.observedAt = none))
    (.error "Checkout Spark reconciliation state is invalid.")
  reject (∃ pair ∈ state.obligations.zip state.plan.obligations,
      pair.1.obligationId ≠ pair.2.obligationId ∨
      ¬ (pair.1.state = .unreconciled ↔ pair.1.observedAt = none) ∨
      ¬ ObservedSince state.plan.createdAt pair.1.observedAt)
    (.error "Checkout Spark obligation progress is invalid.")
  reject (¬ ObservedSince state.plan.createdAt state.funding.observedAt)
    (.error "Checkout Spark funding progress is invalid.")
  reject (state.updatedAt < state.latestObservation)
    (.error "Checkout Spark reconciliation timestamp is stale.")

/-- Create the serializable actor-neutral state consumed by either app. -/
def createReconciliation (plan : Plan) (tombstones : List RetirementTombstone) :
    Result Reconciliation := do
  let canonicalPlan ← canonicalizePlan P plan
  assertPlanNotRetired canonicalPlan tombstones
  return {
    schemaVersion := 1
    plan := canonicalPlan
    funding := { state := .unreconciled, observedAt := none }
    obligations := canonicalPlan.obligations.map fun o => {
      obligationId := o.obligationId
      state := .unreconciled
      observedAt := none }
    updatedAt := canonicalPlan.createdAt }

section
variable {τ : Type} [DecidableEq τ]

/-- `next` is older than what is recorded. -/
def IsStale (currentObservedAt : Option Int) (nextObservedAt : Int) : Prop :=
  ∃ at_ ∈ currentObservedAt, nextObservedAt < at_
  deriving Decidable

def mergeObservedState (currentState : τ) (currentObservedAt : Option Int) (nextState : τ)
    (nextObservedAt : Int) (terminalStates dominantStates : List τ) (conflictState : τ) :
    τ × Option Int :=
  let latest := some (max (currentObservedAt.getD 0) nextObservedAt)
  if IsStale currentObservedAt nextObservedAt then (currentState, currentObservedAt)
  else if currentState ∈ dominantStates ∨ nextState ∈ dominantStates then
    (if currentState ∈ dominantStates then currentState else nextState, latest)
  else if currentState ∈ terminalStates ∧ nextState ∉ terminalStates then (currentState, latest)
  else if currentObservedAt = some nextObservedAt ∧ currentState ≠ nextState then
    (conflictState, some nextObservedAt)
  else (nextState, some nextObservedAt)

end

def mergeFunding (current : FundingProgress) (next : FundingState) (observedAt : Int) :
    FundingProgress :=
  let merged := mergeObservedState current.state current.observedAt next observedAt [] []
    .conflictingEvidence
  { state := merged.1, observedAt := merged.2 }

def mergeObligation (current : ObligationProgress) (next : ObligationState) (observedAt : Int) :
    ObligationProgress :=
  let merged := mergeObservedState current.state current.observedAt next observedAt
    [.paid, .terminalFailure] [.paid] .conflictingEvidence
  { current with state := merged.1, observedAt := merged.2 }

def applyFundingEvidence (evidence : FundingEvidence) : Result Reconciliation := do
  reject (evidence.state = .unreconciled)
    (.error "Checkout Spark funding evidence state is invalid.")
  reject (evidence.requestId ≠ state.plan.funding.requestId ∨
      evidence.paymentRequest ≠ state.plan.funding.paymentRequest)
    (.error "Checkout Spark funding evidence is out of scope.")
  let paymentHash ← normalizeHex64 evidence.paymentHash "Funding payment hash"
  reject (paymentHash ≠ state.plan.funding.paymentHash ∨
      evidence.walletId ≠ state.plan.walletId ∨ evidence.network ≠ state.plan.network ∨
      evidence.requiredNetSats ≠ state.plan.funding.requiredNetSats ∨
      evidence.grossFundingSats ≠ state.plan.funding.grossFundingSats)
    (.error "Checkout Spark funding evidence is out of scope.")
  return { state with
    funding := mergeFunding state.funding evidence.state evidence.observedAt
    updatedAt := max state.updatedAt evidence.observedAt }

def Plan.obligation (plan : Plan) (obligationId : Text) : Option ObligationPlan :=
  plan.obligations.find? fun o => o.obligationId = obligationId

def Plan.obligationIndex (plan : Plan) (obligationId : Text) : Nat :=
  plan.obligations.findIdx fun o => o.obligationId = obligationId

def outOfScope : Failure := .error "Checkout Spark obligation evidence is out of scope."

def applyObligationEvidence (evidence : ObligationEvidence) : Result Reconciliation := do
  reject (evidence.state = .unreconciled)
    (.error "Checkout Spark obligation evidence state is invalid.")
  match state.plan.obligation evidence.obligationId with
  | none => .error outOfScope
  | some obligation =>
    reject (evidence.outgoingId ≠ obligation.outgoingId ∨
        evidence.paymentRequest ≠ obligation.paymentRequest ∨
        evidence.amountSats ≠ obligation.amountSats ∨
        evidence.maxFeeSats ≠ obligation.maxFeeSats)
      outOfScope
    return { state with
      obligations := state.obligations.modify
        (state.plan.obligationIndex evidence.obligationId)
        fun progress => mergeObligation progress evidence.state evidence.observedAt
      updatedAt := max state.updatedAt evidence.observedAt }

/-- Merge one exact provider observation. -/
def applyEvidence (state : Reconciliation) (evidence : Evidence) : Result Reconciliation := do
  assertReconciliationIntegrity P state
  let observedAt ← normalizeTimestamp evidence.observedAt "Checkout Spark observation time"
  reject (observedAt < state.plan.createdAt)
    (.error "Checkout Spark evidence predates its plan.")
  match evidence with
  | .funding evidence => applyFundingEvidence state evidence
  | .obligation evidence => applyObligationEvidence state evidence

def waitReasonForFunding : FundingState → WaitReason
  | .lookupUnavailable => .evidenceUnavailable
  | .conflictingEvidence => .evidenceConflicting
  | _ => .fundingNotSpendable

def waitReasonForObligation : ObligationState → WaitReason
  | .lookupUnavailable => .evidenceUnavailable
  | .conflictingEvidence => .evidenceConflicting
  | .ambiguous => .obligationAmbiguous
  | .terminalFailure => .obligationFailed
  | _ => .obligationPending

def nextObligationAction (actor : Actor) (now takeoverAt : Int) :
    List (ObligationProgress × ObligationPlan) → NextAction
  | [] => .readyToRetire
  | (progress, obligation) :: rest =>
    if progress.state = .paid then nextObligationAction actor now takeoverAt rest
    else if progress.state = .unreconciled then .reconcileObligation obligation.obligationId
    else if progress.state = .notFound then
      if actor = .shopper ∧ now ≥ takeoverAt then .wait .executionAuthorityTransferred
      else if actor = .merchant ∧ now < takeoverAt then .wait .executionAuthorityNotStarted
      else .sendObligation obligation
    else .wait (waitReasonForObligation progress.state)

/-- Derive the one safe next action without performing provider I/O. -/
def getNextAction (state : Reconciliation) (actor : Actor) (now : Int) : Result NextAction := do
  assertReconciliationIntegrity P state
  let now ← normalizeTimestamp now "Checkout Spark action time"
  if state.funding.state = .unreconciled then return .reconcileFunding
  else if state.funding.state ≠ .spendable then
    return .wait (waitReasonForFunding state.funding.state)
  else
    return nextObligationAction actor now state.plan.takeoverAt
      (state.obligations.zip state.plan.obligations)

end Conduit.Router
