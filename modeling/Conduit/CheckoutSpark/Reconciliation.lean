import Conduit.CheckoutSpark.Treasury

namespace Conduit.CheckoutSpark

open Js Throwing

variable (plan : SettledPlan)

def freshLeg (legId : Text) (allocationSats : Option Int) : LegProgress where
  legId := legId
  allocationSats := allocationSats
  intent := none
  status := .unprepared
  observedAt := none
  finalFeeSats := none
  finalDebitSats := none
  generation := if plan.IsNativeTreasuryPlan then some 0 else none
  closedGenerations := if plan.IsNativeTreasuryPlan then some [] else none

def SettledPlan.market : Option EventMarketBinding :=
  if plan.schemaVersion = 5 then plan.eventMarket else none

def SettledPlan.otherShare (weights : AllocationWeights)
    (divided : SettledAllocation) (r : SettledRecipient) : Option (Text × Int) :=
  if r.kind = .merchant ∨ r.kind = .conduit ∨ (plan.market ≠ none ∧ r.kind = .organizer) then none
  else some (r.legId,
    divided.commerceAllocationSats * r.weightSats / weights.commerceWeightSats)

def SettledPlan.recipientAllocation (divided : SettledAllocation)
    (shares : List (Text × Int)) (r : SettledRecipient) : Result Int :=
  match r.kind with
  | .conduit => .ok divided.conduitAllocationSats
  | .merchant => .ok (divided.commerceAllocationSats - (shares.map Prod.snd).sum)
  | kind =>
    match plan.market, kind with
    | some market, .organizer => .ok market.organizerFeeSats
    | _, _ => do
      let share ← requireSome (shares.reverse.find? fun s => s.1 = r.legId)
      return share.2

def divideCredit (creditedSats : Int) (weights : AllocationWeights) : Result SettledAllocation :=
  match plan.market with
  | some _ =>
    allocateEventSettledSats creditedSats plan.funding.grossFundingSats weights
      plan.conduitFeePolicy
  | none =>
    allocateSettledSats creditedSats plan.funding.grossFundingSats weights plan.conduitFeePolicy

def allocatedLegs (creditedSats : Int) : Result (List LegProgress) := do
  let weights ← planWeights plan.commerceQuote plan.market plan.conduitFeePolicy
  let divided ← divideCredit plan creditedSats weights
  let shares := plan.recipients.filterMap (plan.otherShare weights divided)
  mapResult (fun r => do
    let allocationSats ← plan.recipientAllocation divided shares r
    return freshLeg plan r.legId (some allocationSats)) plan.recipients

variable (P : Platform)

def createSettledReconciliation (plan : SettledPlan) : Result SettledReconciliation := do
  let canonical ← restoreSettledPlan P plan
  return {
    schemaVersion := if canonical.schemaVersion = 5 then 6
      else if canonical.schemaVersion = 4 then 5 else 3
    plan := canonical
    credit := none
    legs := canonical.recipients.map fun r => freshLeg canonical r.legId none
    treasuryFinalization := if canonical.IsNativeTreasuryPlan then
      some createNativeTreasuryFinalization else none
    updatedAt := canonical.createdAt }

def baselineLegs (plan : SettledPlan) (credit : Option CreditEvidence) :
    Result (List LegProgress) := do
  let created ← createSettledReconciliation P plan
  match credit with
  | some evidence => allocatedLegs plan evidence.creditedSats
  | none => .ok created.legs

def normalizeCredit (evidence : CreditEvidence) : Result CreditEvidence := do
  let requestId ← text evidence.requestId "Funding request id" 512
  let paymentHash ← hex evidence.paymentHash "Funding payment hash"
  let transferId ← text evidence.transferId "Funding transfer id" 512
  let receiver ← compressedPublicKey evidence.receiverIdentityPublicKey "Funding receiver identity"
  reject (requestId ≠ plan.funding.requestId ∨ paymentHash ≠ plan.funding.paymentHash ∨
      evidence.grossSats ≠ plan.funding.grossFundingSats ∨
      receiver ≠ plan.funding.receiverIdentityPublicKey)
    (.error "Checkout Spark settled credit is out of scope.")
  let creditedSats ← sats evidence.creditedSats "Settled credit" false
  reject (creditedSats > plan.funding.grossFundingSats)
    (.error "Checkout Spark settled credit exceeds invoice.")
  let observedAt ← time evidence.observedAt "Funding credit time"
  reject (observedAt < plan.createdAt) (.error "Checkout Spark settled credit predates plan.")
  return {
    requestId := requestId
    paymentHash := paymentHash
    transferId := transferId
    receiverIdentityPublicKey := evidence.receiverIdentityPublicKey
    grossSats := plan.funding.grossFundingSats
    creditedSats := creditedSats
    observedAt := observedAt }

def assertReceiverBinding (recipient : SettledRecipient)
    (publicZap : Option PublicZapContext) (binding : ReceiverBinding) : Result ReceiverBinding := do
  let receiverBinding ← freezeReceiverBinding P binding
  reject (some receiverBinding.lud16 ≠ normalizeReceiverAddress recipient.destination ∨
      receiverBinding.mode ≠ if publicZap ≠ none then ReceiverMode.isPublic else .isPrivate)
    (.error "Checkout Spark receiver binding is out of scope.")
  return receiverBinding

def restoreIntentZap (plan : SettledPlan) (recipient : SettledRecipient)
    (invoiceAmountSats preparedAt : Int) (paymentRequest : Text) (zap : PublicZapContext) :
    Result PublicZapContext :=
  match plan.merchantPublicZapPolicy with
  | none => .error (.error "Checkout Spark public zap is outside the approved Merchant leg.")
  | some policy => do
    reject (recipient.kind ≠ .merchant)
      (.error "Checkout Spark public zap is outside the approved Merchant leg.")
    restorePublicZapContext P zap {
      policy := policy
      recipientPubkey := plan.merchantPubkey
      lud16 := recipient.destination
      amountSats := invoiceAmountSats
      paymentRequest := paymentRequest
      preparedAt := preparedAt
      planCreatedAt := plan.createdAt }

def normalizeIntent (plan : SettledPlan) (legId : Text)
    (allocationSats : Option Int) (input : LegIntent) (generation : Nat) : Result LegIntent := do
  reject (input.legId ≠ legId) (.error "Checkout Spark settled intent is out of scope.")
  let transferId ← settledTransferId P plan legId generation
  reject (input.transferId ≠ transferId) (.error "Checkout Spark settled intent is out of scope.")
  match allocationSats with
  | none => .error (.error "Checkout Spark settled intent is out of scope.")
  | some allocation => do
    let invoiceAmountSats ← sats input.invoiceAmountSats "Outgoing invoice" false
    let maxFeeSats ← sats input.maxFeeSats "Outgoing fee cap" true
    let preparedAt ← time input.preparedAt "Outgoing preparation time"
    reject (preparedAt < plan.createdAt ∨ invoiceAmountSats ≥ allocation ∨
        maxFeeSats ≠ allocation - invoiceAmountSats)
      (.error "Checkout Spark outgoing invoice exceeds allocation.")
    let invoice ← normalizeInvoice P input.paymentRequest input.paymentHash invoiceAmountSats
      plan.network preparedAt
    let recipient ← requireSome (plan.recipient legId)
    let publicZap ← optionResult (restoreIntentZap P plan recipient invoiceAmountSats preparedAt
      invoice.paymentRequest) input.publicZap
    let receiverBinding ← optionResult (assertReceiverBinding P recipient publicZap)
      input.receiverBinding
    return {
      legId := legId
      transferId := input.transferId
      paymentRequest := invoice.paymentRequest
      paymentHash := invoice.paymentHash
      invoiceAmountSats := invoiceAmountSats
      maxFeeSats := maxFeeSats
      preparedAt := preparedAt
      publicZap := publicZap
      receiverBinding := receiverBinding }

def restoreClosedGeneration (plan : SettledPlan) (baseline : LegProgress)
    (intent : LegIntent) (entry : ClosedGeneration) : Result ClosedGeneration := do
  reject (entry.status = .unprepared ∨ entry.status = .paid)
    (.error "Checkout Spark closed generation is invalid.")
  let oldIntent ← normalizeIntent P plan baseline.legId baseline.allocationSats entry.intent 0
  let closure ← restoreSettledReturnClosure P entry.closure plan oldIntent
  reject (¬ IsSafeInteger entry.observedAt ∨ entry.observedAt < oldIntent.preparedAt ∨
      closure.observedAt < entry.observedAt ∨ closure.observedAt > intent.preparedAt ∨
      intent.preparedAt < plan.takeoverAt ∨ intent.paymentHash = oldIntent.paymentHash ∨
      intent.paymentRequest = oldIntent.paymentRequest ∨
      SendWindowOpenAt P oldIntent.paymentRequest intent.preparedAt)
    (.error "Checkout Spark renewal progression is invalid.")
  return { entry with intent := oldIntent, closure }

def restoreClosedGenerations (plan : SettledPlan) (baseline leg : LegProgress)
    (intent : LegIntent) : Result (List ClosedGeneration) :=
  if leg.generationNumber = 1 then
    mapResult (restoreClosedGeneration P plan baseline intent) leg.closed
  else .ok []

variable (leg : LegProgress)

def LegProgress.ReceiptValid (intent : LegIntent) (allocation : Int) : Prop :=
  if leg.status = .paid then
    ∃ fee ∈ leg.finalFeeSats, ∃ debit ∈ leg.finalDebitSats, NonnegativeSafe fee ∧
      PositiveSats debit ∧ debit = intent.invoiceAmountSats + fee ∧ debit ≤ allocation
  else leg.finalFeeSats = none ∧ leg.finalDebitSats = none
  deriving Decidable

variable (schemaVersion : Nat)

def LegProgress.GenerationValid : Prop :=
  if schemaVersion = 3 then leg.generation = none ∧ leg.closedGenerations = none
  else ∃ generation ∈ leg.generation, ∃ closed ∈ leg.closedGenerations,
    (generation = 0 ∨ generation = 1) ∧ closed.length = generation
  deriving Decidable

def restorePreparedLeg (plan : SettledPlan) (credited : Bool)
    (baseline leg : LegProgress) (legIntent : LegIntent) : Result LegProgress :=
  match baseline.allocationSats with
  | none => .error (.error "Checkout Spark settled leg lacks exact credit.")
  | some allocation => do
    reject (credited = false) (.error "Checkout Spark settled leg lacks exact credit.")
    let intent ← normalizeIntent P plan baseline.legId baseline.allocationSats legIntent
      leg.generationNumber
    let closed ← restoreClosedGenerations P plan baseline leg intent
    reject (leg.status = .unprepared ∨
        ¬ ∃ observedAt ∈ leg.observedAt, IsSafeInteger observedAt ∧ intent.preparedAt ≤ observedAt)
      (.error "Checkout Spark settled leg progress is invalid.")
    reject (¬ leg.ReceiptValid intent allocation)
      (.error "Checkout Spark settled leg exceeded its allocation.")
    return { leg with
      intent := some intent
      generation := if schemaVersion = 3 then leg.generation else some leg.generationNumber
      closedGenerations := if schemaVersion = 3 then leg.closedGenerations else some closed }

structure LegRow where
  recipient : SettledRecipient
  (baseline leg : LegProgress)

def restoreSettledLeg (plan : SettledPlan) (credited : Bool)
    (row : LegRow) : Result LegProgress := do
  reject (¬ row.leg.GenerationValid schemaVersion)
    (.error "Checkout Spark settled generation is invalid.")
  reject (row.leg.legId ≠ row.baseline.legId ∨ row.leg.allocationSats ≠ row.baseline.allocationSats)
    (.error "Checkout Spark settled allocation is invalid.")
  if plan.IsNativeTreasuryPlan ∧ row.recipient.kind = .conduit then
    reject (row.leg.intent ≠ none ∨ row.leg.generationNumber ≠ 0 ∨ row.leg.closed ≠ [])
      (.error "Checkout Spark native treasury cannot contain Lightning intents.")
    return { row.leg with generation := some 0, closedGenerations := some [] }
  else
    match row.leg.intent with
    | none => do
      reject (row.leg.status ≠ .unprepared ∨ row.leg.observedAt ≠ none ∨
          row.leg.finalFeeSats ≠ none ∨ row.leg.finalDebitSats ≠ none)
        (.error "Checkout Spark settled empty leg is invalid.")
      reject (row.leg.generationNumber ≠ 0)
        (.error "Checkout Spark renewed leg lacks its intent.")
      return if schemaVersion ≠ 3 then
        { row.baseline with generation := some 0, closedGenerations := some [] }
      else row.baseline
    | some intent =>
      restorePreparedLeg P schemaVersion plan credited row.baseline row.leg intent

def legRows : List SettledRecipient → List LegProgress → List LegProgress → List LegRow
  | r :: rs, b :: bs, l :: ls => { recipient := r, baseline := b, leg := l } :: legRows rs bs ls
  | _, _, _ => []

def LegProgress.cumulativeDebitSats : Int :=
  (leg.closed.map (·.closure.netDebitSats)).sum + leg.finalDebitSats.getD 0

def assertCumulativeDebit (creditedSats : Int) (legs : List LegProgress) : Result Unit := do
  reject (∃ leg ∈ legs, ¬ IsSafeInteger leg.cumulativeDebitSats ∨
      (¬ plan.IsNativeLeg leg.legId ∧ leg.cumulativeDebitSats > leg.allocationSats.getD 0))
    (.error "Checkout Spark cumulative debit exceeds its allocation.")
  let cumulativeDebitSats := (legs.map LegProgress.cumulativeDebitSats).sum
  reject (¬ IsSafeInteger cumulativeDebitSats ∨ cumulativeDebitSats > creditedSats)
    (.error "Checkout Spark cumulative debit exceeds its credit.")

def latestObservation (credit : Option CreditEvidence) (legs : List LegProgress) : Int :=
  (legs.map fun leg => leg.observedAt.getD plan.createdAt).foldl max
    (max plan.createdAt ((credit.map (·.observedAt)).getD plan.createdAt))

def Mirrors (treasury : NativeTreasuryFinalization) : Prop :=
  leg.status = treasury.status ∧ leg.observedAt = treasury.observedAt ∧
    leg.finalFeeSats = treasury.finalFeeSats ∧ leg.finalDebitSats = treasury.finalDebitSats
  deriving Decidable

def SettledPlan.nativeLeg (legs : List LegProgress) : Option LegProgress :=
  legs.find? fun leg => (plan.recipient leg.legId).map (·.kind) = some .conduit

variable (state : SettledReconciliation)

def restoreTreasury : Result (Option NativeTreasuryFinalization) :=
  if state.schemaVersion = 5 ∨ state.schemaVersion = 6 then do
    let treasury ← restoreNativeTreasuryFinalization P state.treasuryFinalization state
    let nativeLeg ← requireSome (state.plan.nativeLeg state.legs)
    reject (¬ Mirrors nativeLeg treasury)
      (.error "Checkout Spark native treasury mirror is invalid.")
    return some treasury
  else .ok none

def restoreSettledReconciliation : Result SettledReconciliation := do
  reject (state.schemaVersion ≠ 3 ∧ state.schemaVersion ≠ 4 ∧ state.schemaVersion ≠ 5 ∧
      state.schemaVersion ≠ 6)
    (.error "Checkout Spark settled state version is invalid.")
  let plan ← restoreSettledPlan P state.plan
  reject (¬ (plan.schemaVersion = 4 ↔ state.schemaVersion = 5) ∨
      ¬ (plan.schemaVersion = 5 ↔ state.schemaVersion = 6) ∨
      (state.schemaVersion ≠ 5 ∧ state.schemaVersion ≠ 6 ∧ state.treasuryFinalization ≠ none))
    (.error "Checkout Spark treasury state version is invalid.")
  let updatedAt ← time state.updatedAt "Checkout Spark settled update time"
  reject (updatedAt < plan.createdAt ∨ state.legs.length ≠ plan.recipients.length)
    (.error "Checkout Spark settled state is invalid.")
  let credit ← optionResult (normalizeCredit plan) state.credit
  let expected ← baselineLegs P plan credit
  let legs ← mapResult (restoreSettledLeg P state.schemaVersion plan credit.isSome)
    (legRows plan.recipients expected state.legs)
  reject (state.schemaVersion = 4 ∧ ¬ ∃ leg ∈ legs, leg.generationNumber = 1)
    (.error "Checkout Spark renewed state lacks a closed generation.")
  assertCumulativeDebit plan ((credit.map (·.creditedSats)).getD 0) legs
  reject (updatedAt < latestObservation plan credit legs)
    (.error "Checkout Spark settled state timestamp is stale.")
  let treasury ← restoreTreasury P { state with plan := plan, credit, legs }
  return {
    schemaVersion := state.schemaVersion
    plan := plan
    credit := credit
    legs := legs
    updatedAt := updatedAt
    treasuryFinalization := treasury }

end Conduit.CheckoutSpark
