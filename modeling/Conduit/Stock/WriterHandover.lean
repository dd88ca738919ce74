import Conduit.Stock.Moves

namespace Conduit.Stock

open Js Throwing

structure WriterPlatform extends StockPlatform where
  /-- `getEventHash` of a handover message. -/
  handoverHash : UnsignedHandover → Text
  /-- `new TextEncoder().encode(rumor.content).length`. -/
  handoverBytes : OrganizerStockWriterHandoverPayload → Nat
  /-- `buildStockWriterPackets` finds room for the message. -/
  fitsPackets : HandoverRumor → Bool
  openHandover : SignedEvent → List SignedEvent → Option HandoverRumor

def handoverFails : Failure :=
  .error "The complete stock-writer handover needs reconciliation."

def handoverSessionChanged : Failure := .error "Stock-writer handover session changed."

def maxStockWriterSnapshotBytes : Nat := 8 * 1024 * 1024
def maxStockWriterSnapshotRows : Nat := 2048

structure Cohort where
  pools : List Pool
  entries : List Entry

/-- `a.poolId.localeCompare(b.poolId) || a.sequence - b.sequence`. -/
def EntryLe (a b : Entry) : Prop :=
  if a.poolId = b.poolId then a.sequence ≤ b.sequence else CheckoutSpark.TextLe a.poolId b.poolId
  deriving Decidable

section
variable (P : StockPlatform)

def inCohort (market writer : Text) (pool : Pool) : Result Bool := do
  let grant ← assertPool P pool
  reject (grant.marketCoordinate = market ∧ pool.writerId ≠ writer ∧
      (pool.state ≠ .closed ∨ pool.readOnlyRecovery = false))
    handoverFails
  return decide (grant.marketCoordinate = market ∧ pool.writerId = writer)

def cohort (db : Journal) (account market writer : Text) : Result Cohort := do
  let retained := db.pools.rows.filter fun pool => pool.accountPubkey = account
  let pools ← filterResult (inCohort P market writer) retained
  let allEntries := db.entries.rows.filter fun entry => entry.accountPubkey = account
  reject (∃ entry ∈ allEntries, ¬ ∃ pool ∈ retained, pool.poolId = entry.poolId) handoverFails
  reject (∃ row ∈ db.writers.get (organizerStockWriterKey account market),
      row.writerId = some writer ∧ ¬ row.installedPoolIds.Perm (pools.map Pool.poolId).dedup)
    handoverFails
  return {
    pools := pools.mergeSort fun a b => decide (CheckoutSpark.TextLe a.poolId b.poolId)
    entries := (allEntries.filter fun entry => ∃ pool ∈ pools, pool.poolId = entry.poolId).mergeSort
      fun a b => decide (EntryLe a b) }

/-- `parsed.type === "handed_out"`. -/
def parseHandout (rumor : Rumor) (e : Failure) : Result StockHandout := do
  match ← parseStockAuthorityRumor P rumor with
  | .handedOut h => return h
  | _ => .error e

def ParsedAssignment.Committed (assignment : ParsedAssignment) (payload :
    OrganizerStockWriterHandoverPayload) (pool : Pool) (grant : StockGrant) : Prop :=
  assignment.coordinate = grant.assignmentCoordinate ∧
    assignment.previousEventId = some grant.assignmentEventId ∧
    match assignment.stockPool with
    | .valid committed => committed.state = .active ∧ committed.poolId = pool.poolId ∧
        committed.quantity = pool.quantity ∧ committed.importedQuantity = 0 ∧
        committed.organizerPubkey = payload.organizerPubkey
    | _ => False

instance (assignment : ParsedAssignment) (payload : OrganizerStockWriterHandoverPayload)
    (pool : Pool) (grant : StockGrant) : Decidable (assignment.Committed payload pool grant) := by
  unfold ParsedAssignment.Committed
  exact match assignment.stockPool with
    | .absent | .invalid | .valid _ => inferInstance

/-- The entries after `position` extend the frontier of the pool's journal. -/
def snapshotFrontier (payload : OrganizerStockWriterHandoverPayload) (pool : Pool)
    (grant : StockGrant) : Int → Frontier → List Entry → Result Frontier
  | _, frontier, [] => .ok frontier
  | position, frontier, entry :: entries => do
    let accepted ← parseAcceptance P entry.rumor handoverFails
    reject (entry.id ≠ entryKey payload.organizerPubkey entry.rumor.id ∨
        entry.accountPubkey ≠ payload.organizerPubkey ∨ entry.sequence ≠ position + 1 ∨
        accepted.sequence ≠ entry.sequence ∨ accepted.previousId ≠ frontier.previousId ∨
        accepted.poolId ≠ pool.poolId ∨ accepted.merchantPubkey ≠ pool.merchantPubkey ∨
        accepted.organizerPubkey ≠ payload.organizerPubkey ∨
        accepted.writerId ≠ payload.writerId ∨ accepted.orderId ≠ entry.orderId ∨
        accepted.claimRef ≠ entry.claimRef ∨ accepted.quantity ≠ entry.quantity ∨
        accepted.acceptedAtMs < frontier.previousTime ∨
        grant.expiresAtMs ≤ accepted.acceptedAtMs ∨
        payload.transferredAtMs < accepted.acceptedAtMs ∨ entry.evidence = [] ∨
        entry.orderPoolBinding = none)
      handoverFails
    snapshotFrontier payload pool grant (position + 1)
      { previousId := entry.rumor.id
        previousTime := accepted.acceptedAtMs
        quantity := frontier.quantity + entry.quantity } entries

def checkSnapshotClose (pool : Pool) (quantity : Int) : Result Unit :=
  match pool.closingRumor with
  | none => reject (pool.state = .closing ∨ pool.state = .closed) handoverFails
  | some rumor => do
    match ← parseStockAuthorityRumor P rumor with
    | .closed close =>
      reject (close.poolId ≠ pool.poolId ∨ close.writerId ≠ pool.writerId ∨
          close.sequence ≠ pool.acceptedSequence ∨ close.lastAcceptedId ≠ pool.lastAcceptedId ∨
          close.acceptedQuantity ≠ quantity)
        handoverFails
    | _ => .error handoverFails

def checkSnapshotPool (payload : OrganizerStockWriterHandoverPayload) (pool : Pool) :
    Result Unit := do
  let grant ← assertPool P pool
  reject (pool.accountPubkey ≠ payload.organizerPubkey ∨
      pool.organizerPubkey ≠ payload.organizerPubkey ∨ pool.writerId ≠ payload.writerId ∨
      grant.marketCoordinate ≠ payload.marketCoordinate ∨ pool.readOnlyRecovery = true ∨
      ¬ ∃ envelope ∈ pool.receivedEnvelope, P.isValidSignedEvent envelope = true)
    handoverFails
  reject (¬ ∃ event ∈ payload.snapshot.commitments,
      ∃ assignment ∈ parseEventMarketAssignmentEvent P event,
        assignment.Committed payload pool grant)
    handoverFails
  let chain := payload.snapshot.entries.filter fun entry => entry.poolId = pool.poolId
  reject ((chain.length : Int) ≠ pool.acceptedSequence) handoverFails
  let frontier ← snapshotFrontier P payload pool grant 0
    { previousId := pool.poolId
      previousTime := pool.grantRumor.createdAt * 1000
      quantity := 0 } chain
  reject (frontier.previousId ≠ pool.lastAcceptedId ∨ frontier.quantity ≠ pool.acceptedQuantity)
    handoverFails
  checkSnapshotClose P pool frontier.quantity

def checkSameDecision (entry candidate : Entry) (accepted : StockAcceptance) : Result Unit := do
  let other ← parseAcceptance P candidate.rumor handoverFails
  reject (other.merchantPubkey ≠ accepted.merchantPubkey ∨
      other.identityBinding ≠ accepted.identityBinding ∨
      other.termsBinding ≠ accepted.termsBinding ∨ other.claimRef ≠ accepted.claimRef ∨
      other.acceptedAtMs ≠ accepted.acceptedAtMs ∨ candidate.evidence ≠ entry.evidence)
    handoverFails

def checkSnapshotHandout (payload : OrganizerStockWriterHandoverPayload) (entry : Entry)
    (accepted : StockAcceptance) (order : List Entry) : Result Unit :=
  match entry.handout with
  | none => reject (∃ candidate ∈ order, candidate.handout ≠ none) handoverFails
  | some saved => do
    let handout ← parseHandout P saved.rumor handoverFails
    reject (handout.organizerPubkey ≠ payload.organizerPubkey ∨
        handout.merchantPubkey ≠ accepted.merchantPubkey ∨ handout.writerId ≠ payload.writerId ∨
        handout.orderId ≠ accepted.orderId ∨ handout.claimRef ≠ accepted.claimRef ∨
        handout.identityBinding ≠ accepted.identityBinding ∨
        handout.termsBinding ≠ accepted.termsBinding ∨
        handout.handedOutAtMs < accepted.acceptedAtMs ∨
        payload.transferredAtMs < handout.handedOutAtMs ∨
        handout.entries ≠ order.map (fun candidate =>
          { poolId := candidate.poolId
            acceptedId := candidate.rumor.id
            quantity := candidate.quantity }) ∨
        ∃ candidate ∈ order, candidate.handout.map Handout.rumor ≠ some saved.rumor)
      handoverFails

def checkSnapshotEntry (payload : OrganizerStockWriterHandoverPayload) (entry : Entry) :
    Result Unit := do
  let accepted ← parseAcceptance P entry.rumor handoverFails
  let order := (payload.snapshot.entries.filter fun candidate =>
    candidate.orderId = entry.orderId).mergeSort fun a b =>
      decide (CheckoutSpark.TextLe a.poolId b.poolId)
  let manifest : List PoolLine := order.map fun candidate =>
    { poolId := candidate.poolId
      writerId := payload.writerId
      quantity := candidate.quantity }
  reject ((¬ ∃ pool ∈ payload.snapshot.pools, pool.poolId = entry.poolId) ∨
      entry.orderPoolBinding ≠ some manifest ∨
      ∃ candidate ∈ order, candidate.orderPoolBinding ≠ entry.orderPoolBinding)
    handoverFails
  let _ ← mapResult (fun candidate => checkSameDecision P entry candidate accepted) order
  checkSnapshotHandout P payload entry accepted order

def validateSnapshot (payload : OrganizerStockWriterHandoverPayload) : Result Unit := do
  let snapshot := payload.snapshot
  reject (snapshot.pools.length > maxStockWriterSnapshotRows ∨
      snapshot.entries.length > maxStockWriterSnapshotRows ∨
      snapshot.commitments.length > maxStockWriterSnapshotRows ∨ snapshot.pools = [] ∨
      ¬ (snapshot.pools.map Pool.poolId).Nodup ∨ ¬ (snapshot.entries.map Entry.id).Nodup ∨
      ¬ (snapshot.commitments.map SignedEvent.id).Nodup)
    handoverFails
  let _ ← mapResult (checkSnapshotPool P payload) snapshot.pools
  let _ ← mapResult (checkSnapshotEntry P payload) snapshot.entries
  return ()

end

def handoverTags (organizerPubkey : Text) : List (List Text) :=
  [["p", organizerPubkey], ["subject", "conduit-event-stock-handover"],
    ["conduit", "event-stock-handover", "1"]]

/-- `parseAddressableCoordinate(market, [30409])?.authorPubkey === organizerPubkey`. -/
def IsMarketOf (P : Platform) (market organizerPubkey : Text) : Prop :=
  (CheckoutSpark.parseAddressableCoordinate P market [30409]).map
    CheckoutSpark.AddressableCoordinate.authorPubkey = some organizerPubkey
  deriving Decidable

variable (P : WriterPlatform)

def parseOrganizerStockWriterHandoverRumor (rumor : HandoverRumor) :
    Result OrganizerStockWriterHandoverPayload := do
  let payload := rumor.content
  reject (rumor.kind ≠ 14 ∨ P.isValidNostrPublicKey rumor.pubkey = false ∨
      rumor.id ≠ P.handoverHash rumor.toUnsignedHandover ∨
      P.handoverBytes payload > maxStockWriterSnapshotBytes)
    handoverFails
  reject (payload.organizerPubkey ≠ rumor.pubkey ∨
      ¬ IsMarketOf P.toPlatform payload.marketCoordinate payload.organizerPubkey ∨
      (∃ id ∈ [payload.writerId, payload.sourceDeviceId, payload.targetDeviceId],
        ¬ IsUuidV4 id) ∨
      payload.sourceDeviceId = payload.targetDeviceId ∨ ¬ IsTime payload.generation ∨
      payload.generation < 1 ∨
      (if payload.generation = 1 then payload.previousTransferId ≠ none
        else ¬ ∃ id ∈ payload.previousTransferId, IsHex64 id) ∨
      ¬ IsTime payload.transferredAtMs ∨ payload.transferredAtMs / 1000 ≠ rumor.createdAt ∨
      rumor.tags ≠ handoverTags payload.organizerPubkey)
    handoverFails
  validateSnapshot P.toStockPlatform payload
  return payload

/-- `build`. -/
def buildHandover (payload : OrganizerStockWriterHandoverPayload) : Result HandoverRumor := do
  let unsigned : UnsignedHandover :=
    { kind := 14
      pubkey := payload.organizerPubkey
      createdAt := payload.transferredAtMs / 1000
      tags := handoverTags payload.organizerPubkey
      content := payload }
  let rumor : HandoverRumor := { unsigned with id := P.handoverHash unsigned }
  let _ ← parseOrganizerStockWriterHandoverRumor P rumor
  return rumor

structure RegisterInput where
  (authenticatedPubkey marketCoordinate writerId deviceId : Text)
  expectedPoolIds : List Text
  shouldContinue : Bool

variable (db : Journal)

def registerOrganizerStockWriterDevice (input : RegisterInput) : Result Journal := do
  let account := input.authenticatedPubkey
  reject (input.shouldContinue = false) handoverSessionChanged
  reject (¬ IsUuidV4 input.writerId ∨ ¬ IsUuidV4 input.deviceId ∨
      ¬ IsMarketOf P.toPlatform input.marketCoordinate account)
    handoverFails
  match db.writers.get (organizerStockWriterKey account input.marketCoordinate) with
  | some prior => do
    reject (prior.state ≠ .active ∨ prior.writerId ≠ some input.writerId ∨
        prior.deviceId ≠ input.deviceId)
      handoverFails
    return db
  | none => do
    let current ← cohort P.toStockPlatform db account input.marketCoordinate input.writerId
    reject (¬ (current.pools.map Pool.poolId).Perm input.expectedPoolIds ∨
        (∃ pool ∈ current.pools, pool.readOnlyRecovery = true) ∨
        (current.pools = [] ∧ input.writerId ≠ input.deviceId))
      handoverFails
    let row : Writer :=
      { id := organizerStockWriterKey account input.marketCoordinate
        accountPubkey := account
        marketCoordinate := input.marketCoordinate
        deviceId := input.deviceId
        writerId := some input.writerId
        state := .active
        installedPoolIds := current.pools.map Pool.poolId
        generation := 0
        transferId := none }
    return { db with writers := db.writers.put row }

structure PrepareTargetInput where
  (authenticatedPubkey marketCoordinate targetDeviceId : Text)
  shouldContinue : Bool

def prepareOrganizerStockWriterTarget (input : PrepareTargetInput) : Result Journal := do
  let account := input.authenticatedPubkey
  reject (input.shouldContinue = false) handoverSessionChanged
  reject (¬ IsUuidV4 input.targetDeviceId ∨
      ¬ IsMarketOf P.toPlatform input.marketCoordinate account)
    handoverFails
  match db.writers.get (organizerStockWriterKey account input.marketCoordinate) with
  | some prior => do
    reject (prior.state ≠ .target ∨ prior.deviceId ≠ input.targetDeviceId) handoverFails
    return db
  | none => do
    let _ ← mapResult (fun pool => do
      let grant ← assertPool P.toStockPlatform pool
      reject (grant.marketCoordinate = input.marketCoordinate ∧ pool.readOnlyRecovery = false)
        handoverFails)
      (db.pools.rows.filter fun pool => pool.accountPubkey = account)
    let row : Writer :=
      { id := organizerStockWriterKey account input.marketCoordinate
        accountPubkey := account
        marketCoordinate := input.marketCoordinate
        deviceId := input.targetDeviceId
        writerId := none
        state := .target
        installedPoolIds := []
        generation := 0
        transferId := none }
    return { db with writers := db.writers.put row }

def authenticateGrants (account : Text) (snapshot : WriterSnapshot) : Result Unit := do
  let _ ← mapResult (fun pool =>
    match pool.receivedEnvelope.bind P.unwrap with
    | none => .error (.error "Private message could not be unwrapped")
    | some rumor => do
      reject (¬ SameOrganizerStockRumor rumor pool.grantRumor) handoverFails
      match ← parseStockAuthorityRumor P.toStockPlatform rumor with
      | .grant grant =>
        reject (grant.merchantPubkey ≠ pool.merchantPubkey ∨ grant.organizerPubkey ≠ account)
          handoverFails
      | _ => .error handoverFails) snapshot.pools
  return ()

structure BeginInput where
  (authenticatedPubkey marketCoordinate writerId targetDeviceId : Text)
  evidence : List SignedEvent
  shouldContinue : Bool
  nowMs : Int

def ParsedAssignment.SetsApart (assignment : ParsedAssignment) (pool : Pool) (grant : StockGrant) :
    Prop :=
  assignment.coordinate = grant.assignmentCoordinate ∧
    assignment.previousEventId = some grant.assignmentEventId ∧
    match assignment.stockPool with
    | .valid committed => committed.poolId = pool.poolId ∧ committed.importedQuantity = 0
    | _ => False

instance (assignment : ParsedAssignment) (pool : Pool) (grant : StockGrant) :
    Decidable (assignment.SetsApart pool grant) := by
  unfold ParsedAssignment.SetsApart
  exact match assignment.stockPool with
    | .absent | .invalid | .valid _ => inferInstance

variable (input : BeginInput)

def BeginInput.commitment (pool : Pool) : Result SignedEvent := do
  let grant ← assertPool P.toStockPlatform pool
  let found := input.evidence.find? fun event =>
    decide (∃ assignment ∈ parseEventMarketAssignmentEvent P.toStockPlatform event,
      assignment.SetsApart pool grant)
  match found with
  | none => .error handoverFails
  | some event => return event

def BeginInput.payload (prior : Writer) (captured : Cohort)
    (commitments : List SignedEvent) : OrganizerStockWriterHandoverPayload where
  organizerPubkey := input.authenticatedPubkey
  marketCoordinate := input.marketCoordinate
  writerId := input.writerId
  sourceDeviceId := prior.deviceId
  targetDeviceId := input.targetDeviceId
  generation := prior.generation + 1
  previousTransferId := prior.transferId
  transferredAtMs := input.nowMs
  snapshot :=
    { pools := captured.pools
      entries := captured.entries
      commitments := commitments }

/-- The source's registration, frozen with what it sends. -/
def Writer.retire (prior : Writer) (rumor : HandoverRumor) : Writer :=
  { prior with
    state := .retired
    generation := rumor.content.generation
    previousTransferId := prior.transferId
    transferId := some rumor.id
    outgoing := some rumor }

def beginOrganizerStockWriterHandover : Result Journal := do
  let account := input.authenticatedPubkey
  reject (input.shouldContinue = false) handoverSessionChanged
  match db.writers.get (organizerStockWriterKey account input.marketCoordinate) with
  | none => .error handoverFails
  | some prior =>
    match prior.state, prior.outgoing with
    | .retired, some outgoing => do
      let payload ← parseOrganizerStockWriterHandoverRumor P outgoing
      reject (payload.targetDeviceId ≠ input.targetDeviceId ∨ payload.writerId ≠ input.writerId)
        handoverFails
      return db
    | _, _ => do
      reject (prior.state ≠ .active ∨ prior.writerId ≠ some input.writerId ∨
          prior.deviceId = input.targetDeviceId)
        handoverFails
      let captured ← cohort P.toStockPlatform db account input.marketCoordinate input.writerId
      let commitments ← mapResult (input.commitment P) captured.pools
      let payload := input.payload prior captured commitments
      let rumor ← buildHandover P payload
      reject (P.fitsPackets rumor = false)
        (.error "The complete stock-writer transfer bundle is required.")
      authenticateGrants P account payload.snapshot
      return { db with writers := db.writers.put (prior.retire rumor) }

structure RestoreInput where
  authenticatedPubkey : Text
  envelope : SignedEvent
  envelopes : List SignedEvent
  expectedTargetDeviceId : Text
  shouldContinue : Bool
  nowMs : Int

def Pool.ContinuedBy (pool later : Pool) : Prop :=
  pool.grantRumor = later.grantRumor ∧ pool.acceptedSequence ≤ later.acceptedSequence ∧
    pool.acceptedQuantity ≤ later.acceptedQuantity ∧
    pool.importedSequence ≤ later.importedSequence ∧
    ∀ closing ∈ pool.closingRumor, later.closingRumor = some closing
  deriving Decidable

def Entry.ContinuedBy (entry later : Entry) : Prop :=
  entry.rumor = later.rumor ∧ entry.orderPoolBinding = later.orderPoolBinding ∧
    entry.evidence = later.evidence ∧
    ∀ handout ∈ entry.handout, later.handout.map Handout.rumor = some handout.rumor
  deriving Decidable

/-- An exact retry after activation preserves all newer local decisions. -/
def checkRetry (payload : OrganizerStockWriterHandoverPayload) (known : Cohort) : Result Unit := do
  reject (∃ pool ∈ payload.snapshot.pools,
      ¬ ∃ current ∈ known.pools.find? (fun (row : Pool) => row.poolId = pool.poolId),
        pool.ContinuedBy current ∧ current.readOnlyRecovery = false)
    handoverFails
  reject (∃ entry ∈ payload.snapshot.entries,
      ¬ ∃ current ∈ known.entries.find? (fun (row : Entry) => row.id = entry.id),
        entry.ContinuedBy current)
    handoverFails

/-- What the target knows already is part of what it receives. -/
def checkKnown (payload : OrganizerStockWriterHandoverPayload) (known : Cohort) : Result Unit := do
  reject (∃ pool ∈ known.pools,
      ¬ ∃ incoming ∈ payload.snapshot.pools.find? (fun (row : Pool) => row.poolId = pool.poolId),
        pool.ContinuedBy incoming ∧ pool.readOnlyRecovery = false)
    handoverFails
  reject (∃ entry ∈ known.entries,
      ¬ ∃ incoming ∈ payload.snapshot.entries.find? (fun (row : Entry) => row.id = entry.id),
        entry.ContinuedBy incoming)
    handoverFails

def HandoverRumor.activated (rumor : HandoverRumor) (account : Text) (envelope : SignedEvent) :
    Writer where
  id := organizerStockWriterKey account rumor.content.marketCoordinate
  accountPubkey := account
  marketCoordinate := rumor.content.marketCoordinate
  deviceId := rumor.content.targetDeviceId
  writerId := some rumor.content.writerId
  state := .active
  installedPoolIds := rumor.content.snapshot.pools.map Pool.poolId
  generation := rumor.content.generation
  transferId := some rumor.id
  previousTransferId := rumor.content.previousTransferId
  receivedEnvelope := some envelope

/-- Explicit activation on a positively pre-registered target, never relay absence. -/
def restoreOrganizerStockWriterHandover (input : RestoreInput) : Result Journal := do
  let account := input.authenticatedPubkey
  reject (input.shouldContinue = false) handoverSessionChanged
  match P.openHandover input.envelope input.envelopes with
  | none => .error (.error "Private message could not be unwrapped")
  | some rumor => do
    let payload ← parseOrganizerStockWriterHandoverRumor P rumor
    reject (payload.organizerPubkey ≠ account) handoverFails
    reject (payload.targetDeviceId ≠ input.expectedTargetDeviceId ∨
        input.nowMs < payload.transferredAtMs)
      handoverFails
    authenticateGrants P account payload.snapshot
    match db.writers.get (organizerStockWriterKey account payload.marketCoordinate) with
    | none => .error handoverFails
    | some writer => do
      reject (writer.deviceId ≠ input.expectedTargetDeviceId ∨
          (writer.state ≠ .target ∧
            ¬ (writer.state = .active ∧ writer.transferId = some rumor.id)) ∨
          payload.generation < writer.generation ∨
          (writer.generation = payload.generation ∧ writer.transferId ≠ some rumor.id))
        handoverFails
      let known ← cohort P.toStockPlatform db account payload.marketCoordinate payload.writerId
      if writer.state = .active then
        checkRetry payload known
        return db
      else
        checkKnown payload known
        return {
          pools := db.pools.putAll payload.snapshot.pools
          entries := db.entries.putAll payload.snapshot.entries
          writers := db.writers.put (rumor.activated account input.envelope) }

/-- The end of `receiveOrganizerStockGrant`. -/
def retainGrantEnvelope (account : Text) (rumor : Rumor)
    (grantEnvelope : SignedEvent) : Result Journal :=
  match db.pools.get (poolKey account rumor.id) with
  | none => .error (.error "Organizer stock grant changed")
  | some current => do
    reject (¬ SameOrganizerStockRumor current.grantRumor rumor)
      (.error "Organizer stock grant changed")
    return { db with pools := db.pools.put { current with
      receivedEnvelope := some (current.receivedEnvelope.getD grantEnvelope) } }

end Conduit.Stock
