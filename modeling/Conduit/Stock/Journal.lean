import Conduit.Stock.Ledger

namespace Conduit.Stock

open Js Throwing

def poolKey (account pool : Text) : Text := account ++ ":" ++ pool

def entryKey (account entry : Text) : Text := account ++ ":" ++ entry

/-- `requireTime`. -/
def requireJournalTime (nowMs : Int) : Result Unit :=
  reject (¬ IsTime nowMs) (.error "Invalid stock journal time")

/-- NIP01 event bytes are independent of JavaScript object property order. -/
def SameOrganizerStockRumor (a b : Rumor) : Prop := a = b
  deriving Decidable

def readGrant (P : StockPlatform) (rumor : Rumor) : Result StockGrant := do
  match ← parseStockAuthorityRumor P rumor with
  | .grant g => return g
  | _ => .error (.error "Stock grant required")

/-- A counter of the pool lies between zero and the granted quantity. -/
def WithinQuantity (quantity n : Int) : Prop := 0 ≤ n ∧ n ≤ quantity
  deriving Decidable

def Pool.CountersInOrder (pool : Pool) (quantity : Int) : Prop :=
  WithinQuantity quantity pool.acceptedQuantity ∧ WithinQuantity quantity pool.acceptedSequence ∧
    WithinQuantity quantity pool.importedQuantity ∧ WithinQuantity quantity pool.importedSequence ∧
    pool.acceptedSequence ≤ pool.acceptedQuantity ∧ pool.importedSequence ≤ pool.importedQuantity ∧
    pool.importedSequence ≤ pool.acceptedSequence ∧
    pool.importedQuantity ≤ pool.acceptedQuantity ∧
    (pool.importedSequence = pool.acceptedSequence →
      pool.importedQuantity = pool.acceptedQuantity ∧ pool.lastImportedId = pool.lastAcceptedId) ∧
    (pool.acceptedSequence = 0 → pool.acceptedQuantity = 0 ∧ pool.lastAcceptedId = pool.poolId) ∧
    (pool.importedSequence = 0 → pool.importedQuantity = 0 ∧ pool.lastImportedId = pool.poolId) ∧
    IsHex64 pool.lastAcceptedId ∧ IsHex64 pool.lastImportedId
  deriving Decidable

def Pool.Carries (pool : Pool) (grant : StockGrant) : Prop :=
  pool.poolId = pool.grantRumor.id ∧ pool.id = poolKey pool.accountPubkey pool.poolId ∧
    pool.merchantPubkey = grant.merchantPubkey ∧ pool.organizerPubkey = grant.organizerPubkey ∧
    pool.writerId = grant.writerId ∧ pool.assignmentCoordinate = grant.assignmentCoordinate ∧
    pool.productCoordinate = grant.productCoordinate ∧ pool.quantity = grant.quantity
  deriving Decidable

/-- `assertPool`. -/
def assertPool (P : StockPlatform) (pool : Pool) : Result StockGrant := do
  let grant ← readGrant P pool.grantRumor
  reject (¬ pool.Carries grant ∨
      pool.accountPubkey ∉ [grant.merchantPubkey, grant.organizerPubkey] ∨
      ¬ pool.CountersInOrder grant.quantity ∨
      (pool.state = .closed ∧ (pool.closingRumor = none ∨
        pool.importedSequence ≠ pool.acceptedSequence ∨
        pool.importedQuantity ≠ pool.acceptedQuantity)))
    (.error "Organizer stock journal requires reconciliation")
  return grant

section
variable {P : StockPlatform} {pool : Pool} {grant : StockGrant} {rumor : Rumor}

lemma readGrant_ok :
    readGrant P rumor = .ok grant ↔ parseStockAuthorityRumor P rumor = .ok (.grant grant) := by
  unfold readGrant
  rw [bind_ok]
  constructor
  · rintro ⟨payload, hp, h⟩
    cases payload with
    | grant g =>
      obtain rfl := pure_ok.1 h
      exact hp
    | accepted | closed | handedOut => cases h
  · intro h
    exact ⟨_, h, rfl⟩

lemma readGrant_parses (h : readGrant P rumor = .ok grant) :
    IsHex64 rumor.id ∧ grant.toStockParties.Parses P ∧ grant.Parses P := by
  obtain ⟨-, -, hid, -, hp, -⟩ := parseStockAuthorityRumor_ok.1 (readGrant_ok.1 h)
  exact ⟨hid, hp⟩

lemma readGrant_parties (h : readGrant P rumor = .ok grant) :
    IsHex64 grant.merchantPubkey ∧ IsHex64 grant.organizerPubkey ∧
      grant.merchantPubkey ≠ grant.organizerPubkey ∧ IsHex64 rumor.id ∧ 1 ≤ grant.quantity := by
  obtain ⟨hid, ⟨-, hm, -, ho, hne, -⟩, -, -, -, hq, -⟩ := readGrant_parses h
  exact ⟨hm, ho, hne, hid, hq.1⟩

lemma assertPool_ok : assertPool P pool = .ok grant ↔
    readGrant P pool.grantRumor = .ok grant ∧ pool.Carries grant ∧
      pool.accountPubkey ∈ [grant.merchantPubkey, grant.organizerPubkey] ∧
      pool.CountersInOrder grant.quantity ∧
      ¬ (pool.state = .closed ∧ (pool.closingRumor = none ∨
        pool.importedSequence ≠ pool.acceptedSequence ∨
        pool.importedQuantity ≠ pool.acceptedQuantity)) := by
  simp only [assertPool, run_ok, not_or, not_not]
  constructor
  · rintro ⟨g, hgr, ⟨hcar, ha, hc, hcls⟩, rfl⟩
    exact ⟨hgr, hcar, ha, hc, hcls⟩
  · rintro ⟨hgr, hcar, ha, hc, hcls⟩
    exact ⟨grant, hgr, ⟨hcar, ha, hc, hcls⟩, rfl⟩

end

variable (P : StockPlatform)

def validateMerchantOrganizerStockPool (pool : Pool) (merchantPubkey : Text) :
    Result StockGrant := do
  match ← parseStockAuthorityRumor P pool.grantRumor with
  | .grant grant => do
    reject (pool.accountPubkey ≠ merchantPubkey ∨ pool.merchantPubkey ≠ merchantPubkey ∨
        ¬ pool.Carries grant ∨ ¬ pool.CountersInOrder pool.quantity ∨
        (pool.importedSequence < pool.acceptedSequence ∧
          pool.acceptedQuantity ≤ pool.importedQuantity))
      (.error "Merchant stock pool requires reconciliation")
    return grant
  | _ => .error (.error "Merchant stock pool requires reconciliation")

def newPool (accountPubkey : Text) (rumor : Rumor) (grant : StockGrant) (state : PoolState) :
    Pool where
  id := poolKey accountPubkey rumor.id
  accountPubkey := accountPubkey
  poolId := rumor.id
  merchantPubkey := grant.merchantPubkey
  organizerPubkey := grant.organizerPubkey
  writerId := grant.writerId
  assignmentCoordinate := grant.assignmentCoordinate
  productCoordinate := grant.productCoordinate
  grantRumor := rumor
  quantity := grant.quantity
  acceptedQuantity := 0
  acceptedSequence := 0
  lastAcceptedId := rumor.id
  importedQuantity := 0
  importedSequence := 0
  lastImportedId := rumor.id
  state := state
  closingRumor := none
  receivedClosingEnvelope := none
  readOnlyRecovery := false

structure PrepareInput where
  authenticatedPubkey : Text
  grantRumor : Rumor
  expectedAssignmentRevision : Int
  /-- `shouldContinue`, asked at each of its calls. -/
  shouldContinue : Bool
  nowMs : Int

def sessionChanged : Failure := .error "Stock authority session changed"

def Entrusts (assignment : Assignment) (product : Product) (grant : StockGrant)
    (expectedRevision nowMs : Int) : Prop :=
  assignment.merchantPubkey = grant.merchantPubkey ∧
    product.merchantPubkey = grant.merchantPubkey ∧
    assignment.productCoordinate = grant.productCoordinate ∧
    assignment.marketCoordinate = grant.marketCoordinate ∧
    assignment.occurrenceCoordinate = grant.occurrenceCoordinate ∧
    assignment.revision = expectedRevision ∧
    assignment.signedAssignmentEventId = some grant.assignmentEventId ∧
    product.signedProductEvent.id = grant.productEventId ∧ assignment.state = .active ∧
    assignment.terminal = false ∧ nowMs < assignment.occurrenceEndMs ∧
    grant.expiresAtMs ≤ assignment.occurrenceEndMs ∧ .pickup ∈ assignment.fulfillmentMethods ∧
    assignment.inventory.IsTracked ∧ grant.quantity ≤ assignment.inventory.quantity ∧
    ∃ stock ∈ product.stock, grant.quantity ≤ stock
  deriving Decidable

def grantedHold (rumor : Rumor) (grant : StockGrant) : OrganizerStockHold where
  poolId := rumor.id
  organizerPubkey := grant.organizerPubkey
  quantity := grant.quantity
  importedQuantity := 0
  closed := false

def Assignment.entrusted (a : Assignment) (rumor : Rumor) (grant : StockGrant) (nowMs : Int) :
    Assignment :=
  let revision := a.revision + 1
  let held := { a with organizerStockHold := some (grantedHold rumor grant), revision }
  { held with
    publicationJobs := a.publicationJobs ++ [{ job (rumor.id ++ ":reserve") revision nowMs with
      assignmentSnapshot := some held.snapshot }] }

/-- Reserve before signing. -/
def prepareMerchantOrganizerStockPool (db : Ledger) (input : PrepareInput) : Result Ledger := do
  let rumor := input.grantRumor
  let grant ← readGrant P rumor
  requireJournalTime input.nowMs
  reject (input.shouldContinue = false) sessionChanged
  reject (input.authenticatedPubkey ≠ grant.merchantPubkey ∨ rumor.createdAt * 1000 > input.nowMs ∨
      grant.expiresAtMs ≤ input.nowMs)
    (.error "Merchant stock handover is not current")
  match db.pools.get (poolKey grant.merchantPubkey rumor.id) with
  | some prior => do
    let _ ← assertPool P prior
    reject (¬ SameOrganizerStockRumor prior.grantRumor rumor)
      (.error "Stock grant identity conflict")
    return db
  | none =>
    match db.assignments.get grant.assignmentCoordinate,
      db.products.get grant.productCoordinate with
    | some assignment, some product => do
      reject (¬ Entrusts assignment product grant input.expectedAssignmentRevision input.nowMs)
        (.error "Committed assignment cannot entrust this stock")
      -- A second grant cannot replace an unresolved writer, even when all of its units appear
      -- imported. Only its authenticated close releases it.
      let _ ← outstandingOrganizerStockHold assignment
      reject (∃ hold ∈ assignment.organizerStockHold, hold.closed = false)
        (.error "Organizer stock handover still requires reconciliation")
      reject (∃ work ∈ product.publicationJobs ++ assignment.publicationJobs,
          work.state ≠ .delivered ∧ work.state ≠ .superseded)
        (.error "Publish the current inventory revision before handover")
      return { db with
        assignments := db.assignments.put (assignment.entrusted rumor grant input.nowMs)
        pools := db.pools.put (newPool grant.merchantPubkey rumor grant .prepared) }
    | _, _ => .error (.error "Committed assignment cannot entrust this stock")

inductive WriterState where
  | target
  | active
  | retired
  deriving DecidableEq

structure WriterSnapshot where
  pools : List Pool
  entries : List Entry
  commitments : List SignedEvent
  deriving DecidableEq

structure OrganizerStockWriterHandoverPayload where
  (organizerPubkey marketCoordinate writerId sourceDeviceId targetDeviceId : Text)
  generation : Int
  previousTransferId : Option Text
  transferredAtMs : Int
  snapshot : WriterSnapshot
  deriving DecidableEq

structure UnsignedHandover where
  kind : Int
  pubkey : Text
  createdAt : Int
  tags : List (List Text)
  content : OrganizerStockWriterHandoverPayload
  deriving DecidableEq

structure HandoverRumor extends UnsignedHandover where
  id : Text
  deriving DecidableEq

structure Writer where
  (id accountPubkey marketCoordinate deviceId : Text)
  writerId : Option Text
  state : WriterState
  installedPoolIds : List Text
  generation : Int
  transferId : Option Text
  previousTransferId : Option Text := none
  outgoing : Option HandoverRumor := none
  receivedEnvelope : Option SignedEvent := none

structure Journal where
  pools : Table Pool Pool.id
  entries : Table Entry Entry.id
  writers : Table Writer Writer.id

def organizerStockWriterKey (account market : Text) : Text := account ++ ":" ++ market

variable (db : Journal)

def assertOrganizerStockWriterCurrent (accountPubkey marketCoordinate : Text)
    (writerId : Text) : Result Unit :=
  reject (∃ row ∈ db.writers.get (organizerStockWriterKey accountPubkey marketCoordinate),
      row.accountPubkey ≠ accountPubkey ∨ row.marketCoordinate ≠ marketCoordinate ∨
      row.state ≠ .active ∨ row.writerId ≠ some writerId)
    (.error "This stock writer has moved or needs explicit recovery.")

structure AcceptanceInput where
  (authenticatedPubkey writerId poolId orderId identityBinding termsBinding claimRef : Text)
  quantity : Int
  evidence : Text
  orderPoolBinding : Option (List PoolLine)
  shouldContinue : Bool
  nowMs : Int

def replayAcceptance (prior : Entry) (input : AcceptanceInput) : Result Unit := do
  let conflict : Failure := .error "Organizer order ID is bound to different terms"
  let accepted ← parseAcceptance P prior.rumor conflict
  reject (accepted.identityBinding ≠ input.identityBinding ∨
      accepted.termsBinding ≠ input.termsBinding ∨ accepted.claimRef ≠ input.claimRef ∨
      accepted.quantity ≠ input.quantity ∨
      (prior.orderPoolBinding ≠ none ∧ prior.orderPoolBinding ≠ input.orderPoolBinding) ∨
      prior.evidence ≠ input.evidence)
    conflict

def checkPredecessor (pool : Pool) (account : Text) (nowMs : Int) : Result Unit :=
  let failure : Failure := .error "Organizer journal predecessor requires reconciliation"
  if 0 < pool.acceptedSequence then
    match db.entries.get (entryKey account pool.lastAcceptedId) with
    | none => .error failure
    | some predecessor => do
      let previous ← parseAcceptance P predecessor.rumor failure
      reject (previous.sequence ≠ pool.acceptedSequence ∨ previous.poolId ≠ pool.poolId ∨
          nowMs < previous.acceptedAtMs)
        failure
  else .ok ()

variable (input : AcceptanceInput)

variable (pool : Pool)

def AcceptanceInput.payload : StockAcceptance where
  merchantPubkey := pool.merchantPubkey
  organizerPubkey := pool.organizerPubkey
  writerId := pool.writerId
  poolId := pool.poolId
  sequence := pool.acceptedSequence + 1
  previousId := pool.lastAcceptedId
  orderId := input.orderId
  identityBinding := input.identityBinding
  termsBinding := input.termsBinding
  claimRef := input.claimRef
  quantity := input.quantity
  acceptedAtMs := input.nowMs

def AcceptanceInput.entry (rumor : Rumor) : Entry where
  id := entryKey input.authenticatedPubkey rumor.id
  accountPubkey := input.authenticatedPubkey
  poolId := pool.poolId
  sequence := pool.acceptedSequence + 1
  orderId := input.orderId
  claimRef := input.claimRef
  rumor := rumor
  quantity := input.quantity
  evidence := input.evidence
  orderPoolBinding := input.orderPoolBinding
  receivedEnvelope := none
  imported := false

def Pool.accepts (quantity : Int) (rumor : Rumor) : Pool :=
  { pool with
    acceptedQuantity := pool.acceptedQuantity + quantity
    acceptedSequence := pool.acceptedSequence + 1
    lastAcceptedId := rumor.id }

/-- The unique indexes of the entries do not hold both. -/
def Entry.Collides (e f : Entry) : Prop :=
  e.accountPubkey = f.accountPubkey ∧ e.poolId = f.poolId ∧
    (e.sequence = f.sequence ∨ e.orderId = f.orderId ∨ e.claimRef = f.claimRef)
  deriving Decidable

structure Accepted where
  replayed : Bool
  entry : Entry

/-- Durable consumption only; commerce settlement and claim verification are separate. -/
def commitOrganizerStockAcceptance : Result (Journal × Accepted) := do
  requireJournalTime input.nowMs
  reject (input.shouldContinue = false) sessionChanged
  reject (input.evidence = [] ∨ utf8ByteLength input.evidence > 65536)
    (.error "Invalid organizer order evidence")
  match db.pools.get (poolKey input.authenticatedPubkey input.poolId) with
  | none => .error (.error "Organizer stock writer unavailable")
  | some pool => do
    reject (pool.organizerPubkey ≠ input.authenticatedPubkey ∨ pool.writerId ≠ input.writerId)
      (.error "Organizer stock writer unavailable")
    let grant ← assertPool P pool
    assertOrganizerStockWriterCurrent db input.authenticatedPubkey grant.marketCoordinate
      input.writerId
    match db.entries.rows.find? (fun e => e.accountPubkey = input.authenticatedPubkey ∧
        e.poolId = input.poolId ∧ e.orderId = input.orderId) with
    | some prior => do
      replayAcceptance P prior input
      return (db, { replayed := true, entry := prior })
    | none => do
      reject (pool.state ≠ .active ∨ pool.readOnlyRecovery = true ∨
          grant.expiresAtMs ≤ input.nowMs ∨ input.nowMs < pool.grantRumor.createdAt * 1000)
        (.error "Organizer stock acceptance has ended")
      checkPredecessor P db pool input.authenticatedPubkey input.nowMs
      reject (input.quantity < 1 ∨ pool.quantity - pool.acceptedQuantity < input.quantity)
        (.error "Insufficient entrusted organizer stock")
      let rumor ← createStockAuthorityRumor P (.accepted (input.payload pool)) (input.nowMs / 1000)
      let entry := input.entry pool rumor
      match db.entries.get entry.id with
      | some _ => .error (.error "Key already exists in the object store.")
      | none => do
        reject (∃ e ∈ db.entries.rows, e.Collides entry)
          (.error "A unique index already holds this key.")
        return ({ db with
          entries := db.entries.put entry
          pools := db.pools.put (pool.accepts input.quantity rumor) },
          { replayed := false, entry })

structure OrderAcceptanceInput where
  (authenticatedPubkey orderId identityBinding termsBinding claimRef evidence : Text)
  entries : List PoolLine
  shouldContinue : Bool
  nowMs : Int

variable (input : OrderAcceptanceInput)

def OrderAcceptanceInput.orderPoolBinding : List PoolLine :=
  input.entries.mergeSort fun a b => decide (CheckoutSpark.TextLe a.poolId b.poolId)

def OrderAcceptanceInput.line (entry : PoolLine) : AcceptanceInput where
  authenticatedPubkey := input.authenticatedPubkey
  writerId := entry.writerId
  poolId := entry.poolId
  orderId := input.orderId
  identityBinding := input.identityBinding
  termsBinding := input.termsBinding
  claimRef := input.claimRef
  quantity := entry.quantity
  evidence := input.evidence
  orderPoolBinding := some input.orderPoolBinding
  shouldContinue := input.shouldContinue
  nowMs := input.nowMs

def checkPriorEntries (prior : List Entry) : Result Unit := do
  reject (∃ e ∈ prior, (¬ ∃ candidate ∈ input.entries, candidate.poolId = e.poolId) ∨
      (e.orderPoolBinding ≠ none ∧ e.orderPoolBinding ≠ some input.orderPoolBinding))
    (.error "Organizer order is bound to a different complete pool manifest")
  reject (prior ≠ [] ∧ prior.length ≠ input.entries.length)
    (.error "Partial legacy organizer order needs reconciliation before whole-order replay")
  let accepted ← mapResult (fun e => parseAcceptance P e.rumor
    (.error "Organizer order entry requires reconciliation")) prior
  reject (∃ a ∈ accepted, ∃ b ∈ accepted, a.acceptedAtMs ≠ b.acceptedAtMs)
    (.error "Organizer order acceptance times do not form one atomic decision")

def acceptLines (P : StockPlatform) (input : OrderAcceptanceInput) :
    Journal → List PoolLine → Result (Journal × List Accepted)
  | db, [] => .ok (db, [])
  | db, entry :: entries => do
    let (db, accepted) ← commitOrganizerStockAcceptance P db (input.line entry)
    let (db, results) ← acceptLines P input db entries
    return (db, accepted :: results)

def bindEntry (binding : List PoolLine) (db : Journal) (result : Accepted) : Journal :=
  if result.entry.orderPoolBinding = none then
    { db with entries := db.entries.put { result.entry with orderPoolBinding := some binding } }
  else db

/-- A multi-product order consumes all entrusted pools or none, before sealing. -/
def commitOrganizerStockOrder (db : Journal) (input : OrderAcceptanceInput) : Result Journal := do
  requireJournalTime input.nowMs
  reject (input.shouldContinue = false) sessionChanged
  reject (input.entries = [] ∨
      (∃ entry ∈ input.entries, ¬ IsHex64 entry.poolId ∨ ¬ IsUuidV4 entry.writerId ∨
        entry.quantity < 1 ∨ entry.quantity > 2147483647) ∨
      ¬ (input.entries.map (·.poolId)).Nodup)
    (.error "An exact unique organizer pool is required for every order line")
  checkPriorEntries P input (db.entries.rows.filter fun e =>
    e.accountPubkey = input.authenticatedPubkey ∧ e.orderId = input.orderId)
  let (db, results) ← acceptLines P input db input.entries
  return results.foldl (bindEntry input.orderPoolBinding) db

structure OrganizerCloseInput where
  (authenticatedPubkey writerId poolId : Text)
  shouldContinue : Bool
  nowMs : Int

def Pool.close : StockClose where
  merchantPubkey := pool.merchantPubkey
  organizerPubkey := pool.organizerPubkey
  writerId := pool.writerId
  poolId := pool.poolId
  sequence := pool.acceptedSequence
  lastAcceptedId := pool.lastAcceptedId
  acceptedQuantity := pool.acceptedQuantity

/-- Closing is durable before any seal request and serializes with acceptance. -/
def beginOrganizerStockClose (db : Journal) (input : OrganizerCloseInput) :
    Result (Journal × Rumor) := do
  requireJournalTime input.nowMs
  reject (input.shouldContinue = false) sessionChanged
  match db.pools.get (poolKey input.authenticatedPubkey input.poolId) with
  | none => .error (.error "Organizer stock writer unavailable")
  | some pool => do
    reject (pool.organizerPubkey ≠ input.authenticatedPubkey ∨ pool.writerId ≠ input.writerId)
      (.error "Organizer stock writer unavailable")
    let grant ← assertPool P pool
    assertOrganizerStockWriterCurrent db input.authenticatedPubkey grant.marketCoordinate
      input.writerId
    match pool.closingRumor with
    | some rumor => return (db, rumor)
    | none => do
      reject (pool.state ≠ .active) (.error "Organizer stock pool cannot close")
      reject (input.nowMs < pool.grantRumor.createdAt * 1000)
        (.error "Organizer stock close predates its grant")
      checkPredecessor P db pool input.authenticatedPubkey input.nowMs
      let rumor ← createStockAuthorityRumor P (.closed pool.close) (input.nowMs / 1000)
      return ({ db with
        pools := db.pools.put { pool with state := .closing, closingRumor := some rumor } }, rumor)

structure CloseInput where
  authenticatedPubkey : Text
  closingEnvelope : SignedEvent
  shouldContinue : Bool
  nowMs : Int

structure Frontier where
  previousId : Text
  (previousTime quantity : Int)

def closingFrontier (P : StockPlatform) (account : Text) (grant : StockGrant) (rumor : Rumor)
    (close : StockClose) : Int → Frontier → List Entry → Result Frontier
  | _, frontier, [] => .ok frontier
  | position, frontier, entry :: entries =>
    match entry.receivedEnvelope, entry.imported with
    | some envelope, true =>
      match P.unwrap envelope with
      | none => .error (.error "Private message could not be unwrapped")
      | some original => do
        let failure : Failure := .error "Organizer closing journal is incomplete or conflicting"
        let accepted ← parseAcceptance P original failure
        reject (¬ SameOrganizerStockRumor original entry.rumor ∨ accepted.poolId ≠ close.poolId ∨
            accepted.toStockParties ≠ close.toStockParties ∨ accepted.sequence ≠ position + 1 ∨
            entry.sequence ≠ accepted.sequence ∨ entry.id ≠ entryKey account original.id ∨
            entry.orderId ≠ accepted.orderId ∨ entry.claimRef ≠ accepted.claimRef ∨
            entry.quantity ≠ accepted.quantity ∨ accepted.previousId ≠ frontier.previousId ∨
            accepted.acceptedAtMs < frontier.previousTime ∨
            grant.expiresAtMs ≤ accepted.acceptedAtMs ∨
            rumor.createdAt * 1000 + 999 < accepted.acceptedAtMs)
          failure
        closingFrontier P account grant rumor close (position + 1)
          { previousId := original.id
            previousTime := accepted.acceptedAtMs
            quantity := frontier.quantity + accepted.quantity } entries
    | _, _ => .error (.error "Authenticated imported stock entry unavailable")

def checkAttribution (db : Ledger) (account : Text) (close : StockClose)
    (entry : Entry) : Result Unit :=
  let failure : Failure := .error "Imported order attribution requires reconciliation"
  match db.acceptedOrders.get entry.orderId with
  | none => .error failure
  | some accepted =>
    match P.openEvidence accepted.evidence with
    | none => .error failure
    | some bindings => do
      let payload ← parseAcceptance P entry.rumor failure
      reject (accepted.identityBinding ≠ bindings.identityBinding ∨
          accepted.termsBinding ≠ bindings.termsBinding ∨
          payload.identityBinding ≠ bindings.identityHash ∨
          payload.termsBinding ≠ bindings.termsHash ∨ accepted.merchantPubkey ≠ account ∨
          accepted.evidenceBinding ≠ some entry.evidence ∨
          ¬ ∃ provenance ∈ accepted.organizerImport,
            provenance.organizerPubkey = close.organizerPubkey ∧
            provenance.claimRef = payload.claimRef ∧ ∃ item ∈ provenance.entries,
              item.poolId = close.poolId ∧ item.entryId = entry.rumor.id ∧
              item.writerId = close.writerId ∧ item.quantity = entry.quantity)
        failure

def Assignment.releaseHold (a : Assignment) (hold : OrganizerStockHold) (rumor : Rumor)
    (nowMs : Int) : Assignment :=
  let revision := a.revision + 1
  let released := { a with
    organizerStockHold := some { hold with closed := true }
    revision := revision }
  { released with
    publicationJobs := a.publicationJobs ++ [{ job (rumor.id ++ ":close") revision nowMs with
      assignmentSnapshot := some released.snapshot }] }

def closePool (db : Ledger) (input : CloseInput) (rumor : Rumor) (grant : StockGrant) (pool : Pool)
    (quantity : Int) : Result Ledger := do
  reject (∃ known ∈ pool.closingRumor, ¬ SameOrganizerStockRumor known rumor)
    (.error "Stock close identity conflict")
  if pool.state = .closed then
    reject (pool.closingRumor = none) (.error "Stock close identity conflict")
    return db
  else
    match db.assignments.get grant.assignmentCoordinate with
    | none => .error (.error "Merchant stock hold requires reconciliation")
    | some assignment =>
      match assignment.organizerStockHold with
      | none => .error (.error "Merchant stock hold requires reconciliation")
      | some hold => do
        reject (assignment.merchantPubkey ≠ input.authenticatedPubkey ∨
            hold.poolId ≠ pool.poolId ∨ hold.quantity ≠ grant.quantity ∨
            hold.importedQuantity ≠ quantity ∨ hold.closed = true)
          (.error "Merchant stock hold requires reconciliation")
        let _ ← outstandingOrganizerStockHold assignment
        return { db with
          assignments := db.assignments.put (assignment.releaseHold hold rumor input.nowMs)
          pools := db.pools.put { pool with
            state := .closed
            closingRumor := some rumor
            receivedClosingEnvelope := some input.closingEnvelope } }

def reconcileMerchantOrganizerStockClose (db : Ledger) (input : CloseInput) : Result Ledger := do
  let account := input.authenticatedPubkey
  reject (input.shouldContinue = false) (.error "Organizer stock import session changed")
  match P.unwrap input.closingEnvelope with
  | none => .error (.error "Private message could not be unwrapped")
  | some rumor =>
    match ← parseStockAuthorityRumor P rumor with
    | .closed close => do
      reject (close.merchantPubkey ≠ account)
        (.error "Authenticated organizer closing frontier required")
      match db.pools.get (poolKey account close.poolId) with
      | none => .error (.error "Merchant stock pool unavailable")
      | some pool => do
        let grant ← validateMerchantOrganizerStockPool P pool account
        reject (close.organizerPubkey ≠ grant.organizerPubkey ∨ close.writerId ≠ grant.writerId ∨
            rumor.createdAt < pool.grantRumor.createdAt)
          (.error "Organizer close does not match the stock writer")
        let saved := (db.entries.rows.filter fun e =>
          e.accountPubkey = account ∧ e.poolId = close.poolId).mergeSort
            fun a b => decide (a.sequence ≤ b.sequence)
        reject ((saved.length : Int) ≠ close.sequence)
          (.error "Import every organizer acceptance before closing")
        let frontier ← closingFrontier P account grant rumor close 0
          { previousId := close.poolId
            previousTime := pool.grantRumor.createdAt * 1000
            quantity := 0 } saved
        let quantity := frontier.quantity
        reject (quantity ≠ close.acceptedQuantity ∨ quantity > grant.quantity ∨
            frontier.previousId ≠ close.lastAcceptedId ∨ pool.importedSequence ≠ close.sequence ∨
            pool.importedQuantity ≠ quantity ∨ pool.lastImportedId ≠ frontier.previousId ∨
            pool.acceptedSequence ≠ close.sequence ∨ pool.acceptedQuantity ≠ quantity ∨
            pool.lastAcceptedId ≠ frontier.previousId)
          (.error "Organizer close does not match the imported frontier")
        reject (¬ IsTime input.nowMs) (.error "Invalid stock closing time")
        reject (rumor.createdAt * 1000 > input.nowMs) (.error "Organizer close is future dated")
        let _ ← mapResult (checkAttribution P db account close) saved
        closePool db input rumor grant pool quantity
    | _ => .error (.error "Authenticated organizer closing frontier required")

end Conduit.Stock
