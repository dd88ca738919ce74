import Conduit.Stock.Journal

namespace Conduit.Stock

open Js Throwing

inductive ProjectionState where
  | active
  | closed
  deriving DecidableEq

structure AssignmentStockPool where
  state : ProjectionState
  poolId : Text
  organizerPubkey : Text
  (quantity importedQuantity : Int)
  deriving DecidableEq

inductive StockPoolStatus where
  | absent
  | invalid
  | valid (pool : AssignmentStockPool)
  deriving DecidableEq

structure ParsedAssignment where
  (marketCoordinate occurrenceCoordinate productCoordinate coordinate eventId : Text)
  createdAt : Int
  (organizerPubkey merchantPubkey : Text)
  state : AssignmentState
  inventory : Inventory
  fulfillmentMethods : List Method
  previousEventId : Option Text
  stockPool : StockPoolStatus
  deriving DecidableEq

def oneTag (tags : List (List Text)) (name : Text) (items : Nat) : Option (List Text) :=
  match tagsNamed tags name with
  | [tag] => if tag.length = items then some tag else none
  | _ => none

/-- `/^(0|[1-9][0-9]*)$/`. -/
def IsDecimal (s : Text) : Prop :=
  s ≠ [] ∧ s.all CheckoutSpark.isDigitChar = true ∧ (s.head? = some '0' → s = ['0'])
  deriving Decidable

/-- `/^[1-9][0-9]*$/`. -/
def IsPositiveDecimal (s : Text) : Prop := IsDecimal s ∧ s ≠ ['0']
  deriving Decidable

variable (P : StockPlatform)

def parseCanonicalCoordinate (value : Text) (kinds : List Nat) :
    Option CheckoutSpark.AddressableCoordinate :=
  (CheckoutSpark.parseAddressableCoordinate P.toPlatform value kinds).filter
    fun c => c.coordinate = value

def ValidRelayHint (hint : Option Text) : Prop :=
  ∀ value ∈ hint, value ≠ [] ∧ trim value = value ∧ P.isRelayHint value = true
  deriving Decidable

structure AssignmentTuple where
  (market occurrence product : CheckoutSpark.AddressableCoordinate)

def oneReference (references : List Text) (starts : List Text) : Option Text :=
  match references.filter fun reference => starts.any fun start => startsWith reference start with
  | [reference] => some reference
  | _ => none

def parseTuple (addressTags : List (List Text)) : Option AssignmentTuple := do
  guard (addressTags.length = 3 ∧ ∀ tag ∈ addressTags, (tag.length = 2 ∨ tag.length = 3) ∧
    ValidRelayHint P tag[2]?)
  let references := addressTags.map fun tag => (tag[1]?).getD []
  let market ← oneReference references ["30409:"]
  let occurrence ← oneReference references ["31922:", "31923:"]
  let product ← oneReference references ["30402:"]
  let market ← parseCanonicalCoordinate P market [30409]
  let occurrence ← parseCanonicalCoordinate P occurrence [31922, 31923]
  let product ← parseCanonicalCoordinate P product [30402]
  guard (market.authorPubkey = occurrence.authorPubkey)
  return { market, occurrence, product }

def parseAssignmentState (tag : List Text) : Option AssignmentState :=
  if tag[1]? = some "active".toList then some .active
  else if tag[1]? = some "removed".toList then some .removed
  else none

def parseInventory : List Text → Option Inventory
  | [_, mode] => if mode = "untracked" then some .untracked else none
  | [_, mode, quantity] =>
    if mode = "tracked" ∧ IsDecimal quantity ∧
        (CheckoutSpark.digitsValue quantity : Int) ≤ maxStock then
      some (.tracked (CheckoutSpark.digitsValue quantity))
    else none
  | _ => none

def parseMethod (text : Text) : Option Method :=
  if text = "pickup" then some .pickup
  else if text = "shipping" then some .shipping
  else if text = "digital" then some .digital
  else none

def ValidFulfillment (methods : List Method) (state : AssignmentState) (inventory : Inventory) :
    Prop :=
  methods.Nodup ∧
    match state with
    | .removed => methods = [] ∧ inventory.quantity = 0
    | .active => methods ≠ [] ∧ (inventory.quantity = 0 ∨ .pickup ∈ methods)

instance (methods : List Method) (state : AssignmentState) (inventory : Inventory) :
    Decidable (ValidFulfillment methods state inventory) := by
  unfold ValidFulfillment; cases state <;> infer_instance

def parseFulfillment (tags : List (List Text)) : Option (List Method) := do
  guard (∀ tag ∈ tags, tag.length = 2)
  tags.mapM fun tag => parseMethod ((tag[1]?).getD [])

def parsePrevious (eventId : Text) : List (List Text) → Option (Option Text)
  | [] => some none
  | [[_, previous]] => if IsHex64 previous ∧ previous ≠ eventId then some (some previous) else none
  | _ => none

def ValidOrganizerStockPool (pool : AssignmentStockPool) (organizerPubkey : Text)
    (inventory : Inventory) : Prop :=
  inventory.IsTracked ∧ IsHex64 pool.poolId ∧ IsHex64 pool.organizerPubkey ∧
    pool.organizerPubkey = organizerPubkey ∧ 0 < pool.quantity ∧ pool.quantity ≤ maxStock ∧
    0 ≤ pool.importedQuantity ∧ pool.importedQuantity ≤ pool.quantity
  deriving Decidable

def parseOrganizerStockPool (tags : List (List Text)) (organizerPubkey : Text)
    (inventory : Inventory) : StockPoolStatus :=
  match tagsNamed tags "conduit_stock_pool" with
  | [] => .absent
  | [[_, version, state, poolId, poolOrganizer, quantity, imported]] =>
    let pool : AssignmentStockPool :=
      { state := if state = "active" then .active else .closed
        poolId := poolId
        organizerPubkey := poolOrganizer
        quantity := CheckoutSpark.digitsValue quantity
        importedQuantity := CheckoutSpark.digitsValue imported }
    if version = "1" ∧ (state = "active" ∨ state = "closed") ∧ IsPositiveDecimal quantity ∧
        IsDecimal imported ∧ ValidOrganizerStockPool pool organizerPubkey inventory then
      .valid pool
    else .invalid
  | _ => .invalid

def parseEventMarketAssignmentEvent (event : SignedEvent) : Option ParsedAssignment := do
  guard (event.kind = 30410 ∧ event.content = [] ∧ P.isValidSignedEvent event = true ∧
    P.eventBytes event ≤ 65536)
  let d ← oneTag event.tags "d" 2
  let dTag ← d[1]?
  guard (IsHex64 dTag)
  let marker ← oneTag event.tags "openmarkets" 3
  guard (marker[1]? = some "event-market-assignment".toList ∧ marker[2]? = some "1".toList)
  let alt ← oneTag event.tags "alt" 2
  guard (alt[1]? = some "Open Markets occurrence product assignment".toList)
  let state ← (oneTag event.tags "state" 2).bind parseAssignmentState
  let previousEventId ← parsePrevious event.id (tagsNamed event.tags "prev")
  let tuple ← parseTuple P (tagsNamed event.tags "a")
  guard (tuple.product.authorPubkey = event.pubkey ∧
    CheckoutSpark.computeEventMarketAssignmentDTag P.toPlatform tuple.market.coordinate
      tuple.occurrence.coordinate tuple.product.coordinate = dTag)
  let inventoryTag ← match tagsNamed event.tags "inventory" with
    | [tag] => some tag
    | _ => none
  let inventory ← parseInventory inventoryTag
  let methods ← parseFulfillment (tagsNamed event.tags "fulfillment")
  guard (ValidFulfillment methods state inventory)
  return {
    marketCoordinate := tuple.market.coordinate
    occurrenceCoordinate := tuple.occurrence.coordinate
    productCoordinate := tuple.product.coordinate
    coordinate := ("30410:" : Text) ++ event.pubkey ++ ":" ++ dTag
    eventId := event.id
    createdAt := event.createdAt
    organizerPubkey := tuple.market.authorPubkey
    merchantPubkey := event.pubkey
    state := state
    inventory := inventory
    fulfillmentMethods := methods
    previousEventId := previousEventId
    stockPool := parseOrganizerStockPool event.tags tuple.market.authorPubkey inventory }

structure OriginalFrontier extends Frontier where
  importedId : Text
  importedQuantity : Int

/-- The entries after `position` extend the original journal. -/
def originalFrontier (P : StockPlatform) (pool : Pool) (grant : StockGrant) (closingRumor : Rumor) :
    Int → OriginalFrontier → List Entry → Result OriginalFrontier
  | _, frontier, [] => .ok frontier
  | position, frontier, entry :: entries => do
    let failure : Failure := .error "An organizer writer already holds this assignment"
    let accepted ← parseAcceptance P entry.rumor failure
    reject (entry.id ≠ entryKey pool.accountPubkey entry.rumor.id ∨
        entry.accountPubkey ≠ pool.accountPubkey ∨ entry.poolId ≠ pool.poolId ∨
        entry.sequence ≠ position + 1 ∨ accepted.sequence ≠ entry.sequence ∨
        accepted.poolId ≠ pool.poolId ∨ accepted.toStockParties ≠ grant.toStockParties ∨
        accepted.orderId ≠ entry.orderId ∨ accepted.claimRef ≠ entry.claimRef ∨
        accepted.quantity ≠ entry.quantity ∨ accepted.previousId ≠ frontier.previousId ∨
        accepted.acceptedAtMs < frontier.previousTime ∨
        grant.expiresAtMs ≤ accepted.acceptedAtMs ∨
        closingRumor.createdAt * 1000 + 999 < accepted.acceptedAtMs)
      failure
    let extended : OriginalFrontier :=
      { previousId := entry.rumor.id
        previousTime := accepted.acceptedAtMs
        quantity := frontier.quantity + accepted.quantity
        importedId := if entry.sequence ≤ pool.importedSequence then entry.rumor.id
          else frontier.importedId
        importedQuantity := if entry.sequence ≤ pool.importedSequence then
            frontier.importedQuantity + accepted.quantity
          else frontier.importedQuantity }
    originalFrontier P pool grant closingRumor (position + 1) extended entries

variable (assignment : ParsedAssignment)

def ParsedAssignment.Closes (grant : StockGrant) (poolId : Text) : Prop :=
  assignment.coordinate = grant.assignmentCoordinate ∧
    match assignment.stockPool with
    | .valid projected => projected.state = .closed ∧ projected.poolId = poolId
    | _ => False

instance (assignment : ParsedAssignment) (grant : StockGrant) (poolId : Text) :
    Decidable (assignment.Closes grant poolId) := by
  unfold ParsedAssignment.Closes; split <;> infer_instance

def ParsedAssignment.ClosesExactly (grant : StockGrant)
    (closing : StockClose) (closedAt nowMs : Int) : Prop :=
  assignment.merchantPubkey = grant.merchantPubkey ∧
    assignment.organizerPubkey = grant.organizerPubkey ∧
    assignment.marketCoordinate = grant.marketCoordinate ∧
    assignment.occurrenceCoordinate = grant.occurrenceCoordinate ∧
    assignment.productCoordinate = grant.productCoordinate ∧ closedAt ≤ assignment.createdAt ∧
    assignment.createdAt * 1000 ≤ nowMs ∧
    match assignment.stockPool with
    | .valid projected => projected.organizerPubkey = grant.organizerPubkey ∧
        projected.quantity = grant.quantity ∧
        projected.importedQuantity = closing.acceptedQuantity
    | _ => False

instance (assignment : ParsedAssignment) (grant : StockGrant) (closing : StockClose)
    (closedAt nowMs : Int) : Decidable (assignment.ClosesExactly grant closing closedAt nowMs) := by
  unfold ParsedAssignment.ClosesExactly
  cases assignment.stockPool <;> infer_instance

def Pool.Precedes (pool : Pool) (grant nextGrant : StockGrant) : Prop :=
  pool.state = .closing ∧ pool.readOnlyRecovery = false ∧
    pool.accountPubkey = nextGrant.organizerPubkey ∧
    pool.organizerPubkey = nextGrant.organizerPubkey ∧
    pool.merchantPubkey = nextGrant.merchantPubkey ∧ pool.writerId = nextGrant.writerId ∧
    grant.marketCoordinate = nextGrant.marketCoordinate ∧
    grant.occurrenceCoordinate = nextGrant.occurrenceCoordinate ∧
    grant.assignmentCoordinate = nextGrant.assignmentCoordinate ∧
    grant.productCoordinate = nextGrant.productCoordinate
  deriving Decidable

def StockClose.States (close : StockClose) (pool : Pool) (grant : StockGrant) (closingRumor : Rumor)
    (nowMs : Int) : Prop :=
  close.poolId = pool.poolId ∧ close.toStockParties = grant.toStockParties ∧
    close.sequence = pool.acceptedSequence ∧ close.acceptedQuantity = pool.acceptedQuantity ∧
    close.lastAcceptedId = pool.lastAcceptedId ∧
    pool.grantRumor.createdAt ≤ closingRumor.createdAt ∧ closingRumor.createdAt * 1000 ≤ nowMs
  deriving Decidable

def reconcileOriginalOrganizerStockClose (pool : Pool) (entries : List Entry)
    (nextGrant : StockGrant) (closedAssignmentEvents : List SignedEvent) (nowMs : Int) :
    Result Pool := do
  let failure : Failure := .error "An organizer writer already holds this assignment"
  let grant ← assertPool P pool
  reject (¬ pool.Precedes grant nextGrant) failure
  match pool.closingRumor with
  | none => .error failure
  | some closingRumor =>
    match ← parseStockAuthorityRumor P closingRumor with
    | .closed closing => do
      reject (¬ closing.States pool grant closingRumor nowMs) failure
      let projections := (closedAssignmentEvents.filterMap
        (parseEventMarketAssignmentEvent P)).filter fun a => a.Closes grant pool.poolId
      reject (projections = [] ∨
        ∃ a ∈ projections, ¬ a.ClosesExactly grant closing closingRumor.createdAt nowMs) failure
      let entries := entries.mergeSort fun a b => decide (a.sequence ≤ b.sequence)
      reject ((entries.length : Int) ≠ closing.sequence) failure
      let frontier ← originalFrontier P pool grant closingRumor 0
        { previousId := pool.poolId
          previousTime := pool.grantRumor.createdAt * 1000
          quantity := 0
          importedId := pool.poolId
          importedQuantity := 0 } entries
      reject (frontier.quantity ≠ closing.acceptedQuantity ∨
          frontier.previousId ≠ closing.lastAcceptedId ∨
          frontier.importedQuantity ≠ pool.importedQuantity ∨
          frontier.importedId ≠ pool.lastImportedId)
        failure
      return { pool with
        state := .closed
        importedQuantity := frontier.quantity
        importedSequence := closing.sequence
        lastImportedId := frontier.previousId }
    | _ => .error failure

structure WriterRegistration where
  deviceId : Text
  generation : Int
  installedPoolIds : List Text
  transferId : Option Text
  deriving DecidableEq

def Writer.registration (row : Writer) : WriterRegistration where
  deviceId := row.deviceId
  generation := row.generation
  installedPoolIds := row.installedPoolIds
  transferId := row.transferId

structure InstallInput where
  (authenticatedPubkey writerId : Text)
  grantRumor : Rumor
  committedAssignmentEvent : SignedEvent
  closedAssignmentEvents : List SignedEvent
  expectedWriterRegistration : Option WriterRegistration
  shouldContinue : Bool
  nowMs : Int

/-- The merchant's public commitment entrusts exactly this grant. -/
def ParsedAssignment.CommitsTo (rumor : Rumor) (grant : StockGrant) (nowMs : Int) : Prop :=
  assignment.coordinate = grant.assignmentCoordinate ∧
    assignment.productCoordinate = grant.productCoordinate ∧
    assignment.marketCoordinate = grant.marketCoordinate ∧
    assignment.occurrenceCoordinate = grant.occurrenceCoordinate ∧
    assignment.previousEventId = some grant.assignmentEventId ∧ assignment.state = .active ∧
    assignment.inventory.IsTracked ∧ grant.quantity ≤ assignment.inventory.quantity ∧
    rumor.createdAt ≤ assignment.createdAt ∧ assignment.createdAt * 1000 ≤ nowMs ∧
    match assignment.stockPool with
    | .valid pool => pool.state = .active ∧ pool.poolId = rumor.id ∧
        pool.organizerPubkey = grant.organizerPubkey ∧ pool.quantity = grant.quantity ∧
        pool.importedQuantity = 0
    | _ => False

instance (assignment : ParsedAssignment) (rumor : Rumor) (grant : StockGrant) (nowMs : Int) :
    Decidable (assignment.CommitsTo rumor grant nowMs) := by
  unfold ParsedAssignment.CommitsTo
  cases assignment.stockPool <;> infer_instance

variable (db : Journal)

variable (input : InstallInput)

def checkInstalledPools (grant : StockGrant) (registration : Writer) : Result Unit := do
  let missingJournal : Failure :=
    .error "The original stock journal is missing; recover it before continuing."
  reject (¬ registration.installedPoolIds.Nodup ∨
    ∃ poolId ∈ registration.installedPoolIds, ¬ IsHex64 poolId) missingJournal
  let _ ← mapResult (fun poolId =>
    match db.pools.get (poolKey input.authenticatedPubkey poolId) with
    | none => .error missingJournal
    | some saved => do
      reject (saved.poolId ≠ poolId ∨ saved.accountPubkey ≠ input.authenticatedPubkey ∨
        saved.organizerPubkey ≠ input.authenticatedPubkey ∨ saved.writerId ≠ input.writerId ∨
        saved.readOnlyRecovery = true) missingJournal
      let savedGrant ← assertPool P saved
      reject (savedGrant.marketCoordinate ≠ grant.marketCoordinate) missingJournal)
    registration.installedPoolIds

def checkRegistration (grant : StockGrant) (registration : Option Writer) : Result Unit := do
  reject (∃ expected ∈ input.expectedWriterRegistration,
      registration.map Writer.registration ≠ some expected)
    (.error "The verified stock writer registration changed.")
  match registration with
  | none => .ok ()
  | some row => checkInstalledPools P db input grant row

def closeOverlapping (grant : StockGrant) (db : Journal) (previous : Pool) : Result Journal :=
  if previous.state = .closed then .ok db
  else do
    let closed ← reconcileOriginalOrganizerStockClose P previous (db.entries.rows.filter fun e =>
        e.accountPubkey = input.authenticatedPubkey ∧ e.poolId = previous.poolId)
      grant input.closedAssignmentEvents input.nowMs
    return { db with pools := db.pools.put closed }

def Writer.install (row : Writer) (poolId : Text) : Writer :=
  { row with
    installedPoolIds := if poolId ∈ row.installedPoolIds then row.installedPoolIds
      else row.installedPoolIds ++ [poolId] }

def installPool (grant : StockGrant) (registration : Option Writer) : Result Journal := do
  reject (∃ row ∈ registration, input.grantRumor.id ∈ row.installedPoolIds)
    (.error "The original stock journal is missing; recover it before continuing.")
  let overlapping := db.pools.rows.filter fun pool =>
    pool.accountPubkey = grant.organizerPubkey ∧
      pool.assignmentCoordinate = grant.assignmentCoordinate
  let db ← foldResult (closeOverlapping P input grant) db overlapping
  let pools := db.pools.put (newPool grant.organizerPubkey input.grantRumor grant .active)
  match registration with
  | none => return { db with pools := pools }
  | some row =>
    return { db with pools := pools, writers := db.writers.put (row.install input.grantRumor.id) }

def installOrganizerStockHandover : Result Journal := do
  let rumor := input.grantRumor
  let grant ← readGrant P rumor
  requireJournalTime input.nowMs
  reject (input.shouldContinue = false) sessionChanged
  reject (input.authenticatedPubkey ≠ grant.organizerPubkey ∨ input.writerId ≠ grant.writerId ∨
      input.nowMs < rumor.createdAt * 1000 ∨ grant.expiresAtMs ≤ input.nowMs ∨
      ¬ ∃ assignment ∈ parseEventMarketAssignmentEvent P input.committedAssignmentEvent,
        assignment.CommitsTo rumor grant input.nowMs)
    (.error "Organizer stock handover does not match its commitment")
  assertOrganizerStockWriterCurrent db input.authenticatedPubkey grant.marketCoordinate
    input.writerId
  let registration := db.writers.get
    (organizerStockWriterKey input.authenticatedPubkey grant.marketCoordinate)
  checkRegistration P db input grant registration
  match db.pools.get (poolKey grant.organizerPubkey rumor.id) with
  | some prior => do
    let _ ← assertPool P prior
    reject (¬ SameOrganizerStockRumor prior.grantRumor rumor)
      (.error "Stock grant identity conflict")
    return db
  | none => installPool P db input grant registration

end Conduit.Stock
