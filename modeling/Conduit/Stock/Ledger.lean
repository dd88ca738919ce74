import Conduit.Stock.Authority

namespace Conduit.Stock

open Js Throwing

inductive PoolState where
  | prepared
  | active
  | closing
  | closed
  deriving DecidableEq

/-- Durable, account-scoped private stock authority. -/
structure Pool where
  (id accountPubkey poolId merchantPubkey organizerPubkey writerId assignmentCoordinate : Text)
  productCoordinate : Text
  grantRumor : Rumor
  (quantity acceptedQuantity acceptedSequence : Int)
  lastAcceptedId : Text
  (importedQuantity importedSequence : Int)
  lastImportedId : Text
  state : PoolState
  closingRumor : Option Rumor
  receivedClosingEnvelope : Option SignedEvent
  readOnlyRecovery : Bool
  receivedEnvelope : Option SignedEvent := none
  deriving DecidableEq

structure PoolLine where
  (poolId writerId : Text)
  quantity : Int
  deriving DecidableEq

/-- The envelopes of one private message, for its recipient and for its sender. -/
structure Wraps where
  (recipient self : SignedEvent)
  deriving DecidableEq

/-- Authenticated whole-order handout, independent of stock import and payment. -/
structure Handout where
  rumor : Rumor
  wraps : Option Wraps
  receivedEnvelope : Option SignedEvent
  deriving DecidableEq

structure Entry where
  (id accountPubkey poolId : Text)
  sequence : Int
  (orderId claimRef : Text)
  rumor : Rumor
  quantity : Int
  evidence : Text
  orderPoolBinding : Option (List PoolLine)
  receivedEnvelope : Option SignedEvent
  imported : Bool
  handout : Option Handout := none
  deriving DecidableEq

structure AcceptedItem where
  productCoordinate : Text
  assignmentCoordinate : Option Text
  method : Method
  quantity : Int
  (remainingStock remainingAllocation : Option Int)

structure AttributedEntry where
  (poolId entryId writerId : Text)
  quantity : Int
  deriving DecidableEq

/-- Authenticated delegated stock provenance, not payment or handout proof. -/
structure Attribution where
  (originalOrderRumorId organizerPubkey claimRef : Text)
  entries : List AttributedEntry
  deriving DecidableEq

structure AcceptedOrder where
  (orderId merchantPubkey identityBinding termsBinding : Text)
  evidence : Text
  /-- `evidenceFormat === "device-encrypted-v1"`. -/
  deviceEncrypted : Bool
  evidenceBinding : Option Text
  items : List AcceptedItem
  acceptedAt : Int
  organizerImport : Option Attribution

/-- A stock decision for an order, made before the acceptance writer existed. -/
structure StockAdjustment where
  productCoordinate : Text
  (quantity shortfall : Int)
  /-- `targetMode === "custom"`. -/
  custom : Bool

structure StockCheckpoint where
  (merchantPubkey orderId : Text)
  adjustment : StockAdjustment
  /-- `state === "applied"`. -/
  applied : Bool

structure Ledger where
  products : Table Product Product.coordinate
  assignments : Table Assignment Assignment.coordinate
  acceptedOrders : Table AcceptedOrder AcceptedOrder.orderId
  stockCheckpoints : List StockCheckpoint
  pools : Table Pool Pool.id
  entries : Table Entry Entry.id
  evidence : Text → List SignedEvent

def Ledger.empty : Ledger where
  products := .empty
  assignments := .empty
  acceptedOrders := .empty
  stockCheckpoints := []
  pools := .empty
  entries := .empty
  evidence _ := []

/-- `listMerchantInventoryAssignments`. -/
def Ledger.assignmentsOf (db : Ledger) (productCoordinate : Text) : List Assignment :=
  db.assignments.rows.filter fun a => a.productCoordinate = productCoordinate

structure CoordinateParts where
  kind : Int
  (pubkey d : Text)

variable (P : StockPlatform)

def coordinateParts (value : Text) : Result CoordinateParts :=
  match split ':' value with
  | kindText :: pubkey :: part :: parts =>
    let d := List.intercalate [':'] (part :: parts)
    match P.integerOf kindText with
    | some kind =>
      if kindText ≠ [] ∧ IsHex64 pubkey ∧ d ≠ [] then
        .ok { kind, pubkey, d }
      else .error (.error "Invalid coordinate")
    | none => .error (.error "Invalid coordinate")
  | _ => .error (.error "Invalid coordinate")

def tagsNamed (tags : List (List Text)) (name : Text) : List (List Text) :=
  tags.filter fun tag => tag[0]? = some name

/-- `tags.find((tag) => tag[0] === name)?.[1]`. -/
def tagValue (tags : List (List Text)) (name : Text) : Option Text :=
  (tags.find? fun tag => tag[0]? = some name).bind fun tag => tag[1]?

variable (event : SignedEvent)

def IsExactSource (parts : CoordinateParts) : Prop :=
  P.isValidSignedEvent event = true ∧ event.kind = parts.kind ∧ event.pubkey = parts.pubkey ∧
    (tagsNamed event.tags "d").length = 1 ∧ tagValue event.tags "d" = some parts.d
  deriving Decidable

variable (stock : Option Int)

def StockTagMatches : Prop :=
  match stock with
  | none => tagsNamed event.tags "stock" = []
  | some n => tagsNamed event.tags "stock" = [["stock".toList, numberText n]]

instance (event : SignedEvent) (stock : Option Int) : Decidable (StockTagMatches event stock) := by
  unfold StockTagMatches; split <;> infer_instance

def IsSellable : Prop :=
  match tagsNamed event.tags "type" with
  | [] => True
  | [tag] => ∃ type ∈ tag[1]?, type = ("simple" : Text) ∨ type = ("variation" : Text)
  | _ => False

instance (event : SignedEvent) : Decidable (IsSellable event) := by
  unfold IsSellable; split <;> infer_instance

structure InitializeInput where
  (productCoordinate merchantPubkey : Text)
  stock : Option Int
  signedProductEvent : SignedEvent

/-- Insert only. -/
def initializeMerchantInventoryProduct (db : Ledger) (input : InitializeInput) : Result Ledger := do
  let _ ← optionResult (fun stock => requireStock stock "stock") input.stock
  let parts ← coordinateParts P input.productCoordinate
  reject (parts.kind ≠ 30402 ∨ parts.pubkey ≠ input.merchantPubkey ∨
      ¬ IsExactSource P input.signedProductEvent parts)
    (.error "Product source does not match the merchant coordinate")
  reject (¬ StockTagMatches input.signedProductEvent input.stock)
    (.error "Committed stock must match the exact signed product")
  reject (¬ IsSellable input.signedProductEvent)
    (.error "Only sellable products have inventory")
  match db.products.get input.productCoordinate with
  | some _ => return db
  | none =>
    return { db with
      products := db.products.put {
        coordinate := input.productCoordinate
        merchantPubkey := input.merchantPubkey
        stock := input.stock
        revision := 0
        sourceProductEvent := input.signedProductEvent
        signedProductEvent := input.signedProductEvent
        publicationJobs := [] } }

structure StockEditInput where
  productCoordinate : Text
  expectedRevision : Int
  stock : Option Int
  mutationId : Text
  nowMs : Int

def Product.edited (product : Product) (input : StockEditInput) : Product :=
  { product with
    stock := input.stock
    revision := product.revision + 1
    publicationJobs := product.publicationJobs ++ [{ job input.mutationId (product.revision + 1)
      input.nowMs with productStock := input.stock }] }

def Assignment.NeedsReconciliation (a : Assignment) (held : Int) : Prop :=
  (stock = none ∧ held > 0) ∨ (a.state = .active ∧ ¬ ((a.inventory = .untracked) ↔ stock = none))
  deriving Decidable

/-- `outstandingOrganizerStockHold` is called only where the stock becomes untracked. -/
def heldForEdit (a : Assignment) : Result Int :=
  if stock = none then outstandingOrganizerStockHold a else .ok 0

/-- `assignments.some(f)` for a callback that may throw. -/
def someResult {α : Type} (f : α → Result Bool) : List α → Result Bool
  | [] => .ok false
  | a :: l => do
    if ← f a then return true
    else someResult f l

def commitMerchantInventoryStockEdit (db : Ledger) (input : StockEditInput) : Result Ledger := do
  let _ ← optionResult (fun stock => requireStock stock "stock") input.stock
  reject (input.mutationId = [] ∨ ¬ IsSafeInteger input.nowMs) (.error "Invalid stock edit")
  match db.products.get input.productCoordinate with
  | none => .error (.error "Product inventory is not initialized")
  | some product =>
    match product.publicationJobs.find? (fun work => work.id = input.mutationId) with
    | some prior => do
      reject (prior.productStock ≠ input.stock)
        (.error "Stock mutation ID is bound to different stock")
      return db
    | none => do
      reject (product.revision ≠ input.expectedRevision) (.error "Stale product stock edit")
      let assignments := db.assignmentsOf input.productCoordinate
      let mismatch ← someResult (fun a => do
        let held ← heldForEdit input.stock a
        return decide (a.NeedsReconciliation input.stock held)) assignments
      reject (mismatch = true) (.error "Tracking mode requires assignment reconciliation")
      let reserved ← reservedAllocation assignments input.nowMs
      reject (∃ stock ∈ input.stock, stock < reserved)
        (.error "Edited stock is below current allocations")
      return { db with products := db.products.put (product.edited input) }

structure Availability where
  product : Product
  assignments : List Assignment
  ordinaryAvailable : Option Int
  deriving DecidableEq

/-- Current local stock math; an intact writer never waits for relay agreement. -/
def readMerchantInventoryAvailability (db : Ledger) (productCoordinate : Text) (nowMs : Int) :
    Result Availability :=
  match db.products.get productCoordinate with
  | none => .error (.error "Product inventory is not initialized")
  | some product =>
    let assignments := db.assignmentsOf productCoordinate
    match product.stock with
    | none => do
      let mismatch ← someResult (fun a => do
        let held ← outstandingOrganizerStockHold a
        return decide (held > 0 ∨ (a.inventory ≠ .untracked ∧ a.state = .active))) assignments
      reject (mismatch = true) (.error "Inventory tracking mismatch")
      return { product, assignments, ordinaryAvailable := none }
    | some stock => do
      reject (∃ a ∈ assignments, ¬ a.inventory.IsTracked ∧ a.state = .active)
        (.error "Inventory tracking mismatch")
      let reserved ← reservedAllocation assignments nowMs
      reject (reserved > stock) (.error "Committed allocations exceed stock")
      return {
        product := product
        assignments := assignments
        ordinaryAvailable := some (stock - reserved) }

structure AssignmentContext where
  (productEventId marketEventId occurrenceEventId : Text)
  scheduleEventId : Option Text
  grantEventId : Text
  occurrenceEndMs : Int
  terminal : Bool

def AssignmentContext.ids (c : AssignmentContext) : List Text :=
  ([c.productEventId, c.marketEventId, c.occurrenceEventId, c.grantEventId,
    c.scheduleEventId.getD []]).filter fun id => id ≠ []

structure AssignmentInput where
  (productCoordinate assignmentCoordinate marketCoordinate occurrenceCoordinate : Text)
  inventory : Inventory
  state : AssignmentState
  fulfillmentMethods : List Method
  /-- Absent in the context of a removal. -/
  context : Option AssignmentContext
  expectedRevision : Option Int
  mutationId : Text
  nowMs : Int

variable (input : AssignmentInput)

def checkAssignmentContext : Result Unit :=
  match input.context with
  | none =>
    reject (input.state ≠ .removed) (.error "Removal context cannot activate an assignment")
  | some context => do
    reject (¬ IsSafeInteger context.occurrenceEndMs ∨ context.occurrenceEndMs ≤ 0)
      (.error "Invalid occurrence end")
    reject (∃ id ∈ context.ids, ¬ IsHex64 id) (.error "Invalid assignment evidence")

/-- `parseTuple` accepts the coordinates. -/
def IsAssignmentTuple (marketCoordinate occurrenceCoordinate productCoordinate :
    Text) : Prop :=
  ∃ market ∈ CheckoutSpark.parseAddressableCoordinate P.toPlatform marketCoordinate [30409],
    market.coordinate = marketCoordinate ∧ CheckoutSpark.IsCanonicalCoordinate P.toPlatform
      occurrenceCoordinate [31922, 31923] market.authorPubkey ∧
    ∃ product ∈ CheckoutSpark.parseAddressableCoordinate P.toPlatform productCoordinate [30402],
      product.coordinate = productCoordinate
  deriving Decidable

def checkAllocation : Inventory → Result Unit
  | .tracked quantity => requireStock quantity "allocation"
  | .untracked => .ok ()

def checkAssignmentInput : Result Unit := do
  reject (input.mutationId = [] ∨ ¬ IsSafeInteger input.nowMs) (.error "Invalid assignment context")
  checkAssignmentContext input
  let product ← coordinateParts P input.productCoordinate
  let assignment ← coordinateParts P input.assignmentCoordinate
  reject (product.kind ≠ 30402 ∨ assignment.kind ≠ 30410 ∨ product.pubkey ≠ assignment.pubkey)
    (.error "Assignment tuple mismatch")
  reject (¬ IsAssignmentTuple P input.marketCoordinate input.occurrenceCoordinate
      input.productCoordinate)
    (.error "Invalid occurrence assignment tuple.")
  reject (assignment.d ≠ CheckoutSpark.computeEventMarketAssignmentDTag P.toPlatform
        input.marketCoordinate input.occurrenceCoordinate input.productCoordinate)
    (.error "Assignment tuple mismatch")
  checkAllocation input.inventory
  reject (input.state = .removed ∧ (input.fulfillmentMethods ≠ [] ∨ input.inventory.quantity ≠ 0))
    (.error "Removed assignment must release its unused allocation")
  reject (input.state = .active ∧ input.fulfillmentMethods = [])
    (.error "Active assignment requires fulfillment")
  reject (¬ input.fulfillmentMethods.Nodup ∨ .ordinary ∈ input.fulfillmentMethods)
    (.error "Invalid fulfillment methods")
  reject (input.state = .active ∧ 0 < input.inventory.quantity ∧
      .pickup ∉ input.fulfillmentMethods)
    (.error "Positive allocation requires pickup")

def AssignmentInput.assignment (product : Product)
    (existing : Option Assignment) (occurrenceEndMs : Int) (terminal : Bool) : Assignment :=
  let revision := (existing.map (·.revision)).getD 0 + 1
  let organizerStockHold := existing.bind (·.organizerStockHold)
  { coordinate := input.assignmentCoordinate
    merchantPubkey := product.merchantPubkey
    productCoordinate := input.productCoordinate
    marketCoordinate := input.marketCoordinate
    occurrenceCoordinate := input.occurrenceCoordinate
    inventory := input.inventory
    state := input.state
    fulfillmentMethods := input.fulfillmentMethods
    occurrenceEndMs := occurrenceEndMs
    terminal := terminal
    organizerStockHold := organizerStockHold
    revision := revision
    signedAssignmentEventId := existing.bind (·.signedAssignmentEventId)
    publicationJobs := (existing.map (·.publicationJobs)).getD [] ++
      [{ job input.mutationId revision input.nowMs with
        assignmentSnapshot := some {
          state := input.state
          inventory := input.inventory
          fulfillmentMethods := input.fulfillmentMethods
          organizerStockHold := organizerStockHold } }] }

/-- The terms that a mutation id is bound to. -/
def AssignmentInput.BoundTo (prior : PublicationJob) : Prop :=
  ∃ snapshot ∈ prior.assignmentSnapshot, snapshot.state = input.state ∧
    snapshot.inventory = input.inventory ∧ snapshot.fulfillmentMethods = input.fulfillmentMethods
  deriving Decidable

def commitAssignmentRevision (db : Ledger) (input : AssignmentInput) (product : Product)
    (existing : Option Assignment) (held : Int) : Result Ledger := do
  reject (input.context.isNone ∧ existing = none) (.error "No committed assignment to remove")
  reject (existing.map (·.revision) ≠ input.expectedRevision)
    (.error "Stale assignment revision")
  reject (∃ a ∈ existing, a.productCoordinate ≠ input.productCoordinate ∨
      a.marketCoordinate ≠ input.marketCoordinate ∨
      a.occurrenceCoordinate ≠ input.occurrenceCoordinate)
    (.error "Assignment tuple changed")
  let occurrenceEndMs := (input.context.map (·.occurrenceEndMs)).getD
    ((existing.map (·.occurrenceEndMs)).getD 0)
  let terminal := (input.context.map (·.terminal)).getD false ||
    (existing.map (·.terminal)).getD false
  reject (input.state = .active ∧ (terminal = true ∨ occurrenceEndMs ≤ input.nowMs))
    (.error "Occurrence is no longer eligible")
  let siblings := db.assignmentsOf input.productCoordinate
  let reservedElsewhere ← reservedAllocation
    (siblings.filter fun a => a.coordinate ≠ input.assignmentCoordinate) input.nowMs
  let assignment := input.assignment product existing occurrenceEndMs terminal
  reject (∃ stock ∈ product.stock,
      stock < reservedElsewhere + max (assignment.liveAllocation input.nowMs) held)
    (.error "Insufficient ordinary stock for allocation")
  return { db with assignments := db.assignments.put assignment }

/-- Explicit local assignment edit. -/
def commitMerchantInventoryAssignment (db : Ledger) (input : AssignmentInput) : Result Ledger := do
  checkAssignmentInput P input
  match db.products.get input.productCoordinate with
  | none => .error (.error "Product inventory is not initialized")
  | some product => do
    reject (¬ (product.stock = none ↔ input.inventory = .untracked))
      (.error "Inventory tracking mismatch")
    let existing := db.assignments.get input.assignmentCoordinate
    let held ← optionResult outstandingOrganizerStockHold existing
    reject (held.getD 0 > 0 ∧ ¬ input.inventory.IsTracked)
      (.error "Organizer stock hold requires tracked inventory")
    match (existing.map (·.publicationJobs)).getD [] |>.find?
        (fun work => work.id = input.mutationId) with
    | some prior => do
      reject (¬ input.BoundTo prior) (.error "Assignment mutation ID is bound to different terms")
      return db
    | none => commitAssignmentRevision db input product existing (held.getD 0)

end Conduit.Stock
