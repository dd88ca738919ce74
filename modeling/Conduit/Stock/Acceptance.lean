import Conduit.Stock.Journal
import Conduit.Stock.Lifecycle

namespace Conduit.Stock

open Js Throwing

structure EventMarketAdmission where
  settlement : Bool
  (productEventId assignmentCoordinate : Text)
  assignmentEventId : Option Text
  (marketEventId occurrenceEventId grantEventId : Text)
  scheduleEventId : Option Text

inductive OrderAdmission where
  | ordinary (productEventId : Text)
  | eventMarket (admission : EventMarketAdmission)

def OrderAdmission.ids : OrderAdmission → List Text
  | .ordinary id => [id]
  | .eventMarket a => [a.productEventId, a.marketEventId, a.occurrenceEventId, a.grantEventId] ++
      a.scheduleEventId.toList ++ a.assignmentEventId.toList

def OrderAdmission.IsOrdinary : OrderAdmission → Prop
  | .ordinary _ => True
  | .eventMarket _ => False

instance (a : OrderAdmission) : Decidable a.IsOrdinary := by
  unfold OrderAdmission.IsOrdinary; split <;> infer_instance

def OrderAdmission.Names (a : OrderAdmission) (coordinate : Option Text) : Prop :=
  match a with
  | .ordinary _ => True
  | .eventMarket admission => coordinate = some admission.assignmentCoordinate

instance (a : OrderAdmission) (coordinate : Option Text) : Decidable (a.Names coordinate) := by
  unfold OrderAdmission.Names; split <;> infer_instance

def OrderAdmission.settles : OrderAdmission → Bool
  | .ordinary _ => false
  | .eventMarket a => a.settlement

structure OrderItem where
  productCoordinate : Text
  assignmentCoordinate : Option Text
  method : Method
  quantity : Int
  admission : OrderAdmission
  productTermsEventId : Option Text

structure VerifiedEntry where
  rumor : Rumor
  payload : StockAcceptance
  envelope : SignedEvent
  grantRumor : Rumor

structure VerifiedImport where
  (orderId merchantPubkey identityBinding termsBinding evidenceBinding : Text)
  attribution : Attribution
  entries : List VerifiedEntry
  checkSession : Result Unit

structure OrderInput where
  (orderId merchantPubkey identityBinding termsBinding evidence : Text)
  deviceEncrypted : Bool
  evidenceBinding : Option Text
  assertCurrent : Result Unit
  items : List OrderItem
  priorStockAdjustments : List StockAdjustment
  organizerImport : Option VerifiedImport
  acceptedAt : Int

/-- `/^sha256:[0-9a-f]{64}$/`. -/
def IsAcceptanceBinding (s : Text) : Prop :=
  startsWith s "sha256:" = true ∧ IsHex64 (s.drop 7)
  deriving Decidable

def VerifiedImport.orderPoolBinding (v : VerifiedImport) : List PoolLine :=
  (v.entries.map fun e => ({
    poolId := e.payload.poolId
    writerId := e.payload.writerId
    quantity := e.payload.quantity } : PoolLine)).mergeSort
      fun a b => decide (CheckoutSpark.TextLe a.poolId b.poolId)

variable (input : OrderInput)

variable (v : VerifiedImport)

def checkImportMatches : Result Unit :=
  reject (v.orderId ≠ input.orderId ∨ v.merchantPubkey ≠ input.merchantPubkey ∨
      v.identityBinding ≠ input.identityBinding ∨ v.termsBinding ≠ input.termsBinding ∨
      input.deviceEncrypted = false ∨ input.evidenceBinding ≠ some v.evidenceBinding ∨
      input.priorStockAdjustments ≠ [])
    (.error "Organizer import does not match the stock decision")

def checkItem (item : OrderItem) : Result Unit := do
  reject (item.quantity < 1 ∨ item.quantity > maxStock) (.error "Invalid order quantity")
  reject (∃ id ∈ item.admission.ids ++ item.productTermsEventId.toList, ¬ IsHex64 id)
    (.error "Invalid order evidence")
  reject (¬ (item.method = .ordinary ↔ item.admission.IsOrdinary) ∨
      ¬ (item.method = .ordinary ↔ item.assignmentCoordinate = none) ∨
      ¬ item.admission.Names item.assignmentCoordinate)
    (.error "Order admission does not match its inventory lane")

def checkOrder : Result Unit := do
  input.assertCurrent
  let _ ← optionResult (fun (v : VerifiedImport) => v.checkSession) input.organizerImport
  let _ ← optionResult (checkImportMatches input) input.organizerImport
  reject (input.orderId = [] ∨ input.merchantPubkey = [] ∨ input.identityBinding = [] ∨
      input.termsBinding = [] ∨ input.evidence = [] ∨
      (input.deviceEncrypted = true ∧ (¬ IsAcceptanceBinding input.identityBinding ∨
        ¬ IsAcceptanceBinding input.termsBinding ∨
        ¬ ∃ binding ∈ input.evidenceBinding, IsAcceptanceBinding binding)) ∨
      ¬ IsSafeInteger input.acceptedAt ∨ input.items = [])
    (.error "Invalid accepted order")
  let _ ← mapResult checkItem input.items

structure ItemTerms where
  productCoordinate : Text
  assignmentCoordinate : Option Text
  method : Method
  quantity : Int
  deriving DecidableEq

def AcceptedItem.terms (i : AcceptedItem) : ItemTerms :=
  ⟨i.productCoordinate, i.assignmentCoordinate, i.method, i.quantity⟩

def OrderItem.terms (i : OrderItem) : ItemTerms :=
  ⟨i.productCoordinate, i.assignmentCoordinate, i.method, i.quantity⟩

def BoundToOtherTerms (prior : AcceptedOrder) (input : OrderInput) : Prop :=
  prior.merchantPubkey ≠ input.merchantPubkey ∨ prior.identityBinding ≠ input.identityBinding ∨
    prior.termsBinding ≠ input.termsBinding ∨ prior.deviceEncrypted ≠ input.deviceEncrypted ∨
    prior.evidenceBinding.getD prior.evidence ≠ input.evidenceBinding.getD input.evidence ∨
    ((input.organizerImport.isNone = true ∨ prior.organizerImport ≠ none) ∧
      prior.items.map AcceptedItem.terms ≠ input.items.map OrderItem.terms)
  deriving Decidable

variable (P : StockPlatform)

variable (db : Ledger)

def replayEntry (input : OrderInput) (v : VerifiedImport)
    (entries : Table Entry Entry.id) (entry : VerifiedEntry) : Result (Table Entry Entry.id) :=
  let failure : Failure := .error "Imported organizer provenance requires reconciliation"
  match entries.get (entryKey input.merchantPubkey entry.rumor.id),
    db.pools.get (poolKey input.merchantPubkey entry.payload.poolId) with
  | some saved, some pool => do
    reject (saved.imported = false ∨ saved.accountPubkey ≠ input.merchantPubkey ∨
        saved.poolId ≠ entry.payload.poolId ∨ saved.sequence ≠ entry.payload.sequence ∨
        saved.quantity ≠ entry.payload.quantity ∨ saved.orderId ≠ input.orderId ∨
        saved.claimRef ≠ entry.payload.claimRef ∨ some saved.evidence ≠ input.evidenceBinding ∨
        (saved.orderPoolBinding ≠ none ∧ saved.orderPoolBinding ≠ some v.orderPoolBinding) ∨
        ¬ SameOrganizerStockRumor saved.rumor entry.rumor ∨ pool.grantRumor ≠ entry.grantRumor ∨
        pool.importedSequence < entry.payload.sequence)
      failure
    let _ ← validateMerchantOrganizerStockPool P pool input.merchantPubkey
    if saved.orderPoolBinding = none then
      return entries.put { saved with orderPoolBinding := some v.orderPoolBinding }
    else return entries
  | _, _ => .error failure

def replayImport (input : OrderInput) (v : VerifiedImport)
    (provenance : Attribution) : Result Ledger := do
  reject (provenance ≠ v.attribution)
    (.error "Order ID is bound to different organizer provenance")
  let entries ← foldResult (replayEntry P db input v) db.entries v.entries
  v.checkSession
  input.assertCurrent
  return { db with entries := entries }

def NextHeldEntry (assignment : Assignment) (hold : OrganizerStockHold) (pool : Pool)
    (payload : StockAcceptance) (merchantPubkey : Text) : Prop :=
  assignment.merchantPubkey = merchantPubkey ∧ hold.poolId = pool.poolId ∧
    hold.organizerPubkey = pool.organizerPubkey ∧ hold.quantity = pool.quantity ∧
    hold.importedQuantity = pool.importedQuantity ∧ hold.closed = false ∧ pool.state ≠ .closed ∧
    payload.writerId = pool.writerId ∧ payload.sequence = pool.importedSequence + 1 ∧
    payload.previousId = pool.lastImportedId
  deriving Decidable

def notNextEntry : Failure := .error "Organizer stock import is not the next held journal entry"

def checkNextHeldEntry (assignment : Assignment) (pool : Pool) (payload : StockAcceptance)
    (merchantPubkey : Text) : Result Unit :=
  match assignment.organizerStockHold with
  | none => .error notNextEntry
  | some hold => do
    reject (¬ NextHeldEntry assignment hold pool payload merchantPubkey) notNextEntry
    let held ← outstandingOrganizerStockHold assignment
    reject (payload.quantity > held) notNextEntry

def checkImportedPredecessor (pool : Pool)
    (payload : StockAcceptance) (merchantPubkey : Text) : Result Unit :=
  let failure : Failure := .error "Organizer stock predecessor requires reconciliation"
  if 0 < pool.importedSequence then
    match db.entries.get (entryKey merchantPubkey pool.lastImportedId) with
    | none => .error failure
    | some previous => do
      let accepted ← parseAcceptance P previous.rumor failure
      reject (previous.imported = false ∨ accepted.sequence ≠ pool.importedSequence ∨
          accepted.poolId ≠ pool.poolId ∨ payload.acceptedAtMs < accepted.acceptedAtMs)
        failure
  else .ok ()

def StagedForOrder (staged : Entry) (pool : Pool) (entry : VerifiedEntry)
    (input : OrderInput) (v : VerifiedImport) : Prop :=
  staged.imported = false ∧ staged.accountPubkey = input.merchantPubkey ∧
    staged.poolId = pool.poolId ∧ staged.sequence = entry.payload.sequence ∧
    staged.quantity = entry.payload.quantity ∧ staged.claimRef = entry.payload.claimRef ∧
    staged.orderId = input.orderId ∧
    (some staged.evidence = input.evidenceBinding ∨ staged.evidence = entry.payload.termsBinding ∨
      some (P.evidenceBinding staged.evidence) = input.evidenceBinding) ∧
    (staged.orderPoolBinding = none ∨ staged.orderPoolBinding = some v.orderPoolBinding) ∧
    SameOrganizerStockRumor staged.rumor entry.rumor
  deriving Decidable

/-- `delegatedPools`: the pool of each delegated assignment. -/
abbrev DelegatedPools := Table (Text × Pool) (fun (c : Text × Pool) => c.1)

def checkDelegatedEntry (input : OrderInput) (v : VerifiedImport)
    (pools : DelegatedPools) (entry : VerifiedEntry) : Result DelegatedPools :=
  match db.pools.get (poolKey input.merchantPubkey entry.payload.poolId) with
  | none => .error (.error "Merchant stock grant changed during import")
  | some pool => do
    reject (pool.grantRumor ≠ entry.grantRumor)
      (.error "Merchant stock grant changed during import")
    let grant ← validateMerchantOrganizerStockPool P pool input.merchantPubkey
    match db.assignments.get grant.assignmentCoordinate with
    | none => .error notNextEntry
    | some assignment => do
      checkNextHeldEntry assignment pool entry.payload input.merchantPubkey
      checkImportedPredecessor P db pool entry.payload input.merchantPubkey
      reject (∃ staged ∈ db.entries.get (entryKey input.merchantPubkey entry.rumor.id),
          ¬ StagedForOrder P staged pool entry input v)
        (.error "Organizer entry conflicts with its accepted order")
      reject (pool.acceptedSequence = entry.payload.sequence ∧
          (pool.lastAcceptedId ≠ entry.rumor.id ∨
            pool.acceptedQuantity ≠ pool.importedQuantity + entry.payload.quantity))
        (.error "Organizer entry conflicts with the observed frontier")
      return pools.put (grant.assignmentCoordinate, pool)

def orderQuantity (items : List OrderItem) (productCoordinate : Text) : Int :=
  ((items.filter fun i => i.productCoordinate = productCoordinate).map (·.quantity)).sum

def alreadyConsumed (quantity : Int) : Option Int → List StockAdjustment → Result Int
  | known, [] => .ok (known.getD 0)
  | known, adjustment :: adjustments => do
    reject (adjustment.quantity ≠ quantity ∨ ¬ IsSafeInteger adjustment.shortfall ∨
        adjustment.shortfall < 0 ∨ adjustment.shortfall > quantity)
      (.error "Existing order stock decision needs reconciliation")
    let count := if adjustment.custom then quantity else quantity - adjustment.shortfall
    reject (∃ n ∈ known, n ≠ count)
      (.error "Conflicting order stock decisions need reconciliation")
    alreadyConsumed quantity (some count) adjustments

def priorStock (input : OrderInput) : List StockCheckpoint :=
  db.stockCheckpoints.filter fun c =>
    c.orderId = input.orderId ∧ c.merchantPubkey = input.merchantPubkey

/-- The entry of `consumed` for one product. -/
def consumeProduct (input : OrderInput) (consumed : Text → Int) (coordinate : Text) :
    Result (Text → Int) := do
  let adjustments := ((priorStock db input).map (·.adjustment)) ++
    input.priorStockAdjustments
  let count ← alreadyConsumed (orderQuantity input.items coordinate) none
    (adjustments.filter fun a => a.productCoordinate = coordinate)
  return fun c => if c = coordinate then count else consumed c

def AdoptsFullDebit (input : OrderInput) : Prop :=
  ∀ item ∈ input.items, ∃ row ∈ priorStock db input,
    row.adjustment.productCoordinate = item.productCoordinate ∧ row.applied = true ∧
    row.adjustment.quantity = orderQuantity input.items item.productCoordinate ∧
    row.adjustment.shortfall = 0
  deriving Decidable

structure Working where
  db : Ledger
  products : Table Product Product.coordinate
  assignments : Table Assignment Assignment.coordinate
  consumed : Text → Int
  debitedProducts : List Text
  output : List AcceptedItem

variable (w : Working)

variable (a : Assignment)

/-- `assignments.get(a.coordinate) ?? a`. -/
def Working.current : Assignment :=
  (w.assignments.get a.coordinate).getD a

def Working.reserved (siblings : List Assignment) (nowMs : Int) : Result Int :=
  reservedAllocation (siblings.map w.current) nowMs

def loadProduct (input : OrderInput) (w : Working) (item : OrderItem) :
    Result (Working × Product) :=
  match w.products.get item.productCoordinate with
  | some product => .ok (w, product)
  | none =>
    match w.db.products.get item.productCoordinate with
    | none => .error (.error "Committed merchant product unavailable")
    | some product => do
      reject (product.merchantPubkey ≠ input.merchantPubkey)
        (.error "Committed merchant product unavailable")
      reject (∃ id ∈ item.productTermsEventId, product.sourceProductEvent.id ≠ id)
        (.error "The product changed during acceptance. Review it and try again.")
      -- Retained postponements and stock debits must share one transaction.
      return ({ w with
        db := reconcileKnownOccurrenceLifecycle P w.db input.merchantPubkey
          (some item.productCoordinate)
        products := w.products.put product }, product)

def AssignmentAvailable (pools : DelegatedPools) (item : OrderItem)
    (a : Assignment) (expiredSettlement : Bool) : Prop :=
  a.productCoordinate = item.productCoordinate ∧
    if input.organizerImport.isSome then (pools.get a.coordinate).isSome = true
    else a.state = .active ∧ a.terminal = false ∧
      (expiredSettlement = true ∨ input.acceptedAt < a.occurrenceEndMs) ∧
      item.method ∈ a.fulfillmentMethods
  deriving Decidable

variable (item : OrderItem)

def isExpiredSettlement (a : Assignment) : Bool :=
  input.organizerImport.isNone && item.admission.settles && decide (a.occurrenceEndMs ≤ input.acceptedAt)

def loadAssignment (pools : DelegatedPools) (w : Working) (item : OrderItem)
    (siblings : List Assignment) : Result (Working × Option (Assignment × Bool)) :=
  match item.assignmentCoordinate.filter (fun c => c ≠ []) with
  | none => .ok (w, none)
  | some coordinate =>
    match (w.assignments.get coordinate).or (siblings.find? fun a => a.coordinate = coordinate) with
    | none => .error (.error "Assignment is not available for this order")
    | some assignment => do
      let expiredSettlement := isExpiredSettlement input item assignment
      reject (¬ AssignmentAvailable input pools item assignment expiredSettlement)
        (.error "Assignment is not available for this order")
      return ({ w with assignments := w.assignments.put assignment },
        some (assignment, expiredSettlement))

def Assignment.imports (quantity : Int) : Assignment :=
  { a with organizerStockHold := a.organizerStockHold.map fun hold =>
      { hold with importedQuantity := hold.importedQuantity + quantity } }

variable (siblings : List Assignment)

def importItem (item : OrderItem) (acceptedAt : Int)
    (stock debit : Int) (assignment : Option Assignment) : Result Working :=
  match assignment with
  | none => .error (.error "Insufficient held organizer stock")
  | some assignment => do
    reject (¬ assignment.inventory.IsTracked ∨ stock < debit)
      (.error "Insufficient held organizer stock")
    let held ← outstandingOrganizerStockHold assignment
    reject (held < item.quantity) (.error "Insufficient held organizer stock")
    let imported := assignment.imports item.quantity
    let w' := { w with assignments := w.assignments.put imported }
    let remainingEffective ← w'.reserved siblings acceptedAt
    -- A removed or reduced public allocation cannot discard an already authenticated organizer
    -- sale. The hold shrinks with its debit.
    let nextQuantity := max 0 (assignment.inventory.quantity - item.quantity)
    let currentEffective ← effectiveAllocation imported acceptedAt
    let nextHeld ← outstandingOrganizerStockHold imported
    let nextEffective := max (if imported.state = .active ∧ imported.terminal = false ∧
      acceptedAt < imported.occurrenceEndMs then nextQuantity else 0) nextHeld
    reject (stock - debit < remainingEffective - currentEffective + nextEffective)
      (.error "Organizer inventory requires reconciliation")
    return w'

def checkLane (acceptedAt stock debit effective : Int)
    (assignment : Option (Assignment × Bool)) : Result Unit :=
  if item.method = .pickup then
    match assignment with
    | none => .error (.error "Insufficient pickup allocation")
    | some (assignment, expiredSettlement) => do
      reject (¬ assignment.inventory.IsTracked) (.error "Insufficient pickup allocation")
      if expiredSettlement then
        -- Effective allocations include unreconciled organizer holds even after expiry. Only the
        -- unallocated remainder may be consumed.
        reject (stock - effective < debit)
          (.error "Insufficient unallocated stock for settled pickup")
      else do
        let allocation ← effectiveAllocation assignment acceptedAt
        let held ← outstandingOrganizerStockHold assignment
        reject (allocation - held < item.quantity ∨ stock - debit < effective - item.quantity)
          (.error "Insufficient pickup allocation")
  else
    reject (stock - effective < debit) (.error "Insufficient ordinary stock")

def pickedUp (inventory : Inventory) (quantity : Int) (floored : Bool) : Inventory :=
  match inventory with
  | .tracked n => .tracked (if floored then max 0 (n - quantity) else n - quantity)
  | .untracked => .untracked

def Working.pickUp (floored : Bool) (assignment : Option Assignment) : Working :=
  match assignment with
  | some a =>
    if item.method = .pickup ∧ a.inventory.IsTracked then
      let picked := { a with inventory := pickedUp a.inventory item.quantity floored }
      { w with assignments := w.assignments.put picked }
    else w
  | none => w

variable (assignment : Option Assignment)

def Working.latest : Option Assignment :=
  assignment.map w.current

def Working.debit (w : Working) (product : Product) (stock debit : Int) : Working :=
  { w with
    products := w.products.put { product with stock := some (stock - debit) }
    debitedProducts := if debit > 0 then w.debitedProducts ++ [product.coordinate]
      else w.debitedProducts }

def takeUnits
    (stock debit effective : Int) (assignment : Option (Assignment × Bool)) : Result Working :=
  if input.organizerImport.isSome then
    importItem w siblings item input.acceptedAt stock debit (assignment.map (·.1))
  else do
    checkLane item input.acceptedAt stock debit effective assignment
    return w

def trackedItem
    (product : Product) (stock effective : Int) (assignment : Option (Assignment × Bool)) :
    Result Working := do
  let credited := min item.quantity (w.consumed item.productCoordinate)
  let debit := item.quantity - credited
  let expiredSettlement := (assignment.map (·.2)).getD false
  let w₁ := { w with consumed := fun c =>
    if c = item.productCoordinate then w.consumed c - credited else w.consumed c }
  let delegated := input.organizerImport.isSome
  reject (delegated = false ∧
      ((∃ a ∈ siblings, a.state = .active ∧ ¬ a.inventory.IsTracked) ∨
        effective > stock +
          (if item.method = .pickup ∧ expiredSettlement = false then credited else 0)))
    (.error "Committed inventory requires reconciliation")
  let w₂ ← takeUnits input w₁ item siblings stock debit effective assignment
  return (w₂.debit product stock debit).pickUp item (delegated || expiredSettlement)
    (w₂.latest (assignment.map (·.1)))

def checkUntracked : Result Unit := do
  let mismatch ← someResult (fun a => do
    let held ← outstandingOrganizerStockHold a
    return decide (held > 0 ∨ (a.state = .active ∧ a.inventory ≠ .untracked))) siblings
  reject (mismatch = true) (.error "Inventory tracking mismatch")

def takeItem (product : Product) (effective : Int) (assignment : Option (Assignment × Bool)) :
    Result Working :=
  match product.stock with
  | some stock => trackedItem input w item siblings product stock effective assignment
  | none => do
    checkUntracked siblings
    return w

def Working.report : AcceptedItem where
  productCoordinate := item.productCoordinate
  assignmentCoordinate := item.assignmentCoordinate
  method := item.method
  quantity := item.quantity
  remainingStock := (w.products.get item.productCoordinate).bind (·.stock)
  remainingAllocation := (w.latest assignment).bind fun a =>
    if a.inventory.IsTracked then some a.inventory.quantity else none

def acceptItem (input : OrderInput) (pools : DelegatedPools) (w : Working)
    (item : OrderItem) : Result Working := do
  let loaded ← loadProduct P input w item
  let siblings := loaded.1.db.assignmentsOf item.productCoordinate
  let assigned ← loadAssignment input pools loaded.1 item siblings
  let effective ← assigned.1.reserved siblings input.acceptedAt
  let taken ← takeItem input assigned.1 item siblings loaded.2 effective assigned.2
  return { taken with
    output := taken.output ++ [taken.report item (assigned.2.map (·.1))] }

def Pool.imports (pool : Pool) (payload : StockAcceptance) (rumor : Rumor) : Pool :=
  let importedQuantity := pool.importedQuantity + payload.quantity
  let caughtUp := pool.acceptedSequence < payload.sequence
  { pool with
    importedSequence := payload.sequence
    lastImportedId := rumor.id
    importedQuantity := importedQuantity
    acceptedSequence := if caughtUp then payload.sequence else pool.acceptedSequence
    lastAcceptedId := if caughtUp then rumor.id else pool.lastAcceptedId
    acceptedQuantity := if caughtUp then importedQuantity else pool.acceptedQuantity
    state := if pool.state = .prepared then .active else pool.state }

def importedEntry (entry : VerifiedEntry) (pool : Pool) : Entry where
  id := entryKey input.merchantPubkey entry.rumor.id
  accountPubkey := input.merchantPubkey
  poolId := pool.poolId
  sequence := entry.payload.sequence
  orderId := input.orderId
  claimRef := entry.payload.claimRef
  rumor := entry.rumor
  quantity := entry.payload.quantity
  evidence := v.evidenceBinding
  orderPoolBinding := some v.orderPoolBinding
  receivedEnvelope := some entry.envelope
  imported := true

/-- Records one imported entry in its pool; `pools` are the pools of this import. -/
def storeImport (s : Ledger × DelegatedPools)
    (entry : VerifiedEntry) : Result (Ledger × DelegatedPools) :=
  match s.2.rows.find? fun c => c.2.poolId = entry.payload.poolId with
  | none => .error (.error "Cannot set properties of undefined")
  | some (coordinate, pool) =>
    let pool' := pool.imports entry.payload entry.rumor
    .ok ({ s.1 with
      entries := s.1.entries.put (importedEntry input v entry pool')
      pools := s.1.pools.put pool' }, s.2.put (coordinate, pool'))

def Product.stored (product : Product) (input : OrderInput) (debited : Bool) : Product :=
  let revision := product.revision + 1
  { product with
    revision := revision
    publicationJobs := if product.stock ≠ none ∧ debited then
        product.publicationJobs ++ [{ job (input.orderId ++ ":product:" ++ product.coordinate)
          revision input.acceptedAt with productStock := product.stock }]
      else product.publicationJobs }

def Assignment.stored (input : OrderInput) : Assignment :=
  let revision := a.revision + 1
  { a with
    revision := revision
    publicationJobs := a.publicationJobs ++ [{ job (input.orderId ++ ":assignment:" ++ a.coordinate)
      revision input.acceptedAt with assignmentSnapshot := some a.snapshot }] }

def Working.storeProducts (input : OrderInput) : Table Product Product.coordinate :=
  w.db.products.putAll (w.products.rows.map fun product =>
    product.stored input (w.debitedProducts.contains product.coordinate))

def Working.Touched : Prop :=
  a.inventory.IsTracked ∧ ∃ i ∈ w.output, i.assignmentCoordinate = some a.coordinate ∧
    i.method = .pickup
  deriving Decidable

def Working.storeAssignments (input : OrderInput) : Table Assignment Assignment.coordinate :=
  w.db.assignments.putAll
    ((w.assignments.rows.filter fun a => w.Touched a).map fun a => a.stored input)

def acceptedOrder (items : List AcceptedItem) : AcceptedOrder where
  orderId := input.orderId
  merchantPubkey := input.merchantPubkey
  identityBinding := input.identityBinding
  termsBinding := input.termsBinding
  evidence := input.evidence
  deviceEncrypted := input.deviceEncrypted
  evidenceBinding := if input.deviceEncrypted then input.evidenceBinding else none
  items := items
  acceptedAt := input.acceptedAt
  organizerImport := input.organizerImport.map (·.attribution)

structure Acceptance where
  replayed : Bool
  order : AcceptedOrder

def beginAcceptance (input : OrderInput) : Result Working := do
  let coordinates := (input.items.map (·.productCoordinate)).eraseDups
  let consumed ← foldResult (consumeProduct db input) (fun _ => 0) coordinates
  return {
    db := db
    products := .empty
    assignments := .empty
    consumed := consumed
    debitedProducts := []
    output := [] }

def delegatedPools (input : OrderInput) (v : VerifiedImport)
    (prior : Option AcceptedOrder) : Result DelegatedPools := do
  reject (∃ row ∈ priorStock db input, row.applied = false)
    (.error "Prior stock debit is not durably confirmed")
  -- An ordinary ID alone is not delegated provenance. Adoption is limited to a positive, durable
  -- full same-order debit already applied by the legacy stock owner.
  reject (prior ≠ none ∧ ¬ AdoptsFullDebit db input)
    (.error "Existing acceptance lacks verified delegated stock provenance")
  foldResult (checkDelegatedEntry P db input v) .empty v.entries

def importPools (input : OrderInput) (prior : Option AcceptedOrder) : Result DelegatedPools :=
  match input.organizerImport with
  | none => .ok .empty
  | some v => delegatedPools P db input v prior

def storeImports (pools : DelegatedPools) : Result Ledger :=
  match input.organizerImport with
  | none => .ok db
  | some v => do
    let stored ← foldResult (storeImport input v) (db, pools) v.entries
    return stored.1

def decideOrder (input : OrderInput)
    (prior : Option AcceptedOrder) : Result (Ledger × Acceptance) := do
  let pools ← importPools P db input prior
  let begun ← beginAcceptance db input
  let w ← foldResult (acceptItem P input pools) begun input.items
  let db' ← storeImports input w.db pools
  let _ ← optionResult (fun (v : VerifiedImport) => v.checkSession) input.organizerImport
  input.assertCurrent
  let order := acceptedOrder input w.output
  return ({ db' with
    products := w.storeProducts input
    assignments := w.storeAssignments input
    acceptedOrders := db'.acceptedOrders.put order },
    { replayed := prior.isSome, order })

def acceptMerchantInventoryOrder (input : OrderInput) : Result (Ledger × Acceptance) := do
  checkOrder input
  match db.acceptedOrders.get input.orderId with
  | none => decideOrder P db input none
  | some prior => do
    reject (BoundToOtherTerms prior input)
      (.error "Order ID is bound to different identity or terms")
    match input.organizerImport, prior.organizerImport with
    | none, _ => return (db, { replayed := true, order := prior })
    | some v, some provenance => do
      let db' ← replayImport P db input v provenance
      return (db', { replayed := true, order := prior })
    | some _, none => decideOrder P db input (some prior)

end Conduit.Stock
