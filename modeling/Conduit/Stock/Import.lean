import Conduit.Stock.Acceptance

namespace Conduit.Stock

open Js Throwing

/-- What the signed public assignment of an order line commits. -/
structure StockCommitment where
  eventId : Text
  previousEventId : Option Text
  createdAt : Int
  /-- `stockPool.state === "valid"` and `stockPool.pool.state === "active"`. -/
  active : Bool
  poolId : Text
  (quantity importedQuantity : Int)
  organizerPubkey : Text

/-- A line of a buyer order with organizer handoff. -/
structure DelegatedLine where
  productId : Text
  quantity : Int
  assignmentCoordinate : Option Text
  /-- `parseEventMarketAssignmentEvent` of the line's signed assignment. -/
  committed : Option StockCommitment
  (marketCoordinate marketEventId calendarCoordinate calendarEventId productEventId : Text)
  grantEventId : Text
  scheduleEventId : Option Text

structure DelegatedOrder extends OrderBindings where
  (id merchantPubkey : Text)
  createdAt : Int
  (organizerPubkey claimRef originalRumorId : Text)
  lines : List DelegatedLine
  /-- The order's evidence as `sealMerchantAcceptanceEvidence` encrypts and binds it. -/
  sealedEvidence : Text
  evidenceBinding : Text

structure ImportInput where
  order : DelegatedOrder
  acceptedEnvelopes : List SignedEvent
  authority : Result Unit
  nowMs : Int

structure ImportProgress where
  seen : List Text
  entries : List VerifiedEntry
  items : List OrderItem

def DelegatedLine.Commits (line : DelegatedLine) (committed : StockCommitment) (pool : Pool)
    (grant : StockGrant) (payload : StockAcceptance) : Prop :=
  committed.previousEventId = some grant.assignmentEventId ∧ committed.active = true ∧
    committed.poolId = pool.poolId ∧ committed.quantity = grant.quantity ∧
    committed.importedQuantity = 0 ∧ committed.organizerPubkey = grant.organizerPubkey ∧
    pool.grantRumor.createdAt * 1000 ≤ committed.createdAt * 1000 ∧
    committed.createdAt * 1000 ≤ payload.acceptedAtMs ∧
    line.marketCoordinate = grant.marketCoordinate ∧ line.marketEventId = grant.marketEventId ∧
    line.calendarCoordinate = grant.occurrenceCoordinate ∧
    line.calendarEventId = grant.occurrenceEventId ∧ line.productEventId = grant.productEventId ∧
    line.grantEventId = grant.grantEventId ∧ line.scheduleEventId = grant.scheduleEventId
  deriving Decidable

def commitmentMissing : Failure :=
  .error "Order does not contain the exact public stock commitment"

def delegatedItem (pool : Pool) (grant : StockGrant) (payload : StockAcceptance)
    (line : DelegatedLine) : Result OrderItem :=
  match line.committed with
  | none => .error commitmentMissing
  | some committed => do
    reject (¬ line.Commits committed pool grant payload) commitmentMissing
    return {
      productCoordinate := line.productId
      assignmentCoordinate := some grant.assignmentCoordinate
      method := .pickup
      quantity := line.quantity
      admission := .eventMarket {
        settlement := false
        productEventId := grant.productEventId
        assignmentCoordinate := grant.assignmentCoordinate
        assignmentEventId := some committed.eventId
        marketEventId := grant.marketEventId
        occurrenceEventId := grant.occurrenceEventId
        grantEventId := grant.grantEventId
        scheduleEventId := grant.scheduleEventId }
      productTermsEventId := none }

def poolLines (order : DelegatedOrder) (grant : StockGrant) : List DelegatedLine :=
  order.lines.filter fun line => line.productId = grant.productCoordinate ∧
    line.assignmentCoordinate = some grant.assignmentCoordinate

variable (P : StockPlatform)

variable (db : Ledger)

variable (input : ImportInput)

def importEnvelope (progress : ImportProgress) (envelope : SignedEvent) : Result ImportProgress :=
  let order := input.order
  match P.unwrap envelope with
  | none => .error (.error "Private message could not be unwrapped")
  | some rumor => do
    let mismatch : Failure := .error "Organizer acceptance does not match the original order"
    let payload ← parseAcceptance P rumor mismatch
    reject (payload.merchantPubkey ≠ order.merchantPubkey ∨
        payload.organizerPubkey ≠ order.organizerPubkey ∨ payload.orderId ≠ order.id ∨
        payload.identityBinding ≠ order.identityHash ∨ payload.termsBinding ≠ order.termsHash ∨
        payload.claimRef ≠ order.claimRef ∨ payload.acceptedAtMs < order.createdAt ∨
        payload.acceptedAtMs > input.nowMs ∨ payload.poolId ∈ progress.seen)
      mismatch
    match db.pools.get (poolKey order.merchantPubkey payload.poolId) with
    | none => .error (.error "Original Merchant stock grant unavailable")
    | some pool => do
      let grant ← validateMerchantOrganizerStockPool P pool order.merchantPubkey
      let lines := poolLines order grant
      let quantity := (lines.map (·.quantity)).sum
      reject (lines.isEmpty = true ∨ quantity > maxStock ∨ quantity ≠ payload.quantity ∨
          grant.writerId ≠ payload.writerId ∨ grant.organizerPubkey ≠ payload.organizerPubkey ∨
          payload.acceptedAtMs < pool.grantRumor.createdAt * 1000 ∨
          grant.expiresAtMs ≤ payload.acceptedAtMs)
        (.error "Organizer stock acceptance exceeds its grant")
      let items ← mapResult (delegatedItem pool grant payload) lines
      return {
        seen := progress.seen ++ [payload.poolId]
        entries := progress.entries ++ [{
          rumor := rumor
          payload := payload
          envelope := envelope
          grantRumor := pool.grantRumor }]
        items := progress.items ++ items }

def bindTerms (merchantPubkey : Text) (item : OrderItem) : Result OrderItem :=
  match db.products.get item.productCoordinate with
  | none => .error (.error "Committed Merchant product unavailable")
  | some product => do
    reject (product.merchantPubkey ≠ merchantPubkey)
      (.error "Committed Merchant product unavailable")
    return { item with productTermsEventId := some product.sourceProductEvent.id }

def importAttribution (order : DelegatedOrder) (entries : List VerifiedEntry) : Attribution where
  originalOrderRumorId := order.originalRumorId
  organizerPubkey := order.organizerPubkey
  claimRef := order.claimRef
  entries := (entries.map fun e => ({
    poolId := e.payload.poolId
    entryId := e.rumor.id
    writerId := e.payload.writerId
    quantity := e.payload.quantity } : AttributedEntry)).mergeSort
      fun a b => decide (CheckoutSpark.TextLe a.poolId b.poolId)

def importOrderInput (items : List OrderItem) (entries : List VerifiedEntry) : OrderInput where
  orderId := input.order.id
  merchantPubkey := input.order.merchantPubkey
  identityBinding := input.order.identityBinding
  termsBinding := input.order.termsBinding
  evidence := input.order.sealedEvidence
  deviceEncrypted := true
  evidenceBinding := some input.order.evidenceBinding
  assertCurrent := input.authority
  items := items
  priorStockAdjustments := []
  organizerImport := some {
    orderId := input.order.id
    merchantPubkey := input.order.merchantPubkey
    identityBinding := input.order.identityBinding
    termsBinding := input.order.termsBinding
    evidenceBinding := input.order.evidenceBinding
    attribution := importAttribution input.order entries
    entries := entries
    checkSession := input.authority }
  acceptedAt := input.nowMs

def readImport : Result (List OrderItem × List VerifiedEntry) := do
  reject (¬ IsTime input.nowMs) (.error "Invalid stock import time")
  input.authority
  let progress ← foldResult (importEnvelope P db input) ⟨[], [], []⟩ input.acceptedEnvelopes
  reject (progress.entries.isEmpty = true ∨ progress.items.length ≠ input.order.lines.length)
    (.error "Every delegated order item requires its exact stock entry")
  let sorted := progress.items.mergeSort fun a b =>
    decide (CheckoutSpark.TextLe a.productCoordinate b.productCoordinate)
  let items ← mapResult (bindTerms db input.order.merchantPubkey) sorted
  return (items, progress.entries)

def importMerchantOrganizerStockOrder : Result (Ledger × Acceptance) := do
  let read ← readImport P db input
  acceptMerchantInventoryOrder P db (importOrderInput input read.1 read.2)

end Conduit.Stock
