import Conduit.Cart.Record

namespace Conduit.Cart

open Js

/-- `if (!ok) return false`. -/
def permit (ok : Prop) [Decidable ok] : Option Unit := if ok then some () else none

/-- `identity.cartLineId`, where the empty text counts as absent. -/
def CartItemIdentity.line (identity : CartItemIdentity) : Option Text :=
  identity.cartLineId.filter fun id => decide (id ≠ [])

def CartLine.isOf (line : CartLine) (merchantPubkey productId : Text) : Bool :=
  decide (line.item.merchantPubkey = merchantPubkey ∧ line.item.productId = productId)

variable (record : CanonicalCartRecord)

def findLineIndex (identity : CartItemIdentity) : Option Nat :=
  match identity.line with
  | some lineId => record.lines.findIdx? fun line =>
      decide (line.id = lineId) && line.isOf identity.merchantPubkey identity.productId
  | none =>
    match (record.lines.zipIdx.filter fun entry =>
        entry.1.isOf identity.merchantPubkey identity.productId) with
    | [entry] => some entry.2
    | _ => none

def getMerchantAddedAt (merchantPubkey : Text) : Option Int :=
  (record.lines.find? fun line => decide (line.item.merchantPubkey = merchantPubkey)).bind
    (·.item.merchantAddedAt)

def CartLine.appendBatch (line : CartLine) (n quantity : Int) : CartLine :=
  { line with batches := line.batches ++ [⟨batchIdOf n, quantity⟩] }

def productQuantity (merchantPubkey productId : Text) : Int :=
  ((record.lines.filter fun line => line.isOf merchantPubkey productId).map CartLine.total).sum

variable (P : CartPlatform)

variable (fulfillment : Option Fulfillment)

def exceedsPickup (quantity : Rat) : Bool :=
  match fulfillment with
  | some (.eventMarketPickup p) => (p.occurrenceAssignment.getD []).any fun tag =>
      decide (tag[0]? = some "inventory".toList) && decide (tag[1]? = some "tracked".toList) &&
        ((tag[2]?.bind P.numberOf).any fun limit => decide (limit < quantity))
  | _ => false

def exceedsPickupLimit (quantity : Rat) : Bool :=
  match fulfillment with
  | some (.eventMarketPickup p) =>
    ((p.occurrenceAssignment.getD []).find? fun tag =>
      decide (tag[0]? = some "inventory".toList)).any fun tag =>
        decide (tag[1]? = some "tracked".toList) &&
          ((tag[2]?.bind P.numberOf).any fun limit => decide (limit < quantity))
  | _ => false

/-- `Math.max(1, Math.floor(quantity))`. -/
def requestedUnits (quantity : Int) : Int := max 1 quantity

variable (input : CartItemInput)

variable (context : EventMarketContext)

def MatchesPickup (p : PickupFulfillment) : Prop :=
  p.product.coordinate = input.productId ∧ some p.product.eventId = input.productEventId.join ∧
    p.market.coordinate = context.marketCoordinate ∧
    p.calendar.coordinate = context.calendarCoordinate

instance (input : CartItemInput) (context : EventMarketContext) (p : PickupFulfillment) :
    Decidable (MatchesPickup input context p) :=
  inferInstanceAs (Decidable (_ ∧ _ ∧ _ ∧ _))

def ValidDestination : Fulfillment → Prop
  | .eventMarketPickup p => MatchesPickup input context p
  | .shipping => (∃ id ∈ input.shippingOptionId.join, id ≠ []) ∧
      input.shippingOptionLaunchUnsupported.join ≠ some true
  | _ => False

instance (input : CartItemInput) (context : EventMarketContext) (f : Fulfillment) :
    Decidable (ValidDestination input context f) := by
  cases f <;> unfold ValidDestination <;> infer_instance

def moveTarget (index : Nat) (nextItem : CartItem) : Option (CartLine × Nat) :=
  record.lines.zipIdx.find? fun entry =>
    decide (entry.2 ≠ index) && entry.1.isOf nextItem.merchantPubkey nextItem.productId &&
      isSameCartLineFulfillment entry.1.item nextItem

def movedInput (line : CartLine) (input : CartItemInput) (fulfillment : Fulfillment) :
    CartItemInput :=
  CartItemInput.sanitize P
    { input with
      fulfillment := some (some fulfillment)
      quantity := line.total
      merchantAddedAt := some line.item.merchantAddedAt }

variable (identity : CartItemIdentity)

def changeCartRepositoryFulfillment (input : CartItemInput)
    (expectedRevision : Int) (record : CanonicalCartRecord) : Option CanonicalCartRecord := do
  permit (record.revision = expectedRevision ∧ identity.line ≠ none)
  let index ← findLineIndex record identity
  let line ← record.lines[index]?
  permit (input.productId = line.item.productId ∧
    input.merchantPubkey = line.item.merchantPubkey ∧ input.format.join = some .physical ∧
    hasStrictlyOlderProductRevision line.item.frontier input.toItem.frontier = false)
  let context ← input.eventMarketContext.join
  let fulfillment ← input.fulfillment.join
  permit (orderItemFulfillmentSchema P fulfillment = true ∧
    ValidDestination input context fulfillment)
  permit (∀ stock ∈ input.stock.join,
    productQuantity record input.merchantPubkey input.productId ≤ stock)
  permit (isSameCartLineFulfillment line.item input.toItem = false)
  let next := movedInput P line input fulfillment
  match moveTarget record index next.toItem with
  | some (target, at_) =>
    permit (hasStrictlyOlderProductRevision target.item.frontier next.toItem.frontier = false)
    let mergedItem := selectCartItemSnapshot P target.item next
    permit (∀ stock ∈ mergedItem.stock,
      productQuantity record input.merchantPubkey input.productId ≤ stock)
    let merged := { target with item := mergedItem }
    return { record with
      nextSequence := record.nextSequence + 1
      lines := (record.lines.set at_
        (merged.appendBatch record.nextSequence line.total)).eraseIdx index }
  | none =>
    return { record with
      nextSequence := record.nextSequence + 2
      lines := record.lines.set index
        { id := lineIdOf record.nextSequence
          item := next.toItem
          batches := [⟨batchIdOf (record.nextSequence + 1), line.total⟩] } }

def findLineOf (item : CartItem) : Option Nat :=
  record.lines.findIdx? fun line =>
    line.isOf item.merchantPubkey item.productId && isSameCartLineFulfillment line.item item

def addCartRepositoryItem (quantity now : Int)
    (record : CanonicalCartRecord) : Option CanonicalCartRecord := do
  permit (∀ f ∈ input.fulfillment.join, orderItemFulfillmentSchema P f = true)
  let requested := requestedUnits quantity
  let sanitized := CartItemInput.sanitize P { input with quantity := requested }
  let inCart := productQuantity record input.merchantPubkey input.productId
  match findLineOf record sanitized.toItem with
  | some index =>
    let line ← record.lines[index]?
    let nextItem := selectCartItemSnapshot P line.item sanitized
    permit (nextItem.stock ≠ some 0 ∧
      exceedsPickupLimit P nextItem.fulfillment (line.total + requested) = false ∧
      ∀ stock ∈ nextItem.stock, inCart + requested ≤ stock)
    return { record with
      nextSequence := record.nextSequence + 1
      lines := record.lines.set index
        (CartLine.appendBatch { line with item := nextItem } record.nextSequence requested) }
  | none =>
    let item := sanitized.toItem
    permit (item.stock ≠ some 0 ∧ exceedsPickup P item.fulfillment requested = false ∧
      ∀ stock ∈ item.stock, inCart + requested ≤ stock)
    let merchantAddedAt :=
      ((getMerchantAddedAt record input.merchantPubkey).or input.merchantAddedAt.join).getD now
    return { record with
      nextSequence := record.nextSequence + 2
      lines := record.lines ++
        [{ id := lineIdOf record.nextSequence
           item := { item with merchantAddedAt := some merchantAddedAt }
           batches := [⟨batchIdOf (record.nextSequence + 1), requested⟩] }] }

structure CartItemStockEvidence where
  stock : Option Int
  frontier : Frontier

def incrementStock (item : CartItem) : Option CartItemStockEvidence → Option Int
  | none => item.stock
  | some evidence =>
    if item.stock = none ∨
        hasStrictlyNewerProductRevision item.frontier evidence.frontier = true then evidence.stock
    else match evidence.stock, item.stock with
      | none, stock => stock
      | some a, some b => some (min b a)
      | some a, none => some a

def incrementCartRepositoryItem (quantity : Int)
    (currentStockEvidence : Option CartItemStockEvidence) (record : CanonicalCartRecord) :
    Option CanonicalCartRecord := do
  let index ← findLineIndex record identity
  let line ← record.lines[index]?
  let requested := requestedUnits quantity
  permit (exceedsPickup P line.item.fulfillment (line.total + requested) = false ∧
    ∀ stock ∈ incrementStock line.item currentStockEvidence,
      productQuantity record identity.merchantPubkey identity.productId + requested ≤ stock)
  return { record with
    nextSequence := record.nextSequence + 1
    lines := record.lines.set index (line.appendBatch record.nextSequence requested) }

def refreshAndIncrementCartRepositoryItem (input : CartItemInput)
    (quantity : Int) (record : CanonicalCartRecord) : Option CanonicalCartRecord := do
  permit (identity.line ≠ none)
  let index ← findLineIndex record identity
  let line ← record.lines[index]?
  let requested := requestedUnits quantity
  let sanitized := CartItemInput.sanitize P { input with quantity := line.total }
  permit (sanitized.merchantPubkey = line.item.merchantPubkey ∧
    sanitized.productId = line.item.productId ∧
    isSameCartLineFulfillment line.item sanitized.toItem = true)
  let nextItem := selectCartItemSnapshot P line.item sanitized
  permit (nextItem.stock ≠ some 0 ∧
    exceedsPickup P nextItem.fulfillment (line.total + requested) = false ∧
    ∀ stock ∈ nextItem.stock,
      productQuantity record input.merchantPubkey input.productId + requested ≤ stock)
  return { record with
    nextSequence := record.nextSequence + 1
    lines := record.lines.set index
      (CartLine.appendBatch { line with item := nextItem } record.nextSequence requested) }

structure CartAllocation where
  lineId : Text
  batches : List CartQuantityBatch

def CartLine.allocation (line : CartLine) : CartAllocation := ⟨line.id, line.batches⟩

/-- `quantityByBatch.get(id) ?? 0`. -/
def CartAllocation.quantityOf (allocation : CartAllocation) (id : Text) : Int :=
  match allocation.batches.reverse.find? fun b => decide (b.id = id) with
  | some b => b.quantity
  | none => 0

def consumeBatch (allocation : CartAllocation) (batch : CartQuantityBatch) :
    Option CartQuantityBatch :=
  let consumed := allocation.quantityOf batch.id
  if consumed ≤ 0 then some batch
  else if 0 < batch.quantity - consumed then
    some { batch with quantity := batch.quantity - consumed }
  else none

def removeAllocation (allocation : CartAllocation) : List CartLine → Bool × List CartLine
  | [] => (false, [])
  | line :: rest =>
    if line.id = allocation.lineId then
      let batches := line.batches.filterMap (consumeBatch allocation)
      (line.batches.any fun batch => decide (0 < allocation.quantityOf batch.id),
        if batches = [] then rest else { line with batches := batches } :: rest)
    else
      let (changed, lines) := removeAllocation allocation rest
      (changed, line :: lines)

def removeAllocations : List CartAllocation → List CartLine → Bool × List CartLine
  | [], lines => (false, lines)
  | allocation :: rest, lines =>
    let (first, lines) := removeAllocation allocation lines
    let (later, lines) := removeAllocations rest lines
    (first || later, lines)

def removeAllocatedBatches (allocations : List CartAllocation) (record : CanonicalCartRecord) :
    Option CanonicalCartRecord :=
  match removeAllocations allocations record.lines with
  | (true, lines) => some { record with lines := lines }
  | (false, _) => none

variable (observed : CanonicalCartRecord)

def observedLine (identity : CartItemIdentity) : Option CartLine :=
  (findLineIndex observed identity).bind fun index => observed.lines[index]?

def takeUnit (batches : List CartQuantityBatch) (index : Nat) : List CartQuantityBatch :=
  match batches[index]? with
  | some batch =>
    if 1 < batch.quantity then batches.set index { batch with quantity := batch.quantity - 1 }
    else batches.eraseIdx index
  | none => batches

def observedBatch (observed : List CartQuantityBatch) (batches : List CartQuantityBatch) :
    Option Nat :=
  observed.reverse.findSome? fun seen => batches.findIdx? fun batch => decide (batch.id = seen.id)

def decrementCartRepositoryItem (identity : CartItemIdentity)
    (record : CanonicalCartRecord) : Option CanonicalCartRecord := do
  let seen ← observedLine observed identity
  let index ← record.lines.findIdx? fun line => decide (line.id = seen.id)
  let line ← record.lines[index]?
  let batchIndex ← observedBatch seen.batches line.batches
  let batches := takeUnit line.batches batchIndex
  return { record with
    lines := if batches = [] then record.lines.eraseIdx index
      else record.lines.set index { line with batches := batches } }

def removeCartRepositoryItem (identity : CartItemIdentity) :
    CanonicalCartRecord → Option CanonicalCartRecord :=
  removeAllocatedBatches ((observedLine observed identity).toList.map CartLine.allocation)

def clearCartRepository : CanonicalCartRecord → Option CanonicalCartRecord :=
  removeAllocatedBatches (observed.lines.map CartLine.allocation)

variable (purchaseId : PurchaseId)

def purchaseLineIds : List Text :=
  match (groupCartPurchases (materializeLines record.lines)).find? fun group =>
      decide (group.id = purchaseId) with
  | some purchase => purchase.items.filterMap CartItem.cartLineId
  | none => []

def purchaseAllocations : List CartAllocation :=
  (record.lines.filter fun line =>
    decide (line.id ∈ purchaseLineIds record purchaseId)).map CartLine.allocation

def clearCartRepositoryPurchase : CanonicalCartRecord → Option CanonicalCartRecord :=
  removeAllocatedBatches (purchaseAllocations observed purchaseId)

structure CartPurchaseClaim where
  purchaseId : PurchaseId
  allocations : List CartAllocation

def consumeCartPurchase (claim : CartPurchaseClaim) :
    CanonicalCartRecord → Option CanonicalCartRecord :=
  removeAllocatedBatches claim.allocations

inductive InstallRefusal where
  | cartConflict
  | invalidPurchase
  | revisionConflict
  | storageUnavailable

variable (proposed : List CartItemInput)

variable (merchant : Text)

variable (expectedRevision : Int)

def ValidProposal : Prop :=
  proposed ≠ [] ∧ proposed.length ≤ 20 ∧ IsSafeInteger expectedRevision ∧
    0 ≤ expectedRevision ∧ (proposed.map (·.productId)).Nodup ∧
    (∀ item ∈ proposed, IsSafeInteger item.quantity ∧ 1 ≤ item.quantity ∧ item.quantity ≤ 99 ∧
      item.merchantPubkey = merchant ∧ isPickupCartItem item.toItem = false ∧
      ∀ stock ∈ item.stock.join, item.quantity ≤ stock) ∧
    (proposed.map (·.quantity)).sum ≤ 100
  deriving Decidable

def deliveryGroup (lines : List CartLine) (merchant : Text) : Option CartPurchaseGroup :=
  (groupCartPurchases (materializeLines lines)).find? fun group =>
    decide (group.merchantPubkey = merchant) && decide (group.kind = .delivery)

def sameItems (existing : Option CartPurchaseGroup) (proposed : List CartItemInput) : Bool :=
  match existing with
  | some group => decide (group.items.length = proposed.length) &&
      proposed.all fun item => group.items.any fun current =>
        decide (current.productId = item.productId ∧ current.quantity = item.quantity)
  | none => false

/-- `byProduct.get(productId)` and the line's merchant. -/
def proposedFor (line : CartLine) : Option CartItemInput :=
  if line.item.merchantPubkey = merchant then
    proposed.reverse.find? fun item => decide (item.productId = line.item.productId)
  else none

def refreshLine (line : CartLine) : CartLine :=
  match proposedFor proposed merchant line with
  | some item => { line with
      item := selectCartItemSnapshot P line.item (CartItemInput.sanitize P item) }
  | none => line

def pushProposed (merchantAddedAt : Int) (record : CanonicalCartRecord) (item : CartItemInput) :
    CanonicalCartRecord :=
  { record with
    nextSequence := record.nextSequence + 2
    lines := record.lines ++
      [{ id := lineIdOf record.nextSequence
         item := sanitizeCartItemImage P
          { item.toItem with
            cartLineId := some (lineIdOf record.nextSequence)
            merchantAddedAt := some merchantAddedAt }
         batches := [⟨batchIdOf (record.nextSequence + 1), item.quantity⟩] }] }

def replaceDelivery (now : Int) (record : CanonicalCartRecord) : CanonicalCartRecord :=
  let existing := deliveryGroup record.lines merchant
  let removed := (existing.map fun group => group.items.filterMap CartItem.cartLineId).getD []
  let merchantAddedAt := ((existing.map CartPurchaseGroup.merchantAddedAt).or
    (getMerchantAddedAt record merchant)).getD now
  proposed.foldl (pushProposed P merchantAddedAt)
    { record with lines := record.lines.filter fun line => decide (line.id ∉ removed) }

inductive InstallStatus where
  | installed
  | unchanged

structure Installed where
  status : InstallStatus
  purchaseId : PurchaseId
  put : Option CanonicalCartRecord

def finishInstall (status : InstallStatus) (merchant : Text) (now : Int)
    (record : CanonicalCartRecord) : Except InstallRefusal Installed :=
  match deliveryGroup record.lines merchant with
  | some purchase => .ok ⟨status, purchase.id,
      some { record with revision := record.revision + 1, updatedAt := now }⟩
  | none => .error .storageUnavailable

def installInto (replaceExisting : Bool) (now : Int) (record : CanonicalCartRecord) :
    Except InstallRefusal Installed :=
  let existing := deliveryGroup record.lines merchant
  let same := sameItems existing proposed
  if record.revision ≠ expectedRevision then .error .revisionConflict
  else if existing.isSome = true ∧ same = false ∧ replaceExisting = false then .error .cartConflict
  else match existing, same with
    | some group, true =>
      let lines := record.lines.map (refreshLine P proposed merchant)
      if lines = record.lines then .ok ⟨.unchanged, group.id, none⟩
      else finishInstall .unchanged merchant now { record with lines := lines }
    | _, _ => finishInstall .installed merchant now (replaceDelivery P proposed merchant now record)

def installCheckoutIntentPurchase
    (replaceExisting : Bool) (now : Int) (record : CanonicalCartRecord) :
    Except InstallRefusal Installed :=
  match groupCartPurchases (proposed.map CartItemInput.toItem) with
  | [incoming] =>
    if incoming.kind = .delivery ∧
        ValidProposal proposed incoming.merchantPubkey expectedRevision then
      installInto P proposed incoming.merchantPubkey expectedRevision replaceExisting now record
    else .error .invalidPurchase
  | _ => .error .invalidPurchase

end Conduit.Cart
