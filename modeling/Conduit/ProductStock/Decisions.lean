import Conduit.Joined
import Conduit.Js.Uri
import Conduit.Stock.Records
import Conduit.Unreliable

namespace Conduit.ProductStock

open Js Stock Throwing Unreliable

inductive ProductStockDecisionKind where
  | applied
  | declined
  | unpublished
  deriving DecidableEq

structure OrderStockAdjustment where
  (key addressId sourceEventId title : Text)
  (quantity currentStock nextStock shortfall : Int)
  /-- `targetMode === "custom"`. -/
  custom : Bool
  deriving DecidableEq

structure ProductStockDecision where
  kind : ProductStockDecisionKind
  decidedAt : Int
  adjustment : Option OrderStockAdjustment
  localEventId : Option Text
  deriving DecidableEq

structure PendingProductStockDelivery where
  orderId : Text
  adjustment : OrderStockAdjustment
  signedEvent : SignedEvent
  savedAt : Int
  deriving DecidableEq

/-- The two items: nothing where the item was never written, else its entries in order. -/
structure StockStorage where
  decisions : Option (List (Text × ProductStockDecision))
  deliveries : Option (List (Text × PendingProductStockDelivery))

/-- The merchant's account, and what is taken from the event's signature check and from the parser
of listings. -/
structure StockPlatform where
  merchantPubkey : Text
  isValidSignedPublicNostrEvent : SignedEvent → Bool
  /-- The id and the stock of the listing, or nothing where the parser throws. -/
  parsePrivateOrderProductFields : SignedEvent → Option (Text × Option Int)

def maxStoredStockDecisions : Nat := 500

def maxStoredStockDeliveries : Nat := 100

/-- `EVENT_KINDS.PRODUCT`. -/
def productKind : Int := 30402

def getOrderStockDecisionKey (orderId productAddressId : Text) : Text :=
  encodeURIComponent (trim orderId) ++ ':' :: encodeURIComponent (trim productAddressId)

def getDecisionProductAddressId (decisionKey : Text) : Option Text := do
  match split ':' decisionKey with
  | [orderPart, productPart] =>
    guard (orderPart ≠ [] ∧ productPart ≠ [])
    let orderId ← decodeURIComponent orderPart
    let productAddressId ← decodeURIComponent productPart
    guard (trim orderId ≠ [] ∧ trim productAddressId ≠ [])
    guard (getOrderStockDecisionKey orderId productAddressId = decisionKey)
    return productAddressId
  | _ => none

def isDecisionBoundToProduct (decision : ProductStockDecision) (decisionKey productAddressId : Text) :
    Prop :=
  ∀ adjustment ∈ decision.adjustment,
    adjustment.key = decisionKey ∧ adjustment.addressId = productAddressId
  deriving Decidable

def parseOrderStockAdjustment (a : OrderStockAdjustment) : Option OrderStockAdjustment := do
  guard (IsSafeInteger a.quantity ∧ 0 < a.quantity)
  guard (IsSafeInteger a.currentStock ∧ 0 ≤ a.currentStock)
  guard (IsSafeInteger a.nextStock ∧ 0 ≤ a.nextStock)
  guard (IsSafeInteger a.shortfall ∧ 0 ≤ a.shortfall)
  guard (a.custom = true ∨ a.nextStock = max 0 (a.currentStock - a.quantity))
  guard (a.shortfall = max 0 (a.quantity - a.currentStock))
  return a

def parseDecision (key : Text) (d : ProductStockDecision) : Option ProductStockDecision := do
  let adjustment ← match d.adjustment with
    | none => some none
    | some a => (parseOrderStockAdjustment a).map some
  guard (∀ a ∈ adjustment, a.key = key ∧ some a.addressId = getDecisionProductAddressId key)
  guard (d.kind = .unpublished → adjustment ≠ none ∧ ∃ id ∈ d.localEventId, IsHex64 id)
  return ⟨d.kind, d.decidedAt, adjustment,
    if d.kind = .unpublished then d.localEventId else none⟩

def parseStoredDecisionsStrict (raw : Option (List (Text × ProductStockDecision))) :
    Result (List (Text × ProductStockDecision)) := do
  let entries := raw.getD []
  let decisions := entries.filterMap fun e => (parseDecision e.1 e.2).map fun d => (e.1, d)
  reject (decisions.length ≠ entries.length)
    (.error "Stored stock decisions contain invalid order evidence")
  return decisions

/-- The address of the listing, from its first tag `d` that is not empty. -/
def getSignedProductAddressId (event : SignedEvent) : Option Text :=
  if event.kind ≠ productKind then none
  else
    let tag := event.tags.find? fun tag =>
      decide (tag.head? = some "d".toList ∧ tag.getD 1 [] ≠ [])
    tag.map fun tag => numberText event.kind ++ ':' :: event.pubkey ++ ':' :: tag.getD 1 []

section
variable (P : StockPlatform)

def parsePendingProductStockDelivery (delivery : PendingProductStockDelivery)
    (storedDeliveryKey : Option Text) : Option PendingProductStockDelivery := do
  let adjustment ← parseOrderStockAdjustment delivery.adjustment
  guard (trim delivery.orderId ≠ [])
  guard (P.isValidSignedPublicNostrEvent delivery.signedEvent = true)
  guard (delivery.signedEvent.pubkey = P.merchantPubkey)
  guard (getSignedProductAddressId delivery.signedEvent = some adjustment.addressId)
  let orderId := trim delivery.orderId
  let canonicalKey := getOrderStockDecisionKey orderId adjustment.addressId
  guard (adjustment.key = canonicalKey ∧ ∀ key ∈ storedDeliveryKey, key = canonicalKey)
  let signedProduct ← P.parsePrivateOrderProductFields delivery.signedEvent
  guard (signedProduct.1 = adjustment.addressId ∧ signedProduct.2 = some adjustment.nextStock)
  return ⟨orderId, adjustment, delivery.signedEvent, delivery.savedAt⟩

def parseStoredDeliveriesStrict (raw : Option (List (Text × PendingProductStockDelivery))) :
    Result (List (Text × PendingProductStockDelivery)) := do
  let entries := raw.getD []
  let deliveries := entries.filterMap fun e =>
    (parsePendingProductStockDelivery P e.2 (some e.1)).map fun d => (e.1, d)
  reject (deliveries.length ≠ entries.length)
    (.error "Stored stock checkpoints contain invalid order evidence")
  return deliveries

abbrev Stored (α : Type) : Type := Faulty StockStorage Failure α

def storageFailure : Failure := .error "storage"

def loadDecisions : Stored (List (Text × ProductStockDecision)) := do
  let raw ← Faulty.read storageFailure (·.decisions)
  Faulty.ofResult (parseStoredDecisionsStrict raw)

def loadDeliveries : Stored (List (Text × PendingProductStockDelivery)) := do
  let raw ← Faulty.read storageFailure (·.deliveries)
  Faulty.ofResult (parseStoredDeliveriesStrict P raw)

/-- `stored[key]`. -/
def entryAt {α : Type} (key : Text) (entries : List (Text × α)) : Option α :=
  (lookup Prod.fst key entries).map Prod.snd

/-- `Object.entries(...).sort(...)`. -/
def newestFirst {α : Type} (time : α → Int) (key : Text) (entries : List (Text × α)) :
    List (Text × α) :=
  sortBy (fun left right => decide (time right.2 < time left.2 ∨
    time left.2 = time right.2 ∧ (left.1 = key ∨ right.1 ≠ key))) entries

namespace ProductStockDecisionStore

def getPersisted (orderId productAddressId : Text) : Stored (Option ProductStockDecision) := do
  let normalizedProductAddressId := trim productAddressId
  let decisionKey := getOrderStockDecisionKey orderId normalizedProductAddressId
  let decisions ← loadDecisions
  let decision := entryAt decisionKey decisions
  Faulty.rejectIf (∃ d ∈ decision,
      ¬ isDecisionBoundToProduct d decisionKey normalizedProductAddressId)
    (.error "Stored stock decision belongs to another product")
  return decision

def getPersistedForMerchant : Stored (List ProductStockDecision) := do
  let decisions ← loadDecisions
  return decisions.map Prod.snd

/-- What `set` does in its `try`, when the decision must be durable. -/
def save (decisionKey : Text) (decision : ProductStockDecision) : Stored Bool := do
  let stored ← loadDecisions
  if entryAt decisionKey stored = none ∧ maxStoredStockDecisions ≤ stored.length then
    return false
  let entries := newestFirst (·.decidedAt) decisionKey
    (mapSet Prod.fst stored (decisionKey, decision))
  Faulty.write storageFailure fun s =>
    { s with decisions := some (entries.take maxStoredStockDecisions) }
  let persisted ← loadDecisions
  return decide (entryAt decisionKey persisted = some decision)

/-- `set(..., { requireDurable: true })`, at the time `now`. -/
def set (now : Int) (orderId productAddressId : Text) (kind : ProductStockDecisionKind)
    (adjustment : OrderStockAdjustment) (localEventId : Option Text) : Stored Bool := do
  let normalizedProductAddressId := trim productAddressId
  let decisionKey := getOrderStockDecisionKey orderId normalizedProductAddressId
  Faulty.rejectIf (adjustment.key ≠ decisionKey ∨
      adjustment.addressId ≠ normalizedProductAddressId)
    (.error "Stock decision adjustment does not match the order product")
  Faulty.rejectIf (kind = .unpublished ∧ ¬ ∃ id ∈ localEventId, IsHex64 id)
    (.error "An unpublished stock decision requires its exact local revision")
  (save decisionKey ⟨kind, now, some adjustment,
    if kind = .unpublished then localEventId else none⟩).orElse false

end ProductStockDecisionStore

namespace PendingProductStockDeliveryStore

def getPersistedForMerchant : Stored (List PendingProductStockDelivery) := do
  let deliveries ← loadDeliveries P
  return deliveries.map Prod.snd

def save (deliveryKey : Text) (pending : PendingProductStockDelivery) : Stored Bool := do
  let stored ← loadDeliveries P
  if entryAt deliveryKey stored = none ∧ maxStoredStockDeliveries ≤ stored.length then
    return false
  let entries := newestFirst (·.savedAt) deliveryKey
    (mapSet Prod.fst stored (deliveryKey, pending))
  Faulty.write storageFailure fun s =>
    { s with deliveries := some (entries.take maxStoredStockDeliveries) }
  let persisted ← loadDeliveries P
  return decide (entryAt deliveryKey persisted = some pending)

/-- `set(..., { requireDurable: true })`, at the time `now`. -/
def set (now : Int) (orderId : Text) (adjustment : OrderStockAdjustment)
    (signedEvent : SignedEvent) : Stored Bool :=
  match parsePendingProductStockDelivery P ⟨trim orderId, adjustment, signedEvent, now⟩ none with
  | none => Faulty.throw (.error "Expected a valid signed product stock delivery")
  | some pending =>
    (save P (getOrderStockDecisionKey pending.orderId pending.adjustment.addressId)
      pending).orElse false

def drop (deliveryKey : Text) : Stored Bool := do
  let stored ← loadDeliveries P
  Faulty.write storageFailure fun s =>
    { s with deliveries := some (stored.filter fun e => decide (e.1 ≠ deliveryKey)) }
  let persisted ← loadDeliveries P
  return decide (entryAt deliveryKey persisted = none)

/-- `delete(..., { requireDurable: true })`. -/
def delete (orderId productAddressId : Text) : Stored Bool :=
  (drop P (getOrderStockDecisionKey orderId productAddressId)).orElse false

end PendingProductStockDeliveryStore

open ProductStockDecisionStore in
def undecidedPendingKeys : List PendingProductStockDelivery → Stored (List Text)
  | [] => return []
  | pending :: rest => do
    let decision ← getPersisted pending.orderId pending.adjustment.addressId
    let keys ← undecidedPendingKeys rest
    return if decision = none then pending.adjustment.key :: keys else keys

/-- `SignedOrderStockCheckpointInput`, with whether `assertCurrentWriteBaseline` passes and the
time of the call. -/
structure CheckpointInput where
  orderId : Text
  adjustment : OrderStockAdjustment
  signedEvent : SignedEvent
  expectedUnpublishedEventId : Option Text
  currentWriteBaseline : Bool
  now : Int

def Supersedes (decision : Option ProductStockDecision) (signedEvent : SignedEvent) : Prop :=
  ∃ d ∈ decision, d.kind = .applied ∨ d.kind = .unpublished ∧ d.localEventId = some signedEvent.id
  deriving Decidable

open ProductStockDecisionStore in
def retirePending (input : CheckpointInput) : List PendingProductStockDelivery → Stored Unit
  | [] => return ()
  | pending :: rest => do
    let pendingDecision ← getPersisted pending.orderId pending.adjustment.addressId
    if Supersedes pendingDecision pending.signedEvent then
      let _ ← PendingProductStockDeliveryStore.delete P pending.orderId
        pending.adjustment.addressId
      retirePending input rest
    else
      Faulty.rejectIf (pending.adjustment.key ≠ input.adjustment.key ∨
          pending.signedEvent.id ≠ input.signedEvent.id ∨ pending.adjustment ≠ input.adjustment)
        (.error "Another signed stock update for this product is awaiting delivery")
      retirePending input rest

def Expected (decision : Option ProductStockDecision) : Option Text → Prop
  | none => decision = none
  | some eventId => ∃ d ∈ decision, d.kind = .unpublished ∧ d.localEventId = some eventId

instance (decision : Option ProductStockDecision) : (expected : Option Text) →
    Decidable (Expected decision expected)
  | none => inferInstanceAs (Decidable (decision = none))
  | some _ => inferInstanceAs (Decidable (∃ _ ∈ _, _))

def expectationFailure : Option Text → Failure
  | none => .error "This order's stock was already handled"
  | some _ => .error "This order's stock recovery changed in another tab"

open ProductStockDecisionStore in
def checkpointSignedOrderStockDelivery (input : CheckpointInput) : Stored Unit := do
  Faulty.rejectIf (input.currentWriteBaseline = false) (.error "baseline")
  let decision ← getPersisted input.orderId input.adjustment.addressId
  Faulty.rejectIf (¬ Expected decision input.expectedUnpublishedEventId)
    (expectationFailure input.expectedUnpublishedEventId)
  let decisions ← ProductStockDecisionStore.getPersistedForMerchant
  Faulty.rejectIf (∃ candidate ∈ decisions, candidate.kind ≠ .declined ∧
      ∃ a ∈ candidate.adjustment, a.key ≠ input.adjustment.key ∧
        a.addressId = input.adjustment.addressId ∧
        a.sourceEventId = input.adjustment.sourceEventId)
    (.error ("Another order already updated this product revision. " ++
      "Refresh the listing before continuing."))
  let allPending ← PendingProductStockDeliveryStore.getPersistedForMerchant P
  let undecided ← undecidedPendingKeys allPending
  let reservedDecisionSlots := decisions.length + undecided.eraseDups.length +
    if decision ≠ none ∨ input.adjustment.key ∈ undecided then 0 else 1
  Faulty.rejectIf (maxStoredStockDecisions < reservedDecisionSlots)
    (.error "Stock decision storage is full. No product change was staged.")
  retirePending P input (allPending.filter fun pending =>
    decide (pending.adjustment.addressId = input.adjustment.addressId))
  let saved ← PendingProductStockDeliveryStore.set P input.now input.orderId input.adjustment
    input.signedEvent
  Faulty.rejectIf (saved = false)
    (.error ("Could not save the signed stock update for recovery. " ++
      "No product change was staged."))

structure ConfirmInput where
  orderId : Text
  adjustment : OrderStockAdjustment
  signedEventId : Text

def ExactPending (pending : Option PendingProductStockDelivery) (adjustment : OrderStockAdjustment)
    (signedEventId : Text) : Prop :=
  ∃ p ∈ pending, p.signedEvent.id = signedEventId ∧ p.adjustment = adjustment
  deriving Decidable

open ProductStockDecisionStore in
def confirmExactPendingStockDelivery (input : ConfirmInput) : Stored Unit := do
  let allPending ← PendingProductStockDeliveryStore.getPersistedForMerchant P
  let pending := lookup (·.adjustment.key) input.adjustment.key allPending
  let decision ← getPersisted input.orderId input.adjustment.addressId
  Faulty.rejectIf (¬ ExactPending pending input.adjustment input.signedEventId ∨
      ∃ d ∈ decision, d.kind = .applied ∨ d.kind = .declined ∨
        d.kind = .unpublished ∧ d.localEventId = some input.signedEventId)
    (.error ("This exact stock update is no longer awaiting delivery. " ++
      "Refresh orders before retrying."))

inductive SettleKind where
  | applied
  | unpublished
  deriving DecidableEq

def SettleKind.decision : SettleKind → ProductStockDecisionKind
  | .applied => .applied
  | .unpublished => .unpublished

structure SettleInput where
  orderId : Text
  adjustment : OrderStockAdjustment
  signedEventId : Text
  kind : SettleKind
  now : Int

inductive Settlement where
  | saved
  | retry
  | stale
  deriving DecidableEq

open ProductStockDecisionStore in
def settleSignedOrderStockDelivery (input : SettleInput) : Stored Settlement := do
  let allPending ← PendingProductStockDeliveryStore.getPersistedForMerchant P
  let pending := lookup (·.adjustment.key) input.adjustment.key allPending
  if ¬ ExactPending pending input.adjustment input.signedEventId then return .stale
  let decision ← getPersisted input.orderId input.adjustment.addressId
  if ∃ d ∈ decision, d.kind = .applied ∨ d.kind = .declined then return .stale
  let decided ← ProductStockDecisionStore.set input.now input.orderId input.adjustment.addressId
    input.kind.decision input.adjustment
    (if input.kind = .unpublished then some input.signedEventId else none)
  if decided = false then return .retry
  -- a failed deletion leaves a redundant checkpoint that the decision supersedes
  let _ ← PendingProductStockDeliveryStore.delete P input.orderId input.adjustment.addressId
  return .saved

end

end Conduit.ProductStock
