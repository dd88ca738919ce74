import Conduit.Cart.Item

namespace Conduit.Cart

open Js Throwing

structure CartQuantityBatch where
  id : Text
  quantity : Int
  deriving DecidableEq

structure CartLine where
  id : Text
  item : CartItem
  batches : List CartQuantityBatch
  deriving DecidableEq

structure CanonicalCartRecord where
  id : Text
  (version revision nextSequence : Int)
  lines : List CartLine
  (migratedAt updatedAt : Int)
  deriving DecidableEq

/-- `line.batches.reduce((sum, batch) => sum + batch.quantity, 0)`. -/
def CartLine.total (line : CartLine) : Int := (line.batches.map (·.quantity)).sum

def cartRecordId : Text := "market"

def cartRecordVersion : Int := 1

def materializeLine (line : CartLine) : CartItem :=
  { line.item with cartLineId := some line.id, quantity := line.total }

def materializeLines (lines : List CartLine) : List CartItem := lines.map materializeLine

def lineIdOf (n : Int) : Text := "line:".toList ++ numberText n

def batchIdOf (n : Int) : Text := "batch:".toList ++ numberText n

def memoryBatchIdOf (n : Int) : Text := "memory:".toList ++ batchIdOf n

def createEmptyRecord (migratedAt : Int) : CanonicalCartRecord where
  id := cartRecordId
  version := cartRecordVersion
  revision := 0
  nextSequence := 1
  lines := []
  migratedAt := migratedAt
  updatedAt := migratedAt

variable (P : CartPlatform)

variable (record : CanonicalCartRecord)

/-- A line of a cart that the retired storage held takes two numbers. -/
def pushLegacyItem (legacyItem : CartItem) : CanonicalCartRecord :=
  let quantity := max 1 legacyItem.quantity
  { record with
    nextSequence := record.nextSequence + 2
    lines := record.lines ++
      [{ id := lineIdOf record.nextSequence
         item := { sanitizeCartItemImage P legacyItem with cartLineId := none, quantity }
         batches := [⟨batchIdOf (record.nextSequence + 1), quantity⟩] }] }

variable (items : List CartItem)

def createRecordFromLegacy (now : Int) : CanonicalCartRecord :=
  items.foldl (pushLegacyItem P) (createEmptyRecord now)

def pushSnapshotItem (current : CartItem) : CanonicalCartRecord :=
  let quantity := max 1 current.quantity
  let n := record.nextSequence
  match current.cartLineId with
  | some lineId =>
    { record with
      nextSequence := n + 1
      lines := record.lines ++
        [{ id := lineId
           item := { current with cartLineId := none, quantity }
           batches := [⟨memoryBatchIdOf n, quantity⟩] }] }
  | none =>
    { record with
      nextSequence := n + 2
      lines := record.lines ++
        [{ id := lineIdOf n
           item := { current with cartLineId := none, quantity }
           batches := [⟨memoryBatchIdOf (n + 1), quantity⟩] }] }

def createMemoryRecordFromSnapshot (revision now : Int) : CanonicalCartRecord :=
  items.foldl pushSnapshotItem
    { createEmptyRecord now with revision := revision, nextSequence := max 1 now }

def ValidBatches (batches : List CartQuantityBatch) : Prop :=
  batches ≠ [] ∧ (∀ b ∈ batches, b.id ≠ [] ∧ IsSafeInteger b.quantity ∧ 0 < b.quantity) ∧
    (batches.map (·.id)).Nodup
  deriving Decidable

variable (isVerified : Text → Bool)

/-- `parsePersistedCart` of one item keeps it or drops it. -/
def parseStoredLine (value : CartLine) : Option CartLine :=
  if ValidBatches value.batches then
    (parseCartItem P isVerified { value.item with quantity := value.total }).map fun item =>
      { value with item := sanitizeCartItemImage P item }
  else none

def malformedLine : Failure := .error "Malformed canonical cart line"

def duplicateLine : Failure := .error "Duplicate canonical cart line"

def parseStoredLines (isVerified : Text → Bool) :
    List CartLine → List Text → List ((Text × Text) × FulfillmentId) → Result (List CartLine)
  | [], _, _ => .ok []
  | candidate :: rest, lineIds, lineKeys =>
    match parseStoredLine P isVerified candidate with
    | none => .error malformedLine
    | some line =>
      if line.id ∈ lineIds then .error malformedLine
      else if lineKey line.item ∈ lineKeys then .error duplicateLine
      else do
        let lines ← parseStoredLines isVerified rest (line.id :: lineIds)
          (lineKey line.item :: lineKeys)
        return line :: lines

def malformedRecord : Failure := .error "Unsupported or malformed canonical cart record"

def parseStoredRecord (value : CanonicalCartRecord) : Result CanonicalCartRecord := do
  reject (value.id ≠ cartRecordId ∨ value.version ≠ cartRecordVersion ∨
    ¬ IsSafeInteger value.revision ∨ value.revision < 0 ∨ ¬ IsSafeInteger value.nextSequence ∨
    value.nextSequence < 1) malformedRecord
  let lines ← parseStoredLines P isVerified value.lines [] []
  return { value with lines := lines }

/-- The answers of `admitPublicEvent`. -/
inductive Admission where
  | verified
  | rejected
  | unavailable

def verificationUnavailable : Failure :=
  .error "Cart product verification is unavailable. Retry before checking out."

variable (admitPublicEvent : Text → Admission)

variable (item : CartItem)

def restoreCartItemEvidence : Result CartItem :=
  match item.signedProductEvent with
  | none => .ok item
  | some event =>
    match admitPublicEvent event with
    | .unavailable => .error verificationUnavailable
    | .verified => .ok item
    | .rejected => .ok { item with signedProductEvent := none }

def restoreLine (line : CartLine) : Result CartLine := do
  let item ← restoreCartItemEvidence admitPublicEvent line.item
  return { line with item := item }

def restoreStoredRecord (value : CanonicalCartRecord) : Result CanonicalCartRecord := do
  let lines ← mapResult (restoreLine admitPublicEvent) value.lines
  parseStoredRecord P (fun _ => true) { value with lines := lines }

/-- Safe quantity and removal edits carry the stored evidence along without trusting it. -/
def preserveStoredProductEvidence (record stored : CanonicalCartRecord) : CanonicalCartRecord :=
  { record with
    lines := record.lines.map fun line =>
      { line with
        item :=
          { line.item with
            signedProductEvent := ((stored.lines.reverse.find? fun l => decide (l.id = line.id)).bind
              (·.item.signedProductEvent)) } } }

inductive PurchaseKind where
  | delivery
  | pickup
  deriving DecidableEq

def isPickupCartItem : Bool :=
  match item.fulfillment with
  | some (.eventMarketPickup _) => true
  | _ => false

/-- `JSON.stringify([merchantPubkey, compatibility])`. -/
inductive PurchaseId where
  | delivery (merchantPubkey : Text)
  | pickup (merchantPubkey : Text) (parts : List Text)
  deriving DecidableEq

def getCartPurchaseGroupId : PurchaseId :=
  match item.fulfillment with
  | some (.eventMarketPickup p) =>
    .pickup item.merchantPubkey
      [p.market.coordinate, p.calendar.coordinate, p.merchantPubkey, p.payeePubkey]
  | _ => .delivery item.merchantPubkey

def isSameCartFulfillment (left right : CartItem) : Bool :=
  if getCartItemFulfillmentType left ≠ getCartItemFulfillmentType right then false
  else if getCartItemFulfillmentType left = .eventMarketPickup then
    match left.fulfillment, right.fulfillment with
    | some (.eventMarketPickup p), some (.eventMarketPickup q) =>
      decide (p.market.coordinate = q.market.coordinate ∧
        p.calendar.coordinate = q.calendar.coordinate ∧ p.merchantPubkey = q.merchantPubkey ∧
        p.payeePubkey = q.payeePubkey)
    | _, _ => false
  else true

structure MerchantCartGroup where
  merchantPubkey : Text
  merchantAddedAt : Int
  firstSeenIndex : Nat

def addToMerchants (groups : List MerchantCartGroup) (entry : CartItem × Nat) :
    List MerchantCartGroup :=
  let orderKey := entry.1.merchantAddedAt.getD entry.2
  if groups.any fun g => decide (g.merchantPubkey = entry.1.merchantPubkey) then
    groups.map fun g =>
      if g.merchantPubkey = entry.1.merchantPubkey then
        { g with merchantAddedAt := min g.merchantAddedAt orderKey }
      else g
  else groups ++ [⟨entry.1.merchantPubkey, orderKey, entry.2⟩]

def addedLater (a b : MerchantCartGroup) : Prop :=
  b.merchantAddedAt < a.merchantAddedAt ∨
    b.merchantAddedAt = a.merchantAddedAt ∧ b.firstSeenIndex ≤ a.firstSeenIndex
  deriving Decidable

def groupCartItems : List MerchantCartGroup :=
  (items.zipIdx.foldl addToMerchants []).insertionSort addedLater

structure CartPurchaseGroup where
  id : PurchaseId
  kind : PurchaseKind
  merchantPubkey : Text
  items : List CartItem
  merchantAddedAt : Int
  firstSeenIndex : Nat

def purchaseKind : PurchaseKind :=
  if isPickupCartItem item = true then .pickup else .delivery

def CartPurchaseGroup.takes (group : CartPurchaseGroup) (item : CartItem) : Bool :=
  decide (group.merchantPubkey = item.merchantPubkey) && decide (group.kind = purchaseKind item) &&
    (decide (purchaseKind item = .delivery) ||
      group.items.head?.any fun first => isSameCartFulfillment first item)

variable (merchants : List MerchantCartGroup)

def newPurchase (item : CartItem) (index : Nat) : CartPurchaseGroup where
  id := getCartPurchaseGroupId item
  kind := purchaseKind item
  merchantPubkey := item.merchantPubkey
  items := [item]
  merchantAddedAt :=
    match merchants.find? fun g => decide (g.merchantPubkey = item.merchantPubkey) with
    | some g => g.merchantAddedAt
    | none => item.merchantAddedAt.getD index
  firstSeenIndex := index

def addToPurchases (merchants : List MerchantCartGroup) (item : CartItem) (index : Nat) :
    List CartPurchaseGroup → List CartPurchaseGroup
  | [] => [newPurchase merchants item index]
  | group :: rest =>
    if group.takes item = true then { group with items := group.items ++ [item] } :: rest
    else group :: addToPurchases merchants item index rest

def shownBefore (left right : CartPurchaseGroup) : Prop :=
  let order (group : CartPurchaseGroup) : Nat :=
    (merchants.findIdx? fun g => decide (g.merchantPubkey = group.merchantPubkey)).getD 0
  order left < order right ∨ order left = order right ∧ left.firstSeenIndex ≤ right.firstSeenIndex
  deriving Decidable

def groupCartPurchases : List CartPurchaseGroup :=
  let merchants := groupCartItems items
  (items.zipIdx.foldl (fun groups entry => addToPurchases merchants entry.1 entry.2 groups)
    []).insertionSort (shownBefore merchants)

end Conduit.Cart
