import Conduit.CheckoutSpark.EventBinding

namespace Conduit.Cart

open Js
open CheckoutSpark (parseAddressableCoordinate codeUnits)

structure SourceAmount where
  amount : Rat
  (currency normalizedCurrency : Text)
  deriving DecidableEq

inductive ProductFormat where
  | physical
  | digital
  deriving DecidableEq

structure EvidenceCoordinate where
  (coordinate eventId : Text)
  deriving DecidableEq

structure PickupFulfillment where
  (merchantPubkey payeePubkey : Text)
  (market calendar product : EvidenceCoordinate)
  occurrenceAssignment : Option (List (List Text))
  (mode assignment evidence : Text)
  deriving DecidableEq

/-- `pickup` is the retired collection-based lane. -/
inductive Fulfillment where
  | digital
  | shipping
  | eventMarketPickup (pickup : PickupFulfillment)
  | pickup (snapshot : Text)
  deriving DecidableEq

structure EventMarketContext where
  (marketCoordinate calendarCoordinate : Text)
  deriving DecidableEq

/-- A line's item. `other` holds the keys that no function of the cart reads by name. -/
structure CartItem where
  cartLineId : Option Text
  (productId merchantPubkey : Text)
  merchantAddedAt : Option Int
  title : Text
  price : Rat
  currency : Text
  priceSats : Option Int
  sourcePrice : Option SourceAmount
  image : Option Text
  format : Option ProductFormat
  eventMarketContext : Option EventMarketContext
  fulfillment : Option Fulfillment
  shippingCostSats : Option Int
  sourceShippingCost : Option SourceAmount
  shippingOptionId : Option Text
  shippingOptionLaunchUnsupported : Option Bool
  productUpdatedAt : Option Int
  (productEventId signedProductEvent : Option Text)
  stock : Option Int
  quantity : Int
  other : List (Text × Text)
  deriving DecidableEq

/-- The value of an optional key: `none` where the key is absent, `some none` where it holds
`undefined`. -/
abbrev Given (α : Type) := Option (Option α)

structure CartItemInput where
  cartLineId : Given Text
  (productId merchantPubkey : Text)
  merchantAddedAt : Given Int
  title : Text
  price : Rat
  currency : Text
  priceSats : Given Int
  sourcePrice : Given SourceAmount
  image : Given Text
  format : Given ProductFormat
  eventMarketContext : Given EventMarketContext
  fulfillment : Given Fulfillment
  shippingCostSats : Given Int
  sourceShippingCost : Given SourceAmount
  shippingOptionId : Given Text
  shippingOptionLaunchUnsupported : Given Bool
  productUpdatedAt : Given Int
  (productEventId signedProductEvent : Given Text)
  stock : Given Int
  quantity : Int
  other : List (Text × Option Text)

/-- `{ ...input }`. -/
def CartItemInput.toItem (input : CartItemInput) : CartItem where
  cartLineId := input.cartLineId.join
  productId := input.productId
  merchantPubkey := input.merchantPubkey
  merchantAddedAt := input.merchantAddedAt.join
  title := input.title
  price := input.price
  currency := input.currency
  priceSats := input.priceSats.join
  sourcePrice := input.sourcePrice.join
  image := input.image.join
  format := input.format.join
  eventMarketContext := input.eventMarketContext.join
  fulfillment := input.fulfillment.join
  shippingCostSats := input.shippingCostSats.join
  sourceShippingCost := input.sourceShippingCost.join
  shippingOptionId := input.shippingOptionId.join
  shippingOptionLaunchUnsupported := input.shippingOptionLaunchUnsupported.join
  productUpdatedAt := input.productUpdatedAt.join
  productEventId := input.productEventId.join
  signedProductEvent := input.signedProductEvent.join
  stock := input.stock.join
  quantity := input.quantity
  other := input.other.filterMap fun entry => entry.2.map fun value => (entry.1, value)

/-- The keys keep the order of the current item. -/
def spreadOther (current : List (Text × Text)) (candidate : List (Text × Option Text)) :
    List (Text × Text) :=
  (current.filterMap fun entry =>
    match candidate.find? fun given => decide (given.1 = entry.1) with
    | some given => given.2.map fun value => (entry.1, value)
    | none => some entry) ++
  (candidate.filter fun given => !(current.any fun entry => decide (entry.1 = given.1))).filterMap
    fun given => given.2.map fun value => (given.1, value)

/-- `{ ...current, ...candidate }`. -/
def CartItem.spread (current : CartItem) (candidate : CartItemInput) : CartItem where
  cartLineId := candidate.cartLineId.getD current.cartLineId
  productId := candidate.productId
  merchantPubkey := candidate.merchantPubkey
  merchantAddedAt := candidate.merchantAddedAt.getD current.merchantAddedAt
  title := candidate.title
  price := candidate.price
  currency := candidate.currency
  priceSats := candidate.priceSats.getD current.priceSats
  sourcePrice := candidate.sourcePrice.getD current.sourcePrice
  image := candidate.image.getD current.image
  format := candidate.format.getD current.format
  eventMarketContext := candidate.eventMarketContext.getD current.eventMarketContext
  fulfillment := candidate.fulfillment.getD current.fulfillment
  shippingCostSats := candidate.shippingCostSats.getD current.shippingCostSats
  sourceShippingCost := candidate.sourceShippingCost.getD current.sourceShippingCost
  shippingOptionId := candidate.shippingOptionId.getD current.shippingOptionId
  shippingOptionLaunchUnsupported := candidate.shippingOptionLaunchUnsupported.getD
    current.shippingOptionLaunchUnsupported
  productUpdatedAt := candidate.productUpdatedAt.getD current.productUpdatedAt
  productEventId := candidate.productEventId.getD current.productEventId
  signedProductEvent := candidate.signedProductEvent.getD current.signedProductEvent
  stock := candidate.stock.getD current.stock
  quantity := candidate.quantity
  other := spreadOther current.other candidate.other

structure CartPlatform extends Platform where
  normalizePublicMediaUrl : Text → Option Text
  /-- `String.prototype.toUpperCase`. -/
  toUpperCase : Text → Text
  /-- `Number(text)` where that is a finite number. -/
  numberOf : Text → Option Rat
  /-- `orderItemFulfillmentSchema` on a pickup snapshot. -/
  acceptsPickup : PickupFulfillment → Bool
  acceptsRetiredPickup : Text → Bool
  /-- What the parser keeps of the keys that no function of the cart reads. -/
  parseOther : List (Text × Text) → List (Text × Text)

variable (P : CartPlatform)

/-- `orderItemFulfillmentSchema.safeParse(fulfillment).success`. -/
def orderItemFulfillmentSchema : Fulfillment → Bool
  | .digital => true
  | .shipping => true
  | .eventMarketPickup p => P.acceptsPickup p
  | .pickup s => P.acceptsRetiredPickup s

variable (item : CartItem)

def sanitizeCartItemImage : CartItem :=
  { item with image := item.image.bind P.normalizePublicMediaUrl }

/-- `sanitizeCartItemImage` on an item as it was passed: the `image` key is present after it. -/
def CartItemInput.sanitize (input : CartItemInput) : CartItemInput :=
  { input with image := some (input.image.join.bind P.normalizePublicMediaUrl) }

structure Frontier where
  createdAt : Option Int
  eventId : Option Text

def CartItem.frontier : Frontier := ⟨item.productUpdatedAt, item.productEventId⟩

def normalizeFrontierCreatedAt (value : Option Int) : Option Int :=
  value.filter fun n => decide (IsSafeInteger n ∧ 0 ≤ n)

def normalizeFrontierEventId (value : Option Text) : Option Text :=
  (value.map fun id => toLowerCase (trim id)).filter fun id => decide (id ≠ [])

/-- The newer timestamp wins and the lexicographically lowest event id wins a tie. -/
def compareReplaceableEventFrontiers (candidate current : Frontier) : Int :=
  match normalizeFrontierCreatedAt candidate.createdAt,
    normalizeFrontierCreatedAt current.createdAt with
  | none, none => 0
  | none, some _ => -1
  | some _, none => 1
  | some x, some y =>
    if x > y then 1
    else if x < y then -1
    else match normalizeFrontierEventId candidate.eventId,
        normalizeFrontierEventId current.eventId with
      | none, none => 0
      | none, some _ => -1
      | some _, none => 1
      | some i, some j =>
        if i = j then 0
        else if codeUnits i < codeUnits j then 1
        else -1

def hasStrictlyNewerProductRevision (current candidate : Frontier) : Bool :=
  decide (0 < compareReplaceableEventFrontiers candidate current)

def hasStrictlyOlderProductRevision (current candidate : Frontier) : Bool :=
  decide (compareReplaceableEventFrontiers candidate current < 0)

def isFiatCurrencyCode (currency : Text) : Bool :=
  let normalized := P.toUpperCase (trim currency)
  decide (normalized.length = 3) && normalized.all (fun c => 65 ≤ c.toNat && c.toNat ≤ 90) &&
    !(["SAT", "BTC", "XBT"].map String.toList).contains normalized

def hasSameQuoteDerivedSource (current candidate : Option SourceAmount) : Bool :=
  match current, candidate with
  | some a, some b =>
    decide (0 < a.amount) && isFiatCurrencyCode P a.normalizedCurrency && decide (a = b)
  | _, _ => false

def refreshQuoteDerivedFields (current candidate : CartItem) : CartItem :=
  let next :=
    if candidate.priceSats ≠ none ∧
        hasSameQuoteDerivedSource P current.sourcePrice candidate.sourcePrice = true then
      { current with priceSats := candidate.priceSats }
    else current
  if candidate.shippingCostSats ≠ none ∧
      hasSameQuoteDerivedSource P current.sourceShippingCost candidate.sourceShippingCost = true then
    { next with shippingCostSats := candidate.shippingCostSats }
  else next

def selectCartItemSnapshot (current : CartItem) (candidate : CartItemInput) : CartItem :=
  if hasStrictlyNewerProductRevision current.frontier candidate.toItem.frontier = true then
    { current.spread candidate with merchantAddedAt := current.merchantAddedAt }
  else if hasStrictlyOlderProductRevision current.frontier candidate.toItem.frontier = true then
    current
  else refreshQuoteDerivedFields P current candidate.toItem

inductive FulfillmentType where
  | digital
  | shipping
  | eventMarketPickup
  deriving DecidableEq

def getCartItemFulfillmentType : FulfillmentType :=
  match item.fulfillment with
  | some (.eventMarketPickup _) => .eventMarketPickup
  | fulfillment =>
    if item.format = some .digital ∨ fulfillment = some .digital then .digital else .shipping

/-- `JSON.stringify` of a pickup line's parts, or the name of a delivery type. -/
inductive FulfillmentId where
  | pickup (parts : List Text)
  | delivery (type : FulfillmentType)
  deriving DecidableEq

def getCartLineFulfillmentId : FulfillmentId :=
  match item.fulfillment with
  | some (.eventMarketPickup p) =>
    .pickup [p.market.coordinate, p.calendar.coordinate, p.product.coordinate, p.product.eventId,
      p.mode, p.assignment]
  | _ => .delivery (getCartItemFulfillmentType item)

def isSameCartLineFulfillment (left right : CartItem) : Bool :=
  decide (getCartLineFulfillmentId left = getCartLineFulfillmentId right)

structure CartItemIdentity where
  (merchantPubkey productId : Text)
  cartLineId : Option Text

def CartItem.identity : CartItemIdentity :=
  ⟨item.merchantPubkey, item.productId, item.cartLineId⟩

/-- `JSON.stringify([merchantPubkey, productId])`. -/
def getCartItemKey : Text × Text := (item.merchantPubkey, item.productId)

/-- `JSON.stringify([getCartItemKey(item), getCartLineFulfillmentId(item)])`. -/
def lineKey : (Text × Text) × FulfillmentId :=
  (getCartItemKey item, getCartLineFulfillmentId item)

variable (value : Text)

/-- `typeof value === "string" && value.trim()`. -/
def isNonempty : Bool := decide (trim value ≠ [])

def isNonnegative (n : Int) : Bool := decide (0 ≤ n)

structure ProductAddressCoordinate where
  (authorPubkey dTag : Text)

/-- `30402:${authorPubkey}:${dTag}`. -/
def ProductAddressCoordinate.addressId (a : ProductAddressCoordinate) : Text :=
  "30402:".toList ++ a.authorPubkey ++ ":" ++ a.dTag

/-- Two colons part the kind, the author and the `d` tag. -/
def parseProductAddressCoordinate : Option ProductAddressCoordinate :=
  match split ':' value with
  | kind :: author :: part :: parts =>
    let dTag := List.intercalate [':'] (part :: parts)
    if kind = "30402".toList ∧ IsHex64 (toLowerCase author) ∧ dTag ≠ [] then
      some ⟨toLowerCase author, dTag⟩
    else none
  | _ => none

def normalizeProductCoordinate (storedProductId merchantPubkey : Text) : Option Text :=
  if startsWith storedProductId "30402:" = false then
    some ("30402:".toList ++ merchantPubkey ++ ":" ++ storedProductId)
  else match parseProductAddressCoordinate storedProductId with
    | some address => if address.authorPubkey = merchantPubkey then some address.addressId else none
    | none => none

def parseSourcePrice (amount : SourceAmount) : Option SourceAmount :=
  if 0 ≤ amount.amount ∧ isNonempty amount.currency = true ∧
      isNonempty amount.normalizedCurrency = true then some amount
  else none

def normalizedEventId : Option Text :=
  let eventId := toLowerCase value
  if isNonempty value = true ∧ IsHex64 eventId then some eventId else none

def parseEventMarketContext (context : EventMarketContext) : Option EventMarketContext :=
  match parseAddressableCoordinate P.toPlatform context.marketCoordinate [30409],
    parseAddressableCoordinate P.toPlatform context.calendarCoordinate [31922, 31923] with
  | some market, some calendar => some ⟨market.coordinate, calendar.coordinate⟩
  | _, _ => none

/-- The fulfillment that a stored item keeps; `none` refuses the item. -/
def parseFulfillment : Option Fulfillment → Option (Option Fulfillment)
  | none => some none
  | some f =>
    if orderItemFulfillmentSchema P f = true then
      match f with
      | .pickup _ => none
      | f => some (some f)
    else none

/-- `isVerified` is `isVerifiedNostrEvent`. -/
def parseCartItem (isVerified : Text → Bool) (value : CartItem) : Option CartItem :=
  if isNonempty value.productId = true ∧ isNonempty value.merchantPubkey = true ∧
      isNonempty value.title = true ∧ isNonempty value.currency = true ∧ 0 ≤ value.price ∧
      0 < value.quantity then
    match normalizeProductCoordinate value.productId value.merchantPubkey,
      parseFulfillment P value.fulfillment with
    | some productId, some fulfillment =>
      if productId = [] then none
      else some
        { cartLineId := none
          productId := productId
          merchantPubkey := value.merchantPubkey
          merchantAddedAt := value.merchantAddedAt.filter isNonnegative
          title := value.title
          price := value.price
          currency := value.currency
          priceSats := value.priceSats.filter isNonnegative
          sourcePrice := value.sourcePrice.bind parseSourcePrice
          image := value.image.filter isNonempty
          format := value.format
          eventMarketContext := value.eventMarketContext.bind (parseEventMarketContext P)
          fulfillment := fulfillment
          shippingCostSats := value.shippingCostSats.filter isNonnegative
          sourceShippingCost := value.sourceShippingCost.bind parseSourcePrice
          shippingOptionId := value.shippingOptionId.filter isNonempty
          shippingOptionLaunchUnsupported := value.shippingOptionLaunchUnsupported
          productUpdatedAt := value.productUpdatedAt.filter isNonnegative
          productEventId := value.productEventId.bind normalizedEventId
          signedProductEvent := value.signedProductEvent.filter isVerified
          stock := value.stock.filter isNonnegative
          quantity := value.quantity
          other := P.parseOther value.other }
    | _, _ => none
  else none

end Conduit.Cart
