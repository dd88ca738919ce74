import Conduit.Platform

namespace Conduit.CheckoutSpark

open Js Throwing

inductive Network where
  | mainnet
  | regtest
  deriving DecidableEq

inductive ObligationKind where
  | merchant
  | supplier
  | organizer
  | conduit
  deriving DecidableEq

structure EventReference where
  (coordinate eventId : Text)
  deriving DecidableEq

structure Pickup where
  (calendar collection : EventReference)
  deriving DecidableEq

structure CommerceVariation where
  familyCoordinate : Option Text
  specifications : List (Text × Text)
  deriving DecidableEq

structure LineShippingPolicy where
  quote : Text
  allocatedCostSats : Int
  deriving DecidableEq

structure CommerceQuoteLine where
  (productCoordinate productEventId merchantPubkey : Text)
  (quantity unitMerchandiseSats unitShippingSats : Int)
  (sourcePrice sourceShippingCost : Option Text)
  variation : Option CommerceVariation
  shippingPolicy : Option LineShippingPolicy
  shippingOption : Option EventReference
  pickup : Option Pickup
  deriving DecidableEq

structure CommerceQuote where
  commerceTotalSats : Int
  lines : List CommerceQuoteLine
  (pricing pricingAuthority : Option Text)
  deriving DecidableEq

def invalidText (label : String) : Failure := .error (label ++ " is invalid.")

def normalizeBoundedString (value : Text) (label : String) (maxLength : Nat) : Result Text := do
  let normalized := trim value
  reject (normalized = [] ∨ length normalized > maxLength) (invalidText label)
  return normalized

def normalizeHex64 (value : Text) (label : String) : Result Text := do
  let normalized := toLowerCase (trim value)
  reject (¬ IsHex64 normalized) (invalidText label)
  return normalized

def normalizeSats (value : Int) (label : String) (allowZero : Bool) : Result Int := do
  reject (¬ IsSafeInteger value ∨ value < 0 ∨ (allowZero = false ∧ value = 0)) (invalidText label)
  return value

/-- `.` of a regular expression matches no line terminator. -/
def isLineTerminator (c : Char) : Bool :=
  c.toNat == 10 || c.toNat == 13 || c.toNat == 0x2028 || c.toNat == 0x2029

/-- `/^kind:[0-9a-f]{64}:.+$/`. -/
def MatchesCoordinate (kind : Text) (value : Text) : Prop :=
  let head : Text := kind ++ ":"
  let rest := value.drop head.length
  head.isPrefixOf value = true ∧ (rest.take 64).length = 64 ∧
    (rest.take 64).all isHexChar = true ∧ rest[64]? = some ':' ∧ rest.drop 65 ≠ [] ∧
    (rest.drop 65).all (fun c => !isLineTerminator c) = true
  deriving Decidable

def normalizeCommerceCoordinate (value kind : Text) (label : String) : Result Text := do
  let coordinate ← normalizeBoundedString value label 512
  reject (coordinate ≠ value ∨ ¬ MatchesCoordinate kind coordinate) (invalidText label)
  return coordinate

def parseEvidence (P : Platform) (schema : EvidenceSchema) (text : Text) : Result Text :=
  match P.parseEvidence schema text with
  | some parsed => .ok parsed
  | none => .error (.error "ZodError")

/-- `checkoutSparkCommerceVariationSchema.parse`. -/
def parseVariation (variation : CommerceVariation) : Result CommerceVariation := do
  reject ((∃ family ∈ variation.familyCoordinate, ¬ MatchesCoordinate "30402" family) ∨
      ∃ spec ∈ variation.specifications, spec.1 = [] ∨ length spec.1 > 80 ∨ spec.2 = [] ∨
        length spec.2 > 200)
    (.error "ZodError")
  return variation

def normalizeReference (kind : Text) (coordinateLabel eventLabel : String) (reference : EventReference) :
    Result EventReference := do
  let coordinate ← normalizeCommerceCoordinate reference.coordinate kind coordinateLabel
  let eventId ← normalizeHex64 reference.eventId eventLabel
  return { coordinate, eventId }

def calendarKind (coordinate : Text) : Text :=
  if startsWith coordinate "31922:" then "31922" else "31923"

def normalizePickup (pickup : Pickup) : Result Pickup := do
  let calendar ← normalizeReference (calendarKind pickup.calendar.coordinate)
    "Commerce pickup calendar coordinate" "Commerce pickup calendar event" pickup.calendar
  let collection ← normalizeReference "30405" "Commerce pickup collection coordinate"
    "Commerce pickup collection event" pickup.collection
  return { calendar, collection }

def coordinateAuthor (coordinate : Text) : Option Text := (split ':' coordinate)[1]?

def PickupAuthorized (lineMerchant : Text) (shippingOption : Option EventReference)
    (pickup : Pickup) : Prop :=
  ∃ option ∈ shippingOption,
    coordinateAuthor pickup.collection.coordinate = coordinateAuthor pickup.calendar.coordinate ∧
    (coordinateAuthor option.coordinate = coordinateAuthor pickup.calendar.coordinate ∨
      coordinateAuthor option.coordinate = some lineMerchant)
  deriving Decidable

variable (P : Platform)

def normalizeShippingPolicy (policy : LineShippingPolicy) : Result LineShippingPolicy := do
  let quote ← parseEvidence P .shippingPolicyQuote policy.quote
  let allocatedCostSats ← normalizeSats policy.allocatedCostSats "Commerce allocated shipping" true
  return { quote, allocatedCostSats }

def normalizeCommerceQuoteLine (merchantPubkey : Text)
    (candidate : CommerceQuoteLine) : Result CommerceQuoteLine := do
  let productCoordinate ← normalizeCommerceCoordinate candidate.productCoordinate "30402"
    "Commerce product coordinate"
  let lineMerchant ← normalizeHex64 candidate.merchantPubkey "Commerce merchant"
  reject (lineMerchant ≠ merchantPubkey ∨
      startsWith productCoordinate ("30402:" ++ lineMerchant ++ ":") = false ∨
      ¬ IsSafeInteger candidate.quantity ∨ candidate.quantity ≤ 0)
    (.error "Checkout Spark commerce line authority is invalid.")
  let shippingOption ← optionResult (normalizeReference "30406" "Commerce shipping coordinate"
    "Commerce shipping event") candidate.shippingOption
  let unitShippingSats ← normalizeSats candidate.unitShippingSats "Commerce unit shipping" true
  reject (unitShippingSats > 0 ∧ shippingOption = none)
    (.error "Checkout Spark priced shipping lacks signed evidence.")
  let pickup ← optionResult normalizePickup candidate.pickup
  reject (∃ point ∈ pickup, ¬ PickupAuthorized lineMerchant shippingOption point)
    (.error "Checkout Spark pickup graph authority is invalid.")
  let productEventId ← normalizeHex64 candidate.productEventId "Commerce product event"
  let unitMerchandiseSats ← normalizeSats candidate.unitMerchandiseSats
    "Commerce unit merchandise" true
  let sourcePrice ← optionResult (parseEvidence P .sourcePrice) candidate.sourcePrice
  let sourceShippingCost ← optionResult (parseEvidence P .sourcePrice) candidate.sourceShippingCost
  let variation ← optionResult parseVariation candidate.variation
  let shippingPolicy ← optionResult (normalizeShippingPolicy P) candidate.shippingPolicy
  return {
    productCoordinate := productCoordinate
    productEventId := productEventId
    merchantPubkey := lineMerchant
    quantity := candidate.quantity
    unitMerchandiseSats := unitMerchandiseSats
    unitShippingSats := unitShippingSats
    sourcePrice := sourcePrice
    sourceShippingCost := sourceShippingCost
    variation := variation
    shippingPolicy := shippingPolicy
    shippingOption := shippingOption
    pickup := pickup }

def lineTotalSats (line : CommerceQuoteLine) : Int :=
  line.quantity * line.unitMerchandiseSats +
    match line.shippingPolicy with
    | some policy => policy.allocatedCostSats
    | none => line.quantity * line.unitShippingSats

def normalizeCommerceQuote (input : CommerceQuote) (merchantPubkey : Text)
    (allowZeroTotal : Bool) : Result CommerceQuote := do
  reject (input.pricingAuthority ≠ none ∧ input.pricing = none)
    (.error "Checkout Spark pricing authority requires its exact rate.")
  let commerceTotalSats ← normalizeSats input.commerceTotalSats "Commerce quote total"
    allowZeroTotal
  reject (input.lines = []) (.error "Checkout Spark commerce quote needs product lines.")
  let lines ← mapResult (normalizeCommerceQuoteLine P merchantPubkey) input.lines
  reject (¬ (lines.map CommerceQuoteLine.productCoordinate).Nodup)
    (.error "Checkout Spark commerce quote repeats a product.")
  reject ((lines.map lineTotalSats).sum ≠ commerceTotalSats)
    (.error "Checkout Spark commerce quote total is inconsistent.")
  let pricing ← optionResult (parseEvidence P .pricing) input.pricing
  let pricingAuthority ← optionResult (parseEvidence P .pricingAuthority) input.pricingAuthority
  return {
    commerceTotalSats := commerceTotalSats
    lines := lines
    pricing := pricing
    pricingAuthority := pricingAuthority }

/-- Validate and copy quote evidence before a checkout wallet is opened. -/
def freezeCommerceQuote (input : CommerceQuote) (merchantPubkey : Text)
    (allowZeroTotal : Bool) : Result CommerceQuote := do
  let merchant ← normalizeHex64 merchantPubkey "Commerce merchant"
  normalizeCommerceQuote P input merchant allowZeroTotal

/-- Absent extensions leave the original tuple unchanged. -/
def commerceQuoteDigestValue (quote : CommerceQuote) : Json :=
  let line (l : CommerceQuoteLine) : Json :=
    .arr ([.str l.productCoordinate, .str l.productEventId, .str l.merchantPubkey,
        .num l.quantity, .num l.unitMerchandiseSats, .num l.unitShippingSats,
        match l.shippingOption with
        | some option => .arr [.str option.coordinate, .str option.eventId]
        | none => .null] ++
      Json.ofOption (fun (p : Pickup) => .arr [.str "pickup", .str p.calendar.coordinate,
        .str p.calendar.eventId, .str p.collection.coordinate, .str p.collection.eventId])
        l.pickup ++
      Json.ofOption (fun t => .arr [.str "source_price", P.evidenceDigestValue .sourcePrice t])
        l.sourcePrice ++
      Json.ofOption (fun t => .arr [.str "source_shipping", P.evidenceDigestValue .sourcePrice t])
        l.sourceShippingCost ++
      Json.ofOption (fun (v : CommerceVariation) => .arr [.str "variation",
        match v.familyCoordinate with
        | some family => .str family
        | none => .null,
        .arr (v.specifications.map fun spec => .arr [.str spec.1, .str spec.2])]) l.variation ++
      Json.ofOption (fun (p : LineShippingPolicy) => .arr [.str "shipping_policy",
        .num p.allocatedCostSats, P.evidenceDigestValue .shippingPolicyQuote p.quote])
        l.shippingPolicy)
  .arr ([.num quote.commerceTotalSats, .arr (quote.lines.map line)] ++
    Json.ofOption (P.evidenceDigestValue .pricing) quote.pricing ++
    Json.ofOption (P.evidenceDigestValue .pricingAuthority) quote.pricingAuthority)

def LawfulEvidence : Prop :=
  ∀ schema text parsed, P.parseEvidence schema text = some parsed →
    P.parseEvidence schema parsed = some parsed

variable {allowZero : Bool} {kind value : Text}

lemma normalizeHex64_idem {t : Text} {label label' : String}
    (h : normalizeHex64 value label = .ok t) : normalizeHex64 t label' = .ok t := by
  simp only [normalizeHex64, run_ok, not_not] at h ⊢
  obtain ⟨hh, rfl⟩ := h
  rw [trim_of_all_isHexChar hh.2, toLowerCase_idem]
  exact ⟨hh, rfl⟩

variable {label : String}

section

variable {value t : Int} (h : normalizeSats value label allowZero = .ok t)
include h

lemma normalizeSats_eq : t = value := by
  simp only [normalizeSats, run_ok] at h
  exact h.2.symm

lemma normalizeSats_idem : normalizeSats t label allowZero = .ok t := by
  obtain rfl := normalizeSats_eq h
  exact h

end

section

variable {t : Text} (h : normalizeCommerceCoordinate value kind label = .ok t)
include h

lemma normalizeCommerceCoordinate_eq : t = value := by
  simp only [normalizeCommerceCoordinate, run_ok] at h
  obtain ⟨c, -, hc, rfl⟩ := h
  by_contra hne
  exact hc (.inl hne)

lemma normalizeCommerceCoordinate_idem : normalizeCommerceCoordinate t kind label = .ok t := by
  obtain rfl := normalizeCommerceCoordinate_eq h
  exact h

end

lemma normalizeReference_idem {l₁ l₂ : String} (r t : EventReference)
    (h : normalizeReference kind l₁ l₂ r = .ok t) : normalizeReference kind l₁ l₂ t = .ok t := by
  simp only [normalizeReference, run_ok] at h
  obtain ⟨c, hc, e, he, rfl⟩ := h
  simp only [normalizeReference, normalizeCommerceCoordinate_idem hc, normalizeHex64_idem he,
    ok_bind]
  rfl

lemma normalizeReference_coordinate {l₁ l₂ : String} {r t : EventReference}
    (h : normalizeReference kind l₁ l₂ r = .ok t) : t.coordinate = r.coordinate := by
  simp only [normalizeReference, run_ok] at h
  obtain ⟨c, hc, e, -, rfl⟩ := h
  exact normalizeCommerceCoordinate_eq hc

lemma normalizePickup_idem (p t : Pickup) (h : normalizePickup p = .ok t) :
    normalizePickup t = .ok t := by
  simp only [normalizePickup, run_ok] at h
  obtain ⟨calendar, hc, collection, hcol, rfl⟩ := h
  simp only [normalizePickup, normalizeReference_coordinate hc, normalizeReference_idem _ _ hc,
    normalizeReference_idem _ _ hcol, ok_bind]
  rfl

lemma parseVariation_idem (v t : CommerceVariation) (h : parseVariation v = .ok t) :
    parseVariation t = .ok t := by
  obtain rfl : v = t := by
    simp only [parseVariation, run_ok] at h
    exact h.2
  exact h

section
variable {P : Platform} (hP : LawfulEvidence P)
include hP

lemma parseEvidence_idem {schema : EvidenceSchema} (text t : Text)
    (h : parseEvidence P schema text = .ok t) : parseEvidence P schema t = .ok t := by
  unfold parseEvidence at h ⊢
  cases hp : P.parseEvidence schema text with
  | none => simp [hp] at h
  | some parsed =>
    obtain rfl : parsed = t := by simpa [hp] using h
    rw [hP schema text parsed hp]

lemma normalizeShippingPolicy_idem (p t : LineShippingPolicy)
    (h : normalizeShippingPolicy P p = .ok t) : normalizeShippingPolicy P t = .ok t := by
  simp only [normalizeShippingPolicy, run_ok] at h
  obtain ⟨quote, hqt, cost, hc, rfl⟩ := h
  simp only [normalizeShippingPolicy, parseEvidence_idem hP _ _ hqt, normalizeSats_idem hc, ok_bind]
  rfl

variable {merchant : Text}

lemma normalizeCommerceQuoteLine_idem (c l : CommerceQuoteLine)
    (h : normalizeCommerceQuoteLine P merchant c = .ok l) :
    normalizeCommerceQuoteLine P merchant l = .ok l := by
  simp only [normalizeCommerceQuoteLine, run_ok] at h
  obtain ⟨coord, hc, lineMerchant, hmer, ha, option, ho, shipping,
    hs, hpric, pickup, hpi, hp, eventId, he, merchandise, hm,
    price, hpr, cost, hco, variation, hv, policy, hpol, rfl⟩ := h
  simp only [normalizeCommerceQuoteLine, normalizeCommerceCoordinate_idem hc,
    normalizeHex64_idem hmer, normalizeHex64_idem he,
    optionResult_idem normalizeReference_idem ho, normalizeSats_idem hs,
    optionResult_idem normalizePickup_idem hpi, normalizeSats_idem hm,
    optionResult_idem (parseEvidence_idem hP) hpr,
    optionResult_idem (parseEvidence_idem hP) hco,
    optionResult_idem parseVariation_idem hv,
    optionResult_idem (normalizeShippingPolicy_idem hP) hpol,
    reject_of_not ha, reject_of_not hpric, reject_of_not hp, ok_bind]
  rfl

lemma freezeCommerceQuote_idem {input quote : CommerceQuote} {allowZero : Bool}
    (h : freezeCommerceQuote P input merchant allowZero = .ok quote) :
    freezeCommerceQuote P quote merchant allowZero = .ok quote := by
  simp only [freezeCommerceQuote, normalizeCommerceQuote, run_ok] at h
  obtain ⟨m, hm, hau, total, ht, hls, lines, hmap, hnd, hs, pricing, hpr,
    authority, hauth, rfl⟩ := h
  have hne : lines ≠ [] := by
    have hl := mapResult_length hmap
    intro hn
    rw [hn] at hl
    exact hls (List.eq_nil_of_length_eq_zero hl.symm)
  have hau' : ¬ (authority ≠ none ∧ pricing = none) := by
    rcases optionResult_ok hpr with ⟨hp, rfl⟩ | ⟨_, _, -, rfl, -⟩
    · rcases optionResult_ok hauth with ⟨-, rfl⟩ | ⟨_, _, ha, -, -⟩
      · simp
      · exact absurd ⟨by simp [ha], hp⟩ hau
    · simp
  simp only [freezeCommerceQuote, normalizeCommerceQuote, hm, normalizeSats_idem ht,
    mapResult_idem (normalizeCommerceQuoteLine_idem hP) hmap,
    optionResult_idem (parseEvidence_idem hP) hpr,
    optionResult_idem (parseEvidence_idem hP) hauth,
    reject_of_not hau', reject_of_not hne, reject_of_not hnd, reject_of_not hs,
    ok_bind]
  rfl

end

end Conduit.CheckoutSpark
