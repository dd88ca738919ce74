import Conduit.CheckoutSpark.Quote
import Conduit.Keyed
import Conduit.Lightning
import Mathlib.Data.List.Sort

namespace Conduit.CheckoutSpark

open Js Throwing

/-- A signed market's fee revision: `active` carries the signed terms. -/
inductive OrganizerFeeState where
  | absent
  | disabled
  | revoked
  | active (basisPoints minimumSats : Int) (lightningAddress : Text) (expiresAt : Option Int)
  deriving DecidableEq

structure OrganizerFeeTerms where
  (marketCoordinate organizerPubkey eventId : Text)
  createdAt : Int
  state : OrganizerFeeState
  deriving DecidableEq

inductive EventMarketMode where
  | merchantPresent
  | organizerHandoff
  deriving DecidableEq

structure EventMarketLine where
  (productCoordinate productEventId assignmentCoordinate assignmentEventId : Text)
  quantity : Int
  stockPoolId : Option Text
  parentProduct : Option EventReference
  deriving DecidableEq

structure EventMarketBinding where
  (organizerPubkey marketCoordinate marketEventId occurrenceCoordinate occurrenceEventId : Text)
  schedule : Option EventReference
  grantEventId : Text
  (grantAncestryEventIds observedDeletionEventIds : List Text)
  mode : EventMarketMode
  assignment : Text
  lines : List EventMarketLine
  organizerFee : OrganizerFeeTerms
  organizerFeeSats : Int
  deriving DecidableEq

def maxStock : Int := 2147483647

/-- `Math.floor(Number.MAX_SAFE_INTEGER / 1_000)`. -/
def maxSafeSats : Int := 9007199254740

def bindingInvalid : Failure := .error "Event Market checkout binding is invalid."

structure AddressableCoordinate where
  kind : Nat
  (authorPubkey dTag : Text)

def AddressableCoordinate.coordinate (c : AddressableCoordinate) : Text :=
  numberText c.kind ++ ":" ++ c.authorPubkey ++ ":" ++ c.dTag

variable (P : Platform)

variable (value : Text)

def ValidDTag : Prop :=
  0 < length value ∧ length value ≤ 128 ∧ value.all (fun c => !P.isControl c) = true
  deriving Decidable

def isDigitChar (c : Char) : Bool := 48 ≤ c.toNat && c.toNat ≤ 57

def digitsValue (l : List Char) : Nat := l.foldl (fun n c => 10 * n + (c.toNat - 48)) 0

def parseAddressableCoordinate (allowedKinds : List Nat) : Option AddressableCoordinate :=
  match split ':' (trim value) with
  | kindText :: author :: part :: parts =>
    let kind := digitsValue kindText
    let authorPubkey := toLowerCase (author)
    let dTag := List.intercalate [':'] (part :: parts)
    if 1 ≤ kindText.length ∧ kindText.length ≤ 5 ∧ kindText.all isDigitChar = true ∧
        30000 ≤ kind ∧ kind < 40000 ∧ kind ∈ allowedKinds ∧ IsHex64 authorPubkey ∧
        ValidDTag P dTag then
      some { kind, authorPubkey, dTag }
    else none
  | _ => none

def IsCanonicalCoordinate (kinds : List Nat) (author : Text) : Prop :=
  ∃ c ∈ parseAddressableCoordinate P value kinds, c.coordinate = value ∧ c.authorPubkey = author
  deriving Decidable

def computeEventMarketAssignmentDTag
    (marketCoordinate occurrenceCoordinate productCoordinate : Text) : Text :=
  P.digest (.arr [.str marketCoordinate, .str occurrenceCoordinate, .str productCoordinate])

def codeUnits (s : Text) : List Nat :=
  s.flatMap fun c =>
    if c.toNat < 0x10000 then [c.toNat]
    else [0xD800 + (c.toNat - 0x10000) / 0x400, 0xDC00 + (c.toNat - 0x10000) % 0x400]

def TextLe (a b : Text) : Prop := List.le (codeUnits a) (codeUnits b)
  deriving Decidable

instance : Std.Total TextLe := ⟨fun a b => List.le_total (codeUnits a) (codeUnits b)⟩

instance : IsTrans Text TextLe := ⟨fun _ _ _ => List.le_trans⟩

lemma codeUnits_injective {a b : Text} (h : codeUnits a = codeUnits b) : a = b := by
  induction a generalizing b with
  | nil =>
    cases b with
    | nil => rfl
    | cons c b =>
      simp only [codeUnits, List.flatMap_nil, List.flatMap_cons] at h
      split at h <;> cases h
  | cons c a ih =>
    cases b with
    | nil =>
      simp only [codeUnits, List.flatMap_nil, List.flatMap_cons] at h
      split at h <;> cases h
    | cons d b =>
      simp only [codeUnits, List.flatMap_cons] at h ih
      have hv : ∀ e : Char, e.toNat < 0xD800 ∨ 0xDFFF < e.toNat ∧ e.toNat < 0x110000 :=
        (·.valid)
      have hcd : c.toNat = d.toNat → c = d := fun heq => Char.ext (UInt32.toNat_inj.1 heq)
      have hcv := hv c
      have hdv := hv d
      split_ifs at h with h₁ h₂ h₂ <;> simp only [List.cons_append, List.nil_append,
        List.cons.injEq] at h
      · rw [hcd h.1, ih h.2]
      · omega
      · omega
      · obtain ⟨hhigh, hlow, hr⟩ := h
        have hs : c.toNat = d.toNat := by omega
        rw [hcd hs, ih hr]

lemma textLe_antisymm {a b : Text} (hab : TextLe a b) (hba : TextLe b a) : a = b :=
  codeUnits_injective (List.le_antisymm hab hba)

def CompareLines (a b : EventMarketLine) : Prop := TextLe a.productCoordinate b.productCoordinate
  deriving Decidable

instance : Std.Total CompareLines := ⟨fun _ _ => Std.Total.total (r := TextLe) _ _⟩

instance : IsTrans EventMarketLine CompareLines := ⟨fun _ _ _ => IsTrans.trans (r := TextLe) _ _ _⟩

/-- `nonnegative` numbers of whole sats whose millisats stay safe. -/
def SafeSats (value : Int) : Prop := 0 ≤ value ∧ value ≤ maxSafeSats
  deriving Decidable

/-- `secondsSchema`: the time in milliseconds stays safe. -/
def SafeSeconds (value : Int) : Prop := 0 ≤ value ∧ IsSafeInteger (value * 1000)
  deriving Decidable

def SafeQuantity (value : Int) : Prop := 0 < value ∧ value ≤ maxStock
  deriving Decidable

def IsHexOption (value : Option Text) : Prop := ∀ v ∈ value, IsHex64 v
  deriving Decidable

/-- `assignment` of the schema. -/
def ValidAssignment : Prop :=
  0 < length value ∧ trim value = value ∧ utf8ByteLength value ≤ 120 ∧
    value.all (fun c => !P.isControl c) = true
  deriving Decidable

def OrganizerFeeState.Parses : OrganizerFeeState → Prop
  | .active basisPoints minimumSats _ expiresAt =>
    IsSafeInteger basisPoints ∧ 0 ≤ basisPoints ∧ SafeSats minimumSats ∧
      ∀ t ∈ expiresAt, SafeSeconds t
  | _ => True

instance (state : OrganizerFeeState) : Decidable state.Parses := by
  unfold OrganizerFeeState.Parses; split <;> infer_instance

/-- `bindingSchema` on the fields whose values the type leaves open. -/
def EventMarketBinding.Parses (P : Platform) (b : EventMarketBinding) : Prop :=
  IsHex64 b.organizerPubkey ∧ IsHex64 b.marketEventId ∧ IsHex64 b.occurrenceEventId ∧
  IsHexOption (b.schedule.map EventReference.eventId) ∧ IsHex64 b.grantEventId ∧
  1 ≤ b.grantAncestryEventIds.length ∧ b.grantAncestryEventIds.length ≤ 128 ∧
  (∀ e ∈ b.grantAncestryEventIds, IsHex64 e) ∧
  b.observedDeletionEventIds.length ≤ 128 ∧ (∀ e ∈ b.observedDeletionEventIds, IsHex64 e) ∧
  ValidAssignment P b.assignment ∧ 1 ≤ b.lines.length ∧
  (∀ l ∈ b.lines, IsHex64 l.productEventId ∧ IsHex64 l.assignmentEventId ∧
    SafeQuantity l.quantity ∧ IsHexOption l.stockPoolId ∧
    IsHexOption (l.parentProduct.map EventReference.eventId)) ∧
  IsHex64 b.organizerFee.organizerPubkey ∧ IsHex64 b.organizerFee.eventId ∧
  SafeSeconds b.organizerFee.createdAt ∧ b.organizerFee.state.Parses ∧ SafeSats b.organizerFeeSats
  deriving Decidable

/-- `quoteEconomicsSchema` on the frozen quote. -/
def QuoteEconomicsParse (quote : CommerceQuote) : Prop :=
  SafeSats quote.commerceTotalSats ∧ 1 ≤ quote.lines.length ∧
  ∀ l ∈ quote.lines, IsHex64 l.productEventId ∧ IsHex64 l.merchantPubkey ∧
    SafeQuantity l.quantity ∧ SafeSats l.unitMerchandiseSats ∧ SafeSats l.unitShippingSats ∧
    ∀ p ∈ l.shippingPolicy, SafeSats p.allocatedCostSats
  deriving Decidable

variable (b : EventMarketBinding)

/-- Canonical coordinates, the derived assignment, and a pool exactly for an organizer's hand-off.
-/
def EventMarketLine.Valid (merchantPubkey : Text) (l : EventMarketLine) : Prop :=
  IsCanonicalCoordinate P l.productCoordinate [30402] merchantPubkey ∧
  IsCanonicalCoordinate P l.assignmentCoordinate [30410] merchantPubkey ∧
  (∀ parent ∈ l.parentProduct, IsCanonicalCoordinate P parent.coordinate [30402] merchantPubkey) ∧
  l.assignmentCoordinate = "30410:" ++ merchantPubkey ++ ":" ++
    computeEventMarketAssignmentDTag P b.marketCoordinate b.occurrenceCoordinate
      l.productCoordinate ∧
  (match b.mode with
    | .organizerHandoff => ∃ pool ∈ l.stockPoolId, pool ≠ []
    | .merchantPresent => l.stockPoolId = none)

instance (P : Platform) (b : EventMarketBinding) (m : Text) (l : EventMarketLine) :
    Decidable (l.Valid P b m) := by
  unfold EventMarketLine.Valid
  cases b.mode <;> infer_instance

def QuoteLineBound (merchantPubkey : Text) (l : CommerceQuoteLine) : Prop :=
  ∃ bound ∈ b.lines.find? (fun c => c.productCoordinate = l.productCoordinate),
    l.merchantPubkey = merchantPubkey ∧ l.productEventId = bound.productEventId ∧
    l.quantity = bound.quantity ∧
    l.variation.bind CommerceVariation.familyCoordinate =
      bound.parentProduct.map EventReference.coordinate ∧
    bound.parentProduct.map EventReference.coordinate ≠ some l.productCoordinate
  deriving Decidable

def normalizeReceiverAddress : Option Text :=
  let result := toLowerCase (trim value)
  if IsValidLud16Address result then some result else none

def OrganizerFeeState.ExpiredAt (atMs : Int) : OrganizerFeeState → Prop
  | .active _ _ _ (some expiresAt) => atMs ≥ expiresAt * 1000
  | _ => False

instance (atMs : Int) (state : OrganizerFeeState) : Decidable (state.ExpiredAt atMs) := by
  unfold OrganizerFeeState.ExpiredAt; split <;> infer_instance

/-- Financial admission is clock-bound. -/
def assertCurrentOrganizerFeeTerms (terms : OrganizerFeeTerms) (atMs : Int) : Result Unit :=
  reject (¬ (IsSafeInteger atMs ∧ 0 ≤ atMs) ∨ terms.createdAt * 1000 > atMs ∨
      terms.state.ExpiredAt atMs)
    (.error "Current Event Market organizer fee authority is unavailable.")

def calculateOrganizerFeeSats (commerceTotalSats basisPoints minimumSats : Int) : Result Int := do
  reject (¬ SafeSats commerceTotalSats ∨ ¬ (IsSafeInteger basisPoints ∧ 0 ≤ basisPoints) ∨
      ¬ SafeSats minimumSats)
    (.error "Event Market organizer fee calculation is invalid.")
  let proportional := (commerceTotalSats * basisPoints + 9999) / 10000
  let fee := if proportional > minimumSats then proportional else minimumSats
  reject ((commerceTotalSats + fee) * 1000 > maxSafeInteger)
    (.error "Event Market organizer fee total is unsafe.")
  return fee

def expectedOrganizerFee (fee : OrganizerFeeTerms) (commerceTotalSats : Int) : Result Int :=
  match fee.state with
  | .active basisPoints minimumSats lightningAddress expiresAt => do
    reject ((basisPoints = 0 ∧ minimumSats = 0) ∨
        normalizeReceiverAddress lightningAddress ≠ some lightningAddress ∨
        ∃ t ∈ expiresAt, t ≤ fee.createdAt)
      bindingInvalid
    calculateOrganizerFeeSats commerceTotalSats basisPoints minimumSats
  | _ => .ok 0

/-- The checks of one binding against the checkout it belongs to. -/
def EventMarketBinding.Admissible
    (merchantPubkey : Text) (quote : CommerceQuote) (acceptedAtMs : Int) : Prop :=
  b.Parses P ∧ QuoteEconomicsParse quote ∧ IsHex64 merchantPubkey ∧
  IsSafeInteger acceptedAtMs ∧ 0 ≤ acceptedAtMs ∧
  b.grantEventId ∈ b.grantAncestryEventIds ∧ b.grantAncestryEventIds.Nodup ∧
  b.observedDeletionEventIds.Nodup ∧
  IsCanonicalCoordinate P b.marketCoordinate [30409] b.organizerPubkey ∧
  IsCanonicalCoordinate P b.occurrenceCoordinate [31922, 31923] b.organizerPubkey ∧
  (∀ s ∈ b.schedule, IsCanonicalCoordinate P s.coordinate [31924] b.organizerPubkey) ∧
  ¬ (b.mode = .organizerHandoff ∧ b.organizerPubkey = merchantPubkey) ∧
  (∀ l ∈ b.lines, l.Valid P b merchantPubkey) ∧
  (b.lines.map EventMarketLine.productCoordinate).Nodup ∧
  (b.lines.map EventMarketLine.assignmentCoordinate).Nodup ∧
  (b.lines.filterMap EventMarketLine.stockPoolId).Nodup ∧
  quote.lines.length = b.lines.length ∧
  (∀ l ∈ quote.lines, QuoteLineBound b merchantPubkey l) ∧
  (quote.lines.map CommerceQuoteLine.productCoordinate).Nodup ∧
  (quote.lines.map lineTotalSats).sum = quote.commerceTotalSats ∧
  b.organizerFee.marketCoordinate = b.marketCoordinate ∧
  b.organizerFee.organizerPubkey = b.organizerPubkey ∧
  b.organizerFee.eventId = b.marketEventId

instance (P : Platform) (b : EventMarketBinding) (m : Text) (q : CommerceQuote) (t : Int) :
    Decidable (b.Admissible P m q t) := by
  unfold EventMarketBinding.Admissible; infer_instance

def EventMarketBinding.sorted : EventMarketBinding :=
  { b with
    grantAncestryEventIds := b.grantAncestryEventIds.insertionSort TextLe
    observedDeletionEventIds := b.observedDeletionEventIds.insertionSort TextLe
    lines := b.lines.insertionSort CompareLines }

def freezeEventMarketBinding (input : EventMarketBinding)
    (merchantPubkey : Text) (commerceQuote : CommerceQuote) (acceptedAtMs : Int) :
    Result EventMarketBinding := do
  reject (¬ input.Admissible P merchantPubkey commerceQuote acceptedAtMs) bindingInvalid
  assertCurrentOrganizerFeeTerms input.organizerFee acceptedAtMs
  let expectedFee ← expectedOrganizerFee input.organizerFee commerceQuote.commerceTotalSats
  reject (input.organizerFeeSats ≠ expectedFee) bindingInvalid
  return input.sorted

/-- Fixed tuples; absence is explicit. -/
def eventMarketBindingDigestValue : Json :=
  let text (o : Option Text) : Json := (o.map Json.str).getD .null
  let reference (o : Option EventReference) : Json :=
    (o.map fun r => .arr [.str r.coordinate, .str r.eventId]).getD .null
  let fee := b.organizerFee
  .arr [.str "conduit:checkout-spark-event-market:v1", .num 1, .str b.organizerPubkey,
    .str b.marketCoordinate, .str b.marketEventId, .str b.occurrenceCoordinate,
    .str b.occurrenceEventId, reference b.schedule, .str b.grantEventId,
    .arr ((b.grantAncestryEventIds.insertionSort TextLe).map Json.str),
    .arr ((b.observedDeletionEventIds.insertionSort TextLe).map Json.str),
    .str (match b.mode with
      | .merchantPresent => "merchant_present"
      | .organizerHandoff => "organizer_handoff"),
    .str b.assignment,
    .arr ((b.lines.insertionSort CompareLines).map fun l =>
      .arr [.str l.productCoordinate, .str l.productEventId, .str l.assignmentCoordinate,
        .str l.assignmentEventId, .num l.quantity, text l.stockPoolId, reference l.parentProduct]),
    .arr ([.str fee.marketCoordinate, .str fee.organizerPubkey, .str fee.eventId,
        .num fee.createdAt] ++
      match fee.state with
      | .absent => [.str "absent"]
      | .disabled => [.str "disabled"]
      | .revoked => [.str "revoked"]
      | .active basisPoints minimumSats lightningAddress expiresAt =>
        [.str "active", .num basisPoints, .num minimumSats, .str lightningAddress,
          (expiresAt.map Json.num).getD .null]),
    .num b.organizerFeeSats]

section Sorted
variable {P : Platform} {b : EventMarketBinding}

lemma sorted_sorted : b.sorted.sorted = b.sorted := by
  simp only [EventMarketBinding.sorted, (List.pairwise_insertionSort TextLe _).insertionSort_eq,
    (List.pairwise_insertionSort CompareLines _).insertionSort_eq]

lemma parses_sorted (h : b.Parses P) : b.sorted.Parses P := by
  unfold EventMarketBinding.Parses at h ⊢
  simpa only [EventMarketBinding.sorted, List.length_insertionSort, List.mem_insertionSort] using h

variable {m : Text} {q : CommerceQuote}

lemma quoteLineBound_sorted {l : CommerceQuoteLine}
    (hnd : (b.lines.map EventMarketLine.productCoordinate).Nodup) (h : QuoteLineBound b m l) :
    QuoteLineBound b.sorted m l := by
  unfold QuoteLineBound at h ⊢
  rwa [show b.sorted.lines = b.lines.insertionSort CompareLines from rfl,
    Keyed.find?_key_perm hnd (List.perm_insertionSort CompareLines b.lines)]

variable {input : EventMarketBinding} {t : Int}

lemma admissible_sorted (h : b.Admissible P m q t) : b.sorted.Admissible P m q t := by
  obtain ⟨hpar, hqt, hm, hsa, ht, hgr, hanc, hd, hmkt, ho, hs, hmo, hls,
    hp, ha, hps, hlen, hbd, hq, hsum, hf⟩ := h
  have hpm := List.perm_insertionSort CompareLines b.lines
  refine ⟨parses_sorted hpar, hqt, hm, hsa, ht, ?_, ?_, ?_, hmkt, ho, hs, hmo,
    ?_, ?_, ?_, ?_, ?_, ?_, hq, hsum, hf⟩
  · exact (List.mem_insertionSort TextLe).2 hgr
  · exact (List.perm_insertionSort TextLe _).nodup_iff.2 hanc
  · exact (List.perm_insertionSort TextLe _).nodup_iff.2 hd
  · intro l hl
    exact hls l ((List.mem_insertionSort CompareLines).1 hl)
  · exact (hpm.map _).nodup_iff.2 hp
  · exact (hpm.map _).nodup_iff.2 ha
  · exact (hpm.filterMap _).nodup_iff.2 hps
  · exact hlen.trans (List.length_insertionSort _ _).symm
  · intro l hl
    exact quoteLineBound_sorted hp (hbd l hl)

section

variable (h : freezeEventMarketBinding P input m q t = .ok b)
include h

lemma freezeEventMarketBinding_idem : freezeEventMarketBinding P b m q t = .ok b := by
  simp only [freezeEventMarketBinding, run_ok, not_not] at h ⊢
  obtain ⟨ha, hc, ht, fee, hf, heq, rfl⟩ := h
  exact ⟨admissible_sorted ha, hc, ht, fee, hf, heq, sorted_sorted⟩

lemma freezeEventMarketBinding_fee : SafeSats b.organizerFeeSats := by
  simp only [freezeEventMarketBinding, run_ok, not_not] at h
  obtain ⟨ha, -, -, -, -, -, rfl⟩ := h
  obtain ⟨⟨-, -, -, -, -, -, -, -, -, -, -, -, -, -, -, -, -, hs⟩, -⟩ := ha
  exact hs

end

end Sorted

end Conduit.CheckoutSpark
