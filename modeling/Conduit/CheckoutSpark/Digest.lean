import Conduit.CheckoutSpark.Intents
import Conduit.CheckoutSpark.Spending

namespace Conduit.CheckoutSpark

open Js Throwing List Json

def tagOf : Json → Option Text
  | .arr (.str tag :: _) => some tag
  | _ => none

section Layout
variable {α β : Type} {f : α → Json} {g : β → Json} {o o' : Option α} {p : Option β}
  {r r' : List Json} {t u : Text}

def Untagged (t : Text) (r : List Json) : Prop := ∀ j ∈ r.head?, tagOf j ≠ some t

lemma ofOption_inj (hf : ∀ a b, f a = f b → a = b) (h : ofOption f o = ofOption f o') : o = o' := by
  cases o with
  | none =>
    cases o' with
    | none => rfl
    | some b => cases h
  | some a =>
    cases o' with
    | none => cases h
    | some b =>
      rw [hf a b (cons.inj h).1]

lemma ofOption_map (h : ofOption f o = ofOption f o') : o.map f = o'.map f := by
  cases o <;> cases o' <;> simp_all [ofOption]

lemma ofOption_append_inj (hf : ∀ a, tagOf (f a) = some t)
    (hr : Untagged t r) (hr' : Untagged t r') (h : ofOption f o ++ r = ofOption f o' ++ r') :
    ofOption f o = ofOption f o' ∧ r = r' := by
  cases o with
  | none =>
    cases o' with
    | none => exact ⟨rfl, h⟩
    | some b =>
      have hh : r.head? = some (f b) := congrArg head? h
      exact absurd (hf b) (hr (f b) hh)
  | some a =>
    cases o' with
    | none =>
      have hh : some (f a) = r'.head? := congrArg head? h
      exact absurd (hf a) (hr' (f a) hh.symm)
    | some b =>
      obtain ⟨hab, hre⟩ := cons.inj h
      exact ⟨congrArg (fun j => [j]) hab, hre⟩

lemma untagged_append (hg : ∀ b, tagOf (g b) = some u) (hne : u ≠ t) (hr : Untagged t r) :
    Untagged t (ofOption g p ++ r) := by
  cases p with
  | none => exact hr
  | some b =>
    intro j hj
    cases hj
    rw [hg b]
    exact fun h => hne (Option.some.inj h)

lemma untagged_ofOption (hg : ∀ b, tagOf (g b) = some u) (hne : u ≠ t) :
    Untagged t (ofOption g p) := by
  have h := untagged_append (p := p) hg hne (r := []) fun j hj => (by cases hj)
  rwa [append_nil] at h

end Layout

variable {α : Type} {j : Json} {plan : SettledPlan} {f : α → Json} {p : SettledPlan}

lemma map_inj (hf : ∀ a b, f a = f b → a = b) {l l' : List α} (h : l.map f = l'.map f) : l = l' :=
  map_injective_iff.2 (fun a b => hf a b) h

lemma network_name_inj {m n : Network} (h : m.name = n.name) : m = n := by
  cases m <;> cases n <;> first | rfl | exact absurd h (by decide)

lemma kind_name_inj {j k : ObligationKind} (h : j.name = k.name) : j = k := by
  cases j <;> cases k <;> first | rfl | exact absurd h (by decide)

lemma destinationSource_inj {a b : DestinationSource}
    (h : destinationSourceDigestValue a = destinationSourceDigestValue b) : a = b := by
  cases a with
  | signedProfile => cases b <;> simp_all [destinationSourceDigestValue]
  | signedEventMarket => cases b <;> simp_all [destinationSourceDigestValue]
  | conduitAllowlist policy =>
    cases b with
    | signedProfile => simp [destinationSourceDigestValue] at h
    | signedEventMarket => simp [destinationSourceDigestValue] at h
    | conduitAllowlist policy' =>
      cases policy <;> cases policy' <;> first | rfl | (simp [destinationSourceDigestValue] at h)

structure SameLine (P : Platform) (a b : CommerceQuoteLine) : Prop where
  productCoordinate : a.productCoordinate = b.productCoordinate
  productEventId : a.productEventId = b.productEventId
  merchantPubkey : a.merchantPubkey = b.merchantPubkey
  quantity : a.quantity = b.quantity
  unitMerchandiseSats : a.unitMerchandiseSats = b.unitMerchandiseSats
  unitShippingSats : a.unitShippingSats = b.unitShippingSats
  shippingOption : a.shippingOption = b.shippingOption
  pickup : a.pickup = b.pickup
  variation : a.variation = b.variation
  allocatedCostSats : a.shippingPolicy.map LineShippingPolicy.allocatedCostSats =
    b.shippingPolicy.map LineShippingPolicy.allocatedCostSats
  sourcePrice : a.sourcePrice.map (P.evidenceDigestValue .sourcePrice) =
    b.sourcePrice.map (P.evidenceDigestValue .sourcePrice)
  sourceShippingCost : a.sourceShippingCost.map (P.evidenceDigestValue .sourcePrice) =
    b.sourceShippingCost.map (P.evidenceDigestValue .sourcePrice)

def pickupElement (l : CommerceQuoteLine) : List Json :=
  Json.ofOption (fun (p : Pickup) => .arr [.str "pickup", .str p.calendar.coordinate,
    .str p.calendar.eventId, .str p.collection.coordinate, .str p.collection.eventId]) l.pickup

variable (P : Platform)

variable (l : CommerceQuoteLine)

def priceElement : List Json :=
  Json.ofOption (fun t => .arr [.str "source_price", P.evidenceDigestValue .sourcePrice t])
    l.sourcePrice

def costElement : List Json :=
  Json.ofOption (fun t => .arr [.str "source_shipping", P.evidenceDigestValue .sourcePrice t])
    l.sourceShippingCost

def variationElement : List Json :=
  Json.ofOption (fun (v : CommerceVariation) => .arr [.str "variation",
    match v.familyCoordinate with
    | some family => .str family
    | none => .null,
    .arr (v.specifications.map fun spec => .arr [.str spec.1, .str spec.2])]) l.variation

def policyElement : List Json :=
  Json.ofOption (fun (p : LineShippingPolicy) => .arr [.str "shipping_policy",
    .num p.allocatedCostSats, P.evidenceDigestValue .shippingPolicyQuote p.quote]) l.shippingPolicy

def lineDigestValue : Json :=
  .arr ([.str l.productCoordinate, .str l.productEventId, .str l.merchantPubkey,
      .num l.quantity, .num l.unitMerchandiseSats, .num l.unitShippingSats,
      match l.shippingOption with
      | some option => .arr [.str option.coordinate, .str option.eventId]
      | none => .null] ++
    pickupElement l ++ priceElement P l ++ costElement P l ++ variationElement l ++
    policyElement P l)

lemma commerceQuoteDigestValue_lines (P : Platform) (q : CommerceQuote) :
    commerceQuoteDigestValue P q = .arr ([.num q.commerceTotalSats,
        .arr (q.lines.map (lineDigestValue P))] ++
      ofOption (P.evidenceDigestValue .pricing) q.pricing ++
      ofOption (P.evidenceDigestValue .pricingAuthority) q.pricingAuthority) := rfl

lemma eventReference_inj {a b : Option EventReference} (h : (match a with
      | some option => arr [.str option.coordinate, .str option.eventId]
      | none => .null) =
      match b with
      | some option => .arr [.str option.coordinate, .str option.eventId]
      | none => .null) : a = b := by
  cases a with
  | none => cases b <;> simp_all
  | some a =>
    cases b with
    | none => simp at h
    | some b =>
      cases a
      simp_all

lemma optionText_inj {a b : Option Text} (h : (match a with
      | some family => str family
      | none => .null) =
      match b with
      | some family => .str family
      | none => .null) : a = b := by
  cases a <;> cases b <;> simp_all

variable {P : Platform}

lemma sameLine {a b : CommerceQuoteLine} (h : lineDigestValue P a = lineDigestValue P b) :
    SameLine P a b := by
  unfold lineDigestValue at h
  simp only [arr.injEq, append_assoc, cons_append, nil_append,
    cons.injEq, str.injEq, num.injEq] at h
  obtain ⟨hco, hev, hmer, hq, hu, hsh, ho, h⟩ := h
  -- No later element carries the tag of an earlier one.
  have hpol : ∀ {t : Text}, "shipping_policy" ≠ t → ∀ l : CommerceQuoteLine, Untagged t
      (policyElement P l) := fun hne l => untagged_ofOption (fun _ => rfl) hne
  have hvar : ∀ {t : Text}, "variation" ≠ t → "shipping_policy" ≠ t →
      ∀ l : CommerceQuoteLine, Untagged t (variationElement l ++ policyElement P l) :=
    fun hv hp l => untagged_append (fun _ => rfl) hv (hpol hp l)
  have hc : ∀ {t : Text}, "source_shipping" ≠ t → "variation" ≠ t → "shipping_policy" ≠ t →
      ∀ l : CommerceQuoteLine, Untagged t
        (costElement P l ++ (variationElement l ++ policyElement P l)) :=
    fun hs hv hp l => untagged_append (fun _ => rfl) hs (hvar hv hp l)
  have hpr : ∀ l : CommerceQuoteLine, Untagged "pickup" (priceElement P l ++
      (costElement P l ++ (variationElement l ++ policyElement P l))) := fun l =>
    untagged_append (fun _ => rfl) (by decide)
      (hc (by decide) (by decide) (by decide) l)
  obtain ⟨hpi, h⟩ := ofOption_append_inj (fun _ => rfl) (hpr a) (hpr b) h
  obtain ⟨hprice, h⟩ := ofOption_append_inj (fun _ => rfl)
    (hc (by decide) (by decide) (by decide) a) (hc (by decide) (by decide) (by decide) b) h
  obtain ⟨hcost, h⟩ := ofOption_append_inj (fun _ => rfl) (hvar (by decide) (by decide) a)
    (hvar (by decide) (by decide) b) h
  obtain ⟨hva, hpo⟩ := ofOption_append_inj (fun _ => rfl) (hpol (by decide) a)
    (hpol (by decide) b) h
  refine ⟨hco, hev, hmer, hq, hu, hsh, eventReference_inj ho, ?_, ?_, ?_, ?_, ?_⟩
  · refine ofOption_inj ?_ hpi
    rintro ⟨⟨_, _⟩, ⟨_, _⟩⟩ ⟨⟨_, _⟩, ⟨_, _⟩⟩ hab
    simpa [and_assoc] using hab
  · refine ofOption_inj ?_ hva
    rintro ⟨family, specifications⟩ ⟨family', specifications'⟩ hab
    simp only [arr.injEq, cons.injEq, and_true, true_and] at hab
    obtain ⟨hfam, hsp⟩ := hab
    rw [optionText_inj hfam, map_inj ?_ hsp]
    simpa using hpair
  · have hm := ofOption_map hpo
    cases hx : a.shippingPolicy <;> cases hy : b.shippingPolicy <;> simp_all
  · have hm := ofOption_map hprice
    cases hx : a.sourcePrice <;> cases hy : b.sourcePrice <;> simp_all
  · have hm := ofOption_map hcost
    cases hx : a.sourceShippingCost <;> cases hy : b.sourceShippingCost <;> simp_all

lemma optionJson_inj (hf : ∀ a b, f a = f b → a = b) (hn : ∀ a, f a ≠ .null) {o o' : Option α}
    (h : (o.map f).getD .null = (o'.map f).getD .null) : o = o' := by
  cases o with
  | none =>
    cases o' with
    | none => rfl
    | some b => exact absurd h.symm (hn b)
  | some a =>
    cases o' with
    | none => exact absurd h (hn a)
    | some b => rw [hf a b h]

lemma str_inj (a b : Text) (h : str a = str b) : a = b := str.inj h

lemma reference_inj (a b : EventReference)
    (h : arr [.str a.coordinate, .str a.eventId] = .arr [.str b.coordinate, .str b.eventId]) :
    a = b := by
  cases a
  cases b
  simpa using h

/-- What a binding's digest value says of its fee state. -/
def feeStateElements : OrganizerFeeState → List Json
  | .absent => [.str "absent"]
  | .disabled => [.str "disabled"]
  | .revoked => [.str "revoked"]
  | .active basisPoints minimumSats lightningAddress expiresAt =>
    [.str "active", .num basisPoints, .num minimumSats, .str lightningAddress,
      (expiresAt.map Json.num).getD .null]

lemma feeState_inj {a b : OrganizerFeeState} (h : feeStateElements a = feeStateElements b) :
    a = b := by
  cases a with
  | active _ _ _ expiresAt =>
    cases b with
    | active _ _ _ expiresAt' =>
      simp only [feeStateElements, cons.injEq, num.injEq, str.injEq, true_and, and_true] at h
      obtain ⟨rfl, rfl, rfl, he⟩ := h
      rw [optionJson_inj (fun _ _ h => num.inj h) (fun _ => by simp) he]
    | _ => simp [feeStateElements] at h
  | _ => cases b <;> first | rfl | (simp [feeStateElements] at h)

lemma eventMarketBinding_inj {a b : EventMarketBinding} (ha : a.sorted = a) (hb : b.sorted = b)
    (h : eventMarketBindingDigestValue a = eventMarketBindingDigestValue b) : a = b := by
  have hli : ∀ {c : EventMarketBinding}, c.sorted = c →
      c.grantAncestryEventIds.insertionSort TextLe = c.grantAncestryEventIds ∧
      c.observedDeletionEventIds.insertionSort TextLe = c.observedDeletionEventIds ∧
      c.lines.insertionSort CompareLines = c.lines := by
    intro c hc
    exact ⟨congrArg EventMarketBinding.grantAncestryEventIds hc,
      congrArg EventMarketBinding.observedDeletionEventIds hc,
      congrArg EventMarketBinding.lines hc⟩
  obtain ⟨ha₁, ha₂, ha₃⟩ := hli ha
  obtain ⟨hb₁, hb₂, hb₃⟩ := hli hb
  unfold eventMarketBindingDigestValue at h
  rw [ha₁, ha₂, ha₃, hb₁, hb₂, hb₃] at h
  simp only [arr.injEq, cons.injEq, str.injEq, num.injEq, true_and, and_true] at h
  obtain ⟨horg, hmkt, hev, hocc, hoccurrenceEvent, hs, hgr, hanc, hd, hm, hasg, hls, hf, hsats⟩ := h
  have href : a.schedule = b.schedule :=
    optionJson_inj reference_inj (fun _ => by simp) hs
  have hmodes : a.mode = b.mode := by
    revert hm
    cases a.mode <;> cases b.mode <;> first | (intro; rfl) | (intro h; exact absurd h (by decide))
  have hline : a.lines = b.lines := by
    refine map_inj ?_ hls
    rintro ⟨_, _, _, _, _, pool, parent⟩ ⟨_, _, _, _, _, pool', parent'⟩ hl
    simp only [arr.injEq, cons.injEq, str.injEq, num.injEq, and_true] at hl
    obtain ⟨rfl, rfl, rfl, rfl, rfl, hp, hpar⟩ := hl
    rw [optionJson_inj str_inj (fun _ => by simp) hp,
      optionJson_inj reference_inj (fun _ => by simp) hpar]
  have hfees : a.organizerFee = b.organizerFee := by
    simp only [cons_append, nil_append, cons.injEq, str.injEq, num.injEq] at hf
    obtain ⟨hcoord, hpub, hid, hmade, hst⟩ := hf
    have hst := feeState_inj hst
    cases hx : a.organizerFee
    simp_all
  have hancestries := map_inj str_inj hanc
  have hdel := map_inj str_inj hd
  cases a
  simp_all

lemma trailing_inj {t : Text} {z z' : Option Json} {o o' : Option α}
    (hf : ∀ a, tagOf (f a) = some t) (hz : ∀ j ∈ z, tagOf j ≠ some t)
    (hz' : ∀ j ∈ z', tagOf j ≠ some t)
    (h : ofOption id z ++ ofOption f o = ofOption id z' ++ ofOption f o') :
    ofOption f o = ofOption f o' := by
  have hd : ∀ {z : Option Json}, (∀ j ∈ z, tagOf j ≠ some t) →
      (ofOption id z).filter (fun j => decide (tagOf j = some t)) = [] := by
    intro z hz
    cases z with
    | none => rfl
    | some j => simp [ofOption, hz j rfl]
  have hk : ∀ o : Option α,
      (ofOption f o).filter (fun j => decide (tagOf j = some t)) = ofOption f o := by
    intro o
    cases o with
    | none => rfl
    | some a => simp [ofOption, hf a]
  have hfil := congrArg (filter fun j => decide (tagOf j = some t)) h
  rwa [filter_append, filter_append, hd hz, hd hz', hk, hk, nil_append,
    nil_append] at hfil

lemma zapDigestValue_tag {input : MerchantPublicZapPolicy}
    (h : merchantPublicZapPolicyDigestValue P input = .ok j) :
    tagOf j ≠ some "conduit-fee-policy" := by
  simp only [merchantPublicZapPolicyDigestValue, run_ok] at h
  obtain ⟨policy, -, rfl⟩ := h
  cases policy.signer <;> exact fun ht => absurd ht (by simp only [tagOf]; decide)

structure SameTerms (P : Platform) (a b : SettledPlan) : Prop where
  schemaVersion : a.schemaVersion = b.schemaVersion
  checkoutId : a.checkoutId = b.checkoutId
  orderId : a.orderId = b.orderId
  merchantPubkey : a.merchantPubkey = b.merchantPubkey
  walletId : a.walletId = b.walletId
  network : a.network = b.network
  createdAt : a.createdAt = b.createdAt
  takeoverAt : a.takeoverAt = b.takeoverAt
  funding : a.funding = b.funding
  commerceTotalSats : a.commerceQuote.commerceTotalSats = b.commerceQuote.commerceTotalSats
  lines : List.Forall₂ (SameLine P) a.commerceQuote.lines b.commerceQuote.lines
  recipients : a.recipients = b.recipients
  nativeTreasury : a.nativeTreasury = b.nativeTreasury
  eventMarket : a.eventMarket = b.eventMarket
  conduitFeePolicy : a.conduitFeePolicy = b.conduitFeePolicy

def recipientDigestValue (r : SettledRecipient) : Json :=
  .arr [.num r.position, .str r.legId, .str r.kind.name, .str r.recipientId,
    .str "lightning_address", .str r.destination, destinationSourceDigestValue r.source,
    .num r.weightSats]

lemma recipient_inj (a b : SettledRecipient) (h : recipientDigestValue a = recipientDigestValue b) :
    a = b := by
  obtain ⟨⟨kind, id, destination, source, weight⟩, position, legId⟩ := a
  obtain ⟨⟨kind', id', destination', source', weight'⟩, position', legId'⟩ := b
  simp only [recipientDigestValue, arr.injEq, cons.injEq, str.injEq, num.injEq,
    true_and, and_true] at h
  obtain ⟨hpos, rfl, hk, rfl, rfl, hs, rfl⟩ := h
  obtain rfl := kind_name_inj hk
  obtain rfl := destinationSource_inj hs
  obtain rfl : position = position' := by omega
  rfl

def nativeDigestValue (n : NativeTreasuryPlan) : Json :=
  .arr [.num 1, .str n.sparkAddress, .str n.receiverIdentityPublicKey,
    .str n.senderIdentityPublicKey, .str n.invoiceId, .str n.invoiceRequest, .str "zero_required",
    .str "unused_commerce_reserves"]

lemma native_inj (a b : NativeTreasuryPlan) (h : nativeDigestValue a = nativeDigestValue b) :
    a = b := by
  cases a
  cases b
  simpa [nativeDigestValue] using h

lemma lines_same {l l' : List CommerceQuoteLine}
    (h : l.map (lineDigestValue P) = l'.map (lineDigestValue P)) : Forall₂ (SameLine P) l l' := by
  have ha : Forall₂ (fun a b => lineDigestValue P a = lineDigestValue P b) l l' := by
    rw [← forall₂_eq_eq_eq, forall₂_map_left_iff, forall₂_map_right_iff] at h
    exact h
  exact ha.imp fun _ _ => sameLine

def SettledPlan.Versioned (plan : SettledPlan) : Prop :=
  plan.schemaVersion = 3 ∧ plan.nativeTreasury = none ∧ plan.eventMarket = none ∨
    plan.schemaVersion = 4 ∧ plan.nativeTreasury ≠ none ∧ plan.eventMarket = none ∨
    plan.schemaVersion = 5 ∧ plan.nativeTreasury ≠ none ∧ plan.eventMarket ≠ none ∧
      plan.merchantPublicZapPolicy = none

lemma optionalParts_inj {a b : SettledPlan} {z z' : Option Json} (ha : a.Versioned)
    (hb : b.Versioned) (hver : a.schemaVersion = b.schemaVersion)
    (hs : ∀ m ∈ a.eventMarket, m.sorted = m) (hs' : ∀ m ∈ b.eventMarket, m.sorted = m)
    (hz : ∀ j ∈ z, tagOf j ≠ some "conduit-fee-policy")
    (hz' : ∀ j ∈ z', tagOf j ≠ some "conduit-fee-policy")
    (h : ofOption nativeDigestValue a.nativeTreasury ++
        (ofOption eventMarketBindingDigestValue a.eventMarket ++
          (ofOption id z ++ ofOption (fun p => .arr [.str "conduit-fee-policy", .str p])
            a.conduitFeePolicy)) =
      ofOption nativeDigestValue b.nativeTreasury ++
        (ofOption eventMarketBindingDigestValue b.eventMarket ++
          (ofOption id z' ++ ofOption (fun p => .arr [.str "conduit-fee-policy", .str p])
            b.conduitFeePolicy))) :
    a.nativeTreasury = b.nativeTreasury ∧ a.eventMarket = b.eventMarket ∧
      a.conduitFeePolicy = b.conduitFeePolicy := by
  have hf : ∀ {z z' : Option Json}, (∀ j ∈ z, tagOf j ≠ some "conduit-fee-policy") →
      (∀ j ∈ z', tagOf j ≠ some "conduit-fee-policy") →
      ofOption id z ++ ofOption (fun p => .arr [.str "conduit-fee-policy", .str p])
        a.conduitFeePolicy = ofOption id z' ++
          ofOption (fun p => .arr [.str "conduit-fee-policy", .str p]) b.conduitFeePolicy →
      a.conduitFeePolicy = b.conduitFeePolicy := fun hz hz' h =>
    ofOption_inj (by simp) (trailing_inj (fun _ => rfl) hz hz' h)
  obtain ⟨h₃, hn, hm⟩ | ⟨h₄, hn, hm⟩ | ⟨h₅, hn, hm, -⟩ := ha
  · obtain ⟨-, hn', hm'⟩ | ⟨h₄', -⟩ | ⟨h₅', -⟩ := hb
    · rw [hn, hn', hm, hm'] at h ⊢
      exact ⟨rfl, rfl, hf hz hz' h⟩
    · omega
    · omega
  · obtain ⟨h₃', -⟩ | ⟨-, hn', hm'⟩ | ⟨h₅', -⟩ := hb
    · omega
    · obtain ⟨n, hn⟩ := Option.ne_none_iff_exists'.1 hn
      obtain ⟨n', hn'⟩ := Option.ne_none_iff_exists'.1 hn'
      rw [hn, hn', hm, hm'] at h ⊢
      obtain ⟨hnat, h⟩ := cons.inj h
      exact ⟨congrArg some (native_inj n n' hnat), rfl, hf hz hz' h⟩
    · omega
  · obtain ⟨h₃', -⟩ | ⟨h₄', -⟩ | ⟨-, hn', hm', -⟩ := hb
    · omega
    · omega
    · obtain ⟨n, hn⟩ := Option.ne_none_iff_exists'.1 hn
      obtain ⟨n', hn'⟩ := Option.ne_none_iff_exists'.1 hn'
      obtain ⟨m, hm⟩ := Option.ne_none_iff_exists'.1 hm
      obtain ⟨m', hm'⟩ := Option.ne_none_iff_exists'.1 hm'
      have hmkt := hs m hm
      have hmkt' := hs' m' hm'
      rw [hn, hn', hm, hm'] at h ⊢
      obtain ⟨hnat, h⟩ := cons.inj h
      obtain ⟨hbin, h⟩ := cons.inj h
      exact ⟨congrArg some (native_inj n n' hnat),
        congrArg some (eventMarketBinding_inj hmkt hmkt' hbin), hf hz hz' h⟩

lemma sameTerms_of_canonical {a b : SettledPlan} (ha : a.Versioned) (hb : b.Versioned)
    (hs : ∀ m ∈ a.eventMarket, m.sorted = m) (hs' : ∀ m ∈ b.eventMarket, m.sorted = m)
    (hc : canonicalPlanValue P a = .ok j) (hc' : canonicalPlanValue P b = .ok j) :
    SameTerms P a b := by
  simp only [canonicalPlanValue, run_ok] at hc hc'
  obtain ⟨z, hz, rfl⟩ := hc
  obtain ⟨z', hz', h⟩ := hc'
  have htag : ∀ {o : Option MerchantPublicZapPolicy} {z : Option Json},
      optionResult (merchantPublicZapPolicyDigestValue P) o = .ok z →
      ∀ j ∈ z, tagOf j ≠ some "conduit-fee-policy" := by
    intro o z ho j hj
    obtain ⟨-, rfl⟩ | ⟨policy, value, -, rfl, hv⟩ := optionResult_ok ho
    · cases hj
    · cases hj
      exact zapDigestValue_tag hv
  replace h := h.symm
  simp only [arr.injEq, append_assoc, cons_append, nil_append,
    cons.injEq, str.injEq, num.injEq, and_true] at h
  obtain ⟨-, hver, hch, hord, hmer, hw, hn, hm, htak, hqt,
    ⟨hreq, hrequest, hhash, hrcv, hgross, hfunded, hexpy⟩, hr, h⟩ := h
  rw [commerceQuoteDigestValue_lines, commerceQuoteDigestValue_lines] at hqt
  simp only [arr.injEq, cons_append, nil_append, cons.injEq, num.injEq] at hqt
  obtain ⟨ht, hls, -⟩ := hqt
  have hver : a.schemaVersion = b.schemaVersion := by omega
  obtain ⟨hnat, hmkt, hf⟩ := optionalParts_inj ha hb hver hs hs'
    (htag hz) (htag hz') h
  have hfun : a.funding = b.funding := by
    cases hx : a.funding
    simp_all
  exact ⟨hver, hch, hord, hmer, hw, network_name_inj hn, hm,
    htak, hfun, ht, lines_same hls, map_inj recipient_inj hr, hnat,
    hmkt, hf⟩

lemma restoreSettledPlan_canonical (h : restoreSettledPlan P p = .ok plan) :
    plan.planDigest = p.planDigest ∧
      (∃ j, canonicalPlanValue P plan = .ok j ∧ plan.planDigest = P.digest j) ∧
      ∀ m ∈ plan.eventMarket, m.sorted = m := by
  simp only [restoreSettledPlan, run_ok, not_or, not_not] at h
  obtain ⟨-, canonical, h, heq, rfl⟩ := h
  refine ⟨heq.1, ?_⟩
  simp only [freezeSettledPlanInternal, run_ok] at h
  obtain ⟨checkoutId, -, orderId, -, merchant, -, walletId, -, createdAt, -, takeoverAt, -, -,
    quote, -, event, hev, -, weights, -, gross, -, expected, -, -, funding, -, -, recipients, -,
    u, -, zap, -, treasury, -, value, hv, rfl⟩ := h
  refine ⟨⟨value, hv, rfl⟩, fun m hm => ?_⟩
  obtain ⟨-, rfl⟩ | ⟨input, frozen, -, rfl, hf⟩ := optionResult_ok hev
  · cases hm
  · cases hm
    simp only [freezeEventMarketBinding, run_ok] at hf
    obtain ⟨-, -, -, -, -, -, rfl⟩ := hf
    exact sorted_sorted

def SettledPlan.hashed (P : Platform) (plan : SettledPlan) : List Json :=
  (canonicalPlanValue P plan).toOption.toList ++
    (plan.recipients.map SettledRecipient.toRecipientInput).zipIdx.map fun c =>
      legPreimage plan.checkoutId plan.orderId c.2 c.1

def CollisionFree (P : Platform) (values : List Json) : Prop :=
  ∀ a ∈ values, ∀ b ∈ values, P.digest a = P.digest b → a = b

lemma mem_hashed (h : canonicalPlanValue P plan = .ok j) : j ∈ plan.hashed P := by
  apply mem_append_left
  rw [h]
  exact mem_singleton.2 rfl

lemma sameTerms_of_digest {q a b : SettledPlan} (ha : restoreSettledPlan P p = .ok a)
    (hb : restoreSettledPlan P q = .ok b) (hf : CollisionFree P (a.hashed P ++ b.hashed P))
    (h : p.planDigest = q.planDigest) : SameTerms P a b := by
  obtain ⟨hd, ⟨j, hj, hdj⟩, hs⟩ := restoreSettledPlan_canonical ha
  obtain ⟨hd', ⟨j', hj', hdj'⟩, hs'⟩ := restoreSettledPlan_canonical hb
  have heq : j = j' := by
    apply hf j (mem_append_left _ (mem_hashed hj)) j' (mem_append_right _ (mem_hashed hj'))
    rw [← hdj, ← hdj', hd, hd', h]
  exact sameTerms_of_canonical (restoreSettledPlan_version ha).2 (restoreSettledPlan_version hb).2
    hs hs' (heq ▸ hj) hj'

def legPosition : Json → Int
  | .arr (_ :: _ :: _ :: .num n :: _) => n
  | _ => 0

lemma legIds_nodup_of_collisionFree (h : restoreSettledPlan P p = .ok plan)
    (hf : CollisionFree P (plan.hashed P)) :
    (plan.recipients.map SettledRecipient.legId).Nodup := by
  obtain ⟨weights, hfr⟩ := frozenPlan_of_restore h
  rw [hfr.legIds]
  have hp : ((plan.recipients.map SettledRecipient.toRecipientInput).zipIdx.map
      fun c => legPreimage plan.checkoutId plan.orderId c.2 c.1).Nodup := by
    apply Nodup.of_map legPosition
    rw [map_map]
    have hs : ((plan.recipients.map SettledRecipient.toRecipientInput).zipIdx.map
        fun c => (c.2 : Int)).Nodup := by
      have hi := zipIdx_map_snd 0 (plan.recipients.map SettledRecipient.toRecipientInput)
      rw [show (fun c : RecipientInput × Nat => (c.2 : Int)) = Nat.cast ∘ Prod.snd from rfl,
        ← map_map, hi]
      exact (nodup_range' ).map Nat.cast_injective
    exact hs
  have hm := hp.map_on (f := P.digest) fun a ha b hb hab =>
    hf a (mem_append_right _ ha) b (mem_append_right _ hb) hab
  rwa [map_map] at hm

end Conduit.CheckoutSpark
