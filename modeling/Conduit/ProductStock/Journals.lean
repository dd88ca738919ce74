import Conduit.ProductStock.Decisions

namespace Conduit.ProductStock

open Js Stock Throwing Unreliable List Prod

variable {c : Char} {x : Text}

lemma not_mem_split (h : c ∉ x) : split c x = [x] := by
  induction x with
  | nil => rfl
  | cons d x ih =>
    rw [mem_cons, not_or] at h
    rw [split, if_neg (Ne.symm h.1), ih h.2]

lemma split_append (h : c ∉ x) (y : Text) : split c (x ++ c :: y) = x :: split c y := by
  induction x with
  | nil => rw [nil_append, split, if_pos rfl]
  | cons d x ih =>
    rw [mem_cons, not_or] at h
    rw [cons_append, split, if_neg (Ne.symm h.1), ih h.2]

lemma colon_not_mem_encode (t : Text) : ':' ∉ encodeURIComponent t :=
  not_mem_encode (by decide) (by decide) (by decide) t

lemma encode_ne_nil {t : Text} (h : t ≠ []) : encodeURIComponent t ≠ [] := by
  intro hn
  have hd := decode_encode t
  rw [hn] at hd
  exact h (Option.some_inj.1 hd).symm

lemma getOrderStockDecisionKey_inj {o o' a a' : Text}
    (h : getOrderStockDecisionKey o a = getOrderStockDecisionKey o' a') :
    trim o = trim o' ∧ trim a = trim a' := by
  have hs := congrArg (split ':') h
  unfold getOrderStockDecisionKey at hs
  rw [split_append (colon_not_mem_encode _), split_append (colon_not_mem_encode _),
    not_mem_split (colon_not_mem_encode _), not_mem_split (colon_not_mem_encode _)] at hs
  simp only [cons.injEq, and_true] at hs
  exact ⟨encodeURIComponent_inj hs.1, encodeURIComponent_inj hs.2⟩

@[simp] lemma getOrderStockDecisionKey_trim (o a : Text) :
    getOrderStockDecisionKey (trim o) (trim a) = getOrderStockDecisionKey o a := by
  simp only [getOrderStockDecisionKey, trim_idem]

@[simp] lemma getOrderStockDecisionKey_trim_right (o a : Text) :
    getOrderStockDecisionKey o (trim a) = getOrderStockDecisionKey o a := by
  simp only [getOrderStockDecisionKey, trim_idem]

@[simp] lemma getOrderStockDecisionKey_trim_left (o a : Text) :
    getOrderStockDecisionKey (trim o) a = getOrderStockDecisionKey o a := by
  simp only [getOrderStockDecisionKey, trim_idem]

lemma getDecisionProductAddressId_key {o a : Text} (ho : trim o ≠ []) (ha : trim a ≠ []) :
    getDecisionProductAddressId (getOrderStockDecisionKey o a) = some (trim a) := by
  have hs : split ':' (getOrderStockDecisionKey o a) =
      [encodeURIComponent (trim o), encodeURIComponent (trim a)] := by
    unfold getOrderStockDecisionKey
    rw [split_append (colon_not_mem_encode _), not_mem_split (colon_not_mem_encode _)]
  unfold getDecisionProductAddressId
  rw [hs]
  simp only [Option.bind_eq_bind, decode_encode, Option.bind_some, getOrderStockDecisionKey_trim,
    trim_idem]
  simp [guard, encode_ne_nil ho, encode_ne_nil ha, ho, ha]

lemma parseOrderStockAdjustment_eq {a b : OrderStockAdjustment}
    (h : parseOrderStockAdjustment a = some b) : b = a := by
  simp only [parseOrderStockAdjustment, run_gives] at h
  exact h.2.2.2.2.2.2.symm

section
variable {P : StockPlatform}

structure DeliveryFacts (P : StockPlatform) (d : PendingProductStockDelivery) : Prop where
  adjustment : parseOrderStockAdjustment d.adjustment = some d.adjustment
  orderId : trim d.orderId ≠ []
  key : d.adjustment.key = getOrderStockDecisionKey d.orderId d.adjustment.addressId
  signedAddress : getSignedProductAddressId d.signedEvent = some d.adjustment.addressId
  valid : P.isValidSignedPublicNostrEvent d.signedEvent = true ∧
    d.signedEvent.pubkey = P.merchantPubkey
  product : P.parsePrivateOrderProductFields d.signedEvent =
    some (d.adjustment.addressId, some d.adjustment.nextStock)

lemma parsePending_eq_some {d d' : PendingProductStockDelivery} {key : Option Text} :
    parsePendingProductStockDelivery P d key = some d' ↔ DeliveryFacts P d ∧
      (∀ k ∈ key, k = d.adjustment.key) ∧ d' = { d with orderId := trim d.orderId } := by
  simp only [parsePendingProductStockDelivery, run_gives, getOrderStockDecisionKey_trim_left]
  constructor
  · rintro ⟨a, ha, ho, hv, haut, hadd, ⟨hkey, hs⟩, p, hp, ⟨hid, hst⟩, rfl⟩
    obtain rfl := parseOrderStockAdjustment_eq ha
    refine ⟨⟨ha, ho, hkey, hadd, ⟨hv, haut⟩, ?_⟩, ?_, rfl⟩
    · rw [hp, ← hid, ← hst]
    · intro k hk
      rw [hs k hk, hkey]
  · rintro ⟨hf, hs, rfl⟩
    refine ⟨d.adjustment, hf.adjustment, hf.orderId, hf.valid.1, hf.valid.2,
      hf.signedAddress, ⟨hf.key, ?_⟩, _, hf.product, ⟨rfl, rfl⟩, rfl⟩
    intro k hk
    rw [hs k hk, hf.key]

/-- An entry of the checkpoints. -/
structure StoredDelivery (P : StockPlatform) (e : Text × PendingProductStockDelivery) : Prop where
  facts : DeliveryFacts P e.2
  key : e.1 = e.2.adjustment.key
  trimmed : trim e.2.orderId = e.2.orderId

variable {α : Type} {e : Text × PendingProductStockDelivery}

lemma StoredDelivery.parsed (h : StoredDelivery P e) :
    parsePendingProductStockDelivery P e.2 (some e.1) = some e.2 := by
  refine parsePending_eq_some.2 ⟨h.facts, ?_, ?_⟩
  · rintro k ⟨⟩
    exact h.key
  · rw [h.trimmed]

lemma StoredDelivery.decisionKey (h : StoredDelivery P e) :
    getOrderStockDecisionKey e.2.orderId e.2.adjustment.addressId = e.1 := by
  rw [h.key, h.facts.key]

/-- An entry of the decisions. -/
structure StoredDecision (e : Text × ProductStockDecision) : Prop where
  parsed : parseDecision e.1 e.2 = some e.2
  kind : e.2.kind ≠ .declined
  adjusted : ∃ a, e.2.adjustment = some a

lemma StoredDecision.bound {e : Text × ProductStockDecision} (h : StoredDecision e)
    {a : OrderStockAdjustment} (ha : e.2.adjustment = some a) :
    a.key = e.1 ∧ getDecisionProductAddressId e.1 = some a.addressId := by
  have hp := h.parsed
  simp only [parseDecision, ha, run_gives, Option.map_eq_some_iff, pure_gives] at hp
  obtain ⟨adj, ⟨b, hb, rfl⟩, hbd, -⟩ := hp
  obtain rfl := parseOrderStockAdjustment_eq hb
  obtain ⟨hk, hadd⟩ := hbd b rfl
  exact ⟨hk, hadd.symm⟩

def Undecided (decisions : List (Text × ProductStockDecision))
    (e : Text × PendingProductStockDelivery) : Prop :=
  ∀ d, entryAt e.1 decisions = some d →
    d.kind = .unpublished ∧ d.localEventId ≠ some e.2.signedEvent.id

def SameRevision (a b : OrderStockAdjustment) : Prop :=
  a.addressId = b.addressId ∧ a.sourceEventId = b.sourceEventId

def withoutDecision (decisions : List (Text × ProductStockDecision))
    (deliveries : List (Text × PendingProductStockDelivery)) :
    List (Text × PendingProductStockDelivery) :=
  deliveries.filter fun e => decide (entryAt e.1 decisions = none)

structure JournalOk (P : StockPlatform) (fenced : Prop) (decisions : List (Text × ProductStockDecision))
    (deliveries : List (Text × PendingProductStockDelivery)) : Prop where
  decisionKeys : (decisions.map Prod.fst).Nodup
  deliveryKeys : (deliveries.map Prod.fst).Nodup
  decision : ∀ e ∈ decisions, StoredDecision e
  delivery : ∀ e ∈ deliveries, StoredDelivery P e
  room : decisions.length + (withoutDecision decisions deliveries).length ≤ maxStoredStockDecisions
  single : ∀ e ∈ deliveries, ∀ e' ∈ deliveries,
    e.2.adjustment.addressId = e'.2.adjustment.addressId → Undecided decisions e →
      Undecided decisions e' → e.1 = e'.1
  decidedFence : fenced → ∀ e ∈ decisions, ∀ e' ∈ decisions, ∀ a ∈ e.2.adjustment,
    ∀ a' ∈ e'.2.adjustment, SameRevision a a' → e.1 = e'.1
  pendingFence : fenced → ∀ e ∈ decisions, ∀ a ∈ e.2.adjustment, ∀ e' ∈ deliveries,
    Undecided decisions e' → SameRevision a e'.2.adjustment → e.1 = e'.1
  named : fenced → ∀ e ∈ deliveries, ∀ d, entryAt e.1 decisions = some d → d.kind = .unpublished →
    d.localEventId = some e.2.signedEvent.id → d.adjustment = some e.2.adjustment

variable {fenced : Prop} {D D' : List (Text × ProductStockDecision)}
  {L L' : List (Text × PendingProductStockDelivery)} {l : List (Text × α)} {k : Text}

lemma entryAt_eq_some (h : (l.map fst).Nodup) {a : α} : entryAt k l = some a ↔ (k, a) ∈ l := by
  unfold entryAt
  rw [Option.map_eq_some_iff]
  constructor
  · rintro ⟨⟨k', a'⟩, hlk, rfl⟩
    obtain ⟨hm, rfl⟩ := mem_of_lookup hlk
    exact hm
  · intro hm
    exact ⟨(k, a), (lookup_eq_some h).2 ⟨hm, rfl⟩, rfl⟩

lemma entryAt_perm {m : List (Text × α)} (h : (l.map fst).Nodup) (hp : m.Perm l) (k : Text) :
    entryAt k m = entryAt k l :=
  congrArg (Option.map snd) (Keyed.find?_key_perm h hp k)

lemma entryAt_eq_none : entryAt k l = none ↔ k ∉ l.map fst := by
  unfold entryAt
  rw [Option.map_eq_none_iff, lookup_eq_none, mem_map]
  constructor
  · rintro h ⟨e, he, rfl⟩
    exact h e he rfl
  · intro h e he heq
    exact h ⟨e, he, heq⟩

lemma JournalOk.subperm (h : JournalOk P fenced D L) (hL : L'.Subperm L) :
    JournalOk P fenced D L' where
  decisionKeys := h.decisionKeys
  deliveryKeys := by
    obtain ⟨M, hpm, hs⟩ := hL
    exact (hpm.map fst).nodup_iff.1 (h.deliveryKeys.sublist (hs.map fst))
  decision := h.decision
  delivery e he := h.delivery e (hL.subset he)
  room := by
    obtain ⟨M, hpm, hs⟩ := hL
    have hlen := (hpm.filter fun e => decide (entryAt e.1 D = none)).length_eq
    have hle := (hs.filter fun e => decide (entryAt e.1 D = none)).length_le
    have hr := h.room
    unfold withoutDecision at hr ⊢
    omega
  single e he e' he' := h.single e (hL.subset he) e' (hL.subset he')
  decidedFence := h.decidedFence
  pendingFence hf e he a ha e' he' := h.pendingFence hf e he a ha e' (hL.subset he')
  named hf e he := h.named hf e (hL.subset he)

lemma JournalOk.perm (h : JournalOk P fenced D L) (hD : D'.Perm D) : JournalOk P fenced D' L := by
  have hent : ∀ k, entryAt k D' = entryAt k D := entryAt_perm h.decisionKeys hD
  have hund : ∀ e, Undecided D' e ↔ Undecided D e := by
    intro e
    unfold Undecided
    rw [hent]
  refine ⟨(hD.map fst).nodup_iff.2 h.decisionKeys, h.deliveryKeys,
    fun e he => h.decision e (hD.mem_iff.1 he), h.delivery, ?_, ?_, ?_, ?_, ?_⟩
  · have hr := h.room
    unfold withoutDecision at hr ⊢
    simp only [hent, hD.length_eq]
    exact hr
  · intro e he e' he' hadd hu hu'
    exact h.single e he e' he' hadd ((hund e).1 hu) ((hund e').1 hu')
  · intro hf e he e' he'
    exact h.decidedFence hf e (hD.mem_iff.1 he) e' (hD.mem_iff.1 he')
  · intro hf e he a ha e' he' hu
    exact h.pendingFence hf e (hD.mem_iff.1 he) a ha e' he' ((hund e').1 hu)
  · intro hf e he d hd
    exact h.named hf e he d (hent _ ▸ hd)

lemma filterMap_self {f : α → Option α} {l : List α} (h : ∀ a ∈ l, f a = some a) :
    l.filterMap f = l := by
  induction l with
  | nil => rfl
  | cons a l ih =>
    rw [filterMap_cons, h a mem_cons_self, ih fun b hb => h b (mem_cons_of_mem _ hb)]

lemma parseStoredDecisionsStrict_ok {raw : Option (List (Text × ProductStockDecision))}
    (h : ∀ e ∈ raw.getD [], StoredDecision e) : parseStoredDecisionsStrict raw = .ok (raw.getD []) := by
  have ha : (raw.getD []).filterMap (fun e => (parseDecision e.1 e.2).map fun d => (e.1, d)) =
      raw.getD [] := by
    apply filterMap_self
    intro e he
    rw [(h e he).parsed]
    rfl
  unfold parseStoredDecisionsStrict
  simp only [ha]
  rw [reject_of_not (fun hne => hne rfl), ok_bind]
  rfl

lemma parseStoredDeliveriesStrict_ok {raw : Option (List (Text × PendingProductStockDelivery))}
    (h : ∀ e ∈ raw.getD [], StoredDelivery P e) :
    parseStoredDeliveriesStrict P raw = .ok (raw.getD []) := by
  have ha : (raw.getD []).filterMap (fun e =>
      (parsePendingProductStockDelivery P e.2 (some e.1)).map fun d => (e.1, d)) = raw.getD [] := by
    apply filterMap_self
    intro e he
    rw [(h e he).parsed]
    rfl
  unfold parseStoredDeliveriesStrict
  simp only [ha]
  rw [reject_of_not (fun hne => hne rfl), ok_bind]
  rfl

end

end Conduit.ProductStock
