import Conduit.ProductStock.AppliedOnce

namespace Conduit.ProductStock

open Js Stock Throwing Unreliable List ProductStockDecisionStore PendingProductStockDeliveryStore
open Option Prod

section
variable {P : StockPlatform} {fenced : Prop} {s t : StockStorage}

lemma loadDecisions_gives (hs : StorageOk P fenced s) : Gives loadDecisions s s.decided s :=
  (Gives.read _ s).bind (.ofResult (parseStoredDecisionsStrict_ok hs.decision) s)

lemma storedDeliveries_gives (h : ∀ e ∈ s.pending, StoredDelivery P e) :
    Gives (loadDeliveries P) s s.pending s :=
  (Gives.read _ s).bind (.ofResult (parseStoredDeliveriesStrict_ok h) s)

section

variable (hs : StorageOk P fenced s)
include hs

lemma loadDeliveries_gives : Gives (loadDeliveries P) s s.pending s :=
  storedDeliveries_gives hs.delivery

lemma pendingForMerchant_gives : Gives (getPersistedForMerchant P) s
      (s.pending.map snd) s :=
  (loadDeliveries_gives hs).bind (.pure _ s)

lemma getPersistedForMerchant_gives : Gives getPersistedForMerchant s (s.decided.map snd) s :=
  (loadDecisions_gives hs).bind (.pure _ s)

lemma getPersisted_gives {o a : Text} (ho : trim o ≠ []) (ha : trim a ≠ []) :
    Gives (getPersisted o a) s
      (entryAt (getOrderStockDecisionKey o a) s.decided) s := by
  refine (loadDecisions_gives hs).bind ?_
  simp only [getOrderStockDecisionKey_trim_right]
  refine .bind (.rejectIf ?_ s) (.pure _ s)
  rintro ⟨d, hd, hu⟩
  have hm := (entryAt_eq_some hs.decisionKeys).1 hd
  apply hu
  intro adjustment hadj
  obtain ⟨hk, hadd⟩ := (hs.decision _ hm).bound hadj
  simp only [getOrderStockDecisionKey_trim_right, getDecisionProductAddressId_key ho ha]
    at hadd
  exact ⟨hk, (some_inj.1 hadd).symm⟩

end

variable {input : SettleInput} {key : Text}

lemma saveDecision_gives (hs : StorageOk P fenced s) {decision : ProductStockDecision}
    (hok : ∀ t, DecisionSaved s key decision t → StorageOk P fenced t)
    (hr : entryAt key s.decided = none → s.decided.length < maxStoredStockDecisions) :
    ∃ t, Gives (save key decision) s true t ∧ DecisionSaved s key decision t := by
  have hf : ¬ (entryAt key s.decided = none ∧ maxStoredStockDecisions ≤ s.decided.length) := by
    rintro ⟨hn, hle⟩
    exact absurd (hr hn) (not_lt.2 hle)
  have hl : s.decided.length ≤ maxStoredStockDecisions := by
    have := hs.room
    omega
  have hsa : DecisionSaved s key decision { s with decisions := some ((newestFirst
      (·.decidedAt) key (mapSet fst s.decided (key, decision))).take
        maxStoredStockDecisions) } :=
    ⟨rfl, newestFirst_take_perm hf hl, hr⟩
  refine ⟨_, ?_, hsa⟩
  refine (loadDecisions_gives hs).bind ?_
  rw [if_neg hf]
  refine (Gives.write _ s).bind ((loadDecisions_gives (hok _ hsa)).bind ?_)
  have he : entryAt key (StockStorage.decided { s with decisions := some ((newestFirst
      (·.decidedAt) key (mapSet fst s.decided (key, decision))).take
        maxStoredStockDecisions) }) = some decision := by
    rw [entryAt_perm (nodup_mapSet hs.decisionKeys) hsa.decided, entryAt_mapSet, if_pos rfl]
  rw [decide_eq_true he]
  exact .pure _ _

variable {p : PendingProductStockDelivery}

section

variable (hs : StorageOk P fenced s)
include hs

lemma room_of_pending {k : Text} (hp : (k, p) ∈ s.pending) (hn : entryAt k s.decided = none) :
    s.decided.length < maxStoredStockDecisions := by
  have hroom := hs.room
  have hpos := length_pos_of_mem (mem_withoutDecision.2 ⟨hp, hn⟩)
  omega

lemma getPersisted_gives_or_throws (o a : Text) : Gives (getPersisted o a) s
      (entryAt (getOrderStockDecisionKey o a) s.decided) s ∨
      ∃ e, getPersisted o a [] s = (.thrown e, s, []) := by
  unfold getPersisted Gives
  rw [(loadDecisions_gives hs).then]
  rcases rejectIf_gives_or_throws (∃ d ∈ entryAt (getOrderStockDecisionKey o (trim a)) s.decided,
      ¬ isDecisionBoundToProduct d (getOrderStockDecisionKey o (trim a)) (trim a))
      (Failure.error "Stored stock decision belongs to another product") s with
    ⟨-, hg⟩ | ht
  · rw [hg.then, getOrderStockDecisionKey_trim_right]
    exact .inl rfl
  · rw [then_of_thrown ht]
    exact .inr ⟨_, rfl⟩

lemma setDecision_gives_or_throws (hp : (input.adjustment.key, p) ∈ s.pending)
    (hid : p.signedEvent.id = input.signedEventId) (ha : p.adjustment = input.adjustment)
    (ho : ∀ d, entryAt (getOrderStockDecisionKey input.orderId input.adjustment.addressId)
      s.decided = some d → d.kind ≠ .applied ∧ d.kind ≠ .declined) :
    (∃ t, Gives (ProductStockDecisionStore.set input.now input.orderId
      input.adjustment.addressId input.kind.decision input.adjustment
      (if input.kind = .unpublished then some input.signedEventId else none)) s true t) ∨
      ∃ e, ProductStockDecisionStore.set input.now input.orderId
        input.adjustment.addressId input.kind.decision input.adjustment
        (if input.kind = .unpublished then some input.signedEventId else none) [] s =
          (.thrown e, s, []) := by
  unfold ProductStockDecisionStore.set Gives
  rcases rejectIf_gives_or_throws (input.adjustment.key ≠
      getOrderStockDecisionKey input.orderId (trim input.adjustment.addressId) ∨
      input.adjustment.addressId ≠ trim input.adjustment.addressId)
      (Failure.error "Stock decision adjustment does not match the order product") s with
    ⟨hk, hg⟩ | ht
  · rw [hg.then]
    rcases rejectIf_gives_or_throws (input.kind.decision = .unpublished ∧ ¬ ∃ id ∈
        (if input.kind = .unpublished then some input.signedEventId else none), IsHex64 id)
        (Failure.error "An unpublished stock decision requires its exact local revision") s with
      ⟨hh, hg⟩ | ht
    · rw [hg.then]
      obtain ⟨t, hsa, -⟩ := saveDecision_gives hs
        (fun v hv => (settled_saved hs hp hid ha ho hk hh v hv).ok) (by
          rw [← not_not.1 (not_or.1 hk).1]
          exact room_of_pending hs hp)
      exact .inl ⟨t, hsa.orElse⟩
    · rw [then_of_thrown ht]
      exact .inr ⟨_, rfl⟩
  · rw [then_of_thrown ht]
    exact .inr ⟨_, rfl⟩

lemma settle_not_retry (input : SettleInput) :
    (settleSignedOrderStockDelivery P input [] s).1 ≠ .returned .retry := by
  unfold settleSignedOrderStockDelivery
  rw [(pendingForMerchant_gives hs).then]
  by_cases he : ExactPending (lookup (·.adjustment.key) input.adjustment.key
      (s.pending.map snd)) input.adjustment input.signedEventId
  · simp only [he, not_true_eq_false, if_false]
    obtain ⟨p, hp, hid, ha⟩ := pending_of_exact hs he
    rcases getPersisted_gives_or_throws hs input.orderId input.adjustment.addressId with
      hde | ⟨e, ht⟩
    · rw [hde.then]
      by_cases hf : ∃ d ∈ entryAt (getOrderStockDecisionKey input.orderId
          input.adjustment.addressId) s.decided, d.kind = .applied ∨ d.kind = .declined
      · rw [if_pos hf]
        rintro ⟨⟩
      · rw [if_neg hf]
        have ho : ∀ d, entryAt (getOrderStockDecisionKey input.orderId
            input.adjustment.addressId) s.decided = some d →
            d.kind ≠ .applied ∧ d.kind ≠ .declined := by
          intro d hd
          exact ⟨fun h => hf ⟨d, hd, .inl h⟩, fun h => hf ⟨d, hd, .inr h⟩⟩
        rcases setDecision_gives_or_throws hs hp hid ha ho with
          ⟨t, hset⟩ | ⟨e, ht⟩
        · rw [hset.then, if_neg (by decide)]
          exact bind_pure_ne (by decide)
        · rw [then_of_thrown ht]
          rintro ⟨⟩
    · rw [then_of_thrown ht]
      rintro ⟨⟩
  · simp only [he, not_false_eq_true, if_true]
    rintro ⟨⟩

end

def StockStorage.holding (s : StockStorage) (key : Text) (p : PendingProductStockDelivery) :
    StockStorage :=
  { s with deliveries := some [(key, p)] }

lemma saveDelivery_gives (hemp : s.pending = []) {pending : PendingProductStockDelivery}
    (hsto : StoredDelivery P (key, pending)) :
    Gives (save P key pending) s true (s.holding key pending) := by
  refine (storedDeliveries_gives (by rw [hemp]; rintro e ⟨⟩)).bind ?_
  rw [hemp, if_neg (by rintro ⟨-, hle⟩; exact absurd hle (by decide))]
  refine (Gives.write _ s).bind ((storedDeliveries_gives ?_).bind ?_)
  · intro e he
    rw [mem_singleton.1 (show e ∈ [(key, pending)] from he)]
    exact hsto
  · have hent : entryAt key [(key, pending)] = some pending :=
      (entryAt_eq_some (l := [(key, pending)]) (by simp)).2 (mem_singleton_self _)
    exact decide_eq_true hent ▸ Gives.pure _ _

lemma checkpoint_gives (hs : StorageOk P fenced s) (hemp : s.pending = []) {input : CheckpointInput}
    (hb : input.currentWriteBaseline = true) (hf : DeliveryFacts P
      ⟨trim input.orderId, input.adjustment, input.signedEvent, input.now⟩)
    (hadd : trim input.adjustment.addressId ≠ [])
    (hexp : Expected (entryAt input.adjustment.key s.decided)
      input.expectedUnpublishedEventId)
    (hfe : ∀ e ∈ s.decided, ∀ a ∈ e.2.adjustment, SameRevision a input.adjustment →
      a.key = input.adjustment.key)
    (hr : s.decided.length + (if entryAt input.adjustment.key s.decided ≠ none then 0 else 1) ≤
      maxStoredStockDecisions) :
    Gives (checkpointSignedOrderStockDelivery P input) s () (s.holding input.adjustment.key
      ⟨trim input.orderId, input.adjustment, input.signedEvent, input.now⟩) := by
  have hk := hf.key
  have ho := hf.orderId
  simp only [getOrderStockDecisionKey_trim_left, trim_idem] at hk ho
  refine (Gives.rejectIf (by rw [hb]; decide) s).bind ?_
  refine (getPersisted_gives hs ho hadd).bind ?_
  rw [← hk]
  refine (Gives.rejectIf (not_not.2 hexp) s).bind ?_
  refine (getPersistedForMerchant_gives hs).bind ?_
  refine (Gives.rejectIf ?_ s).bind ?_
  · rintro ⟨cand, hm, -, a, ha, hne, heq⟩
    obtain ⟨e, he, rfl⟩ := mem_map.1 hm
    exact hne (hfe e he a ha heq)
  refine (pendingForMerchant_gives hs).bind ?_
  rw [hemp]
  refine (Gives.rejectIf ?_ s).bind ?_
  · rw [length_map]
    simp only [eraseDups_nil, length_nil, not_mem_nil, or_false, not_lt]
    exact hr
  have hp : parsePendingProductStockDelivery P
      ⟨trim input.orderId, input.adjustment, input.signedEvent, input.now⟩ none =
      some ⟨trim input.orderId, input.adjustment, input.signedEvent, input.now⟩ :=
    parsePending_eq_some.2 ⟨hf, by rintro k ⟨⟩, by rw [trim_idem]⟩
  have hset : Gives (PendingProductStockDeliveryStore.set P input.now input.orderId
      input.adjustment input.signedEvent) s true (s.holding input.adjustment.key
      ⟨trim input.orderId, input.adjustment, input.signedEvent, input.now⟩) := by
    unfold PendingProductStockDeliveryStore.set
    rw [hp]
    simp only [getOrderStockDecisionKey_trim_left, ← hk]
    exact (saveDelivery_gives hemp ⟨hf, rfl, trim_idem _⟩).orElse
  exact hset.bind (.rejectIf (by decide) _)

lemma drop_gives (hs : StorageOk P fenced s) (hp : s.pending = [(key, p)]) :
    Gives (drop P key) s true
      { s with deliveries := some [] } := by
  refine (loadDeliveries_gives hs).bind ?_
  have hn : ([(key, p)].filter fun e => decide (e.1 ≠ key)) = [] := by simp
  rw [hp, hn]
  exact (Gives.write _ s).bind ((storedDeliveries_gives (by rintro e ⟨⟩)).bind (.pure true _))

lemma settle_gives (hs : StorageOk P fenced s) (hpe : s.pending = [(input.adjustment.key, p)])
    (hid : p.signedEvent.id = input.signedEventId) (ha : p.adjustment = input.adjustment)
    (hkey : input.adjustment.key =
      getOrderStockDecisionKey input.orderId input.adjustment.addressId)
    (hord : trim input.orderId ≠ []) (hadd : trim input.adjustment.addressId ≠ [])
    (ht : input.adjustment.addressId = trim input.adjustment.addressId)
    (hh : IsHex64 input.signedEventId) (hn : entryAt input.adjustment.key s.decided = none) :
    ∃ t, Gives (settleSignedOrderStockDelivery P input) s .saved { t with deliveries := some [] } ∧
      DecisionSaved s input.adjustment.key input.decision t ∧ StorageOk P fenced t := by
  have hp : (input.adjustment.key, p) ∈ s.pending := by
    rw [hpe]
    exact mem_singleton_self _
  have ho : ∀ d, entryAt (getOrderStockDecisionKey input.orderId input.adjustment.addressId)
      s.decided = some d → d.kind ≠ .applied ∧ d.kind ≠ .declined := by
    intro d hd
    rw [← hkey, hn] at hd
    cases hd
  have hm : ¬ (input.adjustment.key ≠
      getOrderStockDecisionKey input.orderId (trim input.adjustment.addressId) ∨
      input.adjustment.addressId ≠ trim input.adjustment.addressId) := by
    rw [getOrderStockDecisionKey_trim_right, ← hkey]
    simp only [ne_eq, not_true_eq_false, false_or, not_not]
    exact ht
  have hl : ¬ (input.kind.decision = .unpublished ∧ ¬ ∃ id ∈
      (if input.kind = .unpublished then some input.signedEventId else none), IsHex64 id) := by
    rintro ⟨hki, hno⟩
    cases hk : input.kind with
    | applied =>
      rw [hk] at hki
      cases hki
    | unpublished =>
      rw [hk] at hno
      exact hno ⟨input.signedEventId, rfl, hh⟩
  have hsa := settled_saved hs hp hid ha ho hm hl
  obtain ⟨t, hsave, hdec⟩ := saveDecision_gives hs (fun v hv => (hsa v hv).ok) (by
    rw [getOrderStockDecisionKey_trim_right, ← hkey]
    exact room_of_pending hs hp)
  have hok := (hsa t hdec).ok
  rw [getOrderStockDecisionKey_trim_right, ← hkey] at hdec
  refine ⟨t, ?_, hdec, hok⟩
  refine (pendingForMerchant_gives hs).bind ?_
  have he : ExactPending (lookup (·.adjustment.key) input.adjustment.key
      (s.pending.map snd)) input.adjustment input.signedEventId := by
    refine ⟨p, ?_, hid, ha⟩
    rw [hpe]
    simp [lookup, ha]
  simp only [he, not_true_eq_false, if_false]
  refine (getPersisted_gives hs hord hadd).bind ?_
  rw [← hkey, hn, if_neg (by rintro ⟨d, hd, -⟩; cases hd)]
  have hset : Gives (ProductStockDecisionStore.set input.now input.orderId
      input.adjustment.addressId input.kind.decision input.adjustment
      (if input.kind = .unpublished then some input.signedEventId else none)) s true t :=
    (Gives.rejectIf hm s).bind ((Gives.rejectIf hl s).bind hsave.orElse)
  refine hset.bind ?_
  have hdr : Gives (delete P input.orderId
      input.adjustment.addressId) t true { t with deliveries := some [] } := by
    unfold delete
    rw [← hkey]
    exact (drop_gives hok ((congrArg (getD · []) hdec.deliveries).trans hpe)).orElse
  exact hdr.bind (.pure _ _)

end

end Conduit.ProductStock
