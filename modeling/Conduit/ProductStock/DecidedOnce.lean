import Conduit.ProductStock.Undisturbed

namespace Conduit.ProductStock

open Js Stock Throwing Unreliable Runs List

/-- Every reachable state; revisions are fenced where a republished decision has a new event. -/
theorem legacy_stock_decided_once {P : StockPlatform} {l : List (StockCall × List Fault)}
    {s : StockStorage} (hrun : Run (StockStep P) emptyStorage l s) :
    parseStoredDecisionsStrict s.decisions = .ok s.decided ∧
    parseStoredDeliveriesStrict P s.deliveries = .ok s.pending ∧
    (∀ e ∈ s.pending, ∀ e' ∈ s.pending,
      e.2.adjustment.addressId = e'.2.adjustment.addressId →
      Undecided s.decided e → Undecided s.decided e' → e = e') ∧
    s.decided.length + (withoutDecision s.decided s.pending).length ≤ maxStoredStockDecisions ∧
    (∀ input, (settleSignedOrderStockDelivery P input [] s).1 ≠ .returned .retry) ∧
    ((∀ c ∈ l, c.1.Renews) → ∀ e ∈ s.decided, e.2.kind ≠ .declined → ∀ a ∈ e.2.adjustment,
      (∀ e' ∈ s.decided, e'.2.kind ≠ .declined → ∀ a' ∈ e'.2.adjustment,
        SameRevision a a' → e.1 = e'.1) ∧
      ∀ e' ∈ s.pending, Undecided s.decided e' → SameRevision a e'.2.adjustment → e.1 = e'.1) ∧
    ∀ m t, Run (StockStep P) s m t →
      ∀ k d, entryAt k s.decided = some d → d.kind = .applied → entryAt k t.decided = some d := by
  have hok := (run_kept hrun (fun _ _ => False.elim) (emptyStorage_ok P False)).ok
  refine ⟨parseStoredDecisionsStrict_ok hok.decision, parseStoredDeliveriesStrict_ok hok.delivery,
    ?_, hok.room, settle_not_retry hok, ?_, ?_⟩
  · intro e he e' he' haddress hu hu'
    exact Keyed.eq_of_key_eq hok.deliveryKeys he he' (hok.single e he e' he' haddress hu hu')
  · intro hl e he _ a ha
    have hfenced := (run_kept hrun (fun c hc _ => hl c hc) (emptyStorage_ok P True)).ok
    exact ⟨fun e' he' _ => hfenced.decidedFence trivial e he e' he' a ha,
      hfenced.pendingFence trivial e he a ha⟩
  · intro m t hm
    exact (run_kept hm (fun _ _ => False.elim) hok).applied

namespace Sample

def platform : StockPlatform where
  merchantPubkey := List.replicate 64 'a'
  isValidSignedPublicNostrEvent := fun _ => true
  parsePrivateOrderProductFields := fun event =>
    (getSignedProductAddressId event).map fun id =>
      (id, if ["stock".toList, numberText 3] ∈ event.tags then some 3 else none)

def signed (id : Char) : SignedEvent where
  id := List.replicate 64 id
  pubkey := List.replicate 64 'a'
  createdAt := 1000
  kind := 30402
  tags := [["d", "x"], ["stock", "3"]]
  content := []
  sig := List.replicate 128 'c'

def addressId : Text := "30402:".toList ++ List.replicate 64 'a' ++ ":x".toList

def adjustment (orderId sourceEventId : Text) : OrderStockAdjustment where
  key := getOrderStockDecisionKey orderId addressId
  addressId := addressId
  sourceEventId := sourceEventId
  title := []
  quantity := 1
  currentStock := 4
  nextStock := 3
  shortfall := 0
  custom := false

def reserve (orderId sourceEventId : Text) (event : SignedEvent) (expected : Option Text) :
    CheckpointInput :=
  ⟨orderId, adjustment orderId sourceEventId, event, expected, true, 1⟩

def decision (orderId sourceEventId : Text) (event : SignedEvent) (kind : SettleKind) : SettleInput :=
  ⟨orderId, adjustment orderId sourceEventId, event.id, kind, 2⟩

def checkpoint (orderId sourceEventId : Text) (event : SignedEvent) (expected : Option Text) :
    StockCall :=
  .checkpoint (reserve orderId sourceEventId event expected)

def settle (orderId sourceEventId : Text) (event : SignedEvent) (kind : SettleKind) : StockCall :=
  .settle (decision orderId sourceEventId event kind)

/-- An unpublished decision is republished with its own event on another revision. -/
def calls : List (StockCall × List Fault) :=
  [(checkpoint "one" "s" (signed 'b') none, []),
    (settle "one" "s" (signed 'b') .unpublished, []),
    (checkpoint "one" "t" (signed 'b') (some (signed 'b').id), []),
    (checkpoint "two" "t" (signed 'd') none, List.replicate 6 .none ++ [.throws]),
    (settle "one" "t" (signed 'b') .applied, []),
    (settle "two" "t" (signed 'd') .applied, [])]

def play : List (StockCall × List Fault) → StockStorage → StockStorage
  | [], s => s
  | c :: l, s => play l (c.1.after platform c.2 s)

lemma run_play (l : List (StockCall × List Fault)) (s : StockStorage) :
    Run (StockStep platform) s l (play l s) := by
  induction l generalizing s with
  | nil => exact .nil s
  | cons c l ih => exact .cons rfl (ih _)

lemma calls_twice : ∃ e ∈ (play calls emptyStorage).decided,
    ∃ e' ∈ (play calls emptyStorage).decided, e.1 ≠ e'.1 ∧ e.2.kind = .applied ∧
      e'.2.kind = .applied ∧ ∃ a ∈ e.2.adjustment, ∃ a' ∈ e'.2.adjustment,
        a.addressId = a'.addressId ∧ a.sourceEventId = a'.sourceEventId := by
  decide +kernel

def order (i : Nat) : Text := List.replicate (i + 1) 'o'

def source (i : Nat) : Text := List.replicate i 's'

def orderKey (i : Nat) : Text := getOrderStockDecisionKey (order i) addressId

def unpublished (i : Nat) : ProductStockDecision :=
  (decision (order i) (source i) (signed 'b') .unpublished).decision

lemma trim_order (i : Nat) : trim (order i) = order i :=
  trim_of_forall fun c hc => by rw [eq_of_mem_replicate hc]; decide

lemma order_inj {i j : Nat} (h : orderKey i = orderKey j) : i = j := by
  have ho := (getOrderStockDecisionKey_inj h).1
  rw [trim_order, trim_order] at ho
  have hl := congrArg List.length ho
  simp only [order, length_replicate] at hl
  omega

lemma source_inj {i j : Nat} (h : source i = source j) : i = j := by
  have hl := congrArg List.length h
  simpa only [source, length_replicate] using hl

lemma addressId_ne : trim addressId ≠ [] := by decide +kernel

lemma trim_addressId : trim addressId = addressId := by decide +kernel

lemma signed_address (id : Char) : getSignedProductAddressId (signed id) = some addressId := by
  have heq : getSignedProductAddressId (signed id) = getSignedProductAddressId (signed 'b') := rfl
  rw [heq]
  decide +kernel

lemma signed_facts (i j : Nat) (id : Char) (now : Int) : DeliveryFacts platform
    ⟨trim (order i), adjustment (order i) (source j), signed id, now⟩ where
  adjustment := by rfl
  orderId := by
    rw [trim_idem, trim_order]
    exact cons_ne_nil _ _
  key := by rw [getOrderStockDecisionKey_trim_left]; rfl
  signedAddress := signed_address id
  valid := ⟨rfl, rfl⟩
  product := by
    have hs : ["stock".toList, numberText 3] ∈ (signed id).tags := by
      show ["stock".toList, numberText 3] ∈ (signed 'b').tags
      decide +kernel
    simp only [platform, signed_address, Option.map_some, if_pos hs]
    rfl

lemma signed_hex : IsHex64 (signed 'b').id := by decide +kernel

/-- The first orders have their decisions and nothing waits. -/
structure Filled (n : Nat) (s : StockStorage) : Prop where
  ok : StorageOk platform True s
  empty : s.pending = []
  length : s.decided.length = n
  entries : ∀ e ∈ s.decided, ∃ i < n, e = (orderKey i, unpublished i)
  held : ∀ i < n, (orderKey i, unpublished i) ∈ s.decided

variable {s : StockStorage} {n : Nat}

lemma Filled.fence (h : Filled n s) (i : Nat) :
    ∀ e ∈ s.decided, ∀ a ∈ e.2.adjustment, SameRevision a (adjustment (order i) (source i)) →
      a.key = (adjustment (order i) (source i)).key := by
  intro e he a ha heq
  obtain ⟨j, -, rfl⟩ := h.entries e he
  obtain rfl : adjustment (order j) (source j) = a := Option.some_inj.1 ha
  rw [source_inj heq.2]

lemma Filled.new (h : Filled n s) : entryAt (orderKey n) s.decided = none := by
  rw [entryAt_eq_none, mem_map]
  rintro ⟨e, he, hk⟩
  obtain ⟨i, hi, rfl⟩ := h.entries e he
  exact absurd (order_inj hk) (by omega)

variable {input : CheckpointInput}

lemma holding_ok (h : StorageOk platform True s) (hr : input.Renews)
    (hg : Gives (checkpointSignedOrderStockDelivery platform input) s ()
      (s.holding input.adjustment.key
        ⟨trim input.orderId, input.adjustment, input.signedEvent, input.now⟩)) :
    StorageOk platform True (s.holding input.adjustment.key
      ⟨trim input.orderId, input.adjustment, input.signedEvent, input.now⟩) := by
  have hk := Triple.final (checkpoint_kept h fun _ => hr) [] (s := s) rfl
  rw [show checkpointSignedOrderStockDelivery platform input [] s = _ from hg] at hk
  exact hk.ok

lemma checkpoint_step {s t : StockStorage}
    (h : Gives (checkpointSignedOrderStockDelivery platform input) s () t) :
    StockStep platform (.checkpoint input, []) s t := by
  show t = (checkpointSignedOrderStockDelivery platform input [] s).2.1
  rw [show checkpointSignedOrderStockDelivery platform input [] s = _ from h]

lemma settle_step {input : SettleInput} {s t : StockStorage} {r : Settlement}
    (h : Gives (settleSignedOrderStockDelivery platform input) s r t) :
    StockStep platform (.settle input, []) s t := by
  show t = (settleSignedOrderStockDelivery platform input [] s).2.1
  rw [show settleSignedOrderStockDelivery platform input [] s = _ from h]

lemma Filled.next (h : Filled n s) (hn : n < 500) :
    ∃ t, Filled (n + 1) t ∧ Run (StockStep platform) s
      [(checkpoint (order n) (source n) (signed 'b') none, []),
        (settle (order n) (source n) (signed 'b') .unpublished, [])] t := by
  have hr : Gives (checkpointSignedOrderStockDelivery platform
      (reserve (order n) (source n) (signed 'b') none)) s () _ :=
    checkpoint_gives h.ok h.empty rfl (signed_facts n n 'b' 1) addressId_ne h.new (h.fence n) (by
      show s.decided.length + (if entryAt (orderKey n) s.decided ≠ none then 0 else 1) ≤ _
      rw [h.new, if_neg (by simp), h.length]
      exact hn)
  have hok := holding_ok h.ok (by rintro ⟨⟩) hr
  have hset : ∃ t : StockStorage, Gives (settleSignedOrderStockDelivery platform
      (decision (order n) (source n) (signed 'b') .unpublished)) _ .saved
        { t with deliveries := some [] } ∧ _ ∧ _ :=
    settle_gives hok rfl rfl rfl rfl (by
      show trim (order n) ≠ []
      rw [trim_order]
      exact cons_ne_nil _ _) addressId_ne trim_addressId.symm signed_hex h.new
  obtain ⟨t, hs, hd, ht⟩ := hset
  have hpm : t.decided.Perm (s.decided ++ [(orderKey n, unpublished n)]) := by
    refine hd.decided.trans (Perm.of_eq (mapSet_of_new ?_))
    intro e he hsa
    exact entryAt_eq_none.1 h.new (mem_map.2 ⟨e, he, hsa⟩)
  have hf : StockStep platform (checkpoint (order n) (source n) (signed 'b') none, []) s _ :=
    checkpoint_step hr
  have hsnd : StockStep platform (settle (order n) (source n) (signed 'b') .unpublished, []) _
      { t with deliveries := some [] } := settle_step hs
  refine ⟨{ t with deliveries := some [] }, ⟨?_, rfl, ?_, ?_, ?_⟩, .cons hf (.cons hsnd (.nil _))⟩
  · exact ht.subperm (nil_subperm)
  · show t.decided.length = n + 1
    rw [hpm.length_eq, length_append, h.length, length_singleton]
  · intro e he
    rcases mem_append.1 (hpm.mem_iff.1 he) with hold | hnew
    · obtain ⟨i, hi, heq⟩ := h.entries e hold
      exact ⟨i, by omega, heq⟩
    · exact ⟨n, by omega, mem_singleton.1 hnew⟩
  · intro i hi
    apply hpm.mem_iff.2
    rcases Nat.lt_succ_iff_lt_or_eq.1 hi with hlt | rfl
    · exact mem_append_left _ (h.held i hlt)
    · exact mem_append_right _ (mem_singleton_self _)

lemma filled (hn : n ≤ 500) : ∃ l s, Filled n s ∧
    Run (StockStep platform) emptyStorage l s ∧ ∀ c ∈ l, c.1.Renews := by
  induction n with
  | zero =>
    refine ⟨[], emptyStorage, ⟨emptyStorage_ok _ _, rfl, rfl, ?_, ?_⟩, .nil _, ?_⟩
    · rintro e ⟨⟩
    · intro i hi
      omega
    · rintro c ⟨⟩
  | succ n ih =>
    obtain ⟨l, s, hs, hr, hl⟩ := ih (by omega)
    obtain ⟨t, ht, hne⟩ := hs.next (by omega)
    refine ⟨_, t, ht, hr.append hne, ?_⟩
    intro c hc
    rcases mem_append.1 hc with hc | hc
    · exact hl c hc
    · simp only [mem_cons, not_mem_nil, or_false] at hc
      rcases hc with rfl | rfl
      · rintro ⟨⟩
      · trivial

lemma full_and_waiting : ∃ l s, Run (StockStep platform) emptyStorage l s ∧
    (∀ c ∈ l, c.1.Renews) ∧ s.decided.length = 500 ∧
    ∃ e ∈ s.pending, Undecided s.decided e := by
  obtain ⟨l, s, hs, hrun, hl⟩ := filled (le_refl 500)
  have he : entryAt (orderKey 0) s.decided = some (unpublished 0) :=
    (entryAt_eq_some hs.ok.decisionKeys).2 (hs.held 0 (by omega))
  have hr : Gives (checkpointSignedOrderStockDelivery platform
      (reserve (order 0) (source 0) (signed 'd') (some (signed 'b').id))) s () _ :=
    checkpoint_gives hs.ok hs.empty rfl (signed_facts 0 0 'd' 1) addressId_ne
      ⟨unpublished 0, he, rfl, rfl⟩ (hs.fence 0) (by
        show s.decided.length + (if entryAt (orderKey 0) s.decided ≠ none then 0 else 1) ≤ _
        rw [he, if_pos (by simp), hs.length]
        exact le_refl _)
  have hla : StockStep platform
      (checkpoint (order 0) (source 0) (signed 'd') (some (signed 'b').id), []) s _ :=
    checkpoint_step hr
  refine ⟨l ++ [(checkpoint (order 0) (source 0) (signed 'd') (some (signed 'b').id), [])], _,
    hrun.append (.cons hla (.nil _)), ?_, hs.length, _, mem_singleton_self _, ?_⟩
  · intro c hc
    rcases mem_append.1 hc with hc | hc
    · exact hl c hc
    · rw [mem_singleton.1 hc]
      show some (signed 'b').id ≠ some (signed 'd').id
      decide
  · intro d hd
    have hd' : some (unpublished 0) = some d := he.symm.trans hd
    cases hd'
    decide

end Sample

/-- Two orders decide on one revision, and a full journal takes one more checkpoint. -/
theorem legacy_stock_decided_twice : (∃ l s, Run (StockStep Sample.platform) emptyStorage l s ∧
      ∃ e ∈ s.decided, ∃ e' ∈ s.decided, e.1 ≠ e'.1 ∧ e.2.kind = .applied ∧
        e'.2.kind = .applied ∧ ∃ a ∈ e.2.adjustment, ∃ a' ∈ e'.2.adjustment,
          a.addressId = a'.addressId ∧ a.sourceEventId = a'.sourceEventId) ∧
    ∃ l s, Run (StockStep Sample.platform) emptyStorage l s ∧ (∀ c ∈ l, c.1.Renews) ∧
      s.decided.length = 500 ∧ ∃ e ∈ s.pending, Undecided s.decided e :=
  ⟨⟨_, _, Sample.run_play Sample.calls emptyStorage, Sample.calls_twice⟩, Sample.full_and_waiting⟩

/-- An order whose stock is reserved and then applied. -/
theorem legacy_stock_decided_once_applied :
    let s := Sample.play [(Sample.checkpoint "one" "s" (Sample.signed 'b') none, []),
      (Sample.settle "one" "s" (Sample.signed 'b') .applied, [])] emptyStorage
    parseStoredDecisionsStrict s.decisions = .ok s.decided ∧
      s.decided.length + (withoutDecision s.decided s.pending).length ≤
        maxStoredStockDecisions := by
  obtain ⟨hdecisions, -, -, hroom, -⟩ := legacy_stock_decided_once
    (Sample.run_play [(Sample.checkpoint "one" "s" (Sample.signed 'b') none, []),
      (Sample.settle "one" "s" (Sample.signed 'b') .applied, [])] emptyStorage)
  exact ⟨hdecisions, hroom⟩

end Conduit.ProductStock
