import Conduit.Cart.Loadable

namespace Conduit.Cart

open Js Throwing List Option Prod

lemma permit_eq_some {ok : Prop} [Decidable ok] {u : Unit} : permit ok = some u ↔ ok := by
  unfold permit
  split <;> simp_all

variable {P : CartPlatform}

variable {lines : List CartLine} {n : Int} {line : CartLine}
  {candidate input : CartItemInput} {line' : CartLine} {current item : CartItem}
  {quantity : Int} {i : Nat}

lemma forall_set {α : Type} {p : α → Prop} {l : List α} {i : Nat} {b : α} (h : ∀ a ∈ l, p a)
    (hb : p b) : ∀ a ∈ l.set i b, p a :=
  fun a ha => (mem_or_eq_of_mem_set ha).elim (h a) fun hab => hab ▸ hb

lemma LinesOk.set (h : LinesOk P n lines) {line : CartLine} (hi : lines[i]? = some line)
    (hid : line'.id = line.id) (hk : lineKey line'.item = lineKey line.item)
    (hb : ValidBatches line'.batches) (hitem : WellFormed P line'.item)
    (hiss : ∀ b ∈ line'.batches, IssuedBelow n b.id) : LinesOk P n (lines.set i line') where
  batches := forall_set h.batches hb
  items := forall_set h.items hitem
  issued := forall_set h.issued ⟨hid ▸ (h.issued line (mem_of_getElem? hi)).1, hiss⟩
  lineIds := by
    rw [Keyed.map_set (f := fun l : CartLine => l.id) hi hid]
    exact h.lineIds
  lineKeys := by
    rw [Keyed.map_set (f := fun l : CartLine => lineKey l.item) hi hk]
    exact h.lineKeys

lemma LinesOk.setNew (h : LinesOk P n lines) (hid : ∀ l ∈ lines, l.id ≠ line'.id)
    (hk : ∀ l ∈ lines, lineKey l.item ≠ lineKey line'.item)
    (hb : ValidBatches line'.batches) (hi : WellFormed P line'.item)
    (hiss : IssuedBelow n line'.id ∧ ∀ b ∈ line'.batches, IssuedBelow n b.id) :
    LinesOk P n (lines.set i line') where
  batches := forall_set h.batches hb
  items := forall_set h.items hi
  issued := forall_set h.issued hiss
  lineIds := by
    rw [map_set]
    exact h.lineIds.set fun hm => (mem_map.1 hm).elim fun l hl => hid l hl.1 hl.2
  lineKeys := by
    rw [map_set]
    exact h.lineKeys.set fun hm => (mem_map.1 hm).elim fun l hl => hk l hl.1 hl.2

lemma LinesOk.concat (h : LinesOk P n lines) (hid : ∀ l ∈ lines, l.id ≠ line'.id)
    (hk : ∀ l ∈ lines, lineKey l.item ≠ lineKey line'.item)
    (hbat : ValidBatches line'.batches) (hi : WellFormed P line'.item)
    (hiss : IssuedBelow n line'.id ∧ ∀ b ∈ line'.batches, IssuedBelow n b.id) :
    LinesOk P n (lines ++ [line']) where
  batches := by
    intro l hl
    rcases mem_append.1 hl with hl | hl
    · exact h.batches l hl
    · exact mem_singleton.1 hl ▸ hbat
  items := by
    intro l hl
    rcases mem_append.1 hl with hl | hl
    · exact h.items l hl
    · exact mem_singleton.1 hl ▸ hi
  issued := by
    intro l hl
    rcases mem_append.1 hl with hl | hl
    · exact h.issued l hl
    · exact mem_singleton.1 hl ▸ hiss
  lineIds := by
    rw [map_append, nodup_append]
    refine ⟨h.lineIds, nodup_singleton _, ?_⟩
    intro a ha b hb
    obtain ⟨l, hl, rfl⟩ := mem_map.1 ha
    obtain rfl : b = line'.id := by simpa using hb
    exact hid l hl
  lineKeys := by
    rw [map_append, nodup_append]
    refine ⟨h.lineKeys, nodup_singleton _, ?_⟩
    intro a ha b hb
    obtain ⟨l, hl, rfl⟩ := mem_map.1 ha
    obtain rfl : b = lineKey line'.item := by simpa using hb
    exact hk l hl

lemma LinesOk.id_ne {n k : Int} (h : LinesOk P n lines) {id : Text} (ht : IsTaken id k)
    (hk : n ≤ k) : ∀ l ∈ lines, l.id ≠ id :=
  fun l hl => (h.issued l hl).1.ne ht hk

lemma validBatches_singleton {n : Int} (hp : 0 < quantity) (hs : quantity ≤ maxSafeInteger) :
    ValidBatches [⟨batchIdOf n, quantity⟩] := by
  refine ⟨by simp, ?_, by simp⟩
  intro b hb
  obtain rfl := mem_singleton.1 hb
  refine ⟨?_, ?_, hp⟩
  · unfold batchIdOf
    exact append_ne_nil_of_left_ne_nil (by decide) _
  · have : (-9007199254740991 : Int) ≤ quantity := by omega
    exact ⟨this, hs⟩

lemma validBatches_append {batches : List CartQuantityBatch} {n : Int} (h : ValidBatches batches)
    (hi : ∀ b ∈ batches, IssuedBelow n b.id) (hp : 0 < quantity)
    (hs : quantity ≤ maxSafeInteger) : ValidBatches (batches ++ [⟨batchIdOf n, quantity⟩]) := by
  obtain ⟨hne, hall, hnd⟩ := h
  obtain ⟨-, hn, -⟩ := validBatches_singleton (n := n) hp hs
  refine ⟨by simp, ?_, ?_⟩
  · intro b hb
    rcases mem_append.1 hb with hb | hb
    · exact hall b hb
    · exact hn b hb
  · rw [map_append, nodup_append]
    refine ⟨hnd, by simp, ?_⟩
    intro a ha b hb
    obtain ⟨c, hc, rfl⟩ := mem_map.1 ha
    obtain rfl : b = batchIdOf n := by simpa using hb
    exact (hi c hc).ne (isTaken_batchIdOf n) (le_refl n)

lemma LinesOk.setAppend (h : LinesOk P n lines) (hi : lines[i]? = some line)
    (hk : lineKey item = lineKey line.item) (hitem : WellFormed P item) (hp : 0 < quantity)
    (hs : quantity ≤ maxSafeInteger) : LinesOk P (n + 1)
      (lines.set i (CartLine.appendBatch { line with item := item } n quantity)) := by
  have hl := mem_of_getElem? hi
  refine (h.mono (by omega : n ≤ n + 1)).set hi rfl hk ?_ hitem ?_
  · exact validBatches_append (h.batches line hl) (h.issued line hl).2 hp hs
  · intro b hb
    rcases mem_append.1 hb with hb | hb
    · exact ((h.issued line hl).2 b hb).mono (by omega)
    · obtain rfl := mem_singleton.1 hb
      exact (isTaken_batchIdOf n).issuedBelow (by omega)

lemma issued_newLine (n : Int) (quantity : Int) : IssuedBelow (n + 2) (lineIdOf n) ∧
      ∀ b ∈ [(⟨batchIdOf (n + 1), quantity⟩ : CartQuantityBatch)], IssuedBelow (n + 2) b.id := by
  refine ⟨(isTaken_lineIdOf n).issuedBelow (by omega), ?_⟩
  intro b hb
  obtain rfl := mem_singleton.1 hb
  exact (isTaken_batchIdOf (n + 1)).issuedBelow (by omega)

lemma WellFormed.sanitize (h : WellFormed P input.toItem) :
    WellFormed P (CartItemInput.sanitize P input).toItem :=
  ⟨h.productId, h.merchantPubkey, h.title, h.currency, h.price, h.coordinate, h.fulfillment⟩

lemma WellFormed.withQuantity (h : WellFormed P input.toItem) (quantity : Int) :
    WellFormed P { input with quantity := quantity }.toItem :=
  ⟨h.productId, h.merchantPubkey, h.title, h.currency, h.price, h.coordinate, h.fulfillment⟩

lemma refreshQuoteDerivedFields_cases (current candidate : CartItem) :
    ∃ priceSats shippingCostSats, refreshQuoteDerivedFields P current candidate =
      { current with priceSats := priceSats, shippingCostSats } := by
  unfold refreshQuoteDerivedFields
  split <;> split <;> exact ⟨_, _, rfl⟩

lemma selectCartItemSnapshot_cases (current : CartItem) (candidate : CartItemInput) :
    (hasStrictlyNewerProductRevision current.frontier candidate.toItem.frontier = true ∧
      selectCartItemSnapshot P current candidate =
        { current.spread candidate with merchantAddedAt := current.merchantAddedAt }) ∨
    (hasStrictlyNewerProductRevision current.frontier candidate.toItem.frontier = false ∧
      ∃ priceSats shippingCostSats, selectCartItemSnapshot P current candidate =
        { current with priceSats := priceSats, shippingCostSats }) := by
  unfold selectCartItemSnapshot
  cases hnewer : hasStrictlyNewerProductRevision current.frontier candidate.toItem.frontier with
  | true => exact .inl ⟨rfl, if_pos rfl⟩
  | false =>
    right
    rw [if_neg Bool.false_ne_true]
    split
    · exact ⟨rfl, current.priceSats, current.shippingCostSats, rfl⟩
    · exact ⟨rfl, refreshQuoteDerivedFields_cases current candidate.toItem⟩

lemma WellFormed.select (h : WellFormed P current) (hc : WellFormed P candidate.toItem) :
    WellFormed P (selectCartItemSnapshot P current candidate) := by
  rcases selectCartItemSnapshot_cases (P := P) current candidate with ⟨-, heq⟩ | ⟨-, p, s, heq⟩
  · rw [heq]
    refine ⟨hc.productId, hc.merchantPubkey, hc.title, hc.currency, hc.price, hc.coordinate, ?_⟩
    intro f hf
    have hs : candidate.fulfillment.getD current.fulfillment = some f := hf
    cases hg : candidate.fulfillment with
    | none =>
      rw [hg, getD_none] at hs
      exact h.fulfillment f hs
    | some given =>
      rw [hg, getD_some] at hs
      apply hc.fulfillment f
      rw [toItem_fulfillment, hg, join_some, hs]
      rfl
  · rw [heq]
    exact ⟨h.productId, h.merchantPubkey, h.title, h.currency, h.price, h.coordinate, h.fulfillment⟩

lemma lineKey_select (hk : lineKey candidate.toItem = lineKey current) :
    lineKey (selectCartItemSnapshot P current candidate) = lineKey current := by
  obtain ⟨hi, hid⟩ := Prod.mk.inj hk
  rcases selectCartItemSnapshot_cases (P := P) current candidate with ⟨-, heq⟩ | ⟨-, p, s, heq⟩
  · rw [heq]
    have hs := fulfillmentId_spread hid.symm
    have hc : getCartLineFulfillmentId
        { current.spread candidate with merchantAddedAt := current.merchantAddedAt } =
        getCartLineFulfillmentId (current.spread candidate) := fulfillmentId_congr rfl rfl
    exact Prod.ext hi (hc.trans hs)
  · rw [heq]
    exact Prod.ext rfl (fulfillmentId_congr rfl rfl)

lemma isOf_iff {merchantPubkey productId : Text} : line.isOf merchantPubkey productId = true ↔
      line.item.merchantPubkey = merchantPubkey ∧ line.item.productId = productId := by
  simp [CartLine.isOf]

lemma hasKey_iff : (line.isOf item.merchantPubkey item.productId &&
      isSameCartLineFulfillment line.item item) = true ↔ lineKey line.item = lineKey item := by
  rw [Bool.and_eq_true, isOf_iff, isSameCartLineFulfillment, decide_eq_true_eq, lineKey, lineKey,
    getCartItemKey, getCartItemKey, mk.injEq, mk.injEq]

end Conduit.Cart
