import Conduit.Cart.Removals

namespace Conduit.Cart

open Js Throwing List Bool

variable {P : CartPlatform}

def KeepsPickups (proposed : List CartItemInput) (merchant : Text) (lines : List CartLine) : Prop :=
  ∀ line ∈ lines, isPickupCartItem line.item = true →
    ∀ item ∈ proposedFor proposed merchant line, item.fulfillment = none ∨
      hasStrictlyNewerProductRevision line.item.frontier item.toItem.frontier = false

def deliveryLines (merchant : Text) (lines : List CartLine) : List CartLine :=
  lines.filter fun line => isDeliveryOf merchant line.item

lemma deliveryItems_eq (lines : List CartLine) (merchant : Text) :
    (materializeLines lines).filter (isDeliveryOf merchant) =
      (deliveryLines merchant lines).map materializeLine := by
  unfold materializeLines deliveryLines
  rw [filter_map]
  rfl

lemma nodup_of_subset_of_length {α : Type} [DecidableEq α] {l m : List α} (hm : m.Nodup)
    (hs : m ⊆ l) (hl : l.length = m.length) : l.Nodup := by
  have hpm := (subperm_of_subset hm hs).perm_of_length_le (le_of_eq hl)
  exact hpm.nodup_iff.1 hm

variable {merchant : Text} {proposed : List CartItemInput} {cand : CartItemInput}
  {current : CartItem} {record : CanonicalCartRecord}
  {lines : List CartLine} {item : CartItemInput} {line : CartLine}

lemma nodup_of_sameItems (hnd : (proposed.map (·.productId)).Nodup)
    (h : sameItems (deliveryGroup lines merchant) proposed = true) :
    ((deliveryLines merchant lines).map (·.item.productId)).Nodup := by
  cases hg : deliveryGroup lines merchant with
  | none =>
    rw [hg] at h
    cases h
  | some group =>
    have hi := (deliveryGroup_eq_some hg).trans (deliveryItems_eq lines merchant)
    have hids : group.items.map (·.productId) =
        (deliveryLines merchant lines).map fun line => line.item.productId := by
      rw [hi, map_map]
      rfl
    rw [hg, sameItems, and_eq_true, decide_eq_true_eq, all_eq_true] at h
    rw [← hids]
    apply nodup_of_subset_of_length hnd
    · intro id hid
      obtain ⟨item, hitem, rfl⟩ := mem_map.1 hid
      have ha := h.2 item hitem
      obtain ⟨current, hc, heq⟩ := any_eq_true.1 ha
      rw [decide_eq_true_eq] at heq
      exact heq.1 ▸ mem_map_of_mem (f := fun item : CartItem => item.productId) hc
    · rw [length_map, length_map, h.1]

lemma proposedFor_eq_some (h : proposedFor proposed merchant line = some item) :
    item ∈ proposed ∧ line.item.merchantPubkey = merchant ∧
      item.productId = line.item.productId := by
  unfold proposedFor at h
  split at h
  · have hm := mem_of_find?_eq_some h
    have hp := find?_some h
    exact ⟨mem_reverse.1 hm, by assumption, of_decide_eq_true hp⟩
  · cases h

structure Proposals (P : CartPlatform) (proposed : List CartItemInput) (merchant : Text) :
    Prop where
  nodup : (proposed.map (·.productId)).Nodup
  wellFormed : ∀ item ∈ proposed, WellFormed P item.toItem
  merchant : ∀ item ∈ proposed, item.merchantPubkey = merchant
  delivery : ∀ item ∈ proposed, isPickupCartItem item.toItem = false
  quantity : ∀ item ∈ proposed, 0 < item.quantity ∧ item.quantity ≤ maxSafeInteger

lemma isPickup_select (hc : isPickupCartItem current = false)
    (hca : isPickupCartItem cand.toItem = false) :
    isPickupCartItem (selectCartItemSnapshot P current cand) = false := by
  rw [eq_false_iff]
  intro hpi
  obtain ⟨p, hp⟩ := isPickupCartItem_iff.1 hpi
  rcases selectCartItemSnapshot_cases (P := P) current cand with ⟨-, heq⟩ | ⟨-, _, _, heq⟩
  · rw [heq] at hp
    have hs : cand.fulfillment.getD current.fulfillment = some (.eventMarketPickup p) := hp
    cases hg : cand.fulfillment with
    | none =>
      rw [hg, Option.getD_none] at hs
      rw [isPickupCartItem_iff.2 ⟨p, hs⟩] at hc
      cases hc
    | some f =>
      rw [hg, Option.getD_some] at hs
      have hi : cand.toItem.fulfillment = some (.eventMarketPickup p) := by
        rw [toItem_fulfillment, hg, Option.join_some, hs]
      rw [isPickupCartItem_iff.2 ⟨p, hi⟩] at hca
      cases hca
  · rw [heq] at hp
    have ho : current.fulfillment = some (.eventMarketPickup p) := hp
    rw [isPickupCartItem_iff.2 ⟨p, ho⟩] at hc
    cases hc

lemma fulfillmentId_select_of_keeps (hpi : isPickupCartItem current = true)
    (hk : cand.fulfillment = none ∨
      hasStrictlyNewerProductRevision current.frontier cand.toItem.frontier = false) :
    getCartLineFulfillmentId (selectCartItemSnapshot P current cand) =
      getCartLineFulfillmentId current := by
  obtain ⟨p, hp⟩ := isPickupCartItem_iff.1 hpi
  rcases selectCartItemSnapshot_cases (P := P) current cand with
    ⟨hn, heq⟩ | ⟨-, _, _, heq⟩
  · have hno : cand.fulfillment = none := by
      rcases hk with h | h
      · exact h
      · rw [hn] at h
        cases h
    rw [heq, fulfillmentId_of_pickup hp]
    exact fulfillmentId_of_pickup (by simp [hno, hp])
  · rw [heq]
    exact fulfillmentId_congr rfl rfl

lemma refreshLine_id (proposed : List CartItemInput) (merchant : Text) (line : CartLine) :
    (refreshLine P proposed merchant line).id = line.id := by
  unfold refreshLine
  split <;> rfl

lemma refreshLine_batches (proposed : List CartItemInput) (merchant : Text) (line : CartLine) :
    (refreshLine P proposed merchant line).batches = line.batches := by
  unfold refreshLine
  split <;> rfl

lemma getCartItemKey_select (hk : getCartItemKey cand.toItem = getCartItemKey current) :
    getCartItemKey (selectCartItemSnapshot P current cand) = getCartItemKey current := by
  rcases selectCartItemSnapshot_cases (P := P) current cand with ⟨-, heq⟩ | ⟨-, _, _, heq⟩
  · rw [heq]
    exact hk
  · rw [heq]
    rfl

section Refresh

variable {proposed : List CartItemInput} {merchant : Text} {lines : List CartLine}

lemma refreshLine_key (hp : Proposals P proposed merchant) (line : CartLine) :
    getCartItemKey (refreshLine P proposed merchant line).item = getCartItemKey line.item := by
  unfold refreshLine
  split
  · rename_i item hi
    obtain ⟨hm, hmer, hpr⟩ := proposedFor_eq_some hi
    exact getCartItemKey_select (Prod.ext ((hp.merchant item hm).trans hmer.symm) hpr)
  · rfl

variable {line : CartLine} {n : Int}

lemma refreshLine_kind (hp : Proposals P proposed merchant)
    (hk : KeepsPickups proposed merchant lines) (hl : line ∈ lines) :
    if isPickupCartItem line.item = true then
      getCartLineFulfillmentId (refreshLine P proposed merchant line).item =
        getCartLineFulfillmentId line.item
    else isPickupCartItem (refreshLine P proposed merchant line).item = false := by
  split
  · rename_i hpi
    unfold refreshLine
    split
    · rename_i item hi
      exact fulfillmentId_select_of_keeps hpi (hk line hl hpi item hi)
    · rfl
  · rename_i hpi
    rw [not_eq_true] at hpi
    unfold refreshLine
    split
    · rename_i item hi
      exact isPickup_select hpi (hp.delivery item (proposedFor_eq_some hi).1)
    · exact hpi

lemma refreshLine_of_not_proposed (h : line.item.merchantPubkey ≠ merchant) :
    refreshLine P proposed merchant line = line := by
  unfold refreshLine proposedFor
  rw [if_neg h]

lemma refreshLine_inj (h : LinesOk P n lines) (hp : Proposals P proposed merchant)
    (heq : sameItems (deliveryGroup lines merchant) proposed = true)
    (hkps : KeepsPickups proposed merchant lines) {x y : CartLine} (hx : x ∈ lines)
    (hy : y ∈ lines) (hkey : lineKey (refreshLine P proposed merchant x).item =
      lineKey (refreshLine P proposed merchant y).item) : x = y := by
  obtain ⟨hitem, hid⟩ := Prod.mk.inj hkey
  have hi : getCartItemKey x.item = getCartItemKey y.item := by
    rw [← refreshLine_key hp x, ← refreshLine_key hp y]
    exact hitem
  have hk := isPickupCartItem_eq_of_id hid
  have hkx := refreshLine_kind hp hkps hx
  have hky := refreshLine_kind hp hkps hy
  have hs : ∀ {a b : CartLine}, a ∈ lines → b ∈ lines → lineKey a.item = lineKey b.item →
      a = b := fun ha hb hab => Keyed.eq_of_key_eq h.lineKeys ha hb hab
  cases hpx : isPickupCartItem x.item with
  | true =>
    rw [if_pos hpx] at hkx
    cases hpy : isPickupCartItem y.item with
    | true =>
      rw [if_pos hpy] at hky
      exact hs hx hy (Prod.ext hi (hkx.symm.trans (hid.trans hky)))
    | false =>
      rw [hpy, if_neg Bool.false_ne_true] at hky
      rw [hky, isPickupCartItem_eq_of_id hkx, hpx] at hk
      cases hk
  | false =>
    rw [hpx, if_neg Bool.false_ne_true] at hkx
    cases hpy : isPickupCartItem y.item with
    | true =>
      rw [if_pos hpy] at hky
      rw [hkx, isPickupCartItem_eq_of_id hky, hpy] at hk
      cases hk
    | false =>
      by_cases hm : x.item.merchantPubkey = merchant
      · have hm' : y.item.merchantPubkey = merchant := (Prod.mk.inj hi).1 ▸ hm
        have hme : x ∈ deliveryLines merchant lines :=
          mem_filter.2 ⟨hx, isDeliveryOf_iff.2 ⟨hm, hpx⟩⟩
        have hmemy : y ∈ deliveryLines merchant lines :=
          mem_filter.2 ⟨hy, isDeliveryOf_iff.2 ⟨hm', hpy⟩⟩
        exact Keyed.eq_of_key_eq (nodup_of_sameItems hp.nodup heq) hme hmemy
          (Prod.mk.inj hi).2
      · have hm' : y.item.merchantPubkey ≠ merchant := (Prod.mk.inj hi).1 ▸ hm
        rw [refreshLine_of_not_proposed hm, refreshLine_of_not_proposed hm'] at hkey
        exact hs hx hy hkey

lemma LinesOk.refreshed (h : LinesOk P n lines) (hp : Proposals P proposed merchant)
    (heq : sameItems (deliveryGroup lines merchant) proposed = true)
    (hk : KeepsPickups proposed merchant lines) :
    LinesOk P n (lines.map (refreshLine P proposed merchant)) where
  batches := by
    intro l hl
    obtain ⟨line, hli, rfl⟩ := mem_map.1 hl
    rw [refreshLine_batches]
    exact h.batches line hli
  items := by
    intro l hl
    obtain ⟨line, hli, rfl⟩ := mem_map.1 hl
    unfold refreshLine
    split
    · rename_i item hi
      exact (h.items line hli).select
        (hp.wellFormed item (proposedFor_eq_some hi).1).sanitize
    · exact h.items line hli
  issued := by
    intro l hl
    obtain ⟨line, hli, rfl⟩ := mem_map.1 hl
    rw [refreshLine_id, refreshLine_batches]
    exact h.issued line hli
  lineIds := by
    rw [map_map]
    have hids : (fun l : CartLine => l.id) ∘ refreshLine P proposed merchant =
        fun l => l.id := by
      funext line
      exact refreshLine_id proposed merchant line
    rw [hids]
    exact h.lineIds
  lineKeys := by
    rw [map_map]
    exact (Nodup.of_map _ h.lineIds).map_on fun x hx y hy hxy =>
      refreshLine_inj h hp heq hk hx hy hxy

end Refresh

def MakesRoom (merchant : Text) (proposed : List CartItemInput) (lines : List CartLine) : Prop :=
  ∀ line ∈ lines, isDeliveryOf merchant line.item = true →
    ∀ item ∈ proposed, line.item.productId ≠ item.productId

lemma pushProposed_linesOk (merchantAddedAt : Int) (h : LinesOk P record.nextSequence record.lines)
    (hw : WellFormed P item.toItem) (hmer : item.merchantPubkey = merchant)
    (hd : isPickupCartItem item.toItem = false)
    (hq : 0 < item.quantity ∧ item.quantity ≤ maxSafeInteger)
    (hr : MakesRoom merchant [item] record.lines) :
    LinesOk P (pushProposed P merchantAddedAt record item).nextSequence
      (pushProposed P merchantAddedAt record item).lines := by
  refine (h.mono (by omega : record.nextSequence ≤ record.nextSequence + 2)).concat
    (h.id_ne (isTaken_lineIdOf _) (le_refl _)) ?_ (validBatches_singleton hq.1 hq.2)
    ⟨hw.productId, hw.merchantPubkey, hw.title, hw.currency, hw.price,
      hw.coordinate, hw.fulfillment⟩ (issued_newLine _ _)
  intro l hl hkey
  obtain ⟨hi, hid⟩ := Prod.mk.inj hkey
  obtain ⟨hm, hp⟩ := Prod.mk.inj hi
  have hk : isPickupCartItem l.item = false :=
    (isPickupCartItem_eq_of_id hid).trans hd
  exact hr l hl (isDeliveryOf_iff.2 ⟨hm.trans hmer, hk⟩) item mem_cons_self hp

lemma pushAll_edits (merchantAddedAt : Int) (hp : Proposals P proposed merchant)
    (record : CanonicalCartRecord) (h : LinesOk P record.nextSequence record.lines)
    (hr : MakesRoom merchant proposed record.lines) : Edits P (2 * proposed.length) record
      (proposed.foldl (pushProposed P merchantAddedAt) record) := by
  induction proposed generalizing record with
  | nil => exact ⟨rfl, rfl, rfl, le_refl _, by simp, h⟩
  | cons item rest ih =>
    have hnd := hp.nodup
    rw [map_cons, nodup_cons] at hnd
    have hre : Proposals P rest merchant :=
      ⟨hnd.2, fun i hi => hp.wellFormed i (mem_cons_of_mem _ hi),
        fun i hi => hp.merchant i (mem_cons_of_mem _ hi),
        fun i hi => hp.delivery i (mem_cons_of_mem _ hi),
        fun i hi => hp.quantity i (mem_cons_of_mem _ hi)⟩
    have hpu := pushProposed_linesOk merchantAddedAt h
      (hp.wellFormed item mem_cons_self) (hp.merchant item mem_cons_self)
      (hp.delivery item mem_cons_self) (hp.quantity item mem_cons_self)
      (fun l hl hd i hi => mem_singleton.1 hi ▸ hr l hl hd item mem_cons_self)
    have hr' : MakesRoom merchant rest (pushProposed P merchantAddedAt record item).lines := by
      intro l hl hd i hi
      rcases mem_append.1 hl with hl | hl
      · exact hr l hl hd i (mem_cons_of_mem _ hi)
      · obtain rfl := mem_singleton.1 hl
        intro hpr
        apply hnd.1
        have hpr' : item.productId = i.productId := hpr
        exact hpr' ▸ mem_map_of_mem (f := fun item : CartItemInput => item.productId) hi
    obtain ⟨hid, hv, hrev, hlower, hupper, hls⟩ := ih hre _ hpu hr'
    refine ⟨hid, hv, hrev, ?_, ?_, hls⟩
    · have : (pushProposed P merchantAddedAt record item).nextSequence =
        record.nextSequence + 2 := rfl
      rw [foldl_cons]
      omega
    · have : (pushProposed P merchantAddedAt record item).nextSequence =
        record.nextSequence + 2 := rfl
      rw [foldl_cons, length_cons]
      omega

lemma mem_removed (hl : line ∈ lines) (hd : isDeliveryOf merchant line.item = true) :
    line.id ∈ ((deliveryGroup lines merchant).map fun group =>
      group.items.filterMap CartItem.cartLineId).getD [] := by
  have hm : materializeLine line ∈
      (materializeLines lines).filter (isDeliveryOf merchant) := by
    rw [deliveryItems_eq]
    exact mem_map_of_mem (mem_filter.2 ⟨hl, hd⟩)
  cases hg : deliveryGroup lines merchant with
  | none =>
    rw [deliveryGroup_eq_none hg] at hm
    cases hm
  | some group =>
    rw [← deliveryGroup_eq_some hg] at hm
    exact mem_filterMap.2 ⟨_, hm, rfl⟩

lemma replaceDelivery_edits {now : Int} (hp : Proposals P proposed merchant)
    (h : LinesOk P record.nextSequence record.lines) :
    Edits P (2 * proposed.length) record (replaceDelivery P proposed merchant now record) := by
  have hk := h.sublist (filter_sublist (p := fun line : CartLine => decide (line.id ∉
    ((deliveryGroup record.lines merchant).map fun group =>
      group.items.filterMap CartItem.cartLineId).getD [])))
  have hr : MakesRoom merchant proposed (record.lines.filter fun line => decide (line.id ∉
      ((deliveryGroup record.lines merchant).map fun group =>
        group.items.filterMap CartItem.cartLineId).getD [])) := by
    intro l hl hd
    obtain ⟨hl, hn⟩ := mem_filter.1 hl
    exact absurd (mem_removed hl hd) (of_decide_eq_true hn)
  obtain ⟨hid, hv, hrev, hlo, hu, hls⟩ := pushAll_edits
    ((((deliveryGroup record.lines merchant).map CartPurchaseGroup.merchantAddedAt).or
      (getMerchantAddedAt record merchant)).getD now) hp
    { record with
      lines := record.lines.filter fun line => decide (line.id ∉
        ((deliveryGroup record.lines merchant).map fun group =>
          group.items.filterMap CartItem.cartLineId).getD []) } hk hr
  exact ⟨hid, hv, hrev, hlo, hu, hls⟩

end Conduit.Cart
