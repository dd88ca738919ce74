import Conduit.Cart.Mutations

namespace Conduit.Cart

open Js List

variable {n m : Int} {item : CartItem} {a b : CartItem}

lemma lineIdOf_inj (h : lineIdOf n = lineIdOf m) : n = m :=
  numberText_inj (append_cancel_left h)

lemma batchIdOf_inj (h : batchIdOf n = batchIdOf m) : n = m :=
  numberText_inj (append_cancel_left h)

lemma memoryBatchIdOf_inj (h : memoryBatchIdOf n = memoryBatchIdOf m) : n = m :=
  batchIdOf_inj (append_cancel_left h)

lemma lineIdOf_ne_batchIdOf : lineIdOf n ≠ batchIdOf m := by
  intro h
  have := congrArg head? h
  revert this
  exact (by decide : ¬ some 'l' = some 'b')

lemma lineIdOf_ne_memoryBatchIdOf : lineIdOf n ≠ memoryBatchIdOf m := by
  intro h
  have := congrArg head? h
  revert this
  exact (by decide : ¬ some 'l' = some 'm')

lemma batchIdOf_ne_memoryBatchIdOf : batchIdOf n ≠ memoryBatchIdOf m := by
  intro h
  have := congrArg head? h
  revert this
  exact (by decide : ¬ some 'b' = some 'm')

def IsTaken (id : Text) (k : Int) : Prop :=
  id = lineIdOf k ∨ id = batchIdOf k ∨ id = memoryBatchIdOf k

def IssuedBelow (n : Int) (id : Text) : Prop := ∀ k, IsTaken id k → k < n

variable {id : Text}

lemma IsTaken.unique {k l : Int} (hk : IsTaken id k) (hl : IsTaken id l) : k = l := by
  rcases hk with rfl | rfl | rfl
  · rcases hl with h | h | h
    · exact lineIdOf_inj h
    · exact absurd h lineIdOf_ne_batchIdOf
    · exact absurd h lineIdOf_ne_memoryBatchIdOf
  · rcases hl with h | h | h
    · exact absurd h.symm lineIdOf_ne_batchIdOf
    · exact batchIdOf_inj h
    · exact absurd h batchIdOf_ne_memoryBatchIdOf
  · rcases hl with h | h | h
    · exact absurd h.symm lineIdOf_ne_memoryBatchIdOf
    · exact absurd h.symm batchIdOf_ne_memoryBatchIdOf
    · exact memoryBatchIdOf_inj h

lemma isTaken_lineIdOf (k : Int) : IsTaken (lineIdOf k) k := .inl rfl

lemma isTaken_batchIdOf (k : Int) : IsTaken (batchIdOf k) k := .inr (.inl rfl)

lemma isTaken_memoryBatchIdOf (k : Int) : IsTaken (memoryBatchIdOf k) k := .inr (.inr rfl)

lemma IssuedBelow.mono (h : IssuedBelow n id) (hnm : n ≤ m) : IssuedBelow m id := by
  intro k hk
  have := h k hk
  omega

lemma IsTaken.issuedBelow {k n : Int} (h : IsTaken id k) (hkn : k < n) : IssuedBelow n id := by
  intro l hl
  rw [hl.unique h]
  exact hkn

lemma IssuedBelow.ne {n k : Int} {id' : Text} (h : IssuedBelow n id) (h' : IsTaken id' k)
    (hk : n ≤ k) : id ≠ id' := by
  rintro rfl
  have := h k h'
  omega

lemma isPickupCartItem_iff :
    isPickupCartItem item = true ↔ ∃ p, item.fulfillment = some (.eventMarketPickup p) := by
  unfold isPickupCartItem
  split <;> simp_all

lemma fulfillmentId_of_pickup {p : PickupFulfillment}
    (h : item.fulfillment = some (.eventMarketPickup p)) :
    getCartLineFulfillmentId item = .pickup [p.market.coordinate, p.calendar.coordinate,
      p.product.coordinate, p.product.eventId, p.mode, p.assignment] := by
  unfold getCartLineFulfillmentId
  rw [h]

def IsDigital (item : CartItem) : Prop :=
  item.format = some .digital ∨ item.fulfillment = some .digital
  deriving Decidable

lemma fulfillmentId_of_delivery (h : isPickupCartItem item = false) :
    getCartLineFulfillmentId item =
      .delivery (if IsDigital item then .digital else .shipping) := by
  have hn : ∀ p, item.fulfillment ≠ some (.eventMarketPickup p) := by
    intro p hp
    rw [isPickupCartItem_iff.2 ⟨p, hp⟩] at h
    cases h
  unfold getCartLineFulfillmentId getCartItemFulfillmentType
  split
  · exact absurd ‹_› (hn _)
  · congr 1
    split
    · exact absurd ‹_› (hn _)
    · rfl

lemma fulfillmentId_eq_iff_of_delivery (ha : isPickupCartItem a = false)
    (hb : isPickupCartItem b = false) :
    getCartLineFulfillmentId a = getCartLineFulfillmentId b ↔ (IsDigital a ↔ IsDigital b) := by
  rw [fulfillmentId_of_delivery ha, fulfillmentId_of_delivery hb, FulfillmentId.delivery.injEq]
  by_cases hda : IsDigital a <;> by_cases hdb : IsDigital b <;> simp [hda, hdb]

lemma isPickupCartItem_eq_of_id (h : getCartLineFulfillmentId a = getCartLineFulfillmentId b) :
    isPickupCartItem a = isPickupCartItem b := by
  cases ha : isPickupCartItem a <;> cases hb : isPickupCartItem b
  · rfl
  · obtain ⟨p, hp⟩ := isPickupCartItem_iff.1 hb
    rw [fulfillmentId_of_delivery ha, fulfillmentId_of_pickup hp] at h
    cases h
  · obtain ⟨p, hp⟩ := isPickupCartItem_iff.1 ha
    rw [fulfillmentId_of_delivery hb, fulfillmentId_of_pickup hp] at h
    cases h
  · rfl

lemma fulfillmentId_congr (hf : a.format = b.format) (hful : a.fulfillment = b.fulfillment) :
    getCartLineFulfillmentId a = getCartLineFulfillmentId b := by
  unfold getCartLineFulfillmentId getCartItemFulfillmentType
  rw [hf, hful]

@[simp] lemma spread_fulfillment (current : CartItem) (candidate : CartItemInput) :
    (current.spread candidate).fulfillment = candidate.fulfillment.getD current.fulfillment := rfl

@[simp] lemma spread_format (current : CartItem) (candidate : CartItemInput) :
    (current.spread candidate).format = candidate.format.getD current.format := rfl

@[simp] lemma toItem_fulfillment (candidate : CartItemInput) :
    candidate.toItem.fulfillment = candidate.fulfillment.join := rfl

@[simp] lemma toItem_format (candidate : CartItemInput) :
    candidate.toItem.format = candidate.format.join := rfl

lemma fulfillmentId_spread {current : CartItem} {cand : CartItemInput}
    (h : getCartLineFulfillmentId current = getCartLineFulfillmentId cand.toItem) :
    getCartLineFulfillmentId (current.spread cand) = getCartLineFulfillmentId current := by
  have hk := isPickupCartItem_eq_of_id h
  cases hpi : isPickupCartItem current with
  | true =>
    obtain ⟨p, hp⟩ := isPickupCartItem_iff.1 (hk ▸ hpi)
    have hgi : cand.fulfillment = some (some (.eventMarketPickup p)) := by
      have hj : cand.fulfillment.join = some (.eventMarketPickup p) := hp
      exact Option.join_eq_some_iff.1 hj
    rw [h, fulfillmentId_of_pickup hp]
    exact fulfillmentId_of_pickup (by simp [CartItem.spread, hgi])
  | false =>
    have hc : isPickupCartItem cand.toItem = false := hk ▸ hpi
    have hs : isPickupCartItem (current.spread cand) = false := by
      rw [Bool.eq_false_iff]
      intro hp
      obtain ⟨p, hp⟩ := isPickupCartItem_iff.1 hp
      rw [spread_fulfillment] at hp
      cases hf : cand.fulfillment with
      | none =>
        rw [hf, Option.getD_none] at hp
        rw [isPickupCartItem_iff.2 ⟨p, hp⟩] at hpi
        cases hpi
      | some f =>
        rw [hf, Option.getD_some] at hp
        have hi : cand.toItem.fulfillment = some (.eventMarketPickup p) := by
          rw [toItem_fulfillment, hf, Option.join_some, hp]
        rw [isPickupCartItem_iff.2 ⟨p, hi⟩] at hc
        cases hc
    rw [fulfillmentId_eq_iff_of_delivery hpi hc] at h
    rw [fulfillmentId_eq_iff_of_delivery hs hpi]
    -- A key that the cand omits is the line's own; one that it gives decides both sides.
    simp only [IsDigital, toItem_format, toItem_fulfillment] at h
    simp only [IsDigital, spread_format, spread_fulfillment]
    cases hf : cand.format <;> cases hg : cand.fulfillment <;>
      simp only [hf, hg, Option.getD_none, Option.getD_some, Option.join_none, Option.join_some,
        reduceCtorEq, false_or, or_false, or_self, iff_false, not_or] at h ⊢
    · tauto
    · tauto
    · tauto

end Conduit.Cart
