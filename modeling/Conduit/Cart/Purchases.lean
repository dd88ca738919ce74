import Conduit.Cart.Identity

namespace Conduit.Cart

open Js List Bool

variable (merchant : Text)

def isDeliveryOf (item : CartItem) : Bool :=
  decide (item.merchantPubkey = merchant) && !isPickupCartItem item

def isDeliveryGroup (group : CartPurchaseGroup) : Bool :=
  decide (group.merchantPubkey = merchant) && decide (group.kind = .delivery)

def deliveries (groups : List CartPurchaseGroup) : List (List CartItem) :=
  (groups.filter (isDeliveryGroup merchant)).map CartPurchaseGroup.items

def extendFirst (groups : List (List CartItem)) (items : List CartItem) : List (List CartItem) :=
  match groups, items with
  | groups, [] => groups
  | [], items => [items]
  | first :: rest, items => (first ++ items) :: rest

variable {merchant : Text} {item : CartItem} {group : CartPurchaseGroup}

lemma purchaseKind_eq_delivery : purchaseKind item = .delivery ↔ isPickupCartItem item = false := by
  unfold purchaseKind
  cases isPickupCartItem item <;> simp

lemma isDeliveryOf_iff : isDeliveryOf merchant item = true ↔
      item.merchantPubkey = merchant ∧ isPickupCartItem item = false := by
  simp [isDeliveryOf]

lemma isDeliveryGroup_iff : isDeliveryGroup merchant group = true ↔
      group.merchantPubkey = merchant ∧ group.kind = .delivery := by
  simp [isDeliveryGroup]

lemma takes_delivery (h : isDeliveryOf merchant item = true) (group : CartPurchaseGroup) :
    group.takes item = isDeliveryGroup merchant group := by
  obtain ⟨hm, hp⟩ := isDeliveryOf_iff.1 h
  have hk := purchaseKind_eq_delivery.2 hp
  simp only [CartPurchaseGroup.takes, isDeliveryGroup, hm, hk, decide_true,
    Bool.true_or, Bool.and_true]

lemma not_isDeliveryGroup_of_takes (h : isDeliveryOf merchant item = false)
    (ht : group.takes item = true) : isDeliveryGroup merchant group = false := by
  simp only [CartPurchaseGroup.takes, and_eq_true, decide_eq_true_eq] at ht
  obtain ⟨⟨hmer, hki⟩, -⟩ := ht
  rw [eq_false_iff] at h ⊢
  intro hg
  obtain ⟨hm, hk⟩ := isDeliveryGroup_iff.1 hg
  apply h
  apply isDeliveryOf_iff.2
  exact ⟨hmer ▸ hm, purchaseKind_eq_delivery.1 (hki ▸ hk)⟩

lemma deliveries_cons (merchant : Text) (group : CartPurchaseGroup)
    (groups : List CartPurchaseGroup) : deliveries merchant (group :: groups) =
      if isDeliveryGroup merchant group = true then group.items :: deliveries merchant groups
      else deliveries merchant groups := by
  unfold deliveries
  rw [filter_cons]
  split <;> rfl

lemma deliveries_addToPurchases (merchants : List MerchantCartGroup) (merchant : Text)
    (item : CartItem) (index : Nat) (groups : List CartPurchaseGroup) :
    deliveries merchant (addToPurchases merchants item index groups) =
      extendFirst (deliveries merchant groups) ([item].filter (isDeliveryOf merchant)) := by
  induction groups with
  | nil =>
    have hk : isDeliveryGroup merchant (newPurchase merchants item index) =
        isDeliveryOf merchant item := by
      unfold isDeliveryGroup isDeliveryOf newPurchase purchaseKind
      cases isPickupCartItem item <;> simp
    rw [addToPurchases, deliveries_cons, hk]
    cases h : isDeliveryOf merchant item <;> simp [h, deliveries, extendFirst, newPurchase]
  | cons group rest ih =>
    rw [addToPurchases]
    cases h : isDeliveryOf merchant item with
    | true =>
      rw [takes_delivery h]
      cases hg : isDeliveryGroup merchant group with
      | true =>
        have hg' : isDeliveryGroup merchant { group with items := group.items ++ [item] } =
          true := hg
        rw [if_pos rfl, deliveries_cons, deliveries_cons, if_pos hg', if_pos hg]
        simp [h, extendFirst]
      | false =>
        rw [if_neg Bool.false_ne_true, deliveries_cons, deliveries_cons, hg,
          if_neg Bool.false_ne_true, if_neg Bool.false_ne_true, ih]
    | false =>
      have hn : [item].filter (isDeliveryOf merchant) = [] := by simp [h]
      rw [hn] at ih ⊢
      cases ht : group.takes item with
      | true =>
        have hg := not_isDeliveryGroup_of_takes h ht
        have hg' : isDeliveryGroup merchant { group with items := group.items ++ [item] } =
          false := hg
        rw [if_pos rfl, deliveries_cons, deliveries_cons, hg, hg']
        simp [extendFirst]
      | false =>
        rw [if_neg Bool.false_ne_true, deliveries_cons, deliveries_cons, ih]
        simp [extendFirst]

lemma extendFirst_extendFirst (groups : List (List CartItem)) (xs ys : List CartItem) :
    extendFirst (extendFirst groups xs) ys = extendFirst groups (xs ++ ys) := by
  cases groups <;> cases xs <;> cases ys <;> simp [extendFirst]

lemma deliveries_foldl (merchants : List MerchantCartGroup) (merchant : Text)
    (items : List CartItem) (start : Nat) (groups : List CartPurchaseGroup) :
    deliveries merchant ((items.zipIdx start).foldl
      (fun groups entry => addToPurchases merchants entry.1 entry.2 groups) groups) =
      extendFirst (deliveries merchant groups) (items.filter (isDeliveryOf merchant)) := by
  induction items generalizing start groups with
  | nil => simp [extendFirst]
  | cons item items ih =>
    rw [zipIdx_cons, foldl_cons, ih, deliveries_addToPurchases,
      extendFirst_extendFirst, ← filter_append, singleton_append]

lemma deliveryGroup_items (lines : List CartLine) (merchant : Text) :
    (deliveryGroup lines merchant).toList.map CartPurchaseGroup.items =
      extendFirst [] ((materializeLines lines).filter (isDeliveryOf merchant)) := by
  set folded := (materializeLines lines).zipIdx.foldl (fun groups entry =>
    addToPurchases (groupCartItems (materializeLines lines)) entry.1 entry.2 groups) []
  have hf : deliveries merchant folded =
      extendFirst [] ((materializeLines lines).filter (isDeliveryOf merchant)) :=
    deliveries_foldl _ merchant (materializeLines lines) 0 []
  have hpm : (deliveries merchant (groupCartPurchases (materializeLines lines))).Perm
      (deliveries merchant folded) :=
    ((perm_insertionSort _ folded).filter _).map _
  rw [hf] at hpm
  have hfi : deliveryGroup lines merchant =
      ((groupCartPurchases (materializeLines lines)).filter (isDeliveryGroup merchant)).head? :=
    head?_filter.symm
  rw [hfi]
  unfold deliveries at hpm
  generalize (groupCartPurchases (materializeLines lines)).filter (isDeliveryGroup merchant) =
    found at hpm ⊢
  cases hi : (materializeLines lines).filter (isDeliveryOf merchant) with
  | nil =>
    rw [hi] at hpm
    have hn := map_eq_nil_iff.1 hpm.eq_nil
    rw [hn]
    rfl
  | cons item items =>
    rw [hi] at hpm
    have ho := perm_singleton.1 hpm
    obtain ⟨group, rfl, hg⟩ := map_eq_singleton_iff.1 ho
    rw [head?_cons, Option.toList_some, map_cons, hg]
    rfl

variable {lines : List CartLine}

lemma deliveryGroup_eq_some (h : deliveryGroup lines merchant = some group) :
    group.items = (materializeLines lines).filter (isDeliveryOf merchant) := by
  have hi := deliveryGroup_items lines merchant
  rw [h] at hi
  cases hf : (materializeLines lines).filter (isDeliveryOf merchant) with
  | nil => simp [hf, extendFirst] at hi
  | cons item items => simpa [hf, extendFirst] using hi

lemma deliveryGroup_eq_none (h : deliveryGroup lines merchant = none) :
    (materializeLines lines).filter (isDeliveryOf merchant) = [] := by
  have hi := deliveryGroup_items lines merchant
  rw [h] at hi
  cases hf : (materializeLines lines).filter (isDeliveryOf merchant) with
  | nil => rfl
  | cons item items => simp [hf, extendFirst] at hi

end Conduit.Cart
