import Conduit.CheckoutSpark.PlanFacts

namespace Conduit.CheckoutSpark

open Js Throwing

/-- Buyer-facing totals only; recipient allocations remain in the signed plan. -/
structure BuyerPrice where
  (itemSubtotalSats shippingSubtotalSats commerceTotalSats conduitFeeSats : Int)
  (networkAllowanceSats coordinationFeeSats totalSats : Int)
  minimumApplies : Bool

structure EventBuyerPrice extends BuyerPrice where
  organizerFeeSats : Int

def feeMinimumApplies (conduitFeeSats : Int) (conduitFeePolicy : Option Text) : Result Bool :=
  if conduitFeePolicy = none then do
    let minimum ← calculateConduitCheckoutFeeSats 1 none
    return conduitFeeSats = minimum
  else .ok false

/-- Estimate the selected policy once per order. -/
def calculateBuyerPrice (itemSubtotalSats shippingSubtotalSats : Int)
    (conduitFeePolicy : Option Text) : Result BuyerPrice := do
  reject (¬ IsSafeInteger itemSubtotalSats ∨ itemSubtotalSats < 0 ∨
      ¬ IsSafeInteger shippingSubtotalSats ∨ shippingSubtotalSats < 0 ∨
      itemSubtotalSats + shippingSubtotalSats > maxSafeInteger)
    (.error "Checkout Spark buyer price is invalid.")
  let commerceTotalSats := itemSubtotalSats + shippingSubtotalSats
  let totalSats ← (if commerceTotalSats = 0 then .ok 0
    else calculateSettledGrossFundingSats commerceTotalSats conduitFeePolicy)
  let conduitFeeSats ← (if commerceTotalSats = 0 ∧ conduitFeePolicy = none then .ok 0
    else calculateConduitCheckoutFeeSats commerceTotalSats conduitFeePolicy)
  let minimumApplies ← feeMinimumApplies conduitFeeSats conduitFeePolicy
  return {
    itemSubtotalSats := itemSubtotalSats
    shippingSubtotalSats := shippingSubtotalSats
    commerceTotalSats := commerceTotalSats
    conduitFeeSats := conduitFeeSats
    networkAllowanceSats := totalSats - commerceTotalSats - conduitFeeSats
    coordinationFeeSats := totalSats - commerceTotalSats
    totalSats := totalSats
    minimumApplies := minimumApplies }

def calculateEventBuyerPrice (itemSubtotalSats shippingSubtotalSats organizerFeeSats : Int)
    (conduitFeePolicy : Option Text) : Result EventBuyerPrice := do
  let ordinary ← calculateBuyerPrice itemSubtotalSats shippingSubtotalSats conduitFeePolicy
  if ordinary.commerceTotalSats = 0 ∧ organizerFeeSats = 0 then
    return { ordinary with organizerFeeSats := 0 }
  let weights ← calculateEventAllocationWeights ordinary.commerceTotalSats organizerFeeSats
    conduitFeePolicy
  let totalSats ← calculateEventSettledGrossFundingSats ordinary.commerceTotalSats
    organizerFeeSats conduitFeePolicy
  let minimumApplies ← feeMinimumApplies weights.conduitWeightSats conduitFeePolicy
  return {
    ordinary with
    organizerFeeSats := weights.organizerWeightSats
    conduitFeeSats := weights.conduitWeightSats
    networkAllowanceSats := totalSats - ordinary.commerceTotalSats - weights.conduitWeightSats -
      weights.organizerWeightSats
    coordinationFeeSats := totalSats - ordinary.commerceTotalSats - weights.organizerWeightSats
    totalSats := totalSats
    minimumApplies := minimumApplies }

section
variable {total organizer gross settled item shipping : Int} {policy : Option Text}
  {w : AllocationWeights} {a : SettledAllocation}

lemma allocationWeights_iff : calculateAllocationWeights total policy = .ok w ↔
    (IsSafeInteger total ∧ 0 < total) ∧
      calculateConduitCheckoutFeeSats total policy = .ok w.conduitWeightSats ∧
      total + w.conduitWeightSats ≤ maxSafeInteger ∧
      w = ⟨total, w.conduitWeightSats, 0⟩ := by
  simp only [calculateAllocationWeights, run_ok, not_or, not_not, not_le, not_lt, gt_iff_lt]
  constructor
  · rintro ⟨hs, fee, hf, hle, rfl⟩
    exact ⟨hs, hf, hle, rfl⟩
  · rintro ⟨hs, hf, hle, heq⟩
    exact ⟨hs, w.conduitWeightSats, hf, hle, heq.symm⟩

def eventFeeBase (total : Int) (policy : Option Text) : Int :=
  if policy = none ∧ total = 0 then 1 else total

lemma eventAllocationWeights_iff : calculateEventAllocationWeights total organizer policy = .ok w ↔
    (IsSafeInteger total ∧ 0 ≤ total ∧ IsSafeInteger organizer ∧ 0 ≤ organizer ∧
        ¬ (total = 0 ∧ organizer = 0)) ∧
      calculateConduitCheckoutFeeSats (eventFeeBase total policy) policy =
        .ok w.conduitWeightSats ∧
      total + organizer + w.conduitWeightSats ≤ maxSafeInteger ∧
      w = ⟨total, w.conduitWeightSats, organizer⟩ := by
  simp only [calculateEventAllocationWeights, run_ok, not_or, not_not, not_lt, gt_iff_lt]
  constructor
  · rintro ⟨hs, fee, hf, hle, rfl⟩
    exact ⟨hs, hf, hle, rfl⟩
  · rintro ⟨hs, hf, hle, heq⟩
    exact ⟨hs, w.conduitWeightSats, hf, hle, heq.symm⟩

lemma eventWeights_ordinary (ht : 0 < total) :
    calculateEventAllocationWeights total 0 policy = .ok w ↔
      calculateAllocationWeights total policy = .ok w := by
  rw [eventAllocationWeights_iff, allocationWeights_iff]
  have hb : eventFeeBase total policy = total := if_neg fun h => by omega
  rw [hb, add_zero]
  apply and_congr_left
  intro _
  have hze : IsSafeInteger 0 := by decide
  constructor
  · rintro ⟨h, -⟩
    exact ⟨h, ht⟩
  · rintro ⟨h, -⟩
    exact ⟨h, ht.le, hze, le_refl 0, fun hz => by omega⟩

def allowanceOn (base : Int) : Int := (base * 15 + 10000 - 1) / 10000

lemma inboundAllowance_iff {base n : Int} : calculateInboundNetworkAllowanceSats base = .ok n ↔
      (IsSafeInteger base ∧ 0 < base) ∧ n = allowanceOn base := by
  simp only [calculateInboundNetworkAllowanceSats, allowanceOn, run_ok, not_or, not_not, not_le, eq_comm (a := n)]

lemma settledGross_iff : calculateSettledGrossFundingSats total policy = .ok gross ↔
    ∃ w, calculateAllocationWeights total policy = .ok w ∧
      gross = total + w.conduitWeightSats + allowanceOn total ∧
      gross * 1000 ≤ maxSafeInteger := by
  simp only [calculateSettledGrossFundingSats, bind_ok, inboundAllowance_iff, exists_reject, pure_ok, not_lt, gt_iff_lt]
  constructor
  · rintro ⟨w, hw, n, ⟨-, rfl⟩, hle, rfl⟩
    have heq := (allocationWeights_eq hw).2.1
    rw [heq] at hle ⊢
    exact ⟨w, hw, rfl, hle⟩
  · rintro ⟨w, hw, rfl, hle⟩
    have heq := (allocationWeights_eq hw).2.1
    refine ⟨w, hw, _, ⟨(allocationWeights_iff.1 hw).1, rfl⟩, ?_, ?_⟩
    · rwa [heq]
    · rw [heq]

lemma eventGross_iff : calculateEventSettledGrossFundingSats total organizer policy = .ok gross ↔
      ∃ w, calculateEventAllocationWeights total organizer policy = .ok w ∧
        gross = total + organizer + w.conduitWeightSats + allowanceOn (total + organizer) ∧
        gross * 1000 ≤ maxSafeInteger := by
  simp only [calculateEventSettledGrossFundingSats, bind_ok, inboundAllowance_iff,
    exists_reject, pure_ok, not_lt, gt_iff_lt]
  constructor
  · rintro ⟨w, hw, n, ⟨-, rfl⟩, hle, rfl⟩
    exact ⟨w, hw, rfl, hle⟩
  · rintro ⟨w, hw, rfl, hle⟩
    obtain ⟨⟨hs, h0, hs', h0', hne⟩, hf, hsum, -⟩ := eventAllocationWeights_iff.1 hw
    have hf0 := conduitCheckoutFee_nonneg hf
    refine ⟨w, hw, _, ⟨⟨?_, by omega⟩, rfl⟩, hle, rfl⟩
    unfold maxSafeInteger at hsum
    unfold IsSafeInteger
    omega

lemma eventGross_ordinary (ht : 0 < total) :
    calculateEventSettledGrossFundingSats total 0 policy = .ok gross ↔
      calculateSettledGrossFundingSats total policy = .ok gross := by
  rw [eventGross_iff, settledGross_iff, add_zero]
  simp only [eventWeights_ordinary ht]

lemma allowanceOn_nonneg {base : Int} (h : 0 ≤ base) : 0 ≤ allowanceOn base := by
  unfold allowanceOn
  omega

lemma safe_of_gross {n : Int} (hg : gross * 1000 ≤ maxSafeInteger) (h0 : 0 ≤ n)
    (hle : n ≤ gross) : IsSafeInteger n := by
  unfold maxSafeInteger at hg
  unfold IsSafeInteger
  omega

lemma allocateSettledSats_covered
    (hf : calculateConduitCheckoutFeeSats w.commerceWeightSats policy = .ok w.conduitWeightSats)
    (hc : 0 < w.commerceWeightSats)
    (hcover : w.commerceWeightSats + w.conduitWeightSats ≤ settled) (hle : settled ≤ gross)
    (hg : IsSafeInteger gross) : allocateSettledSats settled gross w policy = .ok
      { commerceAllocationSats := settled -
          settled * w.conduitWeightSats / (w.commerceWeightSats + w.conduitWeightSats)
        conduitAllocationSats :=
          settled * w.conduitWeightSats / (w.commerceWeightSats + w.conduitWeightSats)
        organizerAllocationSats := 0 } := by
  have hf0 := conduitCheckoutFee_nonneg hf
  unfold IsSafeInteger at hg
  have hs : ¬ (¬ IsSafeInteger settled ∨ settled ≤ 0 ∨ ¬ IsSafeInteger gross ∨ gross ≤ 0 ∨
      settled > gross) := by
    unfold IsSafeInteger
    omega
  have hw : ¬ (¬ IsSafeInteger w.commerceWeightSats ∨ w.commerceWeightSats ≤ 0 ∨
      ¬ IsSafeInteger w.conduitWeightSats) := by
    unfold IsSafeInteger
    omega
  have hsum : ¬ w.commerceWeightSats + w.conduitWeightSats > maxSafeInteger := by
    unfold maxSafeInteger
    omega
  have hb : ¬ gross < w.commerceWeightSats + w.conduitWeightSats := by omega
  simp only [allocateSettledSats, reject_of_not hs, reject_of_not hw, hf,
    reject_of_not (not_not.2 rfl : ¬ w.conduitWeightSats ≠ w.conduitWeightSats),
    reject_of_not hsum, reject_of_not hb, ok_bind]
  rfl

lemma allocateEventSettledSats_covered
    (hw : calculateEventAllocationWeights total organizer policy = .ok w)
    (hg : calculateEventSettledGrossFundingSats total organizer policy = .ok gross)
    (hco : total + w.conduitWeightSats + organizer ≤ settled) (hle : settled ≤ gross) :
    allocateEventSettledSats settled gross w policy = .ok
      (if total = 0 then ⟨0, settled - organizer, organizer⟩
      else ⟨(settled - organizer) -
          (settled - organizer) * w.conduitWeightSats / (total + w.conduitWeightSats),
        (settled - organizer) * w.conduitWeightSats / (total + w.conduitWeightSats),
        organizer⟩) := by
  obtain ⟨⟨-, h0, -, h0', -⟩, hf, -, heq⟩ := eventAllocationWeights_iff.1 hw
  have hf0 := conduitCheckoutFee_nonneg hf
  obtain ⟨-, -, -, hs⟩ := eventGross_iff.1 hg
  have hset := safe_of_gross hs (by omega : 0 ≤ settled) hle
  have hg' := safe_of_gross hs (by omega : 0 ≤ gross) (le_refl gross)
  obtain ⟨c, d, o⟩ := w
  obtain ⟨rfl, -, rfl⟩ := AllocationWeights.mk.inj heq
  dsimp only at hco hf hf0 ⊢
  have hcov : ¬ (d ≠ d ∨ ¬ IsSafeInteger settled ∨ ¬ IsSafeInteger gross ∨ settled > gross ∨
      settled < c + d + o) := by
    rintro (h | h | h | h | h)
    · exact h rfl
    · exact h hset
    · exact h hg'
    · omega
    · omega
  simp only [allocateEventSettledSats, hw, ok_bind, reject_of_not hcov, hg,
    reject_of_not (not_not.2 rfl : ¬ gross ≠ gross)]
  split
  · rfl
  · rename_i hc
    have hb : eventFeeBase c policy = c := if_neg fun h => hc h.2
    rw [hb] at hf
    rw [allocateSettledSats_covered (w := ⟨c, d, o⟩) hf (by dsimp only; omega)
      (by dsimp only; omega) (by omega)
      (safe_of_gross hs (by omega) (by omega))]
    rfl

lemma allocateEvent_ordinary (ht : 0 < total) (hw : calculateAllocationWeights total policy = .ok w)
    (hg : calculateSettledGrossFundingSats total policy = .ok gross)
    (hc : w.commerceWeightSats + w.conduitWeightSats ≤ settled) :
    allocateEventSettledSats settled gross w policy = .ok a ↔
      allocateSettledSats settled gross w policy = .ok a := by
  obtain ⟨-, hf, -, heq⟩ := allocationWeights_iff.1 hw
  obtain ⟨-, -, -, hs⟩ := settledGross_iff.1 hg
  have hcom : w.commerceWeightSats = total := congrArg AllocationWeights.commerceWeightSats heq
  by_cases hle : settled ≤ gross
  · have hf0 := conduitCheckoutFee_nonneg hf
    rw [allocateEventSettledSats_covered ((eventWeights_ordinary ht).2 hw)
        ((eventGross_ordinary ht).2 hg) (by omega) hle,
      allocateSettledSats_covered (by rw [hcom]; exact hf) (by omega) hc hle
        (safe_of_gross hs (by omega) (le_refl gross)),
      if_neg ht.ne', hcom, sub_zero]
  · -- More than the invoice is rejected on both paths.
    constructor <;> intro h
    · simp only [allocateEventSettledSats, run_ok] at h
      obtain ⟨_, -, hcov, -⟩ := h
      exact absurd (.inr (.inr (.inr (.inl (not_le.1 hle))))) hcov
    · simp only [allocateSettledSats, run_ok] at h
      obtain ⟨hset, -⟩ := h
      exact absurd (.inr (.inr (.inr (.inr (not_le.1 hle))))) hset

lemma buyerPrice_iff {q : BuyerPrice} (ht : 0 < item + shipping) :
    calculateBuyerPrice item shipping policy = .ok q ↔
      (IsSafeInteger item ∧ 0 ≤ item ∧ IsSafeInteger shipping ∧ 0 ≤ shipping ∧
        item + shipping ≤ maxSafeInteger) ∧
      ∃ w gross m, calculateAllocationWeights (item + shipping) policy = .ok w ∧
        calculateSettledGrossFundingSats (item + shipping) policy = .ok gross ∧
        feeMinimumApplies w.conduitWeightSats policy = .ok m ∧
        q = ⟨item, shipping, item + shipping, w.conduitWeightSats,
          gross - (item + shipping) - w.conduitWeightSats, gross - (item + shipping), gross, m⟩ := by
  have hne : ¬ item + shipping = 0 := ht.ne'
  simp only [calculateBuyerPrice, run_ok, if_neg hne,
    if_neg (fun h => hne h.1 : ¬ (item + shipping = 0 ∧ policy = none)), not_or, not_not, not_lt,
    gt_iff_lt]
  apply and_congr_right
  intro _
  constructor
  · rintro ⟨gross, hg, fee, hf, m, hm, rfl⟩
    obtain ⟨w, hw, -, -⟩ := settledGross_iff.1 hg
    have heq : w.conduitWeightSats = fee :=
      Except.ok.inj ((allocationWeights_iff.1 hw).2.1.symm.trans hf)
    exact ⟨w, gross, m, hw, hg, heq ▸ hm, by rw [heq]⟩
  · rintro ⟨w, gross, m, hw, hg, hm, rfl⟩
    exact ⟨gross, hg, w.conduitWeightSats, (allocationWeights_iff.1 hw).2.1, m, hm, rfl⟩

lemma eventBuyerPrice_iff {p : EventBuyerPrice} (hne : ¬ (item + shipping = 0 ∧ organizer = 0)) :
    calculateEventBuyerPrice item shipping organizer policy = .ok p ↔
      ∃ q w gross m, calculateBuyerPrice item shipping policy = .ok q ∧
        calculateEventAllocationWeights (item + shipping) organizer policy = .ok w ∧
        calculateEventSettledGrossFundingSats (item + shipping) organizer policy = .ok gross ∧
        feeMinimumApplies w.conduitWeightSats policy = .ok m ∧
        p = ⟨⟨item, shipping, item + shipping, w.conduitWeightSats,
          gross - (item + shipping) - w.conduitWeightSats - organizer,
          gross - (item + shipping) - organizer, gross, m⟩, organizer⟩ := by
  have hf : ∀ q, calculateBuyerPrice item shipping policy = .ok q →
      q.itemSubtotalSats = item ∧ q.shippingSubtotalSats = shipping ∧
        q.commerceTotalSats = item + shipping := by
    intro q hq
    simp only [calculateBuyerPrice, run_ok] at hq
    obtain ⟨-, gross, -, fee, -, m, -, rfl⟩ := hq
    exact ⟨rfl, rfl, rfl⟩
  simp only [calculateEventBuyerPrice, bind_ok]
  constructor
  · rintro ⟨q, hq, h⟩
    obtain ⟨hi, hs, ht⟩ := hf q hq
    rw [ht, if_neg hne] at h
    simp only [run_ok] at h
    obtain ⟨w, hw, gross, hg, m, hm, rfl⟩ := h
    have ho : w.organizerWeightSats = organizer := (eventAllocationWeights_eq hw).2.2.2.2
    refine ⟨q, w, gross, m, hq, hw, hg, hm, ?_⟩
    rw [ho, hi, hs]
  · rintro ⟨q, w, gross, m, hq, hw, hg, hm, rfl⟩
    obtain ⟨hi, hs, ht⟩ := hf q hq
    have ho : w.organizerWeightSats = organizer := (eventAllocationWeights_eq hw).2.2.2.2
    refine ⟨q, hq, ?_⟩
    rw [ht, if_neg hne]
    simp only [run_ok]
    refine ⟨w, hw, gross, hg, m, hm, ?_⟩
    rw [ho, hi, hs]

end

lemma freeze_gross {P : Platform} {input : PlanTerms} {inputs : List RecipientInput}
    {allow : Bool} {native : Option NativeTreasuryPlan} {market : Option EventMarketBinding}
    {plan : SettledPlan}
    (h : freezeSettledPlanInternal P input inputs allow native market = .ok plan) :
    ∃ weights expected,
      planWeights plan.commerceQuote plan.eventMarket plan.conduitFeePolicy = .ok weights ∧
      planGrossFundingSats plan.commerceQuote plan.eventMarket plan.conduitFeePolicy =
        .ok expected ∧
      IsSafeInteger plan.funding.grossFundingSats ∧
      (plan.funding.grossFundingSats = expected ∨
        allow = true ∧ plan.funding.grossFundingSats =
          weights.commerceWeightSats + weights.conduitWeightSats) := by
  simp only [freezeSettledPlanInternal, run_ok] at h
  obtain ⟨checkoutId, -, orderId, -, merchant, -, walletId, -, createdAt, -, takeoverAt, -,
    -, quote, -, event, -, -, weights, hw, gross, hg, expected, he, ht,
    funding, hf, -, recipients, -, u, -, zap, -, treasury, -, canonical, -, rfl⟩ := h
  obtain ⟨rfl, hsa, -⟩ := sats_ok_iff.1 hg
  have hs := (freezeFunding_eq hf).2.1
  refine ⟨weights, expected, hw, he, by rw [hs]; exact hsa, ?_⟩
  rw [hs]
  by_contra hn
  obtain ⟨hne, hne'⟩ := not_or.1 hn
  apply ht
  refine ⟨hne, ?_⟩
  cases allow with
  | false => exact .inl rfl
  | true => exact .inr (.inr fun heq => hne' ⟨rfl, heq⟩)

structure OrdinaryPath (total : Int) (policy : Option Text) : Prop where
  weights : ∀ w, calculateEventAllocationWeights total 0 policy = .ok w ↔
    calculateAllocationWeights total policy = .ok w
  gross : ∀ gross, calculateEventSettledGrossFundingSats total 0 policy = .ok gross ↔
    calculateSettledGrossFundingSats total policy = .ok gross
  allocation : ∀ w gross settled a, calculateAllocationWeights total policy = .ok w →
    calculateSettledGrossFundingSats total policy = .ok gross →
    w.commerceWeightSats + w.conduitWeightSats ≤ settled →
    (allocateEventSettledSats settled gross w policy = .ok a ↔
      allocateSettledSats settled gross w policy = .ok a)
  price : ∀ item shipping p, item + shipping = total →
    (calculateEventBuyerPrice item shipping 0 policy = .ok p ↔
      calculateBuyerPrice item shipping policy = .ok p.toBuyerPrice ∧ p.organizerFeeSats = 0)

structure EventBuyerPrice.Balanced (p : EventBuyerPrice) : Prop where
  item : 0 ≤ p.itemSubtotalSats
  shipping : 0 ≤ p.shippingSubtotalSats
  organizer : 0 ≤ p.organizerFeeSats
  conduit : 0 ≤ p.conduitFeeSats
  network : 0 ≤ p.networkAllowanceSats
  commerce : p.commerceTotalSats = p.itemSubtotalSats + p.shippingSubtotalSats
  coordination : p.coordinationFeeSats = p.conduitFeeSats + p.networkAllowanceSats
  total : p.totalSats = p.commerceTotalSats + p.organizerFeeSats + p.coordinationFeeSats

section
variable {total organizer item shipping : Int} {policy : Option Text}

lemma ordinaryPath (ht : 0 < total) : OrdinaryPath total policy where
  weights _ := eventWeights_ordinary ht
  gross _ := eventGross_ordinary ht
  allocation _ _ _ _ hw hg hc := allocateEvent_ordinary ht hw hg hc
  price := by
    rintro item shipping ⟨q, fee⟩ rfl
    rw [eventBuyerPrice_iff (fun h => ht.ne' h.1), buyerPrice_iff ht]
    constructor
    · rintro ⟨q', w, gross, m, hq, hw, hg, hm, heq⟩
      obtain ⟨hv, -⟩ := (buyerPrice_iff ht).1 hq
      obtain ⟨rfl, rfl⟩ := EventBuyerPrice.mk.inj heq
      refine ⟨⟨hv, w, gross, m, (eventWeights_ordinary ht).1 hw,
        (eventGross_ordinary ht).1 hg, hm, ?_⟩, rfl⟩
      simp only [sub_zero]
    · rintro ⟨⟨hv, w, gross, m, hw, hg, hm, rfl⟩, rfl⟩
      refine ⟨_, w, gross, m, (buyerPrice_iff ht).2 ⟨hv, w, gross, m, hw, hg, hm, rfl⟩,
        (eventWeights_ordinary ht).2 hw, (eventGross_ordinary ht).2 hg, hm, ?_⟩
      simp only [sub_zero]

lemma buyerPrice_valid {q : BuyerPrice} (h : calculateBuyerPrice item shipping policy = .ok q) :
    0 ≤ item ∧ 0 ≤ shipping := by
  simp only [calculateBuyerPrice, rejects_ok] at h
  omega

variable {p : EventBuyerPrice}

lemma eventBuyerPrice_balanced (h : calculateEventBuyerPrice item shipping organizer policy = .ok p)
    : p.Balanced := by
  by_cases hne : item + shipping = 0 ∧ organizer = 0
  · -- Nothing is sold and nothing is owed: the ordinary price of nothing.
    obtain ⟨hz, rfl⟩ := hne
    simp only [calculateEventBuyerPrice, bind_ok] at h
    obtain ⟨q, hq, h⟩ := h
    obtain ⟨hi, hs⟩ := buyerPrice_valid hq
    simp only [calculateBuyerPrice, run_ok, hz, true_and, if_true] at hq
    obtain ⟨-, gross, hg, fee, hf, m, -, rfl⟩ := hq
    simp only [and_self, if_true, pure_ok] at h
    obtain rfl := Except.ok.inj hg
    have hf0 : fee = 0 := by
      split at hf
      · exact (Except.ok.inj hf).symm
      · rename_i hp
        simp only [calculateConduitCheckoutFeeSats, rejects_ok, ne_eq, hp,
          not_false_eq_true, and_self, if_true, pure_ok] at hf
        exact hf.2.symm
    subst h hf0
    constructor <;> dsimp only <;> omega
  · obtain ⟨q, w, gross, m, hq, hw, hg, -, rfl⟩ := (eventBuyerPrice_iff hne).1 h
    obtain ⟨hi, hs⟩ := buyerPrice_valid hq
    obtain ⟨-, horg, -, hf, -⟩ := eventAllocationWeights_eq hw
    obtain ⟨w', hw', hsum, -⟩ := eventGross_iff.1 hg
    obtain rfl : w' = w := Except.ok.inj (hw'.symm.trans hw)
    have hallowance := allowanceOn_nonneg (by omega : 0 ≤ item + shipping + organizer)
    constructor <;> dsimp only <;> omega

lemma freeze_gross_of_price {P : Platform} {input : PlanTerms} {inputs : List RecipientInput}
    {native : Option NativeTreasuryPlan} {market : Option EventMarketBinding} {plan : SettledPlan}
    {m : EventMarketBinding}
    (h : freezeSettledPlanInternal P input inputs false native market = .ok plan)
    (hm : plan.eventMarket = some m) (ht : plan.commerceQuote.commerceTotalSats = item + shipping)
    (hp : calculateEventBuyerPrice item shipping m.organizerFeeSats plan.conduitFeePolicy = .ok p) :
    plan.funding.grossFundingSats = p.totalSats := by
  obtain ⟨weights, expected, -, he, -, heq⟩ := freeze_gross h
  simp only [planGrossFundingSats, hm, ht] at he
  obtain ⟨w, hw, -, -⟩ := eventGross_iff.1 he
  obtain ⟨q, w', gross, n, -, -, hg, -, rfl⟩ :=
    (eventBuyerPrice_iff (eventAllocationWeights_iff.1 hw).1.2.2.2.2).1 hp
  rcases heq with heq | ⟨hf, -⟩
  · rw [heq]
    exact Except.ok.inj (he.symm.trans hg)
  · cases hf

end

def QuotesGross (policy : Option Text) : Prop :=
  ∀ item shipping organizer p, calculateEventBuyerPrice item shipping organizer policy = .ok p →
    p.Balanced ∧
    ∀ P input inputs native market plan m,
      freezeSettledPlanInternal P input inputs false native market = .ok plan →
      plan.eventMarket = some m → m.organizerFeeSats = organizer →
      plan.commerceQuote.commerceTotalSats = item + shipping → plan.conduitFeePolicy = policy →
      plan.funding.grossFundingSats = p.totalSats

/-- Without an organizer fee an event is the ordinary path; the buyer is quoted what the plan
demands. -/
theorem eventMoneyPath {total : Int} {policy : Option Text} (ht : 0 < total) :
    OrdinaryPath total policy ∧ QuotesGross policy := by
  refine ⟨ordinaryPath ht, fun item shipping organizer p hp => ⟨eventBuyerPrice_balanced hp, ?_⟩⟩
  rintro P input inputs native market plan m h hm rfl htotal rfl
  exact freeze_gross_of_price h hm htotal hp

theorem eventMoneyPath_sample : OrdinaryPath 1000 none ∧ QuotesGross none :=
  eventMoneyPath (by decide)

end Conduit.CheckoutSpark
