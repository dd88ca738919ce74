import Conduit.CheckoutSpark.BuyerPrice
import Conduit.CheckoutSpark.Commitment

namespace Conduit.CheckoutSpark

open Js Throwing List

lemma freeze_organizerWeight {P : Platform} {checkoutId orderId : Text} {createdAt : Int}
    {market : EventMarketBinding} {c : RecipientInput × Nat} {r : SettledRecipient}
    (h : freezeRecipient P checkoutId orderId createdAt (some market) c = .ok r)
    (hk : r.kind = .organizer) : r.weightSats = market.organizerFeeSats := by
  have hi := (freezeRecipient_eq h).1
  simp only [freezeRecipient, bind_ok] at h
  obtain ⟨id, -, s, hs, -⟩ := h
  have hki : c.1.kind = .organizer := by rw [← hi]; exact hk
  have hw : c.1.weightSats = r.weightSats := by rw [← hi]
  unfold normalizeSource at hs
  simp only [hki] at hs
  split at hs
  · rw [rejects_ok] at hs
    rw [← hw]
    by_contra hne
    exact hs.1 (.inr (.inr (.inr (.inr (.inr (.inr hne))))))
  · cases hs

structure RestoredTerms (plan : SettledPlan) (weights : AllocationWeights) (expected : Int) :
    Prop where
  safe : IsSafeInteger plan.funding.grossFundingSats
  gross : plan.market ≠ none → plan.funding.grossFundingSats = expected
  demanded : planGrossFundingSats plan.commerceQuote plan.market plan.conduitFeePolicy = .ok expected
  organizer : ∀ market ∈ plan.market, ∀ r ∈ plan.recipients, r.kind = .organizer →
    r.weightSats = market.organizerFeeSats
  conduit : ∀ r ∈ plan.recipients, r.kind = .conduit → r.weightSats = weights.conduitWeightSats

section
variable {P : Platform} {p plan : SettledPlan} {weights : AllocationWeights}
  {divided : SettledAllocation} {creditedSats expected : Int}

lemma restoredTerms (h : restoreSettledPlan P p = .ok plan) (hf : FrozenPlan P plan weights) :
    ∃ expected, RestoredTerms plan weights expected := by
  have hmkt := market_eq hf
  have heq := (restoreSettledPlan_version h).1
  simp only [restoreSettledPlan, run_ok] at h
  obtain ⟨-, canonical, hfr, -, rfl⟩ := h
  obtain ⟨w, expected, -, he, hs, hg⟩ := freeze_gross hfr
  refine ⟨expected, hs, ?_, by rw [hmkt]; exact he, ?_, ?_⟩
  · intro hm
    rcases hg with hg | ⟨ht, -⟩
    · exact hg
    · -- Only a plan of the first version is read without its allowance, and it has no market.
      have h3 : canonical.schemaVersion = 3 := heq.trans (of_decide_eq_true ht)
      exact absurd (if_neg (by omega)) hm
  · rw [hmkt]
    simp only [freezeSettledPlanInternal, run_ok] at hfr
    obtain ⟨_, -, _, -, _, -, _, -, _, -, _, -, -, _, -, event, -, -, _, -, _, -, _, -, -, _, -, -,
      recipients, hrc, _, -, _, -, _, -, _, -, rfl⟩ := hfr
    rintro market hm r hr hk
    obtain ⟨c, -, hc⟩ := mem_of_mapResult hrc hr
    obtain rfl : event = some market := hm
    exact freeze_organizerWeight hc hk
  · intro r hr hk
    have ha := hf.recipients
    simp only [assertRecipients, rejects_ok, not_or, not_not, ne_eq] at ha
    have hmem : r.weightSats ∈ (ofKind .conduit canonical.recipients).map fun r => r.weightSats :=
      mem_map.2 ⟨r, mem_filter.2 ⟨hr, by simpa using hk⟩, rfl⟩
    rw [ha.1.1] at hmem
    exact mem_singleton.1 hmem

/-- The part of an event credit that is set aside before the division. -/
def SettledPlan.organizerFee (plan : SettledPlan) : Int :=
  (plan.market.map (·.organizerFeeSats)).getD 0

structure Covers (plan : SettledPlan) (weights : AllocationWeights) (divided : SettledAllocation) :
    Prop where
  commerce : weights.commerceWeightSats ≤ divided.commerceAllocationSats
  conduit : weights.conduitWeightSats ≤ divided.conduitAllocationSats

lemma proportion_covers {s c d : Int} (hc : 0 < c) (hd : 0 ≤ d) (h : c + d ≤ s) :
    c ≤ s - s * d / (c + d) ∧ d ≤ s * d / (c + d) := by
  have ht : 0 < c + d := by omega
  constructor
  · have hle : s * d / (c + d) ≤ s - c := by
      apply Int.ediv_le_of_le_mul ht
      nlinarith
    omega
  · apply Int.le_ediv_of_mul_le ht
    rw [mul_comm]
    exact mul_le_mul_of_nonneg_right h hd

lemma divideCredit_covers (hf : FrozenPlan P plan weights)
    (hr : RestoredTerms plan weights expected)
    (hc : assertSettledFundingCoverage plan creditedSats = .ok ())
    (hle : creditedSats ≤ plan.funding.grossFundingSats) :
    ∃ divided, divideCredit plan creditedSats weights = .ok divided ∧ Covers plan weights divided := by
  have hw := hf.weights_eq
  rw [← market_eq hf] at hw
  simp only [assertSettledFundingCoverage, hw, ok_bind, reject_ok, not_or, not_not, not_lt] at hc
  obtain ⟨-, hc⟩ := hc
  have he := hr.demanded
  have hg := hr.gross
  unfold divideCredit
  cases hm : plan.market with
  | none =>
    simp only [hm, planWeights, Option.map_none, Option.getD_none, add_zero] at hw hc ⊢
    obtain ⟨⟨-, hp⟩, hfee, -, heq⟩ := allocationWeights_iff.1 hw
    have hcom := congrArg AllocationWeights.commerceWeightSats heq
    dsimp only at hcom
    rw [← hcom] at hfee hp
    refine ⟨_, allocateSettledSats_covered hfee hp hc hle hr.safe, ?_, ?_⟩
    · exact (proportion_covers hp (conduitCheckoutFee_nonneg hfee) hc).1
    · exact (proportion_covers hp (conduitCheckoutFee_nonneg hfee) hc).2
  | some market =>
    simp only [hm, planWeights, planGrossFundingSats, Option.map_some,
      Option.getD_some] at hw hc he ⊢
    rw [hg (by rw [hm]; exact Option.some_ne_none market)] at hle ⊢
    obtain ⟨⟨-, h0, -⟩, hfee, -, heq⟩ := eventAllocationWeights_iff.1 hw
    have hcom := congrArg AllocationWeights.commerceWeightSats heq
    dsimp only at hcom
    rw [hcom] at hc
    refine ⟨_, allocateEventSettledSats_covered hw he hc hle, ?_⟩
    have hfee0 := conduitCheckoutFee_nonneg hfee
    split_ifs with hzero
    · constructor <;> dsimp only <;> omega
    · have hpr := proportion_covers (s := creditedSats - market.organizerFeeSats)
        (c := plan.commerceQuote.commerceTotalSats) (by omega) hfee0 (by omega)
      exact ⟨by rw [hcom]; exact hpr.1, hpr.2⟩

lemma sum_commerce (rs : List SettledRecipient) (market : Option EventMarketBinding) :
    ((rs.filter (isCommerceRecipient market)).map (·.weightSats)).sum =
      ((ofKind .merchant rs).map (·.weightSats)).sum +
        ((rs.filter (isSharer market)).map (·.weightSats)).sum := by
  induction rs with
  | nil => rfl
  | cons r rs ih =>
    cases hm : market <;> cases hk : r.kind <;>
      simp_all [ofKind, isSharer, isCommerceRecipient] <;> omega

lemma weight_le_legAllocation (hf : FrozenPlan P plan weights)
    (hr : RestoredTerms plan weights expected) (ht : RecipientTotals plan weights)
    (hc : Covers plan weights divided) {r : SettledRecipient} (hmem : r ∈ plan.recipients) :
    r.weightSats ≤ legAllocation plan weights divided r := by
  have hp := hf.positive r hmem
  have hw := sum_commerce plan.recipients plan.market
  rw [ht.commerce] at hw
  have hn : ∀ rs : List SettledRecipient, (∀ r ∈ rs, r ∈ plan.recipients) →
      ∀ x ∈ rs.map (·.weightSats), 0 ≤ x := by
    intro rs hrs x hx
    obtain ⟨q, hq, rfl⟩ := mem_map.1 hx
    exact (hf.positive q (hrs q hq)).le
  have hshar := hn (plan.recipients.filter (isSharer plan.market))
    fun q hq => (mem_filter.1 hq).1
  have hmer := hn (ofKind .merchant plan.recipients)
    fun q hq => (mem_filter.1 hq).1
  have hsharersSum := sum_nonneg hshar
  have hmerchantsSum := sum_nonneg hmer
  have hsh : isSharer plan.market r = true → r.weightSats ≤ sharedSats weights divided r := by
    intro hs
    have hle := single_le_sum hshar r.weightSats
      (mem_map_of_mem (mem_filter.2 ⟨hmem, hs⟩))
    apply Int.le_ediv_of_mul_le (by omega)
    rw [mul_comm]
    exact mul_le_mul_of_nonneg_right hc.commerce hp.le
  unfold legAllocation
  cases hk : r.kind with
  | conduit =>
    rw [hr.conduit r hmem hk]
    exact hc.conduit
  | supplier =>
    apply hsh
    unfold isSharer isCommerceRecipient
    cases plan.market <;> simp [hk]
  | organizer =>
    cases hm : plan.market with
    | none =>
      apply hsh
      simp [isSharer, isCommerceRecipient, hm, hk]
    | some market => exact (hr.organizer market hm r hmem hk).le
  | merchant =>
    have hle := single_le_sum hmer r.weightSats
      (mem_map_of_mem (mem_filter.2 ⟨hmem, by simpa using hk⟩))
    have hfl := sum_floor_le (c := divided.commerceAllocationSats)
      (by omega : 0 < weights.commerceWeightSats)
      ((plan.recipients.filter (isSharer plan.market)).map (·.weightSats))
    rw [map_map] at hfl
    change sharersTotal plan weights divided * weights.commerceWeightSats ≤ _ at hfl
    -- What the sharers leave is the merchant's proportion, rounded up.
    have hres : r.weightSats * weights.commerceWeightSats ≤
        (divided.commerceAllocationSats - sharersTotal plan weights divided) *
          weights.commerceWeightSats := by
      have hcom := hc.commerce
      nlinarith
    exact le_of_mul_le_mul_right hres (by omega)

def allocationNumbers (plan : SettledPlan) (creditedSats : Int) (weights : AllocationWeights)
    (divided : SettledAllocation) : List Int :=
  let shares := (plan.recipients.filterMap (plan.otherShare weights divided)).map Prod.snd
  [weights.commerceWeightSats, weights.conduitWeightSats,
    plan.commerceQuote.commerceTotalSats + plan.organizerFee, creditedSats - plan.organizerFee,
    plan.funding.grossFundingSats - plan.organizerFee, divided.conduitAllocationSats,
    divided.commerceAllocationSats, divided.commerceAllocationSats - shares.sum] ++
    (shares ++ shares.inits.map List.sum)

lemma allocationNumbers_le (hf : FrozenPlan P plan weights) (ht : RecipientTotals plan weights)
    (hc : Covers plan weights divided) (hd : Divides creditedSats divided)
    (horg : divided.organizerAllocationSats = plan.organizerFee)
    (hcon : 0 ≤ weights.conduitWeightSats) (hle : creditedSats ≤ plan.funding.grossFundingSats) :
    ∀ n ∈ allocationNumbers plan creditedSats weights divided,
      0 ≤ n ∧ n ≤ plan.funding.grossFundingSats := by
  have hs : (plan.recipients.filterMap (plan.otherShare weights divided)).map Prod.snd =
      (plan.recipients.filter (isSharer plan.market)).map (sharedSats weights divided) := by
    rw [shares_eq, map_map]
    rfl
  have hb := sharersTotal_bounds ht hf.positive hd.commerce
  have hno : ∀ x ∈ (plan.recipients.filter (isSharer plan.market)).map
      (sharedSats weights divided), 0 ≤ x := by
    intro x hx
    obtain ⟨r, hr, rfl⟩ := mem_map.1 hx
    exact Int.ediv_nonneg
      (Int.mul_nonneg hd.commerce (hf.positive r (mem_filter.1 hr).1).le) ht.nonneg
  have hfee := hd.organizer
  have htotal := hd.total
  have hcom := hc.commerce
  have hcon' := hc.conduit
  have hweig := ht.weight
  have hnon := ht.nonneg
  unfold sharersTotal at hb
  rw [allocationNumbers, hs]
  generalize (plan.recipients.filter (isSharer plan.market)).map (sharedSats weights divided) =
    shares at hb hno
  simp only [mem_append, mem_cons, not_mem_nil, or_false, mem_map, mem_inits]
  rintro n ((rfl | rfl | rfl | rfl | rfl | rfl | rfl | rfl) | hn | ⟨l, hl, rfl⟩)
  all_goals try omega
  · have := single_le_sum hno n hn
    have := hno n hn
    omega
  · have := sum_nonneg fun x hx => hno x (hl.subset hx)
    have := hl.sublist.sum_le_sum hno
    omega

structure ExactAllocation (plan : SettledPlan) (creditedSats : Int) (legs : List LegProgress) :
    Prop where
  shares : List.Forall₂ (fun r l => l.legId = r.legId ∧ ∃ sats, l.allocationSats = some sats ∧
    0 ≤ sats ∧ r.weightSats ≤ sats ∧
    ∀ market ∈ plan.market, r.kind = .organizer → sats = market.organizerFeeSats)
    plan.recipients legs
  total : (legs.map fun l => l.allocationSats.getD 0).sum = creditedSats

theorem allocatedLegs_exact (h : restoreSettledPlan P p = .ok plan)
    (hfree : CollisionFree P (plan.hashed P))
    (hcover : assertSettledFundingCoverage plan creditedSats = .ok ())
    (hle : creditedSats ≤ plan.funding.grossFundingSats) :
    (∃ legs, allocatedLegs plan creditedSats = .ok legs ∧ ExactAllocation plan creditedSats legs) ∧
    ∃ weights divided,
      planWeights plan.commerceQuote plan.market plan.conduitFeePolicy = .ok weights ∧
      divideCredit plan creditedSats weights = .ok divided ∧
      ∀ n ∈ allocationNumbers plan creditedSats weights divided, 0 ≤ n ∧ IsSafeInteger n := by
  have hids := legIds_nodup_of_collisionFree h hfree
  obtain ⟨weights, hf⟩ := frozenPlan_of_restore h
  obtain ⟨expected, hr⟩ := restoredTerms h hf
  have ht := recipientTotals hf
  obtain ⟨divided, hdivided, hc⟩ := divideCredit_covers hf hr hcover hle
  obtain ⟨hd, horganizer, -⟩ := divideCredit_divides ht hdivided
  have hweights := hf.weights_eq
  rw [← market_eq hf] at hweights
  refine ⟨⟨plan.recipients.map fun r =>
    freshLeg plan r.legId (some (legAllocation plan weights divided r)), ?_, ?_, ?_⟩,
    weights, divided, hweights, hdivided, ?_⟩
  · simp only [allocatedLegs, hweights, hdivided, ok_bind]
    rw [mapResult_of_ok (g := fun r =>
      freshLeg plan r.legId (some (legAllocation plan weights divided r)))]
    intro r hmem
    rw [recipientAllocation_eq hids hmem]
    rfl
  · rw [forall₂_map_right_iff, forall₂_same]
    intro r hmem
    refine ⟨rfl, _, rfl, legAllocation_nonneg ht hf.positive hd hmem,
      weight_le_legAllocation hf hr ht hc hmem, ?_⟩
    intro market hm hk
    simp only [legAllocation, hk, Option.mem_def.1 hm, Option.map_some, Option.getD_some]
  · rw [map_map]
    exact sum_allocations ht hf.positive hdivided
  · intro n hn
    have hconduit : 0 ≤ weights.conduitWeightSats := by
      cases hm : plan.market <;> simp only [hm, planWeights] at hweights
      · exact (allocationWeights_eq hweights).2.2.1
      · exact (eventAllocationWeights_eq hweights).2.2.2.1
    have hn := allocationNumbers_le hf ht hc hd horganizer hconduit hle n hn
    have hsafe := hr.safe
    unfold IsSafeInteger at hsafe ⊢
    omega

/-- The allocation of the sample plan's full credit. -/
theorem allocatedLegs_exact_sample : (∃ legs, allocatedLegs Sample.plan 1023 = .ok legs ∧
      ExactAllocation Sample.plan 1023 legs) ∧
    ∃ weights divided,
      planWeights Sample.plan.commerceQuote Sample.plan.market Sample.plan.conduitFeePolicy =
        .ok weights ∧
      divideCredit Sample.plan 1023 weights = .ok divided ∧
      ∀ n ∈ allocationNumbers Sample.plan 1023 weights divided, 0 ≤ n ∧ IsSafeInteger n :=
  allocatedLegs_exact Sample.restore_plan
    (fun a ha b hb => inj_on_of_nodup_map
      (by decide +kernel : ((Sample.plan.hashed Sample.platform).map
        Sample.platform.digest).Nodup) ha hb)
    (by rfl) (by decide)

end

end Conduit.CheckoutSpark
