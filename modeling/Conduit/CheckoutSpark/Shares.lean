import Conduit.CheckoutSpark.PlanFacts
import Conduit.CheckoutSpark.Reconciliation
import Mathlib.Algebra.Order.BigOperators.Group.List
import Mathlib.Tactic.Ring

namespace Conduit.CheckoutSpark

open Js Throwing List

variable {weights : AllocationWeights} {plan : SettledPlan} {P : Platform} {total : Int}

lemma market_eq (hf : FrozenPlan P plan weights) : plan.market = plan.eventMarket := by
  unfold SettledPlan.market
  have hv := hf.version
  by_cases hm : plan.eventMarket = none
  · rw [hm, ite_self]
  · rw [if_pos hm] at hv
    rw [if_pos hv]

def isSharer (market : Option EventMarketBinding) (r : SettledRecipient) : Bool :=
  isCommerceRecipient market r && r.kind ≠ .merchant

lemma otherShare_eq {divided : SettledAllocation} (r : SettledRecipient) :
    plan.otherShare weights divided r = if isSharer plan.market r then
      some (r.legId, divided.commerceAllocationSats * r.weightSats / weights.commerceWeightSats)
    else none := by
  unfold SettledPlan.otherShare isSharer isCommerceRecipient
  cases hm : plan.market <;> cases hk : r.kind <;> simp

lemma sum_floor_le {c : Int} (hto : 0 < total) (ws : List Int) :
    (ws.map fun w => c * w / total).sum * total ≤ c * ws.sum := by
  induction ws with
  | nil => simp
  | cons w ws ih =>
    have hfloor : c * w / total * total ≤ c * w := Int.ediv_mul_le _ hto.ne'
    simp only [map_cons, sum_cons]
    rw [Int.add_mul, Int.mul_add]
    omega

structure RecipientTotals (plan : SettledPlan) (weights : AllocationWeights) : Prop where
  conduit : (ofKind .conduit plan.recipients).length = 1
  merchant : (ofKind .merchant plan.recipients).length =
    if plan.market ≠ none ∧ plan.commerceQuote.commerceTotalSats = 0 then 0 else 1
  organizer : ∀ market ∈ plan.market, (ofKind .organizer plan.recipients).length =
    if market.organizerFeeSats > 0 then 1 else 0
  commerce : ((plan.recipients.filter (isCommerceRecipient plan.market)).map
    (·.weightSats)).sum = weights.commerceWeightSats
  weight : weights.commerceWeightSats = plan.commerceQuote.commerceTotalSats
  nonneg : 0 ≤ weights.commerceWeightSats
  organizerWeight : weights.organizerWeightSats = (plan.market.map (·.organizerFeeSats)).getD 0
  positive : plan.market = none → 0 < weights.commerceWeightSats
  fee : ∀ market ∈ plan.market, 0 ≤ market.organizerFeeSats

lemma assertRecipients_ok {merchant : Text} {market : Option EventMarketBinding}
    {rs : List SettledRecipient} (h : assertRecipients merchant total market weights rs = .ok ()) :
    (ofKind .conduit rs).length = 1 ∧
      (ofKind .merchant rs).length = (if market ≠ none ∧ total = 0 then 0 else 1) ∧
      ((rs.filter (isCommerceRecipient market)).map (·.weightSats)).sum =
        weights.commerceWeightSats ∧
      ∀ m ∈ market, (ofKind .organizer rs).length = if m.organizerFeeSats > 0 then 1 else 0 := by
  simp only [assertRecipients, rejects_ok, not_or, not_not, ne_eq] at h
  obtain ⟨⟨hc, -, hm⟩, h⟩ := h
  have hone : (ofKind .conduit rs).length = 1 := by
    simpa using congrArg List.length hc
  refine ⟨hone, hm, ?_⟩
  -- The merchant's payout is checked or not; the rest of the checks is the same.
  split at h
  · obtain ⟨u, -, h⟩ := bind_ok.1 h
    rw [rejects_ok, not_not] at h
    refine ⟨h.1, ?_⟩
    rintro m rfl
    have ho := h.2
    simp only [reject_ok, not_or, not_not] at ho
    exact ho.1
  · rw [rejects_ok, not_not] at h
    refine ⟨h.1, ?_⟩
    rintro m rfl
    have ho := h.2
    simp only [reject_ok, not_or, not_not] at ho
    exact ho.1

lemma recipientTotals (hf : FrozenPlan P plan weights) : RecipientTotals plan weights := by
  have ha := hf.recipients
  have hwe := hf.weights_eq
  have hfee := hf.organizerFee
  rw [← market_eq hf] at ha hwe hfee
  obtain ⟨ho, hmer, hc, horg⟩ := assertRecipients_ok ha
  refine ⟨ho, hmer, horg, hc, ?_, ?_, ?_, ?_, fun m hm => (hfee m hm).1⟩ <;>
    cases hm : plan.market <;> simp only [hm, planWeights] at hwe ⊢
  · exact (allocationWeights_eq hwe).2.1
  · exact (eventAllocationWeights_eq hwe).2.2.1
  · obtain ⟨hp, heq, -⟩ := allocationWeights_eq hwe
    omega
  · obtain ⟨hp, -, heq, -⟩ := eventAllocationWeights_eq hwe
    omega
  · exact (allocationWeights_eq hwe).2.2.2
  · exact (eventAllocationWeights_eq hwe).2.2.2.2
  · obtain ⟨hp, heq, -⟩ := allocationWeights_eq hwe
    exact fun _ => by omega
  · simp

section
variable (plan : SettledPlan) (weights : AllocationWeights) (divided : SettledAllocation)

def sharedSats (r : SettledRecipient) : Int :=
  divided.commerceAllocationSats * r.weightSats / weights.commerceWeightSats

def sharersTotal : Int :=
  ((plan.recipients.filter (isSharer plan.market)).map (sharedSats weights divided)).sum

def legAllocation (r : SettledRecipient) : Int :=
  match r.kind with
  | .conduit => divided.conduitAllocationSats
  | .merchant => divided.commerceAllocationSats - sharersTotal plan weights divided
  | .organizer => (plan.market.map (·.organizerFeeSats)).getD (sharedSats weights divided r)
  | .supplier => sharedSats weights divided r

lemma shares_eq : plan.recipients.filterMap (plan.otherShare weights divided) =
    (plan.recipients.filter (isSharer plan.market)).map
      fun r => (r.legId, sharedSats weights divided r) := by
  rw [← filterMap_eq_map, ← filterMap_eq_filter, filterMap_filterMap]
  apply filterMap_congr
  intro r _
  rw [otherShare_eq]
  cases hs : isSharer plan.market r <;> simp [Option.guard, hs, sharedSats]

variable {plan} {r : SettledRecipient}

lemma find?_share (hi : (plan.recipients.map (·.legId)).Nodup) (hr : r ∈ plan.recipients)
    (hs : isSharer plan.market r = true) :
    (plan.recipients.filterMap (plan.otherShare weights divided)).reverse.find?
      (fun s => s.1 = r.legId) = some (r.legId, sharedSats weights divided r) := by
  rw [shares_eq]
  have hsub : (((plan.recipients.filter (isSharer plan.market)).map
      fun r => (r.legId, sharedSats weights divided r)).map Prod.fst).Nodup := by
    rw [map_map]
    exact ((filter_sublist.map _).nodup hi)
  rw [Keyed.find?_key_perm hsub (reverse_perm _), Keyed.find?_key_iff hsub]
  exact ⟨mem_map.2 ⟨r, mem_filter.2 ⟨hr, hs⟩, rfl⟩, rfl⟩

variable {weights divided}

lemma recipientAllocation_eq (hi : (plan.recipients.map (·.legId)).Nodup)
    (hr : r ∈ plan.recipients) :
    plan.recipientAllocation divided (plan.recipients.filterMap (plan.otherShare weights divided))
      r = .ok (legAllocation plan weights divided r) := by
  have hf := find?_share weights divided hi hr
  have hto : ((plan.recipients.filterMap (plan.otherShare weights divided)).map Prod.snd).sum =
      sharersTotal plan weights divided := by
    rw [shares_eq, map_map]
    rfl
  unfold SettledPlan.recipientAllocation legAllocation
  unfold isSharer isCommerceRecipient at hf
  cases hk : r.kind <;> cases hm : plan.market <;>
    simp only [hk, hm, hto, Option.map_none, Option.map_some, Option.getD_none, Option.getD_some]
  all_goals
    rw [hf (by simp [hk, hm])]
    rfl

lemma allocatedLegs_eq {plan : SettledPlan} {creditedSats : Int} {legs : List LegProgress}
    (hi : (plan.recipients.map (·.legId)).Nodup)
    (h : allocatedLegs plan creditedSats = .ok legs) : ∃ weights divided,
      planWeights plan.commerceQuote plan.market plan.conduitFeePolicy = .ok weights ∧
      divideCredit plan creditedSats weights = .ok divided ∧
      legs = plan.recipients.map fun r =>
        freshLeg plan r.legId (some (legAllocation plan weights divided r)) := by
  simp only [allocatedLegs, bind_ok] at h
  obtain ⟨weights, hw, divided, hd, hl⟩ := h
  refine ⟨weights, divided, hw, hd, ?_⟩
  rw [mapResult_of_ok (g := fun r =>
    freshLeg plan r.legId (some (legAllocation plan weights divided r)))] at hl
  · exact (Except.ok.inj hl).symm
  · intro r hr
    rw [recipientAllocation_eq hi hr]
    rfl

end

section
variable {P : Platform} {plan : SettledPlan} {weights : AllocationWeights}
  {divided : SettledAllocation} {creditedSats : Int}

section

variable (ht : RecipientTotals plan weights)
include ht

lemma divideCredit_divides (h : divideCredit plan creditedSats weights = .ok divided) :
    Divides creditedSats divided ∧
      divided.organizerAllocationSats = (plan.market.map (·.organizerFeeSats)).getD 0 ∧
      (weights.commerceWeightSats = 0 → divided.commerceAllocationSats = 0) := by
  have ho := ht.organizerWeight
  have hp := ht.positive
  unfold divideCredit at h
  cases hm : plan.market with
  | none =>
    simp only [hm] at h ho hp ⊢
    obtain ⟨hd, hz⟩ := allocateSettledSats_divides h
    exact ⟨hd, hz, fun hw => absurd (hp trivial) (by omega)⟩
  | some market =>
    simp only [hm] at h ho
    obtain ⟨hd, heq, hz⟩ := allocateEventSettledSats_divides h
    exact ⟨hd, heq.trans ho, hz⟩

section

variable (hw : ∀ r ∈ plan.recipients, 0 < r.weightSats)
include hw

lemma sharersWeight_le : ((plan.recipients.filter (isSharer plan.market)).map (·.weightSats)).sum ≤
      weights.commerceWeightSats := by
  rw [← ht.commerce]
  apply Sublist.sum_le_sum
  · apply Sublist.map
    apply monotone_filter_right
    intro r hr
    exact (Bool.and_eq_true _ _ ▸ hr).1
  · intro w hm
    obtain ⟨r, hr, rfl⟩ := mem_map.1 hm
    exact (hw r (mem_filter.1 hr).1).le

lemma sharersTotal_bounds (hc : 0 ≤ divided.commerceAllocationSats) :
    0 ≤ sharersTotal plan weights divided ∧
      sharersTotal plan weights divided ≤ divided.commerceAllocationSats := by
  have hle := sharersWeight_le ht hw
  have hm : ∀ r ∈ plan.recipients.filter (isSharer plan.market), 0 < r.weightSats :=
    fun r hr => hw r (mem_filter.1 hr).1
  unfold sharersTotal
  generalize plan.recipients.filter (isSharer plan.market) = sharers at hle hm ⊢
  constructor
  · apply sum_nonneg
    intro x hx
    obtain ⟨r, hr, rfl⟩ := mem_map.1 hx
    exact Int.ediv_nonneg (Int.mul_nonneg hc (hm r hr).le) ht.nonneg
  · rcases ht.nonneg.lt_or_eq with hp | hzero
    · have hf := sum_floor_le (c := divided.commerceAllocationSats) hp
        (sharers.map (·.weightSats))
      rw [map_map] at hf
      have hcap := mul_le_mul_of_nonneg_left hle hc
      exact le_of_mul_le_mul_right (hf.trans hcap) hp
    · cases sharers with
      | nil => exact hc
      | cons r rs =>
        have hr := hm r mem_cons_self
        have hrs : 0 ≤ (rs.map (·.weightSats)).sum := by
          apply sum_nonneg
          intro x hx
          obtain ⟨q, hq, rfl⟩ := mem_map.1 hx
          exact (hm q (mem_cons_of_mem r hq)).le
        simp only [map_cons, sum_cons] at hle
        omega

lemma legAllocation_nonneg (hd : Divides creditedSats divided) {r : SettledRecipient}
    (hr : r ∈ plan.recipients) : 0 ≤ legAllocation plan weights divided r := by
  have hsh : 0 ≤ sharedSats weights divided r :=
    Int.ediv_nonneg (Int.mul_nonneg hd.commerce (hw r hr).le) ht.nonneg
  have htotal := (sharersTotal_bounds ht hw hd.commerce).2
  have hf := ht.fee
  unfold legAllocation
  cases r.kind with
  | merchant => dsimp only; omega
  | supplier => exact hsh
  | conduit => exact hd.conduit
  | organizer =>
    cases hm : plan.market with
    | none => exact hsh
    | some market => exact hf market hm

end

end

lemma sum_legAllocation (rs : List SettledRecipient) :
    (rs.map (legAllocation plan weights divided)).sum =
      divided.conduitAllocationSats * (ofKind .conduit rs).length +
      (divided.commerceAllocationSats - sharersTotal plan weights divided) *
        (ofKind .merchant rs).length +
      (plan.market.map fun m => m.organizerFeeSats * ((ofKind .organizer rs).length : Int)).getD 0 +
      ((rs.filter (isSharer plan.market)).map (sharedSats weights divided)).sum := by
  induction rs with
  | nil => cases plan.market <;> simp [ofKind]
  | cons r rs ih =>
    rw [map_cons, sum_cons, ih]
    cases hm : plan.market <;> cases hk : r.kind <;>
      simp [ofKind, legAllocation, isSharer, isCommerceRecipient, hm, hk] <;> ring

lemma sum_allocations (ht : RecipientTotals plan weights)
    (hw : ∀ r ∈ plan.recipients, 0 < r.weightSats)
    (h : divideCredit plan creditedSats weights = .ok divided) :
    (plan.recipients.map (legAllocation plan weights divided)).sum = creditedSats := by
  obtain ⟨hd, ho, hzero⟩ := divideCredit_divides ht h
  have htotal := hd.total
  have hshar := sharersTotal_bounds ht hw hd.commerce
  have hf : (plan.market.map fun m => m.organizerFeeSats *
      ((ofKind .organizer plan.recipients).length : Int)).getD 0 =
        divided.organizerAllocationSats := by
    have hc := ht.organizer
    have hfee := ht.fee
    rw [ho]
    cases hm : plan.market with
    | none => rfl
    | some market =>
      simp only [Option.map_some, Option.getD_some, hc market hm]
      have := hfee market hm
      split <;> simp <;> omega
  rw [sum_legAllocation, ht.conduit, ht.merchant, hf]
  change _ + sharersTotal plan weights divided = _
  split_ifs with he
  · have hw0 : weights.commerceWeightSats = 0 := ht.weight.trans he.2
    omega
  · push_cast
    omega

lemma allocatedLegs_sum (hf : FrozenPlan P plan weights)
    (hi : (plan.recipients.map (·.legId)).Nodup) {legs : List LegProgress}
    (h : allocatedLegs plan creditedSats = .ok legs) : (∀ l ∈ legs, 0 ≤ l.allocationSats.getD 0) ∧
      (legs.map fun l => l.allocationSats.getD 0).sum = creditedSats := by
  obtain ⟨w, divided, hw, hd, rfl⟩ := allocatedLegs_eq hi h
  obtain rfl : weights = w := by
    have := hf.weights_eq
    rw [← market_eq hf, hw] at this
    exact (Except.ok.inj this).symm
  have ht := recipientTotals hf
  constructor
  · intro l hl
    obtain ⟨r, hr, rfl⟩ := mem_map.1 hl
    exact legAllocation_nonneg ht hf.positive (divideCredit_divides ht hd).1 hr
  · rw [map_map]
    exact sum_allocations ht hf.positive hd

end

end Conduit.CheckoutSpark
