import Conduit.CheckoutSpark.Operations
import Conduit.CheckoutSpark.Restored

namespace Conduit.CheckoutSpark

open Js Throwing List Keyed

structure Budgeted (state : SettledReconciliation) (budget : NativeTreasuryBudget)
    (credit : CreditEvidence) (fee : SettledRecipient) : Prop where
  credit_eq : state.credit = some credit
  fee_eq : state.plan.feeRecipient = some fee
  settled : ∀ leg ∈ state.legs, leg.legId ≠ fee.legId → leg.Settled
  authorized : budget.authorizedDebitSats = credit.creditedSats -
    debitSum (state.legs.filter fun leg => leg.legId ≠ fee.legId)

variable {state : SettledReconciliation} {P : Platform}

lemma budgeted {budget : NativeTreasuryBudget} (h : budgetFromExactState P state = .ok budget) :
    ∃ credit fee, Budgeted state budget credit fee := by
  simp only [budgetFromExactState, rejects_ok] at h
  obtain ⟨-, h⟩ := h
  split at h
  · cases h
  · rename_i credit hc
    simp only [bind_ok, requireSome_ok] at h
    obtain ⟨fee, hf, feeLeg, -, h⟩ := h
    split at h
    · cases h
    · simp only [rejects_ok, pure_ok, not_or, not_exists, not_and, not_not] at h
      obtain ⟨⟨-, hs⟩, -, rfl⟩ := h
      refine ⟨credit, fee, hc, hf, ?_, rfl⟩
      intro leg hl hne
      exact hs leg (mem_filter.2 ⟨hl, by simpa using hne⟩)

structure Finalizing (P : Platform) (state : SettledReconciliation)
    (t : NativeTreasuryFinalization) (intent : NativeTreasuryIntent) : Prop where
  intent_eq : t.intent = some intent
  budget_eq : budgetFromExactState P state = .ok intent.budget
  amount : intent.amountSats = intent.budget.authorizedDebitSats ∧ 0 < intent.amountSats
  status : t.status ≠ .unprepared
  paid : t.status = .paid → t.finalFeeSats = some 0 ∧ t.finalDebitSats = some intent.amountSats
  unpaid : t.status ≠ .paid → t.finalFeeSats = none ∧ t.finalDebitSats = none

lemma finalizing_or_created {t : NativeTreasuryFinalization}
    (h : restoreNativeTreasuryFinalization P (some t) state = .ok t) :
    t = createNativeTreasuryFinalization ∨ ∃ intent, Finalizing P state t intent := by
  unfold restoreNativeTreasuryFinalization at h
  rcases hi : t.intent with _ | intent
  · simp only [hi, rejects_ok, pure_ok] at h
    exact .inl h.2.symm
  · right
    simp only [hi, run_ok, not_or, not_not, not_le] at h
    obtain ⟨budget, hb, native, -, credit, -, ⟨-, -, hpos, ha, heq, -, -, -, hst, -⟩, h⟩ := h
    subst heq
    refine ⟨intent, hi, hb, ⟨ha, hpos⟩, hst, ?_, ?_⟩
    · intro hp
      rw [if_pos hp] at h
      simp only [rejects_ok, not_or, not_not] at h
      exact ⟨h.1.2.1, h.1.2.2⟩
    · intro hu
      rw [if_neg hu] at h
      simp only [rejects_ok, not_or, not_not] at h
      exact h.1

structure NativeLoaded (P : Platform) (c : SettledReconciliation) (fee : SettledRecipient)
    (leg : LegProgress) (t : NativeTreasuryFinalization) : Prop where
  fee_eq : c.plan.feeRecipient = some fee
  mem : leg ∈ c.legs
  legId : leg.legId = fee.legId
  treasury : c.treasuryFinalization = some t
  mirrors : Mirrors leg t
  restored : restoreNativeTreasuryFinalization P (some t) c = .ok t

section
variable {P : Platform} {plan : SettledPlan} {weights : AllocationWeights}

lemma exists_feeRecipient (hf : FrozenPlan P plan weights) :
    ∃ fee, plan.feeRecipient = some fee ∧ fee ∈ plan.recipients ∧ fee.kind = .conduit ∧
      ∀ r ∈ plan.recipients, r.kind = .conduit → r = fee := by
  have ho := (recipientTotals hf).conduit
  obtain ⟨fee, hfee⟩ := length_eq_one_iff.1 ho
  have hm : ∀ r, r ∈ plan.recipients ∧ r.kind = .conduit ↔ r = fee := by
    intro r
    have hr : r ∈ ofKind .conduit plan.recipients ↔ r ∈ [fee] := by rw [hfee]
    simpa [ofKind] using hr
  have hfi : plan.feeRecipient = some fee := by
    unfold SettledPlan.feeRecipient
    rw [← head?_filter]
    change (ofKind .conduit plan.recipients).head? = _
    rw [hfee]
    rfl
  obtain ⟨hin, hki⟩ := (hm fee).2 rfl
  exact ⟨fee, hfi, hin, hki, fun r hr hk => (hm r).1 ⟨hr, hk⟩⟩

lemma isNativeLeg_iff_fee (hf : FrozenPlan P plan weights)
    (hi : (plan.recipients.map (·.legId)).Nodup) {fee : SettledRecipient}
    (hfee : plan.feeRecipient = some fee) (legId : Text) :
    plan.IsNativeLeg legId ↔ plan.IsNativeTreasuryPlan ∧ legId = fee.legId := by
  obtain ⟨fee', hfee', hm, hki, hu⟩ := exists_feeRecipient hf
  obtain rfl : fee' = fee := Option.some.inj (hfee'.symm.trans hfee)
  constructor
  · rintro ⟨hn, hr⟩
    obtain ⟨r, hfi, hk⟩ := Option.map_eq_some_iff.1 hr
    obtain ⟨hm', hid⟩ := (find?_key_iff hi).1 hfi
    exact ⟨hn, by rw [← hu r hm' hk, hid]⟩
  · rintro ⟨hn, rfl⟩
    exact (isNativeLeg_iff hi hm).2 ⟨hn, hki⟩

end

section
variable {P : Platform} {s c : SettledReconciliation}

lemma Restores.frozen (h : Restores P s c) : ∃ weights, FrozenPlan P c.plan weights :=
  frozenPlan_of_restore h.plan

lemma Restores.ids (h : Restores P s c) (hi : (c.plan.recipients.map (·.legId)).Nodup) :
    (c.legs.map (·.legId)) = c.plan.recipients.map fun r => r.legId :=
  let ⟨_, hl⟩ := h.loaded hi
  hl.ids

lemma Restores.native (h : Restores P s c) (hi : (c.plan.recipients.map (·.legId)).Nodup)
    (hn : c.plan.IsNativeTreasuryPlan) : ∃ fee leg t, NativeLoaded P c fee leg t := by
  obtain ⟨weights, hf⟩ := h.frozen
  obtain ⟨fee, hfee, -⟩ := exists_feeRecipient hf
  have hv : c.schemaVersion = 5 ∨ c.schemaVersion = 6 := by
    rw [h.same.1]
    exact hn.imp h.ordinary.1 h.event.1
  have ht := h.treasury
  unfold restoreTreasury at ht
  rw [if_pos hv] at ht
  simp only [bind_ok, requireSome_ok, exists_reject, pure_ok, not_not] at ht
  obtain ⟨t, hr, leg, hl, hm, hs⟩ := ht
  have hmem := mem_of_find?_eq_some hl
  have hnat : c.plan.IsNativeLeg leg.legId := ⟨hn, by simpa using find?_some hl⟩
  have hrec := restoreNativeTreasuryFinalization_eq hr
  rw [hrec] at hr
  exact ⟨fee, leg, t, hfee, hmem, ((isNativeLeg_iff_fee hf hi hfee _).1 hnat).2, hs.symm, hm, hr⟩

end

structure Funded (s : SettledReconciliation) : Prop where
  nodup : (s.legs.map (·.legId)).Nodup
  fee : s.plan.IsNativeTreasuryPlan → ∃ l ∈ s.legs, s.plan.IsNativeLeg l.legId
  unique : ∀ l ∈ s.legs, ∀ l' ∈ s.legs, s.plan.IsNativeLeg l.legId →
    s.plan.IsNativeLeg l'.legId → l = l'
  unpaid : ∀ l ∈ s.legs, l.status ≠ .paid → l.finalDebitSats = none
  paid : ∀ l ∈ s.legs, l.status = .paid → ¬ s.plan.IsNativeLeg l.legId →
    ∃ debit ∈ l.finalDebitSats, ∃ allocation ∈ l.allocationSats, debit ≤ allocation
  debit : ∀ l ∈ s.legs, 0 ≤ l.finalDebitSats.getD 0
  native : ∀ l ∈ s.legs, l.status = .paid → s.plan.IsNativeLeg l.legId →
    ∃ credit ∈ s.credit, l.finalDebitSats = some (credit.creditedSats -
      debitSum (s.legs.filter fun l' => l'.legId ≠ l.legId))
  last : ∀ l ∈ s.legs, l.status = .paid → s.plan.IsNativeLeg l.legId →
    ∀ l' ∈ s.legs, l'.status = .paid
  nonneg : ∀ l ∈ s.legs, 0 ≤ l.allocationSats.getD 0
  total : ∀ credit ∈ s.credit,
    (s.legs.map fun l => l.allocationSats.getD 0).sum = credit.creditedSats
  uncredited : s.credit = none → ∀ l ∈ s.legs, l.status ≠ .paid ∧ l.allocationSats = none

section
variable {P : Platform} {s c : SettledReconciliation} {base : List LegProgress}
  {l : LegProgress}

lemma LoadedLegs.mem (h : LoadedLegs P s c base) (hl : l ∈ c.legs) :
    ∃ row, LoadedLeg P s.schemaVersion c.plan c.credit.isSome row l := by
  obtain ⟨i, hi, rfl⟩ := getElem_of_mem hl
  have hr := h.rows
  have hlen := hr.length_eq
  exact ⟨_, (forall₂_iff_get.1 hr).2 i (hlen ▸ hi) hi⟩

lemma LoadedLegs.allocation (h : LoadedLegs P s c base) :
    (∀ l ∈ c.legs, 0 ≤ l.allocationSats.getD 0) ∧
      (∀ credit ∈ c.credit,
        (c.legs.map fun l => l.allocationSats.getD 0).sum = credit.creditedSats) ∧
      (c.credit = none → ∀ l ∈ c.legs, l.allocationSats = none) := by
  have hm : ∀ l ∈ c.legs, ∃ b ∈ base, b.allocationSats = l.allocationSats := by
    intro l hl
    have := mem_map_of_mem (f := fun l : LegProgress => l.allocationSats) hl
    rw [h.allocations] at this
    exact mem_map.1 this
  refine ⟨?_, ?_, ?_⟩
  · intro l hl
    obtain ⟨b, hb, heq⟩ := hm l hl
    rw [← heq]
    exact h.fresh.nonneg b hb
  · intro credit hc
    have hs := h.fresh.total credit hc
    have hmap := congrArg (fun as => (as.map fun a : Option Int => a.getD 0).sum) h.allocations
    simp only [map_map] at hmap
    exact hmap.trans hs
  · intro hn l hl
    obtain ⟨b, hb, heq⟩ := hm l hl
    rw [← heq]
    exact h.fresh.uncredited hn b hb

lemma Restores.nativeLeg (h : Restores P s c)
    (hi : (c.plan.recipients.map (·.legId)).Nodup) (hl : l ∈ c.legs)
    (hn : c.plan.IsNativeLeg l.legId) : ∃ t, c.treasuryFinalization = some t ∧ Mirrors l t ∧
      (t = createNativeTreasuryFinalization ∨ ∃ intent, Finalizing P c t intent ∧
        ∃ credit, c.credit = some credit ∧
          (∀ l' ∈ c.legs, l'.legId ≠ l.legId → l'.Settled) ∧
          intent.amountSats = credit.creditedSats -
            debitSum (c.legs.filter fun l' => l'.legId ≠ l.legId)) := by
  obtain ⟨weights, hf⟩ := h.frozen
  obtain ⟨fee, leg, t, hnat⟩ := h.native hi hn.1
  have hfee := ((isNativeLeg_iff_fee hf hi hnat.fee_eq _).1 hn).2
  have hnd : (c.legs.map (·.legId)).Nodup := h.ids hi ▸ hi
  obtain rfl : l = leg :=
    eq_of_key_eq hnd hl hnat.mem (hfee.trans hnat.legId.symm)
  refine ⟨t, hnat.treasury, hnat.mirrors, ?_⟩
  refine (finalizing_or_created hnat.restored).imp_right ?_
  rintro ⟨intent, hfin⟩
  obtain ⟨credit, fee', hb⟩ := budgeted hfin.budget_eq
  obtain rfl : fee = fee' := Option.some.inj (hnat.fee_eq.symm.trans hb.fee_eq)
  rw [hfee]
  exact ⟨intent, hfin, credit, hb.credit_eq, hb.settled, hfin.amount.1.trans hb.authorized⟩

lemma Restores.funded (h : Restores P s c)
    (hi : (c.plan.recipients.map (·.legId)).Nodup) : Funded c := by
  obtain ⟨weights, hf⟩ := h.frozen
  obtain ⟨base, hl⟩ := h.loaded hi
  obtain ⟨hnon, ht, hunc⟩ := hl.allocation
  have hnd : (c.legs.map (·.legId)).Nodup := hl.ids ▸ hi
  obtain ⟨fee, hfee, hme, -⟩ := exists_feeRecipient hf
  have hiff := isNativeLeg_iff_fee hf hi hfee
  have huniq : ∀ l ∈ c.legs, ∀ l' ∈ c.legs, c.plan.IsNativeLeg l.legId →
      c.plan.IsNativeLeg l'.legId → l = l' := by
    intro l hl l' hl' hn hn'
    exact eq_of_key_eq hnd hl hl'
      (((hiff _).1 hn).2.trans ((hiff _).1 hn').2.symm)
  have ho : ∀ l ∈ c.legs, ¬ c.plan.IsNativeLeg l.legId → EmptyLeg l ∨
      ∃ intent alloc, l.intent = some intent ∧ c.credit.isSome = true ∧
        l.allocationSats = some alloc ∧ l.status ≠ .unprepared ∧
        l.ReceiptValid intent alloc ∧ ∃ t ∈ l.observedAt, intent.preparedAt ≤ t := by
    intro l hm hn
    obtain ⟨row, hrow⟩ := hl.mem hm
    exact hrow.receipt hn
  have hnat := fun l hm hn => h.nativeLeg hi (l := l) hm hn
  refine ⟨hnd, ?_, huniq, ?_, ?_, ?_, ?_, ?_, hnon, ht, ?_⟩
  · intro hn
    have hin : fee.legId ∈ c.legs.map fun l => l.legId := by
      rw [hl.ids]
      exact mem_map_of_mem hme
    obtain ⟨l, hlmem, hid⟩ := mem_map.1 hin
    exact ⟨l, hlmem, (hiff _).2 ⟨hn, hid⟩⟩
  · intro l hm hunp
    by_cases hn : c.plan.IsNativeLeg l.legId
    · obtain ⟨t, -, ⟨hst, -, -, hd⟩, rfl | ⟨intent, hfin, -⟩⟩ := hnat l hm hn
      · exact hd
      · rw [hd]
        exact (hfin.unpaid (hst ▸ hunp)).2
    · obtain he | ⟨intent, alloc, -, -, -, -, hr, -⟩ := ho l hm hn
      · exact he.finalDebitSats
      · unfold LegProgress.ReceiptValid at hr
        rw [if_neg hunp] at hr
        exact hr.2
  · intro l hm hp hn
    obtain he | ⟨intent, alloc, -, -, ha, -, hr, -⟩ := ho l hm hn
    · rw [he.status] at hp
      cases hp
    · unfold LegProgress.ReceiptValid at hr
      rw [if_pos hp] at hr
      obtain ⟨fee, -, debit, hd, -, -, -, hle⟩ := hr
      exact ⟨debit, hd, alloc, ha, hle⟩
  · intro l hm
    by_cases hn : c.plan.IsNativeLeg l.legId
    · obtain ⟨t, -, ⟨hst, -, -, hd⟩, rfl | ⟨intent, hfin, -⟩⟩ := hnat l hm hn
      · rw [hd]
        exact le_refl 0
      · rw [hd]
        by_cases hp : t.status = .paid
        · rw [(hfin.paid hp).2]
          exact hfin.amount.2.le
        · rw [(hfin.unpaid hp).2]
          exact le_refl 0
    · obtain he | ⟨intent, alloc, -, -, -, -, hr, -⟩ := ho l hm hn
      · rw [he.finalDebitSats]
        exact le_refl 0
      · unfold LegProgress.ReceiptValid at hr
        split at hr
        · obtain ⟨fee, -, debit, hd, -, hpos, -⟩ := hr
          rw [Option.mem_def.1 hd]
          exact hpos.2.le
        · rw [hr.2]
          exact le_refl 0
  · intro l hm hp hn
    obtain ⟨t, -, ⟨hst, -, -, hd⟩, rfl | ⟨intent, hfin, credit, hc, -, hamt⟩⟩ :=
      hnat l hm hn
    · rw [hst] at hp
      cases hp
    · refine ⟨credit, hc, ?_⟩
      rw [hd, (hfin.paid (hst ▸ hp)).2, hamt]
  · intro l hm hp hn l' hm'
    obtain ⟨t, -, ⟨hst, -⟩, rfl | ⟨intent, -, credit, -, hset, -⟩⟩ := hnat l hm hn
    · rw [hst] at hp
      cases hp
    · by_cases hid : l'.legId = l.legId
      · rw [eq_of_key_eq hnd hm' hm hid]
        exact hp
      · exact (hset l' hm' hid).1
  · intro hno l hm
    refine ⟨?_, hunc hno l hm⟩
    by_cases hn : c.plan.IsNativeLeg l.legId
    · obtain ⟨t, -, ⟨hst, -⟩, rfl | ⟨intent, -, credit, hc, -⟩⟩ := hnat l hm hn
      · rw [hst]
        decide
      · rw [hno] at hc
        cases hc
    · obtain he | ⟨intent, alloc, -, hcrd, -⟩ := ho l hm hn
      · rw [he.status]
        decide
      · rw [hno] at hcrd
        cases hcrd

end

def paidDebitSats (legs : List LegProgress) : Int :=
  debitSum (legs.filter fun l => l.status = .paid)

/-- Payouts stay below their allocations, all below the credit, and a completed collection leaves
nothing. -/
structure WithinCredit (s : SettledReconciliation) : Prop where
  allocation : ∀ l ∈ s.legs, ¬ s.plan.IsNativeLeg l.legId →
    ∀ debit ∈ l.finalDebitSats, ∃ allocation ∈ l.allocationSats, debit ≤ allocation
  credit : paidDebitSats s.legs ≤ (s.credit.map (·.creditedSats)).getD 0
  exhausted : s.plan.IsNativeTreasuryPlan → (∀ l ∈ s.legs, l.status = .paid) →
    s.credit.map (·.creditedSats) = some (paidDebitSats s.legs)

section
variable {s : SettledReconciliation}

lemma Funded.paidDebitSats_eq (h : Funded s) : paidDebitSats s.legs = debitSum s.legs := by
  have hu := h.unpaid
  unfold paidDebitSats debitSum
  generalize s.legs = legs at hu
  induction legs with
  | nil => rfl
  | cons l legs ih =>
    have hr := ih fun l' hl' => hu l' (mem_cons_of_mem l hl')
    by_cases hp : l.status = .paid
    · rw [filter_cons_of_pos (by simpa using hp), map_cons, map_cons,
        sum_cons, sum_cons, hr]
    · rw [filter_cons_of_neg (by simpa using hp), map_cons, sum_cons, hr,
        hu l mem_cons_self hp]
      simp

lemma Funded.debitSum_eq (h : Funded s) {l : LegProgress} (hl : l ∈ s.legs)
    (hp : l.status = .paid) (hn : s.plan.IsNativeLeg l.legId) :
    ∃ credit ∈ s.credit, debitSum s.legs = credit.creditedSats := by
  obtain ⟨credit, hc, hd⟩ := h.native l hl hp hn
  refine ⟨credit, hc, ?_⟩
  have hs := sum_eq_add_filter h.nodup hl fun l => l.finalDebitSats.getD 0
  unfold debitSum at hd ⊢
  rw [hs, hd]
  simp

lemma Funded.debitSum_le (h : Funded s)
    (hn : ∀ l ∈ s.legs, l.status = .paid → ¬ s.plan.IsNativeLeg l.legId) :
    debitSum s.legs ≤ (s.credit.map (·.creditedSats)).getD 0 := by
  have hle : debitSum s.legs ≤ (s.legs.map fun l => l.allocationSats.getD 0).sum := by
    apply sum_le_sum
    intro l hl
    by_cases hp : l.status = .paid
    · obtain ⟨debit, hd, a, ha, hle⟩ := h.paid l hl hp (hn l hl hp)
      rw [Option.mem_def.1 hd, Option.mem_def.1 ha]
      exact hle
    · rw [h.unpaid l hl hp]
      exact h.nonneg l hl
  cases hc : s.credit with
  | some credit => exact hle.trans (h.total credit hc).le
  | none =>
    apply hle.trans (le_of_eq _)
    apply sum_eq_zero
    intro a ha
    obtain ⟨l, hl, rfl⟩ := mem_map.1 ha
    rw [(h.uncredited hc l hl).2]
    rfl

lemma Funded.withinCredit (h : Funded s) : WithinCredit s := by
  have hp := h.paidDebitSats_eq
  refine ⟨?_, ?_, ?_⟩
  · intro l hl hn debit hde
    have hst : l.status = .paid := by
      by_contra hne
      rw [h.unpaid l hl hne] at hde
      cases hde
    obtain ⟨d, hd, a, ha, hle⟩ := h.paid l hl hst hn
    obtain rfl : d = debit := Option.mem_unique hd hde
    exact ⟨a, ha, hle⟩
  · rw [hp]
    by_cases hex : ∃ l ∈ s.legs, l.status = .paid ∧ s.plan.IsNativeLeg l.legId
    · obtain ⟨l, hl, hst, hn⟩ := hex
      obtain ⟨credit, hc, hs⟩ := h.debitSum_eq hl hst hn
      rw [Option.mem_def.1 hc]
      exact hs.le
    · apply h.debitSum_le
      intro l hl hst hn
      exact hex ⟨l, hl, hst, hn⟩
  · intro hpl hall
    obtain ⟨l, hl, hn⟩ := h.fee hpl
    obtain ⟨credit, hc, hs⟩ := h.debitSum_eq hl (hall l hl) hn
    rw [Option.mem_def.1 hc, hp, hs]
    rfl

end

end Conduit.CheckoutSpark
