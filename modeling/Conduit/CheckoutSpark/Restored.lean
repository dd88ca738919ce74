import Conduit.CheckoutSpark.Shares

namespace Conduit.CheckoutSpark

open Js Throwing List

/-- What one load of `s` as `c` has established. -/
structure Restores (P : Platform) (s c : SettledReconciliation) : Prop where
  version : s.schemaVersion = 3 ∨ s.schemaVersion = 4 ∨ s.schemaVersion = 5 ∨ s.schemaVersion = 6
  plan : restoreSettledPlan P s.plan = .ok c.plan
  ordinary : c.plan.schemaVersion = 4 ↔ s.schemaVersion = 5
  event : c.plan.schemaVersion = 5 ↔ s.schemaVersion = 6
  updatedAt : NonnegativeSafe s.updatedAt ∧ c.plan.createdAt ≤ s.updatedAt
  length : s.legs.length = c.plan.recipients.length
  credit : optionResult (normalizeCredit c.plan) s.credit = .ok c.credit
  legs : ∃ baseline, baselineLegs P c.plan c.credit = .ok baseline ∧
    mapResult (restoreSettledLeg P s.schemaVersion c.plan c.credit.isSome)
      (legRows c.plan.recipients baseline s.legs) = .ok c.legs
  renewed : s.schemaVersion = 4 → ∃ leg ∈ c.legs, leg.generationNumber = 1
  debits : assertCumulativeDebit c.plan ((c.credit.map (·.creditedSats)).getD 0) c.legs = .ok ()
  observed : latestObservation c.plan c.credit c.legs ≤ s.updatedAt
  treasury : restoreTreasury P c = .ok c.treasuryFinalization
  same : c.schemaVersion = s.schemaVersion ∧ c.updatedAt = s.updatedAt ∧
    c.treasuryFinalization = s.treasuryFinalization

variable {P : Platform} {plan : SettledPlan} {v : Nat} {allocation : Option Int} {legId : Text}
  {state : SettledReconciliation}

lemma restoreNativeTreasuryFinalization_eq {value : Option NativeTreasuryFinalization}
    {t : NativeTreasuryFinalization} (h : restoreNativeTreasuryFinalization P value state = .ok t) :
    value = some t := by
  unfold restoreNativeTreasuryFinalization at h
  split at h
  · cases h
  · split at h
    · simp only [run_ok, ne_eq, not_not] at h
      rw [h.1, h.2]
    · simp only [run_ok] at h
      obtain ⟨-, -, -, -, -, -, -, h⟩ := h
      split at h <;>
        · simp only [run_ok] at h
          rw [h.2]

lemma restoreTreasury_eq {t : Option NativeTreasuryFinalization}
    (h : restoreTreasury P state = .ok t) (hn : state.schemaVersion ≠ 5 → state.schemaVersion ≠ 6 →
      state.treasuryFinalization = none) : t = state.treasuryFinalization := by
  unfold restoreTreasury at h
  split at h
  · simp only [run_ok] at h
    obtain ⟨value, hv, -, -, -, rfl⟩ := h
    exact (restoreNativeTreasuryFinalization_eq hv).symm
  · rename_i hver
    cases h
    exact (hn (fun h5 => hver (.inl h5)) fun h6 => hver (.inr h6)).symm

lemma restore_ok_iff {s c : SettledReconciliation} :
    restoreSettledReconciliation P s = .ok c ↔ Restores P s c := by
  constructor
  · intro h
    simp only [restoreSettledReconciliation, run_ok, not_or, not_and, not_not, not_lt, ne_eq] at h
    obtain ⟨hver, plan, hp, ⟨ho, hev, hn⟩, t, ht, ⟨hm, hlen⟩, credit,
      hc, baseline, hb, legs, hl, hr, u, hd, hobs, treasury,
      htrs, rfl⟩ := h
    obtain ⟨rfl, hti⟩ := time_ok_iff.1 ht
    obtain rfl := restoreTreasury_eq htrs hn
    refine ⟨?_, hp, ho, hev, ⟨hti, hm⟩, hlen, hc,
      ⟨baseline, hb, hl⟩, hr, hd, hobs, htrs, rfl, rfl, rfl⟩
    by_contra hne
    rw [not_or, not_or, not_or] at hne
    exact hne.2.2.2 (hver hne.1 hne.2.1 hne.2.2.1)
  · rintro ⟨hver, hp, ho, hev, ⟨hti, hm⟩, hlen, hc,
      ⟨baseline, hb, hl⟩, hr, hd, hobs, htrs, heq⟩
    obtain ⟨schemaVersion, treasury, plan, credit, legs, updatedAt⟩ := c
    obtain ⟨hv, ht, hu⟩ := heq
    subst hv ht hu
    simp only [restoreSettledReconciliation, run_ok, not_or, not_and, not_not, not_lt, ne_eq]
    refine ⟨?_, plan, hp, ⟨ho, hev, ?_⟩, _, time_ok_iff.2 ⟨rfl, hti⟩,
      ⟨hm, hlen⟩, credit, hc, baseline, hb, legs, hl, hr, (),
      hd, hobs, _, htrs, rfl⟩
    · intro h3 h4 h5
      rcases hver with h | h | h | h
      exacts [absurd h h3, absurd h h4, absurd h h5, h]
    · intro h5 h6
      have := htrs
      unfold restoreTreasury at this
      rw [if_neg (by tauto)] at this
      exact (Except.ok.inj this).symm

lemma legRows_getElem? (rs : List SettledRecipient) (bs ls : List LegProgress) (i : Nat) :
    (legRows rs bs ls)[i]? = do
      let r ← rs[i]?
      let b ← bs[i]?
      let l ← ls[i]?
      return { recipient := r, baseline := b, leg := l } := by
  induction rs, bs, ls using legRows.induct generalizing i with
  | case1 r rs b bs l ls ih =>
    cases i with
    | zero => rfl
    | succ i => simpa [legRows] using ih i
  | case2 rs bs ls hne =>
    rw [legRows]
    · rcases rs with _ | ⟨r, rs⟩
      · rfl
      · rcases bs with _ | ⟨b, bs⟩
        · cases (r :: rs)[i]? <;> rfl
        · rcases ls with _ | ⟨l, ls⟩
          · cases (r :: rs)[i]? <;> cases (b :: bs)[i]? <;> rfl
          · exact absurd rfl (hne r rs b bs l ls rfl rfl)
    · exact hne

section
variable {rs : List SettledRecipient} {bs ls : List LegProgress}

lemma legRows_map (hb : bs.length = rs.length) (hl : ls.length = rs.length) :
    (legRows rs bs ls).map LegRow.recipient = rs ∧ (legRows rs bs ls).map LegRow.baseline = bs ∧
      (legRows rs bs ls).map LegRow.leg = ls := by
  induction rs, bs, ls using legRows.induct with
  | case1 r rs b bs l ls ih =>
    simp only [length_cons, Nat.add_right_cancel_iff] at hb hl
    obtain ⟨h₁, h₂, h₃⟩ := ih hb hl
    simp only [legRows, map_cons, h₁, h₂, h₃, and_self]
  | case2 rs bs ls hne =>
    rcases rs with _ | ⟨r, rs⟩
    · simp only [length_nil, length_eq_zero_iff] at hb hl
      simp [legRows, hb, hl]
    · rcases bs with _ | ⟨b, bs⟩
      · simp at hb
      · rcases ls with _ | ⟨l, ls⟩
        · simp at hl
        · exact absurd rfl (hne r rs b bs l ls rfl rfl)

end

structure PreparedLeg (P : Platform) (plan : SettledPlan) (baseline leg : LegProgress)
    (recorded intent : LegIntent) (closed : List ClosedGeneration) (allocation : Int) : Prop where
  allocated : baseline.allocationSats = some allocation
  normalized : normalizeIntent P plan baseline.legId baseline.allocationSats recorded
    leg.generationNumber = .ok intent
  archived : restoreClosedGenerations P plan baseline leg intent = .ok closed
  status : leg.status ≠ .unprepared
  observed : ∃ observedAt ∈ leg.observedAt, IsSafeInteger observedAt ∧ intent.preparedAt ≤ observedAt
  receipt : leg.ReceiptValid intent allocation

def preparedLeg (schemaVersion : Nat) (leg : LegProgress) (intent : LegIntent)
    (closed : List ClosedGeneration) : LegProgress :=
  { leg with
    intent := some intent
    generation := if schemaVersion = 3 then leg.generation else some leg.generationNumber
    closedGenerations := if schemaVersion = 3 then leg.closedGenerations else some closed }

variable {credited : Bool} {l : LegProgress}

lemma restorePreparedLeg_ok_iff {baseline leg : LegProgress} {recorded : LegIntent} :
    restorePreparedLeg P v plan credited baseline leg recorded = .ok l ↔
      credited = true ∧ ∃ intent closed allocation,
        PreparedLeg P plan baseline leg recorded intent closed allocation ∧
          l = preparedLeg v leg intent closed := by
  unfold restorePreparedLeg
  cases ha : baseline.allocationSats with
  | none =>
    simp only [reduceCtorEq, false_iff, not_and, not_exists]
    rintro - intent closed allocation ⟨h, -⟩
    rw [ha] at h
    cases h
  | some allocation =>
    simp only [run_ok, not_or, not_not, Bool.not_eq_false]
    constructor
    · rintro ⟨hc, intent, hi, closed, hcls, ⟨hst, ho⟩, hr, rfl⟩
      exact ⟨hc, intent, closed, allocation, ⟨ha, ha ▸ hi, hcls, hst, ho, hr⟩, rfl⟩
    · rintro ⟨hc, intent, closed, allocation', ⟨ha', hi, hcls, hst, ho,
        hr⟩, rfl⟩
      obtain rfl : allocation = allocation' := Option.some.inj (ha.symm.trans ha')
      exact ⟨hc, intent, ha ▸ hi, closed, hcls, ⟨hst, ho⟩, hr, rfl⟩

structure EmptyLeg (leg : LegProgress) : Prop where
  intent : leg.intent = none
  status : leg.status = .unprepared
  observedAt : leg.observedAt = none
  finalFeeSats : leg.finalFeeSats = none
  finalDebitSats : leg.finalDebitSats = none
  generation : leg.generationNumber = 0

/-- The leg that a load returns for one without an intent. -/
def emptiedLeg (schemaVersion : Nat) (baseline : LegProgress) : LegProgress :=
  if schemaVersion ≠ 3 then
    { baseline with generation := some 0, closedGenerations := some [] }
  else baseline

lemma freshLeg_closed : (freshLeg plan legId allocation).closed = [] := by
  unfold freshLeg LegProgress.closed
  split <;> rfl

lemma emptiedLeg_closed : (emptiedLeg v (freshLeg plan legId allocation)).closed = [] := by
  unfold emptiedLeg
  split
  · rfl
  · exact freshLeg_closed

lemma emptiedLeg_empty : EmptyLeg (emptiedLeg v (freshLeg plan legId allocation)) := by
  unfold emptiedLeg freshLeg
  refine ⟨?_, ?_, ?_, ?_, ?_, ?_⟩ <;> split <;> try rfl
  split <;> rfl

inductive RestoredAs (P : Platform) (schemaVersion : Nat) (plan : SettledPlan) (credited : Bool)
    (row : LegRow) : LegProgress → Prop
  | native (hnative : plan.IsNativeTreasuryPlan ∧ row.recipient.kind = .conduit)
      (hintent : row.leg.intent = none) (hgeneration : row.leg.generationNumber = 0)
      (hclosed : row.leg.closed = []) :
      RestoredAs P schemaVersion plan credited row
        { row.leg with generation := some 0, closedGenerations := some [] }
  | empty (hnative : ¬ (plan.IsNativeTreasuryPlan ∧ row.recipient.kind = .conduit))
      (hempty : EmptyLeg row.leg) :
      RestoredAs P schemaVersion plan credited row (emptiedLeg schemaVersion row.baseline)
  | prepared (hnative : ¬ (plan.IsNativeTreasuryPlan ∧ row.recipient.kind = .conduit))
      {recorded intent : LegIntent} {closed : List ClosedGeneration} {allocation : Int}
      (hintent : row.leg.intent = some recorded) (hcredited : credited = true)
      (hprepared : PreparedLeg P plan row.baseline row.leg recorded intent closed allocation) :
      RestoredAs P schemaVersion plan credited row
        (preparedLeg schemaVersion row.leg intent closed)

lemma restoreSettledLeg_ok_iff {row : LegRow} : restoreSettledLeg P v plan credited row = .ok l ↔
      row.leg.GenerationValid v ∧ row.leg.legId = row.baseline.legId ∧
        row.leg.allocationSats = row.baseline.allocationSats ∧
        RestoredAs P v plan credited row l := by
  simp only [restoreSettledLeg, rejects_ok, not_not, not_or, ne_eq]
  refine and_congr_right fun _ => ?_
  rw [and_assoc]
  refine and_congr_right fun _ => and_congr_right fun _ => ?_
  by_cases hn : plan.IsNativeTreasuryPlan ∧ row.recipient.kind = .conduit
  · rw [if_pos hn, rejects_ok, pure_ok]
    simp only [not_or, not_not]
    constructor
    · rintro ⟨⟨hi, hg, hc⟩, rfl⟩
      exact .native hn hi hg hc
    · rintro (⟨-, hi, hg, hc⟩ | ⟨hne, -⟩ | ⟨hne, -, -, -⟩)
      · exact ⟨⟨hi, hg, hc⟩, rfl⟩
      · exact absurd hn hne
      · exact absurd hn hne
  · rw [if_neg hn]
    cases hi : row.leg.intent with
    | none =>
      simp only [rejects_ok, pure_ok, not_or, not_not]
      constructor
      · rintro ⟨⟨hst, ho, hf, hd⟩, hg, rfl⟩
        exact .empty hn ⟨hi, hst, ho, hf, hd, hg⟩
      · rintro (⟨hne, -, -, -⟩ | ⟨-, he⟩ | ⟨-, hs, -, -⟩)
        · exact absurd hne hn
        · exact ⟨⟨he.status, he.observedAt, he.finalFeeSats, he.finalDebitSats⟩,
            he.generation, rfl⟩
        · rw [hi] at hs
          cases hs
    | some recorded =>
      rw [restorePreparedLeg_ok_iff]
      constructor
      · rintro ⟨hcrd, intent, closed, allocation, hp, rfl⟩
        exact .prepared hn hi hcrd hp
      · rintro (⟨hne, -, -, -⟩ | ⟨-, he⟩ | ⟨-, hs, hcrd, hp⟩)
        · exact absurd hne hn
        · rw [he.intent] at hi
          cases hi
        · rw [hi] at hs
          cases hs
          exact ⟨hcrd, _, _, _, hp, rfl⟩

section
variable {P : Platform} {v : Nat} {plan : SettledPlan} {credited : Bool} {row : LegRow}
  {l : LegProgress}

lemma RestoredAs.baseline (h : RestoredAs P v plan credited row l)
    (hid : row.leg.legId = row.baseline.legId)
    (ha : row.leg.allocationSats = row.baseline.allocationSats) :
    l.legId = row.baseline.legId ∧ l.allocationSats = row.baseline.allocationSats := by
  cases h with
  | native => exact ⟨hid, ha⟩
  | empty => unfold emptiedLeg; split <;> exact ⟨rfl, rfl⟩
  | prepared => exact ⟨hid, ha⟩

end

structure Baseline (plan : SettledPlan) (credit : Option CreditEvidence)
    (baseline : List LegProgress) : Prop where
  ids : baseline.map (·.legId) = plan.recipients.map (·.legId)
  fresh : ∀ b ∈ baseline, b = freshLeg plan b.legId b.allocationSats
  uncredited : credit = none → ∀ b ∈ baseline, b.allocationSats = none
  nonneg : ∀ b ∈ baseline, 0 ≤ b.allocationSats.getD 0
  total : ∀ e ∈ credit, (baseline.map fun b => b.allocationSats.getD 0).sum = e.creditedSats

lemma restoreSettledPlan_legIds {p plan : SettledPlan} (h : restoreSettledPlan P p = .ok plan) :
    plan.recipients.map (·.legId) = p.recipients.map fun r => r.legId := by
  simp only [restoreSettledPlan, run_ok, not_or, not_not] at h
  obtain ⟨-, canonical, -, ⟨-, hi⟩, rfl⟩ := h
  have := congrArg (map Prod.snd) hi
  rw [map_map, map_map] at this
  exact this.symm

lemma freshLeg_congr {plan plan' : SettledPlan} (h : plan.schemaVersion = plan'.schemaVersion)
    (legId : Text) (a : Option Int) : freshLeg plan legId a = freshLeg plan' legId a := by
  have hn : plan.IsNativeTreasuryPlan ↔ plan'.IsNativeTreasuryPlan := by
    simp only [SettledPlan.IsNativeTreasuryPlan, h]
  simp only [freshLeg, hn]

lemma baseline_of_ok {p plan : SettledPlan} {credit : Option CreditEvidence}
    {baseline : List LegProgress} (hp : restoreSettledPlan P p = .ok plan)
    (hi : (plan.recipients.map (·.legId)).Nodup)
    (h : baselineLegs P plan credit = .ok baseline) : Baseline plan credit baseline := by
  obtain ⟨weights, hf⟩ := frozenPlan_of_restore hp
  simp only [baselineLegs, bind_ok] at h
  obtain ⟨created, hm, h⟩ := h
  cases credit with
  | none =>
    simp only [createSettledReconciliation, run_ok] at hm
    obtain ⟨canon, hc, rfl⟩ := hm
    cases h
    have hv := (restoreSettledPlan_version hc).1
    refine ⟨?_, ?_, fun _ => ?_, ?_, by simp⟩
    · rw [map_map]
      exact restoreSettledPlan_legIds hc
    · intro b hb
      obtain ⟨r, -, rfl⟩ := mem_map.1 hb
      exact freshLeg_congr hv _ _
    · intro b hb
      obtain ⟨r, -, rfl⟩ := mem_map.1 hb
      rfl
    · intro b hb
      obtain ⟨r, -, rfl⟩ := mem_map.1 hb
      exact le_refl 0
  | some e =>
    obtain ⟨hn, hs⟩ := allocatedLegs_sum hf hi h
    obtain ⟨w, divided, -, -, rfl⟩ := allocatedLegs_eq hi h
    refine ⟨?_, ?_, by simp, hn, ?_⟩
    · rw [map_map]
      rfl
    · intro b hb
      obtain ⟨r, -, rfl⟩ := mem_map.1 hb
      rfl
    · rintro e' ⟨⟩
      exact hs

structure LoadedLeg (P : Platform) (schemaVersion : Nat) (plan : SettledPlan) (credited : Bool)
    (row : LegRow) (l : LegProgress) : Prop where
  generation : row.leg.GenerationValid schemaVersion
  legId : row.leg.legId = l.legId
  allocation : row.leg.allocationSats = l.allocationSats
  fresh : row.baseline = freshLeg plan l.legId l.allocationSats
  native : plan.IsNativeLeg l.legId ↔ plan.IsNativeTreasuryPlan ∧ row.recipient.kind = .conduit
  restored : RestoredAs P schemaVersion plan credited row l

structure LoadedLegs (P : Platform) (s c : SettledReconciliation) (baseline : List LegProgress) :
    Prop where
  ok : baselineLegs P c.plan c.credit = .ok baseline
  fresh : Baseline c.plan c.credit baseline
  legs : (legRows c.plan.recipients baseline s.legs).map LegRow.leg = s.legs
  rows : List.Forall₂ (LoadedLeg P s.schemaVersion c.plan c.credit.isSome)
    (legRows c.plan.recipients baseline s.legs) c.legs
  ids : c.legs.map (·.legId) = c.plan.recipients.map (·.legId)
  allocations : c.legs.map (·.allocationSats) = baseline.map (·.allocationSats)

lemma isNativeLeg_iff (hi : (plan.recipients.map (·.legId)).Nodup) {r : SettledRecipient}
    (hr : r ∈ plan.recipients) :
    plan.IsNativeLeg r.legId ↔ plan.IsNativeTreasuryPlan ∧ r.kind = .conduit := by
  have hf : plan.recipient r.legId = some r := (Keyed.find?_key_iff hi).2 ⟨hr, rfl⟩
  unfold SettledPlan.IsNativeLeg
  rw [hf]
  simp

section
variable {P : Platform} {s c : SettledReconciliation}

lemma Restores.loaded (h : Restores P s c) (hi : (c.plan.recipients.map (·.legId)).Nodup) :
    ∃ baseline, LoadedLegs P s c baseline := by
  obtain ⟨baseline, hba, hle⟩ := h.legs
  have hb := baseline_of_ok h.plan hi hba
  have hlen : baseline.length = c.plan.recipients.length := by
    simpa using congrArg List.length hb.ids
  obtain ⟨hrc, hbas, hleg⟩ := legRows_map hlen h.length
  have hc : ∀ row l, restoreSettledLeg P s.schemaVersion c.plan c.credit.isSome row = .ok l →
      l.legId = row.baseline.legId ∧ l.allocationSats = row.baseline.allocationSats := by
    intro row l hl
    obtain ⟨-, hid, ha, has⟩ := restoreSettledLeg_ok_iff.1 hl
    exact has.baseline hid ha
  have hro : ∀ row ∈ legRows c.plan.recipients baseline s.legs,
      row.recipient ∈ c.plan.recipients ∧ row.baseline ∈ baseline ∧
        row.baseline.legId = row.recipient.legId := by
    intro row hrow
    refine ⟨?_, ?_, ?_⟩
    · rw [← hrc]
      exact mem_map_of_mem hrow
    · have := mem_map_of_mem (f := LegRow.baseline) hrow
      rwa [hbas] at this
    · have heq := hb.ids
      rw [← hrc] at heq
      conv_lhs at heq => rw [← hbas]
      rw [map_map, map_map] at heq
      exact map_inj_left.1 heq row hrow
  refine ⟨baseline, hba, hb, hleg, ?_, ?_, ?_⟩
  · refine ((forall₂_and_left _ _).2 ⟨hro, mapResult_ok_iff.1 hle⟩).imp ?_
    rintro row l ⟨⟨hr, hm, hid'⟩, hl⟩
    obtain ⟨hg, hid, ha, has⟩ := restoreSettledLeg_ok_iff.1 hl
    obtain ⟨hlid, hla⟩ := has.baseline hid ha
    refine ⟨hg, hid.trans hlid.symm, ha.trans hla.symm, ?_, ?_, has⟩
    · rw [hlid, hla]
      exact hb.fresh _ hm
    · rw [hlid, hid']
      exact isNativeLeg_iff hi hr
  · rw [mapResult_map (fun row l hl => (hc row l hl).1) hle, ← hb.ids]
    conv_rhs => rw [← hbas]
    rw [map_map]
    rfl
  · rw [mapResult_map (fun row l hl => (hc row l hl).2) hle]
    conv_rhs => rw [← hbas]
    rw [map_map]
    rfl

lemma LoadedLegs.forall₂ {baseline : List LegProgress} (h : LoadedLegs P s c baseline) :
    Forall₂ (fun l l' => ∃ row, row.leg = l ∧
      LoadedLeg P s.schemaVersion c.plan c.credit.isSome row l') s.legs c.legs := by
  conv => arg 2; rw [← h.legs]
  rw [forall₂_map_left_iff]
  exact h.rows.imp fun row l hl => ⟨row, rfl, hl⟩

end

section
variable {P : Platform} {v : Nat} {plan : SettledPlan} {credited : Bool} {row : LegRow}
  {l : LegProgress}

lemma LoadedLeg.of_native (h : LoadedLeg P v plan credited row l)
    (hn : plan.IsNativeLeg l.legId) : l.intent = none ∧ l.closed = [] := by
  have hnat := h.native.1 hn
  cases h.restored with
  | native _ hi _ hcls => exact ⟨hi, rfl⟩
  | empty hne => exact absurd hnat hne
  | prepared hne => exact absurd hnat hne

variable {baseline : LegProgress} {intent : LegIntent}

lemma restoreClosedGeneration_ok {entry entry' : ClosedGeneration}
    (h : restoreClosedGeneration P plan baseline intent entry = .ok entry') :
    entry'.closure = entry.closure ∧ entry'.closure.netDebitSats = 0 := by
  simp only [restoreClosedGeneration, run_ok] at h
  obtain ⟨-, old, -, closure, hc, -, rfl⟩ := h
  obtain ⟨rfl, hn⟩ := restoreSettledReturnClosure_eq hc
  exact ⟨rfl, hn⟩

lemma PreparedLeg.closed_net {leg : LegProgress} {recorded : LegIntent}
    {closed : List ClosedGeneration} {allocation : Int}
    (h : PreparedLeg P plan baseline leg recorded intent closed allocation) :
    ∀ entry ∈ closed, entry.closure.netDebitSats = 0 := by
  have hc := h.archived
  unfold restoreClosedGenerations at hc
  split at hc
  · intro entry he
    obtain ⟨old, -, hold⟩ := mem_of_mapResult hc he
    exact (restoreClosedGeneration_ok hold).2
  · cases hc
    simp

lemma LoadedLeg.closed_net (h : LoadedLeg P v plan credited row l) :
    ∀ entry ∈ l.closed, entry.closure.netDebitSats = 0 := by
  have hg := h.generation
  cases h.restored with
  | native _ _ _ hcls => simp [LegProgress.closed]
  | empty _ hemp =>
    rw [h.fresh, emptiedLeg_closed]
    simp
  | prepared _ _ _ hp =>
    intro entry he
    unfold preparedLeg LegProgress.closed at he
    split at he
    · rename_i hv
      unfold LegProgress.GenerationValid at hg
      rw [if_pos hv] at hg
      rw [hg.2] at he
      cases he
    · exact hp.closed_net entry he

lemma LoadedLeg.receipt (h : LoadedLeg P v plan credited row l) (hn : ¬ plan.IsNativeLeg l.legId) :
    EmptyLeg l ∨ ∃ intent allocation, l.intent = some intent ∧ credited = true ∧
      l.allocationSats = some allocation ∧ l.status ≠ .unprepared ∧
      l.ReceiptValid intent allocation ∧ (∃ t ∈ l.observedAt, intent.preparedAt ≤ t) := by
  have hnat := mt h.native.2 hn
  have hf := h.fresh
  cases h.restored with
  | native hy => exact absurd hy hnat
  | empty _ hemp =>
    left
    rw [hf]
    exact emptiedLeg_empty
  | prepared _ hitt hc hp =>
    right
    obtain ⟨t, ht, -, hle⟩ := hp.observed
    have ha := hp.allocated
    rw [hf] at ha
    exact ⟨_, _, rfl, hc, ha, hp.status, hp.receipt, t, ht, hle⟩

end

end Conduit.CheckoutSpark
