import Conduit.CheckoutSpark.Receipts

namespace Conduit.CheckoutSpark

open Js Throwing Runs List LegProgress Keyed

/-- A load of the state gives the state back. -/
def Restorable (P : Platform) (s : SettledReconciliation) : Prop :=
  restoreSettledReconciliation P s = .ok s

/-- Stores no request that a load rewrites, and rewrites no counted receipt. -/
def SettledOp.KeepsRestorable (s : SettledReconciliation) : SettledOp → Prop
  | .prepare input => AcceptedRequest input.paymentRequest
  | .status evidence =>
    ¬ (OverwritesReceipt s evidence ∧ ∃ t ∈ s.treasuryFinalization, t.intent ≠ none)
  | _ => True

lemma restoreLegs_iff {f : LegRow → Result LegProgress} {rs : List SettledRecipient}
    {bs ls out : List LegProgress} (hb : bs.length = rs.length) (hl : ls.length = rs.length) :
    mapResult f (legRows rs bs ls) = .ok out ↔ rs.length = out.length ∧
      ∀ (i : Nat) (r : SettledRecipient) (b l l' : LegProgress), rs[i]? = some r → bs[i]? = some b →
        ls[i]? = some l → out[i]? = some l' →
        f { recipient := r, baseline := b, leg := l } = .ok l' := by
  have hlen : (legRows rs bs ls).length = rs.length := by
    have := congrArg List.length (legRows_map hb hl).1
    simpa using this
  rw [mapResult_eq_ok_getElem?, hlen]
  refine and_congr_right fun _ => ?_
  constructor
  · intro h i r b l l' hr hb hl hl'
    refine h i _ l' ?_ hl'
    rw [legRows_getElem?, hr, hb, hl]
    rfl
  · intro h i row l' hrow hl'
    rw [legRows_getElem?] at hrow
    simp only [run_gives] at hrow
    obtain ⟨r, hr, b, hb, l, hl, rfl⟩ := hrow
    exact h i r b l l' hr hb hl hl'

section
variable {P : Platform} {s t c x : SettledReconciliation}
  {plan : SettledPlan} {v : Nat} {leg : LegProgress} {closed : List ClosedGeneration}
  {intent : LegIntent} {row : LegRow} {allocation : Option Int} {legId : Text}

lemma generationValid_of {v g : Nat} (hv : v ≠ 3) (hg : g = 0 ∨ g = 1)
    (hge : leg.generation = some g) (hc : leg.closedGenerations = some closed)
    (hl : closed.length = g) : leg.GenerationValid v := by
  unfold GenerationValid
  rw [if_neg hv]
  exact ⟨g, hge, closed, hc, hg, hl⟩

variable {baseline : LegProgress} {legs : List LegProgress} {evidence : CreditEvidence} {b : Int}

lemma restoreClosedGeneration_idem {entry entry' : ClosedGeneration}
    (h : restoreClosedGeneration P plan baseline intent entry = .ok entry')
    (hc : IsCanonicalRequest entry'.intent.paymentRequest) :
    restoreClosedGeneration P plan baseline intent entry' = .ok entry' := by
  simp only [restoreClosedGeneration, run_ok] at h
  obtain ⟨hst, old, hold, closure, hcl, hp, rfl⟩ := h
  obtain ⟨rfl, -⟩ := restoreSettledReturnClosure_eq hcl
  simp only [restoreClosedGeneration, normalizeIntent_idem hold hc, hcl,
    reject_of_not hst, reject_of_not hp, ok_bind]
  rfl

def LegProgress.Canonical (leg : LegProgress) : Prop :=
  (∀ intent ∈ leg.intent, IsCanonicalRequest intent.paymentRequest) ∧
    ∀ entry ∈ leg.closed, IsCanonicalRequest entry.intent.paymentRequest

lemma preparedLeg_generationNumber :
    (preparedLeg v leg intent closed).generationNumber = leg.generationNumber := by
  unfold preparedLeg generationNumber
  split <;> rfl

lemma preparedLeg_idem : preparedLeg v (preparedLeg v leg intent closed) intent closed =
      preparedLeg v leg intent closed := by
  unfold preparedLeg
  split <;> rfl

section

variable {leg : LegProgress} (hgen : leg.GenerationValid v)
include hgen

lemma restoreClosedGenerations_cases
    (h : restoreClosedGenerations P plan baseline leg intent = .ok closed) :
    leg.generationNumber = 0 ∧ closed = [] ∨ v ≠ 3 ∧ leg.generationNumber = 1 ∧
      closed.length = 1 ∧
      mapResult (restoreClosedGeneration P plan baseline intent) leg.closed = .ok closed := by
  unfold GenerationValid at hgen
  unfold restoreClosedGenerations at h
  split at hgen
  · have hz : leg.generationNumber = 0 := by simp [generationNumber, hgen.1]
    rw [if_neg (by omega)] at h
    cases h
    exact .inl ⟨hz, rfl⟩
  · rename_i hv
    obtain ⟨g, hg, archived, ha, hz | ho, hl⟩ := hgen
    · have hn : leg.generationNumber = 0 := by
        simp [generationNumber, Option.mem_def.1 hg, hz]
      rw [if_neg (by omega)] at h
      cases h
      exact .inl ⟨hn, rfl⟩
    · have hn : leg.generationNumber = 1 := by
        simp [generationNumber, Option.mem_def.1 hg, ho]
      rw [if_pos hn] at h
      refine .inr ⟨hv, hn, ?_, h⟩
      rw [mapResult_length h]
      simp [LegProgress.closed, Option.mem_def.1 ha, hl, ho]

section

variable {recorded intent : LegIntent} {allocation : Int}
  (h : PreparedLeg P plan baseline leg recorded intent closed allocation)
include h

lemma PreparedLeg.idem (hc : (preparedLeg v leg intent closed).Canonical) :
    PreparedLeg P plan baseline (preparedLeg v leg intent closed) intent intent closed
      allocation := by
  refine ⟨h.allocated, ?_, ?_, h.status, h.observed, h.receipt⟩
  · rw [preparedLeg_generationNumber]
    exact normalizeIntent_idem h.normalized (hc.1 intent rfl)
  · unfold restoreClosedGenerations
    rw [preparedLeg_generationNumber]
    obtain ⟨hzero, rfl⟩ | ⟨hv, ho, -, hm⟩ := restoreClosedGenerations_cases hgen h.archived
    · rw [if_neg (by omega)]
    · have hcls : (preparedLeg v leg intent closed).closed = closed := by
        simp [preparedLeg, LegProgress.closed, hv]
      rw [if_pos ho, hcls]
      refine mapResult_self_iff.2 fun entry he => ?_
      obtain ⟨old, -, hold⟩ := mem_of_mapResult hm he
      exact restoreClosedGeneration_idem hold (hc.2 entry (hcls.symm ▸ he))

lemma PreparedLeg.generationValid : (preparedLeg v leg intent closed).GenerationValid v := by
  by_cases hv : v = 3
  · unfold GenerationValid at hgen ⊢
    rw [if_pos hv] at hgen ⊢
    simp only [preparedLeg, if_pos hv]
    exact hgen
  · obtain ⟨hz, rfl⟩ | ⟨-, ho, hl, -⟩ := restoreClosedGenerations_cases hgen h.archived
    · exact generationValid_of hv (.inl rfl) (by simp [preparedLeg, hv, hz])
        (if_neg hv) rfl
    · exact generationValid_of hv (.inr rfl) (by simp [preparedLeg, hv, ho])
        (if_neg hv) hl

end

end

lemma emptiedLeg_generationValid (hver : plan.IsNativeTreasuryPlan → v ≠ 3) :
    (emptiedLeg v (freshLeg plan legId allocation)).GenerationValid v := by
  unfold emptiedLeg
  by_cases hv : v = 3
  · have hnat : ¬ plan.IsNativeTreasuryPlan := fun hn => hver hn hv
    rw [if_neg (not_not.2 hv)]
    unfold GenerationValid
    rw [if_pos hv]
    simp [freshLeg, hnat]
  · rw [if_pos hv]
    exact generationValid_of hv (.inl rfl) rfl rfl rfl

lemma restoreSettledLeg_idem {credited : Bool} (hv : plan.IsNativeTreasuryPlan → v ≠ 3)
    (hf : row.baseline = freshLeg plan legId allocation)
    (h : restoreSettledLeg P v plan credited row = .ok leg) (hc : leg.Canonical) :
    restoreSettledLeg P v plan credited { row with leg := leg } = .ok leg := by
  rw [restoreSettledLeg_ok_iff] at h ⊢
  obtain ⟨hgen, hid, ha, has⟩ := h
  obtain ⟨hl, hla⟩ := has.baseline hid ha
  have he : EmptyLeg (emptiedLeg v row.baseline) := hf ▸ emptiedLeg_empty
  have hval : (emptiedLeg v row.baseline).GenerationValid v :=
    hf ▸ emptiedLeg_generationValid hv
  cases has with
  | native hn hi hgeneration hcls =>
    refine ⟨generationValid_of (hv hn.1) (.inl rfl) rfl rfl rfl, hl, hla, ?_⟩
    refine .native ?_ ?_ rfl rfl
    · exact hn
    · exact hi
  | empty hn _ =>
    refine ⟨hval, hl, hla, ?_⟩
    refine .empty ?_ he
    exact hn
  | @prepared hn recorded intent closed amount hi hcrd hpr =>
    refine ⟨hpr.generationValid hgen, hl, hla, ?_⟩
    have hidem : RestoredAs P v plan credited
        { row with leg := preparedLeg v row.leg intent closed }
        (preparedLeg v (preparedLeg v row.leg intent closed) intent closed) := by
      have hp := hpr.idem hgen hc
      refine .prepared ?_ rfl hcrd hp
      exact hn
    rwa [preparedLeg_idem] at hidem

lemma normalizeCredit_eq {credit : CreditEvidence} (h : normalizeCredit plan evidence = .ok credit)
    : credit = evidence := by
  simp only [normalizeCredit, run_ok, not_or, not_not] at h
  obtain ⟨id, hid, hash, hh, transfer, ht, receiver, -, ⟨-, -, hg, -⟩, amount,
    ha, -, at_, hat, -, rfl⟩ := h
  obtain rfl := text_eq hid
  obtain rfl := hex_eq hh
  obtain rfl := text_eq ht
  obtain rfl := sats_eq ha
  obtain rfl := time_eq hat
  rw [← hg]

lemma Restores.version_ne (h : Restores P s c) (hn : c.plan.IsNativeTreasuryPlan) :
    s.schemaVersion ≠ 3 := by
  have := hn.imp h.ordinary.1 h.event.1
  omega

lemma Restores.idem (h : Restores P x t) (hids : (t.plan.recipients.map (·.legId)).Nodup)
    (hp : restoreSettledPlan P t.plan = .ok t.plan) (hc : ∀ leg ∈ t.legs, leg.Canonical) :
    Restores P t t := by
  obtain ⟨hv, hu, -⟩ := h.same
  obtain ⟨baseline, hbas, hlegs⟩ := h.legs
  have hb := baseline_of_ok h.plan hids hbas
  have hlen : baseline.length = t.plan.recipients.length := by
    simpa using congrArg List.length hb.ids
  obtain ⟨hle, hro⟩ := (restoreLegs_iff hlen h.length).1 hlegs
  refine ⟨hv ▸ h.version, hp, hv ▸ h.ordinary, hv ▸ h.event, hu ▸ h.updatedAt, hle.symm,
    ?_, ⟨baseline, hbas, ?_⟩, hv ▸ h.renewed, h.debits, hu ▸ h.observed, h.treasury,
    rfl, rfl, rfl⟩
  · have hcr := h.credit
    have heq := optionResult_eq_self (fun _ _ => normalizeCredit_eq) hcr
    rwa [← heq] at hcr
  · rw [hv, restoreLegs_iff hlen hle.symm]
    refine ⟨hle, fun i r b l l' hr hb' hl hl' => ?_⟩
    obtain rfl : l = l' := Option.some.inj (hl.symm.trans hl')
    have hi : i < x.legs.length := by
      rw [h.length]
      exact (List.getElem?_eq_some_iff.1 hr).1
    have hrow := hro i r b x.legs[i] l hr hb' (List.getElem?_eq_getElem hi) hl
    exact restoreSettledLeg_idem h.version_ne (hb.fresh b (mem_of_getElem? hb')) hrow
      (hc l (mem_of_getElem? hl))

lemma LoadedLeg.canonical_closed {credited : Bool} (h : LoadedLeg P v plan credited row leg)
    (hx : ∀ entry ∈ row.leg.closed, AcceptedRequest entry.intent.paymentRequest) :
    ∀ entry ∈ leg.closed, IsCanonicalRequest entry.intent.paymentRequest := by
  have hgen := h.generation
  have hf := h.fresh
  cases h.restored with
  | native => simp [LegProgress.closed]
  | empty =>
    rw [hf, emptiedLeg_closed]
    simp
  | @prepared _ recorded intent closed _ _ _ hp =>
    intro entry he
    obtain ⟨-, rfl⟩ | ⟨hv, -, -, hm⟩ := restoreClosedGenerations_cases hgen hp.archived
    · unfold preparedLeg LegProgress.closed at he
      split at he
      · rename_i hv
        unfold GenerationValid at hgen
        rw [if_pos hv] at hgen
        rw [hgen.2] at he
        cases he
      · cases he
    · have hc : (preparedLeg v row.leg intent closed).closed = closed := by
        simp [preparedLeg, LegProgress.closed, hv]
      rw [hc] at he
      obtain ⟨old, hold, hok⟩ := mem_of_mapResult hm he
      simp only [restoreClosedGeneration, run_ok] at hok
      obtain ⟨-, oldIntent, hi, closure, -, -, rfl⟩ := hok
      rw [(normalizeIntent_eq hi).1]
      exact hx old hold

def ArchiveAccepted (s : SettledReconciliation) : Prop :=
  ∀ leg ∈ s.legs, ∀ entry ∈ leg.closed, AcceptedRequest entry.intent.paymentRequest

lemma Restores.canonicalLegs (h : Restores P x t)
    (hids : (x.plan.recipients.map (·.legId)).Nodup) (hx : RequestsAccepted x)
    (ha : ArchiveAccepted x) : ∀ leg ∈ t.legs, leg.Canonical := by
  intro leg hleg
  refine ⟨h.canonical hids hx leg hleg, ?_⟩
  obtain ⟨baseline, hl⟩ := h.loaded (restoreSettledPlan_legIds h.plan ▸ hids)
  obtain ⟨i, hi, rfl⟩ := getElem_of_mem hleg
  have hlen := hl.forall₂.length_eq
  obtain ⟨leg', row, hleg', hr, hlo⟩ :=
    hl.getElem? (getElem?_eq_getElem (l := x.legs) (hlen ▸ hi))
  obtain rfl : t.legs[i] = leg' := Option.some.inj ((getElem?_eq_getElem hi).symm.trans hleg')
  apply hlo.canonical_closed
  rw [hr]
  exact ha _ (getElem_mem _)

lemma Restores.unique (h : Restores P s s) (hc : Restores P s c) : c = s :=
  Except.ok.inj ((restore_ok_iff.2 hc).symm.trans (restore_ok_iff.2 h))

/-- A restorable state with distinct legs. -/
structure Reloads (P : Platform) (s : SettledReconciliation) : Prop where
  requested : Requested s
  archive : ArchiveAccepted s
  restores : Restores P s s

lemma Reloads.funded (h : Reloads P s) : Funded s := h.restores.funded h.requested.ids

lemma Reloads.of_restores (hs : Reloads P s) (hx : Requested x) (ha : ArchiveAccepted x)
    (hpl : x.plan = s.plan) (h : Restores P x t) : Reloads P t := by
  have hp : t.plan = s.plan := by
    have hl := h.plan
    rw [hpl, hs.restores.plan] at hl
    exact (Except.ok.inj hl).symm
  have hc := h.canonicalLegs hx.ids hx.accepted ha
  refine ⟨h.requested hx.ids hx.accepted, ?_, h.idem ?_ ?_ hc⟩
  · intro leg hleg entry he
    exact acceptedRequest_of_canonical ((hc leg hleg).2 entry he)
  · rw [hp]
    exact hs.requested.ids
  · rw [hp]
    exact hs.restores.plan

lemma Reloads.renew (hs : Reloads P s) {input : RenewInput}
    (h : renewSettledLeg P s input = .ok t) : Reloads P t := by
  obtain ⟨c, leg, legIntent, intent, closure, hc, hr, ht⟩ := renewSettledLeg_cases h
  obtain rfl := hs.restores.unique hc
  have hx := (advances_renewed hc hs.requested hr).1
  refine hs.of_restores hx ?_ rfl ht
  have hnd : (c.legs.map (·.legId)).Nodup := hc.ids hx.ids ▸ hx.ids
  have hleg := (find?_key_iff hnd).1 hr.leg_eq
  intro l hl entry he
  obtain ⟨item, hi, rfl⟩ := mem_map.1 hl
  split at he
  · obtain rfl : entry = archivedGeneration leg legIntent closure := by
      simpa [renewedLeg, LegProgress.closed] using he
    exact hs.requested.accepted leg hleg.1 legIntent hr.intent_eq
  · exact hs.archive item hi entry he

lemma Reloads.mirrored (hs : Reloads P s) {fee : SettledRecipient}
    {previous treasury : NativeTreasuryFinalization} (hf : s.plan.feeRecipient = some fee)
    (hp : s.treasuryFinalization = some previous)
    (hk : previous.status = .paid → treasury.status = .paid ∧
      treasury.finalFeeSats = previous.finalFeeSats ∧
      treasury.finalDebitSats = previous.finalDebitSats)
    (h : Restores P (mirroredState s fee treasury) t) : Reloads P t := by
  have hx := (advances_mirrored hs.restores hs.requested hf hp hk).1
  refine hs.of_restores hx ?_ rfl h
  intro l hl entry he
  obtain ⟨item, hi, rfl⟩ := mem_map.1 hl
  split at he <;> exact hs.archive item hi entry he

lemma foldl_max_le {l : List Int} {a : Int} : l.foldl max a ≤ b ↔ a ≤ b ∧ ∀ x ∈ l, x ≤ b := by
  induction l generalizing a with
  | nil => simp
  | cons x l ih =>
    rw [foldl_cons, ih, max_le_iff, forall_mem_cons, and_assoc]

lemma latestObservation_le {credit : CreditEvidence} :
    latestObservation plan (some credit) legs ≤ b ↔
      plan.createdAt ≤ b ∧ credit.observedAt ≤ b ∧
        ∀ l ∈ legs, l.observedAt.getD plan.createdAt ≤ b := by
  rw [latestObservation, foldl_max_le, max_le_iff, forall_mem_map, and_assoc]
  rfl

lemma credit_safe {credit : CreditEvidence} (h : normalizeCredit plan evidence = .ok credit) :
    PositiveSats credit.creditedSats ∧ NonnegativeSafe credit.observedAt := by
  simp only [normalizeCredit, run_ok] at h
  obtain ⟨id, -, hash, -, transfer, -, receiver, -, -, amount, ha, -, at_, hat, -, rfl⟩ := h
  obtain ⟨rfl, hsa, hpos, hne⟩ := sats_ok_iff.1 ha
  obtain ⟨rfl, ht⟩ := time_ok_iff.1 hat
  have := hne rfl
  refine ⟨⟨hsa, ?_⟩, ht⟩
  dsimp only
  omega

lemma Funded.assertCumulativeDebit (hf : Funded s) {credit : CreditEvidence}
    (hc : s.credit = some credit) (hsa : PositiveSats credit.creditedSats)
    (hcls : ∀ l ∈ s.legs, ∀ entry ∈ l.closed, entry.closure.netDebitSats = 0) :
    assertCumulativeDebit s.plan credit.creditedSats s.legs = .ok () := by
  have hcum : ∀ l ∈ s.legs, l.cumulativeDebitSats = l.finalDebitSats.getD 0 := by
    intro l hl
    have hz : (l.closed.map (·.closure.netDebitSats)).sum = 0 := by
      apply sum_eq_zero
      intro d hd
      obtain ⟨entry, he, rfl⟩ := mem_map.1 hd
      exact hcls l hl entry he
    unfold cumulativeDebitSats
    rw [hz, zero_add]
  have hsum : (s.legs.map cumulativeDebitSats).sum = debitSum s.legs :=
    congrArg sum (map_congr_left hcum)
  have hle : debitSum s.legs ≤ credit.creditedSats := by
    have := hf.withinCredit.credit
    rwa [hf.paidDebitSats_eq, hc] at this
  have hnon : 0 ≤ debitSum s.legs := by
    apply sum_nonneg
    intro d hd
    obtain ⟨l, hl, rfl⟩ := mem_map.1 hd
    exact hf.debit l hl
  have hbd : ∀ l ∈ s.legs, l.finalDebitSats.getD 0 ≤ debitSum s.legs := by
    intro l hl
    apply single_le_sum
    · intro d hd
      obtain ⟨l', hl', rfl⟩ := mem_map.1 hd
      exact hf.debit l' hl'
    · exact mem_map_of_mem hl
  obtain ⟨⟨-, hmax⟩, -⟩ := hsa
  simp only [CheckoutSpark.assertCumulativeDebit, rejects_ok, reject_ok, hsum, not_exists,
    not_and, not_or, not_not, not_lt]
  refine ⟨fun l hl => ?_, ⟨?_, ?_⟩, hle⟩
  · have hd := hbd l hl
    have h0 := hf.debit l hl
    rw [hcum l hl]
    refine ⟨⟨by omega, by omega⟩, fun hn => ?_⟩
    by_cases hp : l.status = .paid
    · obtain ⟨debit, hde, a, ha, hda⟩ := hf.paid l hl hp hn
      rw [Option.mem_def.1 hde, Option.mem_def.1 ha]
      exact hda
    · rw [hf.unpaid l hl hp]
      exact hf.nonneg l hl
  · omega
  · omega

lemma assertCumulativeDebit_zero {credited : Int} (hz : ∀ l ∈ legs, l.cumulativeDebitSats = 0)
    (hn : ∀ l ∈ legs, 0 ≤ l.allocationSats.getD 0) (hc : 0 ≤ credited) :
    assertCumulativeDebit plan credited legs = .ok () := by
  have hsum : (legs.map cumulativeDebitSats).sum = 0 := by
    apply sum_eq_zero
    intro d hd
    obtain ⟨l, hl, rfl⟩ := mem_map.1 hd
    exact hz l hl
  simp only [assertCumulativeDebit, rejects_ok, reject_ok, hsum, not_exists, not_and,
    not_or, not_not, not_lt]
  refine ⟨fun l hl => ?_, by decide, hc⟩
  rw [hz l hl]
  exact ⟨by decide, fun _ => hn l hl⟩

lemma restoreTreasury_created (hv : s.schemaVersion = 5 ∨ s.schemaVersion = 6)
    (ht : s.treasuryFinalization = some createNativeTreasuryFinalization)
    (hl : s.plan.nativeLeg s.legs = some leg)
    (hmir : Mirrors leg createNativeTreasuryFinalization) :
    restoreTreasury P s = .ok s.treasuryFinalization := by
  have hm : restoreNativeTreasuryFinalization P s.treasuryFinalization s =
      .ok createNativeTreasuryFinalization := by
    rw [ht]
    exact rejects_ok.2 ⟨fun hne => hne rfl, rfl⟩
  unfold restoreTreasury
  rw [if_pos hv, hm, hl]
  simp only [requireSome, ok_bind, reject_of_not (not_not.2 hmir)]
  rw [ht]
  rfl

lemma restoreSettledLeg_fresh {credited : Bool} {r : SettledRecipient}
    (hver : plan.IsNativeTreasuryPlan ↔ v ≠ 3) : restoreSettledLeg P v plan credited
      { recipient := r
        baseline := freshLeg plan legId allocation
        leg := freshLeg plan legId allocation } = .ok (freshLeg plan legId allocation) := by
  have hk : emptiedLeg v (freshLeg plan legId allocation) = freshLeg plan legId allocation := by
    unfold emptiedLeg
    split
    · rename_i hv
      simp [freshLeg, hver.2 hv]
    · rfl
  have he : EmptyLeg (freshLeg plan legId allocation) := hk ▸ emptiedLeg_empty
  have hc : (freshLeg plan legId allocation).closed = [] := hk ▸ emptiedLeg_closed
  rw [restoreSettledLeg_ok_iff]
  refine ⟨hk ▸ emptiedLeg_generationValid hver.1, rfl, rfl, ?_⟩
  by_cases hn : plan.IsNativeTreasuryPlan ∧ r.kind = .conduit
  · have hnat : RestoredAs P v plan credited
        { recipient := r
          baseline := freshLeg plan legId allocation
          leg := freshLeg plan legId allocation }
        { freshLeg plan legId allocation with
          generation := some 0
          closedGenerations := some [] } :=
      .native hn he.intent he.generation hc
    rwa [show { freshLeg plan legId allocation with
      generation := some 0
      closedGenerations := some [] } = freshLeg plan legId allocation by
        simp [freshLeg, hn.1]] at hnat
  · conv => arg 6; rw [← hk]
    exact .empty hn he

structure FreshState (P : Platform) (s : SettledReconciliation) : Prop where
  plan : restoreSettledPlan P s.plan = .ok s.plan
  version : s.schemaVersion =
    if s.plan.schemaVersion = 5 then 6 else if s.plan.schemaVersion = 4 then 5 else 3
  credit : optionResult (normalizeCredit s.plan) s.credit = .ok s.credit
  legs : baselineLegs P s.plan s.credit = .ok s.legs
  updatedAt : NonnegativeSafe s.updatedAt
  observed : latestObservation s.plan s.credit s.legs ≤ s.updatedAt
  treasury : s.treasuryFinalization =
    if s.plan.IsNativeTreasuryPlan then some createNativeTreasuryFinalization else none

lemma FreshState.restores (h : FreshState P s)
    (hi : (s.plan.recipients.map (·.legId)).Nodup) : Restores P s s := by
  have hb := baseline_of_ok h.plan hi h.legs
  obtain ⟨weights, hf⟩ := frozenPlan_of_restore h.plan
  have hfun := funded_baseline hf hi hb
  have hver := h.version
  have hnat : s.plan.IsNativeTreasuryPlan ↔ s.schemaVersion ≠ 3 := by
    unfold SettledPlan.IsNativeTreasuryPlan
    split_ifs at hver <;> omega
  have hlen : s.legs.length = s.plan.recipients.length := by
    simpa using congrArg List.length hb.ids
  have hm : s.plan.createdAt ≤ s.updatedAt := by
    have ho := h.observed
    rw [latestObservation, foldl_max_le, max_le_iff] at ho
    exact ho.1.1
  refine ⟨?_, h.plan, ?_, ?_, ⟨h.updatedAt, hm⟩, hlen, h.credit, ⟨s.legs, h.legs, ?_⟩, ?_, ?_,
    h.observed, ?_, rfl, rfl, rfl⟩
  · split_ifs at hver <;> omega
  · split_ifs at hver <;> omega
  · split_ifs at hver <;> omega
  · rw [restoreLegs_iff hlen hlen]
    refine ⟨hlen.symm, fun i r b l l' _ hb' hl hl' => ?_⟩
    obtain rfl : b = l := Option.some.inj (hb'.symm.trans hl)
    obtain rfl : b = l' := Option.some.inj (hb'.symm.trans hl')
    rw [hb.fresh b (mem_of_getElem? hl)]
    exact restoreSettledLeg_fresh hnat
  · intro h4
    split_ifs at hver <;> omega
  · have hz : ∀ l ∈ s.legs, l.cumulativeDebitSats = 0 := by
      intro l hl
      rw [hb.fresh l hl]
      unfold cumulativeDebitSats
      rw [freshLeg_closed]
      rfl
    refine assertCumulativeDebit_zero hz hb.nonneg ?_
    cases hcr : s.credit with
    | none => exact le_refl 0
    | some credit =>
      have hnor := h.credit
      obtain ⟨-, hno⟩ | ⟨e, c, -, hc, hok⟩ := optionResult_ok hnor
      · rw [hcr] at hno
        cases hno
      · obtain rfl : credit = c := Option.some.inj (hcr.symm.trans hc)
        exact (credit_safe hok).1.2.le
  · by_cases hn : s.plan.IsNativeTreasuryPlan
    · have ht := h.treasury
      rw [if_pos hn] at ht
      obtain ⟨l, hl, hln⟩ := hfun.fee hn
      have hso : (s.plan.nativeLeg s.legs).isSome = true := by
        unfold SettledPlan.nativeLeg
        rw [List.find?_isSome]
        exact ⟨l, hl, by simpa using hln.2⟩
      obtain ⟨leg, hleg⟩ := Option.isSome_iff_exists.1 hso
      refine restoreTreasury_created ?_ ht hleg ?_
      · have := hnat.1 hn
        split_ifs at hver <;> omega
      · rw [hb.fresh leg (mem_of_find?_eq_some hleg)]
        exact ⟨rfl, rfl, rfl, rfl⟩
    · have ht := h.treasury
      rw [if_neg hn] at ht
      have hthree : s.schemaVersion = 3 := by
        by_contra hv
        exact hn (hnat.2 hv)
      unfold restoreTreasury
      rw [if_neg (by omega), ht]

lemma nonnegativeSafe_max {a : Int} (ha : NonnegativeSafe a) (hb : NonnegativeSafe b) :
    NonnegativeSafe (max a b) := by
  rcases max_choice a b with h | h <;> rw [h]
  · exact ha
  · exact hb

lemma Restores.credited (h : Restores P s s) {credit : CreditEvidence}
    (hc : s.credit = some credit) : normalizeCredit s.plan credit = .ok credit := by
  have hn := h.credit
  rw [hc] at hn
  simpa only [optionResult, run_ok, Option.some.injEq, exists_eq_right] using
    hn

lemma Restores.created_treasury (h : Restores P s s) (hi : (s.plan.recipients.map (·.legId)).Nodup)
    (hno : ∀ t ∈ s.treasuryFinalization, t.intent = none) : s.treasuryFinalization =
      if s.plan.IsNativeTreasuryPlan then some createNativeTreasuryFinalization else none := by
  split_ifs with hn
  · obtain ⟨fee, leg, t, hnat⟩ := h.native hi hn
    rw [hnat.treasury]
    obtain rfl | ⟨intent, hf⟩ := finalizing_or_created hnat.restored
    · rfl
    · have := hno t hnat.treasury
      rw [hf.intent_eq] at this
      cases this
  · cases ht : s.treasuryFinalization with
    | none => rfl
    | some t => exact absurd (h.treasury_native ht) hn

lemma Restores.uncredited_version (h : Restores P s s)
    (hi : (s.plan.recipients.map (·.legId)).Nodup) (hno : s.credit = none) : s.schemaVersion =
      if s.plan.schemaVersion = 5 then 6 else if s.plan.schemaVersion = 4 then 5 else 3 := by
  have hord := h.ordinary
  have hev := h.event
  have hkn := h.version
  have h4 : s.schemaVersion ≠ 4 := by
    intro h4
    obtain ⟨leg, hleg, ho⟩ := h.renewed h4
    obtain ⟨baseline, hl⟩ := h.loaded hi
    obtain ⟨row, hr⟩ := hl.mem hleg
    have hn : ¬ s.plan.IsNativeLeg leg.legId := by
      rintro ⟨hn, -⟩
      unfold SettledPlan.IsNativeTreasuryPlan at hn
      omega
    obtain he | ⟨_, _, -, hc, -⟩ := hr.receipt hn
    · rw [he.generation] at ho
      cases ho
    · rw [hno] at hc
      cases hc
  split_ifs <;> omega

lemma Reloads.credit (hs : Reloads P s) (h : recordSettledCredit P s evidence = .ok t) :
    Reloads P t := by
  obtain ⟨c, hc, hca⟩ := recordSettledCredit_cases h
  obtain rfl := hs.restores.unique hc
  obtain rfl | ⟨credit, legs, hcr, rfl⟩ := hca
  · exact hs
  · have hi := hs.requested.ids
    have hb := hcr.baseline hc hi
    obtain rfl := normalizeCredit_eq hcr.normalized
    obtain ⟨hpos, hti⟩ := credit_safe hcr.normalized
    obtain ⟨baseline, hbas, -⟩ := hc.legs
    have hn : ∀ t ∈ c.treasuryFinalization, t.intent = none := by
      intro t ht
      obtain ⟨fee, leg, t', hnat⟩ := hc.native hi (hc.treasury_native ht)
      obtain rfl : t = t' := Option.some.inj ((Option.mem_def.1 ht).symm.trans hnat.treasury)
      obtain rfl | ⟨intent, hfin⟩ := finalizing_or_created hnat.restored
      · rfl
      · obtain ⟨known, _, hbud⟩ := budgeted hfin.budget_eq
        have hf := hcr.fresh
        rw [hbud.credit_eq] at hf
        cases hf
    have hf : FreshState P { c with
        credit := some credit
        legs := legs
        updatedAt := max c.updatedAt credit.observedAt } := by
      refine ⟨hc.plan, hc.uncredited_version hi hcr.fresh, ?_, ?_,
        nonnegativeSafe_max hc.updatedAt.1 hti, ?_, hc.created_treasury hi hn⟩
      · simp only [optionResult, hcr.normalized, ok_bind]
        rfl
      · simp only [baselineLegs, bind_ok] at hbas ⊢
        obtain ⟨created, hm, -⟩ := hbas
        exact ⟨created, hm, hcr.allocated⟩
      · rw [latestObservation_le]
        have hm := hc.updatedAt.2
        refine ⟨le_max_of_le_left hm, le_max_right _ _, fun l hl => ?_⟩
        rw [hb.fresh l hl]
        exact le_max_of_le_left hm
    refine ⟨(advances_credit hs.requested h).1, ?_, hf.restores hi⟩
    intro l hl entry he
    rw [hb.fresh l hl, freshLeg_closed] at he
    cases he

def writeLeg (s : SettledReconciliation) (i : Nat) (leg : LegProgress) (observedAt : Int) :
    SettledReconciliation :=
  { s with legs := s.legs.set i leg, updatedAt := max s.updatedAt observedAt }

lemma Reloads.write (hs : Reloads P s) {i : Nat} {leg leg' : LegProgress}
    {credit : CreditEvidence} {observedAt : Int} (hc : s.credit = some credit)
    (hleg : s.legs[i]? = some leg) (hid : leg'.legId = leg.legId)
    (hn : ¬ s.plan.IsNativeLeg leg.legId) (hgen : leg'.generationNumber = leg.generationNumber)
    (hcls : leg'.closed = leg.closed) (hobs : leg'.observedAt = some observedAt)
    (hti : NonnegativeSafe observedAt) (htrs : ∀ t ∈ s.treasuryFinalization, t.intent = none)
    (hrow : ∀ r b, s.plan.recipients[i]? = some r →
      restoreSettledLeg P s.schemaVersion s.plan true
        { recipient := r, baseline := b, leg } = .ok leg →
      restoreSettledLeg P s.schemaVersion s.plan true
        { recipient := r, baseline := b, leg := leg' } = .ok leg')
    (hf : Funded (writeLeg s i leg' observedAt)) :
    Restores P (writeLeg s i leg' observedAt) (writeLeg s i leg' observedAt) := by
  have hids := hs.requested.ids
  have h := hs.restores
  obtain ⟨baseline, hl⟩ := h.loaded hids
  have hlen : baseline.length = s.plan.recipients.length := by
    simpa using congrArg List.length hl.fresh.ids
  have hlen' : (s.legs.set i leg').length = s.plan.recipients.length := by
    rw [length_set]
    exact h.length
  obtain ⟨b, hb, hro⟩ := h.legs
  obtain rfl : baseline = b := Except.ok.inj (hl.ok.symm.trans hb)
  rw [restoreLegs_iff hlen h.length] at hro
  have hcrd : s.credit.isSome = true := by rw [hc]; rfl
  refine ⟨h.version, h.plan, h.ordinary, h.event, ⟨nonnegativeSafe_max h.updatedAt.1 hti, ?_⟩,
    hlen', h.credit, ⟨baseline, hb, ?_⟩, ?_, ?_, ?_, ?_, rfl, rfl, rfl⟩
  · exact le_max_of_le_left h.updatedAt.2
  · refine (restoreLegs_iff hlen hlen').2 ⟨hlen'.symm, fun j r b l l' hr hb' hl₁ hl₂ => ?_⟩
    obtain rfl : l = l' := Option.some.inj (hl₁.symm.trans hl₂)
    by_cases hij : i = j
    · subst hij
      obtain rfl : leg' = l := by
        have hi := (List.getElem?_eq_some_iff.1 hleg).1
        have hset : (s.legs.set i leg')[i]? = some leg' := List.getElem?_set_self hi
        exact Option.some.inj (hset.symm.trans hl₁)
      have hold := hro.2 i r b leg leg hr hb' hleg hleg
      rw [hcrd] at hold
      change restoreSettledLeg P s.schemaVersion s.plan s.credit.isSome _ = _
      rw [hcrd]
      exact hrow r b hr hold
    · have hset : (s.legs.set i leg')[j]? = s.legs[j]? := List.getElem?_set_ne hij
      have hl₁' : s.legs[j]? = some l := hset.symm.trans hl₁
      exact hro.2 j r b l l hr hb' hl₁' hl₁'
  · intro h4
    obtain ⟨l, hlm, ho⟩ := h.renewed h4
    have hmap := map_set (f := generationNumber) hleg hgen
    have hin : 1 ∈ (s.legs.set i leg').map generationNumber :=
      hmap ▸ ho ▸ mem_map_of_mem hlm
    obtain ⟨l', hl', ho'⟩ := mem_map.1 hin
    exact ⟨l', hl', ho'⟩
  · change assertCumulativeDebit s.plan ((s.credit.map (·.creditedSats)).getD 0) _ = _
    rw [hc]
    have hp := (credit_safe (h.credited hc)).1
    refine hf.assertCumulativeDebit hc hp ?_
    intro l hlm
    rcases mem_or_eq_of_mem_set hlm with hlm | rfl
    · obtain ⟨row, hr⟩ := hl.mem hlm
      exact hr.closed_net
    · rw [hcls]
      obtain ⟨row, hr⟩ := hl.mem (mem_of_getElem? hleg)
      exact hr.closed_net
  · change latestObservation s.plan s.credit (s.legs.set i leg') ≤ max s.updatedAt observedAt
    have hold := h.observed
    rw [hc, latestObservation_le] at hold ⊢
    obtain ⟨h₁, h₂, h₃⟩ := hold
    refine ⟨le_max_of_le_left h₁, le_max_of_le_left h₂, fun l hlm => ?_⟩
    rcases mem_or_eq_of_mem_set hlm with hlm | rfl
    · exact le_max_of_le_left (h₃ l hlm)
    · rw [hobs]
      exact le_max_right _ _
  · have hm := h.created_treasury hids htrs
    by_cases hnat : s.plan.IsNativeTreasuryPlan
    · rw [if_pos hnat] at hm
      have heq : s.plan.nativeLeg (s.legs.set i leg') = s.plan.nativeLeg s.legs := by
        refine find?_set hleg ?_ ?_
        · exact decide_eq_false fun hk => hn ⟨hnat, hk⟩
        · rw [hid]
          exact decide_eq_false fun hk => hn ⟨hnat, hk⟩
      obtain ⟨t, ht, hres⟩ : ∃ t, s.plan.nativeLeg s.legs = some t ∧
          Mirrors t createNativeTreasuryFinalization := by
        have hold := h.treasury
        have hver := hnat.imp h.ordinary.1 h.event.1
        unfold restoreTreasury at hold
        rw [if_pos hver] at hold
        simp only [bind_ok, requireSome_ok, exists_reject, pure_ok, not_not] at hold
        obtain ⟨value, -, t, ht, hmir, hva⟩ := hold
        rw [hm] at hva
        cases hva
        exact ⟨t, ht, hmir⟩
      exact restoreTreasury_created (hnat.imp h.ordinary.1 h.event.1) hm
        (heq.trans ht) hres
    · rw [if_neg hnat] at hm
      have hver : ¬ (s.schemaVersion = 5 ∨ s.schemaVersion = 6) := fun hv =>
        hnat (hv.imp h.ordinary.2 h.event.2)
      refine (if_neg hver).trans ?_
      exact congrArg Except.ok hm.symm

lemma RestoredAs.of_intent {credited : Bool} (h : RestoredAs P v plan credited row leg)
    (hl : leg = row.leg) (hi : leg.intent = some intent) :
    ¬ (plan.IsNativeTreasuryPlan ∧ row.recipient.kind = .conduit) ∧ credited = true ∧
      ∃ closed allocation, PreparedLeg P plan row.baseline row.leg intent intent closed allocation ∧
        preparedLeg v row.leg intent closed = row.leg := by
  cases h with
  | native _ hn =>
    rw [show row.leg.intent = none from hn] at hi
    cases hi
  | empty _ he =>
    rw [hl, he.intent] at hi
    cases hi
  | @prepared hnat recorded intent' closed allocation hr hc hp =>
    obtain rfl : intent' = intent := Option.some.inj hi
    have heq : row.leg.intent = some intent' := by rw [← hl]; rfl
    obtain rfl : recorded = intent' := Option.some.inj (hr.symm.trans heq)
    exact ⟨hnat, hc, closed, allocation, hp, hl⟩

lemma Reloads.status (hs : Reloads P s) {evidence : LegEvidence}
    (h : recordSettledLegStatus P s evidence = .ok t)
    (hg : ¬ (OverwritesReceipt s evidence ∧ ∃ t ∈ s.treasuryFinalization, t.intent ≠ none)) :
    Reloads P t := by
  have hi := hs.requested.ids
  obtain ⟨c, hc, hca⟩ := recordSettledLegStatus_cases h
  obtain rfl := hs.restores.unique hc
  have hsnd : Sound t := by
    refine sound_status hi h fun ⟨hov, t', ht', hpa⟩ => hg ⟨hov, t', ht', ?_⟩
    intro hno
    obtain ⟨fee, leg, known, hnat⟩ := hc.native hi (hc.treasury_native ht')
    obtain rfl : t' = known := Option.some.inj ((Option.mem_def.1 ht').symm.trans hnat.treasury)
    obtain rfl | ⟨intent, hfin⟩ := finalizing_or_created hnat.restored
    · cases hpa
    · rw [hfin.intent_eq] at hno
      cases hno
  obtain rfl | ⟨i, leg, intent, fee, debit, ho, rfl⟩ := hca
  · exact hs
  · have hm := mem_of_getElem? ho.at_
    obtain ⟨hn, hcrd, allocation, halloc, -⟩ := hc.intent hi hm ho.intent_eq
    obtain ⟨credit, hcr⟩ := Option.ne_none_iff_exists'.1 hcrd
    have htrs : ∀ t ∈ c.treasuryFinalization, t.intent = none := by
      intro t ht
      by_contra hso
      have hnat := hc.treasury_native ht
      obtain ⟨l, hl, hln⟩ := hs.funded.fee hnat
      obtain ⟨t', ht', -, rfl | ⟨intent', -, known, -, hset, -⟩⟩ := hc.nativeLeg hi hl hln
      · obtain rfl := Option.some.inj ((Option.mem_def.1 ht).symm.trans ht')
        exact hso rfl
      · have hpa := (hset leg hm fun hid => hn (hid ▸ hln)).1
        exact hg ⟨ho.overwrites hc hi hpa, t, ht, hso⟩
    refine ⟨requested_observed hc hs.requested ho, ?_, hs.write hcr ho.at_ rfl hn rfl rfl
      rfl ho.time.1 htrs ?_ hsnd.funded⟩
    · intro l hl entry he
      rcases mem_or_eq_of_mem_set hl with hl | rfl
      · exact hs.archive l hl entry he
      · exact hs.archive leg hm entry he
    · intro r b _ hr
      rw [restoreSettledLeg_ok_iff] at hr ⊢
      obtain ⟨hgen, hid, ha, has⟩ := hr
      refine ⟨hgen, hid, ha, ?_⟩
      obtain ⟨hnat, -, closed, amount, hp, heq⟩ := has.of_intent rfl ho.intent_eq
      have hw : preparedLeg c.schemaVersion (observeLeg leg evidence fee debit) intent closed =
          observeLeg leg evidence fee debit :=
        congrArg (fun l => observeLeg l evidence fee debit) heq
      have hprep : PreparedLeg P c.plan b (observeLeg leg evidence fee debit) intent intent
          closed amount := by
        refine ⟨hp.allocated, hp.normalized, hp.archived, ho.final.1, ?_, ?_⟩
        · exact ⟨evidence.observedAt, rfl, ho.time.1.1, ho.time.2⟩
        · have hamt : leg.allocationSats = some amount := ha.trans hp.allocated
          unfold ReceiptValid
          obtain ⟨hpa, f, rfl, -, rfl, hf, hd, hle⟩ | ⟨hunp, rfl, rfl⟩ :=
            evidenceReceipt_ok ho.receipt
          · rw [hamt] at hle
            refine (if_pos hpa).symm ▸ ?_
            exact ⟨f, rfl, intent.invoiceAmountSats + f, rfl, hf, hd, rfl, hle⟩
          · refine (if_neg hunp).symm ▸ ?_
            exact ⟨rfl, rfl⟩
      have hres : RestoredAs P c.schemaVersion c.plan true
          { recipient := r, baseline := b, leg := observeLeg leg evidence fee debit }
          (preparedLeg c.schemaVersion (observeLeg leg evidence fee debit) intent closed) := by
        refine .prepared ?_ ho.intent_eq rfl hprep
        exact hnat
      rwa [hw] at hres

lemma RestoredAs.of_empty {credited : Bool} (h : RestoredAs P v plan credited row leg)
    (hl : leg = row.leg) (hi : leg.intent = none)
    (hn : ¬ (plan.IsNativeTreasuryPlan ∧ row.recipient.kind = .conduit)) :
    EmptyLeg row.leg ∧ emptiedLeg v row.baseline = row.leg := by
  cases h with
  | native hnat => exact absurd hnat hn
  | empty _ he => exact ⟨he, hl⟩
  | prepared => cases hi

lemma preparedLeg_emptied {leg : LegProgress} (h : emptiedLeg v baseline = leg) :
    preparedLeg v (prepareLeg leg intent) intent [] = prepareLeg leg intent := by
  subst h
  unfold preparedLeg prepareLeg emptiedLeg generationNumber
  by_cases hv : v = 3 <;> simp [hv]

section

variable (hs : Reloads P s)
include hs

lemma Reloads.prepare {input : LegIntent} (h : prepareSettledLeg P s input = .ok t)
    (hg : AcceptedRequest input.paymentRequest) : Reloads P t := by
  have hids := hs.requested.ids
  have hreq := (advances_prepare hs.requested h).1
  have hsnd := sound_prepare hids h
  obtain ⟨c, hc, hca⟩ := prepareSettledLeg_cases h
  obtain rfl := hs.restores.unique hc
  obtain rfl | ⟨i, leg, intent, credit, hp, rfl⟩ := hca
  · exact hs
  · have hm := mem_of_getElem? hp.at_
    obtain ⟨baseline, hl⟩ := hc.loaded hids
    obtain ⟨heq, -, -, hti, allocation, hal⟩ := normalizeIntent_eq hp.normalized
    have hcan : IsCanonicalRequest intent.paymentRequest := by
      rw [heq]
      exact hg
    obtain ⟨row, hrow⟩ := hl.mem hm
    have he : EmptyLeg leg := by
      obtain he | ⟨_, _, hi, -⟩ := hrow.receipt hp.ordinary
      · exact he
      · rw [hp.fresh] at hi
        cases hi
    have htrs : ∀ t ∈ c.treasuryFinalization, t.intent = none := by
      intro t ht
      have hn := hc.treasury_native ht
      obtain ⟨l, hlm, hln⟩ := hs.funded.fee hn
      obtain ⟨t', ht', -, rfl | ⟨intent', -, known, -, hset, -⟩⟩ := hc.nativeLeg hids hlm hln
      · obtain rfl := Option.some.inj ((Option.mem_def.1 ht).symm.trans ht')
        rfl
      · have hpa := (hset leg hm fun hid => hp.ordinary (hid ▸ hln)).1
        rw [he.status] at hpa
        cases hpa
    refine ⟨hreq, ?_, hs.write hp.credited hp.at_ rfl hp.ordinary rfl rfl rfl hti htrs
      ?_ hsnd.funded⟩
    · intro l hlm entry hent
      rcases mem_or_eq_of_mem_set hlm with hlm | rfl
      · exact hs.archive l hlm entry hent
      · exact hs.archive leg hm entry hent
    · intro r b hr hrow'
      rw [restoreSettledLeg_ok_iff] at hrow' ⊢
      obtain ⟨hgen, hid, ha, has⟩ := hrow'
      refine ⟨hgen, hid, ha, ?_⟩
      have ho : ¬ (c.plan.IsNativeTreasuryPlan ∧ r.kind = .conduit) := by
        intro hn
        have hid' : leg.legId = r.legId := by
          have hat := congrArg (fun ids : List Text => ids[i]?) (hc.ids hids)
          simp only [getElem?_map, hp.at_, hr, Option.map_some] at hat
          exact Option.some.inj hat
        apply hp.ordinary
        rw [hid']
        exact (isNativeLeg_iff hids (mem_of_getElem? hr)).2 hn
      obtain ⟨-, hsa⟩ := has.of_empty rfl hp.fresh ho
      have hpr : PreparedLeg P c.plan b (prepareLeg leg intent) intent intent [] allocation := by
        refine ⟨ha ▸ hal, ?_, ?_, by simp [prepareLeg], ?_, ?_⟩
        · rw [← hid, ← ha]
          exact normalizeIntent_idem hp.normalized hcan
        · have hzero : (prepareLeg leg intent).generationNumber = 0 := he.generation
          unfold restoreClosedGenerations
          rw [if_neg (by omega)]
        · exact ⟨intent.preparedAt, rfl, hti.1, le_refl _⟩
        · exact ⟨he.finalFeeSats, he.finalDebitSats⟩
      have hres : RestoredAs P c.schemaVersion c.plan true
          { recipient := r, baseline := b, leg := prepareLeg leg intent }
          (preparedLeg c.schemaVersion (prepareLeg leg intent) intent []) := by
        refine .prepared ?_ rfl rfl hpr
        exact ho
      rwa [preparedLeg_emptied hsa] at hres

lemma Reloads.prepareNative {settlement : MerchantSettlementRecord} {preparedAt : Int}
    (h : prepareNativeTreasury P s settlement preparedAt = .ok t) : Reloads P t := by
  obtain ⟨c, hc, hca⟩ := prepareNativeTreasury_cases h
  obtain rfl := hs.restores.unique hc
  obtain rfl | ⟨fee, known, treasury, hkn, hn, hf, ht⟩ := hca
  · exact hs
  · refine hs.mirrored hf hkn ?_ ht
    obtain ⟨fee', leg, known', hnat⟩ := hc.native hs.requested.ids (hc.treasury_native hkn)
    obtain rfl : known = known' := Option.some.inj (hkn.symm.trans hnat.treasury)
    obtain rfl | ⟨intent, hfin⟩ := finalizing_or_created hnat.restored
    · intro hp
      cases hp
    · rw [hfin.intent_eq] at hn
      cases hn

lemma Reloads.nativeStatus {evidence : NativeTreasuryEvidence}
    (h : recordNativeTreasuryStatus P s evidence = .ok t) : Reloads P t := by
  obtain ⟨c, fee, previous, treasury, hc, hp, hk, hf, ht⟩ :=
    recordNativeTreasuryStatus_cases h
  obtain rfl := hs.restores.unique hc
  exact hs.mirrored hf hp hk ht

lemma Reloads.step {op : SettledOp} (h : SettledStep P SettledOp.KeepsRestorable op s t) :
    Reloads P t := by
  obtain ⟨ha, hg⟩ := h
  cases op with
  | credit evidence => exact hs.credit ha
  | prepare input => exact hs.prepare ha hg
  | renew input => exact hs.renew ha
  | status evidence => exact hs.status ha hg
  | prepareNative settlement preparedAt => exact hs.prepareNative ha
  | nativeStatus evidence => exact hs.nativeStatus ha

end

lemma reloads_created (hP : LawfulEvidence P) {p : SettledPlan}
    (h : createSettledReconciliation P p = .ok s) (hd : DistinctLegDigests P p)
    (hst : s.plan.Stable P) : Reloads P s := by
  have hr := requested_created h hd
  have hi := hr.ids
  simp only [createSettledReconciliation, run_ok] at h
  obtain ⟨plan, hp, rfl⟩ := h
  have hk := restoreSettledPlan_idem hP hp hst
  obtain ⟨weights, hf⟩ := frozenPlan_of_restore hp
  refine ⟨hr, ?_, FreshState.restores ⟨hk, rfl, rfl, ?_, hf.createdAt, ?_, rfl⟩ hi⟩
  · intro leg hl entry he
    obtain ⟨r, -, rfl⟩ := mem_map.1 hl
    rw [freshLeg_closed] at he
    cases he
  · simp only [baselineLegs, createSettledReconciliation, hk, ok_bind]
    rfl
  · simp only [latestObservation, foldl_max_le]
    refine ⟨by simp, fun t ht => ?_⟩
    obtain ⟨leg, hl, rfl⟩ := mem_map.1 ht
    obtain ⟨r, -, rfl⟩ := mem_map.1 hl
    exact le_refl _

end

end Conduit.CheckoutSpark
