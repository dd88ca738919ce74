import Conduit.CheckoutSpark.Guarantees
import Conduit.CheckoutSpark.Progression

namespace Conduit.CheckoutSpark

open Js Throwing Runs List Option SettledOp LegProgress Keyed

def ObservedBefore (s : SettledReconciliation) (evidence : LegEvidence) : Prop :=
  ∀ leg ∈ s.legs, leg.legId = evidence.legId → ∀ known ∈ leg.observedAt,
    known < evidence.observedAt

/-- No request that a load rewrites, no second fee of a payment, and nothing taken back. -/
def SettledOp.Advances (s : SettledReconciliation) : SettledOp → Prop
  | .prepare input => AcceptedRequest input.paymentRequest
  | .status evidence => ObservedBefore s evidence ∧ ¬ OverwritesReceipt s evidence
  | .nativeStatus evidence => ∀ t ∈ s.treasuryFinalization, StatusFollows t.status evidence.status ∧
      ∀ known ∈ t.observedAt, evidence.observedAt = known → evidence.status = t.status
  | _ => True

/-- The state's payment requests take their final form when it is loaded. -/
structure SettledReconciliation.Settles (P : Platform) (s : SettledReconciliation) : Prop where
  plan : s.plan.Settles P
  requests : RequestsAccepted s
  archive : ArchiveAccepted s

section
variable {P : Platform} {s t c x : SettledReconciliation}
  {leg : LegProgress} {op : SettledOp} {v : Nat} {plan : SettledPlan} {credited : Bool}
  {row : LegRow} {evidence : NativeTreasuryEvidence}

lemma SettledOp.Advances.keepsRestorable (h : op.Advances s) : op.KeepsRestorable s := by
  cases op with
  | prepare input => exact h
  | status evidence => exact fun hb => h.2 hb.1
  | credit | renew | prepareNative | nativeStatus => exact trivial

lemma Restores.reloads (hP : LawfulEvidence P) (h : Restores P s c)
    (hi : (s.plan.recipients.map (·.legId)).Nodup) (hs : s.Settles P) : Reloads P c := by
  have hc := h.canonicalLegs hi hs.requests hs.archive
  have hp := restoreSettledPlan_idem hP h.plan (stable_of_settles h.plan hs.plan)
  refine ⟨h.requested hi hs.requests, ?_, h.idem ?_ hp hc⟩
  · intro leg hleg entry he
    exact acceptedRequest_of_canonical ((hc leg hleg).2 entry he)
  · rw [restoreSettledPlan_legIds h.plan]
    exact hi

lemma closed_nil_of_generationValid (h : leg.GenerationValid v) (hz : leg.generationNumber = 0)
    : leg.closed = [] := by
  unfold GenerationValid at h
  split_ifs at h
  · simp [LegProgress.closed, h.2]
  · obtain ⟨g, hg, archived, ha, -, hl⟩ := h
    have hg0 : g = 0 := by simpa [generationNumber, mem_def.1 hg] using hz
    have hn : archived = [] := length_eq_zero_iff.1 (hl.trans hg0)
    simp [LegProgress.closed, mem_def.1 ha, hn]

section

variable {l : LegProgress} (h : LoadedLeg P v plan credited row l)
include h

lemma LoadedLeg.closed_eq
    (hc : ∀ entry ∈ row.leg.closed, IsCanonicalRequest entry.intent.paymentRequest) :
    l.closed = row.leg.closed := by
  have hg := h.generation
  have hf := h.fresh
  cases h.restored with
  | native _ _ _ hcls => exact hcls.symm
  | empty _ he =>
    rw [hf, emptiedLeg_closed, closed_nil_of_generationValid hg he.generation]
  | @prepared _ recorded intent closed _ _ _ hp =>
    have hr : (preparedLeg v row.leg intent closed).closed =
        if v = 3 then row.leg.closed else closed := by
      unfold preparedLeg LegProgress.closed
      split <;> rfl
    rw [hr]
    split_ifs with hv
    · rfl
    · obtain ⟨hz, rfl⟩ | ⟨-, -, -, hm⟩ := restoreClosedGenerations_cases hg hp.archived
      · exact (closed_nil_of_generationValid hg hz).symm
      · refine mapResult_eq_self (fun entry hent entry' hok => ?_) hm
        simp only [restoreClosedGeneration, run_ok] at hok
        obtain ⟨-, old, hold, closure, hcl, -, rfl⟩ := hok
        obtain ⟨rfl, -⟩ := restoreSettledReturnClosure_eq hcl
        have hcan : canonicalPaymentRequest entry.intent.paymentRequest = _ :=
          hc entry hent
        rw [(normalizeIntent_eq hold).1, hcan]

lemma LoadedLeg.contained (hc : row.leg.Canonical) : LegContained row.leg l := by
  obtain ⟨hst, ho, hf, hd, hg, hitt⟩ := h.same
  have hk : l.intent = row.leg.intent := by
    rw [hitt]
    cases hr : row.leg.intent with
    | none => rfl
    | some intent =>
      have hcan : canonicalPaymentRequest intent.paymentRequest = _ := hc.1 intent hr
      rw [map_some, hcan]
  refine .same hg.symm (h.closed_eq hc.2).symm ?_
  have hfac := KeepsFacts.refl row.leg
  exact ⟨h.legId, fun sats hsa => h.allocation ▸ hsa, fun intent hi => hk.trans hi,
    fun known hkn => ⟨known, ho.trans hkn, le_refl known, fun _ => hst⟩,
    hst ▸ hfac.status, fun sats hsa => hf.trans hsa,
    fun sats hsa => hd.trans hsa⟩

end

variable {l : List LegProgress}

lemma legsContained_map {f : LegProgress → LegProgress} (hf : ∀ leg ∈ l, LegContained leg (f leg)) :
    LegsContained l (l.map f) := by
  intro i leg hleg
  refine ⟨f leg, ?_, hf leg (mem_of_getElem? hleg)⟩
  rw [getElem?_map, hleg]
  rfl

lemma legsContained_set {i : Nat} {leg leg' : LegProgress} (hleg : l[i]? = some leg)
    (h : LegContained leg leg') : LegsContained l (l.set i leg') := by
  intro j m hm
  by_cases hij : i = j
  · subst hij
    obtain rfl : leg = m := some.inj (hleg.symm.trans hm)
    exact ⟨leg', List.getElem?_set_self (List.getElem?_eq_some_iff.1 hleg).1, h⟩
  · exact ⟨m, by rw [List.getElem?_set_ne hij]; exact hm, LegContained.refl m⟩

lemma EmptyLeg.keepsFacts {leg leg' : LegProgress} (h : EmptyLeg leg) (hid : leg.legId = leg'.legId)
    (ha : ∀ sats ∈ leg.allocationSats, leg'.allocationSats = some sats) : KeepsFacts leg leg' := by
  refine ⟨hid, ha, ?_, ?_, ?_, ?_, ?_⟩
  · rw [h.intent]
    rintro intent ⟨⟩
  · rw [h.observedAt]
    rintro known ⟨⟩
  · rw [h.status]
    cases leg'.status <;> decide
  · rw [h.finalFeeSats]
    rintro sats ⟨⟩
  · rw [h.finalDebitSats]
    rintro sats ⟨⟩

section

variable (hs : Reloads P s)
include hs

lemma Reloads.contained_with {legs : List LegProgress} {updatedAt : Int}
    (hl : LegsContained s.legs legs) (hu : s.updatedAt ≤ updatedAt) :
    Contained s { s with legs := legs, updatedAt } := by
  have h := hs.restores.contained_refl
  exact ⟨h.version, hu, h.plan, h.credit, h.treasury, hl⟩

lemma Reloads.canonical : ∀ leg ∈ s.legs, leg.Canonical :=
  hs.restores.canonicalLegs hs.requested.ids hs.requested.accepted hs.archive

section

variable (hleg : leg ∈ s.legs)
include hleg

lemma Reloads.loaded :
    ∃ row, row.leg = leg ∧ LoadedLeg P s.schemaVersion s.plan s.credit.isSome row leg := by
  obtain ⟨baseline, hl⟩ := hs.restores.loaded hs.requested.ids
  obtain ⟨i, hi, rfl⟩ := getElem_of_mem hleg
  obtain ⟨leg', row, hleg', hr, hlo⟩ := hl.getElem? (getElem?_eq_getElem hi)
  obtain rfl : s.legs[i] = leg' := some.inj ((getElem?_eq_getElem hi).symm.trans hleg')
  exact ⟨row, hr, hlo⟩

lemma Reloads.closed_nil (hz : leg.generationNumber = 0) : leg.closed = [] := by
  obtain ⟨row, rfl, hl⟩ := hs.loaded hleg
  exact closed_nil_of_generationValid hl.generation hz

lemma Reloads.native_none (hn : s.plan.IsNativeLeg leg.legId) :
    leg.intent = none ∧ leg.generationNumber = 0 := by
  obtain ⟨row, hrow, hl⟩ := hs.loaded hleg
  have hnat := hl.native.1 hn
  refine ⟨(hl.of_native hn).1, ?_⟩
  cases hl.restored with
  | native => rfl
  | empty hne => exact absurd hnat hne
  | prepared hne => exact absurd hnat hne

lemma Reloads.native_empty (hn : s.plan.IsNativeLeg leg.legId)
    (hno : ∀ t ∈ s.treasuryFinalization, t.intent = none) : EmptyLeg leg := by
  obtain ⟨hi, hg⟩ := hs.native_none hleg hn
  obtain ⟨t, ht, ⟨hst, ho, hf, hd⟩, rfl | ⟨intent, hfin, -⟩⟩ :=
    hs.restores.nativeLeg hs.requested.ids hleg hn
  · exact ⟨hi, hst, ho, hf, hd, hg⟩
  · have := hno t ht
    rw [hfin.intent_eq] at this
    cases this

end

lemma Reloads.uncredited_treasury (hn : s.credit = none) :
    ∀ t ∈ s.treasuryFinalization, t.intent = none := by
  intro t ht
  obtain ⟨hr, -⟩ := hs.restores.mirror ht
  obtain rfl | ⟨intent, hf⟩ := finalizing_or_created hr
  · rfl
  · obtain ⟨credit, _, hb⟩ := budgeted hf.budget_eq
    rw [hb.credit_eq] at hn
    cases hn

lemma Reloads.untouched (hno : s.credit = none) (hleg : leg ∈ s.legs) :
    EmptyLeg leg ∧ leg.allocationSats = none := by
  refine ⟨?_, (hs.funded.uncredited hno leg hleg).2⟩
  by_cases hn : s.plan.IsNativeLeg leg.legId
  · exact hs.native_empty hleg hn (hs.uncredited_treasury hno)
  · obtain ⟨row, -, hl⟩ := hs.loaded hleg
    obtain he | ⟨_, _, -, hc, -⟩ := hl.receipt hn
    · exact he
    · rw [hno] at hc
      cases hc

lemma Reloads.contains_credit {evidence : CreditEvidence}
    (h : recordSettledCredit P s evidence = .ok t) : Contained s t := by
  obtain ⟨c, hc, hca⟩ := recordSettledCredit_cases h
  obtain rfl := hs.restores.unique hc
  obtain rfl | ⟨credit, legs, hcr, rfl⟩ := hca
  · exact hc.contained_refl
  · have hids := hs.requested.ids
    have hb := hcr.baseline hc hids
    have heq : c.legs.map (·.legId) = legs.map fun l => l.legId :=
      (hc.ids hids).trans hb.ids.symm
    have hr := hc.contained_refl
    refine ⟨hr.version, le_max_left _ _, rfl, ?_, hr.treasury, fun i leg hleg => ?_⟩
    · rw [hcr.fresh]
      rintro credit ⟨⟩
    · have hl : c.legs.length = legs.length := by simpa using congrArg List.length heq
      have hi : i < legs.length := hl ▸ (List.getElem?_eq_some_iff.1 hleg).1
      refine ⟨legs[i], List.getElem?_eq_getElem hi, ?_⟩
      have hid : leg.legId = legs[i].legId := by
        have hat := congrArg (fun ids : List Text => ids[i]?) heq
        simp only [List.getElem?_map, hleg, List.getElem?_eq_getElem hi, map_some] at hat
        exact some.inj hat
      obtain ⟨he, hn⟩ := hs.untouched hcr.fresh (mem_of_getElem? hleg)
      have hf := hb.fresh legs[i] (getElem_mem hi)
      have hz : legs[i].generationNumber = 0 := by
        rw [hf]
        unfold freshLeg generationNumber
        split <;> rfl
      refine .same (he.generation.trans hz.symm) ?_ (he.keepsFacts hid ?_)
      · rw [hs.closed_nil (mem_of_getElem? hleg) he.generation, hf, freshLeg_closed]
      · rw [hn]
        rintro sats ⟨⟩

lemma Reloads.contains_prepare {input : LegIntent} (h : prepareSettledLeg P s input = .ok t) :
    Contained s t := by
  obtain ⟨c, hc, hca⟩ := prepareSettledLeg_cases h
  obtain rfl := hs.restores.unique hc
  obtain rfl | ⟨i, leg, intent, credit, hp, rfl⟩ := hca
  · exact hc.contained_refl
  · have hm := mem_of_getElem? hp.at_
    have he : EmptyLeg leg := by
      obtain ⟨row, -, hl⟩ := hs.loaded hm
      obtain he | ⟨_, _, hi, -⟩ := hl.receipt hp.ordinary
      · exact he
      · rw [hp.fresh] at hi
        cases hi
    apply hs.contained_with (legsContained_set hp.at_ ?_) (le_max_left _ _)
    exact .same rfl rfl (he.keepsFacts rfl fun _ hsa => hsa)

end

lemma statusFollows_of_transition {status next : LegStatus}
    (h : assertLegTransition status next = .ok ()) (hp : status ≠ .unprepared)
    (hn : next ≠ .unprepared ∧ next ≠ .prepared) : StatusFollows status next := by
  revert h hp hn
  cases status <;> cases next <;> decide

lemma Reloads.contains_status (hs : Reloads P s) {evidence : LegEvidence}
    (h : recordSettledLegStatus P s evidence = .ok t) (hb : ObservedBefore s evidence)
    (hg : ¬ OverwritesReceipt s evidence) : Contained s t := by
  obtain ⟨c, hc, hca⟩ := recordSettledLegStatus_cases h
  obtain rfl := hs.restores.unique hc
  obtain rfl | ⟨i, leg, intent, fee, debit, ho, rfl⟩ := hca
  · exact hc.contained_refl
  · have hi := hs.requested.ids
    have hm := mem_of_getElem? ho.at_
    have hu : leg.status ≠ .paid := fun hp => hg (ho.overwrites hc hi hp)
    obtain ⟨hn, -, allocation, -, hst, hr, -⟩ := hc.intent hi hm ho.intent_eq
    unfold ReceiptValid at hr
    rw [if_neg hu] at hr
    apply hs.contained_with (legsContained_set ho.at_ ?_) (le_max_left _ _)
    refine .same rfl rfl ⟨rfl, fun _ hsa => hsa, fun _ hitt => hitt, ?_,
      statusFollows_of_transition ho.transition hst ho.final, ?_, ?_⟩
    · intro known hkn
      have hlt := hb leg hm ho.legId known hkn
      exact ⟨evidence.observedAt, rfl, hlt.le, fun heq => absurd heq hlt.ne'⟩
    · rw [hr.1]
      rintro sats ⟨⟩
    · rw [hr.2]
      rintro sats ⟨⟩

lemma LegContained.load {before l : LegProgress} (h : LegContained before row.leg)
    (hl : LoadedLeg P v plan credited row l)
    (hc : ∀ entry ∈ row.leg.closed, IsCanonicalRequest entry.intent.paymentRequest)
    (hi : before.generationNumber = row.leg.generationNumber →
      ∀ intent ∈ row.leg.intent, IsCanonicalRequest intent.paymentRequest) :
    LegContained before l := by
  cases h with
  | same hg ha hf =>
    exact (LegContained.same hg ha hf).trans
      (hl.contained ⟨hi hg, hc⟩)
  | renewed hb hact entry he hf =>
    -- the new request may still change, but only the archived attempt is compared
    obtain ⟨-, -, -, -, hg, -⟩ := hl.same
    have he' : l.closedGeneration = some entry := by
      rw [← he]
      exact congrArg head? (hl.closed_eq hc)
    refine .renewed hb (hg.trans hact) entry he' ?_
    exact ⟨hf.legId.trans hl.legId, fun sats hsa => hl.allocation ▸
      hf.allocation sats hsa, hf.intent, hf.observed, hf.status, hf.fee,
      hf.debit⟩

lemma Contained.load (h : Contained c x) (hx : Restores P x t)
    (hi : (x.plan.recipients.map (·.legId)).Nodup)
    (hcan : ∀ (i : Nat) (before leg : LegProgress), c.legs[i]? = some before →
      x.legs[i]? = some leg → (∀ entry ∈ leg.closed, IsCanonicalRequest entry.intent.paymentRequest) ∧
        (before.generationNumber = leg.generationNumber →
          ∀ intent ∈ leg.intent, IsCanonicalRequest intent.paymentRequest)) : Contained c t := by
  obtain ⟨hv, hu, ht⟩ := hx.same
  obtain ⟨h₄, h₅, h₆⟩ := h.version
  obtain ⟨baseline, hl⟩ := hx.loaded (restoreSettledPlan_legIds hx.plan ▸ hi)
  refine ⟨⟨fun h4 => hv.trans (h₄ h4), fun h5 => hv.trans (h₅ h5), fun h6 => hv.trans (h₆ h6)⟩,
    hu ▸ h.updatedAt, (restoreSettledPlan_canonical hx.plan).1.trans h.plan, fun credit hc => ?_,
    fun hver => ?_, fun i before hb => ?_⟩
  · rw [optionResult_eq_self (fun _ _ => normalizeCredit_eq) hx.credit]
    exact h.credit credit hc
  · rw [ht]
    exact h.treasury hver
  · obtain ⟨active, ha, hleg⟩ := h.legs i before hb
    obtain ⟨leg, row, hleg', rfl, hlo⟩ := hl.getElem? ha
    obtain ⟨hcls, hitt⟩ := hcan i before row.leg hb ha
    exact ⟨leg, hleg', hleg.load hlo hcls hitt⟩

lemma Reloads.contains_renew (hs : Reloads P s) {input : RenewInput}
    (h : renewSettledLeg P s input = .ok t) : Contained s t := by
  obtain ⟨c, leg, legIntent, intent, closure, hc, hr, ht⟩ := renewSettledLeg_cases h
  obtain rfl := hs.restores.unique hc
  have hids := hs.requested.ids
  have hnd : (c.legs.map (·.legId)).Nodup := hc.ids hids ▸ hids
  have hleg := (find?_key_iff hnd).1 hr.leg_eq
  obtain ⟨hu, hz, -, -, hupd, -, -⟩ := hr.allowed
  obtain ⟨-, -, allocation, -, hst, hrc, known, hkn, -⟩ :=
    hc.intent hids hleg.1 hr.intent_eq
  unfold ReceiptValid at hrc
  rw [if_neg hu] at hrc
  have hre := hc.contained_refl
  have hx : Contained c (renewedState c input leg legIntent intent closure) := by
    refine ⟨?_, hupd, rfl, hre.credit, hre.treasury, legsContained_map fun item hitem => ?_⟩
    · have hord := hc.ordinary
      have hev := hc.event
      unfold renewedState
      dsimp only
      refine ⟨?_, ?_, ?_⟩ <;> split_ifs <;> omega
    · split_ifs with hid
      · obtain rfl : item = leg := eq_of_key_eq hnd hitem hleg.1 (hid.trans hleg.2.symm)
        refine .renewed hz rfl (archivedGeneration item legIntent closure) rfl ⟨rfl,
          fun _ hsa => hsa, ?_, ?_, StatusFollows.refl item.status, ?_, ?_⟩
        · intro i hi
          rw [hr.intent_eq] at hi
          exact hi
        · intro t ht
          exact ⟨t, by simp [archivedLeg, archivedGeneration, mem_def.1 ht], le_refl t,
            fun _ => rfl⟩
        · rw [hrc.1]
          rintro sats ⟨⟩
        · rw [hrc.2]
          rintro sats ⟨⟩
      · have hf := KeepsFacts.refl item
        exact .same rfl rfl ⟨hf.legId, hf.allocation, hf.intent, hf.observed,
          hf.status, hf.fee, hf.debit⟩
  refine hx.load ht hids fun i before item hb hitem => ?_
  simp only [renewedState, getElem?_map, hb, map_some, some.injEq] at hitem
  have hm := mem_of_getElem? hb
  subst hitem
  split_ifs with hid
  · obtain rfl : before = leg := eq_of_key_eq hnd hm hleg.1 (hid.trans hleg.2.symm)
    refine ⟨fun entry he => ?_, fun hg => ?_⟩
    · obtain rfl : entry = archivedGeneration before legIntent closure := by
        simpa [renewedLeg, LegProgress.closed] using he
      exact (hs.canonical before hm).1 legIntent hr.intent_eq
    · rw [hz] at hg
      cases hg
  · exact ⟨(hs.canonical before hm).2, fun _ => (hs.canonical before hm).1⟩

lemma Reloads.contains_mirrored (hs : Reloads P s) {fee : SettledRecipient}
    {previous treasury : NativeTreasuryFinalization} (hfee : s.plan.feeRecipient = some fee)
    (hpr : s.treasuryFinalization = some previous) (hk : TreasuryKept previous treasury)
    (hfol : StatusFollows previous.status treasury.status)
    (ho : ∀ known ∈ previous.observedAt, ∃ observedAt ∈ treasury.observedAt,
      known ≤ observedAt ∧ (observedAt = known → treasury.status = previous.status))
    (hr : previous.status = .paid → treasury.finalFeeSats = previous.finalFeeSats ∧
      treasury.finalDebitSats = previous.finalDebitSats)
    (h : Restores P (mirroredState s fee treasury) t) : Contained s t := by
  have hi := hs.requested.ids
  obtain ⟨weights, hf⟩ := hs.restores.frozen
  have hre := hs.restores.contained_refl
  have hnat : ∀ leg ∈ s.legs, leg.legId = fee.legId → s.plan.IsNativeLeg leg.legId :=
    fun leg _ hid => (isNativeLeg_iff_fee hf hi hfee leg.legId).2
      ⟨hs.restores.treasury_native hpr, hid⟩
  have hx : Contained s (mirroredState s fee treasury) := by
    refine ⟨hre.version, le_max_left _ _, rfl, hre.credit, fun hver => ?_,
      legsContained_map fun leg hleg => ?_⟩
    · exact ⟨previous, hpr, treasury, rfl, hk⟩
    · split_ifs with hid
      · have hn := hnat leg hleg hid
        obtain ⟨u, hu, ⟨hst, hse, hfe, hdeb⟩, hc⟩ := hs.restores.nativeLeg hi hleg hn
        obtain rfl : u = previous := some.inj (hu.symm.trans hpr)
        have hunp : u.status ≠ .paid → u.finalFeeSats = none ∧ u.finalDebitSats = none := by
          obtain rfl | ⟨intent, hfin, -⟩ := hc
          · exact fun _ => ⟨rfl, rfl⟩
          · exact hfin.unpaid
        refine .same rfl rfl ⟨rfl, fun _ hsa => hsa, fun _ hitt => hitt, ?_, ?_, ?_, ?_⟩
        · intro known hkn
          rw [hse] at hkn
          rw [hst]
          exact ho known hkn
        · rw [hst]
          exact hfol
        · intro sats hsa
          rw [hfe] at hsa
          by_cases hp : u.status = .paid
          · exact (hr hp).1.trans hsa
          · rw [(hunp hp).1] at hsa
            cases hsa
        · intro sats hsa
          rw [hdeb] at hsa
          by_cases hp : u.status = .paid
          · exact (hr hp).2.trans hsa
          · rw [(hunp hp).2] at hsa
            cases hsa
      · exact LegContained.refl leg
  refine hx.load h hi fun i before leg hb hleg => ?_
  simp only [mirroredState, getElem?_map, hb, map_some, some.injEq] at hleg
  have hcan := hs.canonical before (mem_of_getElem? hb)
  subst hleg
  split_ifs <;> exact ⟨hcan.2, fun _ => hcan.1⟩

lemma Reloads.contains_prepareNative (hs : Reloads P s) {settlement : MerchantSettlementRecord}
    {preparedAt : Int} (h : prepareNativeTreasury P s settlement preparedAt = .ok t) :
    Contained s t := by
  obtain ⟨c, hc, hca⟩ := prepareNativeTreasury_cases h
  obtain rfl := hs.restores.unique hc
  obtain rfl | ⟨fee, known, treasury, hkn, hn, hf, ht⟩ := hca
  · exact hc.contained_refl
  · obtain rfl : known = createNativeTreasuryFinalization := by
      obtain hm | ⟨intent, hfin⟩ := finalizing_or_created (hc.mirror hkn).1
      · exact hm
      · rw [hfin.intent_eq] at hn
        cases hn
    refine hs.contains_mirrored hf hkn ⟨?_, ?_⟩ ?_ ?_ ?_ ht
    · rintro intent ⟨⟩
    · rintro id ⟨⟩
    · change StatusFollows .unprepared treasury.status
      cases treasury.status <;> decide
    · rintro known ⟨⟩
    · intro hp
      cases hp

def observedTreasury (previous : NativeTreasuryFinalization) (evidence : NativeTreasuryEvidence) :
    NativeTreasuryFinalization :=
  { previous with
    status := evidence.status
    providerTransferId := evidence.providerTransferId.or previous.providerTransferId
    observedAt := some evidence.observedAt
    finalFeeSats := evidence.finalFeeSats
    finalDebitSats := evidence.finalDebitSats }

structure ObservesNative (previous : NativeTreasuryFinalization) (evidence : NativeTreasuryEvidence) :
    Prop where
  time : ∀ known ∈ previous.observedAt, known ≤ evidence.observedAt
  reference : ¬ ReferenceConflict previous.providerTransferId evidence.providerTransferId
  paid : previous.status = .paid → evidence.status = .paid ∧
    evidence.finalFeeSats = previous.finalFeeSats ∧
    evidence.finalDebitSats = previous.finalDebitSats

lemma recordNativeTreasuryStatus_observes (h : recordNativeTreasuryStatus P s evidence = .ok t) :
    ∃ c fee previous, Restores P s c ∧
      c.treasuryFinalization = some previous ∧ ObservesNative previous evidence ∧
      c.plan.feeRecipient = some fee ∧
      Restores P (mirroredState c fee (observedTreasury previous evidence)) t := by
  simp only [recordNativeTreasuryStatus, bind_ok, restore_ok_iff] at h
  obtain ⟨c, hc, h⟩ := h
  split at h
  · cases h
  · rename_i previous hpr
    split at h
    · cases h
    · simp only [rejects_ok, mirror_ok_iff, not_or, not_exists, not_and, not_lt] at h
      obtain ⟨⟨-, hti, hr⟩, hpa, fee, hfee, ht⟩ := h
      refine ⟨c, fee, previous, hc, hpr, ⟨fun known hkn => hti known hkn, hr,
        fun hp => ?_⟩, hfee, ht⟩
      obtain ⟨hst, hf, hd⟩ := hpa hp
      exact ⟨not_not.1 hst, not_not.1 hf, not_not.1 hd⟩

lemma Reloads.contains_nativeStatus (hs : Reloads P s)
    (h : recordNativeTreasuryStatus P s evidence = .ok t)
    (hg : (SettledOp.nativeStatus evidence).Advances s) : Contained s t := by
  obtain ⟨c, fee, previous, hc, hp, ho, hf, ht⟩ :=
    recordNativeTreasuryStatus_observes h
  obtain rfl := hs.restores.unique hc
  obtain ⟨hfol, hl⟩ := hg previous hp
  have hk : TreasuryKept previous (observedTreasury previous evidence) := by
    refine ⟨fun _ hi => hi, fun id hid hne => ?_⟩
    rw [mem_def] at hid
    cases hn : evidence.providerTransferId with
    | none => simp [observedTreasury, hn, hid]
    | some new =>
      have hr : (observedTreasury previous evidence).providerTransferId = some new := by
        simp [observedTreasury, hn]
      obtain ⟨hres, -⟩ := ht.mirror ht.same.2.2
      have hv : new ≠ [] := by
        obtain hm | ⟨-, hids⟩ := restoreNativeTreasuryFinalization_observed hres
        · rw [hm] at hr
          cases hr
        · exact (hids new hr).1
      rw [hr]
      by_contra hdif
      exact ho.reference ⟨id, hid, new, hn, hne, hv, fun heq => hdif (heq ▸ rfl)⟩
  refine hs.contains_mirrored hf hp hk hfol ?_ ?_ ht
  · intro known hkn
    exact ⟨evidence.observedAt, rfl, ho.time known hkn, hl known hkn⟩
  · intro hpa
    exact (ho.paid hpa).2

lemma Reloads.contains_step (hs : Reloads P s) (h : SettledStep P SettledOp.Advances op s t) :
    Contained s t := by
  obtain ⟨ha, hg⟩ := h
  cases op with
  | credit evidence => exact hs.contains_credit ha
  | prepare input => exact hs.contains_prepare ha
  | renew input => exact hs.contains_renew ha
  | status evidence => exact hs.contains_status ha hg.1 hg.2
  | prepareNative settlement preparedAt => exact hs.contains_prepareNative ha
  | nativeStatus evidence => exact hs.contains_nativeStatus ha hg

lemma Reloads.advances_step (hs : Reloads P s) (h : SettledStep P SettledOp.Advances op s t) :
    Reloads P t ∧ Progresses P s t := by
  have ht := hs.step ⟨h.1, h.2.keepsRestorable⟩
  exact ⟨ht, hs.restores.progresses ht.restores (hs.contains_step h)⟩

lemma SettledOp.loads (h : op.apply P s = .ok t) : ∃ c, Restores P s c := by
  cases op with
  | credit evidence =>
    obtain ⟨c, hc, -⟩ := recordSettledCredit_cases h
    exact ⟨c, hc⟩
  | prepare input =>
    obtain ⟨c, hc, -⟩ := prepareSettledLeg_cases h
    exact ⟨c, hc⟩
  | renew input =>
    obtain ⟨c, -, -, -, -, hc, -⟩ := renewSettledLeg_cases h
    exact ⟨c, hc⟩
  | status evidence =>
    obtain ⟨c, hc, -⟩ := recordSettledLegStatus_cases h
    exact ⟨c, hc⟩
  | prepareNative settlement preparedAt =>
    obtain ⟨c, hc, -⟩ := prepareNativeTreasury_cases h
    exact ⟨c, hc⟩
  | nativeStatus evidence =>
    obtain ⟨c, -, -, hc, -⟩ := recordNativeTreasuryStatus_observes h
    exact ⟨c, hc⟩

lemma SettledOp.apply_loaded (hs : Restores P s c) (hc : Restores P c c) (op : SettledOp) :
    op.apply P c = op.apply P s := by
  have hs' := restore_ok_iff.2 hs
  have hc' := restore_ok_iff.2 hc
  cases op with
  | credit => simp only [apply, recordSettledCredit, hs', hc', ok_bind]
  | prepare => simp only [apply, prepareSettledLeg, hs', hc', ok_bind]
  | renew => simp only [apply, renewSettledLeg, hs', hc', ok_bind]
  | status => simp only [apply, recordSettledLegStatus, hs', hc', ok_bind]
  | prepareNative => simp only [apply, prepareNativeTreasury, hs', hc', ok_bind]
  | nativeStatus => simp only [apply, recordNativeTreasuryStatus, hs', hc', ok_bind]

lemma Restores.recorded_leg (h : Restores P s c)
    (hids : (s.plan.recipients.map (·.legId)).Nodup) (hleg : leg ∈ c.legs) :
    ∃ l ∈ s.legs, l.legId = leg.legId ∧ l.status = leg.status ∧
      l.observedAt = leg.observedAt ∧ l.finalFeeSats = leg.finalFeeSats := by
  obtain ⟨baseline, hl⟩ := h.loaded (restoreSettledPlan_legIds h.plan ▸ hids)
  obtain ⟨i, hi, rfl⟩ := getElem_of_mem hleg
  have hlen := hl.forall₂.length_eq
  obtain ⟨leg', row, hleg', hr, hlo⟩ :=
    hl.getElem? (getElem?_eq_getElem (l := s.legs) (hlen ▸ hi))
  obtain rfl : c.legs[i] = leg' := some.inj ((getElem?_eq_getElem hi).symm.trans hleg')
  obtain ⟨hst, ho, hf, -⟩ := hlo.same
  refine ⟨row.leg, hr ▸ getElem_mem _, hlo.legId, hst.symm, ho.symm, hf.symm⟩

lemma SettledOp.Advances.loaded (h : op.Advances s) (hc : Restores P s c)
    (hi : (s.plan.recipients.map (·.legId)).Nodup) : op.Advances c := by
  cases op with
  | prepare input => exact h
  | status evidence =>
    obtain ⟨hb, hg⟩ := h
    refine ⟨fun leg hleg hid known hkn => ?_, ?_⟩
    · obtain ⟨l, hl, hlid, -, ho, -⟩ := hc.recorded_leg hi hleg
      exact hb l hl (hlid.trans hid) known (ho ▸ hkn)
    · rintro ⟨hp, leg, hleg, hid, hlp, hf⟩
      obtain ⟨l, hl, hlid, hst, -, hlf⟩ := hc.recorded_leg hi hleg
      exact hg ⟨hp, l, hl, hlid.trans hid, hst.trans hlp, hlf ▸ hf⟩
  | nativeStatus evidence =>
    intro t ht
    exact h t (hc.same.2.2 ▸ ht)
  | credit | renew | prepareNative => exact trivial

lemma step_progresses (hP : LawfulEvidence P) (hs : s.Settles P)
    (hd : DistinctLegDigests P s.plan) (h : SettledStep P SettledOp.Advances op s t) :
    Progresses P s t := by
  obtain ⟨ha, hg⟩ := h
  obtain ⟨c, hc⟩ := op.loads ha
  have hi : (s.plan.recipients.map (·.legId)).Nodup := by
    rw [← restoreSettledPlan_legIds hc.plan]
    exact legIds_nodup hc.plan hd
  have hr := hc.reloads hP hi hs
  have hst : SettledStep P SettledOp.Advances op c t :=
    ⟨(op.apply_loaded hc hr.restores).trans ha, hg.loaded hc hi⟩
  exact hc.progresses (hr.advances_step hst).1.restores (hr.contains_step hst)

lemma Reloads.run_progresses (hs : Reloads P s) {ops : List SettledOp}
    (h : Run (SettledStep P SettledOp.Advances) s ops t) : Reloads P t ∧ Progresses P s t := by
  have hst : ∀ op u v, Reloads P u → SettledStep P SettledOp.Advances op u v →
      Reloads P v ∧ Progresses P u v := fun _ _ _ hu hst => hu.advances_step hst
  have hr : ∀ u, Reloads P u → Progresses P u u := fun _ hu => hu.restores.progresses_refl
  exact ⟨h.invariant (fun op u v hu hs => (hst op u v hu hs).1) hs,
    h.related hr (fun _ _ _ => Progresses.trans) hst hs⟩

end

end Conduit.CheckoutSpark
