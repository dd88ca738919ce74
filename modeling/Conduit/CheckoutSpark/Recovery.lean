import Conduit.CheckoutSpark.Advancing
import Conduit.CheckoutSpark.Commitment
import Conduit.CheckoutSpark.Repository

namespace Conduit.CheckoutSpark

open Js Throwing Runs Sample Table Prod

structure HoldsActive (repo : Repository) (witness : Option MerchantOrderWitness) (revision : Int)
    (state : SettledReconciliation) : Prop where
  binding : ∃ row, repo.bindings.get state.plan.checkoutId = some row ∧
    row.planDigest = state.plan.planDigest ∧ row.buyerOrderBinding = none ∧
    (row.orderWitness = none ∨ row.orderWitness = witness)
  active : repo.reconciliations.get state.plan.checkoutId = some
    { checkoutId := state.plan.checkoutId, revision, state }
  unretired : repo.retirements.get state.plan.checkoutId = none
  revision : 1 ≤ revision ∧ IsSafeInteger revision

structure HoldsAbsent (repo : Repository) (checkoutId : Text) : Prop where
  binding : repo.bindings.get checkoutId = none
  active : repo.reconciliations.get checkoutId = none
  unretired : repo.retirements.get checkoutId = none

/-- An import of this snapshot whose session stays current, with or without the checkout's
witness. -/
structure ImportOf (witness : Option MerchantOrderWitness) (state : SettledReconciliation)
    (input : RecoveryImport) : Prop where
  state_eq : input.state = state
  witness_eq : input.witness = none ∨ input.witness = witness
  current : ∀ n, input.assertCurrent n = .ok ()

def ActiveIn (P : Platform) (repo : Repository) (checkoutId : Text)
    (state : SettledReconciliation) : Prop :=
  ∃ revision, repo.readInTransaction P checkoutId = .ok (.active revision state)

section
variable {P : Platform} {s t : SettledReconciliation} {repo : Repository}
  {witness : Option MerchantOrderWitness} {input : RecoveryImport} {revision : Int}

lemma Reloads.plan_step (hs : Reloads P s) {op : SettledOp} (h : op.apply P s = .ok t) :
    t.plan = s.plan := by
  have hl : ∀ x, Restores P x t → x.plan = s.plan → t.plan = s.plan := by
    intro x ht hx
    have hp := ht.plan
    rw [hx, hs.restores.plan] at hp
    exact (Except.ok.inj hp).symm
  cases op with
  | credit evidence =>
    obtain ⟨c, hc, hca⟩ := recordSettledCredit_cases h
    obtain rfl := hs.restores.unique hc
    obtain rfl | ⟨credit, legs, -, rfl⟩ := hca <;> rfl
  | prepare input =>
    obtain ⟨c, hc, hca⟩ := prepareSettledLeg_cases h
    obtain rfl := hs.restores.unique hc
    obtain rfl | ⟨i, leg, intent, credit, -, rfl⟩ := hca <;> rfl
  | status evidence =>
    obtain ⟨c, hc, hca⟩ := recordSettledLegStatus_cases h
    obtain rfl := hs.restores.unique hc
    obtain rfl | ⟨i, leg, intent, fee, debit, -, rfl⟩ := hca <;> rfl
  | renew input =>
    obtain ⟨c, leg, legIntent, intent, closure, hc, -, ht⟩ := renewSettledLeg_cases h
    obtain rfl := hs.restores.unique hc
    exact hl _ ht rfl
  | prepareNative settlement preparedAt =>
    obtain ⟨c, hc, hca⟩ := prepareNativeTreasury_cases h
    obtain rfl := hs.restores.unique hc
    obtain rfl | ⟨fee, known, treasury, -, -, -, ht⟩ := hca
    · rfl
    · exact hl _ ht rfl
  | nativeStatus evidence =>
    obtain ⟨c, fee, previous, hc, -, -, -, ht⟩ := recordNativeTreasuryStatus_observes h
    obtain rfl := hs.restores.unique hc
    exact hl _ ht rfl

variable {checkoutId : Text} {ops : List SettledOp}

lemma Reloads.run_plan (hs : Reloads P s) (h : Run (SettledStep P SettledOp.Advances) s ops t) :
    t.plan = s.plan := by
  have hst : ∀ op u v, Reloads P u → SettledStep P SettledOp.Advances op u v →
      Reloads P v ∧ v.plan = u.plan :=
    fun op u v hu hst => ⟨(hu.advances_step hst).1, hu.plan_step hst.1⟩
  have ht : ∀ u v w : SettledReconciliation, v.plan = u.plan → w.plan = v.plan →
      w.plan = u.plan := fun _ _ _ h₁ h₂ => h₂.trans h₁
  exact h.related (R := fun u v => v.plan = u.plan) (fun _ _ => rfl) ht hst hs

lemma Reloads.eq_of_progresses (hs : Reloads P s) (ht : Reloads P t) (hp : s.plan = t.plan)
    (h₁ : Progresses P s t) (h₂ : Progresses P t s) : s = t := by
  have hst := h₁.contained hs.restores ht.restores
  have hts := h₂.contained ht.restores hs.restores
  have heq := hst.antisymm hts hs.restores ht.restores hs.requested.ids (hp ▸ rfl)
  rw [heq, ← hp]

lemma HoldsAbsent.read (h : HoldsAbsent repo checkoutId) :
    repo.readInTransaction P checkoutId = .ok .absent := by
  simp only [Repository.readInTransaction, h.binding, h.active, h.unretired, snapshotFromRows]
  rfl

lemma HoldsActive.read (h : HoldsActive repo witness revision s) (hs : Reloads P s)
    (hh : IsHex64 s.plan.planDigest) :
    repo.readInTransaction P s.plan.checkoutId = .ok (.active revision s) := by
  obtain ⟨row, hr, hd, -⟩ := h.binding
  have hid := key_of_get hr
  have hver := hs.restores.version
  simp only [Repository.readInTransaction, hr, h.active, h.unretired, snapshotFromRows,
    activeSnapshot, run_ok, projectState,
    restore_ok_iff]
  have hrev := h.revision
  refine ⟨?_, ?_, s, hs.restores, ?_, rfl⟩
  · rw [hd]
    exact fun hb => hb.elim (fun hne => hne hid) fun hne => hne hh
  · rw [hid]
    rintro (hne | hu | hlow | hne)
    · exact hne rfl
    · exact hu hrev.2
    · omega
    · omega
  · rw [hd, hid]
    rintro (hne | hne) <;> exact hne rfl

variable {current : RepositorySnapshot}

lemma ImportOf.eval (h : ImportOf witness s input) (hs : Reloads P s)
    (hw : ∀ w ∈ witness, restoreMerchantOrderWitness P w s.plan = .ok w)
    (hr : repo.readInTransaction P s.plan.checkoutId = .ok current) :
    importRecoveryStateWithWitness P repo input = importOver P repo input s input.witness current := by
  have hwit : optionResult (fun w => restoreMerchantOrderWitness P w s.plan) input.witness =
      .ok input.witness := by
    rcases h.witness_eq with hn | heq
    · rw [hn]
      rfl
    · rw [heq]
      cases witness with
      | none => rfl
      | some w =>
        simp only [optionResult, hw w rfl, ok_bind]
        rfl
  have hst : restoreSettledReconciliation P input.state = .ok s := by
    rw [h.state_eq]
    exact restore_ok_iff.2 hs.restores
  simp only [importRecoveryStateWithWitness, h.current, projectState, hst, hwit, hr, ok_bind]

lemma HoldsAbsent.import_eq (h : HoldsAbsent repo s.plan.checkoutId)
    (hi : ImportOf witness s input) (hs : Reloads P s)
    (hw : ∀ w ∈ witness, restoreMerchantOrderWitness P w s.plan = .ok w) :
    HoldsActive (repo.afterImport P input) witness 1 s := by
  have he := hi.eval hs hw h.read
  simp only [importOver, importAbsent, hi.current, ok_bind] at he
  unfold Repository.afterImport
  rw [he]
  refine ⟨⟨_, get_put_self _ _, rfl, rfl, hi.witness_eq⟩, get_put_self _ _, h.unretired,
    le_refl 1, by decide⟩

section

variable (h : HoldsActive repo witness revision s)
include h

section

variable (hi : ImportOf witness t input)
include hi

lemma HoldsActive.importBinding (hp : t.plan = s.plan)
    (hw : ∀ w ∈ witness, restoreMerchantOrderWitness P w s.plan = .ok w) :
    ∃ bound, CheckoutSpark.importBinding P repo input t input.witness (.active revision s)
        s.plan.planDigest = .ok bound ∧ HoldsActive bound witness revision s := by
  obtain ⟨row, hr, hd, hb, hre⟩ := h.binding
  have hb' : assertBuyerWitness row input.witness = .ok () := by
    unfold assertBuyerWitness
    rw [hb]
    cases input.witness <;> rfl
  have hret : assertRetiredWitness P (.active revision s) row s.plan input.witness = .ok () := by
    cases row.merchantSettlement <;> rfl
  have hk := key_of_get hr
  have hc : adoptWitness P row t.plan input.witness input.authenticated = .ok none ∨
      adoptWitness P row t.plan input.witness input.authenticated =
        .ok (some { row with orderWitness := witness }) := by
    unfold adoptWitness
    cases hs : row.orderWitness with
    | none =>
      rcases hi.witness_eq with hw' | hw' <;> rw [hw']
      · exact .inl rfl
      · cases witness with
        | none => exact .inl rfl
        | some w => exact .inr rfl
    | some stored =>
      obtain hn | heq := hre
      · rw [hs] at hn
        cases hn
      · rw [hs] at heq
        rw [← heq] at hi
        simp only [hp, hw stored heq.symm, ok_bind]
        rcases hi.witness_eq with hw' | hw' <;> rw [hw']
        · exact .inl rfl
        · exact .inl (if_pos rfl)
  unfold CheckoutSpark.importBinding
  simp only [hp, hi.current, hr, ok_bind, hd, hb', hret, ne_eq]
  rcases hc with heq | hwr
  · rw [hp] at heq
    simp only [heq, ok_bind]
    exact ⟨repo, rfl, h⟩
  · rw [hp] at hwr
    simp only [hwr, ok_bind]
    refine ⟨_, rfl, ⟨{ row with orderWitness := witness }, ?_, hd, hb, .inr rfl⟩,
      h.active, h.unretired, h.revision⟩
    rw [get_put]
    exact if_pos hk.symm

lemma HoldsActive.import_eq (hs : Reloads P s) (ht : Reloads P t) (hp : t.plan = s.plan)
    (hhex : IsHex64 s.plan.planDigest)
    (hw : ∀ w ∈ witness, restoreMerchantOrderWitness P w s.plan = .ok w) :
    ∃ bound, HoldsActive bound witness revision s ∧
      importRecoveryStateWithWitness P repo input = mergeActive P bound input t revision s := by
  have hr := h.read hs hhex
  rw [← hp] at hr
  obtain ⟨bound, hbd, hh⟩ := h.importBinding hi hp hw
  refine ⟨bound, hh, ?_⟩
  rw [hi.eval ht (hp ▸ hw) hr]
  simp only [importOver, hbd, ok_bind]

lemma HoldsActive.import_later (hs : Reloads P s) (ht : Reloads P t) (hp : t.plan = s.plan)
    (hh : IsHex64 s.plan.planDigest)
    (hw : ∀ w ∈ witness, restoreMerchantOrderWitness P w s.plan = .ok w)
    (hsa : IsSafeInteger (revision + 1)) (hl : Progresses P s t) :
    ∃ r, HoldsActive (repo.afterImport P input) witness r t := by
  obtain ⟨bound, hbd, he⟩ := h.import_eq hi hs ht hp hh hw
  unfold Repository.afterImport
  rw [he]
  unfold mergeActive
  by_cases heq : s = t
  · subst heq
    rw [if_pos rfl]
    exact ⟨revision, hbd⟩
  · have hn : ¬ (input.witness ≠ none ∧ assertSettledRecoveryProgression P t s = .ok ()) :=
      fun hba => heq (hs.eq_of_progresses ht hp.symm hl hba.2)
    have hok : assertSettledRecoveryProgression P s t = .ok () := hl
    rw [if_neg heq, if_neg hn, hok]
    simp only [reject_of_not (not_not.2 hsa), hi.current, ok_bind]
    obtain ⟨row, hrow, hd, hb, hr⟩ := hbd.binding
    refine ⟨revision + 1, ⟨row, hp ▸ hrow, hp ▸ hd, hb, hr⟩,
      get_put_self _ _, hp ▸ hbd.unretired, ?_, hsa⟩
    have := h.revision.1
    omega

lemma HoldsActive.import_earlier (hs : Reloads P s) (ht : Reloads P t) (hp : t.plan = s.plan)
    (hh : IsHex64 s.plan.planDigest)
    (hw : ∀ w ∈ witness, restoreMerchantOrderWitness P w s.plan = .ok w)
    (he : Progresses P t s) : HoldsActive (repo.afterImport P input) witness revision s := by
  obtain ⟨bound, hbd, hev⟩ := h.import_eq hi hs ht hp hh hw
  unfold Repository.afterImport
  rw [hev]
  unfold mergeActive
  by_cases heq : s = t
  · rw [if_pos heq]
    exact hbd
  · rw [if_neg heq]
    by_cases hwit : input.witness ≠ none
    · rw [if_pos ⟨hwit, he⟩]
      exact hbd
    · rw [if_neg fun hb => hwit hb.1]
      cases hok : assertSettledRecoveryProgression P s t with
      | error e => exact h
      | ok u => exact absurd (hs.eq_of_progresses ht hp.symm hok he) heq

end

end

lemma importBinding_reconciliations {next : SettledReconciliation}
    {exact : Option MerchantOrderWitness} {digest : Text} {bound : Repository}
    (h : importBinding P repo input next exact current digest = .ok bound) :
    bound.reconciliations = repo.reconciliations := by
  simp only [importBinding, run_ok] at h
  obtain ⟨-, u₃, -, h⟩ := h
  split at h
  · cases h
  · simp only [run_ok] at h
    obtain ⟨-, u₄, -, u₅, -, written, -, h⟩ := h
    split at h
    · simp only [run_ok] at h
      obtain ⟨u₆, -, rfl⟩ := h
      rfl
    · obtain rfl := pure_ok.1 h
      rfl

lemma afterImport_keeps {c : SettledReconciliation}
    (hre : repo.readInTransaction P checkoutId = .ok (.active revision c)) :
    (repo.afterImport P input).reconciliations.get checkoutId =
        repo.reconciliations.get checkoutId ∨
      ∃ next, projectState P input.state = .ok next ∧ Progresses P c next ∧
        (repo.afterImport P input).reconciliations.get checkoutId =
          some { checkoutId, revision := revision + 1, state := next } := by
  unfold Repository.afterImport
  cases himp : importRecoveryStateWithWitness P repo input with
  | error e => exact .inl rfl
  | ok result =>
    obtain ⟨imported, snapshot⟩ := result
    simp only [importRecoveryStateWithWitness, bind_ok] at himp
    obtain ⟨u₀, -, next, hn, exact, -, u₁, -, current, hc, u₂, -, h⟩ := himp
    have hp : ∀ row : StoredReconciliation, row.checkoutId ≠ checkoutId →
        (repo.reconciliations.put row).get checkoutId = repo.reconciliations.get checkoutId := by
      intro row hne
      rw [get_put, if_neg (Ne.symm hne)]
    unfold importOver at h
    cases current with
    | absent =>
      simp only [importAbsent, run_ok] at h
      obtain ⟨u₃, -, u₄, -, h⟩ := h
      obtain rfl := congrArg fst h
      refine .inl (hp _ fun hid => ?_)
      dsimp only at hid
      rw [hid, hre] at hc
      cases hc
    | retired digest retiredAt =>
      simp only [run_ok] at h
      obtain ⟨-, bound, hbd, h⟩ := h
      obtain rfl := congrArg fst h
      rw [importBinding_reconciliations hbd]
      exact .inl rfl
    | active known state =>
      simp only [bind_ok] at h
      obtain ⟨bound, hbd, h⟩ := h
      have hr := importBinding_reconciliations hbd
      unfold mergeActive at h
      split_ifs at h
      · obtain rfl := congrArg fst (Except.ok.inj h)
        exact .inl (by rw [hr])
      · obtain rfl := congrArg fst (Except.ok.inj h)
        exact .inl (by rw [hr])
      · simp only [run_ok] at h
        obtain ⟨u₃, hpr, -, u₄, -, h⟩ := h
        obtain rfl := congrArg fst h
        rw [hr]
        by_cases hid : next.plan.checkoutId = checkoutId
        · rw [hid, hre] at hc
          obtain ⟨rfl, rfl⟩ := RepositorySnapshot.active.inj (Except.ok.inj hc)
          refine .inr ⟨next, hn, hpr, ?_⟩
          rw [get_put, if_pos hid.symm, hid]
        · exact .inl (hp _ hid)

lemma import_history (hP : LawfulEvidence P) {p : SettledPlan} {s₀ a b : SettledReconciliation}
    {ops' : List SettledOp} (hp : p.Settles P) (hd : DistinctLegDigests P p)
    (hh : IsHex64 p.planDigest) (h₀ : createSettledReconciliation P p = .ok s₀)
    (ha : Run (SettledStep P SettledOp.Advances) s₀ ops a)
    (hb : Run (SettledStep P SettledOp.Advances) a ops' b) :
    Reloads P a ∧ Reloads P b ∧ b.plan = a.plan ∧ Progresses P a b ∧ IsHex64 a.plan.planDigest := by
  have hm := reloads_created hP h₀ hd (stable_of_created h₀ hp)
  obtain ⟨hra, -⟩ := hm.run_progresses ha
  obtain ⟨hrb, hab⟩ := hra.run_progresses hb
  refine ⟨hra, hrb, hra.run_plan hb, hab, ?_⟩
  simp only [createSettledReconciliation, run_ok] at h₀
  obtain ⟨plan, hpl, rfl⟩ := h₀
  rw [hm.run_plan ha, (restoreSettledPlan_canonical hpl).1]
  exact hh

lemma HoldsAbsent.import_either (h : HoldsAbsent repo s.plan.checkoutId) (hs : Reloads P s)
    (ht : Reloads P t) (hp : t.plan = s.plan) (hst : Progresses P s t)
    (hh : IsHex64 s.plan.planDigest)
    (hw : ∀ w ∈ witness, restoreMerchantOrderWitness P w s.plan = .ok w)
    {earlier later : RecoveryImport} (he : ImportOf witness s earlier)
    (hl : ImportOf witness t later) :
    ActiveIn P ((repo.afterImport P earlier).afterImport P later) s.plan.checkoutId t ∧
      ActiveIn P ((repo.afterImport P later).afterImport P earlier) s.plan.checkoutId t := by
  have hw' : ∀ w ∈ witness, restoreMerchantOrderWitness P w t.plan = .ok w := hp ▸ hw
  have hh' : IsHex64 t.plan.planDigest := hp ▸ hh
  have hid : t.plan.checkoutId = s.plan.checkoutId := by rw [hp]
  constructor
  · have hf := h.import_eq he hs hw
    obtain ⟨r, hb⟩ := hf.import_later hl hs ht hp hh hw (by decide) hst
    exact ⟨r, hid ▸ hb.read ht hh'⟩
  · have hf := HoldsAbsent.import_eq (hid ▸ h) hl ht hw'
    have hb := hf.import_earlier he ht hs hp.symm hh' hw' hst
    exact ⟨1, hid ▸ hb.read ht hh'⟩

namespace Sample

def orderWitness : MerchantOrderWitness where
  schemaVersion := 1
  merchantPubkey := merchant
  buyerPubkey := product
  orderId := "order"
  rumorId := profile
  contentHash := fundingHash
  checkoutId := "checkout"
  planDigest := planDigest
  organizerOrderBinding := none

def emptyRepository : Repository where
  bindings := Table.empty
  reconciliations := Table.empty
  retirements := Table.empty

def importOf (state : SettledReconciliation) (witness : Option MerchantOrderWitness) :
    RecoveryImport where
  state := state
  witness := witness
  authenticated := false
  assertCurrent _ := .ok ()

def capitalState : SettledReconciliation := { createdState with plan := capitalPlan }

lemma restores_capital : Restores platform capitalState createdState := by
  have hp : restoreSettledPlan platform capitalPlan = .ok plan := by decide +kernel
  rw [← restore_ok_iff]
  simp only [restoreSettledReconciliation, capitalState, hp, baselineLegs,
    createSettledReconciliation, restore_plan, ok_bind]
  rfl

lemma restore_orderWitness :
    restoreMerchantOrderWitness platform orderWitness plan = .ok orderWitness := by
  simp only [restoreMerchantOrderWitness, restore_plan, ok_bind]
  rfl

lemma settles_paid : paidState.Settles platform := by
  refine ⟨settles, ?_, ?_⟩
  · exact reloads_paid.requested.accepted
  · exact reloads_paid.archive

lemma advances_paid : (SettledOp.status (paidWith 1 1800000070000)).Advances preparedState :=
  ⟨by unfold ObservedBefore; decide +kernel, first_report⟩

lemma advances_collected : (SettledOp.nativeStatus collection).Advances collectingState := by
  rintro t ⟨⟩
  decide +kernel

lemma history_paid : Run (SettledStep platform SettledOp.Advances) createdState
    [.credit credit, .prepare payout, .status (paidWith 1 1800000070000)] paidState := by
  refine .cons ⟨step_credit, trivial⟩ (.cons ⟨step_prepare, accepted_payout⟩ ?_)
  exact .cons ⟨step_paid, advances_paid⟩ (.nil _)

lemma history_collected : Run (SettledStep platform SettledOp.Advances) paidState
    [.prepareNative settlement 1800000080000, .nativeStatus collection] collectedState :=
  .cons ⟨step_collecting, trivial⟩ (.cons ⟨step_collected, advances_collected⟩ (.nil _))

end Sample

end

end Conduit.CheckoutSpark
