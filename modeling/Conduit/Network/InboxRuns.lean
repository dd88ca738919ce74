import Conduit.Network.InboxSteps
import Conduit.Runs

namespace Conduit.Network

open Js Stock Throwing CheckoutSpark Runs Option

inductive InboxAction where
  | merge (input : MergeInput) (now : Int)
  | stage (input : StageInput) (now : Int)
  | restage (input : RestageInput) (now : Int)
  | outcomes (update : OutcomeUpdate)
  | exclude (excludedRelayUrls : List Text) (excludedAt : Int)
  | readback (input : ReadbackInput)

def InboxAction.readbackAt : InboxAction → Option Int
  | .merge input now => some (input.observedAt.getD now)
  | .stage input now => some (input.stagedAt.getD now)
  | .restage _ _ => none
  | .outcomes update => some update.observedAt
  | .exclude _ _ => none
  | .readback input => some input.observedAt

section
variable (P : NetworkPlatform)

def InboxAction.apply (record : Option InboxDeclarationEvidenceRecord) :
    InboxAction → Result InboxDeclarationEvidenceRecord
  | .merge input now => applyInboxDeclarationEvidenceMerge P record input now
  | .stage input now => applyInboxDeclarationDistributionStage P record input now
  | .restage input now => match record with
    | some existing => applyInboxDeclarationDistributionRestage P existing input now
    | none => .error (.error "no retained declaration")
  | .outcomes update => match record with
    | some existing => applyInboxDeclarationDistributionOutcomes P existing update
    | none => .error (.error "no retained declaration")
  | .exclude excludedRelayUrls excludedAt => match record with
    | some existing =>
      applyInboxDeclarationCutoverExclusions P existing excludedRelayUrls excludedAt
    | none => .error (.error "no retained declaration")
  | .readback input => match record with
    | some existing => applyInboxDeclarationCutoverRecoveryReadback P existing input
    | none => .error (.error "no retained declaration")

def InboxStep (a : InboxAction) (s t : Option InboxDeclarationEvidenceRecord) : Prop :=
  ∃ record, a.apply P s = .ok record ∧ t = some record

def Readable (pending : PendingInboxDeclarationDistribution) : Prop :=
  ∃ urls, normalizedPendingConfirmationRelayUrls P pending = .ok urls

structure RecordOk (record : InboxDeclarationEvidenceRecord) : Prop where
  legacy : record.cutoverRecovery = none
  recoveries : RecoveriesNormal P (record.cutoverRecoveries.getD [])
  readable : ∀ p, record.pendingDistribution = some p → Readable P p

/-- A candidate whose batches were just planned. -/
structure CandidateOk (candidate : InboxDeclarationEvidenceCandidate) : Prop where
  recoveries : RecoveriesNormal P (candidate.cutoverRecoveries.getD [])
  waits : ∀ R ∈ candidate.cutoverRecoveries.getD [], R.readbackObservedAt = none

variable {P} {record record' : InboxDeclarationEvidenceRecord}

lemma normalizeConfirmationRelayUrls_ok {publish urls r : List Text} :
    normalizeConfirmationRelayUrls P publish urls = .ok r ↔
      (sharedUrls P urls ≠ [] ∧ ∀ url ∈ sharedUrls P urls, url ∈ publish) ∧
        sharedUrls P urls = r := by
  unfold normalizeConfirmationRelayUrls sharedUrls
  rw [rejects_ok, pure_ok]
  simp [not_or]

lemma clonePending_readable (hP : P.Lawful) {current : InboxDeclarationEventEvidence}
    {pend pending' : PendingInboxDeclarationDistribution}
    (hr : pend.confirmationRelayUrls = none → Readable P pend)
    (h : clonePendingDistribution P current pend = .ok pending') :
    Readable P pending' ∧ pending'.signedEvent = pend.signedEvent := by
  simp only [clonePendingDistribution, run_ok, not_or, not_not, pure_ok] at h
  obtain ⟨-, ⟨-, hp⟩, conf, hco, outcomes, -, staged, -, rfl⟩ := h
  refine ⟨?_, rfl⟩
  rcases optionResult_ok hco with ⟨hn, rfl⟩ | ⟨c, c', -, rfl, hc⟩
  · obtain ⟨urls, hu⟩ := hr hn
    refine ⟨urls, ?_⟩
    simp only [normalizedPendingConfirmationRelayUrls, hn, getD_none] at hu ⊢
    rwa [← hp]
  · obtain ⟨⟨hne, hs⟩, rfl⟩ := normalizeConfirmationRelayUrls_ok.1 hc
    have hi : sharedUrls P (sharedUrls P c) = sharedUrls P c := sharedUrls_canonical hP c
    refine ⟨sharedUrls P c, normalizeConfirmationRelayUrls_ok.2 ⟨⟨?_, ?_⟩, hi⟩⟩
    · rw [getD_some, hi]
      exact hne
    · rw [getD_some, hi]
      exact hs

lemma recoveriesOf_eq (h : record.cutoverRecovery = none) :
    recoveriesOf record = record.cutoverRecoveries.getD [] := by
  unfold recoveriesOf
  rw [h]
  cases record.cutoverRecoveries <;> rfl

lemma clone_fields (h : cloneInboxDeclarationEvidenceRecord P record = .ok record') :
    record'.pubkey = record.pubkey ∧ record'.current = record.current ∧
      record'.lastUsable = record.lastUsable ∧ record'.cutoverRecovery = none ∧
      optionResult (clonePendingDistribution P record.current) record.pendingDistribution =
        .ok record'.pendingDistribution ∧
      normalizeCutoverRecoveries P (recoveriesOf record) record'.pendingDistribution =
        .ok (record'.cutoverRecoveries.getD []) := by
  simp only [cloneInboxDeclarationEvidenceRecord, run_ok] at h
  obtain ⟨-, _, -, _, -, -, _, -, pending, hp, recoveries, hr, rfl⟩ := h
  exact ⟨rfl, rfl, rfl, rfl, hp, by rw [unlessEmpty_getD]; exact hr⟩

lemma clone_spec (hP : P.Lawful) (hl : record.cutoverRecovery = none)
    (hok : ∀ R ∈ record.cutoverRecoveries.getD [], RecoveryOk P R)
    (hnd : ((record.cutoverRecoveries.getD []).map recoveryKey).Nodup)
    (hr : ∀ p, record.pendingDistribution = some p → p.confirmationRelayUrls = none →
      Readable P p) (h : cloneInboxDeclarationEvidenceRecord P record = .ok record') :
    RecordOk P record' ∧ RecoveryUpdate (record.cutoverRecoveries.getD [])
      (record'.cutoverRecoveries.getD []) := by
  obtain ⟨-, -, -, hl', hpe, hrec⟩ := clone_fields h
  rw [recoveriesOf_eq hl] at hrec
  obtain ⟨hn, hu⟩ := normalize_update hP hok hnd hrec
  refine ⟨⟨hl', hn, ?_⟩, hu⟩
  intro p' hp'
  rcases optionResult_ok hpe with ⟨-, hno⟩ | ⟨p, q, hp, hq, hc⟩
  · rw [hno] at hp'
    cases hp'
  · rw [hq] at hp'
    cases hp'
    exact (clonePending_readable hP (hr p hp) hc).1

lemma RecordOk.clone (hP : P.Lawful) (hr : RecordOk P record)
    (h : cloneInboxDeclarationEvidenceRecord P record = .ok record') :
    RecordOk P record' ∧ RecoveryUpdate (record.cutoverRecoveries.getD [])
      (record'.cutoverRecoveries.getD []) :=
  clone_spec hP hr.legacy (fun R hR => (hr.recoveries.normal R hR).ok hP)
    hr.recoveries.canonical.nodup (fun p hp _ => hr.readable p hp) h

variable {candidate : InboxDeclarationEvidenceCandidate}
  {existing : Option InboxDeclarationEvidenceRecord}

lemma readable_of_completes {pend : Option PendingInboxDeclarationDistribution}
    {completed : Bool} (h : completesExactPendingReadback P pend candidate = .ok completed) :
    ∀ p, pend = some p → Readable P p := by
  rintro p rfl
  simp only [completesExactPendingReadback, bind_ok] at h
  obtain ⟨urls, hu, -⟩ := h
  exact ⟨urls, hu⟩

lemma merged_readable {merged : EventMerge} (he : ∀ r, existing = some r → RecordOk P r)
    (h : applyEventEvidenceMerge P existing candidate = .ok merged) :
    ∀ p, merged.pendingDistribution = some p → Readable P p := by
  have hn : ∀ existing : Option InboxDeclarationEvidenceRecord,
      mergeNewerEvent P existing candidate = .ok merged →
        ∀ p, merged.pendingDistribution = some p → Readable P p := by
    intro existing h p hp
    simp only [mergeNewerEvent, run_ok] at h
    obtain ⟨completed, hc, rfl⟩ := h
    refine readable_of_completes hc p ?_
    simp only at hp
    split_ifs at hp
    exact hp
  cases existing with
  | none => exact hn none h
  | some record =>
    have hr := he record rfl
    simp only [applyEventEvidenceMerge] at h
    split_ifs at h
    · cases h
      intro p hp
      simp only [mergeHistoricalUsableEvidence] at hp
      split_ifs at hp
      · exact hr.readable p hp
      · exact hr.readable p (filter_eq_some_iff.1 hp).1
    · simp only [enrichSameEvent, run_ok] at h
      obtain ⟨completed, hc, rfl⟩ := h
      intro p hp
      refine readable_of_completes hc p ?_
      simp only at hp
      split_ifs at hp
      exact hp
    · exact hn (some record) h

def batches (record : Option InboxDeclarationEvidenceRecord) :
    List InboxDeclarationCutoverRecovery :=
  (record.bind (·.cutoverRecoveries)).getD []

lemma RecoveriesNormal.nil : RecoveriesNormal P [] where
  canonical := ⟨List.nodup_nil, .nil⟩
  normal := nofun

lemma mergeCutoverRecoveries_step (hP : P.Lawful)
    {existing candidate : Option (List InboxDeclarationCutoverRecovery)}
    {l : List InboxDeclarationCutoverRecovery} (he : RecoveriesNormal P (existing.getD []))
    (hc : RecoveriesNormal P (candidate.getD []))
    (hw : ∀ R ∈ candidate.getD [], R.readbackObservedAt = none)
    (h : mergeCutoverRecoveries P existing candidate = .ok l) :
    RecoveriesNormal P l ∧ RecoveryStep none (existing.getD []) l := by
  obtain ⟨hcom, rfl⟩ := (mergeRecoveries_ok hP he hc).1 h
  exact ⟨joined_normal hP he hc hcom, joined_step hP he hc hw hcom⟩

lemma clone_option (hP : P.Lawful) {existing cloned : Option InboxDeclarationEvidenceRecord}
    (he : ∀ r, existing = some r → RecordOk P r)
    (h : optionResult (cloneInboxDeclarationEvidenceRecord P) existing = .ok cloned) :
    (∀ r, cloned = some r → RecordOk P r) ∧ RecoveriesNormal P (batches cloned) ∧
      RecoveryStep none (batches existing) (batches cloned) := by
  rcases optionResult_ok h with ⟨hn, rfl⟩ | ⟨r, r', hs, rfl, hr⟩
  · rw [hn]
    refine ⟨?_, .nil, .refl _⟩
    intro r hr
    cases hr
  · obtain ⟨hok, hu⟩ := (he r hs).clone hP hr
    rw [hs]
    refine ⟨?_, hok.recoveries, hu.step⟩
    intro q hq
    cases hq
    exact hok

lemma applyEvidenceMerge_step (hP : P.Lawful) (he : ∀ r, existing = some r → RecordOk P r)
    (hc : CandidateOk P candidate) (h : applyEvidenceMerge P existing candidate = .ok record') :
    RecordOk P record' ∧ RecoveryStep (some candidate.current.observedAt) (batches existing)
      (record'.cutoverRecoveries.getD []) := by
  simp only [applyEvidenceMerge, run_ok] at h
  obtain ⟨cloned, hcl, merged, hm, recoveries, hrec, read, hr, rfl⟩ := h
  obtain ⟨hok, hn, hfst⟩ := clone_option hP he hcl
  obtain ⟨hj, hs⟩ := mergeCutoverRecoveries_step hP hn hc.recoveries
    hc.waits hrec
  obtain ⟨hf, ht⟩ := completeCutoverRecoveryReadback_step hP hj hr
  refine ⟨⟨rfl, ?_, merged_readable hok hm⟩, ?_⟩
  · rw [unlessEmpty_getD]
    exact hf
  · rw [unlessEmpty_getD]
    exact (hfst.after hs).after ht

end

end Conduit.Network
