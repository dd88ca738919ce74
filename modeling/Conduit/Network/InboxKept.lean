import Conduit.Network.InboxRuns

namespace Conduit.Network

open Js Stock Throwing CheckoutSpark Runs List Option

section
variable {P : NetworkPlatform} {record record' : InboxDeclarationEvidenceRecord}

lemma normalizeCutoverRecovery_sorted (hP : P.Lawful) (R : InboxDeclarationCutoverRecovery)
    (pending : Option PendingInboxDeclarationDistribution) :
    normalizeCutoverRecovery P R pending = normalizeCutoverRecovery P
      { R with relayUrls := sortUrls (normalizeRetainedRelayUrls P R.relayUrls) } pending := by
  unfold normalizeCutoverRecovery
  simp only [normalizeRetainedRelayUrls, (ownerSelected_accepts hP).sort_idem]
  rfl

lemma normalizeCutoverRecoveries_singleton (hP : P.Lawful) (R : InboxDeclarationCutoverRecovery) :
    normalizeCutoverRecoveries P [R] none = normalizeCutoverRecoveries P
      [{ R with relayUrls := sortUrls (normalizeRetainedRelayUrls P R.relayUrls) }] none := by
  simp only [normalizeCutoverRecoveries, foldResult]
  rw [normalizeCutoverRecovery_sorted hP R none]

lemma createCutover_spec (hP : P.Lawful) {stage : StageInput} {secureRelayUrls : List Text}
    {pending : PendingInboxDeclarationDistribution}
    {r : PendingInboxDeclarationDistribution × List InboxDeclarationCutoverRecovery}
    (h : createCutover P stage secureRelayUrls pending = .ok r) :
    RecoveriesNormal P r.2 ∧ ∀ R ∈ r.2, R.readbackObservedAt = none := by
  simp only [createCutover] at h
  split_ifs at h with he
  · cases h
    exact ⟨.nil, fun R hR => by cases hR⟩
  · simp only [run_ok] at h
    obtain ⟨confirmation, hc, version, -, _, -, _, -, -, recoveries, hm, rfl⟩ := h
    obtain ⟨⟨hne, -⟩, rfl⟩ := normalizeConfirmationRelayUrls_ok.1 hc
    have hs : Settled (acceptOwnerSelected P) (replacedRelayUrls P stage secureRelayUrls) :=
      settled_filter ((ownerSelected_accepts hP).settled _)
    unfold mergeCutoverRecoveries at hm
    rw [getD_none, nil_append, getD_some, normalizeCutoverRecoveries_singleton hP] at hm
    by_cases hid : IsHex64 pending.signedEvent.id
    · have hok : ∀ R ∈ [({
          policyVersion := version
          replacementEventId := pending.signedEvent.id
          relayUrls := sortUrls (normalizeRetainedRelayUrls P
            (replacedRelayUrls P stage secureRelayUrls))
          replacementEventSig := some pending.signedEvent.sig
          confirmationAttempts := some [⟨sharedUrls P
            (stage.confirmationRelayUrls.getD pending.publishRelayUrls), none, none,
            some pending.stagedAt⟩]
          confirmationRelayUrls := none
          completedRelayUrls := none
          observedRelayUrls := none
          policyBlockedRelayUrls := some ((replacedRelayUrls P stage secureRelayUrls).filter
            fun url => decide (url ∈ normalizeRetainedRelayUrls P
              (stage.excludedRelayUrls.getD [])))
          readbackObservedAt := none
          expiresAt := none } : InboxDeclarationCutoverRecovery)], RecoveryOk P R := by
        intro R hR
        cases mem_singleton.1 hR
        refine ⟨hid, (ownerSelected_accepts hP).sort_idem _, ?_, by simp, by simp, ?_, by simp, ?_,
          settled_filter hs⟩
        · intro hnil
          obtain ⟨url, hu⟩ := exists_mem_of_ne_nil _ he
          have hmem := ((ownerSelected_accepts hP).mem_sort hs).2 hu
          rw [show sortUrls (normalizeOwnerSelectedRelayUrls P
            (replacedRelayUrls P stage secureRelayUrls)) = [] from hnil] at hmem
          cases hmem
        · intro a ha
          cases mem_singleton.1 ha
          exact ⟨sharedUrls_canonical hP _, hne, by rintro _ ⟨⟩, by rintro _ ⟨⟩⟩
        · exact nodup_singleton _
      obtain ⟨hn, hupd⟩ := normalize_update hP hok (nodup_singleton _) hm
      refine ⟨hn, ?_⟩
      intro R' hR'
      obtain ⟨R, hR, -, hr, -⟩ := hupd.origin R' hR'
      cases mem_singleton.1 hR
      exact hr
    · have hno : recoveries = [] := by
        rw [normalizeCutoverRecoveries_eq_ok] at hm
        obtain ⟨stored, hsto, rfl⟩ := hm
        simp only [foldResult, storeNext, normalizeCutoverRecovery, if_pos hid] at hsto
        cases hsto
        rfl
      rw [hno]
      exact ⟨.nil, fun R hR => by cases hR⟩

lemma createEventEvidence_spec (hP : P.Lawful) {input : MergeInput} {now : Int}
    {pendingInput : Option StageInput} {candidate : InboxDeclarationEvidenceCandidate}
    (h : createEventEvidence P input now pendingInput = .ok candidate) : CandidateOk P candidate ∧
      candidate.current.observedAt = input.observedAt.getD now := by
  simp only [createEventEvidence, run_ok, assertLocalTimestamp_ok] at h
  obtain ⟨-, _, -, observedAt, ⟨-, rfl⟩, complete, -, -, cachedAt, -, -, created, -, h⟩ := h
  split at h
  · simp only [run_ok] at h
    obtain ⟨cutover, hc, rfl⟩ := h
    obtain ⟨hn, hw⟩ := createCutover_spec hP hc
    refine ⟨⟨?_, ?_⟩, rfl⟩
    · rw [unlessEmpty_getD]
      exact hn
    · rw [unlessEmpty_getD]
      exact hw
  · cases h
    exact ⟨⟨.nil, fun R hR => by cases hR⟩, rfl⟩

lemma forall₂_map_mem {α β : Type} {p : α → β → Prop} {f : α → β} {l : List α}
    (h : ∀ a ∈ l, p a (f a)) : Forall₂ p l (l.map f) :=
  forall₂_map_right_iff.2 (forall₂_same.2 h)

variable {l : List InboxDeclarationCutoverRecovery}

lemma changed_clone (hP : P.Lawful) {readbackAt : Option Int} (hlg : record.cutoverRecovery = none)
    (hok : ∀ R ∈ record.cutoverRecoveries.getD [], RecoveryOk P R)
    (hs : RecoveryStep readbackAt l (record.cutoverRecoveries.getD []) ∧
      (record.cutoverRecoveries.getD []).map recoveryKey = l.map recoveryKey)
    (hl : RecoveriesNormal P l)
    (hr : ∀ p, record.pendingDistribution = some p → p.confirmationRelayUrls = none →
      Readable P p) (h : cloneInboxDeclarationEvidenceRecord P record = .ok record') :
    RecordOk P record' ∧ RecoveryStep readbackAt l (record'.cutoverRecoveries.getD []) := by
  obtain ⟨hrec, hu⟩ :=
    clone_spec hP hlg hok (hs.2 ▸ hl.canonical.nodup) hr h
  exact ⟨hrec, hs.1.update hu⟩

lemma addAttempt_spec (hP : P.Lawful) (event : SignedEvent)
    {attempt : InboxDeclarationCutoverConfirmationAttempt} (hatt : AttemptNormal P attempt)
    (hl : ∀ R ∈ l, RecoveryNormal P R) :
    Forall₂ (fun R R' => RecoveryOk P R' ∧ RecoveryGrows R R' ∧ R'.expiresAt = R.expiresAt)
      l (addAttempt P event attempt l) := by
  induction l with
  | nil => exact .nil
  | cons R l ih =>
    have hR := hl R mem_cons_self
    have hr : ∀ S ∈ l, RecoveryNormal P S := fun S hS => hl S (mem_cons_of_mem _ hS)
    rw [addAttempt]
    split_ifs
    · have hs : AttemptsNormal P [attempt] :=
        ⟨⟨nodup_singleton _, pairwise_singleton _ _⟩,
          fun a ha => mem_singleton.1 ha ▸ hatt⟩
      have hm := hR.attempts.merge hP hs
      have hg := hR.attempts.merge_grows hP hs
      have hok := hR.ok hP
      refine .cons ⟨⟨hok.id, hok.canonical, hok.nonempty, hok.sig, nofun,
        fun a ha => (hm.normal a ha).ok hP, attemptsGrow_ne_nil hg hR.some_attempt,
        hm.canonical.nodup, hok.blocked⟩, ⟨rfl, rfl, rfl, hg, fun _ h => h,
        fun _ h => h, fun _ h => h⟩, rfl⟩
        (forall₂_same.2 fun S hS => ⟨(hr S hS).ok hP, .refl S, rfl⟩)
    · exact .cons ⟨hR.ok hP, .refl R, rfl⟩ (ih hr)

lemma blockRelays_spec (hP : P.Lawful) {R : InboxDeclarationCutoverRecovery}
    (hR : RecoveryNormal P R) (excluded : List Text) :
    RecoveryOk P (blockRelays P (normalizeRetainedRelayUrls P excluded) R) ∧
      RecoveryGrows R (blockRelays P (normalizeRetainedRelayUrls P excluded) R) := by
  have hok := hR.ok hP
  have he : Settled (acceptOwnerSelected P) ((historicalRelayUrls R).filter fun url =>
      decide (url ∈ normalizeRetainedRelayUrls P excluded)) :=
    ((ownerSelected_accepts hP).settled excluded).subset
      fun url hu => of_decide_eq_true (mem_filter.1 hu).2
  have hs := hok.blocked.append he
  have hemp : sortUrls (normalizeOwnerSelectedRelayUrls P (R.policyBlockedRelayUrls.getD [] ++
      (historicalRelayUrls R).filter fun url =>
        decide (url ∈ normalizeRetainedRelayUrls P excluded))) = [] →
      R.policyBlockedRelayUrls.getD [] = [] := by
    intro hn
    apply eq_nil_iff_forall_not_mem.2
    intro url hu
    have hm := ((ownerSelected_accepts hP).mem_sort hs).2 (mem_append_left _ hu)
    rw [hn] at hm
    cases hm
  have hg := getD_unlessEmpty_or hemp
  refine ⟨⟨hok.id, hok.canonical, hok.nonempty, hok.sig, hok.planned, hok.attempts,
    hok.some_attempt, hok.nodup, ?_⟩, ⟨rfl, rfl, rfl, .refl _, ?_, fun _ h => h, fun _ h => h⟩⟩
  · show Settled _ (getD (_ <|> _) [])
    rw [hg]
    exact (ownerSelected_accepts hP).settled_sort _
  · intro url hu
    show url ∈ getD (_ <|> _) []
    rw [hg, (ownerSelected_accepts hP).mem_sort hs]
    exact mem_append_left _ hu

lemma mem_observedOn {statuses : List NetworkPreferenceReadbackStatus} {relayUrls : List Text}
    {observations : List ReadbackObservation} {url : Text}
    (h : url ∈ observedOn statuses relayUrls observations) : url ∈ relayUrls := by
  obtain ⟨o, ho, rfl⟩ := mem_map.1 h
  exact (of_decide_eq_true (mem_filter.1 ho).2).1

lemma recorded_getD (hP : P.Lawful) {old : Option (List Text)} {added : List Text}
    (hold : Settled (acceptSecure P) (old.getD [])) (ha : Settled (acceptSecure P) added) :
    Settled (acceptSecure P) ((if old.getD [] ++ added = [] then old
      else some (sharedUrls P (old.getD [] ++ added))).getD []) ∧
      ∀ url ∈ old.getD [], url ∈ (if old.getD [] ++ added = [] then old
        else some (sharedUrls P (old.getD [] ++ added))).getD [] := by
  split_ifs with hemp
  · exact ⟨hold, fun _ h => h⟩
  · refine ⟨(secure_accepts hP).settled_sort _, ?_⟩
    intro url hu
    rw [getD_some, mem_sharedUrls hP (hold.append ha)]
    exact mem_append_left _ hu

lemma recordAttempt_spec (hP : P.Lawful) {a : InboxDeclarationCutoverConfirmationAttempt}
    (ha : AttemptNormal P a) (observations : List ReadbackObservation) :
    AttemptOk P (recordAttempt P observations a) ∧
      AttemptGrows a (recordAttempt P observations a) := by
  have hr := ha.canonical.settled (secure_accepts hP)
  have had := fun statuses =>
    hr.subset (l := observedOn statuses a.relayUrls observations) fun _ => mem_observedOn
  obtain ⟨hc, hcgr⟩ := recorded_getD hP (ha.ok hP).completed (had [.observed, .absent])
  obtain ⟨ho, hogr⟩ := recorded_getD hP (ha.ok hP).observed (had [.observed])
  exact ⟨⟨ha.canonical, ha.nonempty, hc, ho⟩, ⟨rfl, hcgr, hogr⟩⟩

lemma setRecovery_spec (hP : P.Lawful) {id : Text} {t : Int}
    {recovery updated : InboxDeclarationCutoverRecovery}
    (hu : RecoveryOk P updated ∧ RecoveryGrows recovery updated ∧
      (updated.expiresAt = recovery.expiresAt ∨ Confirmed t updated))
    (hl : ∀ R ∈ l, RecoveryNormal P R) (hlk : lookup (·.replacementEventId) id l = some recovery) :
    Forall₂ (fun R R' => RecoveryOk P R' ∧ RecoveryGrows R R' ∧
      (R'.expiresAt = R.expiresAt ∨ Confirmed t R')) l (setRecovery id updated l) := by
  induction l with
  | nil => cases hlk
  | cons R l ih =>
    rw [setRecovery]
    by_cases hid : R.replacementEventId = id
    · have hR : R = recovery := by simpa [lookup, hid] using hlk
      rw [if_pos hid, hR]
      exact .cons hu (forall₂_same.2 fun S hS =>
        ⟨(hl S (mem_cons_of_mem _ hS)).ok hP, .refl S, .inl rfl⟩)
    · rw [if_neg hid]
      have hlat : lookup (·.replacementEventId) id l = some recovery := by
        simpa [lookup, hid] using hlk
      exact .cons ⟨(hl R mem_cons_self).ok hP, .refl R, .inl rfl⟩
        (ih (fun S hS => hl S (mem_cons_of_mem _ hS)) hlat)

end

end Conduit.Network
