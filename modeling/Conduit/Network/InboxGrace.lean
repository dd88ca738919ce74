import Conduit.Network.InboxKept

namespace Conduit.Network

open Js Stock Throwing CheckoutSpark Runs List

section Steps
variable {P : NetworkPlatform} {record record' : InboxDeclarationEvidenceRecord}
  {old : Option InboxDeclarationEvidenceRecord} {now : Int}

lemma merge_step (hP : P.Lawful) (he : ∀ r, old = some r → RecordOk P r)
    {input : MergeInput} (h : applyInboxDeclarationEvidenceMerge P old input now = .ok record')
    : RecordOk P record' ∧ RecoveryStep (some (input.observedAt.getD now)) (batches old)
      (record'.cutoverRecoveries.getD []) := by
  simp only [applyInboxDeclarationEvidenceMerge, bind_ok] at h
  obtain ⟨cand, hc, h⟩ := h
  obtain ⟨hok, ht⟩ := createEventEvidence_spec hP hc
  rw [← ht]
  exact applyEvidenceMerge_step hP he hok h

lemma stage_step (hP : P.Lawful) (he : ∀ r, old = some r → RecordOk P r) {input : StageInput}
    (h : applyInboxDeclarationDistributionStage P old input now = .ok record') :
    RecordOk P record' ∧ RecoveryStep (some (input.stagedAt.getD now)) (batches old)
      (record'.cutoverRecoveries.getD []) := by
  simp only [applyInboxDeclarationDistributionStage, run_ok] at h
  obtain ⟨cand, hc, -, merged, hm, -, h⟩ := h
  obtain ⟨hok, ht⟩ := createEventEvidence_spec hP hc
  obtain ⟨hrec, hs⟩ := applyEvidenceMerge_step hP he hok hm
  obtain ⟨hf, hu⟩ := hrec.clone hP h
  rw [ht] at hs
  exact ⟨hf, hs.update hu⟩

lemma isCanonical_nil (hP : P.Lawful) :
    IsCanonical (normalizeSecureOrIsolatedE2eRelayUrls P) [] := by
  have hn : sharedUrls P [] = [] := by
    apply eq_nil_iff_forall_not_mem.2
    intro url hu
    cases (mem_sharedUrls hP (by rintro _ ⟨⟩)).1 hu
  rw [← hn]
  exact sharedUrls_canonical hP []

lemma stagedAttempt_normal (hP : P.Lawful) {urls : List Text} {stagedAt : Int}
    (hp : normalizeSecureOrIsolatedE2eRelayUrls P urls ≠ [])
    (hs : IsSafeInteger stagedAt ∧ 0 ≤ stagedAt) :
    AttemptNormal P ⟨sortUrls (normalizeSecureOrIsolatedE2eRelayUrls P urls), none, none,
      some stagedAt⟩ where
  canonical := sharedUrls_canonical hP urls
  nonempty := by
    obtain ⟨url, hu⟩ := exists_mem_of_ne_nil _ hp
    exact ne_nil_of_mem (mem_sortUrls.2 hu)
  completed := isCanonical_nil hP
  completed_eq := rfl
  observed := isCanonical_nil hP
  observed_eq := rfl
  within := by rintro _ ⟨⟩
  seen := by rintro _ ⟨⟩
  stagedAt := by
    rintro t ⟨⟩
    exact hs

lemma getD_map_addAttempt (event : SignedEvent)
    (attempt : InboxDeclarationCutoverConfirmationAttempt)
    (o : Option (List InboxDeclarationCutoverRecovery)) :
    (o.map (addAttempt P event attempt)).getD [] = addAttempt P event attempt (o.getD []) := by
  cases o <;> rfl

section

variable (hP : P.Lawful)
include hP

section

variable (hr : RecordOk P record)
include hr

lemma restage_step {input : RestageInput}
    (h : applyInboxDeclarationDistributionRestage P record input now = .ok record') :
    RecordOk P record' ∧ RecoveryStep none (record.cutoverRecoveries.getD [])
      (record'.cutoverRecoveries.getD []) := by
  simp only [applyInboxDeclarationDistributionRestage, run_ok, assertLocalTimestamp_ok] at h
  obtain ⟨-, _, -, -, -, hpub, stagedAt, ⟨hsa, rfl⟩, outcomes, -, next, hn, cachedAt, -, h⟩ := h
  obtain ⟨hok, hfst⟩ := hr.clone hP hn
  have ha := stagedAttempt_normal hP hpub hsa
  have hs := addAttempt_spec hP input.signedEvent ha hok.recoveries.normal
  have hm := getD_map_addAttempt (P := P) input.signedEvent
    ⟨sortUrls (normalizeSecureOrIsolatedE2eRelayUrls P input.publishRelayUrls), none, none,
      some (input.stagedAt.getD now)⟩ next.cutoverRecoveries
  have hc : ∀ R' ∈ addAttempt P input.signedEvent
      ⟨sortUrls (normalizeSecureOrIsolatedE2eRelayUrls P input.publishRelayUrls), none, none,
        some (input.stagedAt.getD now)⟩ (next.cutoverRecoveries.getD []), RecoveryOk P R' := by
    intro R' hR'
    obtain ⟨R, -, hRok, -⟩ := forall₂_left hs.flip hR'
    exact hRok
  have hq := quiet_of_forall₂ (hs.imp fun _ _ hab => hab.2)
  rw [← hm] at hc hq
  obtain ⟨hf, hl⟩ := changed_clone hP (by exact hok.legacy) (by exact hc)
    (by exact hq) hok.recoveries (by
      intro p hp hno
      cases hp
      cases hno) h
  exact ⟨hf, hfst.step.after hl⟩

lemma outcomes_step {update : OutcomeUpdate}
    (h : applyInboxDeclarationDistributionOutcomes P record update = .ok record') :
    RecordOk P record' ∧ RecoveryStep (some update.observedAt)
      (record.cutoverRecoveries.getD []) (record'.cutoverRecoveries.getD []) := by
  unfold applyInboxDeclarationDistributionOutcomes at h
  split at h
  · cases h
  · rename_i pending outcomes hpe
    obtain ⟨p, hp, hso⟩ := Option.bind_eq_some_iff.1 hpe
    obtain ⟨o, -, heq⟩ := Option.map_eq_some_iff.1 hso
    cases heq
    simp only [bind_ok] at h
    obtain ⟨relayOutcomes, -, confirmation, -, retained, hret, candidate, hc, h⟩ := h
    obtain ⟨hok, hfst⟩ := hr.clone hP hret
    obtain ⟨hcan, ht⟩ := createEventEvidence_spec hP hc
    obtain ⟨hf, hs⟩ := applyEvidenceMerge_step hP (by
      intro r hr'
      cases hr'
      refine ⟨hok.legacy, hok.recoveries, ?_⟩
      intro q hq
      cases hq
      exact hr.readable pending hp) hcan h
    rw [ht] at hs
    exact ⟨hf, hfst.step.after hs⟩

lemma exclude_step {excludedRelayUrls : List Text} {excludedAt : Int}
    (h : applyInboxDeclarationCutoverExclusions P record excludedRelayUrls excludedAt =
      .ok record') : RecordOk P record' ∧ RecoveryStep none (record.cutoverRecoveries.getD [])
      (record'.cutoverRecoveries.getD []) := by
  simp only [applyInboxDeclarationCutoverExclusions, bind_ok] at h
  obtain ⟨next, hne, h⟩ := h
  obtain ⟨hok, hf⟩ := hr.clone hP hne
  cases hrec : next.cutoverRecoveries with
  | none =>
    rw [hrec] at h
    cases h
    exact ⟨hok, hf.step⟩
  | some recoveries =>
    rw [hrec] at h
    split_ifs at h
    · cases h
      exact ⟨hok, hf.step⟩
    · simp only [bind_ok] at h
      obtain ⟨_, -, h⟩ := h
      have hn := hok.recoveries
      have heq := hf.step
      rw [hrec, Option.getD_some] at hn heq
      have hs : Forall₂ (fun R R' => RecoveryOk P R' ∧ RecoveryGrows R R' ∧
          R'.expiresAt = R.expiresAt) recoveries
          (recoveries.map (blockRelays P (normalizeRetainedRelayUrls P excludedRelayUrls))) := by
        apply forall₂_map_mem
        intro R hR
        obtain ⟨hRok, hg⟩ := blockRelays_spec hP (hn.normal R hR) excludedRelayUrls
        exact ⟨hRok, hg, rfl⟩
      have hb : ∀ R' ∈ recoveries.map
          (blockRelays P (normalizeRetainedRelayUrls P excludedRelayUrls)), RecoveryOk P R' := by
        intro R' hR'
        obtain ⟨R, -, hRok, -⟩ := forall₂_left hs.flip hR'
        exact hRok
      obtain ⟨hfi, hl⟩ := changed_clone hP (l := recoveries) (by exact hok.legacy)
        (by exact hb) (by exact quiet_of_forall₂ (hs.imp fun _ _ hab => hab.2)) hn
        (by exact fun p hp _ => hok.readable p hp) h
      exact ⟨hfi, heq.after hl⟩

lemma readback_step {input : ReadbackInput}
    (h : applyInboxDeclarationCutoverRecoveryReadback P record input = .ok record') :
    RecordOk P record' ∧ RecoveryStep (some input.observedAt)
      (record.cutoverRecoveries.getD []) (record'.cutoverRecoveries.getD []) := by
  simp only [applyInboxDeclarationCutoverRecoveryReadback, bind_ok, assertLocalTimestamp_ok] at h
  obtain ⟨_, ⟨-, rfl⟩, next, hne, h⟩ := h
  obtain ⟨hok, hf⟩ := hr.clone hP hne
  have hq : RecoveryStep (some input.observedAt) (record.cutoverRecoveries.getD [])
      (next.cutoverRecoveries.getD []) := by
    refine ⟨hf.step.grow, ?_⟩
    intro R' hR' e he
    refine (hf.step.clock R' hR' e he).imp_right ?_
    rintro ⟨t, ht, -⟩
    cases ht
  split at h
  · cases h
  · rename_i recovery hlk
    obtain ⟨-, h⟩ := rejects_ok.1 h
    have hm := (mem_of_lookup hlk).1
    have hn := hok.recoveries.normal recovery hm
    by_cases hset : recovery.readbackObservedAt ≠ none
    · rw [if_pos hset] at h
      cases h
      exact ⟨hok, hq⟩
    · rw [if_neg hset] at h
      simp only [bind_ok] at h
      obtain ⟨observations, -, updated, hu, h⟩ := h
      have hatts : Forall₂ (fun a a' => AttemptOk P a' ∧ AttemptGrows a a')
          (recovery.confirmationAttempts.getD [])
          ((recovery.confirmationAttempts.getD []).map (recordAttempt P observations)) :=
        forall₂_map_mem fun a ha =>
          recordAttempt_spec hP (hn.attempts.normal a ha) observations
      have hstar := startGrace_step hP hn (not_not.1 hset)
        (by
          intro a' ha'
          obtain ⟨a, -, haok, -⟩ := forall₂_left hatts.flip ha'
          exact haok)
        (hatts.imp fun _ _ hab => hab.2) hu
      have hs := setRecovery_spec hP hstar hok.recoveries.normal hlk
      have hmap : (next.cutoverRecoveries.map
          (setRecovery input.replacementEventId updated)).getD [] =
            setRecovery input.replacementEventId updated (next.cutoverRecoveries.getD []) := by
        cases next.cutoverRecoveries <;> rfl
      have hc : ∀ R' ∈ setRecovery input.replacementEventId updated
          (next.cutoverRecoveries.getD []), RecoveryOk P R' := by
        intro R' hR'
        obtain ⟨R, -, hRok, -⟩ := forall₂_left hs.flip hR'
        exact hRok
      have hst := step_of_forall₂ (hs.imp fun _ _ hab =>
        ⟨hab.2.1, hab.2.2.imp_right fun h => ⟨_, rfl, h⟩⟩)
      rw [← hmap] at hc hst
      obtain ⟨hfi, hl⟩ := changed_clone hP (by exact hok.legacy) (by exact hc)
        (by exact hst) hok.recoveries (by exact fun p hp _ => hok.readable p hp) h
      exact ⟨hfi, hf.step.after hl⟩

end

lemma apply_step {a : InboxAction} {s : Option InboxDeclarationEvidenceRecord}
    (hs : ∀ r, s = some r → RecordOk P r) (h : a.apply P s = .ok record') : RecordOk P record' ∧
      RecoveryStep a.readbackAt (batches s) (record'.cutoverRecoveries.getD []) := by
  cases a with
  | merge => exact merge_step hP hs h
  | stage => exact stage_step hP hs h
  | restage =>
    cases s with
    | none => cases h
    | some r => exact restage_step hP (hs r rfl) h
  | outcomes =>
    cases s with
    | none => cases h
    | some r => exact outcomes_step hP (hs r rfl) h
  | exclude =>
    cases s with
    | none => cases h
    | some r => exact exclude_step hP (hs r rfl) h
  | readback =>
    cases s with
    | none => cases h
    | some r => exact readback_step hP (hs r rfl) h

end

end Steps

section Active
variable {P : NetworkPlatform} {record : InboxDeclarationEvidenceRecord}

def IsRouted (routes : List InboxRecoveryRoute) (url : Text) : Prop :=
  ∃ route ∈ routes, route.relayUrl = url

variable {routes : List InboxRecoveryRoute} {batch : InboxDeclarationCutoverRecovery} {url : Text}

lemma isRouted_mapSet {route : InboxRecoveryRoute} :
    IsRouted (mapSet (·.relayUrl) routes route) url ↔
      IsRouted routes url ∨ route.relayUrl = url := by
  have hk : ∀ l : List InboxRecoveryRoute, IsRouted l url ↔ url ∈ l.map (·.relayUrl) :=
    fun l => mem_map.symm
  rw [hk, hk, keys_mapSet]
  split_ifs with h
  · constructor
    · exact .inl
    · rintro (hold | rfl)
      · exact hold
      · exact h
  · rw [mem_append, mem_singleton, eq_comm]

lemma isRouted_routeRelay {relayUrl : Text} :
    IsRouted (routeRelay batch routes relayUrl) url ↔ IsRouted routes url ∨
      relayUrl = url ∧ url ∉ batch.policyBlockedRelayUrls.getD [] := by
  unfold routeRelay
  split_ifs with hb
  · constructor
    · exact .inl
    · rintro (hold | ⟨rfl, hf⟩)
      · exact hold
      · exact absurd hb hf
  · have hro : ∀ e : Option Int, IsRouted (mapSet (·.relayUrl) routes ⟨relayUrl, e⟩) url ↔
        IsRouted routes url ∨ relayUrl = url ∧ url ∉ batch.policyBlockedRelayUrls.getD [] := by
      intro e
      rw [isRouted_mapSet]
      refine or_congr_right ⟨?_, (·.1)⟩
      rintro rfl
      exact ⟨rfl, hb⟩
    simp only
    split
    · split_ifs
      · exact hro none
      · exact hro _
    · exact hro none

lemma isRouted_relays {relays : List Text} :
    IsRouted (relays.foldl (routeRelay batch) routes) url ↔ IsRouted routes url ∨
      url ∈ relays ∧ url ∉ batch.policyBlockedRelayUrls.getD [] := by
  induction relays generalizing routes with
  | nil => simp
  | cons relay relays ih =>
    rw [foldl_cons, ih, isRouted_routeRelay, mem_cons, eq_comm (a := url)]
    tauto

def ReadFor (now : Int) (url : Text) (R : InboxDeclarationCutoverRecovery) : Prop :=
  url ∈ R.relayUrls ∧ url ∉ R.policyBlockedRelayUrls.getD [] ∧ ∀ e ∈ R.expiresAt, now < e

lemma isRouted_interpret {l : List InboxDeclarationCutoverRecovery} {now : Int} :
    IsRouted (interpretAccountNetworkInboxRecovery l now) url ↔ ∃ R ∈ l, ReadFor now url R := by
  have hf : ∀ routes : List InboxRecoveryRoute, IsRouted (l.foldl (fun routes batch =>
      if ∃ expiresAt ∈ batch.expiresAt, expiresAt ≤ now then routes
      else batch.relayUrls.foldl (routeRelay batch) routes) routes) url ↔
        IsRouted routes url ∨ ∃ R ∈ l, ReadFor now url R := by
    induction l with
    | nil => simp
    | cons R l ih =>
      intro routes
      rw [foldl_cons, ih, exists_mem_cons_iff, ← or_assoc]
      refine or_congr_left ?_
      split_ifs with hexp
      · constructor
        · exact .inl
        · rintro (hold | ⟨-, -, hl⟩)
          · exact hold
          · obtain ⟨e, he, hle⟩ := hexp
            exact absurd (hl e he) (not_lt.2 hle)
      · rw [isRouted_relays]
        refine or_congr_right ⟨?_, fun h => ⟨h.1, h.2.1⟩⟩
        rintro ⟨hm, hfr⟩
        refine ⟨hm, hfr, ?_⟩
        intro e he
        exact not_le.1 fun hle => hexp ⟨e, he, hle⟩
  have hn : ¬ IsRouted [] url := by
    rintro ⟨_, h, -⟩
    cases h
  rw [interpretAccountNetworkInboxRecovery, hf, or_iff_right hn]

lemma readable_matching {pending : Option PendingInboxDeclarationDistribution}
    (h : ∀ p, pending = some p → Readable P p) (id : Text) (relayUrls : List Text) :
    ∃ outcomes, matchingOutcomes P relayUrls (pendingForCurrent pending id) = .ok outcomes := by
  cases hp : pendingForCurrent pending id with
  | none => exact ⟨[], rfl⟩
  | some p =>
    obtain ⟨urls, hu⟩ := h p (Option.filter_eq_some_iff.1 hp).1
    exact ⟨_, by rw [matchingOutcomes, hu]; rfl⟩

lemma normalizeCutoverRecoveries_ok (hP : P.Lawful) (hr : RecordOk P record) :
    ∃ l, normalizeCutoverRecoveries P (record.cutoverRecoveries.getD [])
      record.pendingDistribution = .ok l := by
  have hf : ∀ (l acc : List InboxDeclarationCutoverRecovery),
      (∀ R ∈ l, RecoveryNormal P R) → ((acc ++ l).map recoveryKey).Nodup →
      ∃ r, foldResult (storeNext P record.pendingDistribution) acc l = .ok r := by
    intro l
    induction l with
    | nil => exact fun acc _ _ => ⟨acc, rfl⟩
    | cons R l ih =>
      intro acc hl hnd
      have hR := hl R mem_cons_self
      obtain ⟨R', hR'⟩ := hR.normalize_ok hP (readable_matching hr.readable _)
      obtain ⟨_, hso, -, hg, -⟩ := normalizeCutoverRecovery_spec hP (hR.ok hP) hR'
      cases hso
      have hk : recoveryKey R' = recoveryKey R := hg.id
      have hn : ∀ S ∈ acc, recoveryKey S ≠ recoveryKey R' := by
        intro S hS heq
        rw [map_append, nodup_append] at hnd
        exact hnd.2.2 _ (mem_map_of_mem hS) (recoveryKey R) mem_cons_self
          (heq.trans hk)
      have hs : storeRecovery P acc (some R') = .ok (acc ++ [R']) := by
        refine storeRecovery_ok.2 ⟨?_, ?_⟩
        · intro S hS
          obtain ⟨hm, heq⟩ := mem_of_lookup hS
          exact absurd heq (hn S hm)
        · unfold joinInto
          rw [lookup_eq_none.2 hn]
          exact (mapSet_of_new hn).symm
      obtain ⟨r, hf⟩ := ih (acc ++ [R']) (fun S hS => hl S (mem_cons_of_mem _ hS))
        (by simpa [hk] using hnd)
      refine ⟨r, foldResult_cons_ok.2 ⟨acc ++ [R'], ?_, hf⟩⟩
      rw [storeNext, hR', ok_bind, hs]
  obtain ⟨stored, hsto⟩ := hf (record.cutoverRecoveries.getD []) [] hr.recoveries.normal
    (by simpa using hr.recoveries.canonical.nodup)
  exact ⟨_, normalizeCutoverRecoveries_eq_ok.2 ⟨stored, hsto, rfl⟩⟩

lemma active_iff (hP : P.Lawful) (hr : RecordOk P record) (now : Int) :
    ∃ urls, getActiveInboxCutoverRecoveryRelayUrls P record now = .ok urls ∧
      ∀ url, url ∈ urls ↔ ∃ R ∈ record.cutoverRecoveries.getD [], ReadFor now url R := by
  obtain ⟨l, hl⟩ := normalizeCutoverRecoveries_ok hP hr
  obtain ⟨hn, hu⟩ := normalize_update hP
    (fun R hR => (hr.recoveries.normal R hR).ok hP) hr.recoveries.canonical.nodup hl
  have hs : ∀ url, (∃ R ∈ l, ReadFor now url R) ↔
      ∃ R ∈ record.cutoverRecoveries.getD [], ReadFor now url R := by
    obtain ⟨-, hfr, -⟩ := normalizeCutoverRecoveries_spec hP
      (fun R hR => (hr.recoveries.normal R hR).ok hP) hr.recoveries.canonical.nodup hl
    intro url
    constructor
    · rintro ⟨R', hR', hm, hf, hli⟩
      obtain ⟨R, hR, hg, -, he, hblk⟩ := hu.origin R' hR'
      exact ⟨R, hR, hg.relayUrls ▸ hm, fun hb => hf ((hblk url).2 hb), he ▸ hli⟩
    · rintro ⟨R, hR, hm, hf, hli⟩
      obtain ⟨R', hR', heq⟩ := hfr R hR
      obtain ⟨_, hso, -, hg, -, he, hblk⟩ :=
        normalizeCutoverRecovery_spec hP ((hr.recoveries.normal R hR).ok hP) heq
      cases hso
      exact ⟨R', hR', hg.relayUrls ▸ hm, fun hb => hf ((hblk url).1 hb), he ▸ hli⟩
  have hset : Settled (acceptOwnerSelected P)
      ((interpretAccountNetworkInboxRecovery l now).map (·.relayUrl)) := by
    intro url hurl
    obtain ⟨route, hro, rfl⟩ := mem_map.1 hurl
    obtain ⟨R, hR, hm, -⟩ := isRouted_interpret.1 ⟨route, hro, rfl⟩
    exact (hn.normal R hR).canonical.settled (ownerSelected_accepts hP) _ hm
  refine ⟨_, by rw [getActiveInboxCutoverRecoveryRelayUrls, recoveriesOf_eq hr.legacy, hl]; rfl, ?_⟩
  intro url
  rw [(ownerSelected_accepts hP).mem_of_settled hset, ← hs, ← isRouted_interpret]
  exact mem_map

end Active

end Conduit.Network
