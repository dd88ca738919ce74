import Conduit.Network.InboxChanges
import Conduit.Network.Recoveries

namespace Conduit.Network

open Js Stock Throwing CheckoutSpark List Option

structure Confirmed (t : Int) (R : InboxDeclarationCutoverRecovery) : Prop where
  readback : R.readbackObservedAt = some t
  expiry : R.expiresAt = some (t + inboxDeclarationCutoverGraceMs)
  complete : ∃ a ∈ R.confirmationAttempts.getD [],
    IsComplete (R.policyBlockedRelayUrls.getD []) a

structure RecoveryStep (readbackAt : Option Int) (l m : List InboxDeclarationCutoverRecovery) :
    Prop where
  grow : RecoveriesGrow l m
  clock : ∀ R' ∈ m, ∀ e, R'.expiresAt = some e →
    (∃ R ∈ l, R.replacementEventId = R'.replacementEventId ∧ R.expiresAt = some e) ∨
      ∃ t, readbackAt = some t ∧ Confirmed t R'

/-- A step that may start no clock and that leaves what is blocked as it is. -/
structure RecoveryUpdate (l m : List InboxDeclarationCutoverRecovery) : Prop where
  grow : RecoveriesGrow l m
  origin : ∀ R' ∈ m, ∃ R ∈ l, RecoveryGrows R R' ∧ R'.readbackObservedAt = R.readbackObservedAt ∧
    R'.expiresAt = R.expiresAt ∧
    ∀ url, url ∈ R'.policyBlockedRelayUrls.getD [] ↔ url ∈ R.policyBlockedRelayUrls.getD []

section
variable {l m n : List InboxDeclarationCutoverRecovery} {readbackAt : Option Int}

lemma IsComplete.grows {blocked blocked' : List Text}
    {a a' : InboxDeclarationCutoverConfirmationAttempt} (h : IsComplete blocked a)
    (hg : AttemptGrows a a') (hblk : ∀ url, url ∈ blocked' → url ∈ blocked) :
    IsComplete blocked' a' := by
  refine ⟨?_, ?_⟩
  · intro url hu
    obtain ⟨hf, hc⟩ := h.1 url (hg.relayUrls ▸ hu)
    exact ⟨fun hb => hf (hblk url hb), hg.completed url hc⟩
  · obtain ⟨url, hu⟩ := exists_mem_of_length_pos h.2
    exact length_pos_of_mem (hg.observed url hu)

lemma RecoveryStep.refl (l : List InboxDeclarationCutoverRecovery) : RecoveryStep none l l :=
  ⟨.refl l, fun R hR _ he => .inl ⟨R, hR, rfl, he⟩⟩

lemma RecoveryUpdate.step (h : RecoveryUpdate l m) : RecoveryStep none l m where
  grow := h.grow
  clock := by
    intro R' hR' e he
    obtain ⟨R, hR, hg, -, hexpy, -⟩ := h.origin R' hR'
    exact .inl ⟨R, hR, hg.id.symm, hexpy ▸ he⟩

lemma RecoveryStep.after (h₁ : RecoveryStep none l m) (h₂ : RecoveryStep readbackAt m n) :
    RecoveryStep readbackAt l n where
  grow := h₁.grow.trans h₂.grow
  clock := by
    intro R' hR' e he
    rcases h₂.clock R' hR' e he with ⟨R, hR, hid, hRe⟩ | hs
    · rcases h₁.clock R hR e hRe with ⟨Q, hQ, hQid, hQe⟩ | ⟨t, ht, -⟩
      · exact .inl ⟨Q, hQ, hQid.trans hid, hQe⟩
      · cases ht
    · exact .inr hs

lemma RecoveryStep.update (h₁ : RecoveryStep readbackAt l m) (h₂ : RecoveryUpdate m n) :
    RecoveryStep readbackAt l n where
  grow := h₁.grow.trans h₂.grow
  clock := by
    intro R' hR' e he
    obtain ⟨R, hR, hg, hr, hexpy, hb⟩ := h₂.origin R' hR'
    rcases h₁.clock R hR e (hexpy ▸ he) with ⟨Q, hQ, hQid, hQe⟩ | ⟨t, ht, hc⟩
    · exact .inl ⟨Q, hQ, hQid.trans hg.id.symm, hQe⟩
    · obtain ⟨a, ha, hco⟩ := hc.complete
      obtain ⟨a', ha', hagr⟩ := hg.attempts a ha
      exact .inr ⟨t, ht, hr.trans hc.readback, hexpy.trans hc.expiry,
        a', ha', hco.grows hagr fun url hu => (hb url).1 hu⟩

end

section
variable {P : NetworkPlatform} {l m : List InboxDeclarationCutoverRecovery}
  {R R' S : InboxDeclarationCutoverRecovery} {pend : Option PendingInboxDeclarationDistribution}
  {attempts : List InboxDeclarationCutoverConfirmationAttempt}
  {a b : List InboxDeclarationCutoverConfirmationAttempt}
  {cand : InboxDeclarationEvidenceCandidate}

lemma normalize_update (hP : P.Lawful) (hl : ∀ R ∈ l, RecoveryOk P R)
    (hnd : (l.map recoveryKey).Nodup) (h : normalizeCutoverRecoveries P l pend = .ok m) :
    RecoveriesNormal P m ∧ RecoveryUpdate l m := by
  obtain ⟨hn, hf, hto⟩ := normalizeCutoverRecoveries_spec hP hl hnd h
  refine ⟨hn, ?_, ?_⟩
  · intro R hR
    obtain ⟨R', hR', heq⟩ := hf R hR
    obtain ⟨_, hs, -, hg, -⟩ := normalizeCutoverRecovery_spec hP (hl R hR) heq
    cases hs
    exact ⟨R', hR', hg⟩
  · intro R' hR'
    obtain ⟨R, hR, heq⟩ := hto R' hR'
    obtain ⟨_, hs, -, hg, hr, he, hb⟩ :=
      normalizeCutoverRecovery_spec hP (hl R hR) heq
    cases hs
    exact ⟨R, hR, hg, hr, he, hb⟩

lemma joinRecoveries_grows_left (hP : P.Lawful) (hR : RecoveryNormal P R)
    (hS : RecoveryNormal P S) (hw : S.readbackObservedAt = none) :
    RecoveryGrows R (joinRecoveries P R S) ∧ (joinRecoveries P R S).expiresAt = R.expiresAt := by
  obtain ⟨sig, hs, -⟩ := hR.sig
  have ha : activeReadback R S = (R.readbackObservedAt, R.expiresAt) := by
    rw [activeReadback_eq hR hS, hw, hR.expiry]
    cases R.readbackObservedAt <;> rfl
  have hb := (hR.ok hP).blocked.append (hS.ok hP).blocked
  refine ⟨⟨rfl, rfl, ?_, ?_, ?_, ?_, ?_⟩, by rw [joinRecoveries, ha]⟩
  · rw [joinRecoveries, hs]
    rfl
  · rw [joinRecoveries, unlessEmpty_getD]
    exact hR.attempts.merge_grows hP hS.attempts
  · intro url hu
    rw [joinRecoveries, unlessEmpty_getD, (ownerSelected_accepts hP).mem_sort hb]
    exact mem_append_left _ hu
  · intro t ht
    rw [joinRecoveries, ha, ht]
  · intro t ht
    rw [joinRecoveries, ha, ht]

lemma joined_normal (hP : P.Lawful) (hl : RecoveriesNormal P l) (hm : RecoveriesNormal P m)
    (h : CompatibleLists l m) :
    RecoveriesNormal P (joinLists recoveryKey (joinRecoveries P) (recoveryLe P) l m) where
  canonical := joinLists_canonical (recoveries_separate hP)
  normal := by
    apply forall_joinLists recoveryKey_join (recoveries_separate hP) hl.canonical.nodup
      hm.canonical.nodup hl.normal hm.normal
    intro R hR S hS hRS
    exact (hl.normal R hR).join hP (hm.normal S hS) (h R hR S hS hRS)

lemma joined_step (hP : P.Lawful) (hl : RecoveriesNormal P l) (hm : RecoveriesNormal P m)
    (hw : ∀ S ∈ m, S.readbackObservedAt = none) (h : CompatibleLists l m) :
    RecoveryStep none l (joinLists recoveryKey (joinRecoveries P) (recoveryLe P) l m) where
  grow := by
    intro R hR
    obtain ⟨c, hc, rfl | ⟨S, hS, -, rfl⟩⟩ := exists_joined_left recoveryKey_join
      hl.canonical.nodup hm.canonical.nodup hR
    · exact ⟨c, hc, .refl c⟩
    · exact ⟨_, hc, (joinRecoveries_grows_left hP (hl.normal R hR) (hm.normal S hS)
        (hw S hS)).1⟩
  clock := by
    refine forall_joinLists (p := fun R' => ∀ e, R'.expiresAt = some e →
      (∃ R ∈ l, R.replacementEventId = R'.replacementEventId ∧ R.expiresAt = some e) ∨
        ∃ t, none = some t ∧ Confirmed t R') recoveryKey_join (recoveries_separate hP)
      hl.canonical.nodup hm.canonical.nodup ?_ ?_ ?_
    · intro R hR e he
      exact .inl ⟨R, hR, rfl, he⟩
    · intro S hS e he
      rw [(hm.normal S hS).expiry, hw S hS] at he
      cases he
    · intro R hR S hS _ e he
      rw [(joinRecoveries_grows_left hP (hl.normal R hR) (hm.normal S hS) (hw S hS)).2] at he
      exact .inl ⟨R, hR, rfl, he⟩

variable {t : Int}

lemma startGrace_spec (h : startGrace t attempts R = .ok R') :
    (R' = { R with confirmationAttempts := some attempts }) ∨
      (R' = { R with
        confirmationAttempts := some attempts
        readbackObservedAt := some t
        expiresAt := some (t + inboxDeclarationCutoverGraceMs) } ∧ Confirmed t R') := by
  unfold startGrace at h
  split_ifs at h with hc
  · simp only [bind_ok, cutoverGraceMsForPolicyVersion_ok, pure_ok] at h
    obtain ⟨_, ⟨-, rfl⟩, rfl⟩ := h
    exact .inr ⟨rfl, rfl, rfl, hc⟩
  · cases h
    exact .inl rfl

lemma getD_unlessEmpty_or {l : List Text} {o : Option (List Text)}
    (h : l = [] → o.getD [] = []) : (unlessEmpty l <|> o).getD [] = l := by
  cases l with
  | nil => exact h rfl
  | cons u l => rfl

lemma settled_filter {accept : Text → Option Text} {l : List Text} {p : Text → Bool}
    (h : Settled accept l) : Settled accept (l.filter p) :=
  h.subset fun _ hu => (mem_filter.1 hu).1

lemma readAttempt_spec (hP : P.Lawful) {a a' : InboxDeclarationCutoverConfirmationAttempt}
    {blocked sources : List Text} (ha : AttemptNormal P a)
    (h : readAttempt P blocked sources pend a = .ok a') : AttemptOk P a' ∧ AttemptGrows a a' := by
  simp only [readAttempt, run_ok] at h
  obtain ⟨outcomes, -, rfl⟩ := h
  have hrel := ha.canonical.settled (secure_accepts hP)
  have hs : Settled (acceptSecure P) (sources.filter fun url =>
      decide (url ∈ a.relayUrls ∧ url ∉ blocked)) :=
    hrel.subset fun url hurl => (of_decide_eq_true (mem_filter.1 hurl).2).1
  have hr := fun statuses => settled_filter (p := fun url => decide (url ∉ blocked))
    (settled_readback hP ha.canonical statuses outcomes)
  have hcom := ((ha.ok hP).completed.append
    (hr [.observed, .absent])).append hs
  have hobs := ((ha.ok hP).observed.append (hr [.observed])).append hs
  have he : ∀ {x y : List Text}, Settled (acceptSecure P) (x ++ y) →
      sharedUrls P (x ++ y) = [] → x = [] := by
    intro x y hxy hn
    apply eq_nil_iff_forall_not_mem.2
    intro u hu
    have : u ∈ sharedUrls P (x ++ y) :=
      (mem_sharedUrls hP hxy).2 (mem_append_left _ hu)
    rw [hn] at this
    cases this
  have hc := getD_unlessEmpty_or (o := a.completedRelayUrls) fun hn =>
    he (append_assoc _ _ _ ▸ hcom) (append_assoc _ _ _ ▸ hn)
  have ho := getD_unlessEmpty_or (o := a.observedRelayUrls) fun hn =>
    he (append_assoc _ _ _ ▸ hobs) (append_assoc _ _ _ ▸ hn)
  refine ⟨⟨ha.canonical, ha.nonempty, ?_, ?_⟩, ⟨rfl, ?_, ?_⟩⟩
  · show Settled _ (getD (_ <|> _) [])
    rw [hc]
    exact (secure_accepts hP).settled_sort _
  · show Settled _ (getD (_ <|> _) [])
    rw [ho]
    exact (secure_accepts hP).settled_sort _
  · intro url hurl
    rw [hc, mem_sharedUrls hP hcom]
    exact mem_append_left _ (mem_append_left _ hurl)
  · intro url hurl
    rw [ho, mem_sharedUrls hP hobs]
    exact mem_append_left _ (mem_append_left _ hurl)

lemma RecoveryNormal.withAttempts (hP : P.Lawful) (hR : RecoveryNormal P R)
    (ha : ∀ a ∈ attempts, AttemptOk P a) (hne : attempts ≠ [])
    (hnd : (attempts.map (attemptKey P)).Nodup)
    (hR' : R' = { R with confirmationAttempts := some attempts } ∨ ∃ t, R' = { R with
      confirmationAttempts := some attempts
      readbackObservedAt := some t
      expiresAt := some (t + inboxDeclarationCutoverGraceMs) }) : RecoveryOk P R' := by
  have hok := hR.ok hP
  rcases hR' with rfl | ⟨t, rfl⟩
  · exact ⟨hok.id, hok.canonical, hok.nonempty, hok.sig, nofun, ha, hne, hnd,
      hok.blocked⟩
  · exact ⟨hok.id, hok.canonical, hok.nonempty, hok.sig, nofun, ha, hne, hnd,
      hok.blocked⟩

lemma keys_of_grows (h : Forall₂ AttemptGrows a b) :
    b.map (attemptKey P) = a.map (attemptKey P) := by
  induction h with
  | nil => rfl
  | cons hab _ ih =>
    rw [map_cons, map_cons, ih, attemptKey, hab.relayUrls]
    rfl

lemma attemptsGrow_of_forall₂ (h : Forall₂ AttemptGrows a b) : AttemptsGrow a b :=
  fun _ hx => forall₂_left h hx

lemma forall₂_of_mapResult {α β : Type} {f : α → Result β} {x : List α} {y : List β}
    (h : mapResult f x = .ok y) : Forall₂ (fun a b => f a = .ok b) x y := by
  induction x generalizing y with
  | nil =>
    cases h
    exact .nil
  | cons a x ih =>
    obtain ⟨b, rest, hb, hr, rfl⟩ := mapResult_cons_ok.1 h
    exact .cons hb (ih hr)

lemma forall₂_imp_mem {α β : Type} {p q : α → β → Prop} {x : List α} {y : List β}
    (h : Forall₂ p x y) (hi : ∀ a ∈ x, ∀ b, p a b → q a b) : Forall₂ q x y := by
  induction h with
  | nil => exact .nil
  | cons hab _ ih =>
    exact .cons (hi _ mem_cons_self _ hab)
      (ih fun a ha => hi a (mem_cons_of_mem _ ha))

lemma startGrace_step (hP : P.Lawful) (hR : RecoveryNormal P R)
    (hw : R.readbackObservedAt = none) (ha : ∀ a ∈ attempts, AttemptOk P a)
    (hg : Forall₂ AttemptGrows (R.confirmationAttempts.getD []) attempts)
    (h : startGrace t attempts R = .ok R') :
    RecoveryOk P R' ∧ RecoveryGrows R R' ∧ (R'.expiresAt = R.expiresAt ∨ Confirmed t R') := by
  have hne := attemptsGrow_ne_nil (attemptsGrow_of_forall₂ hg) hR.some_attempt
  have hnd : (attempts.map (attemptKey P)).Nodup :=
    keys_of_grows hg ▸ hR.attempts.canonical.nodup
  have he : R.expiresAt = none := by
    rw [hR.expiry, hw]
    rfl
  rcases startGrace_spec h with heq | ⟨hs, hc⟩
  · refine ⟨hR.withAttempts hP ha hne hnd (.inl heq), ?_, .inl (by rw [heq])⟩
    rw [heq]
    exact ⟨rfl, rfl, rfl, attemptsGrow_of_forall₂ hg, fun _ hurl => hurl, fun _ ht => ht,
      fun _ ht => ht⟩
  · refine ⟨hR.withAttempts hP ha hne hnd (.inr ⟨t, hs⟩), ?_, .inr hc⟩
    rw [hs]
    refine ⟨rfl, rfl, rfl, attemptsGrow_of_forall₂ hg, fun _ hurl => hurl, ?_, ?_⟩
    · intro u hu
      rw [hw] at hu
      cases hu
    · intro u hu
      rw [he] at hu
      cases hu

lemma readRecovery_spec (hP : P.Lawful) (hR : RecoveryNormal P R)
    (h : readRecovery P cand pend R = .ok R') : RecoveryOk P R' ∧ RecoveryGrows R R' ∧
      (R'.expiresAt = R.expiresAt ∨ Confirmed cand.current.observedAt R') := by
  unfold readRecovery at h
  by_cases hs : R.replacementEventId ≠ cand.current.signedEvent.id ∨
      R.readbackObservedAt ≠ none ∨ R.confirmationAttempts.getD [] = []
  · rw [if_pos hs] at h
    cases h
    exact ⟨hR.ok hP, .refl R, .inl rfl⟩
  · rw [if_neg hs] at h
    simp only [not_or, not_not] at hs
    simp only [bind_ok] at h
    obtain ⟨attempts, hatts, h⟩ := h
    have hsp : Forall₂ (fun a a' => AttemptOk P a' ∧ AttemptGrows a a')
        (R.confirmationAttempts.getD []) attempts :=
      forall₂_imp_mem (forall₂_of_mapResult hatts) fun a ha _ hab =>
        readAttempt_spec hP (hR.attempts.normal a ha) hab
    apply startGrace_step hP hR hs.2.1 _ (hsp.imp fun _ _ hab => hab.2) h
    intro a' ha'
    obtain ⟨a, -, hok, -⟩ := forall₂_left hsp.flip ha'
    exact hok

lemma step_of_forall₂ {readbackAt : Option Int} (h : Forall₂ (fun R R' => RecoveryGrows R R' ∧
    (R'.expiresAt = R.expiresAt ∨ ∃ t, readbackAt = some t ∧ Confirmed t R')) l m) :
    RecoveryStep readbackAt l m ∧ m.map recoveryKey = l.map recoveryKey := by
  refine ⟨⟨?_, ?_⟩, ?_⟩
  · intro R hR
    obtain ⟨R', hR', hg, -⟩ := forall₂_left h hR
    exact ⟨R', hR', hg⟩
  · intro R' hR' e he
    obtain ⟨R, hR, hg, heq | hc⟩ := forall₂_left h.flip hR'
    · exact .inl ⟨R, hR, hg.id.symm, heq ▸ he⟩
    · exact .inr hc
  · induction h with
    | nil => rfl
    | cons hab _ ih =>
      rw [map_cons, map_cons, ih, recoveryKey, hab.1.id]
      rfl

lemma quiet_of_forall₂
    (h : Forall₂ (fun R R' => RecoveryGrows R R' ∧ R'.expiresAt = R.expiresAt) l m) :
    RecoveryStep none l m ∧ m.map recoveryKey = l.map recoveryKey :=
  step_of_forall₂ (h.imp fun _ _ hab => ⟨hab.1, .inl hab.2⟩)

lemma completeCutoverRecoveryReadback_step (hP : P.Lawful) (hl : RecoveriesNormal P l)
    (h : completeCutoverRecoveryReadback P l cand pend = .ok m) :
    RecoveriesNormal P m ∧ RecoveryStep (some cand.current.observedAt) l m := by
  simp only [completeCutoverRecoveryReadback, bind_ok] at h
  obtain ⟨read, hr, h⟩ := h
  have hs : Forall₂ (fun R R' => RecoveryOk P R' ∧ RecoveryGrows R R' ∧
      (R'.expiresAt = R.expiresAt ∨ Confirmed cand.current.observedAt R')) l read :=
    forall₂_imp_mem (forall₂_of_mapResult hr) fun R hR _ hab =>
      readRecovery_spec hP (hl.normal R hR) hab
  obtain ⟨hst, hk⟩ := step_of_forall₂ (hs.imp fun _ _ hab =>
    ⟨hab.2.1, hab.2.2.imp_right fun h => ⟨_, rfl, h⟩⟩)
  have hok : ∀ R ∈ read, RecoveryOk P R := by
    intro R' hR'
    obtain ⟨R, -, hok, -⟩ := forall₂_left hs.flip hR'
    exact hok
  obtain ⟨hn, hu⟩ := normalize_update hP hok (hk ▸ hl.canonical.nodup) h
  exact ⟨hn, hst.update hu⟩

end

end Conduit.Network
