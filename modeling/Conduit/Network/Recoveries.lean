import Conduit.Network.Attempts

namespace Conduit.Network

open Js Stock Throwing CheckoutSpark List

/-- What a batch knows only grows, and its clock is never set again. -/
structure RecoveryGrows (old new : InboxDeclarationCutoverRecovery) : Prop where
  id : new.replacementEventId = old.replacementEventId
  relayUrls : new.relayUrls = old.relayUrls
  sig : new.replacementEventSig = old.replacementEventSig
  attempts : AttemptsGrow (old.confirmationAttempts.getD []) (new.confirmationAttempts.getD [])
  blocked : ∀ url ∈ old.policyBlockedRelayUrls.getD [], url ∈ new.policyBlockedRelayUrls.getD []
  readback : ∀ t, old.readbackObservedAt = some t → new.readbackObservedAt = some t
  expiry : ∀ t, old.expiresAt = some t → new.expiresAt = some t

lemma RecoveryGrows.refl (R : InboxDeclarationCutoverRecovery) : RecoveryGrows R R where
  id := rfl
  relayUrls := rfl
  sig := rfl
  attempts := .refl _
  blocked := fun _ h => h
  readback := fun _ h => h
  expiry := fun _ h => h

lemma RecoveryGrows.trans {R S T : InboxDeclarationCutoverRecovery} (h₁ : RecoveryGrows R S)
    (h₂ : RecoveryGrows S T) : RecoveryGrows R T where
  id := h₂.id.trans h₁.id
  relayUrls := h₂.relayUrls.trans h₁.relayUrls
  sig := h₂.sig.trans h₁.sig
  attempts := h₁.attempts.trans h₂.attempts
  blocked := fun url h => h₂.blocked url (h₁.blocked url h)
  readback := fun t h => h₂.readback t (h₁.readback t h)
  expiry := fun t h => h₂.expiry t (h₁.expiry t h)

def RecoveriesGrow (l m : List InboxDeclarationCutoverRecovery) : Prop :=
  ∀ R ∈ l, ∃ R' ∈ m, RecoveryGrows R R'

lemma RecoveriesGrow.refl (l : List InboxDeclarationCutoverRecovery) : RecoveriesGrow l l :=
  fun R hR => ⟨R, hR, .refl R⟩

lemma RecoveriesGrow.trans {l m n : List InboxDeclarationCutoverRecovery}
    (h₁ : RecoveriesGrow l m) (h₂ : RecoveriesGrow m n) : RecoveriesGrow l n := by
  intro R hR
  obtain ⟨S, hS, hRS⟩ := h₁ R hR
  obtain ⟨T, hT, hST⟩ := h₂ S hS
  exact ⟨T, hT, hRS.trans hST⟩

section
variable (P : NetworkPlatform)

structure RecoveryOk (R : InboxDeclarationCutoverRecovery) : Prop where
  id : IsHex64 R.replacementEventId
  canonical : IsCanonical (normalizeOwnerSelectedRelayUrls P) R.relayUrls
  nonempty : R.relayUrls ≠ []
  sig : R.replacementEventSig ≠ none
  planned : R.confirmationAttempts ≠ none
  attempts : ∀ a ∈ R.confirmationAttempts.getD [], AttemptOk P a
  some_attempt : R.confirmationAttempts.getD [] ≠ []
  nodup : ((R.confirmationAttempts.getD []).map (attemptKey P)).Nodup
  blocked : Settled (acceptOwnerSelected P) (R.policyBlockedRelayUrls.getD [])

structure RecoveryNormal (R : InboxDeclarationCutoverRecovery) : Prop where
  id : IsHex64 R.replacementEventId
  canonical : IsCanonical (normalizeOwnerSelectedRelayUrls P) R.relayUrls
  nonempty : R.relayUrls ≠ []
  sig : ∃ sig, R.replacementEventSig = some sig ∧ IsHex128 sig
  attempts : AttemptsNormal P (R.confirmationAttempts.getD [])
  some_attempt : R.confirmationAttempts.getD [] ≠ []
  planned : R.confirmationAttempts = some (R.confirmationAttempts.getD [])
  legacy : R.confirmationRelayUrls = none ∧ R.completedRelayUrls = none ∧ R.observedRelayUrls = none
  blocked : IsCanonical (normalizeOwnerSelectedRelayUrls P) (R.policyBlockedRelayUrls.getD [])
  blocked_eq : R.policyBlockedRelayUrls = unlessEmpty (R.policyBlockedRelayUrls.getD [])
  within : ∀ url ∈ R.policyBlockedRelayUrls.getD [], url ∈ R.relayUrls ∨
    ∃ a ∈ R.confirmationAttempts.getD [], url ∈ a.relayUrls
  version : R.policyVersion = inboxDeclarationCutoverPolicyVersion
  readback : ∀ t ∈ R.readbackObservedAt, IsSafeInteger t ∧ 0 ≤ t
  expiry : R.expiresAt = R.readbackObservedAt.map (· + inboxDeclarationCutoverGraceMs)
  expirySafe : ∀ t ∈ R.expiresAt, IsSafeInteger t ∧ 0 ≤ t

variable {P} {R S T : InboxDeclarationCutoverRecovery}
  {pend : Option PendingInboxDeclarationDistribution}

lemma RecoveryNormal.ok (hP : P.Lawful) (h : RecoveryNormal P R) : RecoveryOk P R where
  id := h.id
  canonical := h.canonical
  nonempty := h.nonempty
  sig := by
    obtain ⟨sig, hs, -⟩ := h.sig
    rw [hs]
    nofun
  planned := by
    rw [h.planned]
    nofun
  attempts := fun a ha => (h.attempts.normal a ha).ok hP
  some_attempt := h.some_attempt
  nodup := h.attempts.canonical.nodup
  blocked := h.blocked.settled (ownerSelected_accepts hP)

lemma assertPositiveInteger_ok {value : Option Int} {label : String} {v : Int} :
    assertPositiveInteger value label = .ok v ↔
      (IsSafeInteger (value.getD 0) ∧ 0 < value.getD 0) ∧ value.getD 0 = v := by
  unfold assertPositiveInteger
  rw [rejects_ok, pure_ok]
  simp [not_or]

lemma cutoverGraceMsForPolicyVersion_ok {version graceMs : Int} :
    cutoverGraceMsForPolicyVersion version = .ok graceMs ↔
      version = inboxDeclarationCutoverPolicyVersion ∧
        graceMs = inboxDeclarationCutoverGraceMs := by
  unfold cutoverGraceMsForPolicyVersion
  rw [rejects_ok, pure_ok, not_not, eq_comm (a := graceMs)]

variable {r : Option InboxDeclarationCutoverRecovery}

lemma normalizeCutoverRecovery_ok (hR : RecoveryOk P R) :
    normalizeCutoverRecovery P R pend = .ok r ↔
      ∃ attempts, normalizeConfirmationAttempts P (R.confirmationAttempts.getD [])
          (pendingForCurrent pend R.replacementEventId) = .ok attempts ∧
        (∀ sig ∈ R.replacementEventSig, IsHex128 sig) ∧
        (∀ url ∈ sortUrls (normalizeRetainedRelayUrls P (R.policyBlockedRelayUrls.getD [])),
          url ∈ R.relayUrls ∨ ∃ a ∈ attempts, url ∈ a.relayUrls) ∧
        R.policyVersion = inboxDeclarationCutoverPolicyVersion ∧
        (∀ t ∈ R.readbackObservedAt, IsSafeInteger t ∧ 0 ≤ t) ∧
        (∀ t ∈ R.expiresAt, IsSafeInteger t ∧ 0 ≤ t) ∧
        R.expiresAt = R.readbackObservedAt.map (· + inboxDeclarationCutoverGraceMs) ∧
        r = some {
          policyVersion := R.policyVersion
          replacementEventId := R.replacementEventId
          relayUrls := R.relayUrls
          replacementEventSig := R.replacementEventSig
          confirmationAttempts := unlessEmpty attempts
          confirmationRelayUrls := none
          completedRelayUrls := none
          observedRelayUrls := none
          policyBlockedRelayUrls := unlessEmpty
            (sortUrls (normalizeRetainedRelayUrls P (R.policyBlockedRelayUrls.getD [])))
          readbackObservedAt := R.readbackObservedAt
          expiresAt := R.expiresAt } := by
  have hrel : sortUrls (normalizeOwnerSelectedRelayUrls P R.relayUrls) = R.relayUrls :=
    hR.canonical
  obtain ⟨sig, hs⟩ := Option.ne_none_iff_exists'.1 hR.sig
  obtain ⟨raw, hraw⟩ := Option.ne_none_iff_exists'.1 hR.planned
  have hor : ∀ o : Option Text, (some sig <|> o) = some sig := fun _ => rfl
  unfold normalizeCutoverRecovery
  rw [if_neg (not_not.2 hR.id)]
  simp only [normalizeRetainedRelayUrls, hrel, if_neg hR.nonempty, hs, hraw, rawAttempts,
    hor, run_ok,
    optionTimestamp_ok, assertPositiveInteger_ok, cutoverGraceMsForPolicyVersion_ok,
    Option.getD_some, not_exists, not_and, not_not, mem_append, mem_flatMap]
  constructor
  · rintro ⟨hh, _, rfl, attempts, ha, hb, _, ⟨-, rfl⟩, _, ⟨hv, rfl⟩, _,
      ⟨hr, rfl⟩, _, ⟨he, rfl⟩, heq, rfl⟩
    exact ⟨attempts, ha, hh, hb, hv, hr, he, heq, rfl⟩
  · rintro ⟨attempts, ha, hh, hb, hv, hr, he, heq, rfl⟩
    refine ⟨hh, raw, rfl, attempts, ha, hb, _, ⟨?_, rfl⟩, _, ⟨hv, rfl⟩, _,
      ⟨hr, rfl⟩, _, ⟨he, rfl⟩, heq, rfl⟩
    rw [hv]
    decide

lemma attemptsGrow_ne_nil {l m : List InboxDeclarationCutoverConfirmationAttempt}
    (h : AttemptsGrow l m) (hl : l ≠ []) : m ≠ [] := by
  obtain ⟨a, ha⟩ := exists_mem_of_ne_nil l hl
  obtain ⟨b, hb, -⟩ := h a ha
  exact ne_nil_of_mem hb

lemma normalizeCutoverRecovery_spec (hP : P.Lawful) (hR : RecoveryOk P R)
    (h : normalizeCutoverRecovery P R pend = .ok r) :
    ∃ R', r = some R' ∧ RecoveryNormal P R' ∧ RecoveryGrows R R' ∧
      R'.readbackObservedAt = R.readbackObservedAt ∧ R'.expiresAt = R.expiresAt ∧
      ∀ url, url ∈ R'.policyBlockedRelayUrls.getD [] ↔ url ∈ R.policyBlockedRelayUrls.getD [] := by
  obtain ⟨attempts, ha, hh, hb, hv, hr, he, heq, rfl⟩ :=
    (normalizeCutoverRecovery_ok hR).1 h
  obtain ⟨hn, hg, -⟩ := normalizeConfirmationAttempts_spec hP hR.attempts hR.nodup ha
  have hne := attemptsGrow_ne_nil hg hR.some_attempt
  obtain ⟨sig, hs⟩ := Option.ne_none_iff_exists'.1 hR.sig
  have hm : ∀ url, url ∈ sortUrls (normalizeRetainedRelayUrls P
      (R.policyBlockedRelayUrls.getD [])) ↔ url ∈ R.policyBlockedRelayUrls.getD [] :=
    fun url => (ownerSelected_accepts hP).mem_sort hR.blocked
  refine ⟨_, rfl, ⟨hR.id, hR.canonical, hR.nonempty, ⟨sig, hs, hh sig hs⟩, ?_, ?_, ?_,
    ⟨rfl, rfl, rfl⟩, ?_, ?_, ?_, hv, hr, heq, he⟩,
    ⟨rfl, rfl, rfl, ?_, ?_, fun _ ht => ht, fun _ ht => ht⟩, rfl, rfl, ?_⟩
  · simpa only [unlessEmpty_getD] using hn
  · simpa only [unlessEmpty_getD] using hne
  · simp only [unlessEmpty_getD]
    exact unlessEmpty_eq_some.2 ⟨rfl, hne⟩
  · simp only [unlessEmpty_getD]
    exact (ownerSelected_accepts hP).sort_idem _
  · simp only [unlessEmpty_getD]
  · simpa only [unlessEmpty_getD] using hb
  · simpa only [unlessEmpty_getD] using hg
  · intro url hu
    rw [unlessEmpty_getD, hm]
    exact hu
  · intro url
    rw [unlessEmpty_getD, hm]

lemma RecoveryNormal.normalize_ok (hP : P.Lawful) (hR : RecoveryNormal P R)
    (hp : ∀ urls, ∃ outcomes, matchingOutcomes P urls
      (pendingForCurrent pend R.replacementEventId) = .ok outcomes) :
    ∃ R', normalizeCutoverRecovery P R pend = .ok (some R') := by
  obtain ⟨attempts, hatts⟩ := hR.attempts.normalize_ok hP hp
  obtain ⟨-, hg, -⟩ := normalizeConfirmationAttempts_spec hP (hR.ok hP).attempts
    (hR.ok hP).nodup hatts
  obtain ⟨sig, hsig, hh⟩ := hR.sig
  refine ⟨_, (normalizeCutoverRecovery_ok (hR.ok hP)).2 ⟨attempts, hatts, ?_, ?_,
    hR.version, hR.readback, hR.expirySafe, hR.expiry, rfl⟩⟩
  · intro s hs
    exact Option.some_inj.1 (hsig.symm.trans hs) ▸ hh
  · intro url hu
    rw [(ownerSelected_accepts hP).mem_sort (hR.ok hP).blocked] at hu
    refine (hR.within url hu).imp_right ?_
    rintro ⟨a, ha, hm⟩
    obtain ⟨a', ha', hgrw⟩ := hg a ha
    exact ⟨a', ha', hgrw.relayUrls ▸ hm⟩

lemma RecoveryNormal.normalize (hP : P.Lawful) (hR : RecoveryNormal P R) :
    normalizeCutoverRecovery P R none = .ok (some R) := by
  obtain ⟨sig, hsig, hh⟩ := hR.sig
  have hb : sortUrls (normalizeRetainedRelayUrls P (R.policyBlockedRelayUrls.getD [])) =
      R.policyBlockedRelayUrls.getD [] := hR.blocked
  refine (normalizeCutoverRecovery_ok (hR.ok hP)).2 ⟨R.confirmationAttempts.getD [],
    hR.attempts.normalize hP, ?_, ?_, hR.version, hR.readback, hR.expirySafe, hR.expiry, ?_⟩
  · intro s hs
    exact Option.some_inj.1 (hsig.symm.trans hs) ▸ hh
  · rw [hb]
    exact hR.within
  · obtain ⟨h₁, h₂, h₃⟩ := hR.legacy
    rw [hb, ← hR.blocked_eq, unlessEmpty_eq_some.2 ⟨rfl, hR.some_attempt⟩, ← hR.planned]
    cases R
    simp only at h₁ h₂ h₃
    rw [h₁, h₂, h₃]

end

section
variable {P : NetworkPlatform} {R S T : InboxDeclarationCutoverRecovery}
  {l m n r acc : List InboxDeclarationCutoverRecovery}

def Compatible (R S : InboxDeclarationCutoverRecovery) : Prop :=
  R.relayUrls = S.relayUrls ∧
    ∀ left ∈ R.replacementEventSig, ∀ right ∈ S.replacementEventSig, left = right

lemma mergeRetainedRecovery_ok : mergeRetainedRecovery P R S = .ok T ↔
    Compatible R S ∧ T = joinRecoveries P R S := by
  simp only [mergeRetainedRecovery, Compatible, run_ok, not_not, not_exists, not_and, ne_eq, and_assoc, eq_comm (a := T)]

/-- The names of the batches. -/
def recoveryKey (R : InboxDeclarationCutoverRecovery) : Text := R.replacementEventId

lemma storeRecovery_ok : storeRecovery P acc (some R) = .ok r ↔
    (∀ S, lookup recoveryKey R.replacementEventId acc = some S → Compatible S R) ∧
      r = joinInto recoveryKey (joinRecoveries P) acc R := by
  have hk : (fun x : InboxDeclarationCutoverRecovery => x.replacementEventId) = recoveryKey := rfl
  unfold storeRecovery joinInto
  simp only [hk, show recoveryKey R = R.replacementEventId from rfl]
  cases hS : lookup recoveryKey R.replacementEventId acc with
  | none =>
    rw [pure_ok]
    simp [eq_comm]
  | some S =>
    simp only [bind_ok, mergeRetainedRecovery_ok, pure_ok, Option.some.injEq, forall_eq']
    constructor
    · rintro ⟨_, ⟨hc, rfl⟩, rfl⟩
      exact ⟨hc, rfl⟩
    · rintro ⟨hc, rfl⟩
      exact ⟨_, ⟨hc, rfl⟩, rfl⟩

lemma recoveryKey_join (R S : InboxDeclarationCutoverRecovery) :
    recoveryKey (joinRecoveries P R S) = recoveryKey R := rfl

lemma recoveries_separate (hP : P.Lawful) : Separates recoveryKey (recoveryLe P) where
  total := by
    intro R S
    rw [Bool.or_eq_true]
    exact hP.localeLe_total R.replacementEventId S.replacementEventId
  trans := fun R S T => hP.localeLe_trans _ _ _
  antisymm := fun R S => hP.localeLe_antisymm _ _

variable (P) in
/-- The batches of a record as they are retained. -/
structure RecoveriesNormal (l : List InboxDeclarationCutoverRecovery) : Prop where
  canonical : Canonical recoveryKey (recoveryLe P) l
  normal : ∀ R ∈ l, RecoveryNormal P R

/-- One batch after the other, as `normalizeCutoverRecoveries` stores them. -/
def storeNext (P : NetworkPlatform) (pending : Option PendingInboxDeclarationDistribution)
    (byReplacement : List InboxDeclarationCutoverRecovery)
    (entry : InboxDeclarationCutoverRecovery) : Result (List InboxDeclarationCutoverRecovery) := do
  let recovery ← normalizeCutoverRecovery P entry pending
  storeRecovery P byReplacement recovery

variable {pend : Option PendingInboxDeclarationDistribution}

lemma normalizeCutoverRecoveries_eq_ok : normalizeCutoverRecoveries P l pend = .ok r ↔
      ∃ stored, foldResult (storeNext P pend) [] l = .ok stored ∧
        r = sortBy (recoveryLe P) stored := by
  show ((foldResult (storeNext P pend) [] l >>= fun byReplacement =>
    pure (sortBy (recoveryLe P) byReplacement)) = Except.ok r) ↔ _
  simp only [run_ok, eq_comm (a := r)]

lemma foldResult_distinct (hP : P.Lawful) (hl : ∀ R ∈ l, RecoveryOk P R)
    (hnd : ((acc ++ l).map recoveryKey).Nodup)
    (h : foldResult (storeNext P pend) acc l = .ok r) : ∃ l', r = acc ++ l' ∧
      Forall₂ (fun R R' => normalizeCutoverRecovery P R pend = .ok (some R')) l l' := by
  induction l generalizing acc with
  | nil =>
    cases h
    exact ⟨[], (append_nil _).symm, .nil⟩
  | cons R l ih =>
    obtain ⟨acc', hs, hr⟩ := foldResult_cons_ok.1 h
    simp only [storeNext, bind_ok] at hs
    obtain ⟨norm, hn, hst⟩ := hs
    obtain ⟨R', rfl, -, hg, -⟩ :=
      normalizeCutoverRecovery_spec hP (hl R mem_cons_self) hn
    have hk : recoveryKey R' = recoveryKey R := hg.id
    have hnew : ∀ S ∈ acc, recoveryKey S ≠ recoveryKey R' := by
      intro S hS heq
      rw [map_append, nodup_append] at hnd
      exact hnd.2.2 _ (mem_map_of_mem hS) (recoveryKey R) mem_cons_self
        (heq.trans hk)
    have hno : lookup recoveryKey (recoveryKey R') acc = none := lookup_eq_none.2 hnew
    obtain ⟨-, rfl⟩ := storeRecovery_ok.1 hst
    have hset : joinInto recoveryKey (joinRecoveries P) acc R' = acc ++ [R'] := by
      unfold joinInto
      rw [hno]
      exact mapSet_of_new hnew
    rw [hset] at hr
    obtain ⟨l', rfl, hl'⟩ := ih (fun S hS => hl S (mem_cons_of_mem _ hS))
      (by simpa [hk] using hnd) hr
    exact ⟨R' :: l', by simp, .cons hn hl'⟩

lemma normalizeCutoverRecoveries_spec (hP : P.Lawful) (hl : ∀ R ∈ l, RecoveryOk P R)
    (hnd : (l.map recoveryKey).Nodup) (h : normalizeCutoverRecoveries P l pend = .ok r) :
    RecoveriesNormal P r ∧
      (∀ R ∈ l, ∃ R' ∈ r, normalizeCutoverRecovery P R pend = .ok (some R')) ∧
      ∀ R' ∈ r, ∃ R ∈ l, normalizeCutoverRecovery P R pend = .ok (some R') := by
  obtain ⟨stored, hf, rfl⟩ := normalizeCutoverRecoveries_eq_ok.1 h
  obtain ⟨l', hsto, hl'⟩ := foldResult_distinct hP hl (by simpa using hnd) hf
  subst hsto
  have hs : ∀ R ∈ l, ∀ R', normalizeCutoverRecovery P R pend = .ok (some R') →
      RecoveryNormal P R' ∧ recoveryKey R' = recoveryKey R := by
    intro R hR R' hR'
    obtain ⟨_, hso, hn, hg, -⟩ := normalizeCutoverRecovery_spec hP (hl R hR) hR'
    cases hso
    exact ⟨hn, hg.id⟩
  have hk : stored.map recoveryKey = l.map recoveryKey := by
    clear hf hnd h hl
    induction hl' with
    | nil => rfl
    | cons hab _ ih =>
      rw [map_cons, map_cons, (hs _ mem_cons_self _ hab).2,
        ih fun S hS => hs S (mem_cons_of_mem _ hS)]
  refine ⟨⟨canonical_sortBy (recoveries_separate hP) (hk ▸ hnd), ?_⟩, ?_, ?_⟩
  · intro R' hR'
    obtain ⟨R, hR, hab⟩ := forall₂_left hl'.flip (mem_sortBy.1 hR')
    exact (hs R hR R' hab).1
  · intro R hR
    obtain ⟨R', hR', hab⟩ := forall₂_left hl' hR
    exact ⟨R', mem_sortBy.2 hR', hab⟩
  · intro R' hR'
    exact forall₂_left hl'.flip (mem_sortBy.1 hR')

lemma foldResult_joins (hP : P.Lawful) (hm : ∀ S ∈ m, RecoveryNormal P S)
    (hnd : (m.map recoveryKey).Nodup) : foldResult (storeNext P none) acc m = .ok r ↔
      (∀ S ∈ m, ∀ R, lookup recoveryKey S.replacementEventId acc = some R → Compatible R S) ∧
        r = m.foldl (joinInto recoveryKey (joinRecoveries P)) acc := by
  induction m generalizing acc with
  | nil =>
    constructor
    · intro h
      cases h
      exact ⟨nofun, rfl⟩
    · rintro ⟨-, rfl⟩
      rfl
  | cons S m ih =>
    rw [map_cons, nodup_cons] at hnd
    have hs : ∀ acc', storeNext P none acc S = .ok acc' ↔
        (∀ R, lookup recoveryKey S.replacementEventId acc = some R → Compatible R S) ∧
          acc' = joinInto recoveryKey (joinRecoveries P) acc S := by
      intro acc'
      simp only [storeNext, (hm S mem_cons_self).normalize hP, ok_bind]
      exact storeRecovery_ok
    have ho : ∀ S' ∈ m, lookup recoveryKey S'.replacementEventId
        (joinInto recoveryKey (joinRecoveries P) acc S) =
          lookup recoveryKey S'.replacementEventId acc := by
      intro S' hS'
      rw [lookup_joinInto recoveryKey_join, if_neg]
      intro heq
      exact hnd.1 (mem_map.2 ⟨S', hS', heq.symm⟩)
    rw [foldResult_cons_ok]
    simp only [hs]
    constructor
    · rintro ⟨_, ⟨hS, rfl⟩, hr⟩
      obtain ⟨hl, rfl⟩ :=
        (ih (fun S' hS' => hm S' (mem_cons_of_mem _ hS')) hnd.2).1 hr
      refine ⟨?_, rfl⟩
      intro S' hS'
      rcases mem_cons.1 hS' with rfl | hS'
      · exact hS
      · rw [← ho S' hS']
        exact hl S' hS'
    · rintro ⟨ha, rfl⟩
      refine ⟨_, ⟨ha S mem_cons_self, rfl⟩,
        (ih (fun S' hS' => hm S' (mem_cons_of_mem _ hS')) hnd.2).2 ⟨?_, rfl⟩⟩
      intro S' hS'
      rw [ho S' hS']
      exact ha S' (mem_cons_of_mem _ hS')

def CompatibleLists (l m : List InboxDeclarationCutoverRecovery) : Prop :=
  ∀ R ∈ l, ∀ S ∈ m, R.replacementEventId = S.replacementEventId → Compatible R S

lemma mergeRecoveries_ok (hP : P.Lawful) (hl : RecoveriesNormal P l)
    (hm : RecoveriesNormal P m) : normalizeCutoverRecoveries P (l ++ m) none = .ok r ↔
      CompatibleLists l m ∧ r = joinLists recoveryKey (joinRecoveries P) (recoveryLe P) l m := by
  have hfst : ∀ stored, foldResult (storeNext P none) [] l = .ok stored ↔ stored = l := by
    intro stored
    rw [foldResult_joins hP hl.normal hl.canonical.nodup]
    show _ ∧ stored = joinAll recoveryKey (joinRecoveries P) l ↔ _
    rw [joinAll_of_nodup hl.canonical.nodup]
    exact and_iff_right fun S _ R hR => by cases hR
  have hc : (∀ S ∈ m, ∀ R, lookup recoveryKey S.replacementEventId l = some R →
      Compatible R S) ↔ CompatibleLists l m := by
    constructor
    · intro h R hR S hS heq
      exact h S hS R ((lookup_eq_some hl.canonical.nodup).2 ⟨hR, heq⟩)
    · intro h S hS R hR
      obtain ⟨hmem, heq⟩ := mem_of_lookup hR
      exact h R hmem S hS heq
  rw [normalizeCutoverRecoveries_eq_ok]
  simp only [foldResult_append, hfst]
  have ha : (l ++ m).foldl (joinInto recoveryKey (joinRecoveries P)) [] =
      m.foldl (joinInto recoveryKey (joinRecoveries P)) l := by
    rw [foldl_append]
    exact congrArg (m.foldl _) (joinAll_of_nodup hl.canonical.nodup)
  constructor
  · rintro ⟨_, ⟨_, rfl, hf⟩, rfl⟩
    obtain ⟨hme, rfl⟩ := (foldResult_joins hP hm.normal hm.canonical.nodup).1 hf
    refine ⟨hc.1 hme, ?_⟩
    rw [joinLists, joinAll, ha]
  · rintro ⟨hme, rfl⟩
    refine ⟨_, ⟨l, rfl, (foldResult_joins hP hm.normal hm.canonical.nodup).2
      ⟨hc.2 hme, rfl⟩⟩, ?_⟩
    rw [joinLists, joinAll, ha]

lemma activeReadback_eq (hR : RecoveryNormal P R) (hS : RecoveryNormal P S) :
    activeReadback R S = (earlierStagedAt R.readbackObservedAt S.readbackObservedAt,
      (earlierStagedAt R.readbackObservedAt S.readbackObservedAt).map
        (· + inboxDeclarationCutoverGraceMs)) := by
  have hr := hR.expiry
  have hs := hS.expiry
  unfold activeReadback
  cases hrt : R.readbackObservedAt with
  | none =>
    cases hst : S.readbackObservedAt with
    | none => rfl
    | some t =>
      rw [hst] at hs
      simp only [earlierStagedAt, hs]
  | some t =>
    rw [hrt] at hr
    cases hst : S.readbackObservedAt with
    | none => simp only [earlierStagedAt, hr]
    | some u =>
      rw [hst] at hs
      by_cases h : t ≤ u
      · simp only [if_pos h, earlierStagedAt, hr, min_eq_left h]
      · simp only [if_neg h, earlierStagedAt, hs, min_eq_right (le_of_not_ge h)]

section

variable (hP : P.Lawful)
include hP

lemma RecoveryNormal.join (hR : RecoveryNormal P R) (hS : RecoveryNormal P S)
    (hRS : Compatible R S) : RecoveryNormal P (joinRecoveries P R S) := by
  obtain ⟨sig, hs, hh⟩ := hR.sig
  have hatts := hR.attempts.merge hP hS.attempts
  have hg := hR.attempts.merge_grows hP hS.attempts
  have hne := attemptsGrow_ne_nil hg hR.some_attempt
  have hblk := (hR.ok hP).blocked.append (hS.ok hP).blocked
  have hact := activeReadback_eq hR hS
  have he : ∀ t ∈ earlierStagedAt R.readbackObservedAt S.readbackObservedAt,
      t ∈ R.readbackObservedAt ∨ t ∈ S.readbackObservedAt := by
    intro t ht
    cases hrt : R.readbackObservedAt with
    | none =>
      rw [hrt] at ht
      exact .inr ht
    | some u =>
      rw [hrt] at ht
      cases hst : S.readbackObservedAt with
      | none =>
        rw [hst] at ht
        exact .inl ht
      | some v =>
        rw [hst] at ht
        cases ht
        exact (min_choice u v).imp (fun h => congrArg some h.symm) fun h => congrArg some h.symm
  have hexpy : ∀ t, t ∈ R.readbackObservedAt ∨ t ∈ S.readbackObservedAt →
      IsSafeInteger (t + inboxDeclarationCutoverGraceMs) ∧
        0 ≤ t + inboxDeclarationCutoverGraceMs := by
    rintro t (ht | ht)
    · exact hR.expirySafe _ (hR.expiry ▸ Option.mem_map_of_mem _ ht)
    · exact hS.expirySafe _ (hS.expiry ▸ Option.mem_map_of_mem _ ht)
  refine ⟨hR.id, hR.canonical, hR.nonempty, ⟨sig, ?_, hh⟩, ?_, ?_, ?_, ⟨rfl, rfl, rfl⟩, ?_, ?_, ?_,
    hR.version, ?_, ?_, ?_⟩
  · rw [joinRecoveries, hs]
    rfl
  · rw [joinRecoveries, unlessEmpty_getD]
    exact hatts
  · rw [joinRecoveries, unlessEmpty_getD]
    exact hne
  · rw [joinRecoveries, unlessEmpty_getD]
    exact unlessEmpty_eq_some.2 ⟨rfl, hne⟩
  · rw [joinRecoveries, unlessEmpty_getD]
    exact (ownerSelected_accepts hP).sort_idem _
  · rw [joinRecoveries, unlessEmpty_getD]
  · intro url hurl
    rw [joinRecoveries, unlessEmpty_getD, (ownerSelected_accepts hP).mem_sort hblk] at hurl
    rw [joinRecoveries, unlessEmpty_getD]
    rcases mem_append.1 hurl with h | h
    · refine (hR.within url h).imp_right ?_
      rintro ⟨a, ha, hm⟩
      obtain ⟨a', ha', hgrw⟩ := hg a ha
      exact ⟨a', ha', hgrw.relayUrls ▸ hm⟩
    · rcases hS.within url h with h | ⟨b, hb, hm⟩
      · exact .inl (hRS.1 ▸ h)
      · obtain ⟨c, hc, rfl | ⟨a, ha, hab, rfl⟩⟩ := exists_joined_right attemptKey_joinAttempts
          hR.attempts.canonical.nodup hS.attempts.canonical.nodup hb
        · exact .inr ⟨c, hc, hm⟩
        · exact .inr ⟨_, hc, by rw [joinAttempts, relayUrls_of_key hP hab]; exact hm⟩
  · intro t ht
    rw [joinRecoveries, hact] at ht
    exact (he t ht).elim (hR.readback t) (hS.readback t)
  · rw [joinRecoveries, hact]
  · intro t ht
    rw [joinRecoveries, hact] at ht
    obtain ⟨u, hu, rfl⟩ := Option.mem_map.1 ht
    exact hexpy u (he u hu)

lemma mergeAttempts_comm {a b : List InboxDeclarationCutoverConfirmationAttempt}
    (ha : AttemptsNormal P a) (hb : AttemptsNormal P b) :
    mergeConfirmationAttempts P (a ++ b) = mergeConfirmationAttempts P (b ++ a) := by
  apply joinLists_comm attemptKey_joinAttempts (attempts_separate hP) ha.canonical.nodup
    hb.canonical.nodup
  intro x hx y hy hxy
  exact joinAttempts_comm hP ((ha.normal x hx).ok hP) ((hb.normal y hy).ok hP)
    (relayUrls_of_key hP hxy)

lemma mergeAttempts_assoc {a b c : List InboxDeclarationCutoverConfirmationAttempt}
    (ha : AttemptsNormal P a) (hb : AttemptsNormal P b) (hc : AttemptsNormal P c) :
    mergeConfirmationAttempts P (mergeConfirmationAttempts P (a ++ b) ++ c) =
      mergeConfirmationAttempts P (a ++ mergeConfirmationAttempts P (b ++ c)) := by
  apply joinLists_assoc attemptKey_joinAttempts (attempts_separate hP) ha.canonical.nodup
    hb.canonical.nodup hc.canonical.nodup
  intro x hx y hy z hz _ _
  exact joinAttempts_assoc hP ((ha.normal x hx).ok hP) ((hb.normal y hy).ok hP)
    ((hc.normal z hz).ok hP)

lemma mergeAttempts_self {a : List InboxDeclarationCutoverConfirmationAttempt}
    (ha : AttemptsNormal P a) : mergeConfirmationAttempts P (a ++ a) = a :=
  joinLists_self attemptKey_joinAttempts (attempts_separate hP) ha.canonical
    fun x hx => joinAttempts_self hP (ha.normal x hx)

lemma retainedUrls_assoc {x y z : List Text} (hx : Settled (acceptOwnerSelected P) x)
    (hy : Settled (acceptOwnerSelected P) y) (hz : Settled (acceptOwnerSelected P) z) :
    sortUrls (normalizeRetainedRelayUrls P
        (sortUrls (normalizeRetainedRelayUrls P (x ++ y)) ++ z)) =
      sortUrls (normalizeRetainedRelayUrls P
        (x ++ sortUrls (normalizeRetainedRelayUrls P (y ++ z)))) := by
  have hs := fun l => (ownerSelected_accepts hP).settled_sort l
  apply (ownerSelected_accepts hP).sort_ext ((hs _).append hz) (hx.append (hs _))
  intro u
  rw [mem_append, mem_append, (ownerSelected_accepts hP).mem_sort (hx.append hy),
    (ownerSelected_accepts hP).mem_sort (hy.append hz), mem_append, mem_append, or_assoc]

end

lemma sig_eq (hR : RecoveryNormal P R) (hS : RecoveryNormal P S) (h : Compatible R S) :
    R.replacementEventSig = S.replacementEventSig := by
  obtain ⟨s, hs, -⟩ := hR.sig
  obtain ⟨t, ht, -⟩ := hS.sig
  rw [hs, ht, h.2 s hs t ht]

lemma joinRecoveries_comm (hP : P.Lawful) (hR : RecoveryNormal P R) (hS : RecoveryNormal P S)
    (hid : R.replacementEventId = S.replacementEventId) (h : Compatible R S) :
    joinRecoveries P R S = joinRecoveries P S R := by
  have hb := (ownerSelected_accepts hP).sort_ext
    ((hR.ok hP).blocked.append (hS.ok hP).blocked) ((hS.ok hP).blocked.append (hR.ok hP).blocked)
    fun u => by simp only [mem_append, or_comm]
  have hs : (R.replacementEventSig <|> S.replacementEventSig) =
      (S.replacementEventSig <|> R.replacementEventSig) := by
    rw [sig_eq hR hS h]
  unfold joinRecoveries
  rw [hR.version, hS.version, hid, h.1, hs, mergeAttempts_comm hP hR.attempts hS.attempts,
    activeReadback_eq hR hS, activeReadback_eq hS hR, earlierStagedAt_comm]
  simp only [normalizeRetainedRelayUrls, hb]

lemma joinRecoveries_assoc (hP : P.Lawful) (hR : RecoveryNormal P R) (hS : RecoveryNormal P S)
    (hT : RecoveryNormal P T) (hRS : Compatible R S) (hST : Compatible S T) :
    joinRecoveries P (joinRecoveries P R S) T = joinRecoveries P R (joinRecoveries P S T) := by
  have hl := activeReadback_eq (hR.join hP hS hRS) hT
  have hr := activeReadback_eq hR (hS.join hP hT hST)
  have hab := activeReadback_eq hR hS
  have hbc := activeReadback_eq hS hT
  obtain ⟨s, hs, -⟩ := hR.sig
  have ha : activeReadback (joinRecoveries P R S) T =
      activeReadback R (joinRecoveries P S T) := by
    rw [hl, hr]
    simp only [joinRecoveries, hab, hbc, earlierStagedAt_assoc]
  rw [joinRecoveries, joinRecoveries.eq_def P R (joinRecoveries P S T), ha]
  simp only [joinRecoveries, unlessEmpty_getD, hs,
    mergeAttempts_assoc hP hR.attempts hS.attempts hT.attempts,
    retainedUrls_assoc hP (hR.ok hP).blocked (hS.ok hP).blocked (hT.ok hP).blocked]
  rfl

lemma joinRecoveries_self (hP : P.Lawful) (hR : RecoveryNormal P R) : joinRecoveries P R R = R := by
  have hs := (hR.ok hP).blocked
  have hb : sortUrls (normalizeRetainedRelayUrls P
      (R.policyBlockedRelayUrls.getD [] ++ R.policyBlockedRelayUrls.getD [])) =
        R.policyBlockedRelayUrls.getD [] :=
    ((ownerSelected_accepts hP).sort_ext (hs.append hs) hs
      fun u => by simp only [mem_append, or_self]).trans hR.blocked
  have he : earlierStagedAt R.readbackObservedAt R.readbackObservedAt =
      R.readbackObservedAt := by
    cases R.readbackObservedAt <;> simp [earlierStagedAt]
  have hsig : (R.replacementEventSig <|> R.replacementEventSig) = R.replacementEventSig := by
    cases R.replacementEventSig <;> rfl
  obtain ⟨h₁, h₂, h₃⟩ := hR.legacy
  rw [joinRecoveries, activeReadback_eq hR hR, he, ← hR.expiry, hb, ← hR.blocked_eq,
    mergeAttempts_self hP hR.attempts, unlessEmpty_eq_some.2 ⟨rfl, hR.some_attempt⟩, ← hR.planned,
    hsig]
  cases R
  simp only at h₁ h₂ h₃
  rw [h₁, h₂, h₃]

end

end Conduit.Network
