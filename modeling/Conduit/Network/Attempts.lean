import Conduit.Network.Cutover
import Conduit.Network.RelaySets

namespace Conduit.Network

open Js Stock Throwing CheckoutSpark List

variable {name : String}

lemma assertLocalTimestamp_ok {value v : Int} :
    assertLocalTimestamp value name = .ok v ↔ (IsSafeInteger value ∧ 0 ≤ value) ∧ value = v := by
  unfold assertLocalTimestamp
  rw [rejects_ok, pure_ok]
  simp [not_or]

lemma optionTimestamp_ok {value v : Option Int} :
    optionResult (assertLocalTimestamp · name) value = .ok v ↔
      (∀ t ∈ value, IsSafeInteger t ∧ 0 ≤ t) ∧ value = v := by
  cases value with
  | none => simp [optionResult]
  | some t =>
    simp only [optionResult, run_ok, assertLocalTimestamp_ok]
    constructor
    · rintro ⟨u, ⟨hs, rfl⟩, rfl⟩
      exact ⟨fun w hw => Option.some_inj.1 hw ▸ hs, rfl⟩
    · rintro ⟨hs, rfl⟩
      exact ⟨t, ⟨hs t rfl, rfl⟩, rfl⟩

lemma unlessEmpty_eq_some {α : Type} {l m : List α} : unlessEmpty l = some m ↔ l = m ∧ l ≠ [] := by
  cases l <;> simp [unlessEmpty]

structure AttemptGrows (old new : InboxDeclarationCutoverConfirmationAttempt) : Prop where
  relayUrls : new.relayUrls = old.relayUrls
  completed : ∀ url ∈ old.completedRelayUrls.getD [], url ∈ new.completedRelayUrls.getD []
  observed : ∀ url ∈ old.observedRelayUrls.getD [], url ∈ new.observedRelayUrls.getD []

lemma AttemptGrows.refl (a : InboxDeclarationCutoverConfirmationAttempt) : AttemptGrows a a :=
  ⟨rfl, fun _ h => h, fun _ h => h⟩

lemma AttemptGrows.trans {a b c : InboxDeclarationCutoverConfirmationAttempt}
    (h₁ : AttemptGrows a b) (h₂ : AttemptGrows b c) : AttemptGrows a c where
  relayUrls := h₂.relayUrls.trans h₁.relayUrls
  completed := fun url h => h₂.completed url (h₁.completed url h)
  observed := fun url h => h₂.observed url (h₁.observed url h)

section
variable (P : NetworkPlatform)

structure AttemptOk (a : InboxDeclarationCutoverConfirmationAttempt) : Prop where
  canonical : IsCanonical (normalizeSecureOrIsolatedE2eRelayUrls P) a.relayUrls
  nonempty : a.relayUrls ≠ []
  completed : Settled (acceptSecure P) (a.completedRelayUrls.getD [])
  observed : Settled (acceptSecure P) (a.observedRelayUrls.getD [])

structure AttemptNormal (a : InboxDeclarationCutoverConfirmationAttempt) : Prop where
  canonical : IsCanonical (normalizeSecureOrIsolatedE2eRelayUrls P) a.relayUrls
  nonempty : a.relayUrls ≠ []
  completed : IsCanonical (normalizeSecureOrIsolatedE2eRelayUrls P)
    (a.completedRelayUrls.getD [])
  completed_eq : a.completedRelayUrls = unlessEmpty (a.completedRelayUrls.getD [])
  observed : IsCanonical (normalizeSecureOrIsolatedE2eRelayUrls P) (a.observedRelayUrls.getD [])
  observed_eq : a.observedRelayUrls = unlessEmpty (a.observedRelayUrls.getD [])
  within : ∀ url ∈ a.completedRelayUrls.getD [], url ∈ a.relayUrls
  seen : ∀ url ∈ a.observedRelayUrls.getD [], url ∈ a.completedRelayUrls.getD []
  stagedAt : ∀ t ∈ a.stagedAt, IsSafeInteger t ∧ 0 ≤ t

variable {P} {a b : InboxDeclarationCutoverConfirmationAttempt}
  {pend : Option PendingInboxDeclarationDistribution}

lemma AttemptNormal.ok (hP : P.Lawful) (h : AttemptNormal P a) : AttemptOk P a where
  canonical := h.canonical
  nonempty := h.nonempty
  completed := h.completed.settled (secure_accepts hP)
  observed := h.observed.settled (secure_accepts hP)

variable {outcomes : List NetworkPreferenceRelayOutcome}
  {r : Option InboxDeclarationCutoverConfirmationAttempt} {relayUrls : List Text} {url : Text}

lemma mem_readbackRelayUrls {statuses : List NetworkPreferenceReadbackStatus} :
    url ∈ readbackRelayUrls statuses relayUrls outcomes ↔
      url ∈ relayUrls ∧ ∃ o ∈ outcomes, o.relayUrl = url ∧ o.readbackStatus ∈ statuses := by
  simp only [readbackRelayUrls, mem_map, mem_filter, decide_eq_true_eq]
  constructor
  · rintro ⟨o, ⟨ho, hm, hst⟩, rfl⟩
    exact ⟨hm, o, ho, rfl, hst⟩
  · rintro ⟨hm, o, ho, rfl, hst⟩
    exact ⟨o, ⟨ho, hm, hst⟩, rfl⟩

lemma readback_observed (h : url ∈ readbackRelayUrls [.observed] relayUrls outcomes) :
    url ∈ readbackRelayUrls [.observed, .absent] relayUrls outcomes := by
  rw [mem_readbackRelayUrls] at h ⊢
  obtain ⟨hm, o, ho, hu, hst⟩ := h
  exact ⟨hm, o, ho, hu, mem_cons.2 (.inl (mem_singleton.1 hst))⟩

lemma settled_readback (hP : P.Lawful)
    (hc : IsCanonical (normalizeSecureOrIsolatedE2eRelayUrls P) a.relayUrls)
    (statuses : List NetworkPreferenceReadbackStatus)
    (outcomes : List NetworkPreferenceRelayOutcome) :
    Settled (acceptSecure P) (readbackRelayUrls statuses a.relayUrls outcomes) :=
  (hc.settled (secure_accepts hP)).subset fun _ h => (mem_readbackRelayUrls.1 h).1

lemma mem_sharedUrls (hP : P.Lawful) {l : List Text} (hl : Settled (acceptSecure P) l) :
    url ∈ sharedUrls P l ↔ url ∈ l :=
  (secure_accepts hP).mem_sort hl

lemma sharedUrls_canonical (hP : P.Lawful) (l : List Text) :
    IsCanonical (normalizeSecureOrIsolatedE2eRelayUrls P) (sharedUrls P l) :=
  (secure_accepts hP).sort_idem l

lemma normalizeConfirmationAttempt_ok (ha : AttemptOk P a) :
    normalizeConfirmationAttempt P a pend = .ok r ↔
      ∃ outcomes, matchingOutcomes P a.relayUrls pend = .ok outcomes ∧
        ¬ ((∃ url ∈ sharedUrls P (a.completedRelayUrls.getD [] ++
            readbackRelayUrls [.observed, .absent] a.relayUrls outcomes) ++
          sharedUrls P (a.observedRelayUrls.getD [] ++
            readbackRelayUrls [.observed] a.relayUrls outcomes), url ∉ a.relayUrls) ∨
          ∃ url ∈ sharedUrls P (a.observedRelayUrls.getD [] ++
            readbackRelayUrls [.observed] a.relayUrls outcomes),
            url ∉ sharedUrls P (a.completedRelayUrls.getD [] ++
              readbackRelayUrls [.observed, .absent] a.relayUrls outcomes)) ∧
        (∀ t ∈ a.stagedAt, IsSafeInteger t ∧ 0 ≤ t) ∧
        r = some ⟨a.relayUrls,
          unlessEmpty (sharedUrls P (a.completedRelayUrls.getD [] ++
            readbackRelayUrls [.observed, .absent] a.relayUrls outcomes)),
          unlessEmpty (sharedUrls P (a.observedRelayUrls.getD [] ++
            readbackRelayUrls [.observed] a.relayUrls outcomes)), a.stagedAt⟩ := by
  have hr : sharedUrls P a.relayUrls = a.relayUrls := ha.canonical
  unfold normalizeConfirmationAttempt
  simp only [hr, if_neg ha.nonempty, run_ok, optionTimestamp_ok]
  constructor
  · rintro ⟨outcomes, ho, hw, staged, ⟨hs, rfl⟩, rfl⟩
    exact ⟨outcomes, ho, hw, hs, rfl⟩
  · rintro ⟨outcomes, ho, hw, hs, rfl⟩
    exact ⟨outcomes, ho, hw, a.stagedAt, ⟨hs, rfl⟩, rfl⟩

lemma normalizeConfirmationAttempt_spec (hP : P.Lawful) (ha : AttemptOk P a)
    (h : normalizeConfirmationAttempt P a pend = .ok r) :
    ∃ a', r = some a' ∧ AttemptNormal P a' ∧ AttemptGrows a a' ∧ a'.stagedAt = a.stagedAt := by
  obtain ⟨outcomes, -, hw, hs, rfl⟩ := (normalizeConfirmationAttempt_ok ha).1 h
  have hc := ha.completed.append
    (settled_readback hP ha.canonical [.observed, .absent] outcomes)
  have ho := ha.observed.append (settled_readback hP ha.canonical [.observed] outcomes)
  simp only [not_or, not_exists, not_and, not_not] at hw
  refine ⟨_, rfl, ⟨ha.canonical, ha.nonempty, ?_, ?_, ?_, ?_, ?_, ?_, hs⟩, ⟨rfl, ?_, ?_⟩, rfl⟩
  · rw [unlessEmpty_getD]
    exact sharedUrls_canonical hP _
  · rw [unlessEmpty_getD]
  · rw [unlessEmpty_getD]
    exact sharedUrls_canonical hP _
  · rw [unlessEmpty_getD]
  · intro url hu
    rw [unlessEmpty_getD] at hu
    exact hw.1 url (mem_append_left _ hu)
  · intro url hu
    rw [unlessEmpty_getD] at hu ⊢
    exact hw.2 url hu
  · intro url hu
    rw [unlessEmpty_getD, mem_sharedUrls hP hc]
    exact mem_append_left _ hu
  · intro url hu
    rw [unlessEmpty_getD, mem_sharedUrls hP ho]
    exact mem_append_left _ hu

lemma AttemptNormal.normalize_ok (hP : P.Lawful) (ha : AttemptNormal P a)
    (hp : matchingOutcomes P a.relayUrls pend = .ok outcomes) :
    ∃ a', normalizeConfirmationAttempt P a pend = .ok (some a') := by
  have hcom := (ha.ok hP).completed.append
    (settled_readback hP ha.canonical [.observed, .absent] outcomes)
  have hobs := (ha.ok hP).observed.append
    (settled_readback hP ha.canonical [.observed] outcomes)
  refine ⟨_, (normalizeConfirmationAttempt_ok (ha.ok hP)).2
    ⟨outcomes, hp, ?_, ha.stagedAt, rfl⟩⟩
  have hs : ∀ url ∈ a.observedRelayUrls.getD [] ++
      readbackRelayUrls [.observed] a.relayUrls outcomes,
      url ∈ a.completedRelayUrls.getD [] ++
        readbackRelayUrls [.observed, .absent] a.relayUrls outcomes := by
    intro url hu
    rcases mem_append.1 hu with hold | hn
    · exact mem_append_left _ (ha.seen url hold)
    · exact mem_append_right _ (readback_observed hn)
  have hr : ∀ url ∈ a.completedRelayUrls.getD [] ++
      readbackRelayUrls [.observed, .absent] a.relayUrls outcomes, url ∈ a.relayUrls := by
    intro url hu
    rcases mem_append.1 hu with hold | hn
    · exact ha.within url hold
    · exact (mem_readbackRelayUrls.1 hn).1
  simp only [mem_append, mem_sharedUrls hP hcom, mem_sharedUrls hP hobs]
  simp only [not_or, not_exists, not_and, not_not]
  constructor
  · intro url hu
    rcases hu with hc | ho
    · exact hr url (mem_append.2 hc)
    · exact hr url (hs url (mem_append.2 ho))
  · intro url hu hcom
    exact (mem_append.1 (hs url (mem_append.2 hu))).resolve_left hcom

lemma AttemptNormal.normalize (hP : P.Lawful) (ha : AttemptNormal P a) :
    normalizeConfirmationAttempt P a none = .ok (some a) := by
  obtain ⟨a', ha'⟩ : ∃ a', normalizeConfirmationAttempt P a none = .ok (some a') :=
    ha.normalize_ok hP rfl
  obtain ⟨outcomes, ho, -, -, heq⟩ := (normalizeConfirmationAttempt_ok (ha.ok hP)).1 ha'
  cases ho
  rw [ha', heq]
  have hc : sharedUrls P (a.completedRelayUrls.getD []) =
      a.completedRelayUrls.getD [] := ha.completed
  have hobs : sharedUrls P (a.observedRelayUrls.getD []) =
      a.observedRelayUrls.getD [] := ha.observed
  simp only [readbackRelayUrls, filter_nil, map_nil, append_nil, hc,
    hobs, ← ha.completed_eq, ← ha.observed_eq]

end

section
variable {P : NetworkPlatform} {a b c : InboxDeclarationCutoverConfirmationAttempt}
  {l m n : List InboxDeclarationCutoverConfirmationAttempt}

lemma attemptLe_iff : attemptLe P a b = true ↔ a.stagedAt.getD 0 < b.stagedAt.getD 0 ∨
    a.stagedAt.getD 0 = b.stagedAt.getD 0 ∧
      P.localeLe (attemptKey P a) (attemptKey P b) = true := by
  unfold attemptLe attemptKey
  by_cases h : a.stagedAt.getD 0 - b.stagedAt.getD 0 = 0
  · have heq : a.stagedAt.getD 0 = b.stagedAt.getD 0 := by omega
    simp [heq]
  · have hne : a.stagedAt.getD 0 ≠ b.stagedAt.getD 0 := by omega
    simp only [h, ne_eq, not_false_eq_true, if_true, decide_eq_true_eq, hne, false_and, or_false]
    omega

lemma attempts_separate (hP : P.Lawful) : Separates (attemptKey P) (attemptLe P) where
  total := by
    intro a b
    rw [Bool.or_eq_true, attemptLe_iff, attemptLe_iff]
    rcases lt_trichotomy (a.stagedAt.getD 0) (b.stagedAt.getD 0) with h | h | h
    · exact .inl (.inl h)
    · exact (hP.localeLe_total (attemptKey P a) (attemptKey P b)).imp
        (fun hle => .inr ⟨h, hle⟩) fun hle => .inr ⟨h.symm, hle⟩
    · exact .inr (.inl h)
  trans := by
    intro a b c hab hbc
    rw [attemptLe_iff] at hab hbc ⊢
    rcases hab with hab | ⟨hab, hk⟩ <;> rcases hbc with hbc | ⟨hbc, hkbc⟩
    · exact .inl (hab.trans hbc)
    · exact .inl (hbc ▸ hab)
    · exact .inl (hab ▸ hbc)
    · exact .inr ⟨hab.trans hbc, hP.localeLe_trans _ _ _ hk hkbc⟩
  antisymm := by
    intro a b hab hba
    rw [attemptLe_iff] at hab hba
    rcases hab with hab | ⟨hab, hk⟩ <;> rcases hba with hba | ⟨hba, hkba⟩
    · omega
    · omega
    · omega
    · exact hP.localeLe_antisymm _ _ hk hkba

lemma attemptKey_joinAttempts (a b : InboxDeclarationCutoverConfirmationAttempt) :
    attemptKey P (joinAttempts P a b) = attemptKey P a := rfl

lemma relayUrls_of_key (hP : P.Lawful) (h : attemptKey P a = attemptKey P b) :
    a.relayUrls = b.relayUrls :=
  hP.key_injective _ _ h

lemma AttemptNormal.join (hP : P.Lawful) (ha : AttemptNormal P a) (hb : AttemptNormal P b)
    (hab : a.relayUrls = b.relayUrls) : AttemptNormal P (joinAttempts P a b) where
  canonical := ha.canonical
  nonempty := ha.nonempty
  completed := by
    rw [joinAttempts, unlessEmpty_getD]
    exact sharedUrls_canonical hP _
  completed_eq := by rw [joinAttempts, unlessEmpty_getD]
  observed := by
    rw [joinAttempts, unlessEmpty_getD]
    exact sharedUrls_canonical hP _
  observed_eq := by rw [joinAttempts, unlessEmpty_getD]
  within := by
    intro url hu
    rw [joinAttempts, unlessEmpty_getD,
      mem_sharedUrls hP ((ha.ok hP).completed.append (hb.ok hP).completed)] at hu
    rcases mem_append.1 hu with h | h
    · exact ha.within url h
    · show url ∈ a.relayUrls
      rw [hab]
      exact hb.within url h
  seen := by
    intro url hu
    rw [joinAttempts, unlessEmpty_getD,
      mem_sharedUrls hP ((ha.ok hP).observed.append (hb.ok hP).observed)] at hu
    rw [joinAttempts, unlessEmpty_getD,
      mem_sharedUrls hP ((ha.ok hP).completed.append (hb.ok hP).completed)]
    rcases mem_append.1 hu with h | h
    · exact mem_append_left _ (ha.seen url h)
    · exact mem_append_right _ (hb.seen url h)
  stagedAt := by
    intro t ht
    simp only [joinAttempts] at ht
    cases hat : a.stagedAt with
    | none =>
      rw [hat] at ht
      exact hb.stagedAt t ht
    | some s =>
      rw [hat] at ht
      cases hbt : b.stagedAt with
      | none =>
        rw [hbt] at ht
        exact ha.stagedAt t (hat ▸ ht)
      | some u =>
        rw [hbt] at ht
        cases ht
        rcases min_choice s u with hm | hm
        · rw [hm]
          exact ha.stagedAt s hat
        · rw [hm]
          exact hb.stagedAt u hbt

lemma joinAttempts_grows_left (hP : P.Lawful) (ha : AttemptOk P a) (hb : AttemptOk P b) :
    AttemptGrows a (joinAttempts P a b) where
  relayUrls := rfl
  completed := by
    intro url hu
    rw [joinAttempts, unlessEmpty_getD, mem_sharedUrls hP (ha.completed.append hb.completed)]
    exact mem_append_left _ hu
  observed := by
    intro url hu
    rw [joinAttempts, unlessEmpty_getD, mem_sharedUrls hP (ha.observed.append hb.observed)]
    exact mem_append_left _ hu

lemma earlierStagedAt_comm (s t : Option Int) : earlierStagedAt s t = earlierStagedAt t s := by
  cases s <;> cases t <;> simp [earlierStagedAt, min_comm]

lemma earlierStagedAt_assoc (s t u : Option Int) :
    earlierStagedAt (earlierStagedAt s t) u = earlierStagedAt s (earlierStagedAt t u) := by
  cases s <;> cases t <;> cases u <;> simp [earlierStagedAt, min_assoc]

lemma joinAttempts_comm (hP : P.Lawful) (ha : AttemptOk P a) (hb : AttemptOk P b)
    (hab : a.relayUrls = b.relayUrls) : joinAttempts P a b = joinAttempts P b a := by
  unfold joinAttempts sharedUrls
  rw [hab, earlierStagedAt_comm, (secure_accepts hP).sort_ext (ha.completed.append hb.completed)
      (hb.completed.append ha.completed) fun u => by simp only [mem_append, or_comm],
    (secure_accepts hP).sort_ext (ha.observed.append hb.observed)
      (hb.observed.append ha.observed) fun u => by simp only [mem_append, or_comm]]

lemma sharedUrls_assoc (hP : P.Lawful) {x y z : List Text} (hx : Settled (acceptSecure P) x)
    (hy : Settled (acceptSecure P) y) (hz : Settled (acceptSecure P) z) :
    sharedUrls P (sharedUrls P (x ++ y) ++ z) = sharedUrls P (x ++ sharedUrls P (y ++ z)) := by
  have hs := fun l => (secure_accepts hP).settled_sort l
  apply (secure_accepts hP).sort_ext ((hs _).append hz) (hx.append (hs _))
  intro u
  rw [mem_append, mem_append, (secure_accepts hP).mem_sort (hx.append hy),
    (secure_accepts hP).mem_sort (hy.append hz), mem_append, mem_append, or_assoc]

lemma joinAttempts_assoc (hP : P.Lawful) (ha : AttemptOk P a) (hb : AttemptOk P b)
    (hc : AttemptOk P c) :
    joinAttempts P (joinAttempts P a b) c = joinAttempts P a (joinAttempts P b c) := by
  unfold joinAttempts
  simp only [unlessEmpty_getD, earlierStagedAt_assoc,
    sharedUrls_assoc hP ha.completed hb.completed hc.completed,
    sharedUrls_assoc hP ha.observed hb.observed hc.observed]

lemma joinAttempts_self (hP : P.Lawful) (ha : AttemptNormal P a) : joinAttempts P a a = a := by
  have hs : ∀ l, IsCanonical (normalizeSecureOrIsolatedE2eRelayUrls P) l →
      sharedUrls P (l ++ l) = l := by
    intro l hl
    have hset := hl.settled (secure_accepts hP)
    have heq := (secure_accepts hP).sort_ext (hset.append hset) hset
      fun u => by simp only [mem_append, or_self]
    exact heq.trans hl
  have hst : earlierStagedAt a.stagedAt a.stagedAt = a.stagedAt := by
    cases a.stagedAt <;> simp [earlierStagedAt]
  simp only [joinAttempts, hs _ ha.completed, hs _ ha.observed, ← ha.completed_eq,
    ← ha.observed_eq, hst]

variable (P) in
structure AttemptsNormal (l : List InboxDeclarationCutoverConfirmationAttempt) : Prop where
  canonical : Canonical (attemptKey P) (attemptLe P) l
  normal : ∀ a ∈ l, AttemptNormal P a

def AttemptsGrow (l m : List InboxDeclarationCutoverConfirmationAttempt) : Prop :=
  ∀ a ∈ l, ∃ a' ∈ m, AttemptGrows a a'

lemma AttemptsGrow.refl (l : List InboxDeclarationCutoverConfirmationAttempt) : AttemptsGrow l l :=
  fun a ha => ⟨a, ha, .refl a⟩

lemma AttemptsGrow.trans (h₁ : AttemptsGrow l m) (h₂ : AttemptsGrow m n) : AttemptsGrow l n := by
  intro a ha
  obtain ⟨b, hb, hab⟩ := h₁ a ha
  obtain ⟨c, hc, hbc⟩ := h₂ b hb
  exact ⟨c, hc, hab.trans hbc⟩

lemma mergeConfirmationAttempts_of_nodup (hl : (l.map (attemptKey P)).Nodup) :
    mergeConfirmationAttempts P l = sortBy (attemptLe P) l := by
  rw [mergeConfirmationAttempts, joinAll_of_nodup hl]

lemma AttemptsNormal.merge (hP : P.Lawful) (hl : AttemptsNormal P l) (hm : AttemptsNormal P m) :
    AttemptsNormal P (mergeConfirmationAttempts P (l ++ m)) where
  canonical := joinLists_canonical (attempts_separate hP)
  normal := by
    apply forall_joinLists attemptKey_joinAttempts (attempts_separate hP) hl.canonical.nodup
      hm.canonical.nodup hl.normal hm.normal
    intro a ha b hb hab
    exact (hl.normal a ha).join hP (hm.normal b hb) (relayUrls_of_key hP hab)

lemma AttemptsNormal.merge_grows (hP : P.Lawful) (hl : AttemptsNormal P l)
    (hm : AttemptsNormal P m) : AttemptsGrow l (mergeConfirmationAttempts P (l ++ m)) := by
  intro a ha
  obtain ⟨c, hc, rfl | ⟨b, hb, -, rfl⟩⟩ := exists_joined_left
    attemptKey_joinAttempts hl.canonical.nodup hm.canonical.nodup ha
  · exact ⟨c, hc, .refl c⟩
  · exact ⟨_, hc, joinAttempts_grows_left hP ((hl.normal a ha).ok hP) ((hm.normal b hb).ok hP)⟩

variable {pend : Option PendingInboxDeclarationDistribution}

lemma normalizeConfirmationAttempts_spec (hP : P.Lawful) (hl : ∀ a ∈ l, AttemptOk P a)
    (hnd : (l.map (attemptKey P)).Nodup) (h : normalizeConfirmationAttempts P l pend = .ok m)
    : AttemptsNormal P m ∧ AttemptsGrow l m ∧ ∀ a' ∈ m, ∃ a ∈ l, AttemptGrows a a' := by
  simp only [normalizeConfirmationAttempts, run_ok] at h
  obtain ⟨norm, hnor, rfl⟩ := h
  have hp : ∃ l', norm = l'.map some ∧
      Forall₂ (fun a a' => AttemptNormal P a' ∧ AttemptGrows a a') l l' := by
    clear hnd
    induction l generalizing norm with
    | nil =>
      cases hnor
      exact ⟨[], rfl, .nil⟩
    | cons a l ih =>
      obtain ⟨r, rest, hr, hre, rfl⟩ := mapResult_cons_ok.1 hnor
      obtain ⟨a', rfl, hn, hg, -⟩ :=
        normalizeConfirmationAttempt_spec hP (hl a mem_cons_self) hr
      obtain ⟨l', rfl, hl'⟩ := ih (fun b hb => hl b (mem_cons_of_mem _ hb)) rest hre
      exact ⟨a' :: l', rfl, .cons ⟨hn, hg⟩ hl'⟩
  obtain ⟨l', rfl, hl'⟩ := hp
  have hk : l'.map (attemptKey P) = l.map (attemptKey P) := by
    clear hnor hnd hl
    induction hl' with
    | nil => rfl
    | cons hab _ ih =>
      rw [map_cons, map_cons, ih, attemptKey, hab.2.relayUrls]
      rfl
  have hnd' : (l'.map (attemptKey P)).Nodup := hk ▸ hnd
  have hid : (l'.map some).filterMap id = l' := by simp
  rw [hid, mergeConfirmationAttempts_of_nodup hnd']
  refine ⟨⟨canonical_sortBy (attempts_separate hP) hnd', ?_⟩, ?_, ?_⟩
  · intro a' ha'
    obtain ⟨a, -, hn, -⟩ := forall₂_left hl'.flip (mem_sortBy.1 ha')
    exact hn
  · intro a ha
    obtain ⟨a', ha', -, hg⟩ := forall₂_left hl' ha
    exact ⟨a', mem_sortBy.2 ha', hg⟩
  · intro a' ha'
    obtain ⟨a, ha, -, hg⟩ := forall₂_left hl'.flip (mem_sortBy.1 ha')
    exact ⟨a, ha, hg⟩

lemma AttemptsNormal.normalize_ok (hP : P.Lawful) (hl : AttemptsNormal P l)
    (hp : ∀ relayUrls, ∃ outcomes, matchingOutcomes P relayUrls pend = .ok outcomes) :
    ∃ m, normalizeConfirmationAttempts P l pend = .ok m := by
  have hm : ∃ r, mapResult (normalizeConfirmationAttempt P · pend) l = .ok r := by
    have hn := hl.normal
    clear hl
    induction l with
    | nil => exact ⟨[], rfl⟩
    | cons a l ih =>
      obtain ⟨outcomes, ho⟩ := hp a.relayUrls
      obtain ⟨a', ha'⟩ := (hn a mem_cons_self).normalize_ok hP ho
      obtain ⟨r, hr⟩ := ih fun b hb => hn b (mem_cons_of_mem _ hb)
      exact ⟨some a' :: r, mapResult_cons_ok.2 ⟨_, _, ha', hr, rfl⟩⟩
  obtain ⟨r, hr⟩ := hm
  exact ⟨_, by rw [normalizeConfirmationAttempts, hr]; rfl⟩

lemma AttemptsNormal.normalize (hP : P.Lawful) (hl : AttemptsNormal P l) :
    normalizeConfirmationAttempts P l none = .ok l := by
  have hm : mapResult (normalizeConfirmationAttempt P · none) l = .ok (l.map some) :=
    mapResult_of_ok fun a ha => (hl.normal a ha).normalize hP
  have hid : (l.map some).filterMap id = l := by simp
  rw [normalizeConfirmationAttempts, hm]
  show Except.ok (mergeConfirmationAttempts P ((l.map some).filterMap id)) = .ok l
  rw [hid, mergeConfirmationAttempts_of_nodup hl.canonical.nodup,
    hl.canonical.sortBy (attempts_separate hP)]

end

end Conduit.Network
