import Conduit.CheckoutSpark.Digest
import Conduit.CheckoutSpark.Restorable

namespace Conduit.CheckoutSpark

open Js Throwing Option List

/-- `UNCERTAIN_LEG_STATUSES`. -/
def LegStatus.Uncertain (status : LegStatus) : Prop :=
  status = .ambiguous ∨ status = .lookupUnavailable ∨ status = .conflictingEvidence
  deriving Decidable

/-- The archived first attempt of a leg, read in place of its second one. -/
def archivedLeg (active : LegProgress) (closed : ClosedGeneration) : LegProgress :=
  { active with
    intent := some closed.intent
    status := closed.status
    observedAt := some closed.observedAt
    finalFeeSats := none
    finalDebitSats := none }

def continuedLeg (before active : LegProgress) : Result LegProgress :=
  if before.generationNumber = active.generationNumber then do
    reject (before.closed ≠ active.closed) .repositoryConflict
    return active
  else if before.generationNumber = 0 ∧ active.generationNumber = 1 then do
    let closed ← requireSome active.closedGeneration
    return archivedLeg active closed
  else .error .repositoryConflict

/-- The newer attempt lacks a fact of the older one, or takes back its status. -/
def LegRegresses (before after : LegProgress) : Prop :=
  before.legId ≠ after.legId ∨
  (before.allocationSats ≠ none ∧ before.allocationSats ≠ after.allocationSats) ∨
  (before.intent ≠ none ∧ before.intent ≠ after.intent) ∨
  (∃ known ∈ before.observedAt, ¬ ∃ observedAt ∈ after.observedAt, known ≤ observedAt ∧
    ¬ (observedAt = known ∧ after.status ≠ before.status)) ∨
  (before.status ≠ .unprepared ∧ after.status = .unprepared) ∨
  (before.status ≠ .unprepared ∧ before.status ≠ .prepared ∧ after.status = .prepared) ∨
  (before.status = .paid ∧ after.status ≠ .paid) ∨
  (before.status = .terminalFailure ∧ after.status ≠ .terminalFailure ∧ after.status ≠ .paid) ∨
  (before.status.Uncertain ∧ ¬ after.status.Uncertain ∧ after.status ≠ .paid ∧
    after.status ≠ .terminalFailure) ∨
  (before.finalFeeSats ≠ none ∧ after.finalFeeSats ≠ before.finalFeeSats) ∨
  (before.finalDebitSats ≠ none ∧ after.finalDebitSats ≠ before.finalDebitSats)
  deriving Decidable

def assertLegProgression (before active : LegProgress) : Result Unit := do
  let after ← continuedLeg before active
  reject (LegRegresses before after) .repositoryConflict

/-- One leg after the other; a position that the newer state lacks throws. -/
def assertLegsProgression : List LegProgress → List LegProgress → Result Unit
  | [], _ => .ok ()
  | _ :: _, [] => .error typeError
  | before :: previous, active :: next => do
    assertLegProgression before active
    assertLegsProgression previous next

def assertTreasuryProgression (previous next : SettledReconciliation) : Result Unit :=
  if previous.schemaVersion = 5 ∨ previous.schemaVersion = 6 then do
    let before ← requireSome previous.treasuryFinalization
    let after ← requireSome next.treasuryFinalization
    reject ((before.intent ≠ none ∧ before.intent ≠ after.intent) ∨
        (∃ id ∈ before.providerTransferId, id ≠ [] ∧ after.providerTransferId ≠ some id))
      .repositoryConflict
  else .ok ()

/-- Require the local state to contain every fact in the latest signed recovery. -/
def assertSettledRecoveryProgression (P : Platform) (previous next : SettledReconciliation) :
    Result Unit := do
  let previous ← restoreSettledReconciliation P previous
  let next ← restoreSettledReconciliation P next
  reject ((previous.schemaVersion = 4 ∧ next.schemaVersion ≠ 4) ∨
      (previous.schemaVersion = 5 ∧ next.schemaVersion ≠ 5) ∨
      (previous.schemaVersion = 6 ∧ next.schemaVersion ≠ 6) ∨
      next.updatedAt < previous.updatedAt ∨
      next.plan.planDigest ≠ previous.plan.planDigest ∨
      (previous.credit ≠ none ∧ next.credit ≠ previous.credit))
    .repositoryConflict
  assertTreasuryProgression previous next
  assertLegsProgression previous.legs next.legs

/-- The newer state contains the older one. -/
def Progresses (P : Platform) (previous next : SettledReconciliation) : Prop :=
  assertSettledRecoveryProgression P previous next = .ok ()

/-- The changes of status that keep what was known of a payout. -/
def StatusFollows (before after : LegStatus) : Prop :=
  (before ≠ .unprepared → after ≠ .unprepared) ∧
  (before ≠ .unprepared → before ≠ .prepared → after ≠ .prepared) ∧
  (before = .paid → after = .paid) ∧
  (before = .terminalFailure → after = .terminalFailure ∨ after = .paid) ∧
  (before.Uncertain → after.Uncertain ∨ after = .paid ∨ after = .terminalFailure)
  deriving Decidable

structure KeepsFacts (before after : LegProgress) : Prop where
  legId : before.legId = after.legId
  allocation : ∀ sats ∈ before.allocationSats, after.allocationSats = some sats
  intent : ∀ intent ∈ before.intent, after.intent = some intent
  observed : ∀ known ∈ before.observedAt, ∃ observedAt ∈ after.observedAt, known ≤ observedAt ∧
    (observedAt = known → after.status = before.status)
  status : StatusFollows before.status after.status
  fee : ∀ sats ∈ before.finalFeeSats, after.finalFeeSats = some sats
  debit : ∀ sats ∈ before.finalDebitSats, after.finalDebitSats = some sats

inductive LegContained (before active : LegProgress) : Prop
  | same (hgeneration : before.generationNumber = active.generationNumber)
      (hclosed : before.closed = active.closed) (hfacts : KeepsFacts before active)
  | renewed (hbefore : before.generationNumber = 0) (hactive : active.generationNumber = 1)
      (entry : ClosedGeneration) (hentry : active.closedGeneration = some entry)
      (hfacts : KeepsFacts before (archivedLeg active entry))

def LegsContained (previous next : List LegProgress) : Prop :=
  ∀ (i : Nat) (before : LegProgress), previous[i]? = some before →
    ∃ active, next[i]? = some active ∧ LegContained before active

structure TreasuryKept (before after : NativeTreasuryFinalization) : Prop where
  intent : ∀ intent ∈ before.intent, after.intent = some intent
  reference : ∀ id ∈ before.providerTransferId, id ≠ [] → after.providerTransferId = some id

/-- What the progression check requires of two loaded states. -/
structure Contained (c d : SettledReconciliation) : Prop where
  version : (c.schemaVersion = 4 → d.schemaVersion = 4) ∧
    (c.schemaVersion = 5 → d.schemaVersion = 5) ∧ (c.schemaVersion = 6 → d.schemaVersion = 6)
  updatedAt : c.updatedAt ≤ d.updatedAt
  plan : d.plan.planDigest = c.plan.planDigest
  credit : ∀ credit ∈ c.credit, d.credit = some credit
  treasury : c.schemaVersion = 5 ∨ c.schemaVersion = 6 → ∃ before, c.treasuryFinalization =
    some before ∧ ∃ after, d.treasuryFinalization = some after ∧ TreasuryKept before after
  legs : LegsContained c.legs d.legs

lemma keep_iff {α : Type} {a b : Option α} : ¬ (a ≠ none ∧ a ≠ b) ↔ ∀ x ∈ a, b = some x := by
  cases a with
  | none => simp
  | some x => simp [eq_comm]

lemma statusFollows_iff {before after : LegStatus} : StatusFollows before after ↔
    ¬ (before ≠ .unprepared ∧ after = .unprepared) ∧
    ¬ (before ≠ .unprepared ∧ before ≠ .prepared ∧ after = .prepared) ∧
    ¬ (before = .paid ∧ after ≠ .paid) ∧
    ¬ (before = .terminalFailure ∧ after ≠ .terminalFailure ∧ after ≠ .paid) ∧
    ¬ (before.Uncertain ∧ ¬ after.Uncertain ∧ after ≠ .paid ∧ after ≠ .terminalFailure) := by
  unfold StatusFollows
  tauto

lemma StatusFollows.refl (status : LegStatus) : StatusFollows status status := by
  cases status <;> decide

lemma StatusFollows.trans {a b c : LegStatus} (h₁ : StatusFollows a b) (h₂ : StatusFollows b c) :
    StatusFollows a c := by
  revert h₁ h₂
  cases a <;> cases b <;> cases c <;> decide

lemma not_legRegresses_iff {before after : LegProgress} :
    ¬ LegRegresses before after ↔ KeepsFacts before after := by
  have hobs : (¬ ∃ known ∈ before.observedAt, ¬ ∃ seenAt ∈ after.observedAt,
      known ≤ seenAt ∧ ¬ (seenAt = known ∧ after.status ≠ before.status)) ↔
      ∀ known ∈ before.observedAt, ∃ seenAt ∈ after.observedAt, known ≤ seenAt ∧
        (seenAt = known → after.status = before.status) := by
    constructor
    · intro h known hkn
      by_contra hne
      refine h ⟨known, hkn, fun ⟨seenAt, haf, hle, hs⟩ => hne ⟨seenAt, haf, hle, ?_⟩⟩
      exact fun heq => by_contra fun hst => hs ⟨heq, hst⟩
    · rintro h ⟨known, hkn, hne⟩
      obtain ⟨seenAt, haf, hle, hs⟩ := h known hkn
      exact hne ⟨seenAt, haf, hle, fun ⟨heq, hst⟩ => hst (hs heq)⟩
  have hfee : ∀ a b : Option Int, ¬ (a ≠ none ∧ b ≠ a) ↔ ∀ x ∈ a, b = some x := by
    intro a b
    rw [← keep_iff]
    exact not_congr (and_congr_right fun _ => ne_comm)
  unfold LegRegresses
  rw [not_or, not_or, not_or, not_or, keep_iff, keep_iff, hobs]
  simp only [not_or]
  rw [hfee, hfee, not_not]
  constructor
  · rintro ⟨hid, ha, hi, ho, h₁, h₂, h₃, h₄, h₅, hf, hd⟩
    exact ⟨hid, ha, hi, ho, statusFollows_iff.2 ⟨h₁, h₂, h₃, h₄, h₅⟩, hf, hd⟩
  · rintro ⟨hid, ha, hi, ho, hs, hf, hd⟩
    obtain ⟨h₁, h₂, h₃, h₄, h₅⟩ := statusFollows_iff.1 hs
    exact ⟨hid, ha, hi, ho, h₁, h₂, h₃, h₄, h₅, hf, hd⟩

lemma assertLegProgression_ok {before active : LegProgress} :
    assertLegProgression before active = .ok () ↔ LegContained before active := by
  simp only [assertLegProgression, bind_ok, reject_ok, not_legRegresses_iff]
  unfold continuedLeg
  split_ifs with heq hn
  · simp only [run_ok, not_not]
    constructor
    · rintro ⟨after, ⟨hc, rfl⟩, hf⟩
      exact .same heq hc hf
    · rintro (⟨-, hc, hf⟩ | ⟨hb, ha, -⟩)
      · exact ⟨active, ⟨hc, rfl⟩, hf⟩
      · omega
  · simp only [bind_ok, requireSome_ok, pure_ok]
    constructor
    · rintro ⟨after, ⟨entry, he, rfl⟩, hf⟩
      exact .renewed hn.1 hn.2 entry he hf
    · rintro (⟨hg, -, -⟩ | ⟨-, -, entry, he, hf⟩)
      · exact absurd hg heq
      · exact ⟨_, ⟨entry, he, rfl⟩, hf⟩
  · simp only [false_and, exists_false, false_iff]
    rintro (⟨hg, -, -⟩ | ⟨hb, ha, -⟩)
    · exact heq hg
    · exact hn ⟨hb, ha⟩

lemma assertLegsProgression_ok {prev next : List LegProgress} :
    assertLegsProgression prev next = .ok () ↔ LegsContained prev next := by
  induction prev generalizing next with
  | nil => simp [assertLegsProgression, LegsContained]
  | cons before prev ih =>
    cases next with
    | nil =>
      simp only [assertLegsProgression, reduceCtorEq, false_iff]
      intro h
      obtain ⟨active, ha, -⟩ := h 0 before rfl
      cases ha
    | cons active next =>
      simp only [assertLegsProgression, bind_ok, ih]
      constructor
      · rintro ⟨u, hl, hle⟩ i b hb
        cases i with
        | zero =>
          cases hb
          exact ⟨active, rfl, assertLegProgression_ok.1 hl⟩
        | succ i => exact hle i b hb
      · intro h
        obtain ⟨active', ha, hl⟩ := h 0 before rfl
        cases ha
        exact ⟨(), assertLegProgression_ok.2 hl, fun i b hb => h (i + 1) b hb⟩

lemma assertTreasuryProgression_ok {c d : SettledReconciliation} :
    assertTreasuryProgression c d = .ok () ↔ (c.schemaVersion = 5 ∨ c.schemaVersion = 6 →
      ∃ before, c.treasuryFinalization = some before ∧ ∃ after, d.treasuryFinalization = some after ∧
        TreasuryKept before after) := by
  have hk : ∀ before after : NativeTreasuryFinalization,
      ¬ ((before.intent ≠ none ∧ before.intent ≠ after.intent) ∨
        ∃ id ∈ before.providerTransferId, id ≠ [] ∧ after.providerTransferId ≠ some id) ↔
      TreasuryKept before after := by
    intro before after
    rw [not_or, keep_iff]
    simp only [not_exists, not_and, not_not]
    exact ⟨fun h => ⟨h.1, h.2⟩, fun h => ⟨h.1, h.2⟩⟩
  unfold assertTreasuryProgression
  split_ifs with hv
  · simp only [bind_ok, requireSome_ok, reject_ok, hk, hv, forall_const]
  · simp [hv]

section
variable {P : Platform} {a b s t x c d e : SettledReconciliation}

lemma progresses_iff :
    Progresses P a b ↔ ∃ c d, Restores P a c ∧ Restores P b d ∧ Contained c d := by
  simp only [Progresses, assertSettledRecoveryProgression, run_ok,
    restore_ok_iff, assertLegsProgression_ok, not_or, not_lt, not_not, not_and, ne_eq]
  have hcr : ∀ o o' : Option CreditEvidence,
      (¬ o = none → o' = o) ↔ ∀ credit ∈ o, o' = some credit := by
    intro o o'
    cases o <;> simp
  simp only [hcr]
  constructor
  · rintro ⟨c, hc, d, hd, ⟨h₄, h₅, h₆, hu, hp, hcr⟩, u, ht, hl⟩
    exact ⟨c, d, hc, hd, ⟨h₄, h₅, h₆⟩, hu, hp, hcr, assertTreasuryProgression_ok.1 ht, hl⟩
  · rintro ⟨c, d, hc, hd, ⟨h₄, h₅, h₆⟩, hu, hp, hcr, ht, hl⟩
    exact ⟨c, hc, d, hd, ⟨h₄, h₅, h₆, hu, hp, hcr⟩, (), assertTreasuryProgression_ok.2 ht, hl⟩

lemma KeepsFacts.refl (leg : LegProgress) : KeepsFacts leg leg :=
  ⟨rfl, fun _ h => h, fun _ h => h, fun known h => ⟨known, h, le_refl known, fun _ => rfl⟩,
    StatusFollows.refl leg.status, fun _ h => h, fun _ h => h⟩

variable {leg l : LegProgress} {m : LegProgress}

lemma KeepsFacts.trans {n : LegProgress} (h₁ : KeepsFacts l m) (h₂ : KeepsFacts m n) :
    KeepsFacts l n := by
  refine ⟨h₁.legId.trans h₂.legId, fun sats h => h₂.allocation sats (h₁.allocation sats h),
    fun intent h => h₂.intent intent (h₁.intent intent h), ?_, h₁.status.trans h₂.status,
    fun sats h => h₂.fee sats (h₁.fee sats h), fun sats h => h₂.debit sats (h₁.debit sats h)⟩
  intro known hkn
  obtain ⟨t, ht, hle, hs⟩ := h₁.observed known hkn
  obtain ⟨u, hu, hle', hs'⟩ := h₂.observed t ht
  refine ⟨u, hu, hle.trans hle', fun heq => ?_⟩
  have htu : t = known := by omega
  exact (hs' (by omega)).trans (hs htu)

lemma LegContained.refl (leg : LegProgress) : LegContained leg leg :=
  .same rfl rfl (KeepsFacts.refl leg)

lemma LegContained.trans {n : LegProgress} (h₁ : LegContained l m) (h₂ : LegContained m n) :
    LegContained l n := by
  cases h₁ with
  | same hg hc hf =>
    cases h₂ with
    | same hg' hc' hf' =>
      exact .same (hg.trans hg') (hc.trans hc') (hf.trans hf')
    | renewed hb ha entry he hf' =>
      exact .renewed (hg.trans hb) ha entry he (hf.trans hf')
  | renewed hb ha entry he hf =>
    cases h₂ with
    | same hg' hc' hf' =>
      -- the archive is read from the last leg, whose own facts extend those around it
      have he' : n.closedGeneration = some entry := by
        rw [← he]
        exact (congrArg head? hc').symm
      refine .renewed hb (hg'.symm.trans ha) entry he' ?_
      exact ⟨hf.legId.trans hf'.legId,
        fun sats h => hf'.allocation sats (hf.allocation sats h), hf.intent,
        hf.observed, hf.status, hf.fee, hf.debit⟩
    | renewed hb' => omega

lemma TreasuryKept.refl (t : NativeTreasuryFinalization) : TreasuryKept t t :=
  ⟨fun _ h => h, fun _ h _ => h⟩

lemma TreasuryKept.trans {t u v : NativeTreasuryFinalization} (h₁ : TreasuryKept t u)
    (h₂ : TreasuryKept u v) : TreasuryKept t v :=
  ⟨fun intent h => h₂.intent intent (h₁.intent intent h),
    fun id h hne => h₂.reference id (h₁.reference id h hne) hne⟩

lemma Contained.trans (h₁ : Contained c d) (h₂ : Contained d e) : Contained c e := by
  obtain ⟨h₄, h₅, h₆⟩ := h₁.version
  obtain ⟨h₄', h₅', h₆'⟩ := h₂.version
  refine ⟨⟨fun h => h₄' (h₄ h), fun h => h₅' (h₅ h), fun h => h₆' (h₆ h)⟩,
    h₁.updatedAt.trans h₂.updatedAt, h₂.plan.trans h₁.plan,
    fun credit h => h₂.credit credit (h₁.credit credit h), ?_, ?_⟩
  · intro hver
    obtain ⟨t, ht, u, hu, hk⟩ := h₁.treasury hver
    obtain ⟨u', hu', v, hv, hk'⟩ := h₂.treasury (hver.imp h₅ h₆)
    obtain rfl : u = u' := some.inj (hu.symm.trans hu')
    exact ⟨t, ht, v, hv, hk.trans hk'⟩
  · intro i before hb
    obtain ⟨m, hm, hl⟩ := h₁.legs i before hb
    obtain ⟨n, hn, hl'⟩ := h₂.legs i m hm
    exact ⟨n, hn, hl.trans hl'⟩

lemma Restores.treasury_some (h : Restores P s c)
    (hv : c.schemaVersion = 5 ∨ c.schemaVersion = 6) : ∃ t, c.treasuryFinalization = some t := by
  have htrs := h.treasury
  unfold restoreTreasury at htrs
  rw [if_pos hv] at htrs
  simp only [run_ok] at htrs
  obtain ⟨t, -, -, -, -, ht⟩ := htrs
  exact ⟨t, ht.symm⟩

lemma Restores.contained_refl (h : Restores P s c) : Contained c c := by
  refine ⟨⟨id, id, id⟩, le_refl _, rfl, fun _ h => h, ?_, ?_⟩
  · intro hv
    obtain ⟨t, ht⟩ := h.treasury_some hv
    exact ⟨t, ht, t, ht, TreasuryKept.refl t⟩
  · exact fun _ leg hl => ⟨leg, hl, LegContained.refl leg⟩

lemma Restores.eq (h : Restores P s c) (h' : Restores P s d) : c = d :=
  Except.ok.inj ((restore_ok_iff.2 h).symm.trans (restore_ok_iff.2 h'))

lemma Restores.progresses (ha : Restores P a c) (hb : Restores P b d) (h : Contained c d) :
    Progresses P a b := progresses_iff.2 ⟨c, d, ha, hb, h⟩

lemma Progresses.contained (h : Progresses P a b) (ha : Restores P a c) (hb : Restores P b d) :
    Contained c d := by
  obtain ⟨c', d', ha', hb', hcon⟩ := progresses_iff.1 h
  rwa [ha.eq ha', hb.eq hb']

lemma Restores.progresses_refl (h : Restores P a c) : Progresses P a a :=
  h.progresses h h.contained_refl

lemma Progresses.trans (h₁ : Progresses P a b) (h₂ : Progresses P b s) : Progresses P a s := by
  obtain ⟨c, d, ha, hb, h⟩ := progresses_iff.1 h₁
  obtain ⟨d', e, hb', hs, h'⟩ := progresses_iff.1 h₂
  obtain rfl := hb.eq hb'
  exact ha.progresses hs (h.trans h')

lemma LoadedLeg.versioned {v : Nat} {plan : SettledPlan} {credited : Bool} {row : LegRow}
    (h : LoadedLeg P v plan credited row l) (hver : plan.IsNativeTreasuryPlan → v ≠ 3) :
    l.generation = (if v = 3 then none else some l.generationNumber) ∧
      l.closedGenerations = if v = 3 then none else some l.closed := by
  have hg := h.generation
  have hf := h.fresh
  cases h.restored with
  | native hnat =>
    rw [if_neg (hver hnat.1), if_neg (hver hnat.1)]
    exact ⟨rfl, rfl⟩
  | empty =>
    rw [hf]
    unfold emptiedLeg
    by_cases hv : v = 3
    · have hn : ¬ plan.IsNativeTreasuryPlan := fun hn => hver hn hv
      simp [hv, freshLeg, hn]
    · simp [hv, LegProgress.generationNumber, LegProgress.closed]
  | prepared =>
    by_cases hv : v = 3
    · unfold LegProgress.GenerationValid at hg
      rw [if_pos hv] at hg
      simp [preparedLeg, hv, hg.1, hg.2]
    · simp [preparedLeg, hv, LegProgress.generationNumber, LegProgress.closed]

variable {t : NativeTreasuryFinalization}

lemma restoreNativeTreasuryFinalization_observed
    (h : restoreNativeTreasuryFinalization P (some t) s = .ok t) :
    t = createNativeTreasuryFinalization ∨
      t.observedAt ≠ none ∧ ∀ id ∈ t.providerTransferId, IsId id 512 := by
  unfold restoreNativeTreasuryFinalization at h
  rcases hi : t.intent with _ | intent
  · simp only [hi, rejects_ok, pure_ok] at h
    exact .inl h.2.symm
  · right
    simp only [hi, run_ok, not_or, not_not] at h
    obtain ⟨budget, -, native, -, credit, -, ⟨-, -, -, -, -, -, -, ⟨known, hkn, -⟩, -, hid⟩, -⟩ := h
    refine ⟨?_, fun id hid' => ?_⟩
    · rw [mem_def.1 hkn]
      exact some_ne_none known
    · by_contra hb
      exact hid ⟨id, hid', hb⟩

lemma Restores.unobserved (h : Restores P s c)
    (hi : (c.plan.recipients.map (·.legId)).Nodup) (hleg : leg ∈ c.legs)
    (hno : leg.observedAt = none) : leg.status = .unprepared := by
  by_cases hn : c.plan.IsNativeLeg leg.legId
  · obtain ⟨fee, native, t, hnat⟩ := h.native hi hn.1
    obtain ⟨t', ht', ⟨hst, ho, -⟩, -⟩ := h.nativeLeg hi hleg hn
    obtain rfl : t = t' := some.inj (hnat.treasury.symm.trans ht')
    obtain rfl | ⟨hs, -⟩ := restoreNativeTreasuryFinalization_observed hnat.restored
    · exact hst
    · exact absurd (ho.symm.trans hno) hs
  · obtain ⟨base, hl⟩ := h.loaded hi
    obtain ⟨row, hr⟩ := hl.mem hleg
    obtain he | ⟨_, _, -, -, -, -, -, t, ht, -⟩ := hr.receipt hn
    · exact he.status
    · rw [hno] at ht
      cases ht

lemma option_eq_of_keep {α : Type} {x y : Option α} (h₁ : ∀ z ∈ x, y = some z)
    (h₂ : ∀ z ∈ y, x = some z) : x = y := by
  cases x with
  | none =>
    cases y with
    | none => rfl
    | some z => exact (h₂ z rfl)
  | some z => exact (h₁ z rfl).symm

lemma KeepsFacts.antisymm (h₁ : KeepsFacts l m) (h₂ : KeepsFacts m l)
    (hl : l.observedAt = none → l.status = .unprepared)
    (hm : m.observedAt = none → m.status = .unprepared) :
    l.legId = m.legId ∧ l.allocationSats = m.allocationSats ∧ l.intent = m.intent ∧
      l.status = m.status ∧ l.observedAt = m.observedAt ∧ l.finalFeeSats = m.finalFeeSats ∧
      l.finalDebitSats = m.finalDebitSats := by
  have ho : l.observedAt = m.observedAt ∧ l.status = m.status := by
    cases hlo : l.observedAt with
    | none =>
      cases hmo : m.observedAt with
      | none => exact ⟨rfl, (hl hlo).trans (hm hmo).symm⟩
      | some u =>
        obtain ⟨t, ht, -⟩ := h₂.observed u hmo
        rw [hlo] at ht
        cases ht
    | some t =>
      obtain ⟨u, hu, hle, hs⟩ := h₁.observed t hlo
      obtain ⟨t', ht', hle', -⟩ := h₂.observed u hu
      obtain rfl : t = t' := some.inj (hlo.symm.trans ht')
      obtain rfl : u = t := by omega
      exact ⟨hu.symm, (hs rfl).symm⟩
  exact ⟨h₁.legId, option_eq_of_keep h₁.allocation h₂.allocation,
    option_eq_of_keep h₁.intent h₂.intent, ho.2, ho.1,
    option_eq_of_keep h₁.fee h₂.fee, option_eq_of_keep h₁.debit h₂.debit⟩

lemma Restores.versioned (h : Restores P s c)
    (hi : (c.plan.recipients.map (·.legId)).Nodup) (hleg : leg ∈ c.legs) :
    leg.generation = (if c.schemaVersion = 3 then none else some leg.generationNumber) ∧
      leg.closedGenerations = if c.schemaVersion = 3 then none else some leg.closed := by
  obtain ⟨base, hl⟩ := h.loaded hi
  obtain ⟨row, hr⟩ := hl.mem hleg
  rw [h.same.1]
  exact hr.versioned h.version_ne

lemma LegContained.antisymm (h₁ : LegContained l m) (h₂ : LegContained m l)
    (hl : l.observedAt = none → l.status = .unprepared)
    (hm : m.observedAt = none → m.status = .unprepared)
    (hgen : l.generationNumber = m.generationNumber → l.closed = m.closed →
      l.generation = m.generation ∧ l.closedGenerations = m.closedGenerations) : l = m := by
  cases h₁ with
  | renewed hb hact =>
    cases h₂ with
    | same heq => omega
    | renewed hb' => omega
  | same heq hcls hfac =>
    cases h₂ with
    | renewed hb' hact' => omega
    | same _ _ hfac' =>
      obtain ⟨hid, ha, hi, hs, ho, hf, hd⟩ := hfac.antisymm hfac' hl hm
      obtain ⟨hg, hc⟩ := hgen heq hcls
      cases l
      dsimp only at *
      rw [hid, ha, hi, hs, ho, hf, hd, hg, hc]

lemma Contained.version_eq (ha : Restores P a c) (hb : Restores P b d) (h₁ : Contained c d)
    (h₂ : Contained d c) : c.schemaVersion = d.schemaVersion := by
  have hc := ha.version
  have hd := hb.version
  have hac := ha.same.1
  have hbd := hb.same.1
  obtain ⟨h₄, h₅, h₆⟩ := h₁.version
  obtain ⟨h₄', h₅', h₆'⟩ := h₂.version
  omega

lemma Contained.legs_eq (ha : Restores P a c) (hb : Restores P b d)
    (hc : (c.plan.recipients.map (·.legId)).Nodup)
    (hd : (d.plan.recipients.map (·.legId)).Nodup) (h₁ : Contained c d)
    (h₂ : Contained d c) : c.legs = d.legs := by
  have hv := Contained.version_eq ha hb h₁ h₂
  apply ext_getElem?
  intro i
  cases hl : c.legs[i]? with
  | none =>
    cases hm : d.legs[i]? with
    | none => rfl
    | some m =>
      obtain ⟨l, hl', -⟩ := h₂.legs i m hm
      rw [hl] at hl'
      cases hl'
  | some l =>
    obtain ⟨m, hm, hleg⟩ := h₁.legs i l hl
    obtain ⟨l', hl', hleg'⟩ := h₂.legs i m hm
    obtain rfl : l = l' := some.inj (hl.symm.trans hl')
    have hlm := mem_of_getElem? hl
    have hmm := mem_of_getElem? hm
    rw [hm, hleg.antisymm hleg' (ha.unobserved hc hlm) (hb.unobserved hd hmm) ?_]
    intro hn hcls
    obtain ⟨hg, hcl⟩ := ha.versioned hc hlm
    obtain ⟨hg', hcl'⟩ := hb.versioned hd hmm
    rw [hg, hg', hcl, hcl', hv, hn, hcls]
    exact ⟨rfl, rfl⟩

lemma restoreTreasury_none {s : SettledReconciliation} {t : Option NativeTreasuryFinalization}
    (h : restoreTreasury P s = .ok t) (hv : ¬ (s.schemaVersion = 5 ∨ s.schemaVersion = 6)) :
    t = none := by
  unfold restoreTreasury at h
  rw [if_neg hv] at h
  exact (Except.ok.inj h).symm

lemma Restores.mirror (h : Restores P s c) (ht : c.treasuryFinalization = some t) :
    restoreNativeTreasuryFinalization P (some t) c = .ok t ∧
      ∃ leg, c.plan.nativeLeg c.legs = some leg ∧ Mirrors leg t := by
  have htrs := h.treasury
  unfold restoreTreasury at htrs
  split_ifs at htrs
  · simp only [bind_ok, requireSome_ok, exists_reject, pure_ok,
      not_not] at htrs
    obtain ⟨t', hr, leg, hl, hm, hs⟩ := htrs
    obtain rfl : t' = t := some.inj (hs.trans ht)
    rw [ht] at hr
    exact ⟨hr, leg, hl, hm⟩
  · rw [ht] at htrs
    cases htrs

lemma Contained.treasury_eq (ha : Restores P a c) (hb : Restores P b d) (h₁ : Contained c d)
    (h₂ : Contained d c) (hle : c.legs = d.legs) (hr : c.plan.recipients = d.plan.recipients) :
    c.treasuryFinalization = d.treasuryFinalization := by
  have hver := Contained.version_eq ha hb h₁ h₂
  by_cases hv : c.schemaVersion = 5 ∨ c.schemaVersion = 6
  · obtain ⟨t, ht, u, hu, hk⟩ := h₁.treasury hv
    obtain ⟨u', hu', t', ht', hk'⟩ := h₂.treasury (hver ▸ hv)
    obtain rfl : u = u' := some.inj (hu.symm.trans hu')
    obtain rfl : t = t' := some.inj (ht.symm.trans ht')
    obtain ⟨hrt, leg, hl, hst, ho, hf, hd⟩ := ha.mirror ht
    obtain ⟨hru, leg', hl', hst', ho', hf', hd'⟩ := hb.mirror hu
    have heq : leg = leg' := by
      apply some.inj
      rw [← hl, ← hl']
      unfold SettledPlan.nativeLeg SettledPlan.recipient
      rw [hle, hr]
    subst heq
    have href : t.providerTransferId = u.providerTransferId := by
      apply option_eq_of_keep
      · intro id hid
        refine hk.reference id hid ?_
        obtain rfl | ⟨-, hval⟩ := restoreNativeTreasuryFinalization_observed hrt
        · cases hid
        · exact (hval id hid).1
      · intro id hid
        refine hk'.reference id hid ?_
        obtain rfl | ⟨-, hval⟩ := restoreNativeTreasuryFinalization_observed hru
        · cases hid
        · exact (hval id hid).1
    have hi := option_eq_of_keep hk.intent hk'.intent
    rw [ht, hu]
    cases t
    cases u
    dsimp only at *
    rw [hi, href, ← hst, ← hst', ← ho, ← ho', ← hf, ← hf', ← hd, ← hd']
  · rw [restoreTreasury_none ha.treasury hv, restoreTreasury_none hb.treasury (hver ▸ hv)]

lemma Contained.antisymm (h₁ : Contained c d) (h₂ : Contained d c) (ha : Restores P a c)
    (hb : Restores P b d) (hi : (c.plan.recipients.map (·.legId)).Nodup)
    (hr : c.plan.recipients = d.plan.recipients) : d = { c with plan := d.plan } := by
  have hl := Contained.legs_eq ha hb hi (hr ▸ hi) h₁ h₂
  have hv := Contained.version_eq ha hb h₁ h₂
  have ht := Contained.treasury_eq ha hb h₁ h₂ hl hr
  have hc := option_eq_of_keep h₁.credit h₂.credit
  have hu : c.updatedAt = d.updatedAt := le_antisymm h₁.updatedAt h₂.updatedAt
  rw [hl, hv, ht, hc, hu]

lemma Progresses.antisymm (h₁ : Progresses P a b) (h₂ : Progresses P b a) (ha : Restores P a c)
    (hb : Restores P b d) (hf : CollisionFree P (c.plan.hashed P ++ d.plan.hashed P)) :
    SameTerms P c.plan d.plan ∧ d = { c with plan := d.plan } := by
  have hcd := h₁.contained ha hb
  have hi := legIds_nodup_of_collisionFree ha.plan fun x hx y hy =>
    hf x (mem_append_left _ hx) y (mem_append_left _ hy)
  have hd : a.plan.planDigest = b.plan.planDigest := by
    rw [← (restoreSettledPlan_canonical ha.plan).1, ← (restoreSettledPlan_canonical hb.plan).1]
    exact hcd.plan.symm
  have ht := sameTerms_of_digest ha.plan hb.plan hf hd
  exact ⟨ht, hcd.antisymm (h₂.contained hb ha) ha hb hi ht.recipients⟩

end

end Conduit.CheckoutSpark
