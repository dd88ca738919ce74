import Conduit.Router.Evidence

namespace Conduit.Router

open Js Throwing CheckoutSpark Reconciliation Option List

def Reconciliation.Paid (state : Reconciliation) (o : ObligationPlan) : Prop :=
  (state.obligations[o.position]?).map (·.state) = some .paid
  deriving Decidable

/-- The evidence reports that the plan's obligation `o` is paid. -/
def Evidence.Pays (plan : Plan) (o : ObligationPlan) : Evidence → Prop
  | .funding _ => False
  | .obligation evidence =>
    evidence.state = .paid ∧ plan.obligation evidence.obligationId = some o

def Evidence.OnTime (evidence : Evidence) (state : Reconciliation) (o : ObligationPlan) : Prop :=
  state.Paid o ∨ ∀ p ∈ state.obligations[o.position]?, ¬ IsStale p.observedAt evidence.observedAt

variable {current : ObligationProgress}

lemma mergeObligation_of_paid (next : ObligationState) (at_ : Int) (h : current.state = .paid) :
    (mergeObligation current next at_).state = .paid := by
  unfold mergeObligation mergeObservedState
  by_cases hs : IsStale current.observedAt at_
  · simp only [if_pos hs, h]
  · simp [if_neg hs, h]

lemma mergeObligation_paid_iff {at_ : Int} : (mergeObligation current .paid at_).state = .paid ↔
      current.state = .paid ∨ ¬ IsStale current.observedAt at_ := by
  by_cases hs : IsStale current.observedAt at_
  · have hk : (mergeObligation current .paid at_).state = current.state := by
      simp only [mergeObligation, mergeObservedState, if_pos hs]
    rw [hk]
    exact ⟨.inl, fun h => h.resolve_right (not_not.2 hs)⟩
  · refine iff_of_true ?_ (.inr hs)
    by_cases hp : current.state = .paid
    · exact mergeObligation_of_paid _ _ hp
    · simp [mergeObligation, mergeObservedState, if_neg hs, hp]

def Reconciliation.Ordered (state : Reconciliation) : Prop :=
  ∀ (i : Nat) (o : ObligationPlan), state.plan.obligations[i]? = some o → o.position = i

section
variable {P : Platform} {state next : Reconciliation}
  {evidence : Evidence} {o : ObligationPlan} {tombstones : List RetirementTombstone} {plan : Plan}

section

variable (h : createReconciliation P plan tombstones = .ok state)
include h

lemma createReconciliation_eq :
    ∃ canonical, canonicalizePlan P plan = .ok canonical ∧ state.plan = canonical := by
  simp only [createReconciliation, run_ok] at h
  obtain ⟨canonical, hc, _, -, rfl⟩ := h
  exact ⟨canonical, hc, rfl⟩

lemma createReconciliation_ordered : state.Ordered := by
  obtain ⟨canonical, hc, hp⟩ := createReconciliation_eq h
  intro i o ho
  rw [hp] at ho
  exact canonicalizePlan_positions hc ho

end

lemma applyEvidence_cases (h : applyEvidence P state evidence = .ok next) :
    state.obligations.length = state.plan.obligations.length ∧
    ((∃ e, evidence = .funding e ∧ next.plan = state.plan ∧
        next.obligations = state.obligations) ∨
      ∃ e o, evidence = .obligation e ∧ state.plan.obligation e.obligationId = some o ∧
        next.plan = state.plan ∧
        next.obligations = state.obligations.modify (state.plan.obligationIndex e.obligationId)
          fun p => mergeObligation p e.state e.observedAt) := by
  simp only [applyEvidence, assertReconciliationIntegrity, bind_ok, reject_ok, exists_const] at h
  obtain ⟨⟨-, -, -, hst, -⟩, _, -, -, h⟩ := h
  refine ⟨by tauto, ?_⟩
  cases evidence with
  | funding e =>
    simp only [applyFundingEvidence, bind_ok, reject_ok, exists_const, pure_ok] at h
    obtain ⟨-, -, _, -, -, rfl⟩ := h
    exact .inl ⟨e, rfl, rfl, rfl⟩
  | obligation e =>
    simp only [applyObligationEvidence, bind_ok, reject_ok, exists_const] at h
    obtain ⟨-, h⟩ := h
    cases ho : state.plan.obligation e.obligationId with
    | none => simp [ho] at h
    | some o =>
      simp only [ho, run_ok] at h
      obtain ⟨-, rfl⟩ := h
      exact .inr ⟨e, o, rfl, ho, rfl, rfl⟩

lemma obligationIndex_eq (hord : state.Ordered) {id : Text}
    (ho : state.plan.obligation id = some o) :
    state.plan.obligationIndex id = o.position ∧ state.plan.obligations[o.position]? = some o := by
  have hat : state.plan.obligations[state.plan.obligationIndex id]? = some o := by
    rw [← ho]
    exact find?_eq_getElem?_findIdx.symm
  have hp := hord _ _ hat
  exact ⟨hp.symm, hp ▸ hat⟩

lemma applyEvidence_plan (h : applyEvidence P state evidence = .ok next) :
    next.plan = state.plan := by
  rcases (applyEvidence_cases h).2 with ⟨_, -, hp, -⟩ | ⟨_, _, -, -, hp, -⟩
  · exact hp
  · exact hp

lemma applyEvidence_getElem? (h : applyEvidence P state evidence = .ok next) (i : Nat) :
    next.obligations[i]? = state.obligations[i]? ∨
      ∃ e p, evidence = .obligation e ∧ state.obligations[i]? = some p ∧
        next.obligations[i]? = some (mergeObligation p e.state e.observedAt) := by
  obtain ⟨-, hc⟩ := applyEvidence_cases h
  rcases hc with ⟨_, -, -, heq⟩ | ⟨e, o, rfl, ho, -, hm⟩
  · exact .inl (by rw [heq])
  · by_cases hi : state.plan.obligationIndex e.obligationId = i
    · cases hp : state.obligations[i]? with
      | none => left; rw [hm, hi, getElem?_modify_eq, hp]; rfl
      | some p =>
        right
        refine ⟨e, p, rfl, rfl, ?_⟩
        rw [hm, hi, getElem?_modify_eq, hp]
        rfl
    · left
      rw [hm, getElem?_modify_ne _ _ hi]

lemma Reconciliation.Paid.step (hpa : state.Paid o)
    (h : applyEvidence P state evidence = .ok next) : next.Paid o := by
  unfold Paid at hpa ⊢
  rcases applyEvidence_getElem? h o.position with heq | ⟨e, p, -, hp, hn⟩
  · rw [heq]
    exact hpa
  · rw [hp] at hpa
    rw [hn, map_some, mergeObligation_of_paid _ _ (some.inj hpa)]

lemma paid_iff_onTime (hord : state.Ordered) (hpa : evidence.Pays state.plan o)
    (h : applyEvidence P state evidence = .ok next) : next.Paid o ↔ evidence.OnTime state o := by
  obtain ⟨hl, hc⟩ := applyEvidence_cases h
  rcases hc with ⟨_, rfl, -, -⟩ | ⟨e, o', rfl, -, -, hm⟩
  · exact hpa.elim
  · obtain ⟨hst, ho⟩ := hpa
    obtain ⟨hin, hat⟩ := obligationIndex_eq hord ho
    obtain ⟨p, hp⟩ : ∃ p, state.obligations[o.position]? = some p := by
      obtain ⟨hi, -⟩ := List.getElem?_eq_some_iff.1 hat
      exact ⟨_, List.getElem?_eq_getElem (hl ▸ hi)⟩
    have hn : next.obligations[o.position]? =
        some (mergeObligation p .paid e.observedAt) := by
      rw [hm, hin, List.getElem?_modify_eq, hp, hst]
      rfl
    simp only [Paid, Evidence.OnTime, Evidence.observedAt, hn, hp,
      map_some, some.injEq, mem_some_iff, forall_eq']
    exact mergeObligation_paid_iff

lemma nextObligationAction_send {actor : Actor} {now takeoverAt : Int}
    {l : List (ObligationProgress × ObligationPlan)}
    (h : nextObligationAction actor now takeoverAt l = .sendObligation o) :
    ∃ p, (p, o) ∈ l ∧ p.state = .notFound := by
  induction l with
  | nil => simp [nextObligationAction] at h
  | cons pair l ih =>
    obtain ⟨progress, obligation⟩ := pair
    rw [nextObligationAction] at h
    split at h
    · obtain ⟨p, hp, hst⟩ := ih h
      exact ⟨p, .tail _ hp, hst⟩
    · split at h
      · simp at h
      · split at h
        · next hf =>
          refine ⟨progress, ?_, hf⟩
          split at h
          · simp at h
          · split at h
            · simp at h
            · obtain rfl : obligation = o := by simpa using h
              exact .head _
        · simp at h

lemma getNextAction_ne_send (ho : state.Ordered) (hpa : state.Paid o) (actor : Actor)
    (now : Int) : getNextAction P state actor now ≠ .ok (.sendObligation o) := by
  intro h
  simp only [getNextAction, bind_ok] at h
  obtain ⟨_, -, now', -, h⟩ := h
  split at h
  · simp [pure_ok] at h
  · split at h
    · simp [pure_ok] at h
    · obtain ⟨p, hp, hst⟩ := nextObligationAction_send (pure_ok.1 h)
      obtain ⟨i, hi⟩ := mem_iff_getElem?.1 hp
      obtain ⟨hpi, hoi⟩ := getElem?_zip_eq_some.1 hi
      rw [Paid, ho i o hoi, hpi, map_some, hst] at hpa
      simp at hpa

end

def SettledFor (P : Platform) (o : ObligationPlan) (state : Reconciliation) : Prop :=
  state.Paid o ∧ ∀ actor now, getNextAction P state actor now ≠ .ok (.sendObligation o)

variable {state : Reconciliation} {P : Platform}

lemma settledFor_iff {o : ObligationPlan} (ho : state.Ordered) :
    SettledFor P o state ↔ state.Paid o :=
  ⟨And.left, fun hp => ⟨hp, getNextAction_ne_send ho hp⟩⟩

structure FollowsPlan (plan : Plan) (state : Reconciliation) : Prop where
  plan_eq : state.plan = plan
  ordered : state.Ordered

lemma FollowsPlan.step {plan : Plan} {next : Reconciliation} {e : Evidence}
    (hf : FollowsPlan plan state) (h : applyEvidence P state e = .ok next) :
    FollowsPlan plan next := by
  have hn := applyEvidence_plan h
  refine ⟨hn.trans hf.plan_eq, ?_⟩
  unfold Ordered
  rw [hn]
  exact hf.ordered

section
variable {P : Platform} {plan : Plan} {tombstones : List RetirementTombstone}
  {start final : Reconciliation} {evidence : List Evidence}

/-- What is reported paid stays paid exactly when no paid observation is older than the record. -/
theorem paid_stays_paid_iff (hstart : createReconciliation P plan tombstones = .ok start)
    (hrun : foldResult (applyEvidence P) start evidence = .ok final) :
    (∀ o before e after state, before ++ e :: after <+: evidence → e.Pays start.plan o →
        foldResult (applyEvidence P) start (before ++ e :: after) = .ok state →
        SettledFor P o state) ↔
      ∀ o before e after state, evidence = before ++ e :: after → e.Pays start.plan o →
        foldResult (applyEvidence P) start before = .ok state → e.OnTime state o := by
  refine forall_congr' fun o => ?_
  have hinv : ∀ state e next, FollowsPlan start.plan state → applyEvidence P state e = .ok next →
      FollowsPlan start.plan next := fun _ _ _ hf h => hf.step h
  have hstays : ∀ state e next, FollowsPlan start.plan state → SettledFor P o state →
      applyEvidence P state e = .ok next → SettledFor P o next := by
    rintro state e next hf hpaid h
    exact (settledFor_iff (hf.step h).ordered).2 (hpaid.1.step h)
  have hmarks : ∀ state e next, FollowsPlan start.plan state → e.Pays start.plan o →
      applyEvidence P state e = .ok next → (SettledFor P o next ↔ e.OnTime state o) := by
    rintro state e next hf hpays h
    rw [settledFor_iff (hf.step h).ordered]
    exact paid_iff_onTime hf.ordered (hf.plan_eq ▸ hpays) h
  exact foldResult_latches hinv hstays hmarks
    ⟨rfl, createReconciliation_ordered hstart⟩ hrun

end

namespace Sample

def merchant : Text := hexText 64
  0x9e786cce0d95f0f608958afef7a476a21f6c6fb3dce981d2ac054b5f1e9cb921

def merchantId : Text := hexText 64
  0xd0cb5f18af31c298c0e0c4b27f84bc16d6fd1e7fd0bd138e8f0f48d8236f5986

def conduitId : Text := hexText 64
  0xfcb78e2d19447285a1ddf50c779b3b8eee026a25ce7bf7d6393f1835e57871ef

def digest : Json → Text
  | .arr [_, _, _, .num position, _, _, _, _, _] => if position = 0 then merchantId else conduitId
  | .arr [_, _, _, .str obligationId] =>
    if obligationId = merchantId then
      hexText 64 0xcd81d1efb550b3dbb0dd90b6301c8b8b7ca51450bae87c8a89d46b575b9cd3d8
    else hexText 64 0x40f85f3d4458ec615bba6c239708e2bf5864bdbc9a6aae6f8c8c4471f76f32ea
  | _ => hexText 64 0x0725785f0955bd10ab37a5b9e881f33011be9b4c8a81d344e1ef6edb54791d98

def platform : Platform where
  digest := digest
  readBolt11 _ := none
  parseEvidence _ text := some text
  evidenceDigestValue _ text := .str text
  normalizePublicWebSocketUrl := some
  normalizeSafeLnurlPayRequestUrl := some
  identifierMatches _ _ := false
  isValidNostrPublicKey _ := false
  encodeLnurl url := url
  readZapRequest _ := none
  bindsZapDescription _ _ := false
  isControl _ := false

def merchantObligation : ObligationPlan where
  kind := .merchant
  recipientId := merchant
  paymentRequest := "lnbcrt-merchant"
  amountSats := 1000
  maxFeeSats := 10
  position := 0
  obligationId := merchantId
  outgoingId := "cd81d1ef-b550-53db-b0dd-90b6301c8b8b"

def plan : Plan where
  checkoutId := "checkout"
  orderId := "order"
  merchantPubkey := merchant
  walletId := "wallet"
  network := .regtest
  createdAt := 1000
  takeoverAt := 5000
  funding := {
    requestId := "funding"
    paymentRequest := "lnbcrt-funding"
    paymentHash := hexText 64 0x72cd6e8422c407fb6d098690f1130b7ded7ec2f7f5e1d30bd9d521f015363793
    requiredNetSats := 1030
    grossFundingSats := 1040
    createdAt := 1000
    expiresAt := 4000 }
  commerceQuote := none
  schemaVersion := 1
  planDigest := hexText 64 0x0725785f0955bd10ab37a5b9e881f33011be9b4c8a81d344e1ef6edb54791d98
  obligations := [merchantObligation,
    { kind := .conduit
      recipientId := "conduit"
      paymentRequest := "lnbcrt-conduit"
      amountSats := 20
      maxFeeSats := 0
      position := 1
      obligationId := conduitId
      outgoingId := "40f85f3d-4458-5c61-9bba-6c239708e2bf" }]

def created : Reconciliation where
  schemaVersion := 1
  plan := plan
  funding := { state := .unreconciled, observedAt := none }
  obligations := [
    { obligationId := merchantId, state := .unreconciled, observedAt := none },
    { obligationId := conduitId, state := .unreconciled, observedAt := none }]
  updatedAt := 1000

lemma create_plan : createReconciliation platform plan [] = .ok created := by decide +kernel

def spendable : Evidence := .funding {
  requestId := "funding"
  paymentRequest := "lnbcrt-funding"
  paymentHash := plan.funding.paymentHash
  walletId := "wallet"
  network := .regtest
  requiredNetSats := 1030
  grossFundingSats := 1040
  state := .spendable
  observedAt := 1010 }

def observed (state : ObligationState) (observedAt : Int) : Evidence := .obligation {
  obligationId := merchantId
  outgoingId := merchantObligation.outgoingId
  paymentRequest := "lnbcrt-merchant"
  amountSats := 1000
  maxFeeSats := 10
  state := state
  observedAt := observedAt }

def funded (state : ObligationState) (observedAt : Int) : Reconciliation :=
  { created with
    funding := { state := .spendable, observedAt := some 1010 }
    obligations := [{ obligationId := merchantId, state, observedAt := some observedAt },
      { obligationId := conduitId, state := .unreconciled, observedAt := none }]
    updatedAt := 1030 }

end Sample

theorem paid_stays_paid_sample : (∀ o before e after state, before ++ e :: after <+:
          [Sample.spendable, Sample.observed .notFound 1020, Sample.observed .paid 1030] →
        e.Pays Sample.created.plan o →
        foldResult (applyEvidence Sample.platform) Sample.created (before ++ e :: after) =
          .ok state →
        SettledFor Sample.platform o state) ↔
      ∀ o before e after state, [Sample.spendable, Sample.observed .notFound 1020,
          Sample.observed .paid 1030] = before ++ e :: after → e.Pays Sample.created.plan o →
        foldResult (applyEvidence Sample.platform) Sample.created before = .ok state →
        e.OnTime state o := by
  have hrun : foldResult (applyEvidence Sample.platform) Sample.created [Sample.spendable,
      Sample.observed .notFound 1020, Sample.observed .paid 1030] =
        .ok (Sample.funded .paid 1030) := by decide +kernel
  exact paid_stays_paid_iff Sample.create_plan hrun

/-- A paid observation that arrives after a newer one is dropped, and the leg is sent again. -/
theorem late_paid_is_dropped :
    createReconciliation Sample.platform Sample.plan [] = .ok Sample.created ∧
    foldResult (applyEvidence Sample.platform) Sample.created [Sample.spendable,
      Sample.observed .notFound 1030, Sample.observed .paid 1020] =
        .ok (Sample.funded .notFound 1030) ∧
    (Sample.observed .paid 1020).Pays Sample.created.plan Sample.merchantObligation ∧
    ¬ (Sample.funded .notFound 1030).Paid Sample.merchantObligation ∧
    getNextAction Sample.platform (Sample.funded .notFound 1030) .shopper 2000 =
      .ok (.sendObligation Sample.merchantObligation) := by
  refine ⟨Sample.create_plan, ?_, ⟨rfl, ?_⟩, ?_, ?_⟩ <;> decide +kernel

end Conduit.Router
