import Conduit.CheckoutSpark.Plan

namespace Conduit.CheckoutSpark

open Js Throwing List SettledRecipient

variable {P : Platform} {market : Option EventMarketBinding} {label : String}
  {inputs : List RecipientInput} {p plan : SettledPlan} {createdAt : Int} {value t : Int}
  {native : Option NativeTreasuryPlan} {checkoutId orderId : Text} {terms : PlanTerms}
  {input : PlanTerms} {f : FundingPlan} {allow : Bool}

lemma text_eq {value t : Text} {limit : Nat} (h : text value label limit = .ok t) : t = value := by
  simp only [text, run_ok] at h
  exact h.2.symm

lemma hex_eq {value t : Text} (h : hex value label = .ok t) : t = value := by
  simp only [hex, run_ok] at h
  exact h.2.symm

lemma compressedPublicKey_eq {value t : Text} (h : compressedPublicKey value label = .ok t) :
    t = value := by
  simp only [compressedPublicKey, run_ok] at h
  exact h.2.symm

lemma time_eq (h : time value label = .ok t) : t = value := by
  simp only [time, run_ok] at h
  exact h.2.symm

lemma time_ok_iff : time value label = .ok t ↔ t = value ∧ IsSafeInteger value ∧ 0 ≤ value := by
  simp only [time, run_ok, not_or, not_not, not_lt]
  rw [and_comm, eq_comm]

variable {plan : SettledPlan} {rs : List SettledRecipient} {i : NormalizedInvoice}
  {network : Network} {allowZero : Bool} {createdAt amountSats : Int} {k : Nat}

lemma sats_eq (h : sats value label allowZero = .ok t) : t = value := normalizeSats_eq h

lemma sats_ok_iff : sats value label allowZero = .ok t ↔
      t = value ∧ IsSafeInteger value ∧ 0 ≤ value ∧ (allowZero = false → value ≠ 0) := by
  simp only [sats, normalizeSats, run_ok, not_or, not_not, not_lt, not_and]
  constructor
  · rintro ⟨⟨h₁, h₂, h₃⟩, rfl⟩
    exact ⟨rfl, h₁, h₂, h₃⟩
  · rintro ⟨rfl, h₂, h₃, h₄⟩
    exact ⟨⟨h₂, h₃, h₄⟩, rfl⟩

def IsCanonicalRequest (request : Text) : Prop := canonicalPaymentRequest request = request

section

variable {request hash : Text} {at_ : Int}
  (h : normalizeInvoice P request hash amountSats network at_ = .ok i)
include h

lemma normalizeInvoice_ok :
    i.paymentRequest = canonicalPaymentRequest request ∧ i.paymentHash = hash := by
  simp only [normalizeInvoice, run_ok] at h
  obtain ⟨r, hr, -, hash', hh, h⟩ := h
  obtain rfl := text_eq hr
  obtain rfl := hex_eq hh
  split at h
  · cases h
  · simp only [run_ok] at h
    obtain ⟨-, rfl⟩ := h
    exact ⟨rfl, rfl⟩

lemma normalizeInvoice_idem (hc : IsCanonicalRequest i.paymentRequest) :
    normalizeInvoice P i.paymentRequest i.paymentHash amountSats network at_ = .ok i := by
  obtain ⟨hr, hh⟩ := normalizeInvoice_ok h
  have hreq : canonicalPaymentRequest i.paymentRequest = canonicalPaymentRequest request :=
    hc.trans hr
  rw [hh]
  rw [← h]
  simp only [normalizeInvoice, hreq]

end

lemma normalizeSource_eq {c : RecipientInput} {s : DestinationSource}
    (h : normalizeSource createdAt market c = .ok s) : s = c.source := by
  unfold normalizeSource at h
  split at h
  · split at h
    · simp only [run_ok] at h
      simp_all
    · cases h
  · split at h
    · simp only [run_ok] at h
      obtain ⟨-, e, he, t, ht, rfl⟩ := h
      rw [hex_eq he, time_eq ht]
      simp_all
    · cases h
  · split at h
    · simp only [run_ok] at h
      obtain ⟨-, t, ht, -, e, he, rfl⟩ := h
      rw [hex_eq he, time_eq ht]
      simp_all
    · cases h

lemma freezeRecipient_eq {c : RecipientInput × Nat} {r : SettledRecipient}
    (h : freezeRecipient P checkoutId orderId createdAt market c = .ok r) :
    r.toRecipientInput = c.1 ∧ r.position = c.2 ∧
      r.legId = P.digest (legPreimage checkoutId orderId c.2 c.1) ∧ 0 < r.weightSats := by
  simp only [freezeRecipient, run_ok] at h
  obtain ⟨id, hid, s, hs, d, hd, w, hw, rfl⟩ := h
  obtain rfl := text_eq hid
  obtain rfl := normalizeSource_eq hs
  obtain rfl := text_eq hd
  obtain ⟨rfl, -, hpos, hne⟩ := sats_ok_iff.1 hw
  have := hne rfl
  exact ⟨rfl, rfl, rfl, by dsimp only; omega⟩

lemma freezeRecipients_inputs
    (h : mapResult (freezeRecipient P checkoutId orderId createdAt market) (inputs.zipIdx k) =
      .ok rs) : rs.map toRecipientInput = inputs := by
  induction inputs generalizing k rs with
  | nil =>
    have : rs = [] := eq_nil_of_length_eq_zero (mapResult_length h)
    rw [this]
    rfl
  | cons c inputs ih =>
    rw [zipIdx_cons, mapResult_cons_ok] at h
    obtain ⟨r, rest, hr, hre, rfl⟩ := h
    rw [map_cons, ih hre, (freezeRecipient_eq hr).1]

lemma restoreNativeTreasuryPlan_eq {v n : NativeTreasuryPlan}
    (h : restoreNativeTreasuryPlan P v terms = .ok n) : n = v := by
  simp only [restoreNativeTreasuryPlan, run_ok] at h
  obtain ⟨-, -, -, -, rfl⟩ := h
  rfl

lemma hexDigitValue_lt (c : Char) : hexDigitValue c < 16 := by
  unfold hexDigitValue
  split
  · omega
  · split <;> omega

lemma hexBytes_spec (l : List Char) :
    (∀ b ∈ hexBytes l, b < 256) ∧ 2 * (hexBytes l).length ≤ l.length := by
  induction l using hexBytes.induct with
  | case1 c d l ih =>
    have := hexDigitValue_lt c
    have := hexDigitValue_lt d
    rw [hexBytes, forall_mem_cons, length_cons, length_cons, length_cons]
    exact ⟨⟨by omega, ih.1⟩, by omega⟩
  | case2 l h => simp [hexBytes]

lemma not_isSpace_hexDigit : ∀ n < 16, isSpace (hexDigit n) = false := by decide

lemma isId_uuidFromDigest (value : Text) : IsId (uuidFromDigest value) 512 := by
  obtain ⟨hby, hlength⟩ := hexBytes_spec (value.take 32)
  have ht : (value.take 32).length ≤ 32 := by rw [length_take]; omega
  set marked := (hexBytes (value.take 32)).mapIdx fun i b =>
    if i = 6 then b % 16 + 0x50 else if i = 8 then b % 64 + 0x80 else b with hm
  have hlen : marked.length ≤ 16 := by rw [hm, length_mapIdx]; omega
  have hlt : ∀ b ∈ marked, b < 256 := by
    intro b hb
    obtain ⟨i, hi, rfl⟩ := mem_mapIdx.1 hb
    have := hby _ (getElem_mem hi)
    split
    · omega
    · split <;> omega
  set encoded := marked.flatMap fun b => [hexDigit (b / 16), hexDigit (b % 16)] with he
  have hs : ∀ c ∈ encoded, isSpace c = false := by
    intro c hc
    rw [he, mem_flatMap] at hc
    obtain ⟨b, hb, hc⟩ := hc
    have := hlt b hb
    rcases mem_cons.1 hc with rfl | hc
    · exact not_isSpace_hexDigit _ (by omega)
    · rw [mem_singleton.1 hc]
      exact not_isSpace_hexDigit _ (by omega)
  have hencodedLength : encoded.length ≤ 32 := by
    rw [he, length_flatMap]
    simp
    omega
  have hu : uuidFromDigest value = encoded.take 8 ++ '-' :: ((encoded.drop 8).take 4 ++ '-' ::
      ((encoded.drop 12).take 4 ++ '-' :: ((encoded.drop 16).take 4 ++ '-' :: encoded.drop 20))) := by
    simp [uuidFromDigest, ← hm, ← he, intercalate]
  rw [hu]
  refine ⟨by simp, ?_, ?_⟩
  · refine (length_le _).trans ?_
    simp
    omega
  · apply trim_of_forall
    intro c hc
    simp only [mem_append, mem_cons] at hc
    have ht : ∀ n m, c ∈ (encoded.drop n).take m → isSpace c = false :=
      fun n m h => hs c (mem_of_mem_drop (mem_of_mem_take h))
    rcases hc with h | rfl | h | rfl | h | rfl | h | rfl | h
    · exact hs c (mem_of_mem_take h)
    · rfl
    · exact ht _ _ h
    · rfl
    · exact ht _ _ h
    · rfl
    · exact ht _ _ h
    · rfl
    · exact hs c (mem_of_mem_drop h)

/-- The parts of a plan that a freeze may rewrite are already in their final form. -/
structure SettledPlan.Stable (P : Platform) (plan : SettledPlan) : Prop where
  funding : IsCanonicalRequest plan.funding.paymentRequest
  relays : ∀ policy ∈ plan.merchantPublicZapPolicy, policy.Settled P

variable {gross : Int}

lemma freezeFunding_eq (h : freezeFunding P terms createdAt gross = .ok f) :
    f.paymentRequest = canonicalPaymentRequest terms.funding.paymentRequest ∧
      f.grossFundingSats = gross ∧ f.createdAt = createdAt := by
  simp only [freezeFunding, run_ok] at h
  obtain ⟨i, hi, id, hid, key, hkey, t, ht, e, he, hw, rfl⟩ := h
  refine ⟨(normalizeInvoice_ok hi).1, rfl, ?_⟩
  by_contra hne
  exact hw (.inl hne)

lemma freezeFunding_ids (h : freezeFunding P terms createdAt gross = .ok f) :
    f.requestId = terms.funding.requestId ∧
      f.receiverIdentityPublicKey = terms.funding.receiverIdentityPublicKey := by
  simp only [freezeFunding, run_ok] at h
  obtain ⟨i, -, id, hid, key, hk, t, -, e, -, -, rfl⟩ := h
  exact ⟨text_eq hid, compressedPublicKey_eq hk⟩

lemma freezeFunding_idem {terms terms' : PlanTerms}
    (h : freezeFunding P terms createdAt gross = .ok f) (hte : terms'.funding = f)
    (hn : terms'.network = terms.network) (hc : IsCanonicalRequest f.paymentRequest) :
    freezeFunding P terms' createdAt gross = .ok f := by
  simp only [freezeFunding, run_ok] at h
  obtain ⟨i, hi, id, hid, key, hk, t, ht, e, he, hw, rfl⟩ := h
  obtain rfl := text_eq hid
  obtain rfl := compressedPublicKey_eq hk
  obtain rfl := time_eq ht
  obtain rfl := time_eq he
  simp only [freezeFunding, hte, hn, normalizeInvoice_idem hi hc, hid, hk, ht, he,
    reject_of_not hw, ok_bind]
  rfl

lemma freezeSettledPlanInternal_idem (hP : LawfulEvidence P)
    (h : freezeSettledPlanInternal P input inputs allow native market = .ok plan)
    (hs : plan.Stable P) : freezeSettledPlanInternal P plan.toPlanTerms
      (plan.recipients.map toRecipientInput) allow plan.nativeTreasury
      plan.eventMarket = .ok plan := by
  simp only [freezeSettledPlanInternal, run_ok] at h
  obtain ⟨checkoutId, hc, orderId, ho, merchant, hmer, walletId, hw, createdAt,
    hm, takeoverAt, htak, ha, quote, hqt, event, hev, hnat, weights,
    hwe, gross, hg, expected, he, ht, funding, hfun, hma, recipients,
    hr, u, hasrt, zap, hz, treasury, htrs, canonical, hcan, rfl⟩ := h
  obtain rfl := text_eq hc
  obtain rfl := text_eq ho
  obtain rfl := hex_eq hmer
  obtain rfl := text_eq hw
  obtain rfl := time_eq hm
  obtain rfl := time_eq htak
  obtain rfl := sats_eq hg
  obtain rfl : treasury = native :=
    optionResult_eq_self (fun _ _ => restoreNativeTreasuryPlan_eq) htrs
  have hg' : funding.grossFundingSats = input.funding.grossFundingSats :=
    (freezeFunding_eq hfun).2.1
  have hev' : event.isSome = market.isSome := by
    rcases optionResult_ok hev with ⟨rfl, rfl⟩ | ⟨_, _, rfl, rfl, -⟩ <;> rfl
  have hz' : optionResult (freezeMerchantPublicZapPolicy P) zap = .ok zap := by
    rcases optionResult_ok hz with ⟨-, rfl⟩ | ⟨p, q, -, rfl, hpq⟩
    · rfl
    · simp only [optionResult, freezeMerchantPublicZapPolicy_idem hpq (hs.relays q rfl), ok_bind]
      rfl
  have hfun' : ∀ terms : PlanTerms, terms.funding = funding → terms.network = input.network →
      freezeFunding P terms input.createdAt input.funding.grossFundingSats = .ok funding :=
    fun terms hf hn => freezeFunding_idem hfun hf hn hs.funding
  simp only [freezeSettledPlanInternal, hc, ho, hmer, hw, hm, htak,
    hev', freezeCommerceQuote_idem hP hqt,
    optionResult_idem (fun _ _ => freezeEventMarketBinding_idem) hev, hwe, hg', hg,
    he, hfun',
    freezeRecipients_inputs hr, hr, hasrt, hz', htrs, hcan,
    reject_of_not ha, reject_of_not hnat, reject_of_not ht, reject_of_not hma, ok_bind]
  rfl

structure FrozenPlan (P : Platform) (plan : SettledPlan) (weights : AllocationWeights) : Prop where
  weights_eq : planWeights plan.commerceQuote plan.eventMarket plan.conduitFeePolicy = .ok weights
  recipients : assertRecipients plan.merchantPubkey plan.commerceQuote.commerceTotalSats
    plan.eventMarket weights plan.recipients = .ok ()
  legIds : plan.recipients.map SettledRecipient.legId =
    (plan.recipients.map SettledRecipient.toRecipientInput).zipIdx.map
      fun c => P.digest (legPreimage plan.checkoutId plan.orderId c.2 c.1)
  positive : ∀ r ∈ plan.recipients, 0 < r.weightSats
  version : plan.schemaVersion =
    if plan.eventMarket ≠ none then 5 else if plan.nativeTreasury ≠ none then 4 else 3
  native : plan.eventMarket ≠ none → plan.nativeTreasury ≠ none
  createdAt : IsSafeInteger plan.createdAt ∧ 0 ≤ plan.createdAt
  takeoverAt : plan.createdAt < plan.takeoverAt
  organizerFee : ∀ market ∈ plan.eventMarket, SafeSats market.organizerFeeSats

lemma freezeRecipients_legIds
    (h : mapResult (freezeRecipient P checkoutId orderId createdAt market) (inputs.zipIdx k) =
      .ok rs) : rs.map legId =
      (inputs.zipIdx k).map fun c => P.digest (legPreimage checkoutId orderId c.2 c.1) := by
  induction inputs generalizing k rs with
  | nil =>
    have : rs = [] := eq_nil_of_length_eq_zero (mapResult_length h)
    rw [this]
    rfl
  | cons c inputs ih =>
    rw [zipIdx_cons, mapResult_cons_ok] at h
    obtain ⟨r, rest, hr, hre, rfl⟩ := h
    rw [zipIdx_cons, map_cons, map_cons, ih hre, (freezeRecipient_eq hr).2.2.1]

lemma frozenPlan_of_freeze
    (h : freezeSettledPlanInternal P input inputs allow native market = .ok plan) :
    ∃ weights, FrozenPlan P plan weights := by
  simp only [freezeSettledPlanInternal, run_ok] at h
  obtain ⟨checkoutId, -, orderId, -, merchant, -, walletId, -, createdAt, hma, takeoverAt, -,
    hafter, quote, hqt, event, hev, hnat, weights, hw, gross, -, expected, -, -,
    funding, -, -, recipients, hrc, u, ha, zap, -, treasury, ht, canonical, -,
    rfl⟩ := h
  obtain rfl : treasury = native :=
    optionResult_eq_self (fun _ _ => restoreNativeTreasuryPlan_eq) ht
  obtain ⟨rfl, hs, hp⟩ := time_ok_iff.1 hma
  refine ⟨weights, ⟨hw, ha, ?_, ?_, rfl, ?_, ⟨hs, hp⟩, ?_, ?_⟩⟩
  · rw [freezeRecipients_inputs hrc]
    exact freezeRecipients_legIds hrc
  · intro r hr
    obtain ⟨c, -, hc⟩ := mem_of_mapResult hrc hr
    exact (freezeRecipient_eq hc).2.2.2
  · intro hso hn
    exact hnat ⟨hso, hn⟩
  · dsimp only
    omega
  · rintro m hm
    rcases optionResult_ok hev with ⟨-, rfl⟩ | ⟨a, b, -, rfl, hab⟩
    · cases hm
    · obtain rfl : b = m := by simpa using hm
      exact freezeEventMarketBinding_fee hab

lemma frozenPlan_of_restore (h : restoreSettledPlan P p = .ok plan) :
    ∃ weights, FrozenPlan P plan weights := by
  simp only [restoreSettledPlan, run_ok] at h
  obtain ⟨-, canonical, hf, -, rfl⟩ := h
  exact frozenPlan_of_freeze hf

lemma freeze_options (h : freezeSettledPlanInternal P input inputs allow native market = .ok plan) :
    plan.nativeTreasury = native ∧ plan.eventMarket.isSome = market.isSome ∧
      plan.merchantPublicZapPolicy.isSome = input.merchantPublicZapPolicy.isSome := by
  simp only [freezeSettledPlanInternal, run_ok] at h
  obtain ⟨checkoutId, -, orderId, -, merchant, -, walletId, -, createdAt, -, takeoverAt, -, -,
    quote, -, event, hev, -, weights, -, gross, -, expected, -, -, funding, -, -, recipients, -,
    u, -, zap, hzap, treasury, ht, canonical, -, rfl⟩ := h
  refine ⟨optionResult_eq_self (fun _ _ => restoreNativeTreasuryPlan_eq) ht, ?_, ?_⟩
  · rcases optionResult_ok hev with ⟨rfl, rfl⟩ | ⟨_, _, rfl, rfl, -⟩ <;> rfl
  · rcases optionResult_ok hzap with ⟨hz, rfl⟩ | ⟨_, _, hz, rfl, -⟩
    · rw [hz]
    · rw [hz]
      rfl

lemma isSome_eq_iff {α β : Type} {o : Option α} {o' : Option β} (h : o.isSome = o'.isSome) :
    o = none ↔ o' = none := by
  cases o <;> cases o' <;> simp_all

lemma restoreSettledPlan_version (h : restoreSettledPlan P p = .ok plan) :
    plan.schemaVersion = p.schemaVersion ∧
      (plan.schemaVersion = 3 ∧ plan.nativeTreasury = none ∧ plan.eventMarket = none ∨
        plan.schemaVersion = 4 ∧ plan.nativeTreasury ≠ none ∧ plan.eventMarket = none ∨
        plan.schemaVersion = 5 ∧ plan.nativeTreasury ≠ none ∧ plan.eventMarket ≠ none ∧
          plan.merchantPublicZapPolicy = none) := by
  obtain ⟨weights, hfr⟩ := frozenPlan_of_restore h
  simp only [restoreSettledPlan, run_ok] at h
  obtain ⟨hver, canonical, hf, -, rfl⟩ := h
  obtain ⟨hna, hm, hz⟩ := freeze_options hf
  have hv := hfr.version
  rw [hna] at hv ⊢
  simp only [SettledPlan.IsNativeTreasuryPlan, ne_eq, not_or, not_and, not_not] at hver
  obtain ⟨hkn, ht, hnat, hev, hp⟩ := hver
  simp only [ne_eq, isSome_eq_iff hm, isSome_eq_iff hz] at hv ⊢
  by_cases h5 : p.schemaVersion = 5
  · rw [if_pos h5] at hev
    rw [if_pos hev] at hv
    exact ⟨hv.trans h5.symm, .inr (.inr ⟨hv, hnat (.inr h5), hev, hp h5⟩)⟩
  · rw [if_neg h5, not_not] at hev
    rw [if_neg (not_not.2 hev)] at hv
    by_cases h4 : p.schemaVersion = 4
    · have hn := hnat (.inl h4)
      rw [if_pos hn] at hv
      exact ⟨hv.trans h4.symm, .inr (.inl ⟨hv, hn, hev⟩)⟩
    · have h3 : p.schemaVersion = 3 := by
        by_contra h3
        exact h5 (hkn h3 h4)
      rw [if_neg (not_not.2 (ht h3))] at hv
      exact ⟨hv.trans h3.symm, .inl ⟨hv, ht h3, hev⟩⟩

lemma restoreSettledPlan_idem (hP : LawfulEvidence P) (h : restoreSettledPlan P p = .ok plan)
    (hs : plan.Stable P) : restoreSettledPlan P plan = .ok plan := by
  obtain ⟨heq, hv⟩ := restoreSettledPlan_version h
  simp only [restoreSettledPlan, run_ok] at h
  obtain ⟨-, canonical, hf, -, rfl⟩ := h
  have hi := freezeSettledPlanInternal_idem hP hf hs
  rw [← heq] at hi
  simp only [restoreSettledPlan, run_ok]
  refine ⟨?_, canonical, hi, by simp, rfl⟩
  rcases hv with ⟨h3, hn, hm⟩ | ⟨h4, hn, hm⟩ | ⟨h5, hn, hm, hz⟩
  · simp [h3, hn, hm, SettledPlan.IsNativeTreasuryPlan]
  · simp [h4, hn, hm, SettledPlan.IsNativeTreasuryPlan]
  · simp [h5, hn, hm, hz, SettledPlan.IsNativeTreasuryPlan]

lemma restoreSettledPlan_keeps (h : restoreSettledPlan P p = .ok plan) :
    plan.recipients = p.recipients ∧ plan.funding.requestId = p.funding.requestId ∧
      plan.funding.receiverIdentityPublicKey = p.funding.receiverIdentityPublicKey ∧
      plan.funding.grossFundingSats = p.funding.grossFundingSats := by
  simp only [restoreSettledPlan, run_ok, not_or, ne_eq, not_not] at h
  obtain ⟨-, canonical, hf, ⟨-, hi⟩, rfl⟩ := h
  simp only [freezeSettledPlanInternal, run_ok] at hf
  obtain ⟨checkoutId, -, orderId, -, merchant, -, walletId, -, createdAt, -, takeoverAt, -, -,
    quote, -, event, -, -, weights, -, gross, hg, expected, -, -, funding, hfun, -,
    recipients, hr, u, -, zap, -, treasury, -, value, -, rfl⟩ := hf
  obtain ⟨hreq, hrcv⟩ := freezeFunding_ids hfun
  refine ⟨?_, hreq, hrcv, (freezeFunding_eq hfun).2.1.trans (sats_eq hg)⟩
  have hinp := freezeRecipients_inputs hr
  have hs : Function.Injective fun r : SettledRecipient =>
      (r.toRecipientInput, r.position, r.legId) := by
    rintro ⟨_, _, _⟩ ⟨_, _, _⟩ hrr
    simpa using hrr
  refine (map_injective_iff.2 hs) ?_
  have hz : ∀ l : List SettledRecipient,
      l.map (fun r => (r.toRecipientInput, r.position, r.legId)) =
        (l.map toRecipientInput).zip (l.map fun r => (r.position, r.legId)) := by
    intro l
    rw [zip_map']
  rw [hz, hz, hinp, hi]

end Conduit.CheckoutSpark
