import Conduit.CheckoutSpark.Restorable

namespace Conduit.CheckoutSpark

open Js Throwing Runs

/-- A freeze brings the plan into its final form. -/
structure SettledPlan.Settles (P : Platform) (plan : SettledPlan) : Prop where
  funding : AcceptedRequest plan.funding.paymentRequest
  relays : ∀ policy ∈ plan.merchantPublicZapPolicy, ∀ relay ∈ policy.relays, ∀ normalized,
    normalizeZapRelay P relay = .ok normalized → normalizeZapRelay P normalized = .ok normalized

variable {P : Platform} {p : SettledPlan}

lemma stable_of_settles {plan : SettledPlan} (h : restoreSettledPlan P p = .ok plan)
    (hs : p.Settles P) : plan.Stable P := by
  simp only [restoreSettledPlan, run_ok] at h
  obtain ⟨-, canonical, h, -, rfl⟩ := h
  simp only [freezeSettledPlanInternal, run_ok] at h
  obtain ⟨checkoutId, -, orderId, -, merchant, -, walletId, -, createdAt, -, takeoverAt, -, -,
    quote, -, event, -, -, weights, -, gross, -, expected, -, -, funding, hfun, -, recipients,
    -, u, -, zap, hz, treasury, -, canonical, -, rfl⟩ := h
  refine ⟨?_, fun policy hp relay hr => ?_⟩
  · change IsCanonicalRequest funding.paymentRequest
    rw [(freezeFunding_eq hfun).1]
    exact hs.funding
  · obtain ⟨-, rfl⟩ | ⟨input, frozen, hi, rfl, hf⟩ := optionResult_ok hz
    · cases hp
    · cases hp
      simp only [freezeMerchantPublicZapPolicy, run_ok] at hf
      obtain ⟨-, -, relays, hrel, -, rfl⟩ := hf
      obtain ⟨old, hold, hok⟩ := mem_of_mapResult hrel hr
      exact hs.relays input hi old hold relay hok

lemma stable_of_created {s : SettledReconciliation} (h : createSettledReconciliation P p = .ok s)
    (hs : p.Settles P) : s.plan.Stable P := by
  simp only [createSettledReconciliation, run_ok] at h
  obtain ⟨plan, hp, rfl⟩ := h
  exact stable_of_settles hp hs

namespace Sample

def merchant : Text := hexText 64
  0x9e786cce0d95f0f608958afef7a476a21f6c6fb3dce981d2ac054b5f1e9cb921

def profile : Text := hexText 64
  0x1900eab6c028483d7126599ee6f50de0d27907b5c65fa90524580b4b0f9852b0

def product : Text := hexText 64
  0xa8792157cb4f27fb949c035f45518c61e884bb86e6f420204379c2baa8beb66e

def fundingHash : Text := hexText 64
  0x72cd6e8422c407fb6d098690f1130b7ded7ec2f7f5e1d30bd9d521f015363793

def payoutHash : Text := hexText 64
  0x75877bb41d393b5fb8455ce60ecd8dda001d06316496b14dfa7f895656eeca4a

def merchantLeg : Text := hexText 64
  0x4bf1935509a9928025f8a9a5bf0784f42cbf3e8db81a37c5445af21acfa3100f

def conduitLeg : Text := hexText 64
  0x36837e326f160b53dc55795296bbc0aca529ad4b05d938ca6f6eb40f605fcaeb

def receiver : Text := hexText 66
  0x2c8f975a2d56c447d129bc794f571620f458f86ec1d00ff0382aee561713bd110

def treasuryReceiver : Text := hexText 66
  0x25cbdf0646e5db4eaa398f365f2ea7a0e3d419b7e0330e39ce92bddedcac4f9bc

def invoiceDigest : Text := hexText 64
  0x47464ac5e6a7767cf2f01ac124a3c6c4b6d73cd38a516fd4f3d60cfeb9700ad8

def planDigest : Text := hexText 64
  0x5213afa99b4f4f5ae91fd770c0314d5eb98aa97a8c7d77749cbd40a3255c63c3

def transferDigest : Text := hexText 64
  0xb3d6d7cf03b52de470e797358b6baf397c4802970bf080e4d4a90c8d96e82371

def accountingDigest : Text := hexText 64
  0x516f034420fb63e8524b63926581e0cc336a89afa004b7e057b4be6b821f5f56

def fundingInvoice : Text :=
  "lnbcrt10230n1".toList ++
    bech32Text 60 0xd693a40010d1cb35ba108b101fedb4261a43c44c2df7b5fb0bdfd7874c2f675487c054d8de ++
    bech32Text 60 0x4c201a088888888888888888888888888888888888888888888888888888888888888883408 ++
    bech32Text 60 0x6f7264657230063840a01c10087ae7802e8a0ed91b3f5febdf3385df0c109b9c6c8a8e7c382 ++
    bech32Text 60 0x6f5c369f6b3eb27bc556d0fff8b6c5c94b653294c838039752ce0bfc871ffb610cfe3a9664c ++
    bech32Text 10 0x269804a404cc7

def payoutInvoice : Text :=
  "lnbcrt10000n1".toList ++
    bech32Text 60 0xd693a47810d1d61deed074e4ed7ee11573983b363768007418c5925ac537e9fe25595bbb29 ++
    bech32Text 60 0x28201a088888888888888888888888888888888888888888888888888888888888888883408 ++
    bech32Text 60 0x6f7264657230063840a01c100b899fff596444e08d33977255a2e17d3d5937def42c364cd08 ++
    bech32Text 60 0x4df0c6139e4fc67da007572e4d861b0d3d9fe0efb70fee6949956bd8b075aa8c0111e2f1d5f ++
    bech32Text 10 0x83c02da729bf

def digest : Json → Text
  | .arr (.str domain :: rest) =>
    if domain = "conduit:checkout-spark-settled-leg:v3" then
      match rest with
      | _ :: _ :: .num 0 :: _ => merchantLeg
      | _ => conduitLeg
    else if domain = "conduit:checkout-spark-native-treasury-invoice:v1" then
      invoiceDigest
    else if domain = "conduit:checkout-spark-settled-plan:v4" then
      planDigest
    else if domain = "conduit:checkout-spark-settled-transfer:v3" then
      transferDigest
    else
      accountingDigest
  | _ => []

def readBolt11 (invoice : Text) : Option Bolt11Fields :=
  if invoice = fundingInvoice then some {
    msats := some 1023000
    expiresAt := some 1800003600
    paymentHash := some fundingHash
    wellSigned := true }
  else if invoice = payoutInvoice then some {
    msats := some 1000000
    expiresAt := some 1800003660
    paymentHash := some payoutHash
    wellSigned := true }
  else none

def platform : Platform where
  digest := digest
  readBolt11 := readBolt11
  parseEvidence _ text := some text
  evidenceDigestValue _ text := .str text
  normalizePublicWebSocketUrl := some
  normalizeSafeLnurlPayRequestUrl := some
  identifierMatches _ _ := false
  isValidNostrPublicKey _ := false
  encodeLnurl url := url
  readZapRequest _ := none
  bindsZapDescription _ _ := false
  isControl _ := false

def invoiceId : Text := "47464ac5-e6a7-567c-b2f0-1ac124a3c6c4"

def conduitAddress : Text := "conduithodlings@strike.me"

def plan : SettledPlan where
  checkoutId := "checkout"
  orderId := "order"
  merchantPubkey := merchant
  walletId := "wallet"
  network := .regtest
  createdAt := 1800000000000
  takeoverAt := 1800000900000
  commerceQuote := {
    commerceTotalSats := 1000
    lines := [{
      productCoordinate := "30402:" ++ merchant ++ ":tee"
      productEventId := product
      merchantPubkey := merchant
      quantity := 1
      unitMerchandiseSats := 1000
      unitShippingSats := 0
      sourcePrice := none
      sourceShippingCost := none
      variation := none
      shippingPolicy := none
      shippingOption := none
      pickup := none }]
    pricing := none
    pricingAuthority := none }
  funding := {
    requestId := "funding"
    paymentRequest := fundingInvoice
    paymentHash := fundingHash
    receiverIdentityPublicKey := receiver
    grossFundingSats := 1023
    createdAt := 1800000000000
    expiresAt := 1800003600000 }
  merchantPublicZapPolicy := none
  conduitFeePolicy := some "percentage-only-v1"
  schemaVersion := 4
  recipients := [
    { kind := .merchant
      recipientId := merchant
      destination := "merchant@example.com"
      source := .signedProfile profile 1799999000
      weightSats := 1000
      position := 0
      legId := merchantLeg },
    { kind := .conduit
      recipientId := conduitAddress
      destination := conduitAddress
      source := .conduitAllowlist .production
      weightSats := 21
      position := 1
      legId := conduitLeg }]
  nativeTreasury := some {
    sparkAddress := "sparkrt1native"
    receiverIdentityPublicKey := treasuryReceiver
    senderIdentityPublicKey := receiver
    invoiceId := invoiceId
    invoiceRequest := "sparkinvoice" }
  eventMarket := none
  planDigest := planDigest

def transferId : Text := "b3d6d7cf-03b5-5de4-b0e7-97358b6baf39"

def credit : CreditEvidence where
  requestId := "funding"
  paymentHash := fundingHash
  transferId := "credit"
  receiverIdentityPublicKey := receiver
  grossSats := 1023
  creditedSats := 1023
  observedAt := 1800000030000

def payout : LegIntent where
  legId := merchantLeg
  transferId := transferId
  paymentRequest := payoutInvoice
  paymentHash := payoutHash
  invoiceAmountSats := 1000
  maxFeeSats := 2
  preparedAt := 1800000060000
  publicZap := none
  receiverBinding := none

def paidWith (fee observedAt : Int) : LegEvidence where
  legId := merchantLeg
  transferId := transferId
  paymentHash := payoutHash
  status := .paid
  observedAt := observedAt
  finalFeeSats := some fee
  finalDebitSats := some (1000 + fee)

def settlement : MerchantSettlementRecord where
  schemaVersion := 2
  nativeTreasury := none
  merchantPubkey := merchant
  orderId := "order"
  checkoutId := "checkout"
  planDigest := planDigest
  merchantLegId := some merchantLeg
  organizerLegId := none
  requiredCommerceLegIds := [merchantLeg]
  feeLegId := conduitLeg
  credit := some { transferId := "credit", creditedSats := 1023, observedAt := 1800000030000 }
  paidLegs := [{
    legId := merchantLeg
    transferId := transferId
    allocationSats := 1002
    finalDebitSats := 1001
    finalFeeSats := 1
    observedAt := 1800000070000
    recipientVerified := true }]

def collection : NativeTreasuryEvidence where
  invoiceId := invoiceId
  status := .paid
  providerTransferId := some "collection"
  observedAt := 1800000090000
  finalFeeSats := some 0
  finalDebitSats := some 22

def merchantProgress : LegProgress :=
  { freshLeg plan merchantLeg (some 1002) with
    intent := some payout
    status := .prepared
    observedAt := some 1800000060000 }

def merchantPaid (fee observedAt : Int) : LegProgress :=
  { merchantProgress with
    status := .paid
    observedAt := some observedAt
    finalFeeSats := some fee
    finalDebitSats := some (1000 + fee) }

def conduitProgress : LegProgress := freshLeg plan conduitLeg (some 21)

def treasuryIntent : NativeTreasuryIntent where
  budget := {
    baseConduitAllocationSats := 21
    unusedCommerceReserveSats := 1
    authorizedDebitSats := 22
    accountingDigest := accountingDigest }
  invoiceId := invoiceId
  invoiceRequest := "sparkinvoice"
  amountSats := 22
  preparedAt := 1800000080000

def collecting : NativeTreasuryFinalization :=
  { createNativeTreasuryFinalization with
    intent := some treasuryIntent
    status := .prepared
    observedAt := some 1800000080000 }

def collected : NativeTreasuryFinalization :=
  { collecting with
    status := .paid
    providerTransferId := some "collection".toList
    observedAt := some 1800000090000
    finalFeeSats := some 0
    finalDebitSats := some 22 }

def createdState : SettledReconciliation where
  schemaVersion := 5
  plan := plan
  credit := none
  legs := [freshLeg plan merchantLeg none, freshLeg plan conduitLeg none]
  treasuryFinalization := some createNativeTreasuryFinalization
  updatedAt := 1800000000000

def creditedState : SettledReconciliation :=
  { createdState with
    credit := some credit
    legs := [freshLeg plan merchantLeg (some 1002), conduitProgress]
    updatedAt := 1800000030000 }

def preparedState : SettledReconciliation :=
  { creditedState with
    legs := [merchantProgress, conduitProgress]
    updatedAt := 1800000060000 }

def paidState : SettledReconciliation :=
  { preparedState with
    legs := [merchantPaid 1 1800000070000, conduitProgress]
    updatedAt := 1800000070000 }

def collectingState : SettledReconciliation :=
  { paidState with
    legs := [merchantPaid 1 1800000070000, mirroredLeg conduitProgress collecting]
    treasuryFinalization := some collecting
    updatedAt := 1800000080000 }

def collectedState : SettledReconciliation :=
  { paidState with
    legs := [merchantPaid 1 1800000070000, mirroredLeg conduitProgress collected]
    treasuryFinalization := some collected
    updatedAt := 1800000090000 }

def overwrittenState : SettledReconciliation :=
  { collectedState with
    legs := [merchantPaid 2 1800000100000, mirroredLeg conduitProgress collected]
    updatedAt := 1800000100000 }

lemma lawfulEvidence : LawfulEvidence platform := fun _ _ _ _ => rfl

lemma restore_plan : restoreSettledPlan platform plan = .ok plan := by decide +kernel

lemma create_plan : createSettledReconciliation platform plan = .ok createdState := by
  simp only [createSettledReconciliation, restore_plan, ok_bind]
  rfl

lemma distinctLegDigests : DistinctLegDigests platform plan := by
  unfold DistinctLegDigests
  decide +kernel

lemma settles : plan.Settles platform := by
  refine ⟨?_, by rintro policy ⟨⟩⟩
  unfold AcceptedRequest IsCanonicalRequest
  decide +kernel

lemma reloads_created : Reloads platform createdState :=
  CheckoutSpark.reloads_created lawfulEvidence create_plan distinctLegDigests
    (stable_of_created create_plan settles)

lemma restore_of_reloads {s : SettledReconciliation} (h : Reloads platform s) :
    restoreSettledReconciliation platform s = .ok s := restore_ok_iff.2 h.restores

lemma step_credit : recordSettledCredit platform createdState credit = .ok creditedState := by
  simp only [recordSettledCredit, restore_of_reloads reloads_created, ok_bind]
  rfl

lemma reloads_credited : Reloads platform creditedState := reloads_created.credit step_credit

lemma accepted_payout : AcceptedRequest payout.paymentRequest := by
  unfold AcceptedRequest IsCanonicalRequest
  decide +kernel

set_option maxRecDepth 8000 in
lemma step_prepare : prepareSettledLeg platform creditedState payout = .ok preparedState := by
  simp only [prepareSettledLeg, restore_of_reloads reloads_credited, ok_bind]
  rfl

lemma reloads_prepared : Reloads platform preparedState :=
  reloads_credited.prepare step_prepare accepted_payout

lemma step_paid :
    recordSettledLegStatus platform preparedState (paidWith 1 1800000070000) = .ok paidState := by
  simp only [recordSettledLegStatus, restore_of_reloads reloads_prepared, ok_bind]
  rfl

lemma first_report : ¬ OverwritesReceipt preparedState (paidWith 1 1800000070000) := by
  rintro ⟨-, leg, hl, -, hp, -⟩
  exact (show ∀ leg ∈ preparedState.legs, leg.status ≠ .paid by decide +kernel) leg hl hp

lemma reloads_paid : Reloads platform paidState :=
  reloads_prepared.status step_paid fun h => first_report h.1

set_option maxRecDepth 8000 in
set_option maxRecDepth 8000 in
lemma step_collecting :
    prepareNativeTreasury platform paidState settlement 1800000080000 = .ok collectingState := by
  simp only [prepareNativeTreasury, deriveNativeTreasuryBudget, restore_of_reloads reloads_paid,
    ok_bind]
  rfl

lemma reloads_collecting : Reloads platform collectingState :=
  reloads_paid.prepareNative step_collecting

set_option maxRecDepth 8000 in
set_option maxRecDepth 8000 in
lemma step_collected :
    recordNativeTreasuryStatus platform collectingState collection = .ok collectedState := by
  simp only [recordNativeTreasuryStatus, restore_of_reloads reloads_collecting, ok_bind]
  rfl

lemma reloads_collected : Reloads platform collectedState :=
  reloads_collecting.nativeStatus step_collected

lemma step_overwritten : recordSettledLegStatus platform collectedState (paidWith 2 1800000100000) =
      .ok overwrittenState := by
  simp only [recordSettledLegStatus, restore_of_reloads reloads_collected, ok_bind]
  rfl

/-- The steps of the run before the second report meet every condition. -/
def Regular (s : SettledReconciliation) (op : SettledOp) : Prop :=
  op.KeepsReceipts s ∧ op.KeepsRestorable s

lemma run_paid : Run (SettledStep platform Regular) createdState
    [.credit credit, .prepare payout, .status (paidWith 1 1800000070000)] paidState := by
  refine .cons ⟨step_credit, trivial, trivial⟩ (.cons ⟨step_prepare, trivial, accepted_payout⟩ ?_)
  exact .cons ⟨step_paid, first_report, fun h => first_report h.1⟩ (.nil _)

lemma run_collected : Run (SettledStep platform Regular) paidState
    [.prepareNative settlement 1800000080000, .nativeStatus collection] collectedState :=
  .cons ⟨step_collecting, trivial, trivial⟩ (.cons ⟨step_collected, trivial, trivial⟩ (.nil _))

lemma keepsBudget_of_regular {s t : SettledReconciliation} {op : SettledOp}
    (h : SettledStep platform Regular op s t) : SettledStep platform SettledOp.KeepsBudget op s t := by
  refine ⟨h.1, ?_⟩
  cases op with
  | status evidence => exact fun hb => h.2.1 hb.1
  | _ => trivial

lemma run_overwritten : Run (SettledStep platform fun _ _ => True) createdState
    ([.credit credit, .prepare payout, .status (paidWith 1 1800000070000)] ++
      [.prepareNative settlement 1800000080000, .nativeStatus collection] ++
      [.status (paidWith 2 1800000100000)]) overwrittenState :=
  ((run_paid.append run_collected).mono fun _ _ _ h => ⟨h.1, trivial⟩).append
    (.cons ⟨step_overwritten, trivial⟩ (.nil _))

end Sample

open Sample

section
variable {P : Platform} {s t : SettledReconciliation}

/-- No run over-spends the credit, as long as no step rewrites a receipt that the native
collection has counted. -/
theorem run_withinCredit {p : SettledPlan} {s₀ : SettledReconciliation} {ops : List SettledOp}
    (hd : DistinctLegDigests P p) (h₀ : createSettledReconciliation P p = .ok s₀)
    (h : Run (SettledStep P SettledOp.KeepsBudget) s₀ ops s) : WithinCredit s :=
  (h.invariant (fun _ _ _ hs hstep => sound_step hstep hs)
    (sound_created h₀ hd)).funded.withinCredit

theorem withinCredit_sample : WithinCredit collectedState :=
  run_withinCredit distinctLegDigests create_plan
    ((run_paid.append run_collected).mono fun _ _ _ => keepsBudget_of_regular)

theorem run_overspends : createSettledReconciliation platform plan =
      .ok createdState ∧
    (∃ ops, Run (SettledStep platform fun _ _ => True) createdState ops
      overwrittenState) ∧
    ¬ WithinCredit overwrittenState := by
  refine ⟨create_plan, ⟨_, run_overwritten⟩, fun h => ?_⟩
  exact absurd h.credit (by decide +kernel)

/-- A recorded payment is final, as long as no step reports a second fee for it. -/
theorem run_keepsPaid {p : SettledPlan} {s₀ : SettledReconciliation} {ops ops' : List SettledOp}
    (hd : DistinctLegDigests P p) (h₀ : createSettledReconciliation P p = .ok s₀)
    (hs : Run (SettledStep P SettledOp.KeepsReceipts) s₀ ops s)
    (ht : Run (SettledStep P SettledOp.KeepsReceipts) s ops' t) : KeepsPaid s t := by
  have hstep : ∀ op u v, Requested u → SettledStep P SettledOp.KeepsReceipts op u v →
      Requested v ∧ KeepsPaid u v := fun op u v hu h => advances_step hu h
  have hreach : Requested s :=
    hs.invariant (fun op u v hu h => (hstep op u v hu h).1) (requested_created h₀ hd)
  exact ht.related (fun u _ => KeepsPaid.refl u) (fun _ _ _ => KeepsPaid.trans) hstep hreach

theorem keepsPaid_sample : KeepsPaid paidState collectedState :=
  run_keepsPaid distinctLegDigests create_plan
    (run_paid.mono fun _ _ _ h => ⟨h.1, h.2.1⟩)
    (run_collected.mono fun _ _ _ h => ⟨h.1, h.2.1⟩)

theorem run_rewrites_receipt : createSettledReconciliation platform plan =
      .ok createdState ∧
    (∃ ops, Run (SettledStep platform fun _ _ => True) createdState ops
      collectedState) ∧
    Run (SettledStep platform fun _ _ => True) collectedState
      [.status (paidWith 2 1800000100000)] overwrittenState ∧
    ¬ KeepsPaid collectedState overwrittenState := by
  refine ⟨create_plan, ⟨_, (run_paid.append run_collected).mono
    fun _ _ _ h => ⟨h.1, trivial⟩⟩, .cons ⟨step_overwritten, trivial⟩ (.nil _), fun h => ?_⟩
  obtain ⟨leg, hleg, hsame⟩ := h 0 (merchantPaid 1 1800000070000) rfl rfl
  cases hleg
  exact absurd hsame.finalFeeSats (by decide)

/-- Every state reloads as long as the plan settles and no step stores what the next load rewrites.
-/
theorem run_restorable (hP : LawfulEvidence P) {p : SettledPlan} {s₀ : SettledReconciliation}
    {ops : List SettledOp} (hd : DistinctLegDigests P p) (hp : p.Settles P)
    (h₀ : createSettledReconciliation P p = .ok s₀)
    (h : Run (SettledStep P SettledOp.KeepsRestorable) s₀ ops s) : Restorable P s :=
  restore_ok_iff.2 (h.invariant (fun _ _ _ hs hstep => hs.step hstep)
    (reloads_created hP h₀ hd (stable_of_created h₀ hp))).restores

theorem restorable_sample : Restorable platform collectedState :=
  run_restorable lawfulEvidence distinctLegDigests settles create_plan
    ((run_paid.append run_collected).mono fun _ _ _ h => ⟨h.1, h.2.2⟩)

lemma Sample.restore_overwritten : restoreSettledReconciliation platform
    overwrittenState = .error (.error "Checkout Spark cumulative debit exceeds its credit.") := by
  decide +kernel

theorem run_strands : createSettledReconciliation platform plan =
      .ok createdState ∧
    (∃ ops, Run (SettledStep platform fun _ _ => True) createdState ops
      overwrittenState) ∧
    ¬ Restorable platform overwrittenState := by
  refine ⟨create_plan, ⟨_, run_overwritten⟩, fun h => ?_⟩
  cases restore_overwritten.symm.trans h

end

end Conduit.CheckoutSpark
