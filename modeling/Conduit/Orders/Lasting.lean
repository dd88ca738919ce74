import Conduit.Orders.Merging
import Conduit.Runs

namespace Conduit.Orders

open Js Runs

variable {P : OrderPlatform} {A B C : Prop} {lifecycle next : OrderLifecycle}

lemma Merges.paid (h : Merges A B C lifecycle next) (hA : A)
    (hp : lifecycle.paymentStatus = .paid) : next.paymentStatus = .paid := by
  cases h with
  | same paymentStatus _ _ => exact paymentStatus.trans hp
  | merge sound => exact sound.paid hA hp

lemma Merges.sent (h : Merges A B C lifecycle next) (hC : C)
    (hp : lifecycle.paymentStatus = .paid) (hs : lifecycle.proofDeliveryStatus = .sent) :
    next.proofDeliveryStatus = .sent := by
  cases h with
  | same _ proofDeliveryStatus _ => exact proofDeliveryStatus.trans hs
  | merge sound => exact sound.sent hC hp hs

def OrderLifecycle.ClaimWhilePending (lifecycle : OrderLifecycle) : Prop :=
  lifecycle.proofDeliveryClaimId ≠ none → lifecycle.proofDeliveryStatus = .pending

lemma Merges.claimWhilePending (h : Merges A B C lifecycle next) (hB : B)
    (hc : lifecycle.ClaimWhilePending) : next.ClaimWhilePending := by
  cases h with
  | same _ proofDeliveryStatus proofDeliveryClaimId =>
    intro hn
    rw [proofDeliveryClaimId] at hn
    exact proofDeliveryStatus.trans (hc hn)
  | @merge patch now sound =>
    intro hn
    rw [merge_proofDeliveryClaimId] at hn
    split_ifs at hn with he
    · exact absurd rfl hn
    · obtain ⟨hr, hst⟩ := not_or.1 he
      -- the patch gives a claim, or leaves the one that stood
      cases hg : patch.proofDeliveryClaimId with
      | none =>
        rw [hg] at hn
        exact getD_of_not_downgrade (hc hn) hst
      | some given =>
        cases given with
        | none => exact absurd hg hr
        | some claimId => exact sound.claim hB claimId hg

structure OffersNoPayment (P : OrderPlatform) (lifecycle : OrderLifecycle) : Prop where
  start : canStartOrReplaceOrderPayment lifecycle = false
  admission : ∀ input, getOrderLifecyclePaymentAdmission P lifecycle input ≠ none
  retry : ∀ expectedInvoice now,
    isExpiredManualInvoiceRetryEligible P lifecycle expectedInvoice now = false
  address : isAddressReplaceable lifecycle = false
  fallback : lifecycle.paymentStatus ≠ .failed

lemma offersNoPayment_of_paid (hp : lifecycle.paymentStatus = .paid) :
    OffersNoPayment P lifecycle where
  start := Bool.eq_false_iff.2 fun h => canStart_not_paid h hp
  admission := fun _ h => admission_not_paid h hp
  retry := fun _ _ => Bool.eq_false_iff.2 fun h => retryEligible_not_paid h hp
  address := by simp [isAddressReplaceable, hp]
  fallback := by
    rw [hp]
    intro heq
    cases heq

/-- A transaction that recovers no unprovable order as a legacy one. -/
def PaidStep (P : OrderPlatform) (action : OrderAction) (lifecycle next : OrderLifecycle) : Prop :=
  action.KeepsPaid lifecycle ∧ next = action.next P lifecycle

variable {action : OrderAction}

lemma PaidStep.paid (h : PaidStep P action lifecycle next)
    (hp : lifecycle.paymentStatus = .paid) : next.paymentStatus = .paid := by
  obtain ⟨hk, rfl⟩ := h
  exact (action.next_merges lifecycle).paid hk hp

/-- A paid order stays paid over every run that recovers no unprovable order as a legacy one. -/
theorem run_stays_paid {actions : List OrderAction} (hpaid : lifecycle.paymentStatus = .paid)
    (hrun : Run (PaidStep P) lifecycle actions next) :
    next.paymentStatus = .paid ∧ OffersNoPayment P next := by
  have hstays := hrun.invariant (I := fun r => r.paymentStatus = .paid)
    (fun _ _ _ hI hstep => hstep.paid hI) hpaid
  exact ⟨hstays, offersNoPayment_of_paid hstays⟩

def DeliveryStep (P : OrderPlatform) (action : OrderAction) (lifecycle next : OrderLifecycle) :
    Prop :=
  action.GivesClaims lifecycle ∧
    (lifecycle.proofDeliveryStatus = .sent → action.KeepsSent lifecycle) ∧
    next = action.next P lifecycle

lemma OrderAction.keepsPaid_of_sent (action : OrderAction)
    (hp : lifecycle.paymentStatus = .paid) (hs : lifecycle.proofDeliveryStatus = .sent) :
    action.KeepsPaid lifecycle := by
  unfold OrderAction.KeepsPaid
  split
  · rintro ⟨-, -, hl, -⟩
    rw [legacy_pending hl hp] at hs
    cases hs
  · trivial

lemma DeliveryStep.sent (h : DeliveryStep P action lifecycle next)
    (hp : lifecycle.paymentStatus = .paid) (hs : lifecycle.proofDeliveryStatus = .sent) :
    next.paymentStatus = .paid ∧ next.proofDeliveryStatus = .sent := by
  obtain ⟨-, hk, rfl⟩ := h
  have hm := action.next_merges (P := P) lifecycle
  exact ⟨hm.paid (action.keepsPaid_of_sent hp hs) hp, hm.sent (hk hs) hp hs⟩

lemma DeliveryStep.claimWhilePending (h : DeliveryStep P action lifecycle next)
    (hc : lifecycle.ClaimWhilePending) : next.ClaimWhilePending := by
  obtain ⟨hg, -, rfl⟩ := h
  exact (action.next_merges lifecycle).claimWhilePending hg hc

theorem run_keeps_delivery {actions : List OrderAction}
    (hrun : Run (DeliveryStep P) lifecycle actions next) :
    (lifecycle.paymentStatus = .paid → lifecycle.proofDeliveryStatus = .sent →
        next.paymentStatus = .paid ∧ next.proofDeliveryStatus = .sent) ∧
      (lifecycle.ClaimWhilePending → next.ClaimWhilePending) := by
  constructor
  · intro hpaid hsent
    exact hrun.invariant
      (I := fun r => r.paymentStatus = .paid ∧ r.proofDeliveryStatus = .sent)
      (fun _ _ _ hI hstep => hstep.sent hI.1 hI.2) ⟨hpaid, hsent⟩
  · exact hrun.invariant (fun _ _ _ hI hstep => hstep.claimWhilePending hI)

namespace Sample

def orderId : Text := "order-7"
def buyer : Text := hexText 64 0xb0b
def merchant : Text := hexText 64 0x3e4c
def claim : Text := "claim-1"

def platform : OrderPlatform where
  digest _ := []
  readBolt11 _ := none
  parseEvidence _ text := some text
  evidenceDigestValue _ text := .str text
  normalizePublicWebSocketUrl := some
  normalizeSafeLnurlPayRequestUrl := some
  identifierMatches _ _ := false
  isValidNostrPublicKey _ := false
  encodeLnurl url := url
  readZapRequest _ := none
  bindsZapDescription _ _ := false
  isControl _ := false
  expectedLightningNetworks := [.mainnet]
  localeCompare a b := if a = b then 0 else if a < b then -1 else 1
  getEffectiveMerchantOrderStatus _ _ _ := ⟨none, none⟩
  extractOrderSummary _ _ _ := ⟨false, false⟩

def paid : OrderLifecycle where
  orderId := orderId
  buyerPubkey := buyer
  merchantPubkey := merchant
  checkoutMode := .privateCheckout
  checkoutSparkRouterBinding := none
  publicZapSigner := none
  publicZapFallback := none
  merchantLightningAddress := some "mugs@example.com".toList
  paymentTarget := some .webln
  walletPaymentAttemptId := none
  items := [⟨"30402:mug".toList, 1⟩]
  totalSats := 21
  totalMsats := 21000
  zapContent := none
  orderDeliveryStatus := .sent
  paymentClaimId := none
  paymentClaimedAt := none
  paymentClaimLeaseExpiresAt := none
  proofDeliveryClaimId := none
  proofDeliveryClaimedAt := none
  proofDeliveryClaimLeaseExpiresAt := none
  invoiceStatus := .received
  paymentStatus := .paid
  proofDeliveryStatus := .pending
  zapReceiptStatus := .notApplicable
  invoice := some "lnbc210n1".toList
  paymentHash := none
  priorExpiredManualInvoices := none
  preimage := some (hexText 64 0x9e)
  feeMsats := none
  zapRequestId := none
  zapRequestCreatedAt := none
  zapReceiptId := none
  zapReceiptRelayUrls := none
  zapLnurl := none
  zapReceiptPubkey := none
  invoiceExpiresAt := none
  zapReceiptObservationDeadline := none
  phase := .inProgress
  lastError := none
  deliveryNotice := none
  createdAt := 1000
  updatedAt := 2000
  completedAt := none

def paidWithoutInvoice : OrderLifecycle := { paid with invoice := none }

def delivered : OrderLifecycle :=
  { paid with
    paymentClaimId := some claim
    paymentClaimedAt := some 1500
    paymentClaimLeaseExpiresAt := some 16500
    proofDeliveryStatus := .sent }

def attempt : StoredPaymentAttempt where
  id := orderId
  orderId := orderId
  buyerPubkey := buyer
  merchantPubkey := merchant
  amountMsats := 21000
  currency := "SATS"
  invoice := paid.invoice
  paymentHash := none
  preimage := paid.preimage
  feeMsats := none
  zapRequestId := none
  zapReceiptId := none
  proofDeliveryStatus := .pending
  createdAt := 1800
  updatedAt := 1800

def legacyRecovery : OrderAction := ⟨.reconcileLegacyInterruptedOrderPayment, 400000, none⟩

def renewal : OrderAction := ⟨.patchClaimedOrderLifecyclePayment claim emptyPatch, 3000, none⟩

def recovery : OrderAction := ⟨.reconcileInterruptedOrderPayment claim, 20000, some attempt⟩

end Sample

theorem run_stays_paid_legacy :
    (Sample.legacyRecovery.next Sample.platform Sample.paid).paymentStatus = .paid ∧
      OffersNoPayment Sample.platform
        (Sample.legacyRecovery.next Sample.platform Sample.paid) := by
  have hkeeps : Sample.legacyRecovery.KeepsPaid Sample.paid :=
    fun _ => ⟨by decide, Or.inl (by decide)⟩
  have hstep : PaidStep Sample.platform Sample.legacyRecovery Sample.paid
      (Sample.legacyRecovery.next Sample.platform Sample.paid) := ⟨hkeeps, rfl⟩
  exact run_stays_paid rfl (.cons hstep (.nil _))

/-- A preimage without its invoice is taken for no payment, and one is offered again. -/
theorem legacy_forgets_payment :
    Sample.paidWithoutInvoice.paymentStatus = .paid ∧ Sample.paidWithoutInvoice.HasEvidence ∧
      (Sample.legacyRecovery.next Sample.platform Sample.paidWithoutInvoice).paymentStatus =
        .failed ∧
      canStartOrReplaceOrderPayment
        (Sample.legacyRecovery.next Sample.platform Sample.paidWithoutInvoice) = true :=
  ⟨rfl, by decide, by decide, by decide⟩

theorem run_keeps_delivery_renewed :
    (Sample.renewal.next Sample.platform Sample.delivered).proofDeliveryStatus = .sent := by
  have hstep : DeliveryStep Sample.platform Sample.renewal Sample.delivered
      (Sample.renewal.next Sample.platform Sample.delivered) :=
    ⟨fun _ => nofun, fun _ => trivial, rfl⟩
  exact ((run_keeps_delivery (.cons hstep (.nil _))).1 rfl rfl).2

/-- The recovery restores the delivery status of the attempt over the order's own. -/
theorem recovery_forgets_delivery :
    Sample.delivered.paymentStatus = .paid ∧ Sample.delivered.proofDeliveryStatus = .sent ∧
      (Sample.recovery.next Sample.platform Sample.delivered).proofDeliveryStatus = .retryNeeded :=
  ⟨rfl, rfl, by decide⟩

end Conduit.Orders
