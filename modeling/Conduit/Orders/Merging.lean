import Conduit.Orders.Recovery

namespace Conduit.Orders

open Js FencedOrderLifecyclePatch Option

structure OrderAction where
  transaction : OrderTransaction
  now : Int
  attempt : Option StoredPaymentAttempt

def OrderAction.next (P : OrderPlatform) (action : OrderAction) (lifecycle : OrderLifecycle) :
    OrderLifecycle :=
  action.transaction.next P action.now action.attempt lifecycle

def Provable (lifecycle : OrderLifecycle) (attempt : Option StoredPaymentAttempt) : Prop :=
  Present lifecycle.invoice ∧
    (lifecycle.HasEvidence ∨ (∃ a, conclusiveAttempt attempt lifecycle = some a) ∨
      lifecycle.zapSigner = none)

variable (action : OrderAction)

variable (lifecycle : OrderLifecycle)

def OrderAction.KeepsPaid : Prop :=
  match action.transaction with
  | .reconcileLegacyInterruptedOrderPayment =>
    LegacyInterrupted lifecycle action.now → Provable lifecycle action.attempt
  | _ => True

def OrderAction.GivesClaims : Prop :=
  match action.transaction with
  | .patchClaimedOrderLifecyclePayment _ patch =>
    ∀ claimId, patch.proofDeliveryClaimId = some (some claimId) →
      patch.proofDeliveryStatus.getD lifecycle.proofDeliveryStatus = .pending
  | _ => True

def OrderAction.KeepsSent : Prop :=
  match action.transaction with
  | .reconcileInterruptedOrderPayment paymentClaimId =>
    lifecycle.paymentClaimId = some paymentClaimId →
      lifecycle.paymentClaimLeaseExpiresAt.getD action.now ≤ action.now →
      ∀ attempt, conclusiveAttempt action.attempt lifecycle = some attempt →
        attempt.proofDeliveryStatus = .sent
  | _ => True

structure Sound (keepsPaid givesClaims keepsSent : Prop) (lifecycle : OrderLifecycle)
    (patch : OrderLifecyclePatch) : Prop where
  paid : keepsPaid → lifecycle.paymentStatus = .paid →
    patch.paymentStatus.getD lifecycle.paymentStatus = .paid
  claim : givesClaims → ∀ claimId, patch.proofDeliveryClaimId = some (some claimId) →
    patch.proofDeliveryStatus.getD lifecycle.proofDeliveryStatus = .pending
  sent : keepsSent → lifecycle.paymentStatus = .paid → lifecycle.proofDeliveryStatus = .sent →
    patch.proofDeliveryStatus.getD lifecycle.proofDeliveryStatus = .sent

inductive Merges (keepsPaid givesClaims keepsSent : Prop) (lifecycle : OrderLifecycle) :
    OrderLifecycle → Prop
  | same {next : OrderLifecycle} (paymentStatus : next.paymentStatus = lifecycle.paymentStatus)
    (proofDeliveryStatus : next.proofDeliveryStatus = lifecycle.proofDeliveryStatus)
    (proofDeliveryClaimId : next.proofDeliveryClaimId = lifecycle.proofDeliveryClaimId) :
    Merges keepsPaid givesClaims keepsSent lifecycle next
  | merge {patch : OrderLifecyclePatch} {now : Int}
    (sound : Sound keepsPaid givesClaims keepsSent lifecycle patch) :
    Merges keepsPaid givesClaims keepsSent lifecycle (mergeOrderLifecyclePatch lifecycle patch now)

variable {A B C : Prop} {lifecycle : OrderLifecycle}

lemma Merges.refl (lifecycle : OrderLifecycle) : Merges A B C lifecycle lifecycle :=
  .same rfl rfl rfl

lemma Sound.of_not_paid {patch : OrderLifecyclePatch} (h : lifecycle.paymentStatus ≠ .paid)
    (hc : ∀ claimId, patch.proofDeliveryClaimId ≠ some (some claimId)) :
    Sound A B C lifecycle patch where
  paid := fun _ hp => absurd hp h
  claim := fun _ claimId hg => absurd hg (hc claimId)
  sent := fun _ hp => absurd hp h

lemma canStart_not_paid (h : canStartOrReplaceOrderPayment lifecycle = true) :
    lifecycle.paymentStatus ≠ .paid := by
  intro hp
  simp [canStartOrReplaceOrderPayment, hp] at h

variable {P : OrderPlatform} {now : Int} {attempt : Option StoredPaymentAttempt}
  {input : OrderPaymentClaimInput} {shouldContinue : Bool} {proofDeliveryClaimId : Text}
  {fresh : Text} {paymentClaimId : Text} {merchantInvoice : ProjectedMerchantInvoiceClaim}

lemma admission_not_paid (h : getOrderLifecyclePaymentAdmission P lifecycle input = none) :
    lifecycle.paymentStatus ≠ .paid := by
  unfold getOrderLifecyclePaymentAdmission at h
  split_ifs at h with h₁ h₂ h₃
  exact canStart_not_paid h₃

lemma putClaim_merges {attemptId : Option Text}
    {overrides : OrderLifecyclePatch → OrderLifecyclePatch} (h : lifecycle.paymentStatus ≠ .paid)
    (hc : ∀ claimId,
      (overrides (claimPatch input attemptId now)).proofDeliveryClaimId ≠ some (some claimId)) :
    Merges A B C lifecycle
      ((putClaim shouldContinue lifecycle
        (buildClaimedOrderLifecycle lifecycle input attemptId now overrides)).row lifecycle) := by
  unfold putClaim
  split_ifs
  · exact .merge (.of_not_paid h hc)
  · exact .refl lifecycle

lemma claimOrderLifecyclePayment_merges : Merges A B C lifecycle
      ((claimOrderLifecyclePayment P input shouldContinue now fresh lifecycle).row lifecycle) := by
  unfold claimOrderLifecyclePayment
  split_ifs
  · exact .refl lifecycle
  · cases ha : getOrderLifecyclePaymentAdmission P lifecycle input with
    | some refusal => exact .refl lifecycle
    | none => exact putClaim_merges (admission_not_paid ha) (fun _ => nofun)

variable {expectedInvoice : Text}

lemma retryEligible_not_paid
    (h : isExpiredManualInvoiceRetryEligible P lifecycle expectedInvoice now = true) :
    lifecycle.paymentStatus ≠ .paid := by
  intro hp
  unfold isExpiredManualInvoiceRetryEligible at h
  dsimp only at h
  split at h
  · simp [hp] at h
  · cases h

lemma claimExpiredOrderInvoiceForRetry_merges {expectedUpdatedAt : Option Int} :
    Merges A B C lifecycle ((claimExpiredOrderInvoiceForRetry P input expectedInvoice
      expectedUpdatedAt shouldContinue now fresh attempt lifecycle).row lifecycle) := by
  unfold claimExpiredOrderInvoiceForRetry
  dsimp only
  have hp : ¬ (isExpiredManualInvoiceRetryEligible P lifecycle
        (normalizeLightningInvoice expectedInvoice) now = false ∨ input.paymentTarget ≠ .manual) →
      lifecycle.paymentStatus ≠ .paid := fun h =>
    retryEligible_not_paid (Bool.eq_true_of_not_eq_false (not_or.1 h).1)
  split_ifs with h₁ h₂ h₃ h₄ h₅ h₆
  · exact .refl lifecycle
  · exact .refl lifecycle
  · exact .refl lifecycle
  · exact .refl lifecycle
  · exact .refl lifecycle
  · exact putClaim_merges (hp h₃) (fun _ => nofun)
  · exact putClaim_merges (hp h₃) (fun _ => nofun)

lemma claimOrderLifecycleUpdatedAddressPayment_merges {expectedUpdatedAt : Int} {address : Text} :
    Merges A B C lifecycle ((claimOrderLifecycleUpdatedAddressPayment P input expectedUpdatedAt
      address shouldContinue now fresh attempt lifecycle).row lifecycle) := by
  unfold claimOrderLifecycleUpdatedAddressPayment
  dsimp only
  split_ifs with h₁ h₂ h₃ h₄ h₅
  · exact .refl lifecycle
  · exact .refl lifecycle
  · exact .refl lifecycle
  · exact .refl lifecycle
  · exact .refl lifecycle
  · refine putClaim_merges ?_ (fun _ => nofun)
    intro hp
    apply h₂
    simp [isAddressReplaceable, hp]

lemma claimOrderLifecyclePrivateFallbackPayment_merges :
    Merges A B C lifecycle ((claimOrderLifecyclePrivateFallbackPayment P input shouldContinue now
      fresh lifecycle).row lifecycle) := by
  unfold claimOrderLifecyclePrivateFallbackPayment
  split_ifs with h₁ h₂
  · exact .refl lifecycle
  · exact .refl lifecycle
  · refine putClaim_merges ?_ (fun _ => nofun)
    intro hp
    apply h₂
    simp [hp]

lemma replaceOrderPaymentTarget_merges {paymentTarget : OrderPaymentTarget} : Merges A B C lifecycle
      ((replaceOrderPaymentTarget paymentTarget shouldContinue now lifecycle).row lifecycle) := by
  unfold replaceOrderPaymentTarget
  split_ifs
  · exact .refl lifecycle
  · exact .refl lifecycle
  · exact .same rfl rfl rfl
  · exact .same rfl rfl rfl

lemma recordOrderPaymentPreparationFailure_merges {lastError : Text} : Merges A B C lifecycle
      ((recordOrderPaymentPreparationFailure P input lastError now lifecycle).row lifecycle) := by
  unfold recordOrderPaymentPreparationFailure
  cases ha : getOrderLifecyclePaymentAdmission P lifecycle input with
  | some refusal => exact .refl lifecycle
  | none => exact .merge (.of_not_paid (admission_not_paid ha) (fun _ => nofun))

section

variable (patch : FencedOrderLifecyclePatch)
include patch

lemma FencedOrderLifecyclePatch.renewing_paymentStatus (now : Int) :
    (patch.renewing now).paymentStatus = patch.paymentStatus := by
  unfold renewing
  split_ifs <;> rfl

lemma FencedOrderLifecyclePatch.renewing_proofDeliveryStatus (now : Int) :
    (patch.renewing now).proofDeliveryStatus = patch.proofDeliveryStatus := by
  unfold renewing
  split_ifs <;> rfl

lemma FencedOrderLifecyclePatch.renewing_proofDeliveryClaimId (now : Int) :
    (patch.renewing now).proofDeliveryClaimId = patch.proofDeliveryClaimId := by
  unfold renewing
  split_ifs <;> rfl

end

lemma getD_of_not_downgrade {α : Type} {given : Option α} {stored a : α} (hs : stored = a)
    (h : ¬ (given ≠ none ∧ given ≠ some a)) : given.getD stored = a := by
  cases given with
  | none => exact hs
  | some b =>
    by_contra hne
    exact h ⟨nofun, fun hb => hne (some.inj hb)⟩

lemma patchClaimedOrderLifecyclePayment_merges {patch : FencedOrderLifecyclePatch} : Merges A
      (∀ claimId, patch.proofDeliveryClaimId = some (some claimId) →
        patch.proofDeliveryStatus.getD lifecycle.proofDeliveryStatus = .pending)
      C lifecycle
      ((patchClaimedOrderLifecyclePayment paymentClaimId patch now lifecycle).row lifecycle) := by
  unfold patchClaimedOrderLifecyclePayment
  split_ifs with h
  · exact .refl lifecycle
  · obtain ⟨-, hk⟩ := not_or.1 h
    obtain ⟨hp, hse⟩ := not_or.1 hk
    refine .merge ⟨?_, ?_, ?_⟩
    · intro _ hs
      rw [patch.renewing_paymentStatus]
      exact getD_of_not_downgrade hs fun hg => hp ⟨hs, hg⟩
    · intro hgi claimId hg
      rw [patch.renewing_proofDeliveryClaimId] at hg
      rw [patch.renewing_proofDeliveryStatus]
      exact hgi claimId hg
    · intro _ _ hs
      rw [patch.renewing_proofDeliveryStatus]
      exact getD_of_not_downgrade hs fun hg => hse ⟨hs, hg⟩

lemma fenceClaimedOrderLifecyclePaymentAuthority_merges : Merges A B C lifecycle
      ((fenceClaimedOrderLifecyclePaymentAuthority paymentClaimId now lifecycle).row
        lifecycle) := by
  unfold fenceClaimedOrderLifecyclePaymentAuthority
  split_ifs
  · exact .refl lifecycle
  · exact .merge ⟨fun _ hp => hp, fun _ _ => nofun, fun _ _ hs => hs⟩

lemma recordObservedOrderPaymentReceipt_merges {input : ObservedReceiptInput} :
    Merges A B C lifecycle
      ((recordObservedOrderPaymentReceipt input now lifecycle).row lifecycle) := by
  unfold recordObservedOrderPaymentReceipt
  by_cases h : input.zapRequestId = [] ∨ lifecycle.zapRequestId ≠ some input.zapRequestId
  · rw [if_pos h]
    exact .refl lifecycle
  · rw [if_neg h]
    refine .merge ⟨fun _ _ => rfl, ?_, ?_⟩
    · intro _ claimId hg
      dsimp only at hg ⊢
      split_ifs at hg with hc
      have hf := of_decide_eq_true hc
      have hn : ¬ (lifecycle.proofDeliveryStatus = .sent ∨ input.proofDeliveryStatus = .sent) := by
        rw [hf.2.1]
        simpa using hf.1
      rw [if_neg hn, if_pos (Or.inr hc)]
      rfl
    · intro _ _ hs
      rw [if_pos (Or.inl hs)]
      rfl

lemma recordOrderPaymentReceiptTimeout_merges {zapRequestId : Text} : Merges A B C lifecycle
      ((recordOrderPaymentReceiptTimeout zapRequestId now lifecycle).row lifecycle) := by
  unfold recordOrderPaymentReceiptTimeout
  split_ifs with h₁ h₂ hp
  · exact .refl lifecycle
  · exact .refl lifecycle
  · exact .merge ⟨fun _ hp => hp, fun _ _ => nofun, fun _ _ hs => hs⟩
  · exact .merge (.of_not_paid hp (fun _ => nofun))

lemma recordOrderPaymentProofDelivery_merges {status : OrderProofDeliveryStatus}
    {patch : ProofDeliveryPatch} {proofDeliveryClaimId : Option Text} :
    Merges A B C lifecycle ((recordOrderPaymentProofDelivery status patch proofDeliveryClaimId now
      lifecycle).row lifecycle) := by
  unfold recordOrderPaymentProofDelivery
  split_ifs with h₁ h₂
  · exact .refl lifecycle
  · exact .refl lifecycle
  · refine .merge ⟨fun _ hp => hp, fun _ _ => nofun, ?_⟩
    intro _ _ hs
    by_contra hne
    exact h₁ ⟨hs, hne⟩

lemma claimOrderPaymentProofDelivery_merges : Merges A B C lifecycle
      ((claimOrderPaymentProofDelivery proofDeliveryClaimId now lifecycle).row lifecycle) := by
  unfold claimOrderPaymentProofDelivery
  dsimp only
  split
  · exact .refl lifecycle
  · rename_i h
    refine .merge ⟨fun _ hp => hp, fun _ _ _ => rfl, ?_⟩
    intro _ _ hs
    exact absurd (.inr (.inl hs)) h

lemma renewOrderPaymentProofDeliveryClaim_merges : Merges A B C lifecycle
      ((renewOrderPaymentProofDeliveryClaim proofDeliveryClaimId now lifecycle).row
        lifecycle) := by
  unfold renewOrderPaymentProofDeliveryClaim
  dsimp only
  split_ifs
  · exact .refl lifecycle
  · exact .merge ⟨fun _ hp => hp, fun _ _ => nofun, fun _ _ hs => hs⟩

lemma admitted_not_paid {allowExpired : Bool} {admitted : AdmittedProjectedMerchantInvoice}
    (h : admitProjectedMerchantInvoice P lifecycle merchantInvoice now allowExpired =
      some admitted) : lifecycle.paymentStatus ≠ .paid := by
  intro hp
  unfold admitProjectedMerchantInvoice at h
  simp [hp] at h

lemma bindMerchantInvoiceForPayment_merges : Merges A B C lifecycle
      ((bindMerchantInvoiceForPayment P merchantInvoice now lifecycle).row lifecycle) := by
  unfold bindMerchantInvoiceForPayment
  cases ha : admitProjectedMerchantInvoice P lifecycle merchantInvoice now false with
  | none => exact .refl lifecycle
  | some admitted =>
    dsimp only
    split_ifs
    · exact .refl lifecycle
    · exact .merge (.of_not_paid (admitted_not_paid ha) (fun _ => nofun))

lemma claimExternalOrderPaymentProof_merges {options : ExternalPaymentProofOptions} :
    Merges A B C lifecycle ((claimExternalOrderPaymentProof P proofDeliveryClaimId options now
      attempt lifecycle).row lifecycle) := by
  unfold claimExternalOrderPaymentProof
  dsimp only
  split_ifs with h₁ h₂ h₃ h₄
  · exact .refl lifecycle
  · exact .refl lifecycle
  · exact .refl lifecycle
  · exact .refl lifecycle
  · refine .merge ⟨fun _ _ => rfl, fun _ _ _ => rfl, ?_⟩
    intro _ _ hs
    refine absurd (.inr (.inr (.inl ?_))) h₂
    rw [hs]
    exact nofun

lemma recordOrderPaymentWalletSuccessRecovery_merges {input : WalletSuccessRecoveryInput} :
    Merges A B C lifecycle
      ((recordOrderPaymentWalletSuccessRecovery input now lifecycle).row lifecycle) := by
  refine .merge ⟨fun _ _ => rfl, fun _ _ => nofun, ?_⟩
  intro _ _ hs
  rw [if_pos (.inl hs)]
  rfl

lemma reconcileInterruptedOrderPayment_merges : Merges A B
      (lifecycle.paymentClaimId = some paymentClaimId →
        lifecycle.paymentClaimLeaseExpiresAt.getD now ≤ now →
        ∀ a, conclusiveAttempt attempt lifecycle = some a → a.proofDeliveryStatus = .sent)
      lifecycle
      ((reconcileInterruptedOrderPayment paymentClaimId now attempt lifecycle).row
        lifecycle) := by
  unfold reconcileInterruptedOrderPayment
  split
  · exact .refl lifecycle
  rename_i h₁
  split
  · exact .refl lifecycle
  · rename_i h₂
    cases hatt : conclusiveAttempt attempt lifecycle with
    | some a =>
      refine .merge ⟨fun _ _ => rfl, fun _ _ => nofun, ?_⟩
      intro hk _ _
      have hs := hk (by_contra fun hne => h₁ (.inr hne)) (not_lt.1 h₂) a rfl
      change a.delivery = .sent
      unfold StoredPaymentAttempt.delivery
      rw [if_pos hs]
    | none =>
      by_cases h₃ : lifecycle.Conclusive
      · rw [if_pos h₃]
        refine .merge ⟨fun _ _ => rfl, fun _ _ => nofun, ?_⟩
        intro _ _ hs
        rw [if_pos hs]
        rfl
      split_ifs with h₄ h₅
      · refine .merge (.of_not_paid ?_ (fun _ => nofun))
        rcases h₄.2.1 with h | h <;> rw [h] <;> exact nofun
      · refine .merge (.of_not_paid ?_ (fun _ => nofun))
        rcases h₅.2.2 with h | h <;> rw [h] <;> exact nofun
      · exact .refl lifecycle

lemma reconcileInterruptedOrderProofDelivery_merges : Merges A B C lifecycle
      ((reconcileInterruptedOrderProofDelivery proofDeliveryClaimId now attempt lifecycle).row
        lifecycle) := by
  unfold reconcileInterruptedOrderProofDelivery
  split
  · exact .refl lifecycle
  rename_i h₁
  split
  · exact .refl lifecycle
  split
  · exact .refl lifecycle
  split
  · exact .refl lifecycle
  · refine .merge ⟨fun _ hp => hp, fun _ _ => nofun, ?_⟩
    intro _ _ hs
    refine absurd (.inr (.inl ?_)) h₁
    rw [hs]
    exact nofun

lemma legacy_pending (hl : isLegacyInterruptedOrderPayment lifecycle = true)
    (hp : lifecycle.paymentStatus = .paid) : lifecycle.proofDeliveryStatus = .pending := by
  by_contra hne
  simp [isLegacyInterruptedOrderPayment, hp, hne] at hl

lemma conclusiveAttempt_eq_some {a : StoredPaymentAttempt}
    (h : conclusiveAttempt attempt lifecycle = some a) : a.Conclusive lifecycle :=
  of_decide_eq_true (filter_eq_some_iff.1 h).2

lemma recoverLegacy_paid_iff (now : Int) (attempt : Option StoredPaymentAttempt)
    (hl : isLegacyInterruptedOrderPayment lifecycle = true) (hp : lifecycle.paymentStatus = .paid) :
    ((recoverLegacyInterruptedOrderPayment now attempt lifecycle).row lifecycle).paymentStatus =
      .paid ↔ Provable lifecycle attempt := by
  have hpe := legacy_pending hl hp
  unfold recoverLegacyInterruptedOrderPayment Provable
  cases hatt : conclusiveAttempt attempt lifecycle with
  | some a =>
    have hc : a.Conclusive lifecycle := conclusiveAttempt_eq_some hatt
    exact iff_of_true rfl ⟨hc.1.1, .inr (.inl ⟨a, rfl⟩)⟩
  | none =>
    split_ifs with h₁ h₂ h₃
    · exact iff_of_true rfl ⟨h₁.1, .inl h₁.2⟩
    · exact iff_of_true rfl ⟨h₂.2.2.1, .inr (.inr h₂.2.2.2)⟩
    · refine iff_of_false nofun ?_
      rintro ⟨hi, he | ⟨a, ha⟩ | hs⟩
      · exact h₁ ⟨hi, he⟩
      · cases ha
      · exact h₂ ⟨hp, hpe, hi, hs⟩
    · exact iff_of_false nofun fun hpr => h₃ hpr.1

lemma recoverLegacy_row (now : Int) (attempt : Option StoredPaymentAttempt)
    (lifecycle : OrderLifecycle) : ∃ patch : OrderLifecyclePatch,
    (recoverLegacyInterruptedOrderPayment now attempt lifecycle).row lifecycle =
      mergeOrderLifecyclePatch lifecycle patch now ∧ patch.proofDeliveryClaimId = none := by
  unfold recoverLegacyInterruptedOrderPayment
  split
  · exact ⟨_, rfl, rfl⟩
  · split_ifs <;> exact ⟨_, rfl, rfl⟩

lemma reconcileLegacyInterruptedOrderPayment_merges :
    Merges (LegacyInterrupted lifecycle now → Provable lifecycle attempt) B C lifecycle
      ((reconcileLegacyInterruptedOrderPayment now attempt lifecycle).row lifecycle) := by
  unfold reconcileLegacyInterruptedOrderPayment
  split_ifs with h₁ h₂ h₃ h₄
  · exact .refl lifecycle
  · exact .refl lifecycle
  · exact .refl lifecycle
  · exact .refl lifecycle
  · have hl := Bool.eq_true_of_not_eq_false h₃
    obtain ⟨patch, hr, hc⟩ := recoverLegacy_row now attempt lifecycle
    rw [hr]
    refine .merge ⟨?_, ?_, ?_⟩
    · intro hk hp
      have hpr := hk ⟨h₁, h₂, hl, not_lt.1 h₄⟩
      have hst := (recoverLegacy_paid_iff now attempt hl hp).2 hpr
      rwa [hr] at hst
    · intro _ claimId hg
      rw [hc] at hg
      cases hg
    · intro _ hp hs
      rw [legacy_pending hl hp] at hs
      cases hs

lemma OrderAction.next_merges (action : OrderAction) (lifecycle : OrderLifecycle) :
    Merges (action.KeepsPaid lifecycle) (action.GivesClaims lifecycle)
      (action.KeepsSent lifecycle) lifecycle (action.next P lifecycle) := by
  obtain ⟨transaction, now, attempt⟩ := action
  cases transaction with
  | claimOrderLifecyclePayment input shouldContinue fresh =>
    exact claimOrderLifecyclePayment_merges
  | claimExpiredOrderInvoiceForRetry input expectedInvoice expectedUpdatedAt shouldContinue
      fresh => exact claimExpiredOrderInvoiceForRetry_merges
  | claimOrderLifecycleUpdatedAddressPayment input expectedUpdatedAt address shouldContinue
      fresh => exact claimOrderLifecycleUpdatedAddressPayment_merges
  | claimOrderLifecyclePrivateFallbackPayment input shouldContinue fresh =>
    exact claimOrderLifecyclePrivateFallbackPayment_merges
  | replaceOrderPaymentTarget paymentTarget shouldContinue =>
    exact replaceOrderPaymentTarget_merges
  | recordOrderPaymentPreparationFailure input lastError =>
    exact recordOrderPaymentPreparationFailure_merges
  | patchClaimedOrderLifecyclePayment paymentClaimId patch =>
    exact patchClaimedOrderLifecyclePayment_merges
  | fenceClaimedOrderLifecyclePaymentAuthority paymentClaimId =>
    exact fenceClaimedOrderLifecyclePaymentAuthority_merges
  | recordObservedOrderPaymentReceipt input => exact recordObservedOrderPaymentReceipt_merges
  | recordOrderPaymentReceiptTimeout zapRequestId =>
    exact recordOrderPaymentReceiptTimeout_merges
  | recordOrderPaymentProofDelivery status patch proofDeliveryClaimId =>
    exact recordOrderPaymentProofDelivery_merges
  | claimOrderPaymentProofDelivery proofDeliveryClaimId =>
    exact claimOrderPaymentProofDelivery_merges
  | renewOrderPaymentProofDeliveryClaim proofDeliveryClaimId =>
    exact renewOrderPaymentProofDeliveryClaim_merges
  | bindMerchantInvoiceForPayment merchantInvoice => exact bindMerchantInvoiceForPayment_merges
  | claimExternalOrderPaymentProof proofDeliveryClaimId options =>
    exact claimExternalOrderPaymentProof_merges
  | recordOrderPaymentWalletSuccessRecovery input =>
    exact recordOrderPaymentWalletSuccessRecovery_merges
  | reconcileInterruptedOrderPayment paymentClaimId =>
    exact reconcileInterruptedOrderPayment_merges
  | reconcileInterruptedOrderProofDelivery proofDeliveryClaimId =>
    exact reconcileInterruptedOrderProofDelivery_merges
  | reconcileLegacyInterruptedOrderPayment =>
    exact reconcileLegacyInterruptedOrderPayment_merges

end Conduit.Orders
