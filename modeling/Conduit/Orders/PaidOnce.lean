import Conduit.Orders.Lasting
import Conduit.Orders.Payments

namespace Conduit.Orders

open Js Runs Option Sample

variable (status : OrderPaymentStatus)

def OrderPaymentStatus.Final : Prop :=
  status = .ambiguous ∨ status = .paid

/-- A status under which a written invoice is not taken for one that no wallet has seen. -/
def OrderPaymentStatus.Live : Prop :=
  status = .paying ∨ status.Final

def OrderLifecycle.Exposed (order : OrderLifecycle) : Prop :=
  Present order.invoice ∧ order.paymentStatus.Live

inductive Secured (c : Text) (order : OrderLifecycle) : Prop
  | claimed (claim : order.paymentClaimId = some c) (nonempty : c ≠ []) (exposed : order.Exposed)
  | settled (claim : order.paymentClaimId = none) (final : order.paymentStatus.Final)

def Written (c : Text) (order : OrderLifecycle) : Prop :=
  order.paymentClaimId = some c → order.Exposed

def PaidUnder (c : Text) (order : OrderLifecycle) : Prop :=
  order.paymentClaimId = some c → order.paymentStatus = .paid

/-- What a change of the order keeps for the owner of the claim `c`. -/
structure Keeps (c : Text) (order next : OrderLifecycle) : Prop where
  secured : Secured c order → Secured c next
  written : Written c order → Written c next
  paid : PaidUnder c order → PaidUnder c next

variable {c d : Text} {order next : OrderLifecycle}

lemma Keeps.refl (c : Text) (order : OrderLifecycle) : Keeps c order order :=
  ⟨id, id, id⟩

/-- A change that the owner of no claim need fear. -/
inductive Advances (order next : OrderLifecycle) : Prop
  | claimed (claim : next.paymentClaimId = order.paymentClaimId)
    (invoice : Present order.invoice → Present next.invoice)
    (live : order.paymentStatus.Live → next.paymentStatus.Live)
    (final : order.paymentStatus.Final → next.paymentStatus.Final)
    (paid : order.paymentStatus = .paid → next.paymentStatus = .paid)
  | released (claim : next.paymentClaimId = none)
    (final : order.paymentStatus.Final ∨ order.Exposed → next.paymentStatus.Final)

lemma Advances.refl (order : OrderLifecycle) : Advances order order :=
  .claimed rfl id id id id

lemma Advances.same (claim : next.paymentClaimId = order.paymentClaimId)
    (inv : next.invoice = order.invoice)
    (status : next.paymentStatus = order.paymentStatus) : Advances order next :=
  .claimed claim (by rw [inv]; exact id) (by rw [status]; exact id) (by rw [status]; exact id)
    (by rw [status]; exact id)

lemma Advances.keeps (h : Advances order next) (c : Text) : Keeps c order next := by
  cases h with
  | claimed claim invoice live final paid =>
    have he : order.Exposed → next.Exposed := fun h => ⟨invoice h.1, live h.2⟩
    refine ⟨?_, ?_, ?_⟩
    · intro hs
      cases hs with
      | claimed hc hn h => exact .claimed (claim.trans hc) hn (he h)
      | settled hc h => exact .settled (claim.trans hc) (final h)
    · intro hw hc
      exact he (hw (claim.symm.trans hc))
    · intro hp hc
      exact paid (hp (claim.symm.trans hc))
  | released claim final =>
    refine ⟨?_, ?_, ?_⟩
    · intro hs
      refine .settled claim (final ?_)
      cases hs with
      | claimed _ _ h => exact .inr h
      | settled _ h => exact .inl h
    · intro _ hc
      rw [claim] at hc
      cases hc
    · intro _ hc
      rw [claim] at hc
      cases hc

lemma Keeps.of_other (hne : d ≠ c) (hs : ¬ Secured d order)
    (hc : next.paymentClaimId = some c ∨ next.paymentClaimId = none) : Keeps d order next := by
  have ho : next.paymentClaimId ≠ some d := by
    intro h
    rcases hc with hc | hc
    · rw [hc, some_inj] at h
      exact hne h.symm
    · rw [hc] at h
      cases h
  exact ⟨fun h => absurd h hs, fun _ h => absurd h ho, fun _ h => absurd h ho⟩

lemma OwnsClaim.not_secured (h : OwnsClaim order c) (hne : d ≠ c) : ¬ Secured d order := by
  intro hs
  cases hs with
  | claimed hc =>
    rw [h.2.1, some_inj] at hc
    exact hne hc.symm
  | settled hc =>
    rw [h.2.1] at hc
    cases hc

variable {P : OrderPlatform} {now : Int}

lemma Secured.status_ne (h : Secured c order) (hclm : ¬ Present order.paymentClaimId) :
    order.paymentStatus.Final := by
  cases h with
  | claimed hc hn =>
    refine absurd ?_ hclm
    rw [hc]
    exact ⟨nofun, fun h => hn (some_inj.1 h)⟩
  | settled _ hf => exact hf

lemma OrderPaymentStatus.Final.ne_failed {status : OrderPaymentStatus} (h : status.Final) :
    status ≠ .failed ∧ status ≠ .notStarted := by
  rcases h with rfl | rfl <;> exact ⟨nofun, nofun⟩

variable {att : Option StoredPaymentAttempt} {patch : FencedOrderLifecyclePatch}
  {input : OrderPaymentClaimInput} {claimId : Text}

lemma admission_not_secured (h : getOrderLifecyclePaymentAdmission P order input = none) :
    ¬ Secured c order := by
  intro hs
  unfold getOrderLifecyclePaymentAdmission at h
  split_ifs at h with hc hmat hsta
  obtain ⟨hf, hn⟩ := (hs.status_ne hc).ne_failed
  simp [canStartOrReplaceOrderPayment, hf, hn] at hsta

variable {preclaim : OrderLifecycle} {shouldContinue received : Bool} {run : PaymentRun}
  {stage : Stage}

lemma putClaim_claimed {life claimed row : OrderLifecycle}
    (h : putClaim shouldContinue life claimed = .put (.claimed preclaim) row) : row = claimed := by
  unfold putClaim at h
  split_ifs at h
  cases h
  rfl

lemma ClaimKind.reply_claimed {kind : ClaimKind} {fresh : Text}
    (h : kind.reply P input shouldContinue now fresh att order = .put (.claimed preclaim) next) :
    (∀ c, ¬ Secured c order) ∧ next.paymentClaimId = some input.paymentClaimId := by
  cases kind with
  | runOrderPayment =>
    simp only [ClaimKind.reply, claimOrderLifecyclePayment] at h
    split_ifs at h
    cases ha : getOrderLifecyclePaymentAdmission P order input with
    | some refusal => rw [ha] at h; cases h
    | none =>
      rw [ha] at h
      rw [putClaim_claimed h]
      exact ⟨fun c => admission_not_secured ha, rfl⟩
  | runOrderPaymentWithUpdatedAddress expectedUpdatedAt newAddress =>
    simp only [ClaimKind.reply, claimOrderLifecycleUpdatedAddressPayment] at h
    split_ifs at h with _ hr
    rw [putClaim_claimed h]
    refine ⟨?_, rfl⟩
    intro c hs
    apply hr
    unfold isAddressReplaceable
    by_cases hc : Present order.paymentClaimId
    · simp [hc]
    · simp [(hs.status_ne hc).ne_failed.1]
  | runOrderPrivateFallback =>
    simp only [ClaimKind.reply, claimOrderLifecyclePrivateFallbackPayment] at h
    split_ifs at h with _ hi
    rw [putClaim_claimed h]
    refine ⟨?_, rfl⟩
    intro c hs
    simp only [not_or, not_not] at hi
    exact (hs.status_ne hi.2.1).ne_failed.1 hi.2.2.2.2

lemma recordOrderPaymentPreparationFailure_keeps {lastError : Text} (c : Text) : Keeps c order
      ((recordOrderPaymentPreparationFailure P input lastError now order).row order) := by
  unfold recordOrderPaymentPreparationFailure
  cases ha : getOrderLifecyclePaymentAdmission P order input with
  | some refusal => exact .refl c order
  | none =>
    have hs : ¬ Secured c order := admission_not_secured ha
    exact ⟨fun h => absurd h hs, fun _ => nofun, fun _ => nofun⟩

lemma recordObservedOrderPaymentReceipt_advances {input : ObservedReceiptInput} :
    Advances order ((recordObservedOrderPaymentReceipt input now order).row order) := by
  unfold recordObservedOrderPaymentReceipt
  split
  · exact .refl order
  · exact .released rfl fun _ => .inr rfl

lemma recordOrderPaymentReceiptTimeout_advances {zapRequestId : Text} :
    Advances order ((recordOrderPaymentReceiptTimeout zapRequestId now order).row order) := by
  unfold recordOrderPaymentReceiptTimeout
  split_ifs with _ _ hp
  · exact .refl order
  · exact .refl order
  · exact .same rfl rfl rfl
  · exact .claimed rfl id (fun _ => .inr (.inl rfl)) (fun _ => .inl rfl)
      fun h => absurd h hp

lemma recordOrderPaymentProofDelivery_advances {status : OrderProofDeliveryStatus}
    {patch : ProofDeliveryPatch} {claimId : Option Text} : Advances order
      ((recordOrderPaymentProofDelivery status patch claimId now order).row
        order) := by
  unfold recordOrderPaymentProofDelivery
  split_ifs
  · exact .refl order
  · exact .refl order
  · exact .same rfl rfl rfl

lemma claimOrderPaymentProofDelivery_advances :
    Advances order ((claimOrderPaymentProofDelivery claimId now order).row order) := by
  unfold claimOrderPaymentProofDelivery
  dsimp only
  split
  · exact .refl order
  · exact .same rfl rfl rfl

lemma renewOrderPaymentProofDeliveryClaim_advances : Advances order
      ((renewOrderPaymentProofDeliveryClaim claimId now order).row order) := by
  unfold renewOrderPaymentProofDeliveryClaim
  dsimp only
  split
  · exact .refl order
  · exact .same rfl rfl rfl

lemma reconcileInterruptedOrderProofDelivery_advances : Advances order
      ((reconcileInterruptedOrderProofDelivery claimId now att order).row
        order) := by
  unfold reconcileInterruptedOrderProofDelivery
  split
  · exact .refl order
  rename_i h
  have hp : order.paymentStatus = .paid := by_contra fun hne => h (.inl hne)
  split
  · exact .refl order
  split
  · exact .refl order
  split
  · exact .refl order
  · exact .released rfl fun _ => .inr hp

lemma reconcileInterruptedOrderPayment_advances {paymentClaimId : Text} : Advances order
      ((reconcileInterruptedOrderPayment paymentClaimId now att order).row order) := by
  unfold reconcileInterruptedOrderPayment
  split
  · exact .refl order
  split
  · exact .refl order
  cases conclusiveAttempt att order with
  | some a => exact .released rfl fun _ => .inr rfl
  | none =>
    by_cases hc : order.Conclusive
    · rw [if_pos hc]
      exact .released rfl fun _ => .inr rfl
    split_ifs with hb hafter
    · refine .released rfl fun h => ?_
      rcases h with hf | he
      · rcases hb.2.1 with hst | hst <;> rw [hst] at hf <;>
          rcases hf with h | h <;> cases h
      · exact absurd he.1 hb.2.2.1
    · exact .released rfl fun _ => .inl rfl
    · exact .refl order

lemma Observation.next_advances (observation : Observation) :
    Advances order (observation.next now att order) := by
  cases observation with
  | reconcileInterruptedOrderPayment paymentClaimId =>
    exact reconcileInterruptedOrderPayment_advances
  | recordObservedOrderPaymentReceipt input => exact recordObservedOrderPaymentReceipt_advances
  | recordOrderPaymentReceiptTimeout zapRequestId =>
    exact recordOrderPaymentReceiptTimeout_advances
  | recordOrderPaymentProofDelivery status patch claimId =>
    exact recordOrderPaymentProofDelivery_advances
  | claimOrderPaymentProofDelivery claimId =>
    exact claimOrderPaymentProofDelivery_advances
  | renewOrderPaymentProofDeliveryClaim claimId =>
    exact renewOrderPaymentProofDeliveryClaim_advances
  | reconcileInterruptedOrderProofDelivery claimId =>
    exact reconcileInterruptedOrderProofDelivery_advances

lemma FencedOrderLifecyclePatch.renewing_paymentClaimId (patch : FencedOrderLifecyclePatch) :
    (patch.renewing now).paymentClaimId = patch.paymentClaimId := by
  unfold FencedOrderLifecyclePatch.renewing
  split_ifs <;> rfl

lemma FencedOrderLifecyclePatch.renewing_invoice (patch : FencedOrderLifecyclePatch) :
    (patch.renewing now).invoice = patch.invoice := by
  unfold FencedOrderLifecyclePatch.renewing
  split_ifs <;> rfl

structure WrittenUnder (c : Text) (patch : FencedOrderLifecyclePatch) (order next : OrderLifecycle) :
    Prop where
  owns : OwnsClaim order c
  claim : next.paymentClaimId = patch.paymentClaimId.getD order.paymentClaimId
  invoice : next.invoice = patch.invoice.getD order.invoice
  status : next.paymentStatus = patch.paymentStatus.getD order.paymentStatus

inductive PatchedUnder (c : Text) (patch : FencedOrderLifecyclePatch) (order : OrderLifecycle) :
    OrderLifecycle → Prop
  | refused : PatchedUnder c patch order order
  | written {next : OrderLifecycle} (h : WrittenUnder c patch order next) :
    PatchedUnder c patch order next

lemma merge_writtenUnder (h : OwnsClaim order c) :
    WrittenUnder c patch order (mergeOrderLifecyclePatch order (patch.renewing now) now) where
  owns := h
  claim := congrArg (·.getD order.paymentClaimId) patch.renewing_paymentClaimId
  invoice := congrArg (·.getD order.invoice) patch.renewing_invoice
  status := congrArg (·.getD order.paymentStatus) (patch.renewing_paymentStatus now)

lemma patched_patchedUnder (c : Text) (patch : FencedOrderLifecyclePatch) (now : Int)
    (order : OrderLifecycle) : PatchedUnder c patch order (patched c patch now order) := by
  unfold patched patchClaimedOrderLifecyclePayment
  split_ifs with hr
  · exact .refused
  · exact .written (merge_writtenUnder (not_not.1 (not_or.1 hr).1))

lemma writtenUnder_of_put
    (h : patchClaimedOrderLifecyclePayment c patch now order = .put .patched next) :
    WrittenUnder c patch order next := by
  unfold patchClaimedOrderLifecyclePayment at h
  split_ifs at h with hr
  cases h
  exact merge_writtenUnder (not_not.1 (not_or.1 hr).1)

lemma PatchedUnder.keeps_other (hne : d ≠ c) (h : PatchedUnder c patch order next) :
    Keeps d order next := by
  cases h with
  | refused => exact .refl d order
  | written h =>
    refine .of_other hne (h.owns.not_secured hne) ?_
    have hc := h.claim
    rcases patch.claim with hp | hp
    · rw [hp] at hc
      exact .inl (hc.trans h.owns.2.1)
    · rw [hp] at hc
      exact .inr hc

lemma PatchedUnder.advances_same (h : PatchedUnder c patch order next)
    (hc : patch.paymentClaimId = none) (hi : patch.invoice = none)
    (hst : patch.paymentStatus = none) : Advances order next := by
  cases h with
  | refused => exact .refl order
  | written h =>
    refine .same (h.claim.trans ?_) (h.invoice.trans ?_) (h.status.trans ?_)
    · rw [hc, getD_none]
    · rw [hi, getD_none]
    · rw [hst, getD_none]

lemma errorPatch_advances {message : Text}
    (h : PatchedUnder c (errorPatch .ambiguous received message) order next) :
    Advances order next := by
  cases h with
  | refused => exact .refl order
  | written h => exact .released h.claim fun _ => .inl h.status

lemma present_some {value : Text} (h : value ≠ []) : Present (some value) :=
  ⟨nofun, fun heq => h (some_inj.1 heq)⟩

lemma paidPatch_advances {req : ValidatedInvoice} {success : WalletSuccess}
    {claimedAt : Int} (hi : req.invoice ≠ [])
    (h : WrittenUnder c (paidPatch req success c claimedAt) order next) : Advances order next := by
  have hp : next.paymentStatus = .paid := h.status
  refine .claimed h.claim ?_ (fun _ => .inr (.inr hp)) (fun _ => .inr hp)
    fun _ => hp
  intro _
  rw [h.invoice]
  exact present_some hi

lemma deliveredPatch_advances {deliv : OrderProofDeliveryStatus} {notice : Given Text}
    (hp : PaidUnder c order) (h : PatchedUnder c (deliveredPatch deliv notice) order next) :
    Advances order next := by
  cases h with
  | refused => exact .refl order
  | written h =>
    exact .released h.claim fun _ => .inr (h.status.trans (hp h.owns.2.1))

lemma recordOrderPaymentWalletSuccessRecovery_advances {input : WalletSuccessRecoveryInput} :
    Advances order
      ((recordOrderPaymentWalletSuccessRecovery input now order).row order) :=
  .released rfl fun _ => .inr rfl

lemma fence_advances :
    Advances order ((fenceClaimedOrderLifecyclePaymentAuthority c now order).row order) := by
  unfold fenceClaimedOrderLifecyclePaymentAuthority
  split_ifs
  · exact .refl order
  · exact .same rfl rfl rfl

lemma fence_put (h : fenceClaimedOrderLifecyclePaymentAuthority c now order =
    .put .fenced next) : OwnsClaim order c ∧ Advances order next := by
  have ha : Advances order next := by
    have hr : Advances order
        ((fenceClaimedOrderLifecyclePaymentAuthority c now order).row order) := fence_advances
    rwa [h] at hr
  unfold fenceClaimedOrderLifecyclePaymentAuthority at h
  split_ifs at h with href
  exact ⟨not_not.1 (not_or.1 href).1, ha⟩

lemma invoice_ne_nil {inv : Text} {totalMsats nowSeconds : Int} {allowExpired : Bool}
    (h : validateLightningInvoiceForPayment P inv totalMsats nowSeconds allowExpired ≠ none) :
    inv ≠ [] := by
  rintro rfl
  apply h
  unfold validateLightningInvoiceForPayment
  rw [if_neg]
  rintro ⟨-, hm⟩
  have hp : parseBolt11Invoice P.toPlatform [] = none := rfl
  simp [decodeLightningInvoiceMsats, hp] at hm

def PaymentRun.Unasked (run : PaymentRun) : Prop :=
  run.asked = false ∧ run.failureWritten = false

def PaymentRun.Sent (run : PaymentRun) : Prop :=
  run.asked = true ∧ run.failureWritten = false

/-- What the stage says of the run and of the order that `c` claims. -/
def Stage.Ok (c : Text) (order : OrderLifecycle) (run : PaymentRun) : Stage → Prop
  | .idle => run.Unasked
  | .preparing _ => run.Unasked
  | .paying _ request => run.Unasked ∧ request.invoice ≠ [] ∧ Written c order
  | .admitted _ request => run.Unasked ∧ request.invoice ≠ []
  | .asked request => run.Sent ∧ request.invoice ≠ []
  | .answered request outcome =>
    request.invoice ≠ [] ∧ (∀ success, outcome = .paid success → run.Sent) ∧
      ∀ reason, outcome = .manualRequired reason → run.Unasked
  | .delivering _ _ => run.Sent ∧ PaidUnder c order
  | .refused _ _ => run.Unasked
  | .done => True

lemma Stage.Ok.keeps (h : stage.Ok c order run) (hk : Keeps c order next) :
    stage.Ok c next run := by
  cases stage with
  | paying preclaim request => exact ⟨h.1, h.2.1, hk.written h.2.2⟩
  | delivering request success => exact ⟨h.1, hk.paid h.2⟩
  | _ => exact h

lemma Stage.Ok.unasked (h : stage.Ok c order run) (hs : stage.Unasked preclaim received) :
    run.Unasked := by
  cases stage with
  | preparing p => exact h
  | paying p request => exact h.1
  | admitted p request => exact h.1
  | refused p received => exact h
  | _ => exact hs.elim

/-- The run's wallet may be asked to send, or was and has reported no definite failure. -/
def PaymentRun.Holding (run : PaymentRun) : Prop :=
  run.Sent ∨ ∃ preclaim request, run.stage = .admitted preclaim request

structure AtMostOne (ids : Nat → Text) (s : PaymentSystem) : Prop where
  ok : ∀ i, (s.runs i).stage.Ok (ids i) s.order (s.runs i)
  secured : ∀ i, (s.runs i).Holding → Secured (ids i) s.order
  alone : ∀ i j, (s.runs i).Holding → (s.runs j).Holding → i = j

section Step

variable {ids : Nat → Text} {s t : PaymentSystem} {i : Nat} {run : PaymentRun} {stage : Stage}

lemma not_holding (hr : run.Unasked) (hs : ∀ preclaim req, stage ≠ .admitted preclaim req) :
    ¬ (run.to stage).Holding := by
  rintro (⟨ha, -⟩ | ⟨preclaim, req, h⟩)
  · change run.asked = true at ha
    rw [hr.1] at ha
    cases ha
  · exact hs preclaim req h

lemma holding_of_to (hs : ∀ preclaim req, stage ≠ .admitted preclaim req)
    (h : (run.to stage).Holding) : run.Holding := by
  rcases h with hse | ⟨preclaim, req, h⟩
  · exact .inl hse
  · exact absurd h (hs preclaim req)

section

variable (h : AtMostOne ids s)
include h

lemma AtMostOne.step (hok : run.stage.Ok (ids i) order run)
    (ho : ∀ j, j ≠ i → Keeps (ids j) s.order order) (hsec : run.Holding → Secured (ids i) order)
    (ha : run.Holding → ∀ j, j ≠ i → ¬ (s.runs j).Holding) :
    AtMostOne ids (s.step i run order) := by
  have hs : (s.step i run order).runs i = run := Function.update_self ..
  have hoth : ∀ j, j ≠ i → (s.step i run order).runs j = s.runs j :=
    fun j hj => Function.update_of_ne hj ..
  refine ⟨?_, ?_, ?_⟩
  · intro j
    by_cases hj : j = i
    · subst hj
      rw [hs]
      exact hok
    · rw [hoth j hj]
      exact (h.ok j).keeps (ho j hj)
  · intro j hh
    by_cases hj : j = i
    · subst hj
      rw [hs] at hh
      exact hsec hh
    · rw [hoth j hj] at hh
      exact (ho j hj).secured (h.secured j hh)
  · intro j k hjh hkh
    by_cases hj : j = i
    · by_cases hk : k = i
      · rw [hj, hk]
      · rw [hj, hs] at hjh
        rw [hoth k hk] at hkh
        exact absurd hkh (ha hjh k hk)
    · rw [hoth j hj] at hjh
      by_cases hk : k = i
      · rw [hk, hs] at hkh
        exact absurd hjh (ha hkh j hj)
      · rw [hoth k hk] at hkh
        exact h.alone j k hjh hkh

lemma AtMostOne.advance (ha : Advances s.order order) (hok : run.stage.Ok (ids i) order run)
    (hh : run.Holding → (s.runs i).Holding) : AtMostOne ids (s.step i run order) :=
  h.step hok (fun _ _ => ha.keeps _)
    (fun hr => (ha.keeps _).secured (h.secured i (hh hr)))
    fun hr j hj hjh => hj (h.alone j i hjh (hh hr))

lemma AtMostOne.leave (hok : run.stage.Ok (ids i) order run)
    (ho : ∀ j, j ≠ i → Keeps (ids j) s.order order) (hr : ¬ run.Holding) :
    AtMostOne ids (s.step i run order) :=
  h.step hok ho (fun hh => absurd hh hr) fun hh => absurd hh hr

lemma AtMostOne.change (hk : ∀ c, Keeps c s.order order) :
    AtMostOne ids { s with order := order } :=
  ⟨fun j => (h.ok j).keeps (hk _), fun j hj => (hk _).secured (h.secured j hj), h.alone⟩

lemma AtMostOne.others_idle (hi : Function.Injective ids) (ho : OwnsClaim s.order (ids i)) :
    ∀ j, j ≠ i → ¬ (s.runs j).Holding :=
  fun j hj hh => ho.not_secured (fun heq => hj (hi heq)) (h.secured j hh)

end

lemma PaymentStep.atMostOne (hi : Function.Injective ids) {action : PaymentAction}
    (hst : PaymentStep P ids action s t) (h : AtMostOne ids s) : AtMostOne ids t := by
  have hne : ∀ {j i : Nat}, j ≠ i → ids j ≠ ids i := fun hj heq => hj (hi heq)
  cases hst with
  | claim idle owner reply =>
    rename_i i _ _ _ _ _ _ _ _
    have hok := h.ok i
    rw [idle] at hok
    obtain ⟨hsec, hc⟩ := ClaimKind.reply_claimed reply
    rw [owner] at hc
    refine h.leave hok (fun j hj => .of_other (hne hj) (hsec _) (.inl hc)) ?_
    refine not_holding ?_ fun _ _ => nofun
    exact hok
  | prepareWithoutClaim => exact h.change recordOrderPaymentPreparationFailure_keeps
  | prepare preparing patch_eq =>
    rename_i i _ patch now
    have ha : Advances s.order (patched (ids i) patch now s.order) := by
      rcases patch_eq with rfl | rfl <;>
        exact (patched_patchedUnder ..).advances_same rfl rfl rfl
    exact h.advance ha ((h.ok i).keeps (ha.keeps _)) id
  | writeInvoice preparing valid reply =>
    rename_i i preclaim next request _ _
    have hok := h.ok i
    rw [preparing] at hok
    have hw := writtenUnder_of_put reply
    have hinv := invoice_ne_nil valid
    refine h.leave ⟨hok, hinv, fun _ => ⟨?_, ?_⟩⟩
      (fun j hj => (PatchedUnder.written hw).keeps_other (hne hj))
      (not_holding hok fun _ _ => nofun)
    · rw [hw.invoice]
      exact present_some hinv
    · rw [hw.status]
      exact .inl rfl
  | check preparing reply =>
    rename_i i _ _ _
    have ha := (fence_put reply).2
    exact h.advance ha ((h.ok i).keeps (ha.keeps _)) id
  | checkWritten written reply =>
    rename_i i preclaim _ request _
    obtain ⟨ho, ha⟩ := fence_put reply
    have hok := h.ok i
    have hf : (s.runs i).Unasked ∧ request.invoice ≠ [] ∧ Secured (ids i) s.order := by
      rcases written with hs | hs <;> rw [hs] at hok
      · exact ⟨hok.1, hok.2.1, .claimed ho.2.1 ho.1 (hok.2.2 ho.2.1)⟩
      · exact ⟨hok.1, hok.2, h.secured i (.inr ⟨preclaim, request, hs⟩)⟩
    exact h.step ⟨hf.1, hf.2.1⟩ (fun _ _ => ha.keeps _)
      (fun _ => (ha.keeps _).secured hf.2.2) fun _ => h.others_idle hi ho
  | refuse unasked hord =>
    rename_i i _ next _ _
    have hr := (h.ok i).unasked unasked
    have ha : Advances s.order next := by
      rcases hord with rfl | rfl
      · exact .refl s.order
      · exact fence_advances
    exact h.advance ha hr fun hh =>
      absurd hh (not_holding hr fun _ _ => nofun)
  | restore refused =>
    rename_i i _ _ _
    have hok := h.ok i
    rw [refused] at hok
    exact h.leave trivial (fun j hj => (patched_patchedUnder ..).keeps_other (hne hj))
      (not_holding hok fun _ _ => nofun)
  | fail unasked status_eq =>
    rename_i i _ _ _ _ _
    exact h.leave trivial (fun j hj => (patched_patchedUnder ..).keeps_other (hne hj))
      (not_holding ((h.ok i).unasked unasked) fun _ _ => nofun)
  | send admitted automatic =>
    rename_i i preclaim request
    have hok := h.ok i
    rw [admitted] at hok
    exact h.advance (.refl s.order) ⟨⟨rfl, hok.1.2⟩, hok.2⟩
      fun _ => .inr ⟨preclaim, request, admitted⟩
  | answer asked outcome_eq =>
    rename_i i request outcome
    have hok := h.ok i
    rw [asked] at hok
    exact h.advance (.refl s.order)
      ⟨hok.2, fun _ _ => hok.1, fun reason heq => absurd heq (outcome_eq reason)⟩
      (holding_of_to fun _ _ => nofun)
  | answerUnasked admitted outcome_eq =>
    rename_i i _ request outcome
    have hok := h.ok i
    rw [admitted] at hok
    exact h.advance (.refl s.order)
      ⟨hok.2, fun success heq => absurd heq (outcome_eq success), fun _ _ => hok.1⟩
      (holding_of_to fun _ _ => nofun)
  | writeFailure answered reply =>
    refine h.leave trivial
      (fun j hj => (PatchedUnder.written (writtenUnder_of_put reply)).keeps_other (hne hj)) ?_
    rintro (⟨-, hw⟩ | ⟨_, _, hs⟩)
    · cases hw
    · cases hs
  | writeAmbiguous answered =>
    exact h.advance (errorPatch_advances (patched_patchedUnder ..)) trivial
      (holding_of_to fun _ _ => nofun)
  | writeManual answered =>
    rename_i i _ reason _
    have hok := h.ok i
    rw [answered] at hok
    exact h.leave trivial (fun j hj => (patched_patchedUnder ..).keeps_other (hne hj))
      (not_holding (hok.2.2 reason rfl) fun _ _ => nofun)
  | writePaid answered reply =>
    rename_i i _ _ success _ _
    have hok := h.ok i
    rw [answered] at hok
    have hw := writtenUnder_of_put reply
    exact h.advance (paidPatch_advances hok.1 hw)
      ⟨hok.2.1 success rfl, fun _ => hw.status⟩ (holding_of_to fun _ _ => nofun)
  | writeDelivered delivering =>
    rename_i i _ _ _ _ _
    have hok := h.ok i
    rw [delivering] at hok
    exact h.advance (deliveredPatch_advances hok.2 (patched_patchedUnder ..)) trivial
      (holding_of_to fun _ _ => nofun)
  | recordDelivered delivering =>
    exact h.advance recordOrderPaymentProofDelivery_advances trivial
      (holding_of_to fun _ _ => nofun)
  | recover paid =>
    exact h.advance recordOrderPaymentWalletSuccessRecovery_advances trivial
      (holding_of_to fun _ _ => nofun)
  | stop started =>
    exact h.advance (.refl s.order) trivial (holding_of_to fun _ _ => nofun)
  | heartbeat =>
    exact h.change fun c => ((patched_patchedUnder ..).advances_same rfl rfl rfl).keeps c
  | observe => exact h.change fun c => (Observation.next_advances _).keeps c

end Step

/-- A wallet is asked once by a run, after definite failures or refusals only. -/
theorem sends_once {ids : Nat → Text} {s₀ s t : PaymentSystem} {actions : List PaymentAction}
    {j : Nat} (hids : Function.Injective ids)
    (hstart : ∀ i, (s₀.runs i).stage = .idle ∧ (s₀.runs i).Unasked)
    (hrun : Run (PaymentStep P ids) s₀ actions s) (hsend : PaymentStep P ids (.send j) s t) :
    (s.runs j).asked = false ∧
      ∀ i, i ≠ j → (s.runs i).asked = true → (s.runs i).failureWritten = true := by
  have hnone : ∀ i, ¬ (s₀.runs i).Holding := by
    rintro i (⟨hasked, -⟩ | ⟨_, _, hstage⟩)
    · rw [(hstart i).2.1] at hasked
      cases hasked
    · rw [(hstart i).1] at hstage
      cases hstage
  have hfirst : AtMostOne ids s₀ := by
    refine ⟨fun i => ?_, fun i h => absurd h (hnone i), fun i _ h => absurd h (hnone i)⟩
    rw [(hstart i).1]
    exact (hstart i).2
  have hinv : AtMostOne ids s :=
    hrun.invariant (fun _ _ _ h hstep => hstep.atMostOne hids h) hfirst
  cases hsend with
  | send admitted automatic =>
    have hholding : (s.runs j).Holding := Or.inr ⟨_, _, admitted⟩
    have hok := hinv.ok j
    rw [admitted] at hok
    refine ⟨hok.1.1, fun i hi hasked => ?_⟩
    by_contra hwritten
    exact hi (hinv.alone i j (Or.inl ⟨hasked, Bool.eq_false_of_not_eq_true hwritten⟩) hholding)

namespace Sample

def payableInvoice : Text := "lnbc210n1".toList

def payingPlatform : OrderPlatform :=
  { platform with
    readBolt11 := fun invoice =>
      if invoice = payableInvoice then
        some
          { msats := some 21000
            expiresAt := some 5000
            paymentHash := none
            wellSigned := true }
      else none }

def unpaid : OrderLifecycle :=
  { paid with
    invoiceStatus := .notRequested
    paymentStatus := .notStarted
    proofDeliveryStatus := .notStarted
    invoice := none
    preimage := none }

def claimIds (i : Nat) : Text := List.replicate (i + 1) 'c'

lemma claimIds_injective : Function.Injective claimIds := fun i j h => by
  simpa [claimIds] using congrArg List.length h

def claimInput (i : Nat) : OrderPaymentClaimInput where
  orderId := orderId
  paymentClaimId := claimIds i
  buyerPubkey := buyer
  merchantPubkey := merchant
  merchantLightningAddress := unpaid.merchantLightningAddress
  checkoutMode := .privateCheckout
  zapContent := []
  totalSats := 21
  totalMsats := 21000
  items := unpaid.items
  paymentTarget := .webln

def request : ValidatedInvoice where
  invoice := payableInvoice
  isPublicZap := false
  zapRequestId := none
  zapRequestCreatedAt := none
  zapRelayUrls := []
  expectedLnurl := none
  lnurlNostrPubkey := none
  invoiceExpiresAt := 5000
  zapReceiptObservationDeadline := 5000

def idleSystem : PaymentSystem where
  order := unpaid
  runs _ := ⟨.idle, .webln, false, false⟩

def claimed : OrderLifecycle :=
  (claimOrderLifecyclePayment payingPlatform (claimInput 0) true 3000 [] unpaid).row unpaid

def withInvoice : OrderLifecycle := patched (claimIds 0) (invoicePatch request) 3000 claimed

def fenced : OrderLifecycle :=
  (fenceClaimedOrderLifecyclePaymentAuthority (claimIds 0) 3000 withInvoice).row withInvoice

def preparing : PaymentSystem :=
  idleSystem.step 0
    { idleSystem.runs 0 with
      stage := .preparing unpaid
      paymentTarget := .webln } claimed

def paying : PaymentSystem :=
  preparing.step 0 ((preparing.runs 0).to (.paying unpaid request)) withInvoice

def admitted : PaymentSystem :=
  paying.step 0 ((paying.runs 0).to (.admitted unpaid request)) fenced

end Sample

theorem sends_once_first : (admitted.runs 0).asked = false ∧
      ∀ i, i ≠ 0 → (admitted.runs i).asked = true → (admitted.runs i).failureWritten = true := by
  have hclaimed : ClaimKind.runOrderPayment.reply payingPlatform (claimInput 0) true
      3000 [] none unpaid = .put (.claimed unpaid) claimed := rfl
  have hvalid : validateLightningInvoiceForPayment payingPlatform request.invoice
      21000 (toSeconds 3000) false ≠ none := by decide
  have hwritten : patchClaimedOrderLifecyclePayment (claimIds 0) (invoicePatch request)
      3000 claimed = .put .patched withInvoice := rfl
  have hfenced : fenceClaimedOrderLifecyclePaymentAuthority (claimIds 0) 3000
      withInvoice = .put .fenced fenced := rfl
  have hidle : (idleSystem.runs 0).stage = .idle := rfl
  have howner : (claimInput 0).paymentClaimId = claimIds 0 := rfl
  have hclaim : PaymentStep payingPlatform claimIds (.claim 0) idleSystem
      preparing := PaymentStep.claim hidle howner hclaimed
  have hwrite : PaymentStep payingPlatform claimIds (.prepare 0) preparing
      paying := .writeInvoice rfl hvalid hwritten
  have hcheck : PaymentStep payingPlatform claimIds (.check 0) paying
      admitted := .checkWritten (Or.inl rfl) hfenced
  exact sends_once claimIds_injective (fun _ => ⟨rfl, rfl, rfl⟩)
    (.cons hclaim (.cons hwrite (.cons hcheck (.nil _)))) (.send rfl nofun)

end Conduit.Orders
