import Conduit.OrderStatus

namespace Conduit.OrderPhase

open Js List OrderStatus

structure EventMarketPickup where
  (marketCoordinate marketEventId grantEventId calendarEventId mode assignment merchantPubkey : Text)
  deriving DecidableEq

/-- The fulfillment of an item by its type; the older `pickup` lane is not read further. -/
inductive ItemFulfillment where
  | digital
  | shipping
  | pickup
  | event_market_pickup (fulfillment : EventMarketPickup)

inductive ItemFormat where
  | physical
  | digital
  deriving DecidableEq

structure OrderItem where
  format : ItemFormat
  fulfillment : Option ItemFulfillment
  priceAtPurchase : Rat
  shippingCostSats : Option Rat

structure OrderSchema where
  (id buyerPubkey merchantPubkey : Text)
  items : List OrderItem
  subtotal : Rat
  shippingCostSats : Option Rat

structure PaymentProof where
  (action source : Text)
  (invoice preimage zapRequestId zapReceiptId verificationState : Option Text)

inductive MessagePayload where
  | order (payload : OrderSchema) (checkoutPaymentRoute : Option Text)
  | payment_request
  | status_update (payload : StatusUpdate)
  | shipping_update
  | payment_proof (payload : PaymentProof)
  | other

structure ParsedOrderMessage where
  id : EventId
  orderId : Text
  createdAt : Int
  (senderPubkey recipientPubkey : Text)
  payload : MessagePayload

def ParsedOrderMessage.toStatus (message : ParsedOrderMessage) : OrderStatus.ParsedOrderMessage where
  id := message.id
  createdAt := message.createdAt
  senderPubkey := message.senderPubkey
  recipientPubkey := message.recipientPubkey
  payload :=
    match message.payload with
    | .order .. => .order
    | .status_update payload => .statusUpdate payload
    | _ => .other

structure MerchantConversationSummary extends MerchantOrderParticipants where
  orderId : Text
  status : Option Text
  messages : List ParsedOrderMessage

inductive FulfillmentMode where
  | digital
  | shipping
  | pickup
  | unknown
  deriving DecidableEq

structure MerchantOrderState extends OrderStatus.MerchantOrderState where
  cancellation := none
  (paid paymentObserved paymentReported accepted invoiceSent : Bool := false)
  (checkoutSparkRouted shippingUpdated isZeroCostPickup : Bool := false)
  requiresShipping : Option Bool := none
  fulfillmentMode : Option FulfillmentMode := none
  /-- Nothing where it is unknown. -/
  buyerReplyable : Option Bool := none

def acceptedStatuses : List Text := ["accepted", "processing", "shipped", "complete", "delivered"]

def shippedStatuses : List Text := ["shipped", "complete", "delivered"]

def paidStatuses : List Text := ["paid", "shipped", "complete", "delivered"]

variable (state : MerchantOrderState)

def isMerchantOrderPaid : Bool :=
  if state.checkoutSparkRouted then state.paid
  else state.paid || state.shippingUpdated || decide (normalizeStatus state.status ∈ paidStatuses)

def isAuthorizedZeroCostPickup : Bool :=
  state.isZeroCostPickup && decide (state.fulfillmentMode = some .pickup) &&
    decide (state.requiresShipping ≠ some true)

def isMerchantOrderAccepted : Bool :=
  isMerchantOrderPaid state || state.accepted ||
    decide (normalizeStatus state.status ∈ acceptedStatuses)

inductive ActionName where
  | accept
  | confirm_payment
  | record_shipment
  | complete
  | cancel
  | reopen

structure MerchantOrderAction where
  action : ActionName
  status : Option KnownOrderStatus
  label : String
  primary : Bool

def cancelAs (label : String) : MerchantOrderAction := ⟨.cancel, some .cancelled, label, false⟩

def completeAs (label : String) : MerchantOrderAction := ⟨.complete, some .complete, label, true⟩

def getMerchantOrderActions : List MerchantOrderAction :=
  let status := normalizeStatus state.status
  if knownOf status = none then []
  else if status = "cancelled" ∧ state.cancellation.isSome then
    [⟨.reopen, none, "Reopen order", true⟩]
  else if status ∈ terminalActionStatuses then []
  else if isMerchantOrderPaid state then
    if state.fulfillmentMode = some .pickup then
      [cancelAs "Cancel order", completeAs "Mark picked up / complete"]
    else if state.requiresShipping = some false then
      [cancelAs "Cancel order", completeAs "Confirm delivery"]
    else if state.shippingUpdated ∨ status = "shipped" then [completeAs "Mark delivered"]
    else [cancelAs "Cancel order", ⟨.record_shipment, none, "Add shipping details", true⟩]
  else if isAuthorizedZeroCostPickup state && isMerchantOrderAccepted state then
    [cancelAs "Cancel order", completeAs "Mark picked up / complete"]
  else if state.paymentObserved then
    [cancelAs "Cancel order", ⟨.confirm_payment, some .paid, "Confirm payment", true⟩]
  else if ¬ isMerchantOrderAccepted state then
    [cancelAs "Decline order", ⟨.accept, some .accepted, "Accept order", true⟩]
  else if status ∈ shippedStatuses then []
  else if state.invoiceSent ∨ state.buyerReplyable = some false then
    [cancelAs "Cancel order", ⟨.confirm_payment, some .paid, "Confirm payment received", true⟩]
  else [cancelAs "Cancel order"]

def HasText (value : Option Text) : Prop := trim (value.getD []) ≠ []
  deriving Decidable

def PaymentProof.Refuted (proof : PaymentProof) : Prop :=
  proof.verificationState = some "verification_failed".toList ∨
    proof.verificationState = some "disputed".toList
  deriving Decidable

def hasPaymentProofEvidence (proof : PaymentProof) : Bool :=
  ¬ proof.Refuted ∧ (HasText proof.invoice ∧ HasText proof.preimage ∨
    HasText proof.zapRequestId ∧ HasText proof.zapReceiptId)

def isPaymentProofEvidenceMessage (message : ParsedOrderMessage) : Bool :=
  match message.payload with
  | .payment_proof proof => hasPaymentProofEvidence proof
  | _ => false

def isExternalPaymentReport (message : ParsedOrderMessage) : Bool :=
  match message.payload with
  | .payment_proof proof =>
    ¬ proof.Refuted ∧ proof.invoice.getD [] ≠ [] ∧
      (proof.action = "external_invoice" ∨ proof.source = "external")
  | _ => false

structure OrderSummary where
  checkoutSparkRouted : Bool
  items : List OrderItem
  subtotal : Rat
  shippingCostSats : Option Rat
  (invoiceSent paymentProofReceived paymentReportReceived : Bool)
  (externalPaymentReportReceived accepted paymentConfirmed shippingUpdateReceived : Bool)

section
variable (participants : MerchantOrderParticipants) (message : ParsedOrderMessage)

def isBuyerToMerchant : Bool :=
  participants.buyerPubkey ≠ [] ∧ participants.merchantPubkey ≠ [] ∧
    message.senderPubkey = participants.buyerPubkey ∧
    message.recipientPubkey = participants.merchantPubkey

def isMerchantToBuyer : Bool :=
  participants.buyerPubkey ≠ [] ∧ participants.merchantPubkey ≠ [] ∧
    message.senderPubkey = participants.merchantPubkey ∧
    message.recipientPubkey = participants.buyerPubkey

/-- A status update with a status for which `p` holds. -/
def confirms (p : MerchantOrderState → Bool) : Bool :=
  match message.payload with
  | .status_update payload => p { status := some payload.status }
  | _ => false

def isInvoice : Bool := message.payload matches .payment_request

def isShippingUpdate : Bool := message.payload matches .shipping_update

end

variable (conversation : MerchantConversationSummary)

def routesCheckout (message : ParsedOrderMessage) : Bool :=
  match message.payload with
  | .order order route =>
    route = some "spark_router_v1".toList ∧
      isBuyerToMerchant conversation.toMerchantOrderParticipants message ∧
      conversation.orderId ≠ [] ∧ message.orderId = conversation.orderId ∧
      order.id = conversation.orderId ∧
      toLowerCase order.buyerPubkey = toLowerCase conversation.buyerPubkey ∧
      toLowerCase order.merchantPubkey = toLowerCase conversation.merchantPubkey
  | _ => false

def firstOrder : Option OrderSchema :=
  conversation.messages.findSome? fun message =>
    match message.payload with
    | .order order _ => some order
    | _ => none

/-- `extractOrderSummary`, with the participants of the conversation. -/
def getMerchantOrderSummary : OrderSummary :=
  let messages := conversation.messages
  let fromBuyer := messages.filter (isBuyerToMerchant conversation.toMerchantOrderParticipants)
  let fromMerchant := messages.filter (isMerchantToBuyer conversation.toMerchantOrderParticipants)
  { checkoutSparkRouted := messages.any (routesCheckout conversation)
    items := (firstOrder conversation).elim [] (·.items)
    subtotal := (firstOrder conversation).elim 0 (·.subtotal)
    shippingCostSats := (firstOrder conversation).bind (·.shippingCostSats)
    invoiceSent := fromMerchant.any isInvoice
    paymentProofReceived := fromBuyer.any isPaymentProofEvidenceMessage
    paymentReportReceived := fromBuyer.any fun message =>
      isPaymentProofEvidenceMessage message || isExternalPaymentReport message
    externalPaymentReportReceived := fromBuyer.any isExternalPaymentReport
    accepted := fromMerchant.any (confirms · isMerchantOrderAccepted)
    paymentConfirmed := fromMerchant.any (confirms · isMerchantOrderPaid)
    shippingUpdateReceived := fromMerchant.any isShippingUpdate }

def getOrderItemFulfillmentMode (item : OrderItem) : FulfillmentMode :=
  match item.fulfillment with
  | some (.event_market_pickup _) => .pickup
  | some .shipping => .shipping
  | some .digital => .digital
  | _ => if item.format = .digital then .digital else .unknown

structure MerchantOrderFulfillment where
  mode : FulfillmentMode
  requiresShipping : Bool
  futureMarket : Option EventMarketPickup := none
  hasPickupClaim : Bool

def OrderItem.eventMarketPickup (item : OrderItem) : Option EventMarketPickup :=
  match item.fulfillment with
  | some (.event_market_pickup fulfillment) => some fulfillment
  | _ => none

def getMerchantOrderFulfillment (items : List OrderItem) : MerchantOrderFulfillment :=
  let futureFulfillments := items.filterMap OrderItem.eventMarketPickup
  let hasPickupClaim := !futureFulfillments.isEmpty
  if items = [] then ⟨.unknown, true, none, false⟩
  else
    let itemModes := items.map getOrderItemFulfillmentMode
    let physicalModes := (itemModes.filter fun mode => mode ≠ .digital ∧ mode ≠ .unknown).dedup
    if (∃ item ∈ items, item.eventMarketPickup.isSome ∧ item.format ≠ .physical) ∨
        .unknown ∈ itemModes ∨ 1 < physicalModes.length then
      ⟨.unknown, !hasPickupClaim, none, hasPickupClaim⟩
    else
      let mode := physicalModes.head?.getD .digital
      if mode ≠ .pickup then ⟨mode, mode = .shipping, none, hasPickupClaim⟩
      else
        match futureFulfillments with
        | [] => ⟨.unknown, false, none, true⟩
        | first :: rest =>
          if ∀ fulfillment ∈ rest, fulfillment = first then ⟨.pickup, false, some first, true⟩
          else ⟨.unknown, false, none, true⟩

def hasExactZeroCostPickupTerms (summary : OrderSummary) (fulfillment : MerchantOrderFulfillment) :
    Bool :=
  fulfillment.mode = .pickup ∧ fulfillment.requiresShipping = false ∧ summary.items ≠ [] ∧
    summary.subtotal = 0 ∧ summary.shippingCostSats.getD 0 = 0 ∧
    ∀ item ∈ summary.items, item.eventMarketPickup.isSome ∧ item.priceAtPurchase = 0 ∧
      item.shippingCostSats.getD 0 = 0

structure CheckoutSparkMerchantSettlementProjection where
  (creditVerified merchantVerified commerceVerified : Bool)

variable (C : IdCollation) (settlement : Option CheckoutSparkMerchantSettlementProjection)

def CommerceVerified : Prop := ∃ projection ∈ settlement, projection.commerceVerified = true
  deriving Decidable

def effectiveStatus : EffectiveMerchantOrderStatus :=
  getEffectiveMerchantOrderStatus C (conversation.messages.map (·.toStatus))
    conversation.toMerchantOrderParticipants conversation.status

def getMerchantConversationState : MerchantOrderState :=
  let summary := getMerchantOrderSummary conversation
  let effective := effectiveStatus conversation C
  { status :=
      if summary.checkoutSparkRouted ∧ ¬ CommerceVerified settlement ∧
          effective.status.map toLowerCase = some "paid".toList then
        some "pending".toList
      else effective.status
    cancellation := effective.cancellation
    paid := if summary.checkoutSparkRouted then decide (CommerceVerified settlement)
      else summary.paymentConfirmed
    paymentObserved := summary.paymentProofReceived || summary.paymentReportReceived
    paymentReported := summary.externalPaymentReportReceived
    accepted := summary.accepted
    invoiceSent := summary.invoiceSent
    checkoutSparkRouted := summary.checkoutSparkRouted
    shippingUpdated := summary.shippingUpdateReceived }

inductive MerchantOrderQueue where
  | paid_fulfill
  | verify_payment
  | unpaid_review
  | shipped
  | closed

def statesZeroCostPickup : Bool :=
  hasExactZeroCostPickupTerms (getMerchantOrderSummary conversation)
    (getMerchantOrderFulfillment (getMerchantOrderSummary conversation).items)

def queueOf (state : MerchantOrderState) (zeroCostPickup : Bool) : MerchantOrderQueue :=
  let status := normalizeStatus state.status
  if status ∈ terminalActionStatuses then .closed
  else if state.shippingUpdated ∨ status = "shipped" then .shipped
  else if state.checkoutSparkRouted then
    if CommerceVerified settlement then .paid_fulfill
    else if ∃ projection ∈ settlement, projection.creditVerified ∨ projection.merchantVerified then
      .verify_payment
    else .unpaid_review
  else if state.paid ∨ status = "paid" ∨ isMerchantOrderAccepted state ∧ zeroCostPickup then
    .paid_fulfill
  else if state.paymentObserved then .verify_payment
  else .unpaid_review

def getMerchantConversationQueue : MerchantOrderQueue :=
  queueOf settlement (getMerchantConversationState conversation C settlement)
    (statesZeroCostPickup conversation)

def MerchantOrderState.shown (mode : Option FulfillmentMode)
    (requiresShipping buyerReplyable : Option Bool) : MerchantOrderState :=
  { state with fulfillmentMode := mode, requiresShipping, buyerReplyable }

def MerchantOrderState.observing (paymentObserved paymentReported : Bool) : MerchantOrderState :=
  { state with paymentObserved, paymentReported }

def MerchantOrderAction.Releases (action : MerchantOrderAction) : Prop :=
  action.action = .record_shipment ∨ action.action = .complete

/-- Further messages, none of the merchant to the buyer, stand anywhere among those of a
conversation. -/
inductive Inserts (p : MerchantOrderParticipants) :
    List ParsedOrderMessage → List ParsedOrderMessage → Prop
  | nil : Inserts p [] []
  | keep {m l l'} (h : Inserts p l l') : Inserts p (m :: l) (m :: l')
  | add {m l l'} (hm : ¬ (m.senderPubkey = p.merchantPubkey ∧ m.recipientPubkey = p.buyerPubkey))
      (h : Inserts p l l') : Inserts p l (m :: l')

section
variable {conversation : MerchantConversationSummary} {C : IdCollation} {state : MerchantOrderState}
  {settlement : Option CheckoutSparkMerchantSettlementProjection} {zero zero' : Bool}
  {p : MerchantOrderParticipants} {l l' messages : List ParsedOrderMessage}

lemma Inserts.subset (h : Inserts p l l') : l ⊆ l' := by
  induction h with
  | nil => exact Subset.refl _
  | keep _ ih => exact cons_subset_cons _ ih
  | add _ _ ih => exact subset_cons_of_subset _ ih

lemma Inserts.fromMerchant (h : Inserts p l l') :
    l'.filter (isMerchantToBuyer p) = l.filter (isMerchantToBuyer p) ∧
    (l'.map (·.toStatus)).filterMap (merchantStatus p) =
      (l.map (·.toStatus)).filterMap (merchantStatus p) := by
  induction h with
  | nil => exact ⟨rfl, rfl⟩
  | keep _ ih =>
    rw [filter_cons, filter_cons, ih.1, map_cons, map_cons, filterMap_cons, filterMap_cons, ih.2]
    exact ⟨rfl, rfl⟩
  | @add m _ _ hm _ ih =>
    have hf : isMerchantToBuyer p m = false := by simp_all [isMerchantToBuyer]
    have hn : merchantStatus p m.toStatus = none := by
      unfold merchantStatus
      split
      · exact if_neg hm
      · rfl
    rw [filter_cons_of_neg (Bool.eq_false_iff.1 hf), map_cons, filterMap_cons_none hn]
    exact ih

lemma effectiveStatus_inserts
    (h : Inserts conversation.toMerchantOrderParticipants conversation.messages messages)
    (ho : hasMerchantOrder (conversation.messages.map (·.toStatus))
      conversation.toMerchantOrderParticipants = true) :
    effectiveStatus { conversation with messages := messages } C =
      effectiveStatus conversation C := by
  have ho' : hasMerchantOrder (messages.map (·.toStatus))
      conversation.toMerchantOrderParticipants = true := by
    obtain ⟨m, hm, hord⟩ := any_eq_true.1 ho
    exact any_eq_true.2 ⟨m, map_subset _ h.subset hm, hord⟩
  unfold effectiveStatus getEffectiveMerchantOrderStatus initialStatus merchantStatusMessages
    orderedStatuses uniqueStatuses
  rw [h.fromMerchant.2, ho, ho']

lemma routed_of_subset (hs : conversation.messages ⊆ messages)
    (h : (getMerchantOrderSummary conversation).checkoutSparkRouted = true) :
    (getMerchantOrderSummary { conversation with messages := messages }).checkoutSparkRouted =
      true := by
  obtain ⟨m, hm, hr⟩ := any_eq_true.1 h
  exact any_eq_true.2 ⟨m, hs hm, hr⟩

lemma paid_of_routed (h : (getMerchantOrderSummary conversation).checkoutSparkRouted = true) :
    isMerchantOrderPaid (getMerchantConversationState conversation C settlement) = true ↔
      CommerceVerified settlement := by
  unfold isMerchantOrderPaid getMerchantConversationState
  dsimp only
  rw [if_pos h, if_pos h, decide_eq_true_eq]

lemma state_inserts
    (h : Inserts conversation.toMerchantOrderParticipants conversation.messages messages)
    (ho : hasMerchantOrder (conversation.messages.map (·.toStatus))
      conversation.toMerchantOrderParticipants = true)
    (hr : (getMerchantOrderSummary { conversation with messages := messages }).checkoutSparkRouted =
      false) : ∃ observed reported,
    getMerchantConversationState { conversation with messages := messages } C settlement =
      (getMerchantConversationState conversation C settlement).observing observed reported := by
  have hb : (getMerchantOrderSummary conversation).checkoutSparkRouted = false := by
    refine Bool.eq_false_iff.2 fun hb => ?_
    rw [routed_of_subset h.subset hb] at hr
    cases hr
  simp only [getMerchantConversationState, hr, hb, effectiveStatus_inserts h ho]
  simp only [getMerchantOrderSummary, h.fromMerchant.1, MerchantOrderState.observing,
    Bool.false_eq_true, false_and, if_false]
  exact ⟨_, _, rfl⟩

lemma status_iff {q : Text} (hpaid : q ≠ "paid".toList) (hpending : q ≠ "pending".toList) :
    normalizeStatus (getMerchantConversationState conversation C settlement).status = q ↔
      normalizeStatus (effectiveStatus conversation C).status = q := by
  unfold getMerchantConversationState
  dsimp only
  split_ifs with hif
  · obtain ⟨-, -, heff⟩ := hif
    obtain ⟨status, hs, hl⟩ := Option.map_eq_some_iff.1 heff
    rw [hs, normalizeStatus, normalizeStatus, Option.getD_some, Option.getD_some, hl]
    exact ⟨fun h => absurd h.symm hpending, fun h => absurd h.symm hpaid⟩
  · rfl

lemma paid_of_releases {action : MerchantOrderAction} (hz : state.isZeroCostPickup = false)
    (h : action ∈ getMerchantOrderActions state) (hr : action.Releases) :
    isMerchantOrderPaid state = true := by
  have hauth : isAuthorizedZeroCostPickup state = false := by simp [isAuthorizedZeroCostPickup, hz]
  by_contra hn
  unfold getMerchantOrderActions at h
  simp only [hn, hauth, Bool.false_and, Bool.false_eq_true, if_false] at h
  rcases hr with hr | hr <;> split_ifs at h <;>
    simp only [mem_cons, not_mem_nil, or_false] at h <;>
    rcases h with rfl | rfl <;> cases hr

lemma actions_of_paid (state) (observed reported : Bool) (h : isMerchantOrderPaid state = true) :
    getMerchantOrderActions (state.observing observed reported) = getMerchantOrderActions state := by
  have hp : isMerchantOrderPaid (state.observing observed reported) = true := h
  unfold getMerchantOrderActions
  simp only [h, hp, if_true]
  rfl

lemma queue_shipped : queueOf settlement state zero = .shipped ↔
    normalizeStatus state.status ∉ terminalActionStatuses ∧
      (state.shippingUpdated = true ∨ normalizeStatus state.status = "shipped".toList) := by
  unfold queueOf
  dsimp only
  split_ifs <;> simp_all

lemma queue_observing {observed reported : Bool} (hr : state.checkoutSparkRouted = false)
    (h : queueOf settlement (state.observing observed reported) zero' = .paid_fulfill) :
    queueOf settlement state zero = .paid_fulfill ∨
      zero' = true ∧ isMerchantOrderAccepted state = true := by
  have ha : isMerchantOrderAccepted (state.observing observed reported) =
      isMerchantOrderAccepted state := rfl
  unfold queueOf at h ⊢
  rw [ha] at h
  simp only [MerchantOrderState.observing, hr, Bool.false_eq_true, if_false] at h ⊢
  split_ifs at h ⊢ <;> simp_all

lemma queue_routed (hr : state.checkoutSparkRouted = true)
    (h : queueOf settlement state zero = .paid_fulfill) : CommerceVerified settlement := by
  unfold queueOf at h
  dsimp only at h
  split_ifs at h
  assumption

end

/-- Others' messages change neither the status nor the cancellation, and pay or release only a
routed order that is settled, or a pickup at no cost that the merchant accepted. -/
theorem messages_release_nothing (messages : List ParsedOrderMessage)
    (h : Inserts conversation.toMerchantOrderParticipants conversation.messages messages)
    (ho : hasMerchantOrder (conversation.messages.map (·.toStatus))
      conversation.toMerchantOrderParticipants = true) :
    let longer := { conversation with messages := messages }
    let before := getMerchantConversationState conversation C settlement
    let after := getMerchantConversationState longer C settlement
    let verified := after.checkoutSparkRouted = true ∧ CommerceVerified settlement
    effectiveStatus longer C = effectiveStatus conversation C ∧
    after.cancellation = before.cancellation ∧
    (isMerchantOrderPaid after = true → isMerchantOrderPaid before = true ∨ verified) ∧
    (∀ mode requiresShipping buyerReplyable, ∀ action ∈
      getMerchantOrderActions (after.shown mode requiresShipping buyerReplyable),
        action.Releases → action ∈
          getMerchantOrderActions (before.shown mode requiresShipping buyerReplyable) ∨ verified) ∧
    (getMerchantConversationQueue longer C settlement = .shipped →
      getMerchantConversationQueue conversation C settlement = .shipped) ∧
    (getMerchantConversationQueue longer C settlement = .paid_fulfill →
      getMerchantConversationQueue conversation C settlement = .paid_fulfill ∨ verified ∨
        statesZeroCostPickup longer = true ∧ isMerchantOrderAccepted before = true) ∧
    (before.checkoutSparkRouted = true → ∀ all, conversation.messages ⊆ all →
      let routed := getMerchantConversationState { conversation with messages := all } C settlement
      routed.checkoutSparkRouted = true ∧
        (isMerchantOrderPaid routed = true ↔ CommerceVerified settlement)) := by
  intro longer before after verified
  have heff : effectiveStatus longer C = effectiveStatus conversation C :=
    effectiveStatus_inserts h ho
  have hs : ∀ q, q ≠ "paid".toList → q ≠ "pending".toList →
      (normalizeStatus after.status = q ↔ normalizeStatus before.status = q) := by
    intro q hpaid hpending
    rw [status_iff hpaid hpending, heff, status_iff hpaid hpending]
  have hship : after.shippingUpdated = before.shippingUpdated :=
    congrArg (·.any isShippingUpdate) h.fromMerchant.1
  have hsame : after.checkoutSparkRouted = false → ∃ observed reported,
      after = before.observing observed reported := state_inserts h ho
  refine ⟨heff, congrArg (·.cancellation) heff, fun hp => ?_, fun mode ship replyable a ha hr => ?_,
    fun hq => ?_, fun hq => ?_, fun hb all hall => ?_⟩
  · cases hr : after.checkoutSparkRouted with
    | true => exact .inr ⟨hr, (paid_of_routed hr).1 hp⟩
    | false =>
      obtain ⟨observed, reported, heq⟩ := hsame hr
      rw [heq] at hp
      exact .inl hp
  · have hp : isMerchantOrderPaid (after.shown mode ship replyable) = true :=
      paid_of_releases rfl ha hr
    cases hrou : after.checkoutSparkRouted with
    | true => exact .inr ⟨hrou, (paid_of_routed hrou).1 hp⟩
    | false =>
      obtain ⟨observed, reported, heq⟩ := hsame hrou
      rw [heq] at ha hp
      exact .inl (actions_of_paid (before.shown mode ship replyable) observed reported hp ▸ ha)
  · obtain ⟨hn, hq⟩ := queue_shipped.1 hq
    refine queue_shipped.2 ⟨fun ht => hn ?_, ?_⟩
    · exact (hs _ (by rintro heq; rw [heq] at ht; exact absurd ht (by decide))
        (by rintro heq; rw [heq] at ht; exact absurd ht (by decide))).2 rfl ▸ ht
    · exact hq.imp (fun hu => hship ▸ hu) (hs _ (by decide) (by decide)).1
  · cases hr : after.checkoutSparkRouted with
    | true => exact .inr (.inl ⟨hr, queue_routed hr hq⟩)
    | false =>
      obtain ⟨observed, reported, heq⟩ := hsame hr
      have hb : before.checkoutSparkRouted = false := by
        rw [heq] at hr
        exact hr
      change queueOf settlement after _ = _ at hq
      rw [heq] at hq
      exact (queue_observing hb hq).imp_right .inr
  · have hr := routed_of_subset hall hb
    exact ⟨hr, paid_of_routed hr⟩

/-- Event ids in the order of their characters. -/
def codePoints : IdCollation where
  le a b := decide (@LE.le (List Char) List.instLE a b)
  trans _ _ _ h h' := decide_eq_true (List.le_trans (of_decide_eq_true h) (of_decide_eq_true h'))
  total a b :=
    Bool.or_eq_true_iff.2 ((List.le_total a b).imp decide_eq_true decide_eq_true)
  antisymm _ _ h h' :=
    Subtype.ext (List.le_antisymm (of_decide_eq_true h) (of_decide_eq_true h'))

def sent (digit : Char) (h : IsHex64 (replicate 64 digit)) (payload : MessagePayload) :
    ParsedOrderMessage where
  id := ⟨replicate 64 digit, h⟩
  orderId := "order"
  createdAt := 1700000000000
  senderPubkey := "buyer"
  recipientPubkey := "merchant"
  payload := payload

def placed : MerchantConversationSummary where
  buyerPubkey := "buyer"
  merchantPubkey := "merchant"
  orderId := "order"
  status := none
  messages := [sent 'a' (by decide) (.order ⟨"order", "buyer", "merchant", [], 21000, none⟩ none)]

def forged : ParsedOrderMessage := sent 'b' (by decide) (.status_update ⟨"paid", none⟩)

theorem forged_releases_nothing : isMerchantOrderPaid
    (getMerchantConversationState { placed with messages := forged :: placed.messages } codePoints
      none) = false := by
  refine Bool.eq_false_iff.2 fun hp => ?_
  obtain ⟨-, -, h, -⟩ := messages_release_nothing placed codePoints none (forged :: placed.messages)
    (.add (by decide) (.keep .nil)) (by decide)
  rcases h hp with hpaid | ⟨-, _, hm, -⟩
  · exact absurd hpaid (by decide)
  · cases hm

end Conduit.OrderPhase
