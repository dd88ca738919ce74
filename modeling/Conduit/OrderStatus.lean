import Conduit.Js.Collation
import Mathlib.Data.List.Sort

namespace Conduit.OrderStatus

open Js List

inductive KnownOrderStatus where
  | pending | invoiced | paid | accepted | processing | shipped | complete | delivered | cancelled
  | refundRequested
  deriving DecidableEq

def KnownOrderStatus.text : KnownOrderStatus → Text
  | pending => "pending"
  | invoiced => "invoiced"
  | paid => "paid"
  | accepted => "accepted"
  | processing => "processing"
  | shipped => "shipped"
  | complete => "complete"
  | delivered => "delivered"
  | cancelled => "cancelled"
  | refundRequested => "refund_requested"

def knownOrderStatuses : List KnownOrderStatus :=
  [.pending, .invoiced, .paid, .accepted, .processing, .shipped, .complete, .delivered,
    .cancelled, .refundRequested]

/-- The status that `isKnownOrderStatus(value)` finds the text to be. -/
def knownOf (value : Text) : Option KnownOrderStatus :=
  knownOrderStatuses.find? fun known => known.text == value

def terminalActionStatuses : List Text := ["cancelled", "complete", "delivered", "refund_requested"]

/-- The id of a rumor, its hash in lower-case hex. -/
abbrev EventId := {id : Text // IsHex64 id}

/-- `localeCompare` on event ids. -/
structure IdCollation extends Collation where
  antisymm : ∀ a b : EventId, le a b = true → le b a = true → a = b

structure StatusUpdate where
  status : Text
  reopens : Option Text
  deriving DecidableEq

inductive OrderPayload where
  | order
  | statusUpdate (payload : StatusUpdate)
  | other
  deriving DecidableEq

structure ParsedOrderMessage where
  id : EventId
  createdAt : Int
  (senderPubkey recipientPubkey : Text)
  payload : OrderPayload

structure MerchantStatusMessage where
  id : EventId
  createdAt : Int
  payload : StatusUpdate
  deriving DecidableEq

structure MerchantOrderParticipants where
  (buyerPubkey merchantPubkey : Text)

abbrev OperationalStatus := {known : KnownOrderStatus // known.text ∉ terminalActionStatuses}

structure MerchantOrderCancellation where
  eventId : EventId
  resumeStatus : OperationalStatus

structure EffectiveMerchantOrderStatus where
  status : Option Text
  knownStatus : Option KnownOrderStatus
  cancellation : Option MerchantOrderCancellation := none
  reopenedCancellationId : Option EventId := none

variable (status : Option Text)

def normalizeStatus : Text := toLowerCase (status.getD "pending")

def IsTerminal : Prop := normalizeStatus status ∈ terminalActionStatuses
  deriving Decidable

def knownOrderStatus : Option KnownOrderStatus :=
  status.bind fun status => knownOf (normalizeStatus status)

def safeOperationalStatus : Option OperationalStatus :=
  (knownOrderStatus status).bind fun known =>
    if h : known.text ∉ terminalActionStatuses then some ⟨known, h⟩ else none

/-- The truth of `reopens`: a text that is there and not empty. -/
def StatusUpdate.Reopens (payload : StatusUpdate) : Prop := payload.reopens.getD [] ≠ []
  deriving Decidable

variable (message : MerchantStatusMessage)

def MerchantStatusMessage.IsCancelled : Prop :=
  normalizeStatus (some message.payload.status) = "cancelled"
  deriving Decidable

def hasMerchantOrder (messages : List ParsedOrderMessage)
    (participants : MerchantOrderParticipants) : Bool :=
  messages.any fun message =>
    message.payload = .order ∧ message.senderPubkey = participants.buyerPubkey ∧
      message.recipientPubkey = participants.merchantPubkey

variable (participants : MerchantOrderParticipants)

def merchantStatus (message : ParsedOrderMessage) : Option MerchantStatusMessage :=
  match message.payload with
  | .statusUpdate payload =>
    if message.senderPubkey = participants.merchantPubkey ∧
        message.recipientPubkey = participants.buyerPubkey then
      some ⟨message.id, message.createdAt, payload⟩
    else none
  | _ => none

/-- The values of the map `unique`. -/
def uniqueStatuses (messages : List ParsedOrderMessage) : List MerchantStatusMessage :=
  ((messages.filterMap (merchantStatus participants)).reverse.pwFilter (·.id ≠ ·.id)).reverse

variable (C : IdCollation)

def SortsBefore (left right : MerchantStatusMessage) : Prop :=
  left.createdAt < right.createdAt ∨
    left.createdAt = right.createdAt ∧ C.le left.id.1 right.id.1 = true
  deriving Decidable

def behind (ordered : List MerchantStatusMessage) : List MerchantStatusMessage :=
  (ordered.dropWhile (·.id ≠ message.id)).tail

variable (ordered : List MerchantStatusMessage)

def deferredBehind (message : MerchantStatusMessage) : Option Text :=
  message.payload.reopens.filter fun cancellationId =>
    cancellationId ≠ [] ∧ (safeOperationalStatus message.payload.status).isSome ∧
      ∃ m ∈ behind message ordered, m.id.1 = cancellationId ∧ m.IsCancelled

/-- What a message leaves at its place: itself and its entry of `deferredByCancellation`. -/
def block (deferral : MerchantStatusMessage → Option Text) (ordered : List MerchantStatusMessage)
    (message : MerchantStatusMessage) : List MerchantStatusMessage :=
  if (deferral message).isSome then []
  else message :: ordered.filter (deferral · = some message.id.1)

def projectDeferred : List MerchantStatusMessage :=
  if ∀ message ∈ ordered, deferredBehind ordered message = none then ordered
  else ordered.flatMap (block (deferredBehind ordered) ordered)

def orderedStatuses (participants : MerchantOrderParticipants)
    (messages : List ParsedOrderMessage) : List MerchantStatusMessage :=
  (uniqueStatuses participants messages).insertionSort (SortsBefore C)

variable (messages : List ParsedOrderMessage)

def merchantStatusMessages
    (participants : MerchantOrderParticipants) : List MerchantStatusMessage :=
  projectDeferred (orderedStatuses C participants messages)

def applyStatus (s : EffectiveMerchantOrderStatus) (message : MerchantStatusMessage) :
    EffectiveMerchantOrderStatus :=
  let payload := message.payload
  let nextStatus := normalizeStatus (some payload.status)
  match s.cancellation with
  | some cancellation =>
    match (if payload.reopens = some cancellation.eventId.1 then
        safeOperationalStatus payload.status else none) with
    | some correctedStatus =>
      { status := some correctedStatus.1.text, knownStatus := some correctedStatus.1,
        reopenedCancellationId := some cancellation.eventId }
    | none =>
      if ¬ payload.Reopens ∧ nextStatus = "cancelled" then
        { s with cancellation := some { cancellation with eventId := message.id } }
      else if ¬ payload.Reopens ∧ nextStatus ∈ terminalActionStatuses then
        { s with
          status := some nextStatus, knownStatus := knownOrderStatus (some nextStatus),
          cancellation := none }
      else s
  | none =>
    if payload.Reopens then s
    else if IsTerminal s.status ∧ nextStatus ∉ terminalActionStatuses then s
    else if nextStatus = "cancelled" then
      { status := some "cancelled", knownStatus := some .cancelled,
        cancellation := (safeOperationalStatus (s.knownStatus.map (·.text))).map
          fun resumeStatus => ⟨message.id, resumeStatus⟩ }
    else
      match knownOf nextStatus with
      | some known => { s with status := some nextStatus, knownStatus := some known }
      | none => { s with status := some payload.status }

def initialStatus (participants : MerchantOrderParticipants)
    (fallbackStatus : Option Text) : EffectiveMerchantOrderStatus :=
  let status := if hasMerchantOrder messages participants then some "pending".toList
    else fallbackStatus
  { status, knownStatus := knownOrderStatus status }

def getEffectiveMerchantOrderStatus
    (participants : MerchantOrderParticipants) (fallbackStatus : Option Text) :
    EffectiveMerchantOrderStatus :=
  let statuses := merchantStatusMessages C messages participants
  if statuses = [] then
    { status := fallbackStatus, knownStatus := knownOrderStatus fallbackStatus }
  else
    let s := statuses.foldl applyStatus (initialStatus messages participants fallbackStatus)
    { s with cancellation := s.cancellation.filter fun _ => s.status = some "cancelled".toList }

/-- The fields of a `MerchantOrderState` that a reopening reads. -/
structure MerchantOrderState where
  status : Option Text
  cancellation : Option MerchantOrderCancellation

structure MerchantOrderReopenTransition where
  tags : List (List Text)
  payload : StatusUpdate

def getMerchantOrderReopenTransition (state : MerchantOrderState) :
    Option MerchantOrderReopenTransition :=
  if normalizeStatus state.status = "cancelled" then
    state.cancellation.map fun cancellation =>
      { tags := [["status", cancellation.resumeStatus.1.text], ["reopens", cancellation.eventId.1]]
        payload := ⟨cancellation.resumeStatus.1.text, some cancellation.eventId.1⟩ }
  else none

section

variable {C : IdCollation} {D E : MerchantStatusMessage → Option Text}
  {l S T X Y : List MerchantStatusMessage} {m x y : MerchantStatusMessage}

lemma SortsBefore.id_eq (h : SortsBefore C x y) (h' : SortsBefore C y x) : x.id = y.id := by
  have := C.antisymm x.id y.id
  unfold SortsBefore at h h'
  grind

instance : Std.Total (SortsBefore C) where
  total a b := by
    have := Bool.or_eq_true_iff.1 (C.total a.id b.id)
    unfold SortsBefore
    grind

instance : IsTrans MerchantStatusMessage (SortsBefore C) where
  trans a b c hab hbc := by
    have := C.trans a.id b.id c.id
    unfold SortsBefore at *
    grind

structure Ordered (C : IdCollation) (l : List MerchantStatusMessage) : Prop where
  sorted : l.Pairwise (SortsBefore C)
  ids : (l.map (·.id)).Nodup

lemma Ordered.ext (hX : Ordered C X) (hY : Ordered C Y) (h : ∀ x, x ∈ X ↔ x ∈ Y) : X = Y := by
  refine Perm.eq_of_pairwise ?_ hX.sorted hY.sorted
    ((perm_ext_iff_of_nodup hX.ids.of_map hY.ids.of_map).2 h)
  intro a b ha hb hab hba
  exact inj_on_of_nodup_map hX.ids ha ((h b).2 hb) (hab.id_eq hba)

lemma mem_block : x ∈ block D l m ↔ D m = none ∧ (x = m ∨ x ∈ l ∧ D x = some m.id.1) := by
  cases hm : D m <;> simp [block, hm]

/-- Every message is deferred behind one that is there and not itself deferred. -/
def Anchored (D : MerchantStatusMessage → Option Text) (l : List MerchantStatusMessage) : Prop :=
  ∀ x ∈ l, ∀ id ∈ D x, ∃ y ∈ l, y.id.1 = id ∧ D y = none

lemma blocks_perm (h : Anchored D l) (hi : (l.map (·.id)).Nodup) :
    (l.flatMap (block D l)).Perm l := by
  have hnd : (l.flatMap (block D l)).Nodup := by
    refine nodup_flatMap.2 ⟨fun m _ => ?_, ?_⟩
    · unfold block
      split
      · exact nodup_nil
      · exact nodup_cons.2 ⟨by simp_all, hi.of_map.filter _⟩
    · refine (pairwise_map.1 hi).imp fun {a b} hab x hxa hxb => hab ?_
      have ha := mem_block.1 hxa
      have hb := mem_block.1 hxb
      grind
  refine (perm_ext_iff_of_nodup hnd hi.of_map).2 fun x => ?_
  simp only [mem_flatMap, mem_block]
  constructor
  · rintro ⟨m, hm, -, rfl | ⟨hx, -⟩⟩
    · exact hm
    · exact hx
  · intro hx
    cases hD : D x with
    | none => exact ⟨x, hx, hD, .inl rfl⟩
    | some id =>
      obtain ⟨y, hy, rfl, hDy⟩ := h x hx id hD
      exact ⟨y, hy, hDy, .inr ⟨hx, rfl⟩⟩

lemma blocks_congr (h : ∀ x ∈ l, D x = E x) : l.flatMap (block D l) = l.flatMap (block E l) := by
  refine flatMap_congr fun m hm => ?_
  unfold block
  rw [h m hm, filter_congr fun x hx => by rw [h x hx]]

lemma blocks_behind (hl : l = S ++ y :: T) (hD : D y = none)
    (hm : D m = none ∧ m ∈ T ∨ D m = some y.id.1 ∧ m ∈ l) :
    ∃ P Q, l.flatMap (block D l) = P ++ m :: Q ∧ y ∈ P := by
  have hy : block D l y = y :: l.filter (D · = some y.id.1) := by simp [block, hD]
  have hmem : m ∈ l.filter (D · = some y.id.1) ++ T.flatMap (block D l) := by
    rcases hm with ⟨hm, hT⟩ | ⟨hm, hml⟩
    · exact mem_append_right _ (mem_flatMap.2 ⟨m, hT, mem_block.2 ⟨hm, .inl rfl⟩⟩)
    · exact mem_append_left _ (mem_filter.2 ⟨hml, decide_eq_true hm⟩)
  obtain ⟨P, Q, hPQ⟩ := append_of_mem hmem
  refine ⟨S.flatMap (block D l) ++ y :: P, Q, ?_, by simp⟩
  have hs : ∀ f : MerchantStatusMessage → List MerchantStatusMessage,
      l.flatMap f = S.flatMap f ++ (f y ++ T.flatMap f) := by simp [hl]
  rw [hs, hy, cons_append, hPQ]
  simp

lemma blocks_filter (hm : ∀ x ∈ l, D x ≠ some m.id.1) : (l.flatMap (block D l)).filter (· ≠ m) =
      (l.filter (· ≠ m)).flatMap (block D (l.filter (· ≠ m))) := by
  have hb : ∀ a, (block D l a).filter (· ≠ m) =
      if a = m then [] else block D (l.filter (· ≠ m)) a := by
    intro a
    by_cases ha : a = m
    · subst ha
      have : l.filter (D · = some a.id.1) = [] := filter_eq_nil_iff.2 fun x hx => by simp [hm x hx]
      unfold block
      split <;> simp [this]
    · unfold block
      split <;> simp [ha, Bool.and_comm]
  rw [filter_flatMap]
  simp only [hb]
  generalize block D (l.filter (· ≠ m)) = f
  clear hm hb
  induction l with
  | nil => rfl
  | cons a l ih => by_cases ha : a = m <;> simp [ha, ih]

lemma Ordered.behind_eq (h : Ordered C (X ++ m :: Y)) : behind m (X ++ m :: Y) = Y := by
  have hX : ∀ x ∈ X, x.id ≠ m.id := by
    have := h.ids
    simp only [map_append, map_cons, nodup_append', nodup_cons, disjoint_cons_right] at this
    exact fun x hx hid => this.2.2.1 (hid ▸ mem_map_of_mem hx)
  unfold behind
  rw [dropWhile_append_of_pos fun x hx => decide_eq_true (hX x hx)]
  simp

lemma deferredBehind_eq_some {id : Text} : deferredBehind l m = some id ↔
    m.payload.reopens = some id ∧ id ≠ [] ∧ (safeOperationalStatus m.payload.status).isSome ∧
      ∃ y ∈ behind m l, y.id.1 = id ∧ y.IsCancelled := by
  simp [deferredBehind, Option.filter_eq_some_iff]

lemma knownOf_eq_some {value : Text} {known : KnownOrderStatus} (h : knownOf value = some known) :
    known.text = value := by
  have := find?_some h
  exact beq_iff_eq.1 this

lemma MerchantStatusMessage.IsCancelled.isTerminal (h : m.IsCancelled) :
    IsTerminal (some m.payload.status) := by
  unfold IsTerminal
  rw [h]
  decide

lemma not_safe_of_cancelled (h : m.IsCancelled) :
    safeOperationalStatus m.payload.status = none := by
  refine Option.bind_eq_none_iff.2 fun known hkn => dif_neg (not_not.2 ?_)
  have ht : known.text = normalizeStatus m.payload.status := knownOf_eq_some hkn
  exact ht ▸ h.isTerminal

lemma deferredBehind_of_cancelled (h : m.IsCancelled) : deferredBehind l m = none := by
  simp [deferredBehind, not_safe_of_cancelled h]

lemma anchored_deferredBehind : Anchored (deferredBehind l) l := by
  intro x _ id hid
  obtain ⟨-, -, -, y, hy, hyid, hc⟩ := deferredBehind_eq_some.1 hid
  exact ⟨y, (dropWhile_sublist _).subset (mem_of_mem_tail hy), hyid, deferredBehind_of_cancelled hc⟩

lemma deferredBehind_filter (hm : ¬ m.IsCancelled) (hx : x.id ≠ m.id) :
    deferredBehind (l.filter (· ≠ m)) x = deferredBehind l x := by
  unfold deferredBehind
  refine congrArg (Option.filter · x.payload.reopens) (funext fun id => decide_eq_decide.2 ?_)
  refine and_congr_right fun _ => and_congr_right fun _ => ?_
  unfold behind
  induction l with
  | nil => rfl
  | cons a l ih =>
    by_cases ha : a = m
    · simpa [ha, hx.symm] using ih
    · by_cases hax : a.id = x.id
      · have : ∀ y : MerchantStatusMessage, y.IsCancelled → y ≠ m := fun y hy h => hm (h ▸ hy)
        simp [ha, hax]
        grind
      · simpa [ha, hax] using ih

lemma projectDeferred_eq : projectDeferred l = l.flatMap (block (deferredBehind l) l) := by
  unfold projectDeferred
  split
  next hn =>
    rw [blocks_congr (E := fun _ => none) hn]
    unfold block
    simp
  · rfl

lemma Ordered.project_perm (h : Ordered C l) : (projectDeferred l).Perm l := by
  rw [projectDeferred_eq]
  exact blocks_perm anchored_deferredBehind h.ids

lemma Ordered.correction_behind (h : Ordered C l) (hml : m ∈ l) (hy : y ∈ l)
    (hc : y.IsCancelled) (hm : m.payload.reopens = some y.id.1)
    (hs : (safeOperationalStatus m.payload.status).isSome) :
    ∃ P Q, projectDeferred l = P ++ m :: Q ∧ y ∈ P := by
  rw [projectDeferred_eq]
  have hne : y.id.1 ≠ [] := by
    intro hnil
    have := y.id.2.1
    simp [hnil] at this
  obtain ⟨X, Y, rfl⟩ := append_of_mem hml
  have hD := deferredBehind_of_cancelled (l := X ++ m :: Y) hc
  have hmy : y ≠ m := by
    rintro rfl
    simp [not_safe_of_cancelled hc] at hs
  by_cases hyY : y ∈ Y
  · obtain ⟨S, T, hST⟩ := append_of_mem hy
    refine blocks_behind hST hD (.inr ⟨deferredBehind_eq_some.2 ⟨hm, hne, hs, y, ?_⟩, hml⟩)
    rw [h.behind_eq]
    exact ⟨hyY, rfl, hc⟩
  · obtain ⟨S, T, rfl⟩ := append_of_mem (show y ∈ X by grind)
    refine blocks_behind (S := S) (T := T ++ m :: Y) (by simp) hD (.inl ⟨?_, by simp⟩)
    by_contra hso
    obtain ⟨id, hid⟩ := Option.ne_none_iff_exists'.1 hso
    obtain ⟨hn, -, -, y', hy', hid', -⟩ := deferredBehind_eq_some.1 hid
    rw [h.behind_eq] at hy'
    have := inj_on_of_nodup_map h.ids (by simp [hy']) hy
      (Subtype.ext (hid'.trans (Option.some.inj (hn.symm.trans hm))))
    exact hyY (this ▸ hy')

lemma Ordered.project_filter (h : Ordered C l) (hml : m ∈ l) (hm : ¬ m.IsCancelled) {P Q}
    (hPQ : projectDeferred l = P ++ m :: Q) : projectDeferred (l.filter (· ≠ m)) = P ++ Q := by
  have hnd : (P ++ m :: Q).Nodup := hPQ ▸ h.project_perm.nodup_iff.2 h.ids.of_map
  have hr : ∀ x ∈ P ++ Q, decide (x ≠ m) = true := fun x hx => decide_eq_true fun hxm =>
    (nodup_cons.1 (nodup_middle.1 hnd)).1 (hxm ▸ hx)
  have hf : ∀ x ∈ l, deferredBehind l x ≠ some m.id.1 := by
    intro x _ hx
    obtain ⟨-, -, -, y, hy, hid, hc⟩ := deferredBehind_eq_some.1 hx
    have := inj_on_of_nodup_map h.ids ((dropWhile_sublist _).subset (mem_of_mem_tail hy)) hml
      (Subtype.ext hid)
    exact hm (this ▸ hc)
  rw [projectDeferred_eq, blocks_congr (E := deferredBehind l) fun x hx => ?_,
    ← blocks_filter hf, ← projectDeferred_eq, hPQ]
  · rw [← filter_eq_self.2 hr]
    simp
  · refine deferredBehind_filter hm fun hid => ?_
    have hx := mem_filter.1 hx
    simp [inj_on_of_nodup_map h.ids hx.1 hml hid] at hx

end

section

variable {C : IdCollation} {participants : MerchantOrderParticipants}
  {messages messages' : List ParsedOrderMessage}

def Identified (messages : List ParsedOrderMessage) : Prop :=
  ∀ a ∈ messages, ∀ b ∈ messages, a.id = b.id → a = b

structure OrderMessages where
  list : List ParsedOrderMessage
  identified : Identified list

variable {s : MerchantStatusMessage}

lemma merchantStatus_id {m : ParsedOrderMessage} (h : merchantStatus participants m = some s) :
    s.id = m.id := by
  unfold merchantStatus at h
  grind

lemma mem_uniqueStatuses (h : Identified messages) : s ∈ uniqueStatuses participants messages ↔
      ∃ m ∈ messages, merchantStatus participants m = some s := by
  unfold uniqueStatuses
  rw [mem_reverse, ← mem_filterMap]
  refine ⟨fun hs => mem_reverse.1 (pwFilter_subset _ hs), fun hs => ?_⟩
  by_contra hn
  refine (forall_mem_pwFilter (R := fun x y : MerchantStatusMessage => x.id ≠ y.id)
    (fun {x y z} hxz => ?_) s _).1 (fun b hb hid => hn ?_) s (mem_reverse.2 hs) rfl
  · by_contra hx
    simp only [not_or, not_not] at hx
    exact hxz (hx.1.trans hx.2)
  · obtain ⟨m, hm, hms⟩ := mem_filterMap.1 hs
    obtain ⟨m', hm', hmb⟩ := mem_filterMap.1 (mem_reverse.1 (pwFilter_subset _ hb))
    have := h m' hm' m hm (by rw [← merchantStatus_id hms, ← merchantStatus_id hmb, hid])
    rw [this, hms] at hmb
    exact Option.some.inj hmb ▸ hb

lemma ordered_orderedStatuses : Ordered C (orderedStatuses C participants messages) := by
  refine ⟨pairwise_insertionSort _ _, (((perm_insertionSort _ _).map _).nodup_iff).2 ?_⟩
  unfold uniqueStatuses
  rw [map_reverse, nodup_reverse]
  exact pairwise_map.2 (pairwise_pwFilter _)

lemma mem_orderedStatuses (h : Identified messages) : s ∈ orderedStatuses C participants messages ↔
      ∃ m ∈ messages, merchantStatus participants m = some s :=
  (mem_insertionSort _).trans (mem_uniqueStatuses h)

lemma merchantStatusMessages_perm :
    (merchantStatusMessages C messages participants).Perm (uniqueStatuses participants messages) :=
  ordered_orderedStatuses.project_perm.trans (perm_insertionSort _ _)

lemma getEffectiveMerchantOrderStatus_congr {fallbackStatus : Option Text}
    (h : Identified messages) (heq : ∀ m, m ∈ messages' ↔ m ∈ messages) :
    getEffectiveMerchantOrderStatus C messages' participants fallbackStatus =
      getEffectiveMerchantOrderStatus C messages participants fallbackStatus := by
  have h' : Identified messages' := fun a ha b hb => h a ((heq a).1 ha) b ((heq b).1 hb)
  have hord : orderedStatuses C participants messages' =
      orderedStatuses C participants messages := by
    refine ordered_orderedStatuses.ext ordered_orderedStatuses fun x => ?_
    simp only [mem_orderedStatuses h', mem_orderedStatuses h, heq]
  have ho : hasMerchantOrder messages' participants =
      hasMerchantOrder messages participants := by
    rw [Bool.eq_iff_iff, hasMerchantOrder, hasMerchantOrder, any_eq_true, any_eq_true]
    simp only [heq]
  unfold getEffectiveMerchantOrderStatus initialStatus merchantStatusMessages
  rw [hord, ho]

end

section

variable {s t : EffectiveMerchantOrderStatus} {x : MerchantStatusMessage} {e : EventId}
  {l : List MerchantStatusMessage}

lemma safeOperationalStatus_text (known : OperationalStatus) :
    safeOperationalStatus (some known.1.text) = some known ∧ ¬ IsTerminal (some known.1.text) := by
  obtain ⟨known, h⟩ := known
  revert h
  cases known <;> decide

def Corrects (s : EffectiveMerchantOrderStatus) (x : MerchantStatusMessage)
    (correctedStatus : OperationalStatus) : Prop :=
  (∃ cancellation ∈ s.cancellation, x.payload.reopens = some cancellation.eventId.1) ∧
    safeOperationalStatus x.payload.status = some correctedStatus

inductive Applied (s : EffectiveMerchantOrderStatus) (x : MerchantStatusMessage) :
    EffectiveMerchantOrderStatus → Prop
  | kept (h : x.payload.Reopens ∨ ¬ IsTerminal x.payload.status) : Applied s x s
  | corrected {c} {known} (hc : s.cancellation = some c) (h : Corrects s x known) :
    Applied s x ⟨some known.1.text, some known.1, none, some c.eventId⟩
  | superseded {c} (hc : s.cancellation = some c) (h : x.IsCancelled) :
    Applied s x { s with cancellation := some { c with eventId := x.id } }
  | ended {c} {known'} (hc : s.cancellation = some c) (hx : ¬ x.payload.Reopens)
      (h : IsTerminal x.payload.status) :
    Applied s x { s with
      status := some (normalizeStatus x.payload.status), knownStatus := known',
      cancellation := none }
  | cancelled (hc : s.cancellation = none) (hx : ¬ x.payload.Reopens) (h : x.IsCancelled) :
    Applied s x {
      status := some "cancelled", knownStatus := some .cancelled,
      cancellation := (safeOperationalStatus (s.knownStatus.map (·.text))).map
        fun resumeStatus => ⟨x.id, resumeStatus⟩ }
  | moved (hc : s.cancellation = none) (hx : ¬ x.payload.Reopens)
      (h : IsTerminal s.status → IsTerminal x.payload.status) {status known'}
      (hstatus : status = x.payload.status ∧ ¬ IsTerminal x.payload.status ∨
        status = normalizeStatus x.payload.status ∧ (IsTerminal (some status) ↔
          IsTerminal x.payload.status)) :
    Applied s x { s with status := some status, knownStatus := known' }

lemma applyStatus_applied : Applied s x (applyStatus s x) := by
  unfold applyStatus
  dsimp only
  split
  next cancellation hc =>
    split
    next corrected hcor =>
      split at hcor
      next hna => exact .corrected hc ⟨⟨_, hc, hna⟩, hcor⟩
      · cases hcor
    · split
      next hn => exact .superseded hc hn.2
      · split
        next hn => exact .ended hc hn.1 hn.2
        next hn =>
          exact .kept (or_iff_not_imp_left.2 fun hx ht => hn ⟨hx, ht⟩)
  next hc =>
    split
    next hx => exact .kept (.inl hx)
    next hx =>
      split
      next hk => exact .kept (.inr hk.2)
      next hn =>
        split
        next hcan => exact .cancelled hc hx hcan
        · have ht := fun h => by_contra fun hx => hn ⟨h, hx⟩
          split
          next known hkn =>
            refine .moved hc hx ht (.inr ⟨rfl, ?_⟩)
            unfold IsTerminal
            rw [← knownOf_eq_some hkn, show normalizeStatus (some known.text) = known.text by
              cases known <;> decide]
          next hu =>
            refine .moved hc hx ht (.inl ⟨rfl, fun h => ?_⟩)
            simp only [IsTerminal, terminalActionStatuses, mem_cons, not_mem_nil, or_false] at h
            rcases h with h | h | h | h <;> rw [h] at hu <;> cases hu

variable {c c' : MerchantOrderCancellation}

lemma Applied.leaves (ha : Applied s x t) (h : IsTerminal s.status) : t.status = s.status ∨
      (¬ x.payload.Reopens ∧ IsTerminal x.payload.status ∧
        t.status = some (normalizeStatus x.payload.status)) ∨
      ∃ corrected, Corrects s x corrected ∧ t.status = some corrected.1.text := by
  cases ha with
  | kept | superseded => exact .inl rfl
  | corrected _ hcor => exact .inr (.inr ⟨_, hcor, rfl⟩)
  | ended _ hx ht => exact .inr (.inl ⟨hx, ht, rfl⟩)
  | cancelled _ hx hc =>
    exact .inr (.inl ⟨hx, hc.isTerminal, congrArg some hc.symm⟩)
  | moved _ hx hm hst =>
    rcases hst with ⟨-, hact⟩ | ⟨rfl, -⟩
    · exact absurd (hm h) hact
    · exact .inr (.inl ⟨hx, hm h, rfl⟩)

lemma Applied.eventId (ha : Applied s x t) (h : t.cancellation = some c) :
    x.id = c.eventId ∧ x.IsCancelled ∨ ∃ c' ∈ s.cancellation, c'.eventId = c.eventId := by
  cases ha with
  | superseded _ hc => exact .inl ⟨by cases h; rfl, hc⟩
  | cancelled _ _ hc =>
    obtain ⟨resume, -, rfl⟩ := Option.map_eq_some_iff.1 h
    exact .inl ⟨rfl, hc⟩
  | corrected | ended => cases h
  | _ => exact .inr ⟨c, h, rfl⟩

lemma foldl_eventId (h : (l.foldl applyStatus s).cancellation = some c) :
    (∃ y ∈ l, y.id = c.eventId ∧ y.IsCancelled) ∨
      ∃ c' ∈ s.cancellation, c'.eventId = c.eventId := by
  induction l generalizing s with
  | nil => exact .inr ⟨c, h, rfl⟩
  | cons x l ih =>
    rcases ih h with ⟨y, hy, hid⟩ | ⟨c', hc', hid⟩
    · exact .inl ⟨y, .tail x hy, hid⟩
    · rcases applyStatus_applied.eventId hc' with hx | ⟨c'', hc'', hid'⟩
      · exact .inl ⟨x, .head l, hid ▸ hx⟩
      · exact .inr ⟨c'', hc'', hid'.trans hid⟩

structure Reopened (e : EventId) (s : EffectiveMerchantOrderStatus) : Prop where
  cancellation : s.cancellation = none
  active : ¬ IsTerminal s.status
  reopened : s.reopenedCancellationId = some e

lemma Applied.quiet (ha : Applied s x t) (hc : s.cancellation = some c)
    (hc' : t.cancellation = some c') (hid : x.id ≠ c'.eventId) :
    x.payload.Reopens ∨ ¬ IsTerminal x.payload.status := by
  cases ha with
  | kept hk => exact hk
  | superseded => exact absurd (by cases hc'; rfl) hid
  | corrected | ended => cases hc'
  | cancelled hn | moved hn => cases hn.symm.trans hc

lemma Reopened.step (h : Reopened e s) (ha : Applied s x t)
    (hq : x.payload.Reopens ∨ ¬ IsTerminal x.payload.status) : Reopened e t := by
  cases ha with
  | kept => exact h
  | corrected hc | superseded hc | ended hc => cases h.cancellation.symm.trans hc
  | cancelled _ hx hcan => exact absurd hcan.isTerminal (hq.resolve_left hx)
  | moved _ hx _ hst =>
    refine ⟨h.cancellation, ?_, h.reopened⟩
    rcases hst with ⟨rfl, hact⟩ | ⟨rfl, hi⟩
    · exact hact
    · exact hi.not.2 (hq.resolve_left hx)

lemma Reopened.run (h : Reopened c.eventId t) (hi : ∀ x ∈ l, x.id ≠ c.eventId)
    (hs : (l.foldl applyStatus s).cancellation = some c) :
    Reopened c.eventId (l.foldl applyStatus t) := by
  induction l generalizing s t with
  | nil => exact h
  | cons x l ih =>
    have hr : ∀ y ∈ l, y.id ≠ c.eventId := fun y hy => hi y (.tail x hy)
    have hx := hi x (.head l)
    obtain ⟨c', hc', hid⟩ := (foldl_eventId (l := l) (s := applyStatus s x) hs).resolve_left
      fun ⟨y, hy, hid, _⟩ => hr y hy hid
    obtain ⟨c'', hc'', -⟩ := (applyStatus_applied.eventId hc').resolve_left
      fun h => hx (h.1.trans hid)
    exact ih (h.step applyStatus_applied (applyStatus_applied.quiet hc'' hc' (hid ▸ hx))) hr hs

lemma applyStatus_correction {known : OperationalStatus} (hc : s.cancellation = some c)
    (hx : x.payload = ⟨known.1.text, some c.eventId.1⟩) : Reopened c.eventId (applyStatus s x) := by
  have : applyStatus s x = ⟨some known.1.text, some known.1, none, some c.eventId⟩ := by
    simp [applyStatus, hc, hx, safeOperationalStatus_text]
  rw [this]
  exact ⟨rfl, (safeOperationalStatus_text known).2, rfl⟩

end

section

variable {C : IdCollation} {participants : MerchantOrderParticipants}
  {messages messages' : List ParsedOrderMessage} {fallbackStatus : Option Text}
  {c : MerchantOrderCancellation}

def reopening (participants : MerchantOrderParticipants) (id : EventId) (createdAt : Int)
    (transition : MerchantOrderReopenTransition) : ParsedOrderMessage :=
  ⟨id, createdAt, participants.merchantPubkey, participants.buyerPubkey,
    .statusUpdate transition.payload⟩

lemma offers_cancellation (h : c ∈ (getEffectiveMerchantOrderStatus C messages participants
      fallbackStatus).cancellation) :
    ((merchantStatusMessages C messages participants).foldl applyStatus
      (initialStatus messages participants fallbackStatus)).cancellation = some c ∧
    (getEffectiveMerchantOrderStatus C messages participants fallbackStatus).status =
      some "cancelled".toList := by
  unfold getEffectiveMerchantOrderStatus at *
  dsimp only at *
  split
  next hn => simp [hn] at h
  next hs =>
    rw [if_neg hs] at h
    have := Option.filter_eq_some_iff.1 h
    exact ⟨this.1, of_decide_eq_true this.2⟩

lemma reopening_reopens {id : EventId} {createdAt : Int}
    {transition : MerchantOrderReopenTransition}
    (hi : Identified (reopening participants id createdAt transition :: messages))
    (hoff : c ∈ (getEffectiveMerchantOrderStatus C messages participants
      fallbackStatus).cancellation)
    (ht : transition.payload = ⟨c.resumeStatus.1.text, some c.eventId.1⟩) :
    Reopened c.eventId (getEffectiveMerchantOrderStatus C
      (reopening participants id createdAt transition :: messages) participants
      fallbackStatus) := by
  have hr := (offers_cancellation hoff).1
  have hi₀ : Identified messages := fun a ha b hb => hi a (.tail _ ha) b (.tail _ hb)
  have hs := (safeOperationalStatus_text c.resumeStatus).1
  -- the message of the reopening and the messages in order, with it and without it
  let m : MerchantStatusMessage := ⟨id, createdAt, transition.payload⟩
  set l := orderedStatuses C participants
    (reopening participants id createdAt transition :: messages) with hl
  have ho : Ordered C l := ordered_orderedStatuses
  have hmc : ¬ m.IsCancelled := by
    intro hcan
    have := not_safe_of_cancelled hcan
    simp [m, ht, hs] at this
  have hmem : ∀ x, x ∈ l ↔ x = m ∨ x ∈ orderedStatuses C participants messages := by
    intro x
    rw [hl, mem_orderedStatuses hi, mem_orderedStatuses hi₀]
    simp [merchantStatus, reopening, m, eq_comm]
  have hml : m ∈ l := (hmem m).2 (.inl rfl)
  obtain ⟨y, hy, hyid, hcan⟩ := (foldl_eventId hr).resolve_right (by rintro ⟨_, ⟨⟩, -⟩)
  have hyl : y ∈ l := (hmem y).2 (.inr (ordered_orderedStatuses.project_perm.mem_iff.1 hy))
  obtain ⟨P, Q, hPQ, hyP⟩ := ho.correction_behind hml hyl hcan
    (by rw [hyid]; exact congrArg StatusUpdate.reopens ht)
    (by simp [m, ht, hs])
  have hi' : ∀ x ∈ m :: Q, x.id ≠ c.eventId := by
    have hnd : ((P ++ m :: Q).map (·.id)).Nodup :=
      hPQ ▸ (ho.project_perm.map _).nodup_iff.2 ho.ids
    rw [map_append, nodup_append'] at hnd
    intro x hx hid
    exact hnd.2.2 (mem_map_of_mem hyP) (hyid ▸ hid ▸ mem_map_of_mem hx)
  have hQ : ∀ x ∈ Q, x.id ≠ c.eventId := fun x hx => hi' x (.tail m hx)
  have hcor : ∀ {s : EffectiveMerchantOrderStatus} {c' : MerchantOrderCancellation},
      s.cancellation = some c' → c'.eventId = c.eventId → Reopened c.eventId (applyStatus s m) := by
    intro s c' hc' hid
    exact hid ▸ applyStatus_correction hc' (by rw [hid]; exact ht)
  have hre : Reopened c.eventId ((P ++ m :: Q).foldl applyStatus
      (initialStatus messages participants fallbackStatus)) := by
    rw [foldl_append, foldl_cons]
    unfold merchantStatusMessages at hr
    by_cases hm : m ∈ orderedStatuses C participants messages
    · -- were the correction there before, the cancellation would not be offered
      rw [ordered_orderedStatuses.ext ho fun x => by grind, hPQ, foldl_append, foldl_cons]
        at hr
      obtain ⟨c₁, hc₁, hid₁⟩ := (foldl_eventId hr).resolve_left
        fun ⟨x, hx, hid, _⟩ => hQ x hx hid
      obtain ⟨c₂, hc₂, hid₂⟩ := (applyStatus_applied.eventId hc₁).resolve_left fun h => hmc h.2
      cases hc₁.symm.trans (hcor hc₂ (hid₂.trans hid₁)).cancellation
    · have hw : Ordered C (l.filter (· ≠ m)) :=
        ⟨ho.sorted.filter _, (filter_sublist.map _).nodup ho.ids⟩
      rw [ordered_orderedStatuses.ext hw fun x => by grind,
        ho.project_filter hml hmc hPQ, foldl_append] at hr
      obtain ⟨c', hc', hid⟩ := (foldl_eventId hr).resolve_left fun ⟨x, hx, hid, _⟩ => hQ x hx hid
      exact (hcor hc' hid).run hQ hr
  have hin : initialStatus (reopening participants id createdAt transition :: messages)
      participants fallbackStatus = initialStatus messages participants fallbackStatus := by
    simp [initialStatus, hasMerchantOrder, reopening]
  unfold getEffectiveMerchantOrderStatus merchantStatusMessages
  rw [← hl, hPQ, hin]
  dsimp only
  rw [if_neg (by simp)]
  exact ⟨by rw [hre.cancellation]; rfl, hre.active, hre.reopened⟩

end

end Conduit.OrderStatus
