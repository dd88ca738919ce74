import Conduit.ProductStock.Steps
import Conduit.Runs

namespace Conduit.ProductStock

open Js Stock Throwing Unreliable Runs List Prod

inductive StockCall where
  | checkpoint (input : CheckpointInput)
  | confirm (input : ConfirmInput)
  | settle (input : SettleInput)

def StockCall.after (P : StockPlatform) (c : StockCall) (faults : List Fault) (s : StockStorage) :
    StockStorage :=
  match c with
  | .checkpoint input => (checkpointSignedOrderStockDelivery P input faults s).2.1
  | .confirm input => (confirmExactPendingStockDelivery P input faults s).2.1
  | .settle input => (settleSignedOrderStockDelivery P input faults s).2.1

def StockStep (P : StockPlatform) (c : StockCall × List Fault) (s t : StockStorage) : Prop :=
  t = c.1.after P c.2 s

/-- A call that republishes an unpublished decision does so with another event. -/
def StockCall.Renews : StockCall → Prop
  | .checkpoint input => input.Renews
  | _ => True

def emptyStorage : StockStorage := ⟨none, none⟩

section
variable {P : StockPlatform} {fenced : Prop} {s t u : StockStorage}

/-- What a call keeps: the journals stay well formed and an applied decision stays. -/
structure Kept (P : StockPlatform) (fenced : Prop) (s t : StockStorage) : Prop where
  ok : StorageOk P fenced t
  applied : ∀ k d, entryAt k s.decided = some d → d.kind = .applied → entryAt k t.decided = some d

lemma Kept.refl (hs : StorageOk P fenced s) : Kept P fenced s s := ⟨hs, fun _ _ h _ => h⟩

lemma Kept.trans (h₁ : Kept P fenced s t) (h₂ : Kept P fenced t u) : Kept P fenced s u :=
  ⟨h₂.ok, fun k d hd ha => h₂.applied k d (h₁.applied k d hd ha) ha⟩

lemma Within.kept (h : Within s t) (hs : StorageOk P fenced s) : Kept P fenced s t :=
  ⟨h.ok hs, fun _ _ hd _ => h.decided ▸ hd⟩

lemma eraseDups_of_nodup {l : List Text} (h : l.Nodup) : l.eraseDups = l := by
  induction l with
  | nil => rfl
  | cons a l ih =>
    rw [nodup_cons] at h
    have hf : (l.filter fun b => !b == a) = l := by
      rw [filter_eq_self]
      intro b hb
      have hne : b ≠ a := fun heq => h.1 (heq ▸ hb)
      simpa using hne
    rw [eraseDups_cons, hf, ih h.2]

variable {p : PendingProductStockDelivery} {input : CheckpointInput}

section

variable (hs : StorageOk P fenced s)
include hs

lemma checkpoint_checks {decision : Option ProductStockDecision} (hkey : input.adjustment.key =
      getOrderStockDecisionKey input.orderId input.adjustment.addressId) (hde : decision =
      entryAt (getOrderStockDecisionKey input.orderId input.adjustment.addressId) s.decided)
    (hexp : Expected decision input.expectedUnpublishedEventId)
    (hf : ¬ ∃ cand ∈ s.decided.map snd, cand.kind ≠ .declined ∧
      ∃ a ∈ cand.adjustment, a.key ≠ input.adjustment.key ∧
        a.addressId = input.adjustment.addressId ∧
        a.sourceEventId = input.adjustment.sourceEventId)
    (hr : ¬ maxStoredStockDecisions < (s.decided.map snd).length +
      ((withoutDecision s.decided s.pending).map fst).eraseDups.length +
      if decision ≠ none ∨ input.adjustment.key ∈
        (withoutDecision s.decided s.pending).map fst then 0 else 1)
    (hw : ∀ e ∈ s.pending, e.2.adjustment.addressId = input.adjustment.addressId →
      GivesWay s.decided input e) : CheckpointChecked s.decided s.pending input := by
  subst hde
  rw [← hkey] at hexp hr
  refine ⟨?_, ?_, ?_, hw⟩
  · cases hid : input.expectedUnpublishedEventId with
    | none =>
      rw [hid] at hexp
      exact hexp
    | some eventId =>
      rw [hid] at hexp
      obtain ⟨d, hd, -, hl⟩ := hexp
      exact ⟨d, hd, hl⟩
  · intro e he hk a ha heq
    by_contra hne
    exact hf ⟨e.2, mem_map_of_mem he, hk, a, ha, hne, heq⟩
  · have hdu : ((withoutDecision s.decided s.pending).map fst).eraseDups =
        (withoutDecision s.decided s.pending).map fst :=
      eraseDups_of_nodup (nodup_withoutDecision hs.deliveryKeys)
    rw [hdu, length_map, length_map] at hr
    exact not_lt.1 hr

lemma setDelivery_spec (hr : fenced → input.Renews) (hc : input.adjustment.key =
      getOrderStockDecisionKey input.orderId input.adjustment.addressId →
        CheckpointChecked s.decided s.pending input) (ht : Within s t) :
    Triple (· = t) (PendingProductStockDeliveryStore.set P input.now input.orderId
      input.adjustment input.signedEvent) (fun _ => Kept P fenced s) (Kept P fenced s) := by
  unfold PendingProductStockDeliveryStore.set
  split
  · refine .throw ?_
    rintro u rfl
    exact ht.kept hs
  · rename_i pending hp
    obtain ⟨hf, -, rfl⟩ := parsePending_eq_some.1 hp
    have hk := hf.key
    simp only [getOrderStockDecisionKey_trim_left] at hk
    simp only [trim_idem, getOrderStockDecisionKey_trim_left, ← hk]
    have hsto : StoredDelivery P (input.adjustment.key,
        ⟨trim input.orderId, input.adjustment, input.signedEvent, input.now⟩) :=
      ⟨hf, rfl, trim_idem _⟩
    have hsa : ∀ u, DeliverySaved t input.adjustment.key
        ⟨trim input.orderId, input.adjustment, input.signedEvent, input.now⟩ u → StorageOk P fenced u := by
      rintro u ⟨hdec, hp⟩
      have hde : u.decided = s.decided :=
        (congrArg (Option.getD · []) hdec).trans ht.decided
      unfold StorageOk
      rw [hde]
      exact (hs.checkpoint ht.2 (hc hk) hr hsto rfl rfl).subperm hp
    have hpo : ∀ u, u = t ∨ DeliverySaved t input.adjustment.key
        ⟨trim input.orderId, input.adjustment, input.signedEvent, input.now⟩ u → Kept P fenced s u := by
      rintro u (rfl | hu)
      · exact ht.kept hs
      · refine ⟨hsa u hu, fun k d hd _ => ?_⟩
        rw [← hd]
        exact congrArg (entryAt k) ((congrArg (Option.getD · []) hu.1).trans ht.decided)
    exact .orElse ((saveDelivery_spec (ht.ok hs) hsa).weaken (fun _ h => h)
      (fun _ u hu => hpo u hu) fun u hu => hpo u hu) fun _ h => h

lemma checkpoint_kept (hren : fenced → input.Renews) :
    Triple (· = s) (checkpointSignedOrderStockDelivery P input) (fun _ => Kept P fenced s) (Kept P fenced s) := by
  have hr : ∀ t, t = s → Kept P fenced s t := by
    rintro t rfl
    exact .refl hs
  refine .bind (q := fun _ t => t = s) (.rejectIf (fun _ _ h => h) hr) fun _ => ?_
  refine .bind ((getPersisted_spec hs _ _).weaken (fun _ h => h) (fun _ _ h => h) hr)
    fun decision => ?_
  apply triple_of_forall
  rintro s' ⟨rfl, hd⟩
  refine .bind (q := fun _ t => t = s' ∧ Expected decision input.expectedUnpublishedEventId)
    (.rejectIf (fun hne t ht => ⟨ht, not_not.1 hne⟩) hr) fun _ => ?_
  apply triple_of_forall
  rintro s ⟨rfl, hexp⟩
  refine .bind ((getPersistedForMerchant_spec hs).weaken (fun _ h => h) (fun _ _ h => h) hr)
    fun decisions => ?_
  refine .bind (q := fun _ t => t = s ∧ decisions = s.decided.map snd ∧ ¬ _)
    (.rejectIf (fun hf t ht => ⟨ht.1, ht.2, hf⟩) fun t ht => hr t ht.1) fun _ => ?_
  apply triple_of_forall
  rintro t ⟨rfl, rfl, hf⟩
  refine .bind ((pendingForMerchant_spec hs).weaken (fun _ h => h) (fun _ _ h => h) hr)
    fun allPending => ?_
  apply triple_of_forall
  rintro t' ⟨rfl, rfl⟩
  refine .bind ((undecidedPendingKeys_spec hs t'.pending hs.delivery).weaken (fun _ h => h)
    (fun _ _ h => h) hr) fun undecided => ?_
  apply triple_of_forall
  rintro t ⟨rfl, rfl⟩
  refine .bind (q := fun _ u => u = t ∧ ¬ _)
    (.rejectIf (fun hro u hu => ⟨hu, hro⟩) hr) fun _ => ?_
  apply triple_of_forall
  rintro t' ⟨rfl, hro⟩
  have hfil : (t'.pending.map snd).filter (fun pending =>
      decide (pending.adjustment.addressId = input.adjustment.addressId)) =
      (t'.pending.filter fun e => decide
        (e.2.adjustment.addressId = input.adjustment.addressId)).map snd := by
    rw [filter_map]
    rfl
  rw [hfil]
  refine .bind ((retirePending_spec hs input _ fun e he =>
    hs.delivery e (mem_filter.1 he).1).weaken ?_ (fun _ _ h => h) fun u hu => hu.kept hs)
    fun _ => ?_
  · rintro u rfl
    exact .refl u
  · apply triple_of_forall
    rintro u ⟨hu, hw⟩
    refine .bind (setDelivery_spec hs hren (fun hk => checkpoint_checks hs hk hd
      hexp hf hro ?_) hu) fun saved => .rejectIf (fun _ _ h => h) fun _ h => h
    intro e he ha
    exact hw e (mem_filter.2 ⟨he, decide_eq_true ha⟩)

lemma pending_of_exact {adjustment : OrderStockAdjustment} {id : Text}
    (h : ExactPending (lookup (·.adjustment.key) adjustment.key (s.pending.map snd))
      adjustment id) : ∃ p, (adjustment.key, p) ∈ s.pending ∧ p.signedEvent.id = id ∧
        p.adjustment = adjustment := by
  obtain ⟨p, hlk, hid, ha⟩ := h
  obtain ⟨hm, hk⟩ := mem_of_lookup hlk
  obtain ⟨e, he, rfl⟩ := mem_map.1 hm
  refine ⟨e.2, ?_, hid, ha⟩
  rw [← hk, ← (hs.delivery e he).key]
  exact he

end

lemma storedDecision_of_delivery (hp : DeliveryFacts P p)
    (ha : p.adjustment.addressId = trim p.adjustment.addressId) (kind : SettleKind)
    (now : Int) (hid : kind = .unpublished → IsHex64 p.signedEvent.id) :
    StoredDecision (p.adjustment.key, ⟨kind.decision, now, some p.adjustment,
      if kind = .unpublished then some p.signedEvent.id else none⟩) where
  parsed := by
    have hne : trim p.adjustment.addressId ≠ [] := by
      rw [← ha]
      intro hn
      have hsig := hp.signedAddress
      simp only [getSignedProductAddressId] at hsig
      split_ifs at hsig
      obtain ⟨tag, -, ht⟩ := Option.map_eq_some_iff.1 hsig
      rw [hn] at ht
      simp at ht
    have hpr : getDecisionProductAddressId p.adjustment.key =
        some p.adjustment.addressId := by
      rw [hp.key, getDecisionProductAddressId_key hp.orderId hne, ← ha]
    cases kind with
    | applied => simp [parseDecision, hp.adjustment, hpr, SettleKind.decision, guard]
    | unpublished =>
      simp [parseDecision, hp.adjustment, hpr, SettleKind.decision, guard, hid rfl]
  kind := by cases kind <;> simp [SettleKind.decision]
  adjusted := ⟨_, rfl⟩

lemma DecisionSaved.kept (hs : StorageOk P fenced s) (hp : (p.adjustment.key, p) ∈ s.pending)
    (ho : ∀ d, entryAt p.adjustment.key s.decided = some d →
      d.kind ≠ .applied ∧ d.kind ≠ .declined) {d : ProductStockDecision}
    (hd : StoredDecision (p.adjustment.key, d)) (ha : d.adjustment = some p.adjustment)
    (hn : d.kind = .unpublished → d.localEventId = some p.signedEvent.id)
    (h : DecisionSaved s p.adjustment.key d t) : Kept P fenced s t := by
  have hpe : t.pending = s.pending := congrArg (Option.getD · []) h.deliveries
  refine ⟨?_, ?_⟩
  · unfold StorageOk
    rw [hpe]
    exact (hs.settle hp ho hd ha hn).perm h.decided
  · intro k d' hd' happ
    rw [entryAt_perm (nodup_mapSet hs.decisionKeys) h.decided, entryAt_mapSet, if_neg]
    · exact hd'
    · rintro rfl
      exact (ho d' hd').1 happ

def SettleInput.decision (input : SettleInput) : ProductStockDecision where
  kind := input.kind.decision
  decidedAt := input.now
  adjustment := some input.adjustment
  localEventId := if input.kind.decision = .unpublished then
    (if input.kind = .unpublished then some input.signedEventId else none) else none

variable {input : SettleInput}

section

variable (hs : StorageOk P fenced s)
include hs

lemma settled_saved (hp : (input.adjustment.key, p) ∈ s.pending)
    (hid : p.signedEvent.id = input.signedEventId) (ha : p.adjustment = input.adjustment)
    (ho : ∀ d, entryAt (getOrderStockDecisionKey input.orderId input.adjustment.addressId)
      s.decided = some d → d.kind ≠ .applied ∧ d.kind ≠ .declined) (hk : ¬ (input.adjustment.key ≠
        getOrderStockDecisionKey input.orderId (trim input.adjustment.addressId) ∨
      input.adjustment.addressId ≠ trim input.adjustment.addressId))
    (hh : ¬ (input.kind.decision = .unpublished ∧ ¬ ∃ id ∈
      (if input.kind = .unpublished then some input.signedEventId else none), IsHex64 id)) :
    ∀ v, DecisionSaved s
      (getOrderStockDecisionKey input.orderId (trim input.adjustment.addressId))
      input.decision v → Kept P fenced s v := by
  simp only [getOrderStockDecisionKey_trim_right, not_or, not_not] at hk hh ⊢
  rw [← hk.1] at ho ⊢
  have hl : input.decision = ⟨input.kind.decision, input.now, some p.adjustment,
      if input.kind = .unpublished then some p.signedEvent.id else none⟩ := by
    rw [hid, ha, SettleInput.decision]
    cases input.kind <;> rfl
  rw [hl]
  rw [← ha] at hp ho hk ⊢
  have hsto := storedDecision_of_delivery (hs.delivery _ hp).facts hk.2 input.kind
    input.now (by
      intro hu
      rw [hu] at hh
      simp only [SettleKind.decision, if_true, true_and, not_exists, not_and, not_forall,
        not_not] at hh
      obtain ⟨id, hm, hh⟩ := hh
      rw [hid]
      exact Option.some_inj.1 hm ▸ hh)
  intro v hv
  refine hv.kept hs hp ho hsto rfl ?_
  cases input.kind with
  | applied => exact fun h => by cases h
  | unpublished => exact fun _ => rfl

lemma setDecision_kept (hp : (input.adjustment.key, p) ∈ s.pending)
    (hid : p.signedEvent.id = input.signedEventId) (ha : p.adjustment = input.adjustment)
    (ho : ∀ d, entryAt (getOrderStockDecisionKey input.orderId input.adjustment.addressId)
      s.decided = some d → d.kind ≠ .applied ∧ d.kind ≠ .declined) :
    Triple (· = s) (ProductStockDecisionStore.set input.now input.orderId
      input.adjustment.addressId input.kind.decision input.adjustment
      (if input.kind = .unpublished then some input.signedEventId else none))
      (fun _ => Kept P fenced s) (Kept P fenced s) := by
  have hr : ∀ t, t = s → Kept P fenced s t := by
    rintro t rfl
    exact .refl hs
  refine .bind (q := fun _ t => t = s ∧ ¬ _)
    (.rejectIf (fun hk t ht => ⟨ht, hk⟩) hr) fun _ => ?_
  apply triple_of_forall
  rintro t ⟨rfl, hk⟩
  refine .bind (q := fun _ u => u = t ∧ ¬ _)
    (.rejectIf (fun hh u hu => ⟨hu, hh⟩) hr) fun _ => ?_
  apply triple_of_forall
  rintro u ⟨rfl, hh⟩
  have hsa := settled_saved hs hp hid ha ho hk hh
  have hpo : ∀ v, v = u ∨ DecisionSaved u
      (getOrderStockDecisionKey input.orderId (trim input.adjustment.addressId))
      input.decision v → Kept P fenced u v := by
    rintro v (rfl | hv)
    · exact .refl hs
    · exact hsa v hv
  exact .orElse ((saveDecision_spec hs fun v hv => (hsa v hv).ok).weaken (fun _ h => h)
    (fun _ v hv => hpo v hv) fun v hv => hpo v hv) fun _ h => h

lemma settle_kept (input : SettleInput) :
    Triple (· = s) (settleSignedOrderStockDelivery P input) (fun _ => Kept P fenced s) (Kept P fenced s) := by
  have hr : ∀ t, t = s → Kept P fenced s t := by
    rintro t rfl
    exact .refl hs
  refine .bind ((pendingForMerchant_spec hs).weaken (fun _ h => h) (fun _ _ h => h) hr)
    fun allPending => ?_
  apply triple_of_forall
  rintro s ⟨rfl, rfl⟩
  by_cases he : ExactPending (lookup (·.adjustment.key) input.adjustment.key
      (s.pending.map snd)) input.adjustment input.signedEventId
  · simp only [he, not_true_eq_false, if_false]
    obtain ⟨p, hp, hid, ha⟩ := pending_of_exact hs he
    refine .bind ((getPersisted_spec hs _ _).weaken (fun _ h => h) (fun _ _ h => h) hr)
      fun decision => ?_
    apply triple_of_forall
    rintro s' ⟨rfl, rfl⟩
    by_cases hf : ∃ d ∈ entryAt (getOrderStockDecisionKey input.orderId
        input.adjustment.addressId) s'.decided, d.kind = .applied ∨ d.kind = .declined
    · rw [if_pos hf]
      exact .pure hr
    · rw [if_neg hf]
      refine .bind (setDecision_kept hs hp hid ha ?_) fun decided => ?_
      · intro d hd
        exact ⟨fun h => hf ⟨d, hd, .inl h⟩, fun h => hf ⟨d, hd, .inr h⟩⟩
      · apply triple_of_forall
        intro t ht
        split_ifs with hretry
        · refine .pure ?_
          rintro u rfl
          exact ht
        · exact .bind ((delete_spec ht.ok _ _).weaken (fun _ h => h)
            (fun _ u hu => ht.trans (hu.kept ht.ok)) fun u hu => ht.trans (hu.kept ht.ok))
            fun _ => .pure fun _ h => h
  · simp only [he, not_false_eq_true, if_true]
    exact .pure hr

lemma confirm_kept (input : ConfirmInput) :
    Triple (· = s) (confirmExactPendingStockDelivery P input) (fun _ => Kept P fenced s) (Kept P fenced s) := by
  have hr : ∀ t, t = s → Kept P fenced s t := by
    rintro t rfl
    exact .refl hs
  refine .bind ((pendingForMerchant_spec hs).weaken (fun _ h => h) (fun _ _ h => h) hr)
    fun allPending => ?_
  apply triple_of_forall
  rintro s ⟨rfl, rfl⟩
  refine .bind ((getPersisted_spec hs _ _).weaken (fun _ h => h) (fun _ _ h => h) hr)
    fun decision => .rejectIf (fun _ t ht => hr t ht.1) fun t ht => hr t ht.1

lemma step_kept {c : StockCall × List Fault} (hc : fenced → c.1.Renews) (h : StockStep P c s t) :
    Kept P fenced s t := by
  obtain ⟨call, faults⟩ := c
  subst h
  cases call with
  | checkpoint input => exact (checkpoint_kept hs hc).final faults rfl
  | confirm input => exact (confirm_kept hs input).final faults rfl
  | settle input => exact (settle_kept hs input).final faults rfl

end

lemma run_kept {l : List (StockCall × List Fault)} (h : Run (StockStep P) s l t)
    (hl : ∀ c ∈ l, fenced → c.1.Renews) (hs : StorageOk P fenced s) : Kept P fenced s t := by
  induction h with
  | nil s => exact .refl hs
  | cons head tail ih =>
    have hf := step_kept hs (hl _ mem_cons_self) head
    exact hf.trans (ih (fun c hc => hl c (mem_cons_of_mem _ hc)) hf.ok)

lemma emptyStorage_ok (P : StockPlatform) (fenced : Prop) : StorageOk P fenced emptyStorage where
  decisionKeys := nodup_nil
  deliveryKeys := nodup_nil
  decision := by rintro e ⟨⟩
  delivery := by rintro e ⟨⟩
  room := Nat.zero_le _
  single := by rintro e ⟨⟩
  decidedFence := by rintro - e ⟨⟩
  pendingFence := by rintro - e ⟨⟩
  named := by rintro - e ⟨⟩

end

end Conduit.ProductStock
