import Conduit.ProductStock.Journals

namespace Conduit.ProductStock

open Js Stock Throwing Unreliable List PendingProductStockDeliveryStore Prod

/-- The entries of the two items. -/
def StockStorage.decided (s : StockStorage) : List (Text × ProductStockDecision) :=
  s.decisions.getD []

def StockStorage.pending (s : StockStorage) : List (Text × PendingProductStockDelivery) :=
  s.deliveries.getD []

section
variable {P : StockPlatform} {fenced : Prop} {s t : StockStorage}

def StorageOk (P : StockPlatform) (fenced : Prop) (s : StockStorage) : Prop :=
  JournalOk P fenced s.decided s.pending

variable {key : Text} {α : Type}

lemma triple_of_forall {pre : StockStorage → Prop} {m : Stored α} {post : α → StockStorage → Prop}
    {stop : StockStorage → Prop} (h : ∀ s, pre s → Triple (· = s) m post stop) :
    Triple pre m post stop :=
  fun faults s hs => h s hs faults s rfl

section

variable (hs : StorageOk P fenced s)
include hs

lemma loadDecisions_spec :
    Triple (· = s) loadDecisions (fun D t => t = s ∧ D = s.decided) (· = s) := by
  refine .bind (q := fun raw t => t = s ∧ raw = s.decisions) (.read ?_ fun _ h => h) ?_
  · rintro t rfl
    exact ⟨rfl, rfl⟩
  · intro raw
    apply triple_of_forall
    rintro t ⟨rfl, rfl⟩
    refine .ofResult ?_ fun _ h => h
    rintro D hD u rfl
    rw [parseStoredDecisionsStrict_ok hs.decision] at hD
    cases hD
    exact ⟨rfl, rfl⟩

lemma loadDeliveries_spec :
    Triple (· = s) (loadDeliveries P) (fun L t => t = s ∧ L = s.pending) (· = s) := by
  refine .bind (q := fun raw t => t = s ∧ raw = s.deliveries) (.read ?_ fun _ h => h) ?_
  · rintro t rfl
    exact ⟨rfl, rfl⟩
  · intro raw
    apply triple_of_forall
    rintro t ⟨rfl, rfl⟩
    refine .ofResult ?_ fun _ h => h
    rintro L hL u rfl
    rw [parseStoredDeliveriesStrict_ok hs.delivery] at hL
    cases hL
    exact ⟨rfl, rfl⟩

lemma getPersisted_spec (o a : Text) : Triple (· = s) (ProductStockDecisionStore.getPersisted o a)
      (fun d t => t = s ∧ d = entryAt (getOrderStockDecisionKey o a) s.decided) (· = s) := by
  refine .bind (loadDecisions_spec hs) ?_
  intro D
  refine .bind (q := fun _ t => t = s ∧ D = s.decided) (.rejectIf (fun _ _ h => h) fun _ h => h.1)
    fun _ => .pure ?_
  rintro t ⟨rfl, rfl⟩
  exact ⟨rfl, by rw [getOrderStockDecisionKey_trim_right]⟩

lemma getPersistedForMerchant_spec :
    Triple (· = s) ProductStockDecisionStore.getPersistedForMerchant
      (fun l t => t = s ∧ l = s.decided.map snd) (· = s) := by
  refine .bind (loadDecisions_spec hs) fun D => .pure ?_
  rintro t ⟨rfl, rfl⟩
  exact ⟨rfl, rfl⟩

lemma pendingForMerchant_spec : Triple (· = s) (getPersistedForMerchant P)
      (fun l t => t = s ∧ l = s.pending.map snd) (· = s) := by
  refine .bind (loadDeliveries_spec hs) fun L => .pure ?_
  rintro t ⟨rfl, rfl⟩
  exact ⟨rfl, rfl⟩

lemma undecidedPendingKeys_spec (l : List (Text × PendingProductStockDelivery))
    (hl : ∀ e ∈ l, StoredDelivery P e) : Triple (· = s) (undecidedPendingKeys (l.map snd))
      (fun keys t => t = s ∧ keys = (withoutDecision s.decided l).map fst) (· = s) := by
  induction l with
  | nil =>
    refine .pure ?_
    rintro t rfl
    exact ⟨rfl, rfl⟩
  | cons e l ih =>
    have he := hl e mem_cons_self
    refine .bind (getPersisted_spec hs e.2.orderId e.2.adjustment.addressId) fun dec => ?_
    apply triple_of_forall
    rintro t ⟨rfl, rfl⟩
    refine .bind (ih fun e he => hl e (mem_cons_of_mem _ he)) fun keys => .pure ?_
    rintro u ⟨rfl, rfl⟩
    refine ⟨rfl, ?_⟩
    rw [he.decisionKey, ← he.key, withoutDecision, withoutDecision, filter_cons]
    by_cases hn : entryAt e.1 u.decided = none
    · rw [if_pos hn, if_pos (decide_eq_true hn), map_cons]
    · rw [if_neg hn, if_neg (by simpa using hn)]

end

def Within (s t : StockStorage) : Prop :=
  t.decisions = s.decisions ∧ t.pending.Sublist s.pending

lemma Within.refl (s : StockStorage) : Within s s := ⟨rfl, Sublist.refl _⟩

lemma Within.trans {u : StockStorage} (h₁ : Within s t) (h₂ : Within t u) : Within s u :=
  ⟨h₂.1.trans h₁.1, h₂.2.trans h₁.2⟩

lemma Within.decided (h : Within s t) : t.decided = s.decided :=
  congrArg (Option.getD · []) h.1

lemma Within.ok (h : Within s t) (hs : StorageOk P fenced s) : StorageOk P fenced t := by
  unfold StorageOk
  rw [h.decided]
  exact hs.subperm h.2.subperm

lemma drop_spec (hs : StorageOk P fenced s) (key : Text) :
    Triple (· = s) (drop P key) (fun _ t => Within s t) (Within s) := by
  refine .bind ((loadDeliveries_spec hs).weaken (fun _ h => h) (fun _ _ h => h) ?_) fun L => ?_
  · rintro t rfl
    exact .refl t
  · refine .bind (q := fun _ t => Within s t) (.write ?_ ?_) fun _ => ?_
    · rintro t ⟨rfl, rfl⟩
      exact ⟨rfl, filter_sublist⟩
    · rintro t ⟨rfl, rfl⟩
      exact .refl t
    · apply triple_of_forall
      intro t ht
      refine .bind ((loadDeliveries_spec (ht.ok hs)).weaken (fun _ h => h) (fun _ _ h => h) ?_)
        fun L => .pure ?_
      · rintro u rfl
        exact ht
      · rintro u ⟨rfl, -⟩
        exact ht

lemma delete_spec (hs : StorageOk P fenced s) (o a : Text) :
    Triple (· = s) (delete P o a) (fun _ t => Within s t) (Within s) :=
  .orElse (drop_spec hs _) fun _ h => h

def GivesWay (decisions : List (Text × ProductStockDecision)) (input : CheckpointInput)
    (e : Text × PendingProductStockDelivery) : Prop :=
  Supersedes (entryAt e.1 decisions) e.2.signedEvent ∨
    e.1 = input.adjustment.key ∧ e.2.signedEvent.id = input.signedEvent.id ∧
      e.2.adjustment = input.adjustment

lemma retirePending_spec (hs : StorageOk P fenced s) (input : CheckpointInput)
    (l : List (Text × PendingProductStockDelivery)) (hl : ∀ e ∈ l, StoredDelivery P e) :
    Triple (Within s) (retirePending P input (l.map snd))
      (fun _ t => Within s t ∧ ∀ e ∈ l, GivesWay s.decided input e) (Within s) := by
  induction l with
  | nil =>
    refine .pure ?_
    intro t ht
    exact ⟨ht, by rintro e ⟨⟩⟩
  | cons e l ih =>
    have he := hl e mem_cons_self
    have hr := ih fun e he => hl e (mem_cons_of_mem _ he)
    have hgo : ∀ t, Within s t → GivesWay s.decided input e → Triple (Within t)
        (retirePending P input (l.map snd))
        (fun _ u => Within s u ∧ ∀ x ∈ e :: l, GivesWay s.decided input x) (Within s) := by
      intro t ht hw
      refine hr.weaken (fun u hu => ht.trans hu) ?_ fun _ h => h
      rintro _ u ⟨hu, ha⟩
      exact ⟨hu, forall_mem_cons.2 ⟨hw, ha⟩⟩
    apply triple_of_forall
    intro t ht
    refine .bind ((getPersisted_spec (ht.ok hs) e.2.orderId e.2.adjustment.addressId).weaken
      (fun _ h => h) (fun _ _ h => h) ?_) fun dec => ?_
    · rintro u rfl
      exact ht
    apply triple_of_forall
    rintro u ⟨rfl, hd⟩
    rw [he.decisionKey, ht.decided] at hd
    by_cases hsu : Supersedes dec e.2.signedEvent
    · simp only [if_pos hsu]
      refine .bind ((delete_spec (ht.ok hs) e.2.orderId e.2.adjustment.addressId).weaken
        (fun _ h => h) (fun _ _ h => h) fun _ h => ht.trans h) fun _ => ?_
      exact hgo u ht (.inl (hd ▸ hsu))
    · simp only [if_neg hsu]
      refine .bind (q := fun _ v => v = u ∧ GivesWay s.decided input e)
        (.rejectIf ?_ ?_) fun _ => ?_
      · rintro heq v rfl
        simp only [not_or, not_not] at heq
        exact ⟨rfl, .inr ⟨he.key.trans heq.1, heq.2.1, heq.2.2⟩⟩
      · rintro v rfl
        exact ht
      · apply triple_of_forall
        rintro v ⟨rfl, hw⟩
        refine (hgo v ht hw).weaken ?_ (fun _ _ h => h) fun _ h => h
        rintro w rfl
        exact .refl w

lemma newestFirst_take_perm {time : α → Int} {l : List (Text × α)} {a : α} {limit : Nat}
    (hr : ¬ (entryAt key l = none ∧ limit ≤ l.length)) (hlimit : l.length ≤ limit) :
    ((newestFirst time key (mapSet fst l (key, a))).take limit).Perm
      (mapSet fst l (key, a)) := by
  have hl : (mapSet fst l (key, a)).length ≤ limit := by
    have hk : ((mapSet fst l (key, a)).map fst).length = _ :=
      congrArg List.length keys_mapSet
    rw [length_map] at hk
    rw [hk]
    split_ifs with hm
    · rwa [length_map]
    · rw [length_append, length_map, length_singleton]
      have := not_and.1 hr (entryAt_eq_none.2 hm)
      omega
  have hpm : (newestFirst time key (mapSet fst l (key, a))).Perm
      (mapSet fst l (key, a)) := sortBy_perm
  rw [take_of_length_le (hpm.length_eq.trans_le hl)]
  exact hpm

/-- The checkpoint is stored, beside or in place of the one of its order. -/
def DeliverySaved (s : StockStorage) (key : Text) (pending : PendingProductStockDelivery)
    (t : StockStorage) : Prop :=
  t.decisions = s.decisions ∧ t.pending.Subperm (mapSet Prod.fst s.pending (key, pending))

lemma saveDelivery_spec (hs : StorageOk P fenced s) {pend : PendingProductStockDelivery}
    (hok : ∀ t, DeliverySaved s key pend t → StorageOk P fenced t) :
    Triple (· = s) (save P key pend) (fun _ t => t = s ∨ DeliverySaved s key pend t)
      (fun t => t = s ∨ DeliverySaved s key pend t) := by
  refine .bind ((loadDeliveries_spec hs).weaken (fun _ h => h) (fun _ _ h => h) fun _ => .inl)
    fun L => ?_
  apply triple_of_forall
  rintro t ⟨rfl, rfl⟩
  split_ifs with hfull
  · exact .pure fun _ h => .inl h
  · refine .bind (q := fun _ u => DeliverySaved t key pend u) (.write ?_ fun _ => .inl)
      fun _ => ?_
    · rintro u rfl
      refine ⟨rfl, ?_⟩
      exact (take_sublist _ _).subperm.trans sortBy_perm.subperm
    · apply triple_of_forall
      intro u hu
      refine .bind ((loadDeliveries_spec (hok u hu)).weaken (fun _ h => h) (fun _ _ h => h) ?_)
        fun L => .pure ?_
      · rintro v rfl
        exact .inr hu
      · rintro v ⟨rfl, -⟩
        exact .inr hu

structure DecisionSaved (s : StockStorage) (key : Text) (decision : ProductStockDecision)
    (t : StockStorage) : Prop where
  deliveries : t.deliveries = s.deliveries
  decided : t.decided.Perm (mapSet Prod.fst s.decided (key, decision))
  room : entryAt key s.decided = none → s.decided.length < maxStoredStockDecisions

lemma saveDecision_spec (hs : StorageOk P fenced s) {dec : ProductStockDecision}
    (hok : ∀ t, DecisionSaved s key dec t → StorageOk P fenced t) :
    Triple (· = s) (ProductStockDecisionStore.save key dec)
      (fun _ t => t = s ∨ DecisionSaved s key dec t)
      (fun t => t = s ∨ DecisionSaved s key dec t) := by
  refine .bind ((loadDecisions_spec hs).weaken (fun _ h => h) (fun _ _ h => h) fun _ => .inl)
    fun D => ?_
  apply triple_of_forall
  rintro t ⟨rfl, rfl⟩
  split_ifs with hf
  · exact .pure fun _ h => .inl h
  · refine .bind (q := fun _ u => DecisionSaved t key dec u) (.write ?_ fun _ => .inl)
      fun _ => ?_
    · rintro u rfl
      refine ⟨rfl, ?_, ?_⟩
      · have hroom := hs.room
        exact newestFirst_take_perm hf (by omega)
      · intro hn
        exact not_le.1 (not_and.1 hf hn)
    · apply triple_of_forall
      intro u hu
      refine .bind ((loadDecisions_spec (hok u hu)).weaken (fun _ h => h) (fun _ _ h => h) ?_)
        fun D => .pure ?_
      · rintro v rfl
        exact .inr hu
      · rintro v ⟨rfl, -⟩
        exact .inr hu

end

end Conduit.ProductStock
