import Conduit.ProductStock.Calls

namespace Conduit.ProductStock

open Js Stock Throwing Unreliable List Prod Option

section
variable {P : StockPlatform} {fenced : Prop} {D D' : List (Text × ProductStockDecision)}
  {L L' : List (Text × PendingProductStockDelivery)} {k : Text}
  {α : Type} {p : PendingProductStockDelivery} {e : Text × PendingProductStockDelivery}
  {l : List (Text × α)} {input : CheckpointInput} {a : α}

lemma entryAt_mapSet {k' : Text} :
    entryAt k' (mapSet fst l (k, a)) = if k = k' then some a else entryAt k' l := by
  unfold entryAt
  rw [lookup_mapSet]
  split_ifs <;> rfl

lemma mem_mapSet_iff (h : (l.map fst).Nodup) {e : Text × α} :
    e ∈ mapSet fst l (k, a) ↔ e = (k, a) ∨ e ∈ l ∧ e.1 ≠ k := by
  rw [show e = (e.1, e.2) from rfl, ← entryAt_eq_some (nodup_mapSet h), entryAt_mapSet,
    ← entryAt_eq_some h, mk.injEq]
  split_ifs with hk
  · simp [hk, eq_comm]
  · simp [Ne.symm hk]

lemma length_mapSet :
    (mapSet fst l (k, a)).length = if entryAt k l = none then l.length + 1 else l.length := by
  have hkeys : ((mapSet fst l (k, a)).map fst).length = _ :=
    congrArg List.length keys_mapSet
  simp only [entryAt_eq_none]
  split_ifs <;> simp_all

lemma mem_withoutDecision : e ∈ withoutDecision D L ↔ e ∈ L ∧ entryAt e.1 D = none := by
  simp [withoutDecision]

lemma nodup_withoutDecision (h : (L.map fst).Nodup) : ((withoutDecision D L).map fst).Nodup :=
  h.sublist (filter_sublist.map _)

lemma length_le_of_keys (keys : List Text) (h : (l.map fst).Nodup) (hs : ∀ e ∈ l, e.1 ∈ keys) :
    l.length ≤ keys.length := by
  rw [← length_map (f := fst)]
  apply (subperm_of_subset h ?_).length_le
  intro key hk
  obtain ⟨e, he, rfl⟩ := mem_map.1 hk
  exact hs e he

structure CheckpointChecked (D : List (Text × ProductStockDecision))
    (L : List (Text × PendingProductStockDelivery)) (input : CheckpointInput) : Prop where
  expected : match input.expectedUnpublishedEventId with
    | none => entryAt input.adjustment.key D = none
    | some eventId => ∃ d, entryAt input.adjustment.key D = some d ∧ d.localEventId = some eventId
  fence : ∀ e ∈ D, e.2.kind ≠ .declined → ∀ a ∈ e.2.adjustment,
    SameRevision a input.adjustment → a.key = input.adjustment.key
  room : D.length + (withoutDecision D L).length +
    (if entryAt input.adjustment.key D ≠ none ∨
      input.adjustment.key ∈ (withoutDecision D L).map Prod.fst then 0 else 1) ≤
    maxStoredStockDecisions
  ways : ∀ e ∈ L, e.2.adjustment.addressId = input.adjustment.addressId → GivesWay D input e

def CheckpointInput.Renews (input : CheckpointInput) : Prop :=
  input.expectedUnpublishedEventId ≠ some input.signedEvent.id

lemma GivesWay.not_undecided (h : GivesWay D input e) (hu : Undecided D e) :
    e.1 = input.adjustment.key := by
  rcases h with ⟨d, hd, hk⟩ | ⟨hkey, -⟩
  · obtain ⟨hunp, ho⟩ := hu d hd
    rcases hk with ha | ⟨-, hown⟩
    · rw [ha] at hunp
      cases hunp
    · exact absurd hown ho
  · exact hkey

section

variable (h : JournalOk P fenced D L)
include h

lemma JournalOk.checkpoint {L₁ : List (Text × PendingProductStockDelivery)} (hL : L₁.Sublist L)
    (hc : CheckpointChecked D L input) (hr : fenced → input.Renews)
    (hp : StoredDelivery P (input.adjustment.key, p))
    (hadj : p.adjustment = input.adjustment) (hev : p.signedEvent = input.signedEvent) :
    JournalOk P fenced D (mapSet fst L₁ (input.adjustment.key, p)) := by
  have h₁ := h.subperm hL.subperm
  have hm := fun e => mem_mapSet_iff (k := input.adjustment.key) (a := p) (e := e) h₁.deliveryKeys
  refine ⟨h.decisionKeys, nodup_mapSet h₁.deliveryKeys, h.decision, ?_, ?_, ?_, h.decidedFence, ?_,
    ?_⟩
  · intro e he
    rcases (hm e).1 he with rfl | ⟨he, -⟩
    · exact hp
    · exact h₁.delivery e he
  · have hro := hc.room
    have hnd := nodup_withoutDecision (D := D)
      (nodup_mapSet (a := (input.adjustment.key, p)) h₁.deliveryKeys)
    have hk : ∀ e ∈ withoutDecision D (mapSet fst L₁ (input.adjustment.key, p)),
        e.1 = input.adjustment.key ∧ entryAt input.adjustment.key D = none ∨
          e.1 ∈ (withoutDecision D L).map fst := by
      intro e he
      obtain ⟨he, hno⟩ := mem_withoutDecision.1 he
      rcases (hm e).1 he with rfl | ⟨he, -⟩
      · exact .inl ⟨rfl, hno⟩
      · exact .inr (mem_map_of_mem (mem_withoutDecision.2 ⟨hL.subset he, hno⟩))
    split_ifs at hro with hh
    · have hle := length_le_of_keys ((withoutDecision D L).map fst) hnd (by
        intro e he
        rcases hk e he with ⟨hkey, hno⟩ | hin
        · exact hkey ▸ hh.resolve_left (not_not.2 hno)
        · exact hin)
      rw [length_map] at hle
      omega
    · have hle := length_le_of_keys
        (input.adjustment.key :: (withoutDecision D L).map fst) hnd (by
          intro e he
          rcases hk e he with ⟨hkey, -⟩ | hin
          · exact hkey ▸ .head _
          · exact .tail _ hin)
      rw [length_cons, length_map] at hle
      omega
  · -- any other waiting checkpoint of the product would have stood in the way
    have ho : ∀ e ∈ L₁, e.2.adjustment.addressId = p.adjustment.addressId →
        Undecided D e → e.1 = input.adjustment.key := by
      intro e he hadd hu
      exact (hc.ways e (hL.subset he) (hadj ▸ hadd)).not_undecided hu
    intro e he e' he' hadd hu hu'
    rcases (hm e).1 he with rfl | ⟨he, -⟩
    · rcases (hm e').1 he' with rfl | ⟨he', -⟩
      · rfl
      · exact (ho e' he' hadd.symm hu').symm
    · rcases (hm e').1 he' with rfl | ⟨he', -⟩
      · exact ho e he hadd hu
      · exact h₁.single e he e' he' hadd hu hu'
  · intro hf e he a ha e' he' hu heq
    rcases (hm e').1 he' with rfl | ⟨he', -⟩
    · have hs := h.decision e he
      rw [← (hs.bound ha).1]
      exact hc.fence e he hs.kind a ha (hadj ▸ heq)
    · exact h₁.pendingFence hf e he a ha e' he' hu heq
  · intro hf e he d hd hki hn
    rcases (hm e).1 he with rfl | ⟨he, -⟩
    · have hexp := hc.expected
      have hr' : input.expectedUnpublishedEventId ≠ some input.signedEvent.id := hr hf
      cases hid : input.expectedUnpublishedEventId with
      | none =>
        rw [hid] at hexp
        simp only [hd] at hexp
        cases hexp
      | some eventId =>
        rw [hid] at hexp hr'
        obtain ⟨d', hd', hl⟩ := hexp
        rw [hd] at hd'
        cases hd'
        rw [hl, hev] at hn
        exact absurd hn hr'
    · exact h₁.named hf e he d hd hki hn

lemma JournalOk.waits (hf : fenced) (hp : (k, p) ∈ L)
    (ho : ∀ d, entryAt k D = some d → d.kind ≠ .applied ∧ d.kind ≠ .declined) :
    Undecided D (k, p) ∨ ∃ d, (k, d) ∈ D ∧ d.adjustment = some p.adjustment := by
  by_cases hu : Undecided D (k, p)
  · exact .inl hu
  · right
    unfold Undecided at hu
    simp only [not_forall] at hu
    obtain ⟨d, hd, hnot⟩ := hu
    obtain ⟨ha, hdec⟩ := ho d hd
    have hki : d.kind = .unpublished := by
      cases hk : d.kind with
      | applied => exact absurd hk ha
      | declined => exact absurd hk hdec
      | unpublished => rfl
    have hn : d.localEventId = some p.signedEvent.id := by
      by_contra hne
      exact hnot ⟨hki, hne⟩
    exact ⟨d, (entryAt_eq_some h.decisionKeys).1 hd, h.named hf (k, p) hp d hd hki hn⟩

lemma JournalOk.settle (hp : (k, p) ∈ L)
    (ho : ∀ d, entryAt k D = some d → d.kind ≠ .applied ∧ d.kind ≠ .declined)
    {d : ProductStockDecision} (hd : StoredDecision (k, d))
    (hadj : d.adjustment = some p.adjustment)
    (hna : d.kind = .unpublished → d.localEventId = some p.signedEvent.id) :
    JournalOk P fenced (mapSet fst D (k, d)) L := by
  have hm := fun e => mem_mapSet_iff (k := k) (a := d) (e := e) h.decisionKeys
  have hs : ∀ e ∈ L, e.1 = k → e = (k, p) := fun e he hkey =>
    Keyed.eq_of_key_eq h.deliveryKeys he hp hkey
  have hund : ∀ e ∈ L, Undecided (mapSet fst D (k, d)) e →
      e.1 ≠ k ∧ Undecided D e := by
    intro e he hu
    have hkey : e.1 ≠ k := by
      intro hkey
      obtain rfl := hs e he hkey
      obtain ⟨hki, hoth⟩ := hu d (by rw [entryAt_mapSet, if_pos rfl])
      exact hoth (hna hki)
    refine ⟨hkey, ?_⟩
    intro d' hd'
    exact hu d' (by rw [entryAt_mapSet, if_neg (Ne.symm hkey), hd'])
  have hw := fun hf => h.waits hf hp ho
  refine ⟨nodup_mapSet h.decisionKeys, h.deliveryKeys, ?_, h.delivery, ?_, ?_, ?_, ?_, ?_⟩
  · intro e he
    rcases (hm e).1 he with rfl | ⟨he, -⟩
    · exact hd
    · exact h.decision e he
  · have hroom := h.room
    have hnd := nodup_withoutDecision (D := mapSet fst D (k, d)) h.deliveryKeys
    have hke : ∀ e ∈ withoutDecision (mapSet fst D (k, d)) L,
        e.1 ≠ k ∧ e ∈ withoutDecision D L := by
      intro e he
      obtain ⟨he, hn⟩ := mem_withoutDecision.1 he
      rw [entryAt_mapSet] at hn
      split_ifs at hn with hkey
      exact ⟨Ne.symm hkey, mem_withoutDecision.2 ⟨he, hn⟩⟩
    rw [length_mapSet]
    split_ifs with hn
    · -- the checkpoint of the order gives its slot to the decision
      have hnd' : (((k, p) :: withoutDecision (mapSet fst D (k, d)) L).map fst).Nodup := by
        rw [map_cons, nodup_cons]
        refine ⟨?_, hnd⟩
        intro hk
        obtain ⟨e, he, hkey⟩ := mem_map.1 hk
        exact (hke e he).1 hkey
      have hle := length_le_of_keys ((withoutDecision D L).map fst) hnd' (by
        intro e he
        rcases mem_cons.1 he with rfl | he
        · exact mem_map_of_mem (f := fst) (mem_withoutDecision.2 ⟨hp, hn⟩)
        · exact mem_map_of_mem (hke e he).2)
      rw [length_cons, length_map] at hle
      omega
    · have hle := length_le_of_keys ((withoutDecision D L).map fst) hnd
        fun e he => mem_map_of_mem (hke e he).2
      rw [length_map] at hle
      omega
  · intro e he e' he' hadd hu hu'
    exact h.single e he e' he' hadd (hund e he hu).2 (hund e' he' hu').2
  · intro hf
    have hnew : ∀ e ∈ D, ∀ a ∈ e.2.adjustment, SameRevision a p.adjustment → e.1 = k := by
      intro e he a ha hr
      rcases hw hf with hu | ⟨d₀, hd₀, ha₀⟩
      · exact h.pendingFence hf e he a ha (k, p) hp hu hr
      · exact h.decidedFence hf e he (k, d₀) hd₀ a ha p.adjustment ha₀ hr
    intro e he e' he' a ha a' ha' hr
    rcases (hm e).1 he with rfl | ⟨he, -⟩
    · rcases (hm e').1 he' with rfl | ⟨he', -⟩
      · rfl
      · have heq : a = p.adjustment := some_inj.1 (ha.symm.trans hadj)
        exact (hnew e' he' a' ha' ⟨(heq ▸ hr.1).symm, (heq ▸ hr.2).symm⟩).symm
    · rcases (hm e').1 he' with rfl | ⟨he', -⟩
      · have heq : a' = p.adjustment := some_inj.1 (ha'.symm.trans hadj)
        exact hnew e he a ha (heq ▸ hr)
      · exact h.decidedFence hf e he e' he' a ha a' ha' hr
  · intro hf e he a ha e' he' hu hr
    obtain ⟨hkey, hu'⟩ := hund e' he' hu
    rcases (hm e).1 he with rfl | ⟨he, -⟩
    · obtain rfl : a = p.adjustment := some_inj.1 (ha.symm.trans hadj)
      rcases hw hf with hwa | ⟨d₀, hd₀, ha₀⟩
      · exact h.single (k, p) hp e' he' hr.1 hwa hu'
      · exact h.pendingFence hf (k, d₀) hd₀ p.adjustment ha₀ e' he' hu' hr
    · exact h.pendingFence hf e he a ha e' he' hu' hr
  · intro hf e he d' hd' hki hown
    rw [entryAt_mapSet] at hd'
    split_ifs at hd' with hkey
    · cases hd'
      obtain rfl := hs e he hkey.symm
      exact hadj
    · exact h.named hf e he d' hd' hki hown

end

end

end Conduit.ProductStock
