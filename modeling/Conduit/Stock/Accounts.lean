import Conduit.Stock.Covered

namespace Conduit.Stock

open Js Throwing Table Option

structure ReconcilesProduct (c : Text) (db db' : Ledger) : Prop extends Reconciles db db' where
  elsewhere : ∀ a, a.productCoordinate ≠ c → (a ∈ db'.assignments.rows ↔ a ∈ db.assignments.rows)
  total : ∀ f : Assignment → Int, (∀ a, a.productCoordinate = c → f a = 0) →
    db'.assignments.total f = db.assignments.total f

section
variable {P : StockPlatform} {db db' db'' : Ledger} {nowMs : Int} {a a' b : Assignment} {c : Text}

lemma ReconcilesProduct.refl (c : Text) (db : Ledger) : ReconcilesProduct c db db :=
  ⟨.refl db, fun _ _ => Iff.rfl, fun _ _ => rfl⟩

lemma ReconcilesProduct.trans (h₁ : ReconcilesProduct c db db')
    (h₂ : ReconcilesProduct c db' db'') : ReconcilesProduct c db db'' :=
  ⟨h₁.toReconciles.trans h₂.toReconciles,
    fun a ha => (h₂.elsewhere a ha).trans (h₁.elsewhere a ha),
    fun f hf => (h₂.total f hf).trans (h₁.total f hf)⟩

lemma reconcileAssignment_product {coordinate : Text}
    (h : ∀ a ∈ db.assignments.get coordinate, a.productCoordinate = c) :
    ReconcilesProduct c db (reconcileAssignment P db coordinate) := by
  refine ⟨reconcileAssignment_reconciles P db coordinate, ?_, ?_⟩ <;>
    unfold reconcileAssignment <;> split
  · exact fun _ _ => Iff.rfl
  · rename_i current hcur
    have heq := reconcileOccurrence_same P db.evidence current
    have hc := h current hcur
    dsimp only
    split_ifs
    · exact fun _ _ => Iff.rfl
    · intro a ha
      rw [mem_put]
      constructor
      · rintro (rfl | ⟨hm, -⟩)
        · exact absurd (heq.productCoordinate.trans hc) ha
        · exact hm
      · intro hm
        refine .inr ⟨hm, fun hk => ha ?_⟩
        obtain rfl : a = current := Keyed.eq_of_key_eq db.assignments.nodup hm
          (mem_of_get hcur) (hk.trans heq.coordinate)
        exact hc
  · exact fun _ _ => rfl
  · rename_i current hcur
    have heq := reconcileOccurrence_same P db.evidence current
    have hc := h current hcur
    dsimp only
    split_ifs
    · exact fun _ _ => rfl
    · intro f hf
      have hk : (reconcileOccurrence P db.evidence current).coordinate = coordinate :=
        heq.coordinate.trans (key_of_get hcur)
      rw [total_put, hf _ (heq.productCoordinate.trans hc), hk, total_of_get hcur, hf _ hc]

lemma foldl_reconcile_product (coordinates : List Text)
    (h : ∀ k ∈ coordinates, ∀ a ∈ db.assignments.get k, a.productCoordinate = c) :
    ReconcilesProduct c db (coordinates.foldl (reconcileAssignment P) db) := by
  induction coordinates generalizing db with
  | nil => exact .refl c db
  | cons k coordinates ih =>
    have hf := reconcileAssignment_product (P := P) (h k List.mem_cons_self)
    refine hf.trans (ih fun k' hk' a ha => ?_)
    obtain ⟨b, hb, heq⟩ := hf.assignments a (mem_of_get ha)
    rw [heq.productCoordinate]
    have hkey : b.coordinate = k' := heq.coordinate.symm.trans (key_of_get ha)
    exact h k' (List.mem_cons_of_mem k hk') b (hkey ▸ get_of_mem hb)

lemma lifecycle_product (P : StockPlatform) (db : Ledger) (merchantPubkey c : Text) :
    ReconcilesProduct c db (reconcileKnownOccurrenceLifecycle P db merchantPubkey (some c)) := by
  apply foldl_reconcile_product
  intro k hk a ha
  obtain ⟨b, hb, rfl⟩ := List.mem_map.1 hk
  obtain ⟨hb, hm⟩ := List.mem_filter.1 hb
  obtain rfl : b = a := some.inj ((get_of_mem hb).symm.trans ha)
  exact (of_decide_eq_true hm).1 c rfl

def Working.reservedOf (w : Working) (c : Text) (nowMs : Int) : Int :=
  w.db.assignments.total fun a =>
    if a.productCoordinate = c then (w.current a).effective nowMs else 0

/-- Reservations lie within stocks, but for the open product `but`. -/
structure Accounted (w : Working) (nowMs : Int) (but : Option Text) : Prop where
  holds : ∀ a ∈ w.db.assignments.rows, a.HoldInOrder
  overrides : ∀ a ∈ w.assignments.rows, a.HoldInOrder
  base : ∀ a ∈ w.assignments.rows, ∃ b, w.db.assignments.get a.coordinate = some b ∧
    b.productCoordinate = a.productCoordinate
  initialized : ∀ a ∈ w.db.assignments.rows, ∃ p ∈ w.db.products.rows,
    p.coordinate = a.productCoordinate
  loadedBase : ∀ p ∈ w.products.rows, ∃ q ∈ w.db.products.rows, q.coordinate = p.coordinate
  owned : ∀ a ∈ w.assignments.rows, ∃ p ∈ w.products.rows, p.coordinate = a.productCoordinate
  loaded : ∀ p ∈ w.products.rows, some p.coordinate ≠ but → ∀ stock ∈ p.stock,
    w.reservedOf p.coordinate nowMs ≤ stock
  unloaded : ∀ p ∈ w.db.products.rows, w.products.get p.coordinate = none → ∀ stock ∈ p.stock,
    w.reservedOf p.coordinate nowMs ≤ stock
  touched : ∀ a ∈ w.assignments.rows, w.Touched a ∨ a ∈ w.db.assignments.rows

variable {w w' : Working} {but : Option Text} {input : OrderInput} {item : OrderItem}
  {product : Product} {pools : DelegatedPools}

lemma current_of_get (h : w.assignments.get a.coordinate = some a') : w.current a = a' := by
  rw [Working.current, h, getD_some]

lemma current_of_none (h : w.assignments.get a.coordinate = none) : w.current a = a := by
  rw [Working.current, h, getD_none]

lemma Accounted.current (h : Accounted w nowMs but) (ha : a ∈ w.db.assignments.rows) :
    (w.current a).coordinate = a.coordinate ∧
      (w.current a).productCoordinate = a.productCoordinate ∧ (w.current a).HoldInOrder := by
  cases hg : w.assignments.get a.coordinate with
  | none =>
    rw [current_of_none hg]
    exact ⟨rfl, rfl, h.holds a ha⟩
  | some a' =>
    rw [current_of_get hg]
    have hk := key_of_get hg
    obtain ⟨b, hb, hp⟩ := h.base a' (mem_of_get hg)
    rw [hk, get_of_mem ha] at hb
    cases hb
    exact ⟨hk, hp.symm, h.overrides a' (mem_of_get hg)⟩

lemma reserved_assignmentsOf {reserved : Int}
    (hok : w.reserved (w.db.assignmentsOf c) nowMs = .ok reserved) :
    reserved = w.reservedOf c nowMs := by
  rw [(reservedAllocation_ok.1 hok).2]
  exact sum_share w.db.assignments.rows w.current c nowMs

lemma Accounted.reservedOf_put (h : Accounted w nowMs but)
    (ha : w.assignments.get a.coordinate = some a) (hk : a'.coordinate = a.coordinate)
    (c : Text) : Working.reservedOf { w with assignments := w.assignments.put a' } c nowMs =
      w.reservedOf c nowMs -
        (if a.productCoordinate = c then a.effective nowMs else 0) +
        (if a.productCoordinate = c then a'.effective nowMs else 0) := by
  obtain ⟨b, hb, hp⟩ := h.base a (mem_of_get ha)
  have hbk := key_of_get hb
  have hn : Working.current { w with assignments := w.assignments.put a' } b = a' := by
    apply current_of_get
    rw [get_put, if_pos (hbk.trans hk.symm)]
  have hold : w.current b = a := current_of_get (hbk ▸ ha)
  simp only [Working.reservedOf]
  rw [total_of_get hb, total_of_get hb, hn, hold, hp]
  have hoth : w.db.assignments.totalOthers a.coordinate (fun x =>
      if x.productCoordinate = c then
        (Working.current { w with assignments := w.assignments.put a' } x).effective nowMs
      else 0) = w.db.assignments.totalOthers a.coordinate (fun x =>
      if x.productCoordinate = c then (w.current x).effective nowMs else 0) := by
    apply totalOthers_congr
    intro x _ hx
    have heq : Working.current { w with assignments := w.assignments.put a' } x =
        w.current x := by
      change ((w.assignments.put a').get x.coordinate).getD x = (w.assignments.get x.coordinate).getD x
      rw [get_put, if_neg (hk ▸ hx)]
    rw [heq]
  omega

lemma Covered.accounted (h : Covered db nowMs) (consumed : Text → Int) : Accounted {
      db := db
      products := .empty
      assignments := .empty
      consumed := consumed
      debitedProducts := []
      output := [] } nowMs none := by
  refine ⟨h.holds, ?_, ?_, h.initialized, ?_, ?_, ?_, fun p hp _ => h.covered p hp, ?_⟩ <;>
    exact fun _ hm => absurd hm List.not_mem_nil

lemma loadProduct_accounted (h : Accounted w nowMs none) {product : Product}
    (hok : loadProduct P input w item = .ok (w', product)) :
    Accounted w' nowMs (some item.productCoordinate) ∧
      w'.products.get item.productCoordinate = some product := by
  unfold loadProduct at hok
  split at hok
  · rename_i known hg
    obtain ⟨rfl, rfl⟩ := Prod.mk.inj (Except.ok.inj hok)
    exact ⟨⟨h.holds, h.overrides, h.base, h.initialized, h.loadedBase, h.owned,
      fun p hp _ => h.loaded p hp (by simp), h.unloaded, h.touched⟩, hg⟩
  · rename_i hn
    split at hok
    · cases hok
    · rename_i known hg
      simp only [rejects_ok, pure_ok] at hok
      obtain ⟨-, -, hok⟩ := hok
      obtain ⟨rfl, rfl⟩ := Prod.mk.inj hok
      have hk : known.coordinate = item.productCoordinate := key_of_get hg
      have hl := lifecycle_product P w.db input.merchantPubkey item.productCoordinate
      -- The overrides belong to products that were loaded before, hence not to this one.
      have ho : ∀ a ∈ w.assignments.rows, a.productCoordinate ≠ item.productCoordinate := by
        intro a ha hac
        obtain ⟨p, hp, hpa⟩ := h.owned a ha
        exact get_eq_none.1 hn p hp (hpa.trans hac)
      have hr : ∀ c ≠ item.productCoordinate, Working.reservedOf { w with
          db := reconcileKnownOccurrenceLifecycle P w.db input.merchantPubkey
            (some item.productCoordinate)
          products := w.products.put known } c nowMs = w.reservedOf c nowMs := by
        intro c hc
        apply hl.total
        intro a ha
        rw [if_neg]
        rw [ha]
        exact Ne.symm hc
      refine ⟨⟨?_, h.overrides, ?_, ?_, ?_, ?_, ?_, ?_, ?_⟩, ?_⟩
      · intro a ha
        obtain ⟨b, hb, heq⟩ := hl.assignments a ha
        exact heq.holdInOrder (h.holds b hb)
      · intro a ha
        obtain ⟨b, hb, hpr⟩ := h.base a ha
        have hm := (hl.elsewhere b (hpr ▸ ho a ha)).2 (mem_of_get hb)
        exact ⟨b, get_eq_some.2 ⟨hm, key_of_get hb⟩, hpr⟩
      · intro a ha
        obtain ⟨b, hb, heq⟩ := hl.assignments a ha
        obtain ⟨p, hp, hpb⟩ := h.initialized b hb
        exact ⟨p, hl.products.symm ▸ hp, hpb.trans heq.productCoordinate.symm⟩
      · intro p hp
        rw [hl.products]
        rcases mem_put.1 hp with rfl | ⟨hp, -⟩
        · exact ⟨p, mem_of_get hg, rfl⟩
        · exact h.loadedBase p hp
      · intro a ha
        obtain ⟨p, hp, hpa⟩ := h.owned a ha
        refine ⟨p, mem_put.2 (.inr ⟨hp, ?_⟩), hpa⟩
        rw [hk, hpa]
        exact ho a ha
      · intro p hp hne stock hs
        have hpc : p.coordinate ≠ item.productCoordinate := fun hpc => hne (congrArg some hpc)
        rcases mem_put.1 hp with rfl | ⟨hp, -⟩
        · exact absurd hk hpc
        · rw [hr _ hpc]
          exact h.loaded p hp (by simp) stock hs
      · intro p hp hu stock hs
        rw [get_put] at hu
        split_ifs at hu with hpk
        rw [hr _ (hk ▸ hpk)]
        exact h.unloaded p (hl.products ▸ hp) hu stock hs
      · intro a ha
        rcases h.touched a ha with ht | hm
        · exact .inl ht
        · exact .inr ((hl.elsewhere a (ho a ha)).2 hm)
      · change (w.products.put known).get item.productCoordinate = some known
        rw [get_put, if_pos hk.symm]

end

end Conduit.Stock
