import Conduit.Stock.Import

namespace Conduit.Stock

open Js Throwing List Table Assignment

def Assignment.share (c : Text) (nowMs : Int) (a : Assignment) : Int :=
  if a.productCoordinate = c then a.effective nowMs else 0

def Ledger.reserved (db : Ledger) (c : Text) (nowMs : Int) : Int :=
  db.assignments.total (Assignment.share c nowMs)

structure Covered (db : Ledger) (nowMs : Int) : Prop where
  holds : ∀ a ∈ db.assignments.rows, a.HoldInOrder
  initialized : ∀ a ∈ db.assignments.rows, ∃ p ∈ db.products.rows,
    p.coordinate = a.productCoordinate
  covered : ∀ p ∈ db.products.rows, ∀ stock ∈ p.stock, db.reserved p.coordinate nowMs ≤ stock

section
variable {P : StockPlatform} {db db' : Ledger} {nowMs : Int} {a b : Assignment} {c : Text}

lemma sum_share (l : List Assignment) (f : Assignment → Assignment) (c : Text) (nowMs : Int) :
    (((l.filter fun a => decide (a.productCoordinate = c)).map f).map
      fun a => a.effective nowMs).sum =
      (l.map fun a => if a.productCoordinate = c then (f a).effective nowMs else 0).sum := by
  induction l with
  | nil => rfl
  | cons a l ih =>
    by_cases ha : a.productCoordinate = c
    · rw [filter_cons_of_pos (by simpa using ha), map_cons, map_cons, sum_cons,
        ih, map_cons, sum_cons, if_pos ha]
    · rw [filter_cons_of_neg (by simpa using ha), ih, map_cons, sum_cons,
        if_neg ha, zero_add]

variable {input : AssignmentInput} {grant : StockGrant} {held : Option Int} {reserved : Int}

lemma reservedAllocation_assignmentsOf :
    reservedAllocation (db.assignmentsOf c) nowMs = .ok reserved ↔
      (∀ a ∈ db.assignmentsOf c, a.HoldInOrder) ∧ reserved = db.reserved c nowMs := by
  rw [reservedAllocation_ok]
  have hs := sum_share db.assignments.rows id c nowMs
  rw [map_id] at hs
  rw [Ledger.assignmentsOf, hs]
  rfl

lemma Covered.reservedAllocation (h : Covered db nowMs) (c : Text) :
    Stock.reservedAllocation (db.assignmentsOf c) nowMs = .ok (db.reserved c nowMs) :=
  reservedAllocation_assignmentsOf.2 ⟨fun a ha => h.holds a (mem_filter.1 ha).1, rfl⟩

lemma share_antitone {later : Int} (ho : a.HoldInOrder) (h : nowMs ≤ later) :
    a.share c later ≤ a.share c nowMs := by
  unfold share
  split_ifs
  · exact effective_antitone ho h
  · exact le_refl 0

lemma Covered.later {later : Int} (h : Covered db nowMs) (hle : nowMs ≤ later) :
    Covered db later := by
  refine ⟨h.holds, h.initialized, fun p hp stock hs => ?_⟩
  apply le_trans _ (h.covered p hp stock hs)
  exact total_le fun a ha => share_antitone (h.holds a ha) hle

lemma share_of_ne (h : a.productCoordinate ≠ c) : a.share c nowMs = 0 := if_neg h

lemma share_of_eq (h : a.productCoordinate = c) : a.share c nowMs = a.effective nowMs := if_pos h

lemma Covered.putAssignment (h : Covered db nowMs) (hold : a.HoldInOrder)
    (heq : ∀ b, db.assignments.get a.coordinate = some b →
      b.productCoordinate = a.productCoordinate)
    (hpr : ∃ p ∈ db.products.rows, p.coordinate = a.productCoordinate)
    (hr : ∀ p ∈ db.products.rows, p.coordinate = a.productCoordinate → ∀ stock ∈ p.stock,
      db.assignments.totalOthers a.coordinate (share a.productCoordinate nowMs) +
        a.effective nowMs ≤ stock) :
    Covered { db with assignments := db.assignments.put a } nowMs := by
  refine ⟨?_, ?_, ?_⟩
  · intro b hb
    rcases mem_put.1 hb with rfl | ⟨hb, -⟩
    · exact hold
    · exact h.holds b hb
  · intro b hb
    rcases mem_put.1 hb with rfl | ⟨hb, -⟩
    · exact hpr
    · exact h.initialized b hb
  · intro p hp stock hs
    change (db.assignments.put a).total (share p.coordinate nowMs) ≤ stock
    rw [total_put]
    by_cases hpa : p.coordinate = a.productCoordinate
    · rw [hpa, share_of_eq rfl]
      exact hr p hp hpa stock hs
    · rw [share_of_ne (Ne.symm hpa), add_zero]
      have hc := h.covered p hp stock hs
      unfold Ledger.reserved at hc
      cases hg : db.assignments.get a.coordinate with
      | none => rwa [total_of_get_none hg] at hc
      | some b =>
        rwa [total_of_get hg, share_of_ne (heq b hg ▸ Ne.symm hpa), add_zero]
          at hc

lemma Covered.replaceAssignment (h : Covered db nowMs) (hold : a.HoldInOrder)
    (hb : db.assignments.get a.coordinate = some b)
    (hpr : a.productCoordinate = b.productCoordinate)
    (hle : a.effective nowMs ≤ b.effective nowMs) :
    Covered { db with assignments := db.assignments.put a } nowMs := by
  refine h.putAssignment hold ?_ ?_ ?_
  · intro b' hb'
    obtain rfl := Option.some.inj (hb.symm.trans hb')
    exact hpr.symm
  · rw [hpr]
    exact h.initialized b (mem_of_get hb)
  · intro p hp hpa stock hs
    have hc := h.covered p hp stock hs
    rw [Ledger.reserved, total_of_get hb, hpa, share_of_eq hpr.symm] at hc
    omega

lemma Covered.putProduct (h : Covered db nowMs) (p : Product)
    (hr : ∀ stock ∈ p.stock, db.reserved p.coordinate nowMs ≤ stock) :
    Covered { db with products := db.products.put p } nowMs := by
  refine ⟨h.holds, ?_, ?_⟩
  · intro a ha
    obtain ⟨q, hq, hqa⟩ := h.initialized a ha
    by_cases hpq : q.coordinate = p.coordinate
    · exact ⟨p, mem_put.2 (.inl rfl), hpq.symm.trans hqa⟩
    · exact ⟨q, mem_put.2 (.inr ⟨hq, hpq⟩), hqa⟩
  · intro q hq stock hs
    rcases mem_put.1 hq with rfl | ⟨hq, -⟩
    · exact hr stock hs
    · exact h.covered q hq stock hs

lemma requireStock_ok {value : Int} {name : String} {u : Unit} :
    requireStock value name = .ok u ↔ 0 ≤ value ∧ value ≤ maxStock := by
  simp only [requireStock, reject_ok]
  omega

lemma Covered.create (h : Covered db nowMs) {input : InitializeInput}
    (hok : initializeMerchantInventoryProduct P db input = .ok db') : Covered db' nowMs := by
  simp only [initializeMerchantInventoryProduct, run_ok] at hok
  obtain ⟨checked, hst, parts, -, -, -, -, hok⟩ := hok
  split at hok
  · cases hok
    exact h
  · rename_i hno
    cases hok
    apply h.putProduct
    intro stock hs
    have he : db.reserved input.productCoordinate nowMs = 0 := by
      apply sum_eq_zero
      intro n hn
      obtain ⟨a, ha, rfl⟩ := mem_map.1 hn
      apply share_of_ne
      intro hac
      obtain ⟨p, hp, hpa⟩ := h.initialized a ha
      exact get_eq_none.1 hno p hp (hpa.trans hac)
    rw [he]
    have hi : input.stock = some stock := hs
    obtain ⟨hno', -⟩ | ⟨value, u, hv, -, hr⟩ := optionResult_ok hst
    · rw [hi] at hno'
      cases hno'
    · obtain rfl := Option.some.inj (hv.symm.trans hi)
      exact (requireStock_ok.1 hr).1

lemma Covered.stockEdit (h : Covered db nowMs) {input : StockEditInput}
    (hn : input.nowMs = nowMs) (hok : commitMerchantInventoryStockEdit db input = .ok db') :
    Covered db' nowMs := by
  simp only [commitMerchantInventoryStockEdit, run_ok] at hok
  obtain ⟨checked, -, -, hok⟩ := hok
  split at hok
  · cases hok
  · rename_i product hp
    split at hok
    · simp only [rejects_ok, pure_ok] at hok
      exact hok.2 ▸ h
    · simp only [run_ok] at hok
      obtain ⟨-, mismatch, -, -, reserved, hr, hro, rfl⟩ := hok
      apply h.putProduct
      intro stock hs
      rw [hn] at hr
      have hsum := (reservedAllocation_assignmentsOf.1 hr).2
      have hc : product.coordinate = input.productCoordinate := key_of_get hp
      change db.reserved product.coordinate nowMs ≤ stock
      rw [hc, ← hsum]
      by_contra hlt
      exact hro ⟨stock, hs, by omega⟩

variable {rumor : Rumor} {old : Option Assignment}

lemma optionHeld (h : optionResult outstandingOrganizerStockHold old = .ok held) :
    (∀ b ∈ old, b.HoldInOrder) ∧ held.getD 0 = (old.map (·.held)).getD 0 := by
  obtain ⟨rfl, rfl⟩ | ⟨b, n, rfl, rfl, hb⟩ := optionResult_ok h
  · exact ⟨fun b hb => (by cases hb), rfl⟩
  · obtain ⟨ho, rfl⟩ := outstandingOrganizerStockHold_ok.1 hb
    exact ⟨fun b' hb' => Option.some.inj hb' ▸ ho, rfl⟩

lemma reservedElsewhere_eq {k : Text}
    (h : reservedAllocation ((db.assignmentsOf c).filter fun a => a.coordinate ≠ k) nowMs =
      .ok reserved) : reserved = db.assignments.totalOthers k (share c nowMs) := by
  rw [(reservedAllocation_ok.1 h).2, Ledger.assignmentsOf, filter_filter]
  have hs := sum_share (db.assignments.others k) id c nowMs
  rw [map_id, others, filter_filter] at hs
  simp only [Bool.and_comm] at hs ⊢
  exact hs

lemma Covered.commitRevision (h : Covered db nowMs) {product : Product} (hn : input.nowMs = nowMs)
    (hpr : db.products.get input.productCoordinate = some product)
    (he : db.assignments.get input.assignmentCoordinate = old)
    (hh : optionResult outstandingOrganizerStockHold old = .ok held)
    (htr : ¬ (held.getD 0 > 0 ∧ ¬ input.inventory.IsTracked))
    (hok : commitAssignmentRevision db input product old (held.getD 0) = .ok db') :
    Covered db' nowMs := by
  obtain ⟨hord, hh⟩ := optionHeld hh
  simp only [commitAssignmentRevision, run_ok] at hok
  obtain ⟨-, -, ht, -, elsewhere, hels, hr, rfl⟩ := hok
  rw [hn] at hels hr
  have hsum := reservedElsewhere_eq hels
  generalize hend : (input.context.map (·.occurrenceEndMs)).getD _ = occurrenceEndMs at hr ⊢
  generalize hter : ((input.context.map (·.terminal)).getD false || _) = terminal
    at hr ⊢
  have hse : (input.assignment product old occurrenceEndMs terminal).held =
      held.getD 0 := by
    rw [hh, Assignment.held]
    cases old <;> rfl
  apply h.putAssignment
  · intro hold hm
    cases old with
    | none => cases hm
    | some b =>
      obtain ⟨hw, -⟩ := hord b rfl hold hm
      refine ⟨hw, fun hpos => ?_⟩
      by_contra hnot
      apply htr
      refine ⟨?_, hnot⟩
      have hb : b.organizerStockHold = some hold := hm
      rw [hh, Option.map_some, Option.getD_some, Assignment.held, hb]
      exact hpos
  · intro b hb
    have hb' : old = some b := he.symm.trans hb
    by_contra hne
    exact ht ⟨b, hb', .inl hne⟩
  · exact ⟨product, mem_of_get hpr, key_of_get hpr⟩
  · intro p hp hpa stock hs
    have hpp : p.coordinate = input.productCoordinate := hpa
    obtain rfl : p = product := by
      have hg := Table.get_of_mem hp
      rw [hpp] at hg
      exact Option.some.inj (hg.symm.trans hpr)
    have hr' : elsewhere + max ((input.assignment p old occurrenceEndMs
        terminal).liveAllocation nowMs) (held.getD 0) ≤ stock := by
      by_contra hlt
      exact hr ⟨stock, hs, by omega⟩
    rw [hsum, ← hse] at hr'
    exact hr'

lemma Covered.commitAssignment (h : Covered db nowMs) (hn : input.nowMs = nowMs)
    (hok : commitMerchantInventoryAssignment P db input = .ok db') : Covered db' nowMs := by
  simp only [commitMerchantInventoryAssignment, bind_ok] at hok
  obtain ⟨u, -, hok⟩ := hok
  split at hok
  · cases hok
  · rename_i product hp
    simp only [run_ok] at hok
    obtain ⟨-, held, hh, ht, hok⟩ := hok
    split at hok
    · simp only [rejects_ok, pure_ok] at hok
      exact hok.2 ▸ h
    · exact h.commitRevision hn hp rfl hh ht hok

lemma Covered.congr (h : Covered db nowMs) (hp : db'.products = db.products)
    (ha : db'.assignments = db.assignments) : Covered db' nowMs := by
  refine ⟨?_, ?_, ?_⟩
  · rw [ha]
    exact h.holds
  · rw [ha, hp]
    exact h.initialized
  · rw [hp]
    intro p hpm stock hs
    rw [Ledger.reserved, ha]
    exact h.covered p hpm stock hs

lemma holdInOrder_entrusted (hgr : grant.Parses P) (hr : IsHex64 rumor.id)
    (ho : IsHex64 grant.organizerPubkey) (ht : a.inventory.IsTracked) :
    (a.entrusted rumor grant nowMs).HoldInOrder := by
  intro hold hh
  cases hh
  obtain ⟨-, -, -, hq, -⟩ := hgr
  refine ⟨⟨?_, ho, hq.1, hq.2, le_refl 0, ?_⟩, fun _ => ht⟩
  · change trim rumor.id ≠ []
    rw [trim_of_all_isHexChar hr.2]
    intro he
    rw [IsHex64, he] at hr
    cases hr.1
  · have hpos := hq.1
    change 0 ≤ grant.quantity
    omega

lemma Covered.prepare (h : Covered db nowMs) {input : PrepareInput} (hn : input.nowMs = nowMs)
    (hok : prepareMerchantOrganizerStockPool P db input = .ok db') : Covered db' nowMs := by
  simp only [prepareMerchantOrganizerStockPool, run_ok] at hok
  obtain ⟨grant, hgr, u, -, -, -, hok⟩ := hok
  obtain ⟨hid, hpar, hp⟩ := readGrant_parses hgr
  split at hok
  · simp only [run_ok] at hok
    obtain ⟨grant', -, -, rfl⟩ := hok
    exact h
  · split at hok
    · rename_i assignment product hasg hprod
      simp only [run_ok, not_not] at hok
      obtain ⟨⟨-, -, hproductOf, -, -, -, -, -, hact, hter, he, -, -, ht, hq,
        -⟩, n, -, hopen, -, rfl⟩ := hok
      have hk : assignment.coordinate = grant.assignmentCoordinate := key_of_get hasg
      rw [hn] at he ⊢
      have hput := h.replaceAssignment (a := assignment.entrusted input.grantRumor grant nowMs)
        (b := assignment) (holdInOrder_entrusted hp hid hpar.2.2.2.1 ht)
        (by change db.assignments.get assignment.coordinate = _; rw [hk]; exact hasg) rfl ?_
      · exact hput.congr rfl rfl
      · -- The hold lies within the public allocation, which reserves its units already.
        have hl : (assignment.entrusted input.grantRumor grant nowMs).liveAllocation nowMs =
            assignment.liveAllocation nowMs := rfl
        have ha : assignment.liveAllocation nowMs = assignment.inventory.quantity :=
          if_pos ⟨hact, hter, he, ht⟩
        have hh : (assignment.entrusted input.grantRumor grant nowMs).held = grant.quantity := by
          change grant.quantity - 0 = grant.quantity
          omega
        rw [effective, effective, hl, hh, ha]
        exact max_le (le_max_left _ _) (le_max_of_le_left hq)
    · cases hok

variable {input : CloseInput}

lemma Covered.closePool (h : Covered db nowMs) {pool : Pool} {qty : Int}
    (hok : Stock.closePool db input rumor grant pool qty = .ok db') : Covered db' nowMs := by
  simp only [Stock.closePool, run_ok] at hok
  obtain ⟨-, hok⟩ := hok
  split at hok
  · simp only [rejects_ok, pure_ok] at hok
    exact hok.2 ▸ h
  · split at hok
    · cases hok
    · rename_i assignment ha
      split at hok
      · cases hok
      · rename_i hold hh
        simp only [run_ok] at hok
        obtain ⟨-, n, -, rfl⟩ := hok
        have hm := mem_of_get ha
        have hk : assignment.coordinate = grant.assignmentCoordinate :=
          key_of_get ha
        have hp := h.replaceAssignment
          (a := assignment.releaseHold hold rumor input.nowMs) (b := assignment) ?_
          (by change db.assignments.get assignment.coordinate = _; rw [hk]; exact ha)
          rfl ?_
        · exact hp.congr rfl rfl
        · intro released hr
          cases hr
          obtain ⟨hw, htrac⟩ := h.holds assignment hm hold hh
          refine ⟨hw, fun hpos => ?_⟩
          simp [OrganizerStockHold.outstanding] at hpos
        · have hlive : (assignment.releaseHold hold rumor input.nowMs).liveAllocation nowMs =
              assignment.liveAllocation nowMs := rfl
          exact max_le_max_left _ (HoldInOrder.held_nonneg (h.holds assignment hm))

lemma Covered.close (h : Covered db nowMs)
    (hok : reconcileMerchantOrganizerStockClose P db input = .ok db') : Covered db' nowMs := by
  simp only [reconcileMerchantOrganizerStockClose, run_ok] at hok
  obtain ⟨-, hok⟩ := hok
  split at hok
  · cases hok
  · rename_i rumor hrum
    simp only [bind_ok] at hok
    obtain ⟨payload, -, hok⟩ := hok
    split at hok
    · rename_i close
      simp only [rejects_ok] at hok
      obtain ⟨-, hok⟩ := hok
      split at hok
      · cases hok
      · simp only [run_ok] at hok
        obtain ⟨grant, -, -, -, frontier, -, -, -, -, checked, -, hok⟩ := hok
        exact h.closePool hok
    · cases hok

/-- The known calendar brings back more units of an assignment than its product's stock has left. -/
def Revives (P : StockPlatform) (db : Ledger) (coordinate : Text) (nowMs : Int) : Prop :=
  ∃ a ∈ db.assignments.get coordinate, ∃ p ∈ db.products.get a.productCoordinate,
    ∃ stock ∈ p.stock, stock - db.reserved a.productCoordinate nowMs <
      (reconcileOccurrence P db.evidence a).effective nowMs - a.effective nowMs
  deriving Decidable

lemma Covered.reconcile (h : Covered db nowMs) {coord : Text} (hk : ¬ Revives P db coord nowMs) :
    Covered (reconcileAssignment P db coord) nowMs := by
  unfold reconcileAssignment
  split
  · exact h
  · rename_i current hc
    dsimp only
    split_ifs
    · exact h
    · have heq := reconcileOccurrence_same P db.evidence current
      have hm := mem_of_get hc
      have hg : db.assignments.get (reconcileOccurrence P db.evidence current).coordinate =
          some current := by
        rw [heq.coordinate]
        exact get_of_mem hm
      apply h.putAssignment (heq.holdInOrder (h.holds current hm))
      · intro b hb
        obtain rfl := Option.some.inj (hg.symm.trans hb)
        exact heq.productCoordinate.symm
      · rw [heq.productCoordinate]
        exact h.initialized current hm
      · intro p hp hpa stock hs
        rw [heq.productCoordinate] at hpa ⊢
        have hr : ¬ stock - db.reserved current.productCoordinate nowMs <
            (reconcileOccurrence P db.evidence current).effective nowMs -
              current.effective nowMs := fun hlt =>
          hk ⟨current, hc, p, hpa ▸ get_of_mem hp, stock, hs, hlt⟩
        rw [Ledger.reserved, total_of_get hg, share_of_eq rfl] at hr
        omega

end

end Conduit.Stock
