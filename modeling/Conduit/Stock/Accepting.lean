import Conduit.Stock.Accounts

namespace Conduit.Stock

open Js Throwing List Table Assignment Working Keyed

section
variable {P : StockPlatform} {db db' : Ledger} {nowMs : Int} {a a' : Assignment} {c : Text}
  {w w' : Working} {but : Option Text} {input : OrderInput} {item : OrderItem}
  {product : Product} {pools : DelegatedPools}

lemma Working.Touched.append (h : w.Touched a) (items : List AcceptedItem) :
    Touched { w with output := w.output ++ items } a := by
  obtain ⟨htracked, i, hi, heq⟩ := h
  exact ⟨htracked, i, mem_append_left _ hi, heq⟩

lemma Accounted.append (h : Accounted w nowMs but) (items : List AcceptedItem) :
    Accounted { w with output := w.output ++ items } nowMs but :=
  ⟨h.holds, h.overrides, h.base, h.initialized, h.loadedBase, h.owned, h.loaded, h.unloaded,
    fun a ha => (h.touched a ha).imp (fun ht => ht.append items) id⟩

variable {siblings : List Assignment} {inventory : Inventory} {stock : Int} {p' p : Product}

lemma Accounted.putProduct (h : Accounted w nowMs (some c)) (hp : w.products.get c = some product)
    (hk : p'.coordinate = c) (consumed : Text → Int) (debited : List Text) : Accounted { w with
      products := w.products.put p'
      consumed := consumed
      debitedProducts := debited } nowMs (some c) := by
  refine ⟨h.holds, h.overrides, h.base, h.initialized, ?_, ?_, ?_, ?_, h.touched⟩
  · intro p hpm
    rcases mem_put.1 hpm with rfl | ⟨hpm, -⟩
    · obtain ⟨q, hq, hqp⟩ := h.loadedBase product (mem_of_get hp)
      exact ⟨q, hq, hqp.trans ((key_of_get hp).trans hk.symm)⟩
    · exact h.loadedBase p hpm
  · intro a ha
    obtain ⟨p, hpm, hpa⟩ := h.owned a ha
    by_cases hpc : p.coordinate = c
    · exact ⟨p', mem_put.2 (.inl rfl), hk.trans (hpc.symm.trans hpa)⟩
    · exact ⟨p, mem_put.2 (.inr ⟨hpm, hk ▸ hpc⟩), hpa⟩
  · intro p hpm hne stock hs
    rcases mem_put.1 hpm with rfl | ⟨hpm, -⟩
    · exact absurd (congrArg some hk) hne
    · exact h.loaded p hpm hne stock hs
  · intro p hpm hu stock hs
    rw [get_put] at hu
    split_ifs at hu
    exact h.unloaded p hpm hu stock hs

lemma Accounted.reservedOf_put_ne (h : Accounted w nowMs but)
    (ha : w.assignments.get a.coordinate = some a) (hk : a'.coordinate = a.coordinate)
    (hc : a.productCoordinate ≠ c) :
    reservedOf { w with assignments := w.assignments.put a' } c nowMs = w.reservedOf c nowMs := by
  rw [h.reservedOf_put ha hk, if_neg hc, if_neg hc]
  omega

lemma Accounted.putOverride (h : Accounted w nowMs (some c))
    (ha : w.assignments.get a.coordinate = some a) (hc : a.productCoordinate = c)
    (hk : a'.coordinate = a.coordinate) (hpr : a'.productCoordinate = a.productCoordinate)
    (hold : a'.HoldInOrder) (ht : w.Touched a') (hp : w.products.get c = some product) :
    Accounted { w with assignments := w.assignments.put a' } nowMs (some c) := by
  refine ⟨h.holds, ?_, ?_, h.initialized, h.loadedBase, ?_, ?_, ?_, ?_⟩
  · intro b hb
    rcases mem_put.1 hb with rfl | ⟨hb, -⟩
    · exact hold
    · exact h.overrides b hb
  · intro b hb
    rcases mem_put.1 hb with rfl | ⟨hb, -⟩
    · obtain ⟨x, hx, hxa⟩ := h.base a (mem_of_get ha)
      exact ⟨x, hk ▸ hx, hxa.trans hpr.symm⟩
    · exact h.base b hb
  · intro b hb
    rcases mem_put.1 hb with rfl | ⟨hb, -⟩
    · obtain ⟨p, hpm, hpa⟩ := h.owned a (mem_of_get ha)
      exact ⟨p, hpm, hpa.trans hpr.symm⟩
    · exact h.owned b hb
  · intro p hpm hne stock hs
    rw [h.reservedOf_put_ne ha hk fun hpc => hne (congrArg some (hpc.symm.trans hc))]
    exact h.loaded p hpm hne stock hs
  · intro p hpm hu stock hs
    have hu' : w.products.get p.coordinate = none := hu
    rw [h.reservedOf_put_ne ha hk ?_]
    · exact h.unloaded p hpm hu stock hs
    · intro hpc
      rw [← hpc, hc, hp] at hu'
      cases hu'
  · intro b hb
    rcases mem_put.1 hb with rfl | ⟨hb, -⟩
    · exact .inl ht
    · exact h.touched b hb

lemma Accounted.closeProduct (h : Accounted w nowMs (some c)) (hp : w.products.get c = some product)
    (hr : ∀ stock ∈ product.stock, w.reservedOf c nowMs ≤ stock) : Accounted w nowMs none := by
  refine ⟨h.holds, h.overrides, h.base, h.initialized, h.loadedBase, h.owned, ?_, h.unloaded,
    h.touched⟩
  intro p hpm _ stock hs
  by_cases hpc : p.coordinate = c
  · have hg := Table.get_of_mem hpm
    rw [hpc, hp] at hg
    cases hg
    rw [hpc]
    exact hr stock hs
  · exact h.loaded p hpm (fun hso => hpc (Option.some.inj hso)) stock hs

structure Assigned (input : OrderInput) (pools : DelegatedPools) (item : OrderItem) (w : Working)
    (a : Assignment) (expired : Bool) : Prop where
  held : w.assignments.get a.coordinate = some a
  named : item.assignmentCoordinate = some a.coordinate
  expired_eq : expired = isExpiredSettlement input item a
  available : AssignmentAvailable input pools item a expired

variable {floored : Bool} {n : Int} {assignment : Option (Assignment × Bool)} {stock debit : Int}
  {u : Unit} {i : AcceptedItem} {result : Ledger × Acceptance}

lemma loadAssignment_cases
    (hok : loadAssignment input pools w item (w.db.assignmentsOf c) = .ok (w', assignment)) :
    (w' = w ∧ assignment = none ∧ ∀ coordinate ∈ item.assignmentCoordinate, coordinate = []) ∨
      ∃ a, assignment = some (a, isExpiredSettlement input item a) ∧
        w' = { w with assignments := w.assignments.put a } ∧
        item.assignmentCoordinate = some a.coordinate ∧
        AssignmentAvailable input pools item a (isExpiredSettlement input item a) ∧
        (w.assignments.get a.coordinate = some a ∨
          w.assignments.get a.coordinate = none ∧ a ∈ w.db.assignments.rows) := by
  unfold loadAssignment at hok
  split at hok
  · rename_i hnm
    obtain ⟨rfl, rfl⟩ := Prod.mk.inj (Except.ok.inj hok)
    refine .inl ⟨rfl, rfl, fun coordinate hco => ?_⟩
    simpa using Option.filter_eq_none_iff.1 hnm coordinate hco
  · rename_i coordinate hnm
    have hnm := Option.filter_eq_some_iff.1 hnm
    split at hok
    · cases hok
    · rename_i a hf
      simp only [rejects_ok, pure_ok, not_not] at hok
      obtain ⟨ha, hok⟩ := hok
      obtain ⟨rfl, rfl⟩ := Prod.mk.inj hok
      refine .inr ⟨a, rfl, rfl, ?_⟩
      cases hg : w.assignments.get coordinate with
      | some known =>
        rw [hg, Option.some_or] at hf
        cases hf
        have hk := key_of_get hg
        exact ⟨hk ▸ hnm.1, ha, .inl (hk ▸ hg)⟩
      | none =>
        rw [hg, Option.none_or] at hf
        have hm := mem_of_find?_eq_some hf
        have hk : a.coordinate = coordinate := by simpa using find?_some hf
        exact ⟨hk ▸ hnm.1, ha, .inr ⟨hk ▸ hg, (mem_filter.1 hm).1⟩⟩

lemma loadAssignment_accounted (h : Accounted w nowMs (some c)) (hc : item.productCoordinate = c)
    (hp : w.products.get c = some product)
    (hok : loadAssignment input pools w item (w.db.assignmentsOf c) = .ok (w', assignment)) :
    Accounted w' nowMs (some c) ∧ w'.products = w.products ∧ w'.db = w.db ∧
      w'.output = w.output ∧ w'.consumed = w.consumed ∧
      w'.reservedOf c nowMs = w.reservedOf c nowMs ∧
      ∀ x ∈ assignment, Assigned input pools item w' x.1 x.2 := by
  obtain ⟨rfl, rfl, -⟩ | ⟨a, rfl, rfl, hnm, ha, hsrc⟩ := loadAssignment_cases hok
  · exact ⟨h, rfl, rfl, rfl, rfl, rfl, fun x hx => by cases hx⟩
  · have hpr : a.productCoordinate = c := ha.1.trans hc
    have hse : (w.assignments.put a).get a.coordinate = some a := by
      rw [get_put, if_pos rfl]
    have hcur : ∀ x ∈ w.db.assignments.rows,
        current { w with assignments := w.assignments.put a } x = w.current x := by
      intro x hx
      change ((w.assignments.put a).get x.coordinate).getD x = _
      rw [get_put]
      split_ifs with hxa
      · rw [Option.getD_some]
        rcases hsrc with hg | ⟨hg, hm⟩
        · exact (current_of_get (hxa ▸ hg)).symm
        · obtain rfl : x = a := eq_of_key_eq w.db.assignments.nodup hx hm hxa
          exact (current_of_none hg).symm
      · rfl
    have hr : ∀ c', reservedOf { w with assignments := w.assignments.put a } c'
        nowMs = w.reservedOf c' nowMs := by
      intro c'
      apply total_congr
      intro x hx
      rw [hcur x hx]
    refine ⟨⟨h.holds, ?_, ?_, h.initialized, h.loadedBase, ?_, ?_, ?_, ?_⟩, rfl, rfl, rfl, rfl,
      hr c, ?_⟩
    · intro x hx
      rcases mem_put.1 hx with rfl | ⟨hx, -⟩
      · rcases hsrc with hg | ⟨-, hm⟩
        · exact h.overrides x (mem_of_get hg)
        · exact h.holds x hm
      · exact h.overrides x hx
    · intro x hx
      rcases mem_put.1 hx with rfl | ⟨hx, -⟩
      · rcases hsrc with hg | ⟨-, hm⟩
        · exact h.base x (mem_of_get hg)
        · exact ⟨x, get_of_mem hm, rfl⟩
      · exact h.base x hx
    · intro x hx
      rcases mem_put.1 hx with rfl | ⟨hx, -⟩
      · exact ⟨product, mem_of_get hp, (key_of_get hp).trans hpr.symm⟩
      · exact h.owned x hx
    · intro p hpm hne stock hs
      rw [hr]
      exact h.loaded p hpm hne stock hs
    · intro p hpm hu stock hs
      rw [hr]
      exact h.unloaded p hpm hu stock hs
    · intro x hx
      rcases mem_put.1 hx with rfl | ⟨hx, -⟩
      · rcases hsrc with hg | ⟨-, hm⟩
        · exact h.touched x (mem_of_get hg)
        · exact .inr hm
      · exact h.touched x hx
    · intro x hx
      cases hx
      exact ⟨hse, hnm, rfl, ha⟩

lemma pickedUp_tracked (h : inventory.IsTracked) : (pickedUp inventory n floored).IsTracked := by
  cases inventory with
  | tracked q => trivial
  | untracked => cases h

lemma pickedUp_quantity (h : inventory.IsTracked) : (pickedUp inventory n floored).quantity =
      if floored then max 0 (inventory.quantity - n) else inventory.quantity - n := by
  cases inventory with
  | tracked q => rfl
  | untracked => cases h

/-- The assignment after a pickup of `n` units. -/
def Assignment.picked (a : Assignment) (n : Int) (floored : Bool) : Assignment :=
  { a with inventory := pickedUp a.inventory n floored }

section

variable (htracked : a.inventory.IsTracked)
include htracked

lemma picked_holdInOrder (h : a.HoldInOrder) : (a.picked n floored).HoldInOrder :=
  fun hold hh => ⟨(h hold hh).1, fun _ => pickedUp_tracked htracked⟩

lemma picked_liveAllocation : (a.picked n floored).liveAllocation nowMs =
      if a.state = .active ∧ a.terminal = false ∧ nowMs < a.occurrenceEndMs then
        (if floored then max 0 (a.inventory.quantity - n) else a.inventory.quantity - n)
      else 0 := by
  unfold liveAllocation
  rw [show (a.picked n floored).inventory.quantity = _ from pickedUp_quantity htracked]
  have htracked' : (a.picked n floored).inventory.IsTracked := pickedUp_tracked htracked
  simp only [htracked', and_true]
  rfl

lemma picked_effective (h : a.HoldInOrder) (hpos : 1 ≤ n) (hr : n ≤ a.effective nowMs - a.held)
    : (a.picked n false).effective nowMs = a.effective nowMs - n := by
  have hheld := HoldInOrder.held_nonneg h
  have heq : (a.picked n false).held = a.held := rfl
  rw [effective, picked_liveAllocation htracked, heq]
  unfold effective liveAllocation at hr ⊢
  simp only [htracked, and_true] at hr ⊢
  split_ifs at hr ⊢ with hlive hf
  · exact absurd hf (by decide)
  · omega
  · omega

lemma picked_effective_expired (hexp : a.occurrenceEndMs ≤ nowMs) :
    (a.picked n floored).effective nowMs = a.effective nowMs := by
  have heq : (a.picked n floored).held = a.held := rfl
  rw [effective, picked_liveAllocation htracked, heq, effective,
    liveAllocation, if_neg (by omega), if_neg (by omega)]

end

lemma imports_held (h : a.HoldInOrder) (hpos : 1 ≤ n) (hr : n ≤ a.held) :
    (a.imports n).HoldInOrder ∧ (a.imports n).held = a.held - n := by
  unfold held at hr ⊢
  unfold HoldInOrder at h ⊢
  unfold imports
  cases hh : a.organizerStockHold with
  | none =>
    rw [hh] at hr
    simp at hr
    omega
  | some hold =>
    obtain ⟨⟨hid, ho, hone, hm, hzero, hle⟩, htracked⟩ := h hold hh
    rw [hh] at hr
    simp only [Option.map_some, Option.getD_some, Option.mem_some_iff, forall_eq',
      OrganizerStockHold.outstanding] at hr htracked ⊢
    cases hcls : hold.closed with
    | true =>
      rw [hcls, if_pos rfl] at hr
      omega
    | false =>
      simp only [if_neg (show ¬ (false = true) by decide)]
      refine ⟨⟨⟨hid, ho, hone, hm, ?_, ?_⟩, fun _ => htracked (by omega)⟩, by omega⟩ <;>
        dsimp only <;> omega

section

variable {assignment : Option Assignment}
  (hok : importItem w siblings item nowMs stock debit assignment = .ok w')
include hok

lemma importItem_cases :
    ∃ a remaining, assignment = some a ∧ a.inventory.IsTracked ∧ a.HoldInOrder ∧
      item.quantity ≤ a.held ∧
      w' = { w with assignments := w.assignments.put (a.imports item.quantity) } ∧
      w'.reserved siblings nowMs = .ok remaining ∧
      remaining - (a.imports item.quantity).effective nowMs +
        ((a.imports item.quantity).picked item.quantity true).effective nowMs ≤ stock - debit := by
  unfold importItem at hok
  split at hok
  · cases hok
  · rename_i a
    simp only [run_ok, outstandingOrganizerStockHold_ok, effectiveAllocation_ok] at hok
    obtain ⟨htracked, held, ⟨ho, rfl⟩, hheld, remaining, hrem, current, ⟨-, rfl⟩, next,
      ⟨-, rfl⟩, hr, rfl⟩ := hok
    simp only [not_or, not_not] at htracked
    have htracked' : (a.imports item.quantity).inventory.IsTracked := htracked.1
    refine ⟨a, remaining, rfl, htracked.1, ho, by omega, rfl, hrem, ?_⟩
    have hn : ((a.imports item.quantity).picked item.quantity true).effective nowMs =
        max (if (a.imports item.quantity).state = .active ∧
          (a.imports item.quantity).terminal = false ∧
          nowMs < (a.imports item.quantity).occurrenceEndMs then
            max 0 (a.inventory.quantity - item.quantity) else 0)
          (a.imports item.quantity).held := by
      rw [effective, picked_liveAllocation htracked', if_pos rfl]
      rfl
    rw [hn]
    exact not_lt.1 hr

lemma importItem_output : w'.output = w.output := by
  obtain ⟨a, remaining, -, -, -, -, rfl, -⟩ := importItem_cases hok
  rfl

end

lemma checkLane_cases {debit effective : Int}
    (hok : checkLane item nowMs stock debit effective assignment = .ok u) :
    (item.method ≠ .pickup ∧ effective ≤ stock - debit) ∨
      (item.method = .pickup ∧ ∃ a expired, assignment = some (a, expired) ∧
        a.inventory.IsTracked ∧ (expired = true → effective ≤ stock - debit) ∧
        (expired = false → a.HoldInOrder ∧ item.quantity ≤ a.effective nowMs - a.held ∧
          effective - item.quantity ≤ stock - debit)) := by
  unfold checkLane at hok
  split_ifs at hok with hm
  · refine .inr ⟨hm, ?_⟩
    split at hok
    · cases hok
    · rename_i a expired
      simp only [rejects_ok, not_not] at hok
      obtain ⟨htracked, hok⟩ := hok
      refine ⟨a, expired, rfl, htracked, ?_⟩
      cases expired with
      | true =>
        simp only [if_true, reject_ok] at hok
        exact ⟨fun _ => (by omega), fun hf => (by cases hf)⟩
      | false =>
        simp only [if_neg (show ¬ (false = true) by decide), bind_ok, reject_ok,
          outstandingOrganizerStockHold_ok, effectiveAllocation_ok] at hok
        obtain ⟨allocation, ⟨ho, rfl⟩, held, ⟨-, rfl⟩, hroom⟩ := hok
        exact ⟨fun ht => (by cases ht), fun _ => ⟨ho, by omega, by omega⟩⟩
  · simp only [reject_ok] at hok
    exact .inl ⟨hm, by omega⟩

lemma Accounted.settle (h : Accounted w nowMs (some c)) (hp : w.products.get c = some product)
    (hr : w.reservedOf c nowMs ≤ stock) (consumed : Text → Int) (debited : List Text) :
    Accounted { w with
      products := w.products.put { product with stock := some stock }
      consumed := consumed
      debitedProducts := debited } nowMs none := by
  have hk : product.coordinate = c := key_of_get hp
  have hk' : ({ product with stock := some stock } : Product).coordinate = c := hk
  have hg : (w.products.put { product with stock := some stock }).get c =
      some { product with stock := some stock } := by
    rw [get_put, if_pos hk'.symm]
  apply (h.putProduct hp hk' consumed debited).closeProduct hg
  intro s hs
  cases hs
  exact hr

lemma pickUp_of_ne (h : item.method ≠ .pickup) {assignment : Option Assignment} :
    w.pickUp item floored assignment = w := by
  cases assignment with
  | none => rfl
  | some a => exact if_neg fun hpic => h hpic.1

lemma pickUp_some (h : item.method = .pickup) (htracked : a.inventory.IsTracked) :
    w.pickUp item floored (some a) =
      { w with assignments := w.assignments.put (a.picked item.quantity floored) } :=
  if_pos ⟨h, htracked⟩

lemma pickUp_output {assignment : Option Assignment} :
    (w.pickUp item floored assignment).output = w.output := by
  unfold pickUp
  split
  · split_ifs <;> rfl
  · rfl

section

variable (h : Accounted w nowMs (some c))
include h

section

variable (hc : item.productCoordinate = c)
include hc

section

variable (hp : w.products.get c = some product)
include hp

section

variable (hpos : 1 ≤ item.quantity)
include hpos

lemma laneItem_accounted (hn : input.acceptedAt = nowMs)
    (hasn : ∀ x ∈ assignment, Assigned input pools item w x.1 x.2)
    (hl : checkLane item nowMs stock debit (w.reservedOf c nowMs) assignment = .ok u)
    (hi : i.assignmentCoordinate = item.assignmentCoordinate) (hmet : i.method = item.method)
    (consumed : Text → Int) {w₁ : Working} (hw₁ : w₁ = { w with consumed := consumed }) :
    Accounted { (w₁.debit product stock debit).pickUp item
        ((assignment.map (·.2)).getD false)
        (w₁.latest (assignment.map (·.1))) with
      output := w.output ++ [i] } nowMs none := by
  subst hw₁
  have happ := h.append [i]
  obtain ⟨hne, hr⟩ | ⟨hpic, a, expired, rfl, htracked, hexp, ho⟩ :=
    checkLane_cases hl
  · rw [pickUp_of_ne hne]
    exact happ.settle hp hr _ _
  · obtain ⟨hh, hnm, hs, ha⟩ := hasn (a, expired) rfl
    have hlat : latest { w with consumed := consumed }
        (((some (a, expired) : Option (Assignment × Bool))).map (·.1)) = some a :=
      congrArg some (current_of_get hh)
    have hpr : a.productCoordinate = c := ha.1.trans hc
    have hord := h.overrides a (mem_of_get hh)
    have ht : Touched { w with output := w.output ++ [i] }
        (a.picked item.quantity expired) := by
      refine ⟨pickedUp_tracked htracked, i, mem_append_right _ mem_cons_self, ?_, ?_⟩
      · exact hi.trans hnm
      · exact hmet.trans hpic
    rw [hlat, pickUp_some hpic htracked]
    have hk : (a.picked item.quantity expired).coordinate = a.coordinate := rfl
    apply (happ.putOverride hh hpr hk rfl (picked_holdInOrder htracked hord)
      ht hp).settle hp
    rw [happ.reservedOf_put hh hk, if_pos hpr, if_pos hpr]
    change w.reservedOf c nowMs - a.effective nowMs +
      (a.picked item.quantity expired).effective nowMs ≤ _
    cases expired with
    | true =>
      have he : a.occurrenceEndMs ≤ nowMs := by
        have hset := hs.symm
        simp only [isExpiredSettlement, Bool.and_eq_true, decide_eq_true_eq] at hset
        exact hn ▸ hset.2
      have hr := hexp rfl
      rw [picked_effective_expired htracked he]
      omega
    | false =>
      obtain ⟨-, hav, hr⟩ := ho rfl
      rw [picked_effective htracked hord hpos hav]
      omega

lemma importedItem_accounted (hpic : item.method = .pickup)
    (hasn : ∀ x ∈ assignment, Assigned input pools item w x.1 x.2) {w₁ w₂ : Working}
    (hw₁ : w₁ = { w with consumed := w₁.consumed })
    (hok : importItem w₁ (w.db.assignmentsOf c) item nowMs stock debit
      (assignment.map (·.1)) = .ok w₂)
    (hi : i.assignmentCoordinate = item.assignmentCoordinate) (hm : i.method = item.method) :
    Accounted { (w₂.debit product stock debit).pickUp item true
        (w₂.latest (assignment.map (·.1))) with
      output := w.output ++ [i] } nowMs none := by
  generalize hcon : w₁.consumed = consumed at hw₁
  subst hw₁
  have happ := h.append [i]
  obtain ⟨a, remaining, hasg, htracked, ho, hr, rfl, hrem, hcov⟩ :=
    importItem_cases hok
  obtain ⟨x, rfl, rfl⟩ : ∃ x, assignment = some x ∧ x.1 = a := by
    simpa [Option.map_eq_some_iff] using hasg
  obtain ⟨a, expired⟩ := x
  obtain ⟨hh, hnm, -, ha⟩ := hasn _ rfl
  dsimp only at *
  have hpr : a.productCoordinate = c := ha.1.trans hc
  have himp := imports_held ho hpos hr
  have htracked' : (a.imports item.quantity).inventory.IsTracked := htracked
  have hpr' : (a.imports item.quantity).productCoordinate = c := hpr
  have ht : ∀ a' : Assignment, a'.coordinate = a.coordinate → a'.inventory.IsTracked →
      Touched { w with output := w.output ++ [i] } a' := by
    intro a' hk htracked'
    refine ⟨htracked', i, mem_append_right _ mem_cons_self, ?_, hm.trans hpic⟩
    rw [hi, hnm, hk]
  have hput : (w.assignments.put (a.imports item.quantity)).get a.coordinate =
      some (a.imports item.quantity) := by
    rw [get_put]
    exact if_pos rfl
  have hl : latest { w with
      assignments := w.assignments.put (a.imports item.quantity)
      consumed := consumed } (((some (a, expired) : Option (Assignment × Bool))).map (·.1)) =
        some (a.imports item.quantity) :=
    congrArg some (current_of_get hput)
  have hk : (a.imports item.quantity).coordinate = a.coordinate := rfl
  have hk' : ((a.imports item.quantity).picked item.quantity true).coordinate =
    (a.imports item.quantity).coordinate := rfl
  have hf := happ.putOverride hh hpr hk rfl himp.1
    (ht _ rfl htracked) hp
  rw [hl, pickUp_some hpic htracked']
  apply (hf.putOverride hput hpr' hk' rfl (picked_holdInOrder htracked' himp.1)
    (ht _ rfl (pickedUp_tracked htracked')) hp).settle hp
  rw [hf.reservedOf_put hput hk', if_pos hpr', if_pos hpr']
  have hs := reserved_assignmentsOf hrem
  change reservedOf { w with
    assignments := w.assignments.put (a.imports item.quantity)
    output := w.output ++ [i] } c nowMs - _ + _ ≤ _
  change remaining = reservedOf { w with
    assignments := w.assignments.put (a.imports item.quantity)
    output := w.output ++ [i] } c nowMs at hs
  omega

lemma trackedItem_accounted (hn : input.acceptedAt = nowMs)
    (hpi : input.organizerImport.isSome = true → item.method = .pickup)
    (ha : ∀ x ∈ assignment, Assigned input pools item w x.1 x.2)
    (hok : trackedItem input w item (w.db.assignmentsOf c) product stock (w.reservedOf c nowMs)
      assignment = .ok w') (hi : i.assignmentCoordinate = item.assignmentCoordinate)
    (hm : i.method = item.method) :
    Accounted { w' with output := w'.output ++ [i] } nowMs none := by
  simp only [trackedItem, run_ok] at hok
  obtain ⟨-, w₂, ht, rfl⟩ := hok
  rw [pickUp_output]
  have ho : (w₂.debit product stock
      (item.quantity - min item.quantity (w.consumed item.productCoordinate))).output =
        w₂.output := rfl
  rw [ho]
  unfold takeUnits at ht
  split_ifs at ht with himp
  · rw [hn] at ht
    rw [himp, Bool.true_or, importItem_output ht]
    exact importedItem_accounted h hc hp hpos (hpi himp) ha rfl ht hi hm
  · simp only [run_ok] at ht
    obtain ⟨u, hl, rfl⟩ := ht
    rw [hn] at hl
    rw [Bool.not_eq_true] at himp
    rw [himp, Bool.false_or]
    exact laneItem_accounted h hc hp hpos hn ha hl hi hm _ rfl

end

end

end

end

lemma checkItem_ok (h : checkItem item = .ok u) : 1 ≤ item.quantity := by
  simp only [checkItem, run_ok, not_or, not_lt] at h
  exact h.1.1

lemma acceptItem_accounted (h : Accounted w nowMs none) (hpos : 1 ≤ item.quantity)
    (hn : input.acceptedAt = nowMs)
    (hpi : input.organizerImport.isSome = true → item.method = .pickup)
    (hok : acceptItem P input pools w item = .ok w') : Accounted w' nowMs none := by
  simp only [acceptItem, run_ok] at hok
  obtain ⟨⟨w₁, product⟩, hl, ⟨w₂, assignment⟩, ha, effective, he, taken, ht, rfl⟩ := hok
  obtain ⟨h₁, hp⟩ := loadProduct_accounted h hl
  obtain ⟨h₂, hpr, hdb, hout, -, -, hasg⟩ := loadAssignment_accounted h₁ rfl hp
    ha
  rw [hn, ← hdb] at he
  obtain rfl := reserved_assignmentsOf he
  rw [← hpr] at hp
  rw [← hdb] at ht
  unfold takeItem at ht
  split at ht
  · exact trackedItem_accounted h₂ rfl hp hpos hn hpi hasg ht rfl rfl
  · rename_i hu
    simp only [run_ok] at ht
    obtain ⟨u, -, rfl⟩ := ht
    apply (h₂.append _).closeProduct hp
    rw [hu]
    exact fun stock hs => (by cases hs)

lemma stored_share : (a.stored input).share c nowMs = a.share c nowMs := rfl

def Working.written (w : Working) (input : OrderInput) : List Assignment :=
  (w.assignments.rows.filter fun a => w.Touched a).map fun a => a.stored input

lemma Working.written_nodup (w : Working) (input : OrderInput) :
    ((w.written input).map coordinate).Nodup := by
  rw [written, map_map]
  exact w.assignments.nodup.sublist (filter_sublist.map coordinate)

lemma mem_written : a' ∈ w.written input ↔
    ∃ a ∈ w.assignments.rows, w.Touched a ∧ a.stored input = a' := by
  simp [written, and_assoc]

lemma Accounted.share_written (h : Accounted w nowMs but) (hb : b ∈ w.db.assignments.rows) :
    (((w.written input).find? fun a => decide (a.coordinate = b.coordinate)).getD b).share c nowMs =
      (w.current b).share c nowMs := by
  cases hf : (w.written input).find? fun a => decide (a.coordinate = b.coordinate) with
  | some a' =>
    obtain ⟨hm, hk⟩ := (find?_key_iff (w.written_nodup input)).1 hf
    obtain ⟨a, ha, -, rfl⟩ := mem_written.1 hm
    have hk : a.coordinate = b.coordinate := hk
    rw [Option.getD_some, stored_share, current_of_get (hk ▸ Table.get_of_mem ha)]
  | none =>
    rw [Option.getD_none]
    cases hg : w.assignments.get b.coordinate with
    | none => rw [current_of_none hg]
    | some a =>
      have hm := mem_of_get hg
      have hk := key_of_get hg
      rw [current_of_get hg]
      rcases h.touched a hm with ht | hr
      · have hn := find?_eq_none.1 hf (a.stored input)
          (mem_written.2 ⟨a, hm, ht, rfl⟩)
        exact absurd (decide_eq_true hk) hn
      · rw [eq_of_key_eq w.db.assignments.nodup hr hb hk]

lemma Accounted.reserved_written (h : Accounted w nowMs but) :
    (w.storeAssignments input).total (share c nowMs) = w.reservedOf c nowMs := by
  change (w.db.assignments.putAll (w.written input)).total _ = _
  rw [total_putAll (w.written_nodup input)]
  · apply total_congr
    intro b hb
    rw [h.share_written hb, share, (h.current hb).2.1]
  · intro a' ha'
    obtain ⟨a, ha, -, rfl⟩ := mem_written.1 ha'
    obtain ⟨b, hb, -⟩ := h.base a ha
    exact ⟨b, mem_of_get hb, key_of_get hb⟩

lemma mem_storeAssignments : a ∈ (w.storeAssignments input).rows ↔
    a ∈ w.written input ∨ a ∈ w.db.assignments.rows ∧
      ∀ a' ∈ w.written input, a'.coordinate ≠ a.coordinate :=
  mem_putAll (w.written_nodup input)

def Working.writtenProducts (w : Working) (input : OrderInput) : List Product :=
  w.products.rows.map fun product =>
    product.stored input (w.debitedProducts.contains product.coordinate)

lemma Working.mem_storeProducts : p ∈ (w.storeProducts input).rows ↔
    p ∈ w.writtenProducts input ∨ p ∈ w.db.products.rows ∧
      ∀ p' ∈ w.writtenProducts input, p'.coordinate ≠ p.coordinate := by
  apply mem_putAll
  rw [map_map]
  exact w.products.nodup

lemma mem_writtenProducts : p' ∈ w.writtenProducts input ↔
    ∃ p ∈ w.products.rows, p.stored input (w.debitedProducts.contains p.coordinate) = p' :=
  mem_map

lemma mem_storeProducts_of_mem (input : OrderInput) (hp : p ∈ w.db.products.rows) :
    ∃ p' ∈ (w.storeProducts input).rows, p'.coordinate = p.coordinate := by
  by_cases hw : ∃ p' ∈ w.writtenProducts input, p'.coordinate = p.coordinate
  · obtain ⟨p', hp', hk⟩ := hw
    exact ⟨p', mem_storeProducts.2 (.inl hp'), hk⟩
  · refine ⟨p, mem_storeProducts.2 (.inr ⟨hp, ?_⟩), rfl⟩
    exact fun p' hp' hk => hw ⟨p', hp', hk⟩

lemma Accounted.covered (h : Accounted w nowMs none) (hprod : db'.products = w.storeProducts input)
    (hasn : db'.assignments = w.storeAssignments input) : Covered db' nowMs := by
  have hr : ∀ c, db'.reserved c nowMs = w.reservedOf c nowMs := by
    intro c
    rw [Ledger.reserved, hasn]
    exact h.reserved_written
  refine ⟨?_, ?_, ?_⟩
  · intro a ha
    rw [hasn] at ha
    rcases mem_storeAssignments.1 ha with hw | ⟨ha, -⟩
    · obtain ⟨b, hb, -, rfl⟩ := mem_written.1 hw
      exact h.overrides b hb
    · exact h.holds a ha
  · intro a ha
    rw [hasn] at ha
    obtain ⟨p, hp, hpa⟩ : ∃ p ∈ w.db.products.rows, p.coordinate = a.productCoordinate := by
      rcases mem_storeAssignments.1 ha with hw | ⟨ha, -⟩
      · obtain ⟨a, ho, -, rfl⟩ := mem_written.1 hw
        obtain ⟨b, hb, hpr⟩ := h.base a ho
        obtain ⟨p, hp, hpb⟩ := h.initialized b (mem_of_get hb)
        exact ⟨p, hp, hpb.trans hpr⟩
      · exact h.initialized a ha
    obtain ⟨p', hp', hk⟩ := mem_storeProducts_of_mem input hp
    exact ⟨p', hprod ▸ hp', hk.trans hpa⟩
  · intro p hp stock hs
    rw [hprod] at hp
    rw [hr]
    rcases mem_storeProducts.1 hp with hw | ⟨hp, hn⟩
    · obtain ⟨q, hq, rfl⟩ := mem_writtenProducts.1 hw
      exact h.loaded q hq (by simp) stock hs
    · apply h.unloaded p hp _ stock hs
      apply get_eq_none.2
      intro q hq hk
      exact hn _ (mem_writtenProducts.2 ⟨q, hq, rfl⟩) hk

lemma checkOrder_items (h : checkOrder input = .ok u) :
    ∀ item ∈ input.items, 1 ≤ item.quantity := by
  simp only [checkOrder, run_ok] at h
  obtain ⟨-, -, -, -, -, -, -, checked, hitems, -⟩ := h
  intro item hitem
  obtain ⟨i, hi, rfl⟩ := getElem_of_mem hitem
  have hl := mapResult_length hitems
  exact checkItem_ok ((mapResult_eq_ok_getElem?.1 hitems).2 i _ _ (getElem?_eq_getElem hi)
    (getElem?_eq_getElem (hl.symm ▸ hi)))

lemma Covered.decideOrder (h : Covered db nowMs) {prior : Option AcceptedOrder}
    (hn : input.acceptedAt = nowMs) (hpos : ∀ item ∈ input.items, 1 ≤ item.quantity)
    (hpi : input.organizerImport.isSome = true → ∀ item ∈ input.items, item.method = .pickup)
    (hok : Stock.decideOrder P db input prior = .ok result) : Covered result.1 nowMs := by
  simp only [Stock.decideOrder, run_ok] at hok
  obtain ⟨pools, -, begun, hb, w, hw, stored, hsto, -, -, -, -, rfl⟩ := hok
  simp only [beginAcceptance, run_ok] at hb
  obtain ⟨consumed, -, rfl⟩ := hb
  have ha : Accounted w nowMs none := foldResult_keeps
    (p := fun w => Accounted w nowMs none)
    (fun item hi c c' hc hs => acceptItem_accounted hc (hpos item hi) hn
      (fun himp => hpi himp item hi) hs)
    (h.accounted consumed) hw
  exact ha.covered rfl rfl

lemma replayImport_same {v : VerifiedImport} {provenance : Attribution}
    (h : replayImport P db input v provenance = .ok db') :
    db'.products = db.products ∧ db'.assignments = db.assignments := by
  simp only [replayImport, run_ok] at h
  obtain ⟨-, -, entries, -, -, -, -, -, rfl⟩ := h
  exact ⟨rfl, rfl⟩

lemma Covered.accept (h : Covered db nowMs) (hn : input.acceptedAt = nowMs)
    (hpi : input.organizerImport.isSome = true → ∀ item ∈ input.items, item.method = .pickup)
    (hok : acceptMerchantInventoryOrder P db input = .ok result) : Covered result.1 nowMs := by
  simp only [acceptMerchantInventoryOrder, bind_ok] at hok
  obtain ⟨u, hchk, hok⟩ := hok
  have hpos := checkOrder_items hchk
  split at hok
  · exact h.decideOrder hn hpos hpi hok
  · simp only [rejects_ok] at hok
    obtain ⟨-, hok⟩ := hok
    split at hok
    · cases hok
      exact h
    · simp only [run_ok] at hok
      obtain ⟨db', hr, rfl⟩ := hok
      obtain ⟨hpr, ha⟩ := replayImport_same hr
      exact h.congr hpr ha
    · exact h.decideOrder hn hpos hpi hok

end

end Conduit.Stock
