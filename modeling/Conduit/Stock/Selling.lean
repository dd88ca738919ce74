import Conduit.Stock.Holding

namespace Conduit.Stock

open Js Throwing List Table

def handed (items : List OrderItem) (coordinate : Text) : Int :=
  (items.map fun i => if i.assignmentCoordinate = some coordinate then i.quantity else 0).sum

structure HeldBy (db : Ledger) (sold : Text → Int) (w : Working) : Prop where
  ledger : Reconciles db w.db
  overrides : ∀ a ∈ w.assignments.rows,
    a.holding = (db.holding a.coordinate).map fun h => h.imports (sold a.coordinate)
  untouched : ∀ c, w.assignments.get c = none → sold c = 0
  touched : ∀ a ∈ w.assignments.rows, sold a.coordinate ≠ 0 → w.Touched a
  products : ∀ p ∈ w.products.rows, db.owner p.coordinate = some p.merchantPubkey
  tracked : db.TracksHeld → ∀ a ∈ w.assignments.rows, 0 < a.held → a.inventory.IsTracked

section
variable {P : StockPlatform} {db db' : Ledger} {a : Assignment} {c : Text} {w w' : Working}
  {sold : Text → Int} {input : OrderInput} {item : OrderItem} {product : Product}
  {pools : DelegatedPools} {asg : Option (Assignment × Bool)}

lemma heldBy_begin (db : Ledger) (consumed : Text → Int) : HeldBy db (fun _ => 0) {
    db := db
    products := .empty
    assignments := .empty
    consumed := consumed
    debitedProducts := []
    output := [] } := by
  refine ⟨.refl db, ?_, fun _ _ => rfl, ?_, ?_, fun _ => ?_⟩ <;>
    exact fun _ hm => absurd hm not_mem_nil

lemma handed_cons (item : OrderItem) (items : List OrderItem) (c : Text) :
    handed (item :: items) c =
      (if item.assignmentCoordinate = some c then item.quantity else 0) + handed items c := by
  rw [handed, map_cons, sum_cons, handed]

lemma handed_append (items items' : List OrderItem) (c : Text) :
    handed (items ++ items') c = handed items c + handed items' c := by
  rw [handed, map_append, sum_append, handed, handed]

lemma loadProduct_held (h : HeldBy db sold w)
    (hok : loadProduct P input w item = .ok (w', product)) :
    HeldBy db sold w' ∧ w'.assignments = w.assignments ∧ w'.output = w.output ∧
      w'.products.get item.productCoordinate = some product := by
  unfold loadProduct at hok
  split at hok
  · rename_i known hg
    obtain ⟨rfl, rfl⟩ := Prod.mk.inj (Except.ok.inj hok)
    exact ⟨h, rfl, rfl, hg⟩
  · split at hok
    · cases hok
    · rename_i known hg
      simp only [rejects_ok, pure_ok] at hok
      obtain ⟨-, -, hok⟩ := hok
      obtain ⟨rfl, rfl⟩ := Prod.mk.inj hok
      have hk : known.coordinate = item.productCoordinate := key_of_get hg
      refine ⟨⟨h.ledger.trans (reconcileKnownOccurrenceLifecycle_reconciles P w.db _ _),
        h.overrides, h.untouched, h.touched, ?_, h.tracked⟩, rfl, rfl, ?_⟩
      · intro p hp
        rcases mem_put.1 hp with rfl | ⟨hp, -⟩
        · rw [Ledger.owner, ← h.ledger.products, hk, hg]
          rfl
        · exact h.products p hp
      · change (w.products.put known).get item.productCoordinate = some known
        rw [← hk, get_put_self]

lemma loadAssignment_held (h : HeldBy db sold w)
    (hok : loadAssignment input pools w item (w.db.assignmentsOf c) = .ok (w', asg)) :
    HeldBy db sold w' ∧ w'.products = w.products ∧ w'.db = w.db ∧ w'.output = w.output ∧
      ∀ x ∈ asg, Assigned input pools item w' x.1 x.2 := by
  obtain ⟨rfl, rfl, -⟩ | ⟨a, rfl, rfl, hnm, ha, hsrc⟩ := loadAssignment_cases hok
  · exact ⟨h, rfl, rfl, rfl, fun x hx => by cases hx⟩
  · refine ⟨⟨h.ledger, ?_, ?_, ?_, h.products, ?_⟩, rfl, rfl, rfl, ?_⟩
    · intro b hb
      rcases mem_put.1 hb with rfl | ⟨hb, -⟩
      · rcases hsrc with hg | ⟨hn, hr⟩
        · exact h.overrides b (mem_of_get hg)
        · rw [h.untouched _ hn, Holding.map_imports_zero, ← h.ledger.holding,
            holding_of_get (get_of_mem hr)]
      · exact h.overrides b hb
    · intro c hc
      rw [get_put] at hc
      split_ifs at hc
      exact h.untouched c hc
    · intro b hb hs
      rcases mem_put.1 hb with rfl | ⟨hb, -⟩
      · rcases hsrc with hg | ⟨hn, -⟩
        · exact h.touched b (mem_of_get hg) hs
        · exact absurd (h.untouched _ hn) hs
      · exact h.touched b hb hs
    · intro hdb b hb hp
      rcases mem_put.1 hb with rfl | ⟨hb, -⟩
      · rcases hsrc with hg | ⟨-, hr⟩
        · exact h.tracked hdb b (mem_of_get hg) hp
        · exact h.ledger.keeps.tracked hdb b hr hp
      · exact h.tracked hdb b hb hp
    · intro x hx
      cases hx
      exact ⟨get_put_self _ a, hnm, rfl, ha⟩

lemma HeldBy.keeps (h : HeldBy db sold w) (hdb : w'.db = w.db)
    (hasn : ∀ b ∈ w'.assignments.rows, ∃ a ∈ w.assignments.rows,
      b.coordinate = a.coordinate ∧ b.holding = a.holding ∧ (w.Touched a → w'.Touched b) ∧
        b.held = a.held ∧ b.inventory = a.inventory)
    (hke : ∀ a ∈ w.assignments.rows, ∃ b ∈ w'.assignments.rows, b.coordinate = a.coordinate)
    (hpr : ∀ p ∈ w'.products.rows, ∃ q ∈ w.products.rows,
      p.coordinate = q.coordinate ∧ p.merchantPubkey = q.merchantPubkey) : HeldBy db sold w' := by
  refine ⟨hdb ▸ h.ledger, ?_, ?_, ?_, ?_, ?_⟩
  · intro b hb
    obtain ⟨a, ha, hk, hhol, -⟩ := hasn b hb
    rw [hhol, hk]
    exact h.overrides a ha
  · intro c hc
    apply h.untouched c
    rw [get_eq_none] at hc ⊢
    intro a ha hk
    obtain ⟨b, hb, hba⟩ := hke a ha
    exact hc b hb (hba.trans hk)
  · intro b hb hs
    obtain ⟨a, ha, hk, -, ht, -⟩ := hasn b hb
    exact ht (h.touched a ha (hk ▸ hs))
  · intro p hp
    obtain ⟨q, hq, hk, hm⟩ := hpr p hp
    rw [hk, hm]
    exact h.products q hq
  · intro hdb b hb hpos
    obtain ⟨a, ha, -, -, -, hh, hi⟩ := hasn b hb
    rw [hi]
    exact h.tracked hdb a ha (hh ▸ hpos)

variable {items : List OrderItem} {n : Int}

lemma picked_holding {floored : Bool} : (a.picked n floored).holding = a.holding := rfl

lemma imports_holding : (a.imports n).holding = a.holding.map fun h => h.imports n := by
  simp only [Assignment.holding, Assignment.imports, Option.map_map]
  rfl

lemma putProduct_merchant (stock : Int) (hp : w.products.get c = some product) :
    ∀ p ∈ (w.products.put { product with stock := some stock }).rows, ∃ q ∈ w.products.rows,
      p.coordinate = q.coordinate ∧ p.merchantPubkey = q.merchantPubkey := by
  intro p hpm
  rcases mem_put.1 hpm with rfl | ⟨hpm, -⟩
  · exact ⟨product, mem_of_get hp, rfl, rfl⟩
  · exact ⟨p, hpm, rfl, rfl⟩

variable {siblings : List Assignment} {stock effective : Int}

lemma trackedItem_cases
    (hok : trackedItem input w item siblings product stock effective asg = .ok w') :
    ∃ consumed debit w₂, takeUnits input { w with consumed := consumed } item siblings stock debit
        effective asg = .ok w₂ ∧
      w' = (w₂.debit product stock debit).pickUp item
        (input.organizerImport.isSome || (asg.map (·.2)).getD false)
        (w₂.latest (asg.map (·.1))) := by
  simp only [trackedItem, run_ok] at hok
  obtain ⟨-, w₂, ht, rfl⟩ := hok
  exact ⟨_, _, w₂, ht, rfl⟩

lemma laneItem_held (h : HeldBy db sold w) (hi : input.organizerImport = none)
    (hp : w.products.get c = some product) (hassigned : ∀ x ∈ asg,
      w.assignments.get x.1.coordinate = some x.1 ∧ sold x.1.coordinate = 0)
    (hok : trackedItem input w item siblings product stock effective asg = .ok w') :
    HeldBy db sold w' := by
  obtain ⟨consumed, debit, w₂, ht, rfl⟩ := trackedItem_cases hok
  simp only [takeUnits, hi, Option.isSome_none, if_neg (show ¬ (false = true) by decide),
    run_ok] at ht
  obtain ⟨-, -, rfl⟩ := ht
  have hf : ∀ {w₃ : Working}, w₃.db = w.db → w₃.output = w.output →
      w₃.assignments = w.assignments → (∀ p ∈ w₃.products.rows, ∃ q ∈ w.products.rows,
        p.coordinate = q.coordinate ∧ p.merchantPubkey = q.merchantPubkey) → HeldBy db sold w₃ := by
    intro w₃ hdb ho hasn hpr
    refine h.keeps hdb (fun b hb => ?_) (fun a ha => ?_) hpr
    · rw [hasn] at hb
      refine ⟨b, hb, rfl, rfl, fun hto => ?_, rfl, rfl⟩
      unfold Working.Touched at hto ⊢
      rwa [ho]
    · exact ⟨a, hasn ▸ ha, rfl⟩
  have hd := putProduct_merchant (stock - debit) hp
  have hl : ∀ (a : Assignment) (expired : Bool), w.assignments.get a.coordinate = some a →
      Working.latest { w with consumed := consumed }
        (((some (a, expired) : Option (Assignment × Bool))).map (·.1)) = some a :=
    fun a _ hg => congrArg some (current_of_get hg)
  cases hasg : asg with
  | none => exact hf rfl rfl rfl hd
  | some x =>
    obtain ⟨a, expired⟩ := x
    obtain ⟨hg, hs⟩ := hassigned (a, expired) hasg
    by_cases hpi : item.method = .pickup ∧ a.inventory.IsTracked
    · rw [hl a expired hg, pickUp_some hpi.1 hpi.2]
      refine ⟨h.ledger, ?_, ?_, ?_, ?_, ?_⟩
      · intro b hb
        rcases mem_put.1 hb with rfl | ⟨hb, -⟩
        · exact h.overrides a (mem_of_get hg)
        · exact h.overrides b hb
      · intro c hc
        rw [get_eq_none] at hc
        apply h.untouched c
        rw [get_eq_none]
        intro b hb hk
        by_cases hba : b.coordinate = a.coordinate
        · exact hc _ (mem_put.2 (.inl rfl)) (hba.symm.trans hk)
        · exact hc b (mem_put.2 (.inr ⟨hb, hba⟩)) hk
      · intro b hb hne
        rcases mem_put.1 hb with rfl | ⟨hb, -⟩
        · exact absurd hs hne
        · exact h.touched b hb hne
      · intro p hpm
        obtain ⟨q, hq, hk, hmer⟩ := hd p hpm
        rw [hk, hmer]
        exact h.products q hq
      · intro hdb b hb hpos
        rcases mem_put.1 hb with rfl | ⟨hb, -⟩
        · exact pickedUp_tracked hpi.2
        · exact h.tracked hdb b hb hpos
    · rw [hl a expired hg, show Working.pickUp _ item _ (some a) = _ from if_neg hpi]
      exact hf rfl rfl rfl hd

lemma importedItem_held (h : HeldBy db sold w) (him : input.organizerImport.isSome = true)
    (hpic : item.method = .pickup) (hp : w.products.get c = some product)
    (ha : ∀ x ∈ asg, Assigned input pools item w x.1 x.2)
    (hok : trackedItem input w item siblings product stock effective asg = .ok w')
    {i : AcceptedItem} (hi : i.assignmentCoordinate = item.assignmentCoordinate)
    (hm : i.method = item.method) :
    HeldBy db (fun c => sold c + if item.assignmentCoordinate = some c then item.quantity else 0)
      { w' with output := w'.output ++ [i] } := by
  obtain ⟨consumed, debit, w₂, himp, rfl⟩ := trackedItem_cases hok
  rw [takeUnits, if_pos him] at himp
  rw [him, Bool.true_or]
  obtain ⟨a, remaining, hasg, ht, -, -, rfl, -⟩ := importItem_cases himp
  obtain ⟨x, rfl, rfl⟩ : ∃ x, asg = some x ∧ x.1 = a := by
    simpa [Option.map_eq_some_iff] using hasg
  obtain ⟨a, expired⟩ := x
  obtain ⟨hh, hnm, -, -⟩ := ha _ rfl
  have hs : (w.assignments.put (a.imports item.quantity)).get a.coordinate =
      some (a.imports item.quantity) := get_put_self _ (a.imports item.quantity)
  have ht' : (a.imports item.quantity).inventory.IsTracked := ht
  have hl : Working.latest { w with
      assignments := w.assignments.put (a.imports item.quantity)
      consumed := consumed } (((some (a, expired) : Option (Assignment × Bool))).map (·.1)) =
        some (a.imports item.quantity) :=
    congrArg some (current_of_get hs)
  rw [hl, pickUp_some hpic ht']
  have hr : ∀ b ∈ ((w.assignments.put (a.imports item.quantity)).put
      ((a.imports item.quantity).picked item.quantity true)).rows,
      b = (a.imports item.quantity).picked item.quantity true ∨
        b ∈ w.assignments.rows ∧ b.coordinate ≠ a.coordinate := by
    intro b hb
    rcases mem_put.1 hb with rfl | ⟨hb, hne⟩
    · exact .inl rfl
    · rcases mem_put.1 hb with rfl | ⟨hb, -⟩
      · exact absurd rfl hne
      · exact .inr ⟨hb, hne⟩
  have ho : ∀ b : Assignment, b.coordinate ≠ a.coordinate → (sold b.coordinate +
      if item.assignmentCoordinate = some b.coordinate then item.quantity else 0) =
        sold b.coordinate := by
    intro b hne
    rw [if_neg, add_zero]
    rw [hnm]
    exact fun heq => hne (Option.some.inj heq).symm
  refine ⟨h.ledger, ?_, ?_, ?_, ?_, ?_⟩
  · intro b hb
    rcases hr b hb with rfl | ⟨hb, hne⟩
    · rw [picked_holding, imports_holding, h.overrides a (mem_of_get hh), Option.map_map]
      congr 1
      funext x
      simp [Holding.imports, hnm, add_assoc, Assignment.picked, Assignment.imports]
    · rw [ho b hne]
      exact h.overrides b hb
  · intro c hc
    have hca : a.coordinate ≠ c := by
      have hn := get_eq_none.1 hc _ (mem_put.2 (.inl rfl))
      exact hn
    have hco : w.assignments.get c = none := by
      rw [get_eq_none]
      intro b hb hk
      refine get_eq_none.1 hc b (mem_put.2 (.inr ⟨mem_put.2 (.inr ⟨hb, ?_⟩), ?_⟩)) hk
      · exact fun heq => hca (heq.symm.trans hk)
      · exact fun heq => hca (heq.symm.trans hk)
    rw [h.untouched c hco, if_neg, add_zero]
    rw [hnm]
    exact fun heq => hca (Option.some.inj heq)
  · intro b hb hne
    rcases hr b hb with rfl | ⟨hb, hba⟩
    · refine ⟨pickedUp_tracked ht', i, mem_append_right _ mem_cons_self, ?_,
        hm.trans hpic⟩
      exact hi.trans hnm
    · rw [ho b hba] at hne
      exact (h.touched b hb hne).append [i]
  · intro p hpm
    obtain ⟨q, hq, hk, hmer⟩ := putProduct_merchant (stock - debit) hp p hpm
    rw [hk, hmer]
    exact h.products q hq
  · intro hdb b hb hpos
    rcases hr b hb with rfl | ⟨hb, -⟩
    · exact pickedUp_tracked ht'
    · exact h.tracked hdb b hb hpos

lemma HeldBy.append (h : HeldBy db sold w) (items : List AcceptedItem) :
    HeldBy db sold { w with output := w.output ++ items } :=
  ⟨h.ledger, h.overrides, h.untouched, fun a ha hs => (h.touched a ha hs).append items,
    h.products, h.tracked⟩

lemma someResult_eq_false {α : Type} {f : α → Result Bool} {l : List α}
    (h : someResult f l = .ok false) : ∀ a ∈ l, f a = .ok false := by
  induction l with
  | nil => simp
  | cons a l ih =>
    simp only [someResult, bind_ok] at h
    obtain ⟨b, hb, h⟩ := h
    cases b with
    | true => cases h
    | false => exact forall_mem_cons.2 ⟨hb, ih h⟩

lemma not_checkUntracked (ha : a ∈ siblings) (hh : 0 < a.held) :
    checkUntracked siblings ≠ .ok () := by
  intro hok
  simp only [checkUntracked, bind_ok, reject_ok, Bool.not_eq_true] at hok
  obtain ⟨mismatch, hm, rfl⟩ := hok
  have hf := someResult_eq_false hm a ha
  simp only [bind_ok, outstandingOrganizerStockHold_ok, pure_ok] at hf
  obtain ⟨held, ⟨-, rfl⟩, hf⟩ := hf
  have hn : ¬ (a.held > 0 ∨ (a.state = .active ∧ a.inventory ≠ .untracked)) := by
    simpa using hf.symm
  exact hn (.inl hh)

lemma held_pos_holding (h : 0 < a.held) : ∃ hold, a.organizerStockHold = some hold := by
  cases hh : a.organizerStockHold with
  | none =>
    rw [Assignment.held, hh] at h
    exact absurd h (lt_irrefl 0)
  | some hold => exact ⟨hold, rfl⟩

lemma laneItems_held (h : HeldBy db (fun _ => 0) w) (hi : input.organizerImport = none)
    (hok : foldResult (acceptItem P input pools) w items = .ok w') : HeldBy db (fun _ => 0) w' := by
  refine foldResult_keeps (p := fun w => HeldBy db (fun _ => 0) w) ?_ h hok
  intro item _ w w' h hok
  simp only [acceptItem, run_ok] at hok
  obtain ⟨⟨w₁, product⟩, hl, ⟨w₂, asg⟩, ha, effective, -, taken, ht, rfl⟩ :=
    hok
  obtain ⟨h₁, -, -, hp⟩ := loadProduct_held h hl
  obtain ⟨h₂, hpr, -, -, hasg⟩ := loadAssignment_held h₁ ha
  apply HeldBy.append
  unfold takeItem at ht
  split at ht
  · refine laneItem_held h₂ hi (hpr ▸ hp) (fun x hx => ?_) ht
    exact ⟨(hasg x hx).held, rfl⟩
  · simp only [run_ok] at ht
    obtain ⟨-, -, rfl⟩ := ht
    exact h₂

def StillHeld (db : Ledger) (pools : DelegatedPools) : Prop :=
  ∀ c, (pools.get c).isSome = true → ∃ b ∈ db.assignments.get c, 0 < b.held

lemma delegatedItem_held (h : HeldBy db sold w) (hs : StillHeld db pools)
    (hi : input.organizerImport.isSome = true) (hpic : item.method = .pickup)
    (hnm : ∃ c, item.assignmentCoordinate = some c ∧ c ≠ [])
    (hok : acceptItem P input pools w item = .ok w') :
    HeldBy db (fun c => sold c + if item.assignmentCoordinate = some c then item.quantity else 0)
      w' := by
  simp only [acceptItem, run_ok] at hok
  obtain ⟨⟨w₁, product⟩, hl, ⟨w₂, asg⟩, hasn, effective, -, taken, ht, rfl⟩ :=
    hok
  obtain ⟨h₁, -, -, hp⟩ := loadProduct_held h hl
  obtain ⟨h₂, hprod, hdb, -, hasg⟩ := loadAssignment_held h₁ hasn
  unfold takeItem at ht
  split at ht
  · exact importedItem_held h₂ hi hpic (hprod ▸ hp) hasg ht rfl rfl
  · -- The assignment's own hold shows that the product is tracked.
    simp only [bind_ok] at ht
    obtain ⟨u, hu, -⟩ := ht
    obtain ⟨c, hc, hne⟩ := hnm
    obtain ⟨-, -, he⟩ | ⟨a, rfl, -, hnm, ha, -⟩ := loadAssignment_cases hasn
    · exact absurd (he c hc) hne
    · have hd := ha.2
      rw [if_pos hi] at hd
      obtain ⟨b, hb, hh⟩ := hs a.coordinate hd
      obtain ⟨b', hb', heq⟩ := h₁.ledger.kept b (mem_of_get hb)
      obtain ⟨hold, hho⟩ := held_pos_holding hh
      have hpr : b.productCoordinate = item.productCoordinate := by
        have ho := h₂.overrides a (mem_of_get (hasg _ rfl).held)
        rw [holding_of_get hb, holding_eq_some.2 ⟨hold, hho, rfl⟩, Option.map_some] at ho
        obtain ⟨_, -, heq⟩ := holding_eq_some.1 ho
        exact (congrArg Holding.productCoordinate heq).trans ha.1
      refine absurd hu (not_checkUntracked (a := b') (mem_filter.2 ⟨hb', ?_⟩) ?_)
      · simp only [decide_eq_true_eq]
        exact heq.productCoordinate.trans hpr
      · rw [heq.held]
        exact hh

lemma delegatedItems_held (h : HeldBy db sold w) (hs : StillHeld db pools)
    (himp : input.organizerImport.isSome = true) (hp : ∀ item ∈ items, item.method = .pickup)
    (hnm : ∀ item ∈ items, ∃ c, item.assignmentCoordinate = some c ∧ c ≠ [])
    (hok : foldResult (acceptItem P input pools) w items = .ok w') :
    HeldBy db (fun c => sold c + handed items c) w' := by
  induction items generalizing w sold with
  | nil =>
    cases hok
    simpa [handed] using h
  | cons item items ih =>
    rw [forall_mem_cons] at hp hnm
    obtain ⟨w₁, hf, hr⟩ := foldResult_cons_ok.1 hok
    have hi := delegatedItem_held h hs himp hp.1 hnm.1 hf
    have ha := ih hi hp.2 hnm.2 hr
    simpa only [handed_cons, add_assoc] using ha

lemma HeldBy.holding_written (h : HeldBy db sold w) (c : Text) :
    ((w.storeAssignments input).get c).bind Assignment.holding =
      (db.holding c).map fun x => x.imports (sold c) := by
  change ((w.db.assignments.putAll (w.written input)).get c).bind _ = _
  rw [get_putAll (w.written_nodup input)]
  cases hf : (w.written input).find? fun a => decide (a.coordinate = c) with
  | some a' =>
    obtain ⟨hm, rfl⟩ := (Keyed.find?_key_iff (w.written_nodup input)).1 hf
    obtain ⟨a, ha, -, rfl⟩ := mem_written.1 hm
    exact h.overrides a ha
  | none =>
    have hz : sold c = 0 := by
      cases hg : w.assignments.get c with
      | none => exact h.untouched c hg
      | some a =>
        by_contra hne
        have hk := key_of_get hg
        have ht := h.touched a (mem_of_get hg) (hk ▸ hne)
        refine find?_eq_none.1 hf (a.stored input)
          (mem_written.2 ⟨a, mem_of_get hg, ht, rfl⟩) (decide_eq_true ?_)
        exact hk
    rw [hz, Holding.map_imports_zero]
    exact h.ledger.holding c

lemma HeldBy.owner_written (h : HeldBy db sold w) {m : Text} (hm : db.owner c = some m) :
    ((w.storeProducts input).get c).map (·.merchantPubkey) = some m := by
  have hnd : ((w.writtenProducts input).map Product.coordinate).Nodup := by
    rw [Working.writtenProducts, map_map]
    exact w.products.nodup
  change ((w.db.products.putAll (w.writtenProducts input)).get c).map _ = _
  rw [get_putAll hnd]
  cases hf : (w.writtenProducts input).find? fun p => decide (p.coordinate = c) with
  | some p' =>
    obtain ⟨hmem, rfl⟩ := (Keyed.find?_key_iff hnd).1 hf
    obtain ⟨p, hp, rfl⟩ := mem_writtenProducts.1 hmem
    have ho := h.products p hp
    exact ho.symm.trans hm
  | none =>
    rw [Option.none_or, h.ledger.products]
    exact hm

lemma HeldBy.tracked_written (h : HeldBy db sold w) (hdb : db.TracksHeld)
    (ha : a ∈ (w.storeAssignments input).rows) (hp : 0 < a.held) : a.inventory.IsTracked := by
  rcases mem_storeAssignments.1 ha with hw | ⟨ha, -⟩
  · obtain ⟨b, hb, -, rfl⟩ := mem_written.1 hw
    exact h.tracked hdb b hb hp
  · exact h.ledger.keeps.tracked hdb a ha hp

end

end Conduit.Stock
