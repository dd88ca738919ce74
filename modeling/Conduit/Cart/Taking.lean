import Conduit.Cart.Following

namespace Conduit.Cart

open Js Throwing Lots List Keyed

variable (allocation : CartAllocation)

def CartAllocation.keys : List (Text × Text) :=
  allocation.batches.map fun b => (allocation.lineId, b.id)

def namedKeys (allocations : List CartAllocation) : List (Text × Text) :=
  allocations.flatMap CartAllocation.keys

/-- The allocation counts at least the units that its batches still hold. -/
def Covers (lines : List CartLine) : Prop :=
  ∀ key q, (key, q) ∈ lots lines → key ∈ allocation.keys → q ≤ allocation.quantityOf key.2

lemma lots_cons (line : CartLine) (lines : List CartLine) : lots (line :: lines) =
      line.batches.map (fun b => ((line.id, b.id), b.quantity)) ++ lots lines := rfl

variable {allocations : List CartAllocation} {allocation : CartAllocation} {lines : List CartLine}
  {observed record : CanonicalCartRecord} {bats : List CartQuantityBatch}
  {ident : CartItemIdentity}

lemma quantityOf_of_not_mem {id : Text} (h : (allocation.lineId, id) ∉ allocation.keys) :
    allocation.quantityOf id = 0 := by
  unfold CartAllocation.quantityOf
  have hn : allocation.batches.reverse.find? (fun b => decide (b.id = id)) = none := by
    apply find?_eq_none.2
    intro b hb hid
    apply h
    have hid := of_decide_eq_true hid
    exact mem_map.2 ⟨b, mem_reverse.1 hb, by rw [hid]⟩
  rw [hn]

variable {observed record : CanonicalCartRecord} {b : CartQuantityBatch} {line : CartLine}
  {index : Nat}

lemma consumeBatch_eq (hpos : 0 < b.quantity) (hc : (allocation.lineId, b.id) ∈ allocation.keys →
      b.quantity ≤ allocation.quantityOf b.id) : consumeBatch allocation b =
      if (allocation.lineId, b.id) ∈ allocation.keys then none else some b := by
  simp only [consumeBatch]
  by_cases hm : (allocation.lineId, b.id) ∈ allocation.keys
  · have hle := hc hm
    rw [if_pos hm, if_neg (by omega), if_neg (by omega)]
  · rw [if_neg hm, quantityOf_of_not_mem hm, if_pos (le_refl _)]

lemma lots_filterMap (hp : ∀ b ∈ bats, 0 < b.quantity)
    (hcov : ∀ b ∈ bats, (allocation.lineId, b.id) ∈ allocation.keys →
      b.quantity ≤ allocation.quantityOf b.id) : (bats.filterMap (consumeBatch allocation)).map
        (fun b => ((allocation.lineId, b.id), b.quantity)) =
      without allocation.keys (bats.map fun b => ((allocation.lineId, b.id), b.quantity)) := by
  induction bats with
  | nil => rfl
  | cons b rest ih =>
    have hr := ih (fun c hc => hp c (mem_cons_of_mem _ hc))
      (fun c hc => hcov c (mem_cons_of_mem _ hc))
    have hb := consumeBatch_eq (hp b mem_cons_self) (hcov b mem_cons_self)
    by_cases hm : (allocation.lineId, b.id) ∈ allocation.keys
    · rw [if_pos hm] at hb
      rw [filterMap_cons_none hb, hr, map_cons, without, without, filter_cons_of_neg (by simp [hm])]
    · rw [if_neg hm] at hb
      rw [filterMap_cons_some hb, map_cons, map_cons, hr, without, without,
        filter_cons_of_pos (by simp [hm])]

lemma without_lots_of_ne (h : ∀ l ∈ lines, l.id ≠ allocation.lineId) :
    without allocation.keys (lots lines) = lots lines := by
  apply without_eq_self
  rintro ⟨key, q⟩ hlot hk
  obtain ⟨l, hl, hid, -⟩ := mem_lots.1 hlot
  obtain ⟨b, -, hb⟩ := mem_map.1 hk
  exact h l hl (hid.trans (congrArg Prod.fst hb).symm)

lemma lots_removeAllocation (hi : (lines.map (·.id)).Nodup)
    (hp : ∀ line ∈ lines, Stocked line.batches) (hcov : Covers allocation lines) :
    lots (removeAllocation allocation lines).2 = without allocation.keys (lots lines) := by
  induction lines with
  | nil => rfl
  | cons line rest ih =>
    rw [map_cons, nodup_cons] at hi
    have hr := ih hi.2 (fun l hl => hp l (mem_cons_of_mem _ hl)) (by
      intro key q hq
      exact hcov key q (mem_append_right _ hq))
    rw [removeAllocation, lots_cons, without_append]
    by_cases hid : line.id = allocation.lineId
    · rw [if_pos hid]
      have ho : ∀ l ∈ rest, l.id ≠ allocation.lineId := by
        intro l hl heq
        exact hi.1 (hid.trans heq.symm ▸ mem_map_of_mem hl)
      have hli := lots_filterMap (hp line mem_cons_self).2 (by
        intro b hb hk
        exact hcov (allocation.lineId, b.id) b.quantity
          (mem_lots.2 ⟨line, mem_cons_self, hid, b, hb, rfl, rfl⟩) hk)
      rw [← hid] at hli
      rw [without_lots_of_ne ho, ← hli]
      by_cases hn : line.batches.filterMap (consumeBatch allocation) = []
      · simp only [hn, if_true, map_nil, nil_append]
      · simp only [hn, if_false]
        rfl
    · rw [if_neg hid]
      have hli : without allocation.keys
          (line.batches.map fun b => ((line.id, b.id), b.quantity)) =
          line.batches.map fun b => ((line.id, b.id), b.quantity) := by
        apply without_eq_self
        intro lot hlot hk
        obtain ⟨b, -, rfl⟩ := mem_map.1 hlot
        obtain ⟨c, -, hc⟩ := mem_map.1 hk
        exact hid (congrArg Prod.fst hc).symm
      rw [hli, ← hr]
      rfl

lemma removeAllocation_changed (h : ∀ lot ∈ lots lines, lot.1 ∉ allocation.keys) :
    (removeAllocation allocation lines).1 = false := by
  induction lines with
  | nil => rfl
  | cons line rest ih =>
    rw [removeAllocation]
    by_cases hid : line.id = allocation.lineId
    · rw [if_pos hid]
      apply any_eq_false.2
      intro b hb
      have hn : (allocation.lineId, b.id) ∉ allocation.keys :=
        h ((allocation.lineId, b.id), b.quantity)
          (mem_lots.2 ⟨line, .head _, hid, b, hb, rfl, rfl⟩)
      rw [quantityOf_of_not_mem hn]
      simp
    · rw [if_neg hid]
      exact ih fun lot hl => h lot (mem_append_right _ hl)

lemma lots_removeAllocations (hi : (lines.map (·.id)).Nodup)
    (hp : ∀ line ∈ lines, Stocked line.batches)
    (hc : ∀ allocation ∈ allocations, Covers allocation lines) :
    lots (removeAllocations allocations lines).2 =
      without (namedKeys allocations) (lots lines) := by
  induction allocations generalizing lines with
  | nil => exact (without_eq_self fun _ _ => not_mem_nil).symm
  | cons allocation rest ih =>
    have hf := lots_removeAllocation hi hp (hc allocation mem_cons_self)
    have hs := removeAllocation_shrinks allocation hp
    have hi' : ((removeAllocation allocation lines).2.map (·.id)).Nodup := by
      have := hs.names.map Prod.fst
      rw [map_map, map_map] at this
      exact hi.sublist this
    have hr := ih hi' hs.stocked (by
      intro other ho key q hq
      rw [hf] at hq
      exact hc other (mem_cons_of_mem _ ho) key q (mem_without.1 hq).1)
    change lots (removeAllocations rest (removeAllocation allocation lines).2).2 = _
    rw [hr, hf, without_without]
    rfl

lemma removeAllocations_changed (hi : (lines.map (·.id)).Nodup)
    (hp : ∀ line ∈ lines, Stocked line.batches)
    (h : ∀ lot ∈ lots lines, lot.1 ∉ namedKeys allocations) :
    (removeAllocations allocations lines).1 = false := by
  induction allocations generalizing lines with
  | nil => rfl
  | cons allocation rest ih =>
    have hf : ∀ lot ∈ lots lines, lot.1 ∉ allocation.keys := fun lot hl hk =>
      h lot hl (mem_append_left _ hk)
    have hc : Covers allocation lines := fun key q hq hk => absurd hk (hf _ hq)
    have hs := removeAllocation_shrinks allocation hp
    have hi' : ((removeAllocation allocation lines).2.map (·.id)).Nodup := by
      have := hs.names.map Prod.fst
      rw [map_map, map_map] at this
      exact hi.sublist this
    have heq := lots_removeAllocation hi hp hc
    have hr := ih hi' hs.stocked (by
      intro lot hl hk
      rw [heq] at hl
      exact h lot (mem_without.1 hl).1 (mem_append_right _ hk))
    change ((removeAllocation allocation lines).1 ||
      (removeAllocations rest (removeAllocation allocation lines).2).1) = false
    rw [removeAllocation_changed hf, hr]
    rfl

lemma removeAllocation_unchanged (hp : ∀ line ∈ lines, Stocked line.batches)
    (h : (removeAllocation allocation lines).1 = false) :
    (removeAllocation allocation lines).2 = lines := by
  induction lines with
  | nil => rfl
  | cons line rest ih =>
    rw [removeAllocation] at h ⊢
    by_cases hid : line.id = allocation.lineId
    · rw [if_pos hid] at h ⊢
      have hn := any_eq_false.1 h
      have hk : line.batches.filterMap (consumeBatch allocation) = line.batches := by
        rw [filterMap_congr (g := some), filterMap_some]
        intro b hb
        have hle : allocation.quantityOf b.id ≤ 0 := by simpa using hn b hb
        rw [consumeBatch, if_pos hle]
      simp only [hk, (hp line mem_cons_self).1, if_false]
    · rw [if_neg hid] at h ⊢
      exact congrArg (line :: ·) (ih (fun l hl => hp l (mem_cons_of_mem _ hl)) h)

lemma removeAllocations_unchanged (hp : ∀ line ∈ lines, Stocked line.batches)
    (h : (removeAllocations allocations lines).1 = false) :
    (removeAllocations allocations lines).2 = lines := by
  induction allocations with
  | nil => rfl
  | cons allocation rest ih =>
    change (removeAllocations rest (removeAllocation allocation lines).2).2 = lines
    obtain ⟨hf, hr⟩ := Bool.or_eq_false_iff.1 h
    rw [removeAllocation_unchanged hp hf] at hr ⊢
    exact ih hr

lemma removeAllocatedBatches_none (hp : ∀ line ∈ record.lines, Stocked line.batches)
    (h : removeAllocatedBatches allocations record = none) :
    (removeAllocations allocations record.lines).2 = record.lines := by
  apply removeAllocations_unchanged hp
  unfold removeAllocatedBatches at h
  split at h
  · cases h
  · rename_i heq
    rw [heq]

lemma removeAllocatedBatches_eq_none (h : record.Named)
    (hg : ∀ lot ∈ lots record.lines, lot.1 ∉ namedKeys allocations) :
    removeAllocatedBatches allocations record = none := by
  have hc := removeAllocations_changed h.lineIds h.stocked hg
  unfold removeAllocatedBatches
  split
  · rename_i heq
    rw [heq] at hc
    cases hc
  · rfl

def TakenFrom (observed : CanonicalCartRecord) (allocations : List CartAllocation) : Prop :=
  ∀ allocation ∈ allocations, ∃ line ∈ observed.lines, allocation = line.allocation

lemma TakenFrom.mem_lots (h : TakenFrom observed allocations) {key : Text × Text}
    (hk : key ∈ namedKeys allocations) : ∃ q, (key, q) ∈ lots observed.lines := by
  obtain ⟨allocation, ha, hm⟩ := mem_flatMap.1 hk
  obtain ⟨line, hl, rfl⟩ := h allocation ha
  obtain ⟨b, hb, rfl⟩ := mem_map.1 hm
  exact ⟨b.quantity, Cart.mem_lots.2 ⟨line, hl, rfl, b, hb, rfl, rfl⟩⟩

lemma quantityOf_allocation (hi : (line.batches.map (·.id)).Nodup)
    (hb : b ∈ line.batches) : line.allocation.quantityOf b.id = b.quantity := by
  have hf : line.allocation.batches.reverse.find? (fun c => decide (c.id = b.id)) = some b := by
    have hnd : (line.batches.reverse.map (·.id)).Nodup := by
      rw [map_reverse]
      exact nodup_reverse.2 hi
    exact (find?_key_iff hnd).2 ⟨mem_reverse.2 hb, rfl⟩
  unfold CartAllocation.quantityOf
  rw [hf]

lemma TakenFrom.covers (h : TakenFrom observed allocations) (hnm : observed.Named)
    (hf : record.Follows observed) :
    ∀ allocation ∈ allocations, Covers allocation record.lines := by
  intro allocation ha key q hq hk
  obtain ⟨line, hl, rfl⟩ := h allocation ha
  obtain ⟨b, hb, rfl⟩ := mem_map.1 hk
  have ho : ((line.id, b.id), b.quantity) ∈ lots observed.lines :=
    Cart.mem_lots.2 ⟨line, hl, rfl, b, hb, rfl, rfl⟩
  obtain ⟨p, hp, hqp⟩ := hf.stems.bounded
    (hnm.not_fresh ho (le_refl _)) hq
  obtain ⟨line', hl', hid', b', hb', hbid', rfl⟩ := Cart.mem_lots.1 hp
  obtain rfl : line' = line := eq_of_key_eq hnm.lineIds hl' hl hid'
  obtain rfl : b' = b := eq_of_key_eq (hnm.batchIds line' hl') hb' hb hbid'
  exact hqp.trans (le_of_eq (quantityOf_allocation (hnm.batchIds line' hl') hb').symm)

lemma TakenFrom.takes (h : TakenFrom observed allocations) (hnm : observed.Named)
    (hf : record.Follows observed) :
    lots ((removeAllocatedBatches allocations record).getD record).lines =
      without (namedKeys allocations) (lots record.lines) := by
  have hnm' := hf.named
  have ha := lots_removeAllocations hnm'.lineIds hnm'.stocked (h.covers hnm hf)
  cases hn : removeAllocatedBatches allocations record with
  | none =>
    rw [removeAllocatedBatches_none hnm'.stocked hn] at ha
    exact ha
  | some next =>
    rw [removeAllocatedBatches_eq_some hn]
    exact ha

lemma observedLine_mem (h : observedLine observed ident = some line) : line ∈ observed.lines := by
  obtain ⟨index, -, hl⟩ := Option.bind_eq_some_iff.1 h
  exact mem_of_getElem? hl

lemma observedBatch_eq_some {observed bats : List CartQuantityBatch}
    (h : observedBatch observed bats = some index) :
    ∃ batch, bats[index]? = some batch ∧ ∃ seen ∈ observed, batch.id = seen.id := by
  obtain ⟨seen, hs, hf⟩ := exists_of_findSome?_eq_some h
  obtain ⟨hlt, hid, -⟩ := findIdx?_eq_some_iff_getElem.1 hf
  exact ⟨bats[index], getElem?_eq_getElem hlt, seen, mem_reverse.1 hs, of_decide_eq_true hid⟩

/-- One unit of the batch, which goes with its last unit. -/
def oneLess (key : Text × Text) (q : Int) : List ((Text × Text) × Int) :=
  if 1 < q then [(key, q - 1)] else []

lemma takeUnit_split {batch : CartQuantityBatch} (h : bats[index]? = some batch) (lineId : Text)
    : ∃ before after,
      bats.map (fun b => ((lineId, b.id), b.quantity)) =
        before ++ ((lineId, batch.id), batch.quantity) :: after ∧
      (takeUnit bats index).map (fun b => ((lineId, b.id), b.quantity)) =
        before ++ oneLess (lineId, batch.id) batch.quantity ++ after := by
  obtain ⟨before, after, hl, hs, he⟩ := split_at h
  refine ⟨before.map fun b => ((lineId, b.id), b.quantity),
    after.map fun b => ((lineId, b.id), b.quantity), ?_, ?_⟩
  · rw [hl, map_append, map_cons]
  · unfold takeUnit oneLess
    rw [h]
    by_cases hm : 1 < batch.quantity
    · simp only [hm, if_true]
      rw [hs, map_append, map_cons, append_assoc, singleton_append]
    · simp only [hm, if_false]
      rw [he, map_append, append_nil]

lemma lots_append (before after : List CartLine) :
    lots (before ++ after) = lots before ++ lots after :=
  flatMap_append

lemma decrementCartRepositoryItem_takes {next : CanonicalCartRecord}
    (hn : decrementCartRepositoryItem observed ident record = some next) :
    ∃ before key q after, lots record.lines = before ++ (key, q) :: after ∧
      lots next.lines = before ++ oneLess key q ++ after ∧
      ∃ p, (key, p) ∈ lots observed.lines := by
  simp only [decrementCartRepositoryItem, run_gives] at hn
  obtain ⟨seen, hs, index, hi, line, hl, batchIndex, hb, rfl⟩ := hn
  obtain ⟨batch, hat, known, hkn, hid⟩ := observedBatch_eq_some hb
  have hlin : line.id = seen.id := of_decide_eq_true (findIdx?_line hi hl)
  obtain ⟨linesBefore, linesAfter, hls, hset, he⟩ := split_at hl
  obtain ⟨before, after, hbat, ht⟩ := takeUnit_split hat line.id
  refine ⟨lots linesBefore ++ before, (line.id, batch.id), batch.quantity,
    after ++ lots linesAfter, ?_, ?_, known.quantity, ?_⟩
  · rw [hls, lots_append, lots_cons, hbat]
    simp only [append_assoc, cons_append]
  · by_cases hnil : takeUnit line.batches batchIndex = []
    · rw [hnil, map_nil] at ht
      have hemp := append_eq_nil_iff.1 ht.symm
      have hf := append_eq_nil_iff.1 hemp.1
      simp only [hnil, if_true, he, lots_append, hf.1, hf.2, hemp.2, append_nil, nil_append]
    · simp only [hnil, if_false, hset, lots_append, lots_cons, ht, append_assoc]
  · exact mem_lots.2 ⟨seen, observedLine_mem hs, hlin.symm, known, hkn, hid.symm, rfl⟩

end Conduit.Cart
