import Conduit.Cart.Edits

namespace Conduit.Cart

open Js Throwing List

variable {P : CartPlatform}

structure ShrinksBatches (batches batches' : List CartQuantityBatch) : Prop where
  ids : (batches'.map (·.id)).Sublist (batches.map (·.id))
  quantities : ∀ b' ∈ batches', 0 < b'.quantity ∧
    ∃ b ∈ batches, b.id = b'.id ∧ b'.quantity ≤ b.quantity

structure Shrinks (lines lines' : List CartLine) : Prop where
  names : (lines'.map fun l => (l.id, l.item)).Sublist (lines.map fun l => (l.id, l.item))
  batches : ∀ l' ∈ lines', l'.batches ≠ [] ∧ ∃ l ∈ lines, l.id = l'.id ∧ l.item = l'.item ∧
    ShrinksBatches l.batches l'.batches

def Stocked (batches : List CartQuantityBatch) : Prop :=
  batches ≠ [] ∧ ∀ b ∈ batches, 0 < b.quantity

variable {batches : List CartQuantityBatch} {lines lines' : List CartLine}

lemma ValidBatches.stocked (h : ValidBatches batches) : Stocked batches :=
  ⟨h.1, fun b hb => (h.2.1 b hb).2.2⟩

lemma ShrinksBatches.refl (h : ∀ b ∈ batches, 0 < b.quantity) : ShrinksBatches batches batches :=
  ⟨Sublist.refl _, fun b hb => ⟨h b hb, b, hb, rfl, le_refl _⟩⟩

lemma ShrinksBatches.trans {a b c : List CartQuantityBatch} (hab : ShrinksBatches a b)
    (hbc : ShrinksBatches b c) : ShrinksBatches a c := by
  refine ⟨hbc.ids.trans hab.ids, ?_⟩
  intro z hz
  obtain ⟨hp, y, hy, hyz, hle⟩ := hbc.quantities z hz
  obtain ⟨-, x, hx, hxy, hle'⟩ := hab.quantities y hy
  exact ⟨hp, x, hx, hxy.trans hyz, by omega⟩

lemma ShrinksBatches.valid {batches batches' : List CartQuantityBatch}
    (h : ValidBatches batches) (hs : ShrinksBatches batches batches') (hne : batches' ≠ []) :
    ValidBatches batches' := by
  refine ⟨hne, ?_, h.2.2.sublist hs.ids⟩
  intro b' hb'
  obtain ⟨hp, b, hb, hid, hle⟩ := hs.quantities b' hb'
  obtain ⟨hbid, hsa, -⟩ := h.2.1 b hb
  refine ⟨hid ▸ hbid, ?_, hp⟩
  obtain ⟨-, hmax⟩ := hsa
  exact ⟨by omega, by omega⟩

variable {lines : List CartLine} {line : CartLine}

lemma Shrinks.refl (h : ∀ line ∈ lines, Stocked line.batches) : Shrinks lines lines :=
  ⟨Sublist.refl _, fun l hl => ⟨(h l hl).1, l, hl, rfl, rfl, .refl (h l hl).2⟩⟩

lemma Shrinks.trans {a b c : List CartLine} (hab : Shrinks a b) (hbc : Shrinks b c) :
    Shrinks a c := by
  refine ⟨hbc.names.trans hab.names, ?_⟩
  intro z hz
  obtain ⟨hne, y, hy, hid, hi, hs⟩ := hbc.batches z hz
  obtain ⟨-, x, hx, hid', hi', hs'⟩ := hab.batches y hy
  exact ⟨hne, x, hx, hid'.trans hid, hi'.trans hi, hs'.trans hs⟩

lemma Shrinks.valid (h : ∀ line ∈ lines, ValidBatches line.batches) (hs : Shrinks lines lines') :
    ∀ line ∈ lines', ValidBatches line.batches := by
  intro l' hl'
  obtain ⟨hne, l, hl, -, -, hb⟩ := hs.batches l' hl'
  exact hb.valid (h l hl) hne

lemma Shrinks.stocked (hs : Shrinks lines lines') : ∀ line ∈ lines', Stocked line.batches := by
  intro l' hl'
  obtain ⟨hne, l, -, -, -, hbat⟩ := hs.batches l' hl'
  exact ⟨hne, fun b hb => (hbat.quantities b hb).1⟩

lemma LinesOk.shrinks {n : Int} (h : LinesOk P n lines) (hs : Shrinks lines lines') :
    LinesOk P n lines' where
  batches := hs.valid h.batches
  items := by
    intro l' hl'
    obtain ⟨-, l, hl, -, hi, -⟩ := hs.batches l' hl'
    exact hi ▸ h.items l hl
  issued := by
    intro l' hl'
    obtain ⟨-, l, hl, hid, -, hbat⟩ := hs.batches l' hl'
    refine ⟨hid ▸ (h.issued l hl).1, ?_⟩
    intro b' hb'
    obtain ⟨-, b, hb, hbid, -⟩ := hbat.quantities b' hb'
    exact hbid ▸ (h.issued l hl).2 b hb
  lineIds := by
    have := hs.names.map Prod.fst
    rw [map_map, map_map] at this
    exact h.lineIds.sublist this
  lineKeys := by
    have := hs.names.map fun entry => lineKey entry.2
    rw [map_map, map_map] at this
    exact h.lineKeys.sublist this

lemma shrinks_cons (hli : Stocked line.batches) (h : Shrinks lines lines') :
    Shrinks (line :: lines) (line :: lines') := by
  refine ⟨h.names.cons_cons _, ?_⟩
  intro l' hl'
  rcases mem_cons.1 hl' with rfl | hl'
  · exact ⟨hli.1, l', .head _, rfl, rfl, .refl hli.2⟩
  · obtain ⟨hne, l, hl, hr⟩ := h.batches l' hl'
    exact ⟨hne, l, .tail _ hl, hr⟩

lemma shrinks_sublist (h : ∀ line ∈ lines, Stocked line.batches) (hs : lines'.Sublist lines) :
    Shrinks lines lines' :=
  ⟨hs.map _, fun l hl =>
    have hl' := hs.subset hl
    ⟨(h l hl').1, l, hl', rfl, rfl, .refl (h l hl').2⟩⟩

lemma shrinks_set (h : ∀ line ∈ lines, Stocked line.batches) {i : Nat} (hi : lines[i]? = some line)
    (hs : ShrinksBatches line.batches batches) (hne : batches ≠ []) :
    Shrinks lines (lines.set i { line with batches := batches }) := by
  refine ⟨?_, ?_⟩
  · rw [Keyed.map_set (f := fun l : CartLine => (l.id, l.item))
      (b := { line with batches := batches }) hi rfl]
  · intro l' hl'
    rcases mem_or_eq_of_mem_set hl' with hl' | rfl
    · exact ⟨(h l' hl').1, l', hl', rfl, rfl, .refl (h l' hl').2⟩
    · exact ⟨hne, line, mem_of_getElem? hi, rfl, rfl, hs⟩

lemma consumeBatch_eq_some {alloc : CartAllocation} {b b' : CartQuantityBatch}
    (h : consumeBatch alloc b = some b') (hp : 0 < b.quantity) :
    b'.id = b.id ∧ 0 < b'.quantity ∧ b'.quantity ≤ b.quantity := by
  simp only [consumeBatch] at h
  split at h
  · cases h
    exact ⟨rfl, hp, le_refl _⟩
  · split at h
    · cases h
      exact ⟨rfl, by assumption, by dsimp only; omega⟩
    · cases h

lemma shrinksBatches_filterMap (alloc : CartAllocation) (h : ∀ b ∈ batches, 0 < b.quantity) :
    ShrinksBatches batches (batches.filterMap (consumeBatch alloc)) := by
  refine ⟨?_, ?_⟩
  · induction batches with
    | nil => exact Sublist.refl _
    | cons b rest ih =>
      have ih := ih fun b hb => h b (mem_cons_of_mem _ hb)
      cases hb : consumeBatch alloc b with
      | none =>
        rw [filterMap_cons_none hb]
        exact ih.cons _
      | some b' =>
        have hid := (consumeBatch_eq_some hb (h b mem_cons_self)).1
        rw [filterMap_cons_some hb, map_cons, map_cons, hid]
        exact ih.cons_cons _
  · intro b' hb'
    obtain ⟨b, hb, hc⟩ := mem_filterMap.1 hb'
    obtain ⟨hid, hp, hle⟩ := consumeBatch_eq_some hc (h b hb)
    exact ⟨hp, b, hb, hid.symm, hle⟩

lemma removeAllocation_shrinks (alloc : CartAllocation) (h : ∀ line ∈ lines, Stocked line.batches) :
    Shrinks lines (removeAllocation alloc lines).2 := by
  induction lines with
  | nil => exact .refl h
  | cons line rest ih =>
    have hr : ∀ l ∈ rest, Stocked l.batches := fun l hl => h l (mem_cons_of_mem _ hl)
    have hli := h line mem_cons_self
    have hs := shrinksBatches_filterMap alloc hli.2
    rw [removeAllocation]
    split
    · by_cases hn : line.batches.filterMap (consumeBatch alloc) = []
      · simp only [hn, if_true]
        exact shrinks_sublist h (sublist_cons_self _ _)
      · simp only [hn, if_false]
        exact shrinks_set h (i := 0) rfl hs hn
    · exact shrinks_cons hli (ih hr)

lemma removeAllocations_shrinks (allocations : List CartAllocation)
    (h : ∀ line ∈ lines, Stocked line.batches) :
    Shrinks lines (removeAllocations allocations lines).2 := by
  induction allocations generalizing lines with
  | nil => exact .refl h
  | cons allocation rest ih =>
    have hf := removeAllocation_shrinks allocation h
    exact hf.trans (ih hf.stocked)

lemma removeAllocatedBatches_eq_some {allocations : List CartAllocation}
    {record next : CanonicalCartRecord}
    (h : removeAllocatedBatches allocations record = some next) :
    next = { record with lines := (removeAllocations allocations record.lines).2 } := by
  unfold removeAllocatedBatches at h
  split at h
  · rename_i lines heq
    rw [heq]
    exact (Option.some.inj h).symm
  · cases h

lemma takeUnit_shrinks (h : ∀ b ∈ batches, 0 < b.quantity) (index : Nat) :
    ShrinksBatches batches (takeUnit batches index) := by
  unfold takeUnit
  split
  · rename_i batch hba
    split
    · refine ⟨?_, ?_⟩
      · rw [Keyed.map_set (f := fun b : CartQuantityBatch => b.id)
          (b := { batch with quantity := batch.quantity - 1 }) hba rfl]
      · intro b' hb'
        rcases mem_or_eq_of_mem_set hb' with hb' | rfl
        · exact ⟨h b' hb', b', hb', rfl, le_refl _⟩
        · exact ⟨by dsimp only; omega, batch, mem_of_getElem? hba, rfl,
            by dsimp only; omega⟩
    · refine ⟨(eraseIdx_sublist _ _).map _, ?_⟩
      intro b' hb'
      have hm := (eraseIdx_sublist _ _).subset hb'
      exact ⟨h b' hm, b', hm, rfl, le_refl _⟩
  · exact .refl h

lemma decrementCartRepositoryItem_shrinks {observed record next : CanonicalCartRecord}
    {ident : CartItemIdentity} (h : ∀ line ∈ record.lines, Stocked line.batches)
    (hn : decrementCartRepositoryItem observed ident record = some next) :
    ∃ lines, next = { record with lines := lines } ∧ Shrinks record.lines lines := by
  simp only [decrementCartRepositoryItem, run_gives] at hn
  obtain ⟨seen, -, index, -, line, hl, batchIndex, -, rfl⟩ := hn
  refine ⟨_, rfl, ?_⟩
  split
  · exact shrinks_sublist h (eraseIdx_sublist _ _)
  · rename_i hne
    exact shrinks_set h hl (takeUnit_shrinks (h line (mem_of_getElem? hl)).2 batchIndex)
      hne

end Conduit.Cart
