import Conduit.Cart.Loading
import Conduit.Lots

namespace Conduit.Cart

open Js Throwing Lots List

def lots (lines : List CartLine) : List ((Text × Text) × Int) :=
  lines.flatMap fun line => line.batches.map fun b => ((line.id, b.id), b.quantity)

/-- The batch id was not taken before `n`. -/
def Fresh (n : Int) (key : Text × Text) : Prop := ∃ k, n ≤ k ∧ IsTaken key.2 k

/-- Lines with names of their own, all taken before `n`. -/
structure Named (n : Int) (lines : List CartLine) : Prop where
  stocked : ∀ line ∈ lines, Stocked line.batches
  issued : ∀ line ∈ lines, IssuedBelow n line.id ∧ ∀ b ∈ line.batches, IssuedBelow n b.id
  lineIds : (lines.map (·.id)).Nodup
  batchIds : ∀ line ∈ lines, (line.batches.map (·.id)).Nodup

/-- `lines'` came from `lines` by taking units and by adding batches of new ids. -/
structure Follows (n : Int) (lines : List CartLine) (n' : Int) (lines' : List CartLine) : Prop where
  le : n ≤ n'
  named : Named n' lines'
  stems : Stems (Fresh n) (lots lines) (lots lines')

variable {lines : List CartLine} {identity : CartItemIdentity} {input : CartItemInput}
  {quantity expectedRevision n q now m : Int} {key : Text × Text}

lemma mem_lots : (key, q) ∈ lots lines ↔
      ∃ line ∈ lines, line.id = key.1 ∧ ∃ b ∈ line.batches, b.id = key.2 ∧ b.quantity = q := by
  obtain ⟨l, b⟩ := key
  simp only [lots, mem_flatMap, mem_map, Prod.mk.injEq]
  constructor
  · rintro ⟨line, hli, batch, hba, ⟨hl, hb⟩, hq⟩
    exact ⟨line, hli, hl, batch, hba, hb, hq⟩
  · rintro ⟨line, hli, hl, batch, hba, hb, hq⟩
    exact ⟨line, hli, batch, hba, ⟨hl, hb⟩, hq⟩

lemma Named.not_fresh (h : Named n lines) (hm : (key, q) ∈ lots lines) (hnm : n ≤ m) :
    ¬ Fresh m key := by
  rintro ⟨k, hk, ht⟩
  obtain ⟨line, hl, -, b, hb, hid, -⟩ := mem_lots.1 hm
  have := (h.issued line hl).2 b hb k (hid ▸ ht)
  omega

lemma Follows.refl (h : Named n lines) : Follows n lines n lines :=
  ⟨le_refl n, h, .refl _⟩

lemma Follows.trans {k : Int} {a b c : List CartLine} (hab : Follows n a m b)
    (hbc : Follows m b k c) : Follows n a k c :=
  ⟨hab.le.trans hbc.le, hbc.named, hab.stems.trans hbc.stems fun _ ⟨i, hi, ht⟩ =>
    ⟨i, hab.le.trans hi, ht⟩⟩

lemma Named.mono (h : Named n lines) (hnm : n ≤ m) : Named m lines :=
  { h with
    issued := fun line hl =>
      ⟨(h.issued line hl).1.mono hnm, fun b hb => ((h.issued line hl).2 b hb).mono hnm⟩ }

section Edits

variable {n : Int} {lines : List CartLine} {quantity : Int} {lines' : List CartLine}

lemma Named.follows_sublist (h : Named n lines) (hs : lines'.Sublist lines) :
    Follows n lines n lines' where
  le := le_refl n
  named :=
    { stocked := fun line hl => h.stocked line (hs.subset hl)
      issued := fun line hl => h.issued line (hs.subset hl)
      lineIds := h.lineIds.sublist (hs.map _)
      batchIds := fun line hl => h.batchIds line (hs.subset hl) }
  stems := by
    apply Stems.of_subset
    rintro ⟨key, q⟩ hq
    obtain ⟨line, hli, hr⟩ := mem_lots.1 hq
    exact mem_lots.2 ⟨line, hs.subset hli, hr⟩

lemma Named.follows_same (h : Named n lines)
    (heq : Forall₂ (fun a b : CartLine => b.id = a.id ∧ b.batches = a.batches)
      lines lines') : Follows n lines n lines' := by
  have hids : lines'.map (·.id) = lines.map fun line => line.id :=
    (forall₂_eq_eq_eq ▸ forall₂_map_left_iff.2
      (forall₂_map_right_iff.2 (heq.imp fun _ _ hs => hs.1.symm)) :
      map _ lines = map _ lines').symm
  have hf : ∀ l ∈ lines', ∃ line ∈ lines, l.id = line.id ∧ l.batches = line.batches := by
    intro l hl
    obtain ⟨i, hi, rfl⟩ := mem_iff_getElem.1 hl
    have hi' : i < lines.length := heq.length_eq ▸ hi
    exact ⟨lines[i], getElem_mem hi', (forall₂_iff_get.1 heq).2 i hi' hi⟩
  refine ⟨le_refl n, ⟨?_, ?_, hids ▸ h.lineIds, ?_⟩, ?_⟩
  · intro l hl
    obtain ⟨line, hli, -, hb⟩ := hf l hl
    exact hb ▸ h.stocked line hli
  · intro l hl
    obtain ⟨line, hli, hid, hb⟩ := hf l hl
    rw [hid, hb]
    exact h.issued line hli
  · intro l hl
    obtain ⟨line, hli, -, hb⟩ := hf l hl
    exact hb ▸ h.batchIds line hli
  · apply Stems.of_subset
    rintro ⟨key, q⟩ hq
    obtain ⟨l, hl, hid, hba⟩ := mem_lots.1 hq
    obtain ⟨line, hli, hid', hb⟩ := hf l hl
    exact mem_lots.2 ⟨line, hli, hid' ▸ hid, hb ▸ hba⟩

lemma Named.follows_setAppend (h : Named n lines) {i : Nat} {line : CartLine}
    (hi : lines[i]? = some line) (item : CartItem) (hp : 0 < quantity) : Follows n lines (n + 1)
      (lines.set i (CartLine.appendBatch { line with item := item } n quantity)) := by
  have hli := mem_of_getElem? hi
  have hle : n ≤ n + 1 := by omega
  have hbat : (CartLine.appendBatch { line with item := item } n quantity).batches =
    line.batches ++ [⟨batchIdOf n, quantity⟩] := rfl
  have hm : ∀ l ∈ lines.set i (CartLine.appendBatch { line with item := item } n quantity),
      l ∈ lines ∨ l = CartLine.appendBatch { line with item := item } n quantity :=
    fun l hl => mem_or_eq_of_mem_set hl
  refine ⟨hle, ⟨?_, ?_, ?_, ?_⟩, ?_⟩
  · intro l hl
    rcases hm l hl with hl | rfl
    · exact h.stocked l hl
    · rw [hbat]
      refine ⟨by simp, ?_⟩
      intro b hb
      rcases mem_append.1 hb with hb | hb
      · exact (h.stocked line hli).2 b hb
      · obtain rfl := mem_singleton.1 hb
        exact hp
  · intro l hl
    rcases hm l hl with hl | rfl
    · exact (h.mono hle).issued l hl
    · rw [hbat]
      refine ⟨((h.mono hle).issued line hli).1, ?_⟩
      intro b hb
      rcases mem_append.1 hb with hb | hb
      · exact ((h.mono hle).issued line hli).2 b hb
      · obtain rfl := mem_singleton.1 hb
        exact (isTaken_batchIdOf n).issuedBelow (by omega)
  · rw [Keyed.map_set (f := fun l : CartLine => l.id)
      (b := CartLine.appendBatch { line with item := item } n quantity) hi rfl]
    exact h.lineIds
  · intro l hl
    rcases hm l hl with hl | rfl
    · exact h.batchIds l hl
    · rw [hbat, map_append, nodup_append]
      refine ⟨h.batchIds line hli, by simp, ?_⟩
      intro a ha b hb
      obtain ⟨c, hc, rfl⟩ := mem_map.1 ha
      obtain rfl : b = batchIdOf n := by simpa using hb
      exact ((h.issued line hli).2 c hc).ne (isTaken_batchIdOf n) (le_refl n)
  · intro key q hq
    obtain ⟨l, hl, hid, b, hb, hbid, rfl⟩ := mem_lots.1 hq
    rcases hm l hl with hl | rfl
    · exact .inl ⟨b.quantity, mem_lots.2 ⟨l, hl, hid, b, hb, hbid, rfl⟩, le_refl _⟩
    · rw [hbat] at hb
      rcases mem_append.1 hb with hb | hb
      · exact .inl ⟨b.quantity, mem_lots.2 ⟨line, hli, hid, b, hb, hbid, rfl⟩, le_refl _⟩
      · obtain rfl := mem_singleton.1 hb
        exact .inr ⟨n, le_refl n, hbid ▸ isTaken_batchIdOf n⟩

lemma Named.newLine (item : CartItem) (hp : 0 < quantity) (n : Int) :
    let line : CartLine := ⟨lineIdOf n, item, [⟨batchIdOf (n + 1), quantity⟩]⟩
    Stocked line.batches ∧
      (IssuedBelow (n + 2) line.id ∧ ∀ b ∈ line.batches, IssuedBelow (n + 2) b.id) ∧
      (line.batches.map (·.id)).Nodup := by
  refine ⟨⟨by simp, ?_⟩, issued_newLine n quantity, by simp⟩
  intro b hb
  obtain rfl := mem_singleton.1 hb
  exact hp

section

variable (h : Named n lines)
include h

lemma Named.follows_new {item : CartItem} (hp : 0 < quantity) (hm : ∀ l ∈ lines', l ∈ lines ∨
      l = ⟨lineIdOf n, item, [⟨batchIdOf (n + 1), quantity⟩]⟩)
    (hi : (lines'.map (·.id)).Nodup) : Follows n lines (n + 2) lines' := by
  have hle : n ≤ n + 2 := by omega
  obtain ⟨hs, hiss, hnd⟩ := Named.newLine item hp n
  refine ⟨hle, ⟨?_, ?_, hi, ?_⟩, ?_⟩
  · intro l hl
    rcases hm l hl with hl | rfl
    · exact h.stocked l hl
    · exact hs
  · intro l hl
    rcases hm l hl with hl | rfl
    · exact (h.mono hle).issued l hl
    · exact hiss
  · intro l hl
    rcases hm l hl with hl | rfl
    · exact h.batchIds l hl
    · exact hnd
  · intro key q hq
    obtain ⟨l, hl, hid, b, hb, hbid, rfl⟩ := mem_lots.1 hq
    rcases hm l hl with hl | rfl
    · exact .inl ⟨b.quantity, mem_lots.2 ⟨l, hl, hid, b, hb, hbid, rfl⟩, le_refl _⟩
    · obtain rfl := mem_singleton.1 hb
      exact .inr ⟨n + 1, by omega, hbid ▸ isTaken_batchIdOf (n + 1)⟩

lemma Named.lineIdOf_not_mem : lineIdOf n ∉ lines.map fun line => line.id := by
  intro hm
  obtain ⟨l, hl, hid⟩ := mem_map.1 hm
  exact (h.issued l hl).1.ne (isTaken_lineIdOf n) (le_refl n) hid

lemma Named.follows_concat (item : CartItem) (hp : 0 < quantity) : Follows n lines (n + 2)
      (lines ++ [⟨lineIdOf n, item, [⟨batchIdOf (n + 1), quantity⟩]⟩]) := by
  apply h.follows_new hp
  · intro l hl
    rcases mem_append.1 hl with hl | hl
    · exact .inl hl
    · exact .inr (mem_singleton.1 hl)
  · rw [map_append, nodup_append]
    refine ⟨h.lineIds, by simp, ?_⟩
    intro a ha b hb hab
    obtain rfl : b = lineIdOf n := by simpa using hb
    exact h.lineIdOf_not_mem (hab ▸ ha)

lemma Named.follows_setNew (i : Nat) (item : CartItem) (hp : 0 < quantity) :
    Follows n lines (n + 2) (lines.set i ⟨lineIdOf n, item, [⟨batchIdOf (n + 1), quantity⟩]⟩) := by
  apply h.follows_new hp
  · exact fun l hl => mem_or_eq_of_mem_set hl
  · rw [map_set]
    exact h.lineIds.set h.lineIdOf_not_mem

lemma Named.follows_shrinks (hs : Shrinks lines lines') : Follows n lines n lines' where
  le := le_refl n
  named :=
    { stocked := hs.stocked
      issued := by
        intro l' hl'
        obtain ⟨-, l, hl, hid, -, hbat⟩ := hs.batches l' hl'
        refine ⟨hid ▸ (h.issued l hl).1, ?_⟩
        intro b' hb'
        obtain ⟨-, b, hb, hbid, -⟩ := hbat.quantities b' hb'
        exact hbid ▸ (h.issued l hl).2 b hb
      lineIds := by
        have := hs.names.map Prod.fst
        rw [map_map, map_map] at this
        exact h.lineIds.sublist this
      batchIds := by
        intro l' hl'
        obtain ⟨-, l, hl, -, -, hbat⟩ := hs.batches l' hl'
        exact (h.batchIds l hl).sublist hbat.ids }
  stems := by
    intro key q hq
    obtain ⟨l', hl', hid', b', hb', hbid', rfl⟩ := mem_lots.1 hq
    obtain ⟨-, l, hl, hid, -, hbat⟩ := hs.batches l' hl'
    obtain ⟨-, b, hb, hbid, hle⟩ := hbat.quantities b' hb'
    exact .inl ⟨b.quantity, mem_lots.2 ⟨l, hl, hid.trans hid', b, hb, hbid.trans hbid', rfl⟩, hle⟩

end

end Edits

variable {P : CartPlatform}

/-- `next` came from `record`. -/
abbrev CanonicalCartRecord.Follows (next record : CanonicalCartRecord) : Prop :=
  Cart.Follows record.nextSequence record.lines next.nextSequence next.lines

abbrev CanonicalCartRecord.Named (record : CanonicalCartRecord) : Prop :=
  Cart.Named record.nextSequence record.lines

lemma requestedUnits_pos (quantity : Int) : 0 < requestedUnits quantity := by
  unfold requestedUnits
  omega

lemma Stocked.total_pos {line : CartLine} (h : Stocked line.batches) : 0 < line.total := by
  apply sum_pos
  · intro x hx
    obtain ⟨b, hb, rfl⟩ := mem_map.1 hx
    exact h.2 b hb
  · simpa using h.1

variable {record next : CanonicalCartRecord}

section

variable (h : record.Named)
include h

lemma addCartRepositoryItem_follows
    (hn : addCartRepositoryItem P input quantity now record = some next) : next.Follows record := by
  have hp := requestedUnits_pos quantity
  simp only [addCartRepositoryItem, bind_gives, permit_eq_some] at hn
  obtain ⟨-, -, hn⟩ := hn
  split at hn
  · simp only [bind_gives, permit_eq_some, pure_gives] at hn
    obtain ⟨line, hl, -, -, rfl⟩ := hn
    exact h.follows_setAppend hl _ hp
  · simp only [bind_gives, permit_eq_some, pure_gives] at hn
    obtain ⟨-, -, rfl⟩ := hn
    exact h.follows_concat _ hp

lemma incrementCartRepositoryItem_follows {evidence : Option CartItemStockEvidence}
    (hn : incrementCartRepositoryItem P identity quantity evidence record = some next) :
    next.Follows record := by
  simp only [incrementCartRepositoryItem, bind_gives, permit_eq_some, pure_gives] at hn
  obtain ⟨index, -, line, hl, -, -, rfl⟩ := hn
  exact h.follows_setAppend hl line.item (requestedUnits_pos quantity)

lemma refreshAndIncrementCartRepositoryItem_follows
    (hn : refreshAndIncrementCartRepositoryItem P identity input quantity record =
      some next) : next.Follows record := by
  simp only [refreshAndIncrementCartRepositoryItem, bind_gives, permit_eq_some, pure_gives] at hn
  obtain ⟨-, -, index, -, line, hl, -, -, -, -, rfl⟩ := hn
  exact h.follows_setAppend hl _ (requestedUnits_pos quantity)

lemma changeCartRepositoryFulfillment_follows
    (hn : changeCartRepositoryFulfillment P identity input expectedRevision record =
      some next) : next.Follows record := by
  simp only [changeCartRepositoryFulfillment, bind_gives, permit_eq_some] at hn
  obtain ⟨-, -, index, -, line, hl, -, -, context, -, fulfillment, -, -, -, -, -, -, -, hn⟩ := hn
  have hp := (h.stocked line (mem_of_getElem? hl)).total_pos
  split at hn
  · rename_i target i ht
    simp only [bind_gives, permit_eq_some, pure_gives] at hn
    obtain ⟨-, -, -, -, rfl⟩ := hn
    have ha := h.follows_setAppend (moveTarget_eq_some ht).1
      (selectCartItemSnapshot P target.item (movedInput P line input fulfillment)) hp
    exact ha.trans (ha.named.follows_sublist (eraseIdx_sublist _ _))
  · simp only [Option.pure_def, Option.some.injEq] at hn
    subst hn
    exact h.follows_setNew index _ hp

end

lemma pushAll_follows (merchantAddedAt : Int) (proposed : List CartItemInput)
    (record : CanonicalCartRecord) (h : record.Named) (hpos : ∀ item ∈ proposed, 0 < item.quantity) :
    (proposed.foldl (pushProposed P merchantAddedAt) record).Follows record := by
  induction proposed generalizing record with
  | nil => exact .refl h
  | cons item rest ih =>
    have hp : (pushProposed P merchantAddedAt record item).Follows record :=
      h.follows_concat _ (hpos item mem_cons_self)
    exact hp.trans (ih _ hp.named fun i hi => hpos i (mem_cons_of_mem _ hi))

lemma install_follows {proposed : List CartItemInput} {replaceExisting : Bool}
    {installed : Installed} (h : record.Named)
    (hins : installCheckoutIntentPurchase P proposed expectedRevision replaceExisting now
      record = .ok installed) (hp : installed.put = some next) : next.Follows record := by
  obtain ⟨merchant, hv, -, hc⟩ := install_cases hins hp
  rcases hc with ⟨-, rfl⟩ | rfl
  · apply h.follows_same
    apply forall₂_map_right_iff.2
    apply forall₂_same.2
    exact fun line _ => ⟨refreshLine_id _ _ _, refreshLine_batches _ _ _⟩
  · have hpos : ∀ item ∈ proposed, 0 < item.quantity := by
      intro item hi
      have := (hv.2.2.2.2.2.1 item hi).2.1
      omega
    have hk := h.follows_sublist (filter_sublist (p := fun line : CartLine =>
      decide (line.id ∉ ((deliveryGroup record.lines merchant).map fun group =>
        group.items.filterMap CartItem.cartLineId).getD [])))
    exact hk.trans (pushAll_follows _ proposed
      { record with
        lines := record.lines.filter fun line => decide (line.id ∉
          ((deliveryGroup record.lines merchant).map fun group =>
            group.items.filterMap CartItem.cartLineId).getD []) } hk.named hpos)

lemma removeAllocatedBatches_follows {allocations : List CartAllocation} (h : record.Named)
    (hn : removeAllocatedBatches allocations record = some next) : next.Follows record := by
  rw [removeAllocatedBatches_eq_some hn]
  exact h.follows_shrinks (removeAllocations_shrinks allocations h.stocked)

lemma commit_follows {edited : CanonicalCartRecord} (now : Int) (h : edited.Follows record) :
    (commit now edited).Follows record := h

lemma CartOp.next_follows {op : CartOp} (h : record.Named)
    (hn : op.next P now record = some next) : next.Follows record := by
  cases op with
  | changeFulfillment identity input expectedRevision =>
    obtain ⟨edited, he, rfl⟩ := Option.map_eq_some_iff.1 hn
    exact commit_follows now (changeCartRepositoryFulfillment_follows h he)
  | add input quantity =>
    obtain ⟨edited, he, rfl⟩ := Option.map_eq_some_iff.1 hn
    exact commit_follows now (addCartRepositoryItem_follows h he)
  | increment identity quantity evidence =>
    obtain ⟨edited, he, rfl⟩ := Option.map_eq_some_iff.1 hn
    exact commit_follows now (incrementCartRepositoryItem_follows h he)
  | refreshAndIncrement identity input quantity =>
    obtain ⟨edited, he, rfl⟩ := Option.map_eq_some_iff.1 hn
    exact commit_follows now (refreshAndIncrementCartRepositoryItem_follows h he)
  | install proposed expectedRevision replaceExisting =>
    simp only [CartOp.next] at hn
    split at hn
    · rename_i installed hi
      exact install_follows h hi hn
    · cases hn
  | decrement observed identity =>
    obtain ⟨edited, he, rfl⟩ := Option.map_eq_some_iff.1 hn
    obtain ⟨lines, rfl, hs⟩ := decrementCartRepositoryItem_shrinks h.stocked he
    exact commit_follows now (h.follows_shrinks hs)
  | remove observed identity =>
    obtain ⟨edited, he, rfl⟩ := Option.map_eq_some_iff.1 hn
    exact commit_follows now (removeAllocatedBatches_follows h he)
  | clear observed =>
    obtain ⟨edited, he, rfl⟩ := Option.map_eq_some_iff.1 hn
    exact commit_follows now (removeAllocatedBatches_follows h he)
  | clearPurchase observed purchaseId =>
    obtain ⟨edited, he, rfl⟩ := Option.map_eq_some_iff.1 hn
    exact commit_follows now (removeAllocatedBatches_follows h he)
  | consume claim =>
    obtain ⟨edited, he, rfl⟩ := Option.map_eq_some_iff.1 hn
    exact commit_follows now (removeAllocatedBatches_follows h he)

end Conduit.Cart
