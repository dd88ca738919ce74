import Conduit.Cart.Keeping

namespace Conduit.Cart

open Js Throwing List Bool

variable {P : CartPlatform}

structure Edits (P : CartPlatform) (n : Int) (record next : CanonicalCartRecord) : Prop where
  id : next.id = record.id
  version : next.version = record.version
  revision : next.revision = record.revision
  lower : record.nextSequence ≤ next.nextSequence
  upper : next.nextSequence ≤ record.nextSequence + n
  lines : LinesOk P next.nextSequence next.lines

variable {record next : CanonicalCartRecord} {item : CartItem} {ident : CartItemIdentity}
  {input : CartItemInput} {line : CartLine} {qty : Int}

lemma requestedUnits_bounds (h : qty ≤ maxSafeInteger) :
    0 < requestedUnits qty ∧ requestedUnits qty ≤ maxSafeInteger := by
  unfold requestedUnits maxSafeInteger at *
  omega

variable {record : CanonicalCartRecord} {index i : Nat}

lemma findIdx?_line {lines : List CartLine} {p : CartLine → Bool}
    (h : lines.findIdx? p = some index) (hl : lines[index]? = some line) : p line = true := by
  obtain ⟨hlt, hp, -⟩ := List.findIdx?_eq_some_iff_getElem.1 h
  obtain ⟨hlt', rfl⟩ := List.getElem?_eq_some_iff.1 hl
  exact hp

lemma findLineOf_eq_some (h : findLineOf record item = some index)
    (hl : record.lines[index]? = some line) : lineKey line.item = lineKey item :=
  hasKey_iff.1 (findIdx?_line h hl)

lemma findLineOf_eq_none (h : findLineOf record item = none) :
    ∀ l ∈ record.lines, lineKey l.item ≠ lineKey item := by
  intro l hl hk
  have := findIdx?_eq_none_iff.1 h l hl
  rw [hasKey_iff.2 hk] at this
  cases this

section

variable (h : LinesOk P record.nextSequence record.lines)
include h

lemma addCartRepositoryItem_edits {qty now : Int} (hi : WellFormed P input.toItem)
    (hq : qty ≤ maxSafeInteger)
    (hn : addCartRepositoryItem P input qty now record = some next) : Edits P 2 record next := by
  obtain ⟨hp, hsa⟩ := requestedUnits_bounds hq
  have hs := (hi.withQuantity (requestedUnits qty)).sanitize
  simp only [addCartRepositoryItem, bind_gives, permit_eq_some] at hn
  obtain ⟨-, -, hn⟩ := hn
  split at hn
  · rename_i index hin
    simp only [bind_gives, permit_eq_some, pure_gives] at hn
    obtain ⟨line, hl, -, -, rfl⟩ := hn
    have hk := findLineOf_eq_some hin hl
    exact
      { id := rfl
        version := rfl
        revision := rfl
        lower := by dsimp only; omega
        upper := by dsimp only; omega
        lines := h.setAppend hl (lineKey_select hk.symm)
          ((h.items line (mem_of_getElem? hl)).select hs) hp hsa }
  · rename_i hno
    simp only [bind_gives, permit_eq_some, pure_gives] at hn
    obtain ⟨-, -, rfl⟩ := hn
    exact
      { id := rfl
        version := rfl
        revision := rfl
        lower := by dsimp only; omega
        upper := by dsimp only; omega
        lines := (h.mono (by omega : record.nextSequence ≤ record.nextSequence + 2)).concat
          (h.id_ne (isTaken_lineIdOf _) (le_refl _)) (findLineOf_eq_none hno)
          (validBatches_singleton hp hsa)
          ⟨hs.productId, hs.merchantPubkey, hs.title, hs.currency,
            hs.price, hs.coordinate, hs.fulfillment⟩
          (issued_newLine _ _) }

lemma incrementCartRepositoryItem_edits {evid : Option CartItemStockEvidence}
    (hq : qty ≤ maxSafeInteger)
    (hn : incrementCartRepositoryItem P ident qty evid record = some next) :
    Edits P 1 record next := by
  obtain ⟨hp, hs⟩ := requestedUnits_bounds hq
  simp only [incrementCartRepositoryItem, bind_gives, permit_eq_some, pure_gives] at hn
  obtain ⟨index, -, line, hl, -, -, rfl⟩ := hn
  exact
    { id := rfl
      version := rfl
      revision := rfl
      lower := by dsimp only; omega
      upper := by dsimp only; omega
      lines := h.setAppend hl rfl (h.items line (mem_of_getElem? hl)) hp hs }

lemma refreshAndIncrementCartRepositoryItem_edits (hi : WellFormed P input.toItem)
    (hq : qty ≤ maxSafeInteger)
    (hn : refreshAndIncrementCartRepositoryItem P ident input qty record =
      some next) : Edits P 1 record next := by
  obtain ⟨hpos, hs⟩ := requestedUnits_bounds hq
  simp only [refreshAndIncrementCartRepositoryItem, bind_gives, permit_eq_some, pure_gives] at hn
  obtain ⟨-, -, index, -, line, hl, -, ⟨hm, hp, heq⟩, -, -, rfl⟩ := hn
  have hid := (of_decide_eq_true heq).symm
  have hk : lineKey (CartItemInput.sanitize P { input with quantity := line.total }).toItem =
      lineKey line.item := Prod.ext (Prod.ext hm hp) hid
  exact
    { id := rfl
      version := rfl
      revision := rfl
      lower := by dsimp only; omega
      upper := by dsimp only; omega
      lines := h.setAppend hl (lineKey_select hk)
        ((h.items line (mem_of_getElem? hl)).select (hi.withQuantity _).sanitize)
        hpos hs }

end

lemma moveTarget_eq_some {target : CartLine} (h : moveTarget record index item = some (target, i)) :
    record.lines[i]? = some target ∧ i ≠ index ∧ lineKey target.item = lineKey item := by
  have hm := mem_of_find?_eq_some h
  have hp := find?_some h
  simp only [and_eq_true, decide_eq_true_eq] at hp
  refine ⟨mem_zipIdx_iff_getElem?.1 hm, hp.1.1, ?_⟩
  apply hasKey_iff.1
  rw [and_eq_true]
  exact ⟨hp.1.2, hp.2⟩

lemma moveTarget_eq_none (h : moveTarget record index item = none)
    (hl : record.lines[i]? = some line) (hi : i ≠ index) : lineKey line.item ≠ lineKey item := by
  intro hk
  have := find?_eq_none.1 h (line, i) (mem_zipIdx_iff_getElem?.2 hl)
  apply this
  have hb := hasKey_iff.2 hk
  rw [and_eq_true] at hb
  simp [hi, hb.1, hb.2]

lemma changeCartRepositoryFulfillment_edits {expectedRevision : Int}
    (h : LinesOk P record.nextSequence record.lines) (hin : WellFormed P input.toItem)
    (ht : ∀ line ∈ record.lines, line.total ≤ maxSafeInteger)
    (hn : changeCartRepositoryFulfillment P ident input expectedRevision record =
      some next) : Edits P 2 record next := by
  simp only [changeCartRepositoryFulfillment, bind_gives, permit_eq_some] at hn
  obtain ⟨-, -, index, -, line, hli, -, ⟨hprod, hmer, -, -⟩, context, -, ful,
    hful, -, ⟨hsch, hdes⟩, -, -, -, hd, hn⟩ := hn
  have hmem := mem_of_getElem? hli
  have hp := (h.batches line hmem).total_pos
  have hs := ht line hmem
  have hw : WellFormed P (movedInput P line input ful).toItem := by
    refine ⟨hin.productId, hin.merchantPubkey, hin.title, hin.currency, hin.price,
      hin.coordinate, ?_⟩
    intro f hf
    exact hin.fulfillment f (hful.trans hf)
  have hm : lineKey (movedInput P line input ful).toItem = lineKey input.toItem := by
    exact Prod.ext rfl (fulfillmentId_congr rfl hful.symm)
  split at hn
  · rename_i target i htgt
    obtain ⟨hi, hne, hk⟩ := moveTarget_eq_some htgt
    simp only [bind_gives, permit_eq_some, pure_gives] at hn
    obtain ⟨-, -, -, -, rfl⟩ := hn
    exact
      { id := rfl
        version := rfl
        revision := rfl
        lower := by dsimp only; omega
        upper := by dsimp only; omega
        lines := (h.setAppend hi (lineKey_select hk.symm)
          ((h.items target (mem_of_getElem? hi)).select hw) hp hs).sublist
          (eraseIdx_sublist _ _) }
  · rename_i hno
    simp only [Option.pure_def, Option.some.injEq] at hn
    subst hn
    have hnew : ∀ l ∈ record.lines,
        lineKey l.item ≠ lineKey (movedInput P line input ful).toItem := by
      intro l hl hk
      obtain ⟨i, hi⟩ := mem_iff_getElem?.1 hl
      by_cases hindex : i = index
      · subst hindex
        obtain rfl : l = line := by rw [hi] at hli; exact Option.some.inj hli
        rw [hm] at hk
        have hid := (Prod.mk.inj hk).2
        rw [isSameCartLineFulfillment, decide_eq_true hid] at hd
        cases hd
      · exact moveTarget_eq_none hno hi hindex hk
    exact
      { id := rfl
        version := rfl
        revision := rfl
        lower := by dsimp only; omega
        upper := by dsimp only; omega
        lines := (h.mono (by omega : record.nextSequence ≤ record.nextSequence + 2)).setNew
          (h.id_ne (isTaken_lineIdOf _) (le_refl _)) hnew
          (validBatches_singleton hp hs) hw (issued_newLine _ _) }

end Conduit.Cart
