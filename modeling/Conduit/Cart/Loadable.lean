import Conduit.Cart.Purchases
import Mathlib.Algebra.Order.BigOperators.Group.List
import Mathlib.Algebra.Order.Group.Int

namespace Conduit.Cart

open Js Throwing List

variable (P : CartPlatform)

/-- An item that the parser keeps under its own line key. -/
structure WellFormed (item : CartItem) : Prop where
  productId : isNonempty item.productId = true
  merchantPubkey : isNonempty item.merchantPubkey = true
  title : isNonempty item.title = true
  currency : isNonempty item.currency = true
  price : 0 ≤ item.price
  coordinate : normalizeProductCoordinate item.productId item.merchantPubkey = some item.productId
  fulfillment : ∀ f ∈ item.fulfillment, orderItemFulfillmentSchema P f = true ∧ ∀ s, f ≠ .pickup s

/-- Lines whose numbers were all taken before `n`. -/
structure LinesOk (n : Int) (lines : List CartLine) : Prop where
  batches : ∀ line ∈ lines, ValidBatches line.batches
  items : ∀ line ∈ lines, WellFormed P line.item
  issued : ∀ line ∈ lines, IssuedBelow n line.id ∧ ∀ b ∈ line.batches, IssuedBelow n b.id
  lineIds : (lines.map (·.id)).Nodup
  lineKeys : (lines.map fun line => lineKey line.item).Nodup

structure Canonical (record : CanonicalCartRecord) : Prop where
  id : record.id = cartRecordId
  version : record.version = cartRecordVersion
  revision : IsSafeInteger record.revision ∧ 0 ≤ record.revision
  nextSequence : IsSafeInteger record.nextSequence ∧ 1 ≤ record.nextSequence
  lines : LinesOk P record.nextSequence record.lines

variable {P}

variable {lines : List CartLine} {line : CartLine} {item : CartItem} {n : Int}

lemma ValidBatches.total_pos (h : ValidBatches line.batches) : 0 < line.total := by
  obtain ⟨hne, ha, -⟩ := h
  apply sum_pos
  · intro x hx
    obtain ⟨b, hb, rfl⟩ := mem_map.1 hx
    exact (ha b hb).2.2
  · simpa using hne

lemma isNonempty_ne_nil {s : Text} (h : isNonempty s = true) : s ≠ [] := by
  rintro rfl
  revert h
  decide

lemma WellFormed.parseFulfillment (h : WellFormed P item) :
    parseFulfillment P item.fulfillment = some item.fulfillment := by
  cases hf : item.fulfillment with
  | none => rfl
  | some f =>
    obtain ⟨ha, hr⟩ := h.fulfillment f hf
    cases f with
    | pickup s => exact absurd rfl (hr s)
    | digital => rfl
    | shipping => rfl
    | eventMarketPickup p => exact if_pos ha

lemma WellFormed.parses (h : WellFormed P item) (isVerified : Text → Bool) {qty : Int}
    (hq : 0 < qty) :
    ∃ parsed, parseCartItem P isVerified { item with quantity := qty } = some parsed ∧
      lineKey parsed = lineKey item ∧ WellFormed P parsed := by
  have hne := isNonempty_ne_nil h.productId
  unfold parseCartItem
  rw [if_pos ⟨h.productId, h.merchantPubkey, h.title, h.currency, h.price, hq⟩]
  simp only [h.coordinate, h.parseFulfillment, if_neg hne, Option.some.injEq, exists_eq_left']
  refine ⟨?_, ?_⟩
  · unfold lineKey getCartItemKey
    rw [Prod.mk.injEq]
    exact ⟨rfl, fulfillmentId_congr rfl rfl⟩
  · exact ⟨h.productId, h.merchantPubkey, h.title, h.currency, h.price, h.coordinate,
      h.fulfillment⟩

def SameLine (P : CartPlatform) (line parsed : CartLine) : Prop :=
  parsed.id = line.id ∧ parsed.batches = line.batches ∧ lineKey parsed.item = lineKey line.item ∧
    (WellFormed P line.item → WellFormed P parsed.item)

lemma parseStoredLine_eq_some (isVerified : Text → Bool) (hb : ValidBatches line.batches)
    (hi : WellFormed P line.item) :
    ∃ parsed, parseStoredLine P isVerified line = some parsed ∧ SameLine P line parsed := by
  obtain ⟨item, hp, hk, hw⟩ := hi.parses isVerified hb.total_pos
  refine ⟨{ line with item := sanitizeCartItemImage P item }, ?_, rfl, rfl, ?_, ?_⟩
  · rw [parseStoredLine, if_pos hb, hp]
    rfl
  · rw [← hk]
    rfl
  · intro _
    exact ⟨hw.productId, hw.merchantPubkey, hw.title, hw.currency, hw.price,
      hw.coordinate, hw.fulfillment⟩

lemma parseStoredLines_ok (isVerified : Text → Bool) (lineIds : List Text)
    (lineKeys : List ((Text × Text) × FulfillmentId))
    (hb : ∀ line ∈ lines, ValidBatches line.batches)
    (hi : ∀ line ∈ lines, WellFormed P line.item) (hids : (lines.map (·.id)).Nodup)
    (hk : (lines.map fun line => lineKey line.item).Nodup) (hn : ∀ line ∈ lines, line.id ∉ lineIds)
    (hnew : ∀ line ∈ lines, lineKey line.item ∉ lineKeys) :
    ∃ parsed, parseStoredLines P isVerified lines lineIds lineKeys = .ok parsed ∧
      Forall₂ (SameLine P) lines parsed := by
  induction lines generalizing lineIds lineKeys with
  | nil => exact ⟨[], rfl, .nil⟩
  | cons line rest ih =>
    rw [map_cons, nodup_cons] at hids hk
    obtain ⟨parsed, hli, heq⟩ := parseStoredLine_eq_some isVerified
      (hb line mem_cons_self) (hi line mem_cons_self)
    have hid : parsed.id ∉ lineIds := heq.1 ▸ hn line mem_cons_self
    have hkey : lineKey parsed.item ∉ lineKeys := heq.2.2.1 ▸ hnew line mem_cons_self
    obtain ⟨others, hr, ha⟩ := ih (parsed.id :: lineIds)
      (lineKey parsed.item :: lineKeys)
      (fun l hl => hb l (mem_cons_of_mem _ hl))
      (fun l hl => hi l (mem_cons_of_mem _ hl)) hids.2 hk.2
      (by
        intro l hl hm
        rcases mem_cons.1 hm with h | h
        · exact hids.1 (heq.1 ▸ h ▸ mem_map_of_mem hl)
        · exact hn l (mem_cons_of_mem _ hl) h)
      (by
        intro l hl hm
        rcases mem_cons.1 hm with h | h
        · exact hk.1 (heq.2.2.1 ▸ h ▸ mem_map_of_mem (f := fun l => lineKey l.item) hl)
        · exact hnew l (mem_cons_of_mem _ hl) h)
    refine ⟨parsed :: others, ?_, .cons heq ha⟩
    rw [parseStoredLines, hli]
    simp only [if_neg hid, if_neg hkey, hr]
    rfl

lemma LinesOk.mono {m : Int} (h : LinesOk P n lines) (hnm : n ≤ m) : LinesOk P m lines :=
  { h with
    issued := fun line hl =>
      ⟨(h.issued line hl).1.mono hnm, fun b hb => ((h.issued line hl).2 b hb).mono hnm⟩ }

lemma LinesOk.sublist {lines' : List CartLine} (h : LinesOk P n lines) (hs : lines'.Sublist lines)
    : LinesOk P n lines' where
  batches := fun line hl => h.batches line (hs.subset hl)
  items := fun line hl => h.items line (hs.subset hl)
  issued := fun line hl => h.issued line (hs.subset hl)
  lineIds := h.lineIds.sublist (hs.map _)
  lineKeys := h.lineKeys.sublist (hs.map _)

lemma LinesOk.parsed {parsed : List CartLine} (h : LinesOk P n lines)
    (hp : Forall₂ (SameLine P) lines parsed) : LinesOk P n parsed := by
  have hids : parsed.map (·.id) = lines.map (·.id) :=
    (forall₂_eq_eq_eq ▸ forall₂_map_left_iff.2
      (forall₂_map_right_iff.2 (hp.imp fun _ _ hs => hs.1.symm)) :
      map _ lines = map _ parsed).symm
  have hk : parsed.map (fun line => lineKey line.item) =
      lines.map (fun line => lineKey line.item) :=
    (forall₂_eq_eq_eq ▸ forall₂_map_left_iff.2
      (forall₂_map_right_iff.2 (hp.imp fun _ _ hs => hs.2.2.1.symm)) :
      map _ lines = map _ parsed).symm
  have hf : ∀ l ∈ parsed, ∃ line ∈ lines, SameLine P line l := by
    intro l hl
    obtain ⟨i, hi, rfl⟩ := mem_iff_getElem.1 hl
    have hi' : i < lines.length := hp.length_eq ▸ hi
    exact ⟨lines[i], getElem_mem hi', (forall₂_iff_get.1 hp).2 i hi' hi⟩
  constructor
  · intro l hl
    obtain ⟨line, hli, heq⟩ := hf l hl
    exact heq.2.1 ▸ h.batches line hli
  · intro l hl
    obtain ⟨line, hli, heq⟩ := hf l hl
    exact heq.2.2.2 (h.items line hli)
  · intro l hl
    obtain ⟨line, hli, heq⟩ := hf l hl
    rw [heq.1, heq.2.1]
    exact h.issued line hli
  · exact hids ▸ h.lineIds
  · exact hk ▸ h.lineKeys

lemma Canonical.parses {record : CanonicalCartRecord} (h : Canonical P record)
    (isVerified : Text → Bool) : ∃ parsed, parseStoredRecord P isVerified record = .ok parsed ∧
      Canonical P parsed := by
  obtain ⟨lines, hls, ha⟩ := parseStoredLines_ok isVerified [] [] h.lines.batches
    h.lines.items h.lines.lineIds
    h.lines.lineKeys (by simp) (by simp)
  refine ⟨{ record with lines := lines }, ?_, ?_⟩
  · have hh : ¬ (record.id ≠ cartRecordId ∨ record.version ≠ cartRecordVersion ∨
        ¬ IsSafeInteger record.revision ∨ record.revision < 0 ∨
        ¬ IsSafeInteger record.nextSequence ∨ record.nextSequence < 1) := by
      have hr := h.revision
      have hn := h.nextSequence
      simp only [h.id, h.version, ne_eq, not_true_eq_false, false_or, hr.1, hn.1, not_or, not_lt]
      exact ⟨hr.2, hn.2⟩
    rw [parseStoredRecord, reject_of_not hh, ok_bind, hls, ok_bind]
    rfl
  · exact ⟨h.id, h.version, h.revision, h.nextSequence, h.lines.parsed ha⟩

end Conduit.Cart
