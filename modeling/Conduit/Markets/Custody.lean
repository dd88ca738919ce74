import Conduit.Markets.Evidence
import Conduit.Stock.Guarantees

namespace Conduit.Markets

open Js Stock Runs Throwing List Table

def Authentic (contentOf : Text → Int × Text × Int × List (List Text) × Text)
    (event : SignedEvent) : Prop :=
  IsHex64 event.id ∧ contentOf event.id =
    (event.kind, event.pubkey, event.createdAt, event.tags, event.content)

structure RetainCall where
  available : List SignedEvent → Bool
  now : Int
  coordinate : Text
  events : List SignedEvent
  retention : EvidenceRetention

/-- A call that throws aborts its transaction. -/
def RetainStep (P : EvidencePlatform) (contentOf : Text → Int × Text × Int × List (List Text) × Text)
    (call : RetainCall) (s t : EvidenceTable) : Prop :=
  (∀ event ∈ call.events, Authentic contentOf event) ∧
    t = (retain P call.available call.now call.coordinate call.events call.retention s).getD s

def Filed (contentOf : Text → Int × Text × Int × List (List Text) × Text) (table : EvidenceTable) :
    Prop :=
  ∀ row ∈ table.rows, row.id = evidenceId row.marketCoordinate row.signedEvent.id ∧
    Authentic contentOf row.signedEvent

variable (coordinate : Text)

variable (row : EvidenceRow)

def inCoordinate : Int :=
  if row.marketCoordinate = coordinate then 1 else 0

def isDiscovery : Int := if row.discoveryBytes.isSome = true then 1 else 0

structure WithinQuotas (table : EvidenceTable) : Prop where
  coordinate : ∀ coordinate,
    table.total (inCoordinate coordinate) ≤ maxEventMarketRecordsPerCoordinate
  discovery : table.total isDiscovery ≤ maxEventMarketDiscoveryRecords
  bytes : table.total bytesOf ≤ maxEventMarketDiscoveryBytes

def IsRevision : Prop :=
  row.marketCoordinate = coordinate ∧ row.signedEvent.kind = 30409
  deriving Decidable

/-- The newest of the roster revisions that are stored for a coordinate. -/
def IsWinner (table : EvidenceTable) (event : SignedEvent) : Prop :=
  (∃ row ∈ table.rows, IsRevision coordinate row ∧ row.signedEvent = event) ∧
    ∀ row ∈ table.rows, IsRevision coordinate row →
      0 ≤ compareReplaceableEventFrontiers event row.signedEvent

section
variable {P : EvidencePlatform} {contentOf : Text → Int × Text × Int × List (List Text) × Text}
  {available : List SignedEvent → Bool} {coordinate : Text} {table s t : EvidenceTable}
  {row : EvidenceRow} {rows evicted : List EvidenceRow} {now : Int}

lemma evidenceId_inj {a b c d : Text} (h : evidenceId a b = evidenceId c d) (hb : IsHex64 b)
    (hd : IsHex64 d) : a = c ∧ b = d := by
  have hl : (':' :: b).length = (':' :: d).length := by
    rw [length_cons, length_cons, hb.1, hd.1]
  obtain ⟨rfl, ht⟩ := append_inj' h hl
  exact ⟨rfl, (cons.inj ht).2⟩

lemma sum_indicator (p : EvidenceRow → Bool) (l : List EvidenceRow) :
    (l.map fun row => if p row = true then (1 : Int) else 0).sum = l.countP p := by
  induction l with
  | nil => rfl
  | cons a l ih =>
    rw [map_cons, sum_cons]
    by_cases h : p a = true
    · rw [if_pos h, countP_cons_of_pos h]
      omega
    · rw [if_neg h, countP_cons_of_neg h]
      omega

lemma total_inCoordinate (table : EvidenceTable) (coordinate : Text) :
    table.total (inCoordinate coordinate) =
      table.rows.countP fun row => decide (row.marketCoordinate = coordinate) := by
  rw [← sum_indicator]
  simp only [decide_eq_true_eq]
  rfl

lemma total_isDiscovery (table : EvidenceTable) :
    table.total isDiscovery = table.rows.countP fun row => row.discoveryBytes.isSome := by
  rw [← sum_indicator]
  rfl

lemma bytesOf_nonneg (row : EvidenceRow) : 0 ≤ bytesOf row := by
  unfold bytesOf
  omega

variable {call : RetainCall} {retention : EvidenceRetention} {full : List EvidenceRow → Bool}

lemma evictWhile_spec {leaves : List EvidenceRow → Option Bool} {groups : List (List EvidenceRow)}
    {before after : List EvidenceRow} (h : evictWhile full leaves groups before = some after) :
    after.Sublist (before ++ groups.flatten) ∧ before ⊆ after ∧
      ∀ row ∈ after, row ∈ before ∨
        ∃ group ∈ groups, leaves group = some true ∧ group ⊆ after ∧ row ∈ group := by
  induction groups generalizing before with
  | nil =>
    cases h
    exact ⟨sublist_append_left _ _, .refl _, fun row hrow => .inl hrow⟩
  | cons group groups ih =>
    simp only [evictWhile] at h
    split_ifs at h with hfull
    · cases h
      exact ⟨sublist_append_left _ _, .refl _, fun row hrow => .inl hrow⟩
    · simp only [bind_gives] at h
      obtain ⟨evictable, hl, hre⟩ := h
      obtain ⟨hsub, hs, hro⟩ := ih hre
      rw [flatten_cons, ← append_assoc]
      cases evictable with
      | true =>
        refine ⟨hsub, fun row hrow => hs (mem_append_left _ hrow), fun row hrow => ?_⟩
        rcases hro row hrow with hb | ⟨g, hg, hgl, hgs, hrow⟩
        · rw [if_pos rfl] at hb
          rcases mem_append.1 hb with hb | hgrp
          · exact .inl hb
          · refine .inr ⟨group, .head _, hl, fun r hr => ?_, hgrp⟩
            exact hs (mem_append_right _ hr)
        · exact .inr ⟨g, .tail _ hg, hgl, hgs, hrow⟩
      | false =>
        refine ⟨hsub.trans ?_, hs, fun row hrow => ?_⟩
        · exact (sublist_append_left before group).append_right _
        · rcases hro row hrow with hb | ⟨g, hg, hgl, hgs, hrow⟩
          · rw [if_neg (by decide)] at hb
            exact .inl hb
          · exact .inr ⟨g, .tail _ hg, hgl, hgs, hrow⟩

lemma mem_coordinateRows :
    row ∈ coordinateRows coordinate table ↔ row ∈ table.rows ∧ row.marketCoordinate = coordinate := by
  rw [coordinateRows, mem_insertionSort, mem_filter, decide_eq_true_iff]

lemma mem_cachedRows :
    row ∈ cachedRows table ↔ row ∈ table.rows ∧ row.discoveryBytes.isSome = true := by
  rw [cachedRows, mem_insertionSort, mem_filter]

lemma nodup_rows (table : EvidenceTable) : table.rows.Nodup := table.nodup.of_map

lemma nodup_coordinateRows : (coordinateRows coordinate table).Nodup :=
  (perm_insertionSort _ _).nodup_iff.2 ((nodup_rows table).filter _)

lemma nodup_cachedRows : (cachedRows table).Nodup :=
  (perm_insertionSort _ _).nodup_iff.2 ((nodup_rows table).filter _)

variable {group : List EvidenceRow} {unique : List SignedEvent}

lemma mem_otherGroups (h : group ∈ otherGroups coordinate table) :
    ∃ candidate, candidate ≠ coordinate ∧ group.Nodup ∧ ∀ row, row ∈ group ↔
      row ∈ table.rows ∧ row.discoveryBytes.isSome = true ∧ row.marketCoordinate = candidate := by
  obtain ⟨first, hfst, rfl⟩ := mem_map.1 h
  have hm := (mapOf_holds _ _).from_entries first hfst
  have hne : first.marketCoordinate ≠ coordinate := of_decide_eq_true (mem_filter.1 hm).2
  refine ⟨first.marketCoordinate, hne, (nodup_cachedRows.filter _).filter _, fun row => ?_⟩
  rw [mem_filter, mem_filter, mem_cachedRows, decide_eq_true_iff, decide_eq_true_iff]
  constructor
  · rintro ⟨⟨hr, -⟩, heq⟩
    exact ⟨hr.1, hr.2, heq⟩
  · rintro ⟨hr, hs, heq⟩
    exact ⟨⟨⟨hr, hs⟩, heq ▸ hne⟩, heq⟩

lemma nodup_flatten_otherGroups : (otherGroups coordinate table).flatten.Nodup := by
  rw [nodup_flatten]
  refine ⟨fun group hg => ?_, ?_⟩
  · obtain ⟨-, -, hnd, -⟩ := mem_otherGroups hg
    exact hnd
  · unfold otherGroups
    rw [pairwise_map]
    have hk := (mapOf_holds (fun row : EvidenceRow => row.marketCoordinate)
      ((cachedRows table).filter fun row => decide (row.marketCoordinate ≠ coordinate))).nodup
    refine (pairwise_map.1 hk).imp fun hne => ?_
    intro row hr hr'
    have h₁ := of_decide_eq_true (mem_filter.1 hr).2
    have h₂ := of_decide_eq_true (mem_filter.1 hr').2
    exact hne (h₁.symm.trans h₂)

/-- A coordinate that holds one roster revision, without predecessor or merchants, and presentation
alone. -/
def IsInitial (P : EvidencePlatform) (coordinate : Text) (table : EvidenceTable) : Prop :=
  (∀ row ∈ table.rows, row.marketCoordinate = coordinate →
    row.signedEvent.kind = 30409 ∨ isCalendarKind row.signedEvent.kind = true) ∧
  (∀ row ∈ table.rows, ∀ other ∈ table.rows, IsRevision coordinate row →
    IsRevision coordinate other → row = other) ∧
  ∀ row ∈ table.rows, IsRevision coordinate row → ∃ market,
    parseEventMarketRosterEvent P row.signedEvent = some market ∧
      market.previousEventId = none ∧ market.merchants = []

lemma eq_of_countP_eq_one {p : EvidenceRow → Bool} {l : List EvidenceRow}
    (h : l.countP p = 1) {a b : EvidenceRow} (ha : a ∈ l) (hb : b ∈ l) (hpa : p a = true)
    (hpb : p b = true) : a = b := by
  rw [countP_eq_length_filter] at h
  obtain ⟨x, hx⟩ := length_eq_one_iff.1 h
  have ha' : a ∈ l.filter p := mem_filter.2 ⟨ha, hpa⟩
  have hb' : b ∈ l.filter p := mem_filter.2 ⟨hb, hpb⟩
  rw [hx, mem_singleton] at ha' hb'
  rw [ha', hb']

lemma isInitialCandidate_spec (hg : group ∈ otherGroups coordinate table)
    (h : isInitialCandidate P available table group = some true) :
    ∃ candidate, candidate ≠ coordinate ∧ IsInitial P candidate table ∧
      ∀ row, row ∈ group ↔ row ∈ table.rows ∧ row.marketCoordinate = candidate := by
  obtain ⟨candidate, hne, hnd, hm⟩ := mem_otherGroups hg
  cases group with
  | nil => cases h
  | cons first rest =>
    simp only [isInitialCandidate] at h
    split_ifs at h with href
    · cases h
    rw [not_or, not_or, not_not, not_not, not_exists] at href
    obtain ⟨hone, hki, hc⟩ := href
    simp only [bind_gives] at h
    obtain ⟨admitted, ha, h⟩ := h
    split_ifs at h with hl
    · cases h
    rw [not_not] at hl
    have hca : first.marketCoordinate = candidate := ((hm first).1 mem_cons_self).2.2
    -- the group is the whole of its coordinate
    have hall : ∀ row, row ∈ first :: rest ↔
        row ∈ table.rows ∧ row.marketCoordinate = candidate := by
      have hsub : first :: rest ⊆ table.rows.filter fun row =>
          decide (row.marketCoordinate = candidate) := by
        intro row hr
        obtain ⟨hin, -, heq⟩ := (hm row).1 hr
        exact mem_filter.2 ⟨hin, decide_eq_true heq⟩
      have hpm := (subperm_of_subset hnd hsub).perm_of_length_le (by
        rw [← countP_eq_length_filter, ← hca, hc])
      intro row
      rw [hpm.mem_iff, mem_filter, decide_eq_true_iff]
    have hadm : admitted = (first :: rest).map fun row => row.signedEvent := by
      unfold verifySignedEventBatches at ha
      split_ifs at ha
      cases ha
      have hmap : ((first :: rest).map (·.signedEvent)).length =
          (first :: rest).length := length_map _
      rw [← hmap] at hl
      exact filter_eq_self.2 (length_filter_eq_length_iff.1 hl)
    have hrev : ∀ row ∈ first :: rest, row.signedEvent.kind = 30409 →
        admitted.find? (fun event => decide (event.kind = 30409)) = some row.signedEvent := by
      intro row hr hk
      have hfo : (admitted.find? fun event => decide (event.kind = 30409)).isSome = true := by
        rw [find?_isSome, hadm]
        exact ⟨row.signedEvent, mem_map_of_mem hr, decide_eq_true hk⟩
      obtain ⟨event, hev⟩ := Option.isSome_iff_exists.1 hfo
      have hin := mem_of_find?_eq_some hev
      rw [hadm] at hin
      obtain ⟨other, ho, rfl⟩ := mem_map.1 hin
      have hfst := find?_some hev
      have hk' : other.signedEvent.kind = 30409 := of_decide_eq_true hfst
      rw [hev, eq_of_countP_eq_one hone ho hr (decide_eq_true hk')
        (decide_eq_true hk)]
    refine ⟨candidate, hne, ⟨fun row hr heq => ?_, ?_, ?_⟩, hall⟩
    · by_contra hk
      rw [not_or, Bool.not_eq_true] at hk
      exact hki row ⟨(hall row).2 ⟨hr, heq⟩, hk⟩
    · rintro row hr other ho ⟨heq, hk⟩ ⟨heq', hk'⟩
      exact eq_of_countP_eq_one hone ((hall row).2 ⟨hr, heq⟩) ((hall other).2 ⟨ho, heq'⟩)
        (decide_eq_true hk) (decide_eq_true hk')
    · rintro row hr ⟨heq, hk⟩
      rw [hrev row ((hall row).2 ⟨hr, heq⟩) hk] at h
      split at h
      · cases h
      · rename_i market hmkt
        obtain ⟨-, -, hp, hmer, -⟩ := of_decide_eq_true (Option.some.inj h)
        exact ⟨market, hmkt, hp, hmer⟩

def Evictable (P : EvidencePlatform) (coordinate : Text) (table : EvidenceTable)
    (rows evicted : List EvidenceRow) (row : EvidenceRow) : Prop :=
  row.marketCoordinate = coordinate ∧ row.id ∉ rows.map (·.id) ∧
      isCalendarKind row.signedEvent.kind = true ∨
    row.marketCoordinate ≠ coordinate ∧ IsInitial P row.marketCoordinate table ∧
      ∀ other ∈ table.rows, other.marketCoordinate = row.marketCoordinate → other ∈ evicted

lemma evictedRows_spec {newDeletions : List SignedEvent}
    (h : evictedRows P available coordinate table unique newDeletions rows full = some evicted) :
    evicted.Nodup ∧ ∀ row ∈ evicted, row ∈ table.rows ∧ row.discoveryBytes.isSome = true ∧
      Evictable P coordinate table rows evicted row := by
  have hn : (([] : List EvidenceRow).Nodup ∧ ∀ row ∈ ([] : List EvidenceRow),
      row ∈ table.rows ∧ row.discoveryBytes.isSome = true ∧
        Evictable P coordinate table rows [] row) :=
    ⟨nodup_nil, fun row hr => absurd hr not_mem_nil⟩
  unfold evictedRows at h
  split_ifs at h with hidle
  · cases h
    exact hn
  · simp only [bind_gives] at h
    obtain ⟨verified, -, h⟩ := h
    split_ifs at h with happ
    swap
    · cases h
      exact hn
    · simp only [bind_gives] at h
      obtain ⟨first, hfst, h⟩ := h
      have hp : first.Sublist (coordinateRows coordinate table) ∧ ∀ row ∈ first,
          row.discoveryBytes.isSome = true ∧ row.id ∉ rows.map (·.id) ∧
            isCalendarKind row.signedEvent.kind = true := by
        unfold evictPresentation at hfst
        split_ifs at hfst
        · obtain ⟨hsub, -, hro⟩ := evictWhile_spec hfst
          rw [← flatMap_def, flatMap_singleton'] at hsub
          refine ⟨hsub, fun row hr => ?_⟩
          obtain hnil | ⟨group, hg, hl, -, hin⟩ := hro row hr
          · cases hnil
          · have hr' := all_eq_true.1 (Option.some.inj hl) row hin
            obtain ⟨hs, hid, hk, -⟩ := of_decide_eq_true hr'
            exact ⟨hs, hid, hk⟩
        · cases hfst
          exact ⟨nil_sublist _, fun row hr => absurd hr not_mem_nil⟩
      obtain ⟨hsub, -, hro⟩ := evictWhile_spec h
      have hnd : (first ++ (otherGroups coordinate table).flatten).Nodup := by
        refine nodup_append'.2 ⟨hp.1.nodup nodup_coordinateRows,
          nodup_flatten_otherGroups, fun row hr ho => ?_⟩
        obtain ⟨group, hg, hin⟩ := mem_flatten.1 ho
        obtain ⟨candidate, hne, -, hm⟩ := mem_otherGroups hg
        have heq := (mem_coordinateRows.1 (hp.1.subset hr)).2
        exact hne (((hm row).1 hin).2.2.symm.trans heq)
      refine ⟨hsub.nodup hnd, fun row hr => ?_⟩
      rcases hro row hr with hbef | ⟨group, hg, hl, ht, hin⟩
      · obtain ⟨hin, heq⟩ := mem_coordinateRows.1 (hp.1.subset hbef)
        obtain ⟨hs, hid, hk⟩ := hp.2 row hbef
        exact ⟨hin, hs, .inl ⟨heq, hid, hk⟩⟩
      · obtain ⟨_, -, -, hm⟩ := mem_otherGroups hg
        obtain ⟨candidate, hne, hinit, hall⟩ := isInitialCandidate_spec hg hl
        obtain ⟨hrowIn, heq⟩ := (hall row).1 hin
        refine ⟨hrowIn, ((hm row).1 hin).2.1, .inr ⟨heq ▸ hne, heq ▸ hinit, ?_⟩⟩
        intro other ho hc
        exact ht ((hall other).2 ⟨ho, hc.trans heq⟩)

structure Writes (contentOf : Text → Int × Text × Int × List (List Text) × Text) (coordinate : Text)
    (table : EvidenceTable) (rows : List EvidenceRow) : Prop where
  nodup : (rows.map (·.id)).Nodup
  within : ∀ row ∈ rows, row.marketCoordinate = coordinate
  keyed : ∀ row ∈ rows, row.id = evidenceId coordinate row.signedEvent.id
  authentic : ∀ row ∈ rows, Authentic contentOf row.signedEvent
  durable : ∀ row ∈ rows, ∀ old, table.get row.id = some old → old.discoveryBytes = none →
    row.discoveryBytes = none

structure Evicts (P : EvidencePlatform) (coordinate : Text) (table : EvidenceTable)
    (rows evicted : List EvidenceRow) : Prop where
  nodup : evicted.Nodup
  stored : ∀ row ∈ evicted, row ∈ table.rows
  discovery : ∀ row ∈ evicted, row.discoveryBytes.isSome = true
  evictable : ∀ row ∈ evicted, Evictable P coordinate table rows evicted row
  apart : ∀ row ∈ evicted, ∀ written ∈ rows, written.id ≠ row.id

/-- All that `retain` can do to the rows. -/
structure Retains (P : EvidencePlatform)
    (contentOf : Text → Int × Text × Int × List (List Text) × Text) (coordinate : Text)
    (s t : EvidenceTable) : Prop where
  evicts : ∃ rows evicted, Writes contentOf coordinate s rows ∧ Evicts P coordinate s rows evicted ∧
    ¬(admission coordinate s rows).atCapacity evicted ∧ t = (s.removeAll evicted).putAll rows

lemma evidenceRow_fields {negative : Bool} {previous : Option EvidenceRow} {event : SignedEvent} :
    (evidenceRow P coordinate now retention negative previous event).id =
        evidenceId coordinate event.id ∧
      (evidenceRow P coordinate now retention negative previous event).marketCoordinate =
        coordinate ∧
      (evidenceRow P coordinate now retention negative previous event).signedEvent = event ∧
      ∀ old ∈ previous, old.discoveryBytes = none →
        (evidenceRow P coordinate now retention negative previous event).discoveryBytes = none := by
  unfold evidenceRow
  split_ifs with h
  · exact ⟨rfl, rfl, rfl, fun old hold hn => absurd hn (h.2.2 old hold)⟩
  · exact ⟨rfl, rfl, rfl, fun _ _ _ => rfl⟩

lemma writes_rows (retention : EvidenceRetention) (negative : SignedEvent → Bool)
    (hi : (unique.map (·.id)).Nodup) (ha : ∀ event ∈ unique, Authentic contentOf event) :
    Writes contentOf coordinate table (unique.map fun event =>
      evidenceRow P coordinate now retention (negative event) (storedRow coordinate table event)
        event) := by
  have hof : ∀ row ∈ unique.map fun event => evidenceRow P coordinate now retention
      (negative event) (storedRow coordinate table event) event, ∃ event ∈ unique,
        row = evidenceRow P coordinate now retention (negative event)
          (storedRow coordinate table event) event := by
    intro row hr
    obtain ⟨event, hev, rfl⟩ := mem_map.1 hr
    exact ⟨event, hev, rfl⟩
  refine ⟨?_, fun row hr => ?_, fun row hr => ?_, fun row hr => ?_, fun row hr => ?_⟩
  · have hm : (unique.map fun event => evidenceRow P coordinate now retention (negative event)
        (storedRow coordinate table event) event).map (·.id) =
          (unique.map (·.id)).map (evidenceId coordinate) := by
      rw [map_map, map_map]
      exact map_congr_left fun event _ => evidenceRow_fields.1
    rw [hm]
    refine hi.map fun a b hab => ?_
    exact (cons.inj (append_cancel_left hab)).2
  · obtain ⟨event, -, rfl⟩ := hof row hr
    exact evidenceRow_fields.2.1
  · obtain ⟨event, -, rfl⟩ := hof row hr
    rw [evidenceRow_fields.2.2.1]
    exact evidenceRow_fields.1
  · obtain ⟨event, hev, rfl⟩ := hof row hr
    rw [evidenceRow_fields.2.2.1]
    exact ha event hev
  · obtain ⟨event, -, rfl⟩ := hof row hr
    intro old hold
    rw [evidenceRow_fields.1] at hold
    exact evidenceRow_fields.2.2.2 old hold

lemma Evictable.apart (hf : Filed contentOf table) (hw : Writes contentOf coordinate table rows)
    (hr : row ∈ table.rows) (h : Evictable P coordinate table rows evicted row) :
    ∀ written ∈ rows, written.id ≠ row.id := by
  intro written hwr heq
  rcases h with ⟨-, hid, -⟩ | ⟨hne, -, -⟩
  · exact hid (heq ▸ mem_map_of_mem hwr)
  · have hi := (hw.keyed written hwr).symm.trans (heq.trans (hf row hr).1)
    have hs := evidenceId_inj hi (hw.authentic written hwr).1 (hf row hr).2.1
    exact hne hs.1.symm

lemma retains_of_transaction {deletions : List SignedEvent} (hf : Filed contentOf table)
    (hi : (unique.map (·.id)).Nodup) (ha : ∀ event ∈ unique, Authentic contentOf event)
    (h : retainTransaction P available now coordinate unique deletions retention table = some t) :
    Retains P contentOf coordinate table t := by
  simp only [retainTransaction, bind_gives, exists_guard] at h
  obtain ⟨witnesses, -, -, evicted, he, hc, heq⟩ := h
  obtain ⟨hnd, hr⟩ := evictedRows_spec he
  refine ⟨_, evicted, writes_rows retention _ hi ha, ?_, hc, (Option.some.inj heq).symm⟩
  exact ⟨hnd, fun row hrow => (hr row hrow).1, fun row hrow => (hr row hrow).2.1,
    fun row hrow => (hr row hrow).2.2, fun row hrow =>
      (hr row hrow).2.2.apart hf (writes_rows retention _ hi ha) (hr row hrow).1⟩

lemma total_retained (hw : Writes contentOf coordinate table rows)
    (he : Evicts P coordinate table rows evicted) (f : EvidenceRow → Int) :
    ((table.removeAll evicted).putAll rows).total f = table.total f - (evicted.map f).sum +
      (rows.map fun row => f row - ((table.get row.id).map f).getD 0).sum := by
  have hi : (evicted.map (·.id)).Nodup := by
    refine Nodup.map_on (fun a ha b hb hab => ?_) he.nodup
    exact Keyed.eq_of_key_eq table.nodup (he.stored a ha) (he.stored b hb) hab
  have heq : (rows.map fun row => f row - (((table.removeAll evicted).get row.id).map f).getD 0) =
      rows.map fun row => f row - ((table.get row.id).map f).getD 0 := by
    apply map_congr_left
    intro row hr
    rw [get_removeAll fun gone hg => he.apart gone hg row hr]
  rw [total_putAll_sub hw.nodup, heq, total_removeAll hi he.stored f]
  omega

lemma getD_map_stored {f : EvidenceRow → Int} {k : Text} {n : Int}
    (h : ∀ old, table.get k = some old → f old = n) :
    ((table.get k).map f).getD 0 = if (table.get k).isNone = true then 0 else n := by
  cases hg : table.get k with
  | none => rfl
  | some old => exact h old hg

lemma coordinate_quota (hf : Filed contentOf table) (hw : Writes contentOf coordinate table rows)
    (he : Evicts P coordinate table rows evicted)
    (hc : ¬(admission coordinate table rows).atCapacity evicted) :
    ((table.removeAll evicted).putAll rows).total (inCoordinate coordinate) ≤
      maxEventMarketRecordsPerCoordinate := by
  have hn : (rows.map fun row => inCoordinate coordinate row -
      ((table.get row.id).map (inCoordinate coordinate)).getD 0).sum =
        rows.countP fun row => (table.get row.id).isNone := by
    rw [← sum_indicator]
    congr 1
    apply map_congr_left
    intro row hr
    have hold : ∀ old, table.get row.id = some old → inCoordinate coordinate old = 1 := by
      intro old hget
      obtain ⟨hm, hid⟩ := get_eq_some.1 hget
      have hi := (hf old hm).1.symm.trans (hid.trans (hw.keyed row hr))
      exact if_pos (evidenceId_inj hi (hf old hm).2.1 (hw.authentic row hr).1).1
    rw [getD_map_stored hold, inCoordinate, if_pos (hw.within row hr)]
    split_ifs <;> rfl
  have hg : (evicted.map (inCoordinate coordinate)).sum =
      evicted.countP fun row => decide (row.marketCoordinate = coordinate) := by
    rw [← sum_indicator]
    simp only [decide_eq_true_eq]
    rfl
  rw [total_retained hw he, hn, hg, total_inCoordinate]
  exact (sub_add_eq_add_sub _ _ _).le.trans (not_lt.1 (not_or.1 hc).1)

lemma other_quota {other : Text} (hf : Filed contentOf table)
    (hw : Writes contentOf coordinate table rows) (he : Evicts P coordinate table rows evicted)
    (hne : other ≠ coordinate) :
    ((table.removeAll evicted).putAll rows).total (inCoordinate other) ≤
      table.total (inCoordinate other) := by
  have hnew : (rows.map fun row => inCoordinate other row -
      ((table.get row.id).map (inCoordinate other)).getD 0).sum = 0 := by
    apply sum_eq_zero
    intro n hn
    obtain ⟨row, hr, rfl⟩ := mem_map.1 hn
    have hold : ∀ old, table.get row.id = some old → inCoordinate other old = 0 := by
      intro old hg
      obtain ⟨hm, hid⟩ := get_eq_some.1 hg
      have hi := (hf old hm).1.symm.trans (hid.trans (hw.keyed row hr))
      have heq := (evidenceId_inj hi (hf old hm).2.1 (hw.authentic row hr).1).1
      exact if_neg fun ho => hne (ho.symm.trans heq)
    rw [getD_map_stored hold, inCoordinate, if_neg fun ho => hne (ho.symm.trans (hw.within row hr))]
    split_ifs <;> rfl
  have hgone : 0 ≤ (evicted.map (inCoordinate other)).sum := by
    apply sum_nonneg
    intro n hn
    obtain ⟨row, -, rfl⟩ := mem_map.1 hn
    unfold inCoordinate
    split_ifs <;> omega
  rw [total_retained hw he]
  omega

lemma sum_evicted_discovery (he : Evicts P coordinate table rows evicted) :
    (evicted.map isDiscovery).sum = evicted.length := by
  have ho : evicted.map isDiscovery = evicted.map fun _ => (1 : Int) :=
    map_congr_left fun row hr => if_pos (he.discovery row hr)
  rw [ho]
  simp

lemma discovery_quota (hq : WithinQuotas table) (hw : Writes contentOf coordinate table rows)
    (he : Evicts P coordinate table rows evicted)
    (hcap : ¬(admission coordinate table rows).atCapacity evicted) :
    ((table.removeAll evicted).putAll rows).total isDiscovery ≤ maxEventMarketDiscoveryRecords := by
  have hnew : (rows.map fun row => isDiscovery row -
      ((table.get row.id).map isDiscovery).getD 0).sum ≤ (admission coordinate table rows).newCacheRecords := by
    simp only [admission]
    rw [← sum_indicator]
    apply sum_le_sum
    intro row hrow
    cases hget : table.get row.id with
    | none =>
      unfold isDiscovery
      cases hb : row.discoveryBytes <;> simp
    | some old =>
      unfold isDiscovery
      cases hb : row.discoveryBytes <;> cases hold : old.discoveryBytes <;> simp [hold]
  rw [total_retained hw he, sum_evicted_discovery he]
  have htotal := hq.discovery
  have hc := (not_or.1 hcap).2
  by_cases hg : (admission coordinate table rows).growsCache
  · have hbd := (not_or.1 ((not_and.1 hc) hg)).1
    have hcount : (admission coordinate table rows).cachedCount = table.total isDiscovery := by
      rw [total_isDiscovery]
      exact if_pos (decide_eq_true hg)
    omega
  · have hnone := (not_or.1 hg).1
    omega

lemma bytes_quota (hq : WithinQuotas table) (hw : Writes contentOf coordinate table rows)
    (he : Evicts P coordinate table rows evicted)
    (hcap : ¬(admission coordinate table rows).atCapacity evicted) :
    ((table.removeAll evicted).putAll rows).total bytesOf ≤ maxEventMarketDiscoveryBytes := by
  have ha : (rows.map fun row => bytesOf row - ((table.get row.id).map bytesOf).getD 0).sum =
      (admission coordinate table rows).addedBytes := rfl
  have hgone : 0 ≤ (evicted.map bytesOf).sum := by
    apply sum_nonneg
    intro n hn
    obtain ⟨row, -, rfl⟩ := mem_map.1 hn
    exact bytesOf_nonneg row
  rw [total_retained hw he]
  have htotal := hq.bytes
  have hc := (not_or.1 hcap).2
  by_cases hg : (admission coordinate table rows).growsCache
  · have hbd := (not_or.1 ((not_and.1 hc) hg)).2
    have hbytes : (admission coordinate table rows).bytes = table.total bytesOf :=
      if_pos (decide_eq_true hg)
    have hsum : (evicted.map fun row => (row.discoveryBytes.getD 0 : Int)).sum =
        (evicted.map bytesOf).sum := rfl
    omega
  · have hnone := (not_or.1 hg).2
    omega

lemma Retains.quotas (hf : Filed contentOf s) (hq : WithinQuotas s)
    (h : Retains P contentOf coordinate s t) : WithinQuotas t := by
  obtain ⟨rows, evicted, hw, he, hc, rfl⟩ := h.evicts
  refine ⟨fun other => ?_, discovery_quota hq hw he hc, bytes_quota hq hw he hc⟩
  by_cases heq : other = coordinate
  · rw [heq]
    exact coordinate_quota hf hw he hc
  · exact (other_quota hf hw he heq).trans (hq.coordinate other)

lemma mem_retained (hw : Writes contentOf coordinate s rows) :
    row ∈ ((s.removeAll evicted).putAll rows).rows ↔ row ∈ rows ∨
      (row ∈ s.rows ∧ ∀ gone ∈ evicted, row.id ≠ gone.id) ∧ ∀ written ∈ rows, written.id ≠ row.id := by
  rw [mem_putAll hw.nodup, mem_removeAll]

lemma Retains.filed (hf : Filed contentOf s) (h : Retains P contentOf coordinate s t) :
    Filed contentOf t := by
  obtain ⟨rows, evicted, hw, he, -, rfl⟩ := h.evicts
  intro row hr
  rcases (mem_retained hw).1 hr with hwr | ⟨⟨hold, -⟩, -⟩
  · refine ⟨?_, hw.authentic row hwr⟩
    rw [hw.within row hwr]
    exact hw.keyed row hwr
  · exact hf row hold

/-- What a row keeps while it is stored. -/
def Continues (old row : EvidenceRow) : Prop :=
  row.id = old.id ∧ row.marketCoordinate = old.marketCoordinate ∧
    row.signedEvent.id = old.signedEvent.id ∧ row.signedEvent.kind = old.signedEvent.kind ∧
    row.signedEvent.createdAt = old.signedEvent.createdAt ∧
    (old.discoveryBytes = none → row.discoveryBytes = none)

lemma Authentic.same {a b : SignedEvent} (ha : Authentic contentOf a) (hb : Authentic contentOf b)
    (hid : a.id = b.id) : a.kind = b.kind ∧ a.createdAt = b.createdAt := by
  have hc := ha.2.symm.trans ((congrArg contentOf hid).trans hb.2)
  simp only [Prod.mk.injEq] at hc
  exact ⟨hc.1, hc.2.2.1⟩

lemma Retains.keeps (hf : Filed contentOf s) (h : Retains P contentOf coordinate s t)
    (hr : row ∈ s.rows) : (∃ row' ∈ t.rows, Continues row row') ∨
      (∀ row' ∈ t.rows, row'.id ≠ row.id) ∧ row.discoveryBytes.isSome = true ∧
        (row.marketCoordinate = coordinate ∧ isCalendarKind row.signedEvent.kind = true ∨
          IsInitial P row.marketCoordinate s ∧
            ∀ row' ∈ t.rows, row'.marketCoordinate ≠ row.marketCoordinate) := by
  obtain ⟨rows, evicted, hw, he, -, rfl⟩ := h.evicts
  by_cases hg : ∃ gone ∈ evicted, row.id = gone.id
  · obtain ⟨gone, hg, hid⟩ := hg
    obtain rfl := Keyed.eq_of_key_eq s.nodup hr (he.stored gone hg) hid
    refine .inr ⟨fun row' hr' heq => ?_, he.discovery row hg, ?_⟩
    · rcases (mem_retained hw).1 hr' with hwr | ⟨⟨-, hk⟩, -⟩
      · exact he.apart row hg row' hwr heq
      · exact hk row hg heq
    · rcases he.evictable row hg with ⟨hs, -, hki⟩ | ⟨hne, hi, ha⟩
      · exact .inl ⟨hs, hki⟩
      · refine .inr ⟨hi, fun row' hr' hs => ?_⟩
        rcases (mem_retained hw).1 hr' with hwr | ⟨⟨hold, hk⟩, -⟩
        · exact hne (hs.symm.trans (hw.within row' hwr))
        · exact hk row' (ha row' hold hs) rfl
  · left
    by_cases ho : ∃ written ∈ rows, written.id = row.id
    · obtain ⟨written, hwr, hid⟩ := ho
      have hids := (hw.keyed written hwr).symm.trans (hid.trans (hf row hr).1)
      obtain ⟨hc, hev⟩ :=
        evidenceId_inj hids (hw.authentic written hwr).1 (hf row hr).2.1
      obtain ⟨hki, hm⟩ := (hw.authentic written hwr).same (hf row hr).2 hev
      refine ⟨written, (mem_retained hw).2 (.inl hwr), hid, ?_, hev, hki, hm, ?_⟩
      · rw [hw.within written hwr, hc]
      · exact hw.durable written hwr row (get_eq_some.2 ⟨hr, hid.symm⟩)
    · refine ⟨row, (mem_retained hw).2 (.inr ⟨⟨hr, fun gone hmem hid => ?_⟩, ?_⟩), rfl, rfl, rfl,
        rfl, rfl, id⟩
      · exact hg ⟨gone, hmem, hid⟩
      · exact fun written hwr hid => ho ⟨written, hwr, hid⟩

lemma Continues.refl (row : EvidenceRow) : Continues row row := ⟨rfl, rfl, rfl, rfl, rfl, id⟩

lemma Continues.trans {a b c : EvidenceRow} (h : Continues a b) (h' : Continues b c) :
    Continues a c :=
  ⟨h'.1.trans h.1, h'.2.1.trans h.2.1, h'.2.2.1.trans h.2.2.1, h'.2.2.2.1.trans h.2.2.2.1,
    h'.2.2.2.2.1.trans h.2.2.2.2.1, fun hn => h'.2.2.2.2.2 (h.2.2.2.2.2 hn)⟩

section

variable (hf : Filed contentOf s)
include hf

lemma retains_of_retain {events : List SignedEvent}
    (ha : ∀ event ∈ events, Authentic contentOf event)
    (h : retain P available now coordinate events retention s = some t) :
    t = s ∨ Retains P contentOf coordinate s t := by
  unfold retain at h
  split_ifs at h with hemp
  · exact .inl (Option.some.inj h).symm
  · simp only [bind_gives] at h
    obtain ⟨deletions, -, ht⟩ := h
    have hh := mapOf_holds (fun event : SignedEvent => event.id) events
    exact .inr (retains_of_transaction hf hh.nodup
      (fun event hev => ha event (hh.from_entries event hev)) ht)

lemma RetainStep.cases (h : RetainStep P contentOf call s t) :
    t = s ∨ Retains P contentOf call.coordinate s t := by
  obtain ⟨ha, rfl⟩ := h
  cases hr : retain P call.available call.now call.coordinate call.events call.retention s with
  | none => exact .inl rfl
  | some u => exact retains_of_retain hf ha hr

lemma RetainStep.sound (hq : WithinQuotas s) (h : RetainStep P contentOf call s t) :
    Filed contentOf t ∧ WithinQuotas t := by
  rcases h.cases hf with rfl | hr
  · exact ⟨hf, hq⟩
  · exact ⟨hr.filed hf, hr.quotas hf hq⟩

lemma RetainStep.keeps (h : RetainStep P contentOf call s t) (hr : row ∈ s.rows) :
    (∃ row' ∈ t.rows, Continues row row') ∨
      (∀ row' ∈ t.rows, row'.id ≠ row.id) ∧ row.discoveryBytes.isSome = true ∧
        (row.marketCoordinate = call.coordinate ∧ isCalendarKind row.signedEvent.kind = true ∨
          IsInitial P row.marketCoordinate s ∧
            ∀ row' ∈ t.rows, row'.marketCoordinate ≠ row.marketCoordinate) := by
  rcases h.cases hf with rfl | hret
  · exact .inl ⟨row, hr, .refl row⟩
  · exact hret.keeps hf hr

lemma RetainStep.leaves (h : RetainStep P contentOf call s t) (hr : row ∈ s.rows)
    (hg : ∀ row' ∈ t.rows, row'.id ≠ row.id) :
    row.discoveryBytes.isSome = true ∧ row.signedEvent.kind ≠ 5 ∧ row.signedEvent.kind ≠ 3841 ∧
      (row.signedEvent.kind = 30409 → ∃ market,
        parseEventMarketRosterEvent P row.signedEvent = some market ∧
          market.previousEventId = none ∧ market.merchants = []) ∧
      ((∃ a ∈ s.rows, ∃ b ∈ s.rows, a ≠ b ∧ IsRevision row.marketCoordinate a ∧
          IsRevision row.marketCoordinate b) →
        row.marketCoordinate = call.coordinate ∧ isCalendarKind row.signedEvent.kind = true) := by
  have hcal : ∀ {kind : Int}, isCalendarKind kind = true →
      kind = 31922 ∨ kind = 31923 ∨ kind = 31924 := fun h => of_decide_eq_true h
  rcases h.keeps hf hr with ⟨row', hr', heq⟩ | ⟨-, hs, ⟨hc, hk⟩ | ⟨hi, -⟩⟩
  · exact absurd heq.1 (hg row' hr')
  · have hki := hcal hk
    exact ⟨hs, by omega, by omega, fun hros => by omega, fun _ => ⟨hc, hk⟩⟩
  · obtain ⟨hki, ho, hp⟩ := hi
    have hk : row.signedEvent.kind = 30409 ∨ row.signedEvent.kind = 31922 ∨
        row.signedEvent.kind = 31923 ∨ row.signedEvent.kind = 31924 :=
      (hki row hr rfl).imp_right hcal
    refine ⟨hs, by omega, by omega, fun hros => hp row hr ⟨rfl, hros⟩, ?_⟩
    rintro ⟨a, ha, b, hb, hne, hra, hrb⟩
    exact absurd (ho a ha b hb hra hrb) hne

end

def Occupied (coordinate : Text) (table : EvidenceTable) : Prop :=
  ∃ row ∈ table.rows, row.marketCoordinate = coordinate

def OccupiedStep (P : EvidencePlatform)
    (contentOf : Text → Int × Text × Int × List (List Text) × Text) (coordinate : Text)
    (call : RetainCall) (s t : EvidenceTable) : Prop :=
  RetainStep P contentOf call s t ∧ (Occupied coordinate s → Occupied coordinate t)

lemma compare_congr {a b c : SignedEvent} (hm : b.createdAt = c.createdAt) (hid : b.id = c.id) :
    compareReplaceableEventFrontiers a b = compareReplaceableEventFrontiers a c := by
  unfold compareReplaceableEventFrontiers
  rw [hm, hid]

lemma OccupiedStep.revisions (hf : Filed contentOf s)
    (h : OccupiedStep P contentOf coordinate call s t) (hrow : row ∈ s.rows)
    (hr : IsRevision coordinate row) : ∃ row' ∈ t.rows, Continues row row' := by
  rcases h.1.keeps hf hrow with hke | ⟨-, -, ⟨-, hk⟩ | ⟨-, hc⟩⟩
  · exact hke
  · rw [hr.2] at hk
    cases hk
  · obtain ⟨other, ho, heq⟩ := h.2 ⟨row, hrow, hr.1⟩
    exact absurd (heq.trans hr.1.symm) (hc other ho)

lemma winner_advances (hro : ∀ row ∈ s.rows, IsRevision coordinate row →
      ∃ row' ∈ t.rows, Continues row row') {w w' : SignedEvent} (h : IsWinner coordinate s w)
    (h' : IsWinner coordinate t w') : 0 ≤ compareReplaceableEventFrontiers w' w := by
  obtain ⟨⟨row, hr, hrev, rfl⟩, -⟩ := h
  obtain ⟨row', hr', heq⟩ := hro row hr hrev
  rw [← compare_congr heq.2.2.2.2.1 heq.2.2.1]
  exact h'.2 row' hr' ⟨heq.2.1.trans hrev.1, heq.2.2.2.1.trans hrev.2⟩

/-- Quotas hold, durable evidence stays, a call that throws changes nothing, and the winner of an
occupied coordinate never goes back. -/
theorem evidence_custody {s₀ : EvidenceTable} {l m : List RetainCall} (hf : Filed contentOf s₀)
    (hq : WithinQuotas s₀) (h : Run (RetainStep P contentOf) s₀ l s)
    (h' : Run (RetainStep P contentOf) s m t) : WithinQuotas t ∧
    (∀ row ∈ s.rows, row.discoveryBytes = none →
      ∃ row' ∈ t.rows, row'.id = row.id ∧ row'.signedEvent.id = row.signedEvent.id ∧
        row'.discoveryBytes = none) ∧
    (∀ call u, RetainStep P contentOf call t u → ∀ row ∈ t.rows,
      (∀ row' ∈ u.rows, row'.id ≠ row.id) →
        row.signedEvent.kind ≠ 5 ∧ row.signedEvent.kind ≠ 3841 ∧
          (row.signedEvent.kind = 30409 → ∃ market,
            parseEventMarketRosterEvent P row.signedEvent = some market ∧
              market.previousEventId = none ∧ market.merchants = []) ∧
          ((∃ a ∈ t.rows, ∃ b ∈ t.rows, a ≠ b ∧ IsRevision row.marketCoordinate a ∧
              IsRevision row.marketCoordinate b) →
            row.marketCoordinate = call.coordinate ∧ isCalendarKind row.signedEvent.kind = true)) ∧
    (∀ call u, RetainStep P contentOf call t u →
      retain P call.available call.now call.coordinate call.events call.retention t = none →
        u = t) ∧
    ∀ coordinate, Run (OccupiedStep P contentOf coordinate) s m t → ∀ w w',
      IsWinner coordinate s w → IsWinner coordinate t w' →
        0 ≤ compareReplaceableEventFrontiers w' w := by
  have hstep : ∀ call s t, Filed contentOf s ∧ WithinQuotas s → RetainStep P contentOf call s t →
      Filed contentOf t ∧ WithinQuotas t := fun call s t hs hst => hst.sound hs.1 hs.2
  have hs := h.invariant hstep ⟨hf, hq⟩
  have ht := h'.invariant hstep hs
  refine ⟨ht.2, fun row hrow hdurable => ?_, fun call u hu row hrow hgone => ?_,
    fun call u hu hnone => ?_, fun coordinate hrun w w' hw hw' => ?_⟩
  · have hkept := h'.related
      (R := fun s t : EvidenceTable => ∀ row ∈ s.rows, row.discoveryBytes = none →
        ∃ row' ∈ t.rows, Continues row row')
      (fun s _ row hrow _ => ⟨row, hrow, .refl row⟩)
      (fun s t u hst htu row hrow hnone => by
        obtain ⟨row', hrow', hsame⟩ := hst row hrow hnone
        obtain ⟨row'', hrow'', hsame'⟩ := htu row' hrow' (hsame.2.2.2.2.2 hnone)
        exact ⟨row'', hrow'', hsame.trans hsame'⟩)
      (fun call s t hs hst => ⟨hstep call s t hs hst, fun row hrow hnone => by
        rcases hst.keeps hs.1 hrow with hkept | ⟨-, hsome, -⟩
        · exact hkept
        · rw [hnone] at hsome
          cases hsome⟩) hs
    obtain ⟨row', hrow', hsame⟩ := hkept row hrow hdurable
    exact ⟨row', hrow', hsame.1, hsame.2.2.1, hsame.2.2.2.2.2 hdurable⟩
  · exact (hu.leaves ht.1 hrow hgone).2
  · rw [hu.2, hnone]
    rfl
  · refine winner_advances (fun row hrow hrevision => ?_) hw hw'
    have hkept := hrun.related
      (R := fun s t : EvidenceTable => ∀ row ∈ s.rows, IsRevision coordinate row →
        ∃ row' ∈ t.rows, Continues row row')
      (fun s _ row hrow _ => ⟨row, hrow, .refl row⟩)
      (fun s t u hst htu row hrow hrevision => by
        obtain ⟨row', hrow', hsame⟩ := hst row hrow hrevision
        obtain ⟨row'', hrow'', hsame'⟩ := htu row' hrow'
          ⟨hsame.2.1.trans hrevision.1, hsame.2.2.2.1.trans hrevision.2⟩
        exact ⟨row'', hrow'', hsame.trans hsame'⟩)
      (fun call s t hs hst => ⟨hstep call s t hs hst.1, fun row hrow hrevision =>
        hst.revisions hs.1 hrow hrevision⟩) hs
    exact hkept row hrow hrevision

end

def marketOrganizer : Text := "bc7f3324281b97322236a9d693569be3d9be2c589c25fddef07edfb58ef7a484"

def springMarket : Text := ("30409:" : Text) ++ marketOrganizer ++ ":spring-market"

def autumnMarket : Text := ("30409:" : Text) ++ marketOrganizer ++ ":autumn-market"

def springFirst : SignedEvent where
  id := "9dc5d112e3d4dcd8553bff6968cef61367235211d90a12c805f6b5d6bd9d0c62"
  pubkey := marketOrganizer
  createdAt := 1700000200
  kind := 30409
  tags := [["d", "spring-market"],
    ["a".toList, ("31923:" : Text) ++ marketOrganizer ++ ":spring-date"],
    ["event_market", "2", "open"]]
  content := []
  sig := hexText 128 0x50857aea7dc92f6cbc48916c588ea07054f619cba10bb0653a1db6ed1777df4463972c6b6516d6a24aa5b1dd8049c43bb431ee6e9e1e5f3fc23c1d9e804b9b03

def springDate : SignedEvent where
  id := "02250ca679e746c3544fcae0d4a2c5f1729691e530e9210213b2ce1a9a6aad56"
  pubkey := marketOrganizer
  createdAt := 1700000200
  kind := 31923
  tags := [["d", "spring-date"],
    ["title", "Spring market"]]
  content := List.replicate 8384565 'x'
  sig := hexText 128 0xbbdf6963be2d4dbfec944042a14f5371e3d9803a14da447105eba1d600628b78e11477ec70de69852e480295ca94da22866f2a8b02da8e24a2056e8bf67008b7

def autumnFirst : SignedEvent where
  id := "92b536d3fc73959da8e3d02e62314ba144527b1351cea0e1a014192c7d9b6b4d"
  pubkey := marketOrganizer
  createdAt := 1700000000
  kind := 30409
  tags := [["d", "autumn-market"],
    ["a".toList, ("31923:" : Text) ++ marketOrganizer ++ ":autumn-date"],
    ["event_market", "2", "open"]]
  content := []
  sig := hexText 128 0xeb1ece3f01a1577ab12212146ebd90bf0de01ca6625a3373fbfc34f04e12ebfc117dbb97ec5dad476dceefb01d3865e821fbdc3f4ef020dc2e09343abc5804ef

def autumnSecond : SignedEvent where
  id := "12e712cb7f3216101b9c5527b960ca809b3057bbd744a34ec5bba230830ed0f1"
  pubkey := marketOrganizer
  createdAt := 1700000100
  kind := 30409
  tags := [["d", "autumn-market"],
    ["a".toList, ("31923:" : Text) ++ marketOrganizer ++ ":autumn-date"],
    ["event_market", "2", "open"],
    ["prev", autumnFirst.id]]
  content := []
  sig := hexText 128 0xe627ca27b82d138b826dcda04b569f2fc0294bb81ca942e55d9f377db699cd04348b315af00a3e5c268586b58822e0784768b5a2ea552e7f8051ae044601fa2d

def autumnDate : SignedEvent where
  id := "6ab2635a3ab76df79d25523c5997164f0925de4f99831bbbfac038f6aeb56075"
  pubkey := marketOrganizer
  createdAt := 1700000050
  kind := 31923
  tags := [["d", "autumn-date"],
    ["title", "Autumn market"]]
  content := "Stalls along the river"
  sig := hexText 128 0xf27abd4b97f0c82caf4d6bd775308af26ce1aebfc5f1203c3b44c6561b3b7091500225ab8d6f8215674369c7337d9f82ca9a3483010b82aff034de92a41f41b7

def autumnDeletion : SignedEvent where
  id := "3d92a1095c5807d4a1926d0ed5540c7343107bc421946e34201d80199d291c53"
  pubkey := marketOrganizer
  createdAt := 1700000300
  kind := 5
  tags := [["a", autumnMarket]]
  content := "The autumn market is not held this year."
  sig := hexText 128 0xa2721449a6159f07165239803181527c82df700803ccf5ae18cd80ed1ac6d166a2dfd9d74c3bba65858ab3e8dcdefb6389d6fa3f95bc82c7aded053085a6c1ed

def springEarlier : SignedEvent where
  id := "12325255d833d83841a80b8295553e2dc2bb96db8ddb3a0ea4eb974fb0dc1569"
  pubkey := marketOrganizer
  createdAt := 1700000100
  kind := 30409
  tags := [["d", "spring-market"],
    ["a".toList, ("31923:" : Text) ++ marketOrganizer ++ ":spring-date"],
    ["event_market", "2", "closed"]]
  content := []
  sig := hexText 128 0x944ee831ebb9b042a024fc003ee25f6c398e57bda0a98d3de76c93b78a78c57758b4c55d31b2ff912fc334dbabedceec3036a4a4461a186bf9be6f46f5e5bd46

def rowBytesOf : Nat :=
  if row.signedEvent.id = springDate.id then 8385279
  else if row.signedEvent.id = autumnSecond.id then 885
  else if row.signedEvent.kind = 30409 then 809
  else if row.signedEvent.kind = 31923 then 736
  else 797

def evidencePlatform : EvidencePlatform where
  toStockPlatform :=
    { Stock.Sample.platform with
      isValidSignedEvent := fun _ => true
      eventBytes := fun _ => 486 }
  rowBytes := rowBytesOf

def marketEvents : List SignedEvent :=
  [springFirst, springDate, autumnFirst, autumnSecond, autumnDate, autumnDeletion, springEarlier]

def marketContent (id : Text) : Int × Text × Int × List (List Text) × Text :=
  match marketEvents.find? fun event => decide (event.id = id) with
  | some event => (event.kind, event.pubkey, event.createdAt, event.tags, event.content)
  | none => (0, [], 0, [], [])

def retainCall (coordinate : Text) (events : List SignedEvent) (retention : EvidenceRetention) :
    RetainCall :=
  ⟨fun _ => true, 1700001000000, coordinate, events, retention⟩

def springCall : RetainCall := retainCall springMarket [springFirst, springDate] .discovery

def autumnCall : RetainCall :=
  retainCall autumnMarket [autumnFirst, autumnSecond, autumnDate] .discovery

def deletionCall : RetainCall := retainCall autumnMarket [autumnDeletion] .discovery

def earlierCall : RetainCall := retainCall springMarket [springEarlier] .durable

def autumnRow (event : SignedEvent) (bytes : Nat) : EvidenceRow :=
  ⟨evidenceId autumnMarket event.id, autumnMarket, event, 1700001000000, some bytes⟩

lemma marketEvents_authentic : ∀ event ∈ marketEvents, Authentic marketContent event := by
  simp only [marketEvents, forall_mem_cons]
  refine ⟨⟨by decide +kernel, rfl⟩, ⟨by decide +kernel, rfl⟩, ⟨by decide +kernel, rfl⟩,
    ⟨by decide +kernel, rfl⟩, ⟨by decide +kernel, rfl⟩, ⟨by decide +kernel, rfl⟩,
    ⟨by decide +kernel, rfl⟩, fun event hev => absurd hev not_mem_nil⟩

def cacheAfter (calls : List RetainCall) : EvidenceTable :=
  calls.foldl (fun table call => (retain evidencePlatform call.available call.now call.coordinate
    call.events call.retention table).getD table) Table.empty

def filledCache : EvidenceTable := cacheAfter [springCall, autumnCall]

def calledOffCache : EvidenceTable := cacheAfter [springCall, autumnCall, deletionCall]

def reopenedCache : EvidenceTable :=
  cacheAfter [springCall, autumnCall, deletionCall, earlierCall]

lemma cacheAfter_step (calls : List RetainCall) {call : RetainCall}
    (h : call.events ⊆ marketEvents) :
    RetainStep evidencePlatform marketContent call (cacheAfter calls)
      (cacheAfter (calls ++ [call])) := by
  refine ⟨fun event hev => marketEvents_authentic event (h hev), ?_⟩
  rw [cacheAfter, foldl_append]
  rfl

lemma marketCalls : Run (RetainStep evidencePlatform marketContent) empty
      [springCall, autumnCall] filledCache ∧
    RetainStep evidencePlatform marketContent deletionCall filledCache calledOffCache ∧
    RetainStep evidencePlatform marketContent earlierCall calledOffCache reopenedCache := by
  have hfst : springCall.events ⊆ marketEvents := by simp [springCall, retainCall, marketEvents]
  have hs : autumnCall.events ⊆ marketEvents := by simp [autumnCall, retainCall, marketEvents]
  have ht : deletionCall.events ⊆ marketEvents := by
    simp [deletionCall, retainCall, marketEvents]
  have hfo : earlierCall.events ⊆ marketEvents := by
    simp [earlierCall, retainCall, marketEvents]
  refine ⟨.cons (t := cacheAfter [springCall]) ?_ (.cons (t := filledCache) ?_ (.nil _)), ?_, ?_⟩
  · exact cacheAfter_step [] hfst
  · exact cacheAfter_step [springCall] hs
  · exact cacheAfter_step [springCall, autumnCall] ht
  · exact cacheAfter_step [springCall, autumnCall, deletionCall] hfo

lemma marketCaches : autumnRow autumnDate 752 ∈ filledCache.rows ∧
    autumnRow autumnFirst 825 ∈ filledCache.rows ∧ autumnRow autumnSecond 901 ∈ filledCache.rows ∧
    (∃ row ∈ filledCache.rows, IsRevision springMarket row ∧ row.signedEvent = springFirst) ∧
    (∀ row ∈ filledCache.rows, IsRevision springMarket row →
      0 ≤ compareReplaceableEventFrontiers springFirst row.signedEvent) ∧
    (∀ row ∈ calledOffCache.rows, row.id ≠ (autumnRow autumnDate 752).id) ∧
    (∃ row ∈ reopenedCache.rows, IsRevision springMarket row ∧ row.signedEvent = springEarlier) ∧
    ∀ row ∈ reopenedCache.rows, IsRevision springMarket row →
      0 ≤ compareReplaceableEventFrontiers springEarlier row.signedEvent := by
  decide +kernel

/-- A market that is called off loses presentation, and another's winner goes back. -/
theorem cache_forgets : ∃ s t u,
    Run (RetainStep evidencePlatform marketContent) Table.empty [springCall, autumnCall] s ∧
    RetainStep evidencePlatform marketContent deletionCall s t ∧
    RetainStep evidencePlatform marketContent earlierCall t u ∧
    (∃ row ∈ s.rows, (∃ a ∈ s.rows, ∃ b ∈ s.rows, a ≠ b ∧ IsRevision row.marketCoordinate a ∧
      IsRevision row.marketCoordinate b) ∧ ∀ row' ∈ t.rows, row'.id ≠ row.id) ∧
    ∃ w w', IsWinner springMarket s w ∧ IsWinner springMarket u w' ∧
      compareReplaceableEventFrontiers w' w < 0 := by
  obtain ⟨hrun, hdeletion, hearlier⟩ := marketCalls
  obtain ⟨hdate, hone, htwo, hwinner, hnewest, hgone, hwinner', hnewest'⟩ := marketCaches
  refine ⟨_, _, _, hrun, hdeletion, hearlier, ⟨_, hdate, ⟨_, hone, _, htwo, ?_, ?_, ?_⟩, hgone⟩,
    springFirst, springEarlier, ⟨hwinner, hnewest⟩, ⟨hwinner', hnewest'⟩, ?_⟩
  · decide +kernel
  · decide +kernel
  · decide +kernel
  · decide +kernel

lemma empty_quotas : WithinQuotas (empty : EvidenceTable) :=
  ⟨fun coordinate => (by decide : (0 : Int) ≤ maxEventMarketRecordsPerCoordinate), by decide,
    by decide⟩

theorem evidence_custody_sample : ∃ s t,
    Run (RetainStep evidencePlatform marketContent) Table.empty [springCall, autumnCall] s ∧
    Run (RetainStep evidencePlatform marketContent) s [deletionCall] t ∧ WithinQuotas t := by
  obtain ⟨hrun, hdeletion, -⟩ := marketCalls
  have hrun' := Run.cons hdeletion (.nil _)
  exact ⟨_, _, hrun, hrun', (evidence_custody (fun row hrow => absurd hrow not_mem_nil)
    empty_quotas hrun hrun').1⟩

end Conduit.Markets
