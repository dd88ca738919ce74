import Conduit.Markets.Frontiers

namespace Conduit.Markets

open Js Stock List

section
variable {P : RecoveryPlatform} {e a b : SignedEvent} {r : Revision}

structure Reads (P : RecoveryPlatform) (e : SignedEvent) (r : Revision) : Prop where
  signedEvent : r.signedEvent = e
  valid : P.isValidSignedEvent e = true
  kind : e.kind = 30410
  eventId : r.eventId = e.id
  merchantPubkey : r.merchantPubkey = e.pubkey
  dTag : ∃ d, tagsNamed e.tags "d" = [["d".toList, d]] ∧
    r.coordinate = ("30410:" : Text) ++ e.pubkey ++ ":" ++ d
  product : ∃ tag ∈ e.tags, tag[0]? = some "a".toList ∧ tag[1]? = some r.productCoordinate
  quantity : 0 ≤ r.inventory.quantity

variable {tags : List (List Text)} {tag : List Text}

lemma parseInventory_nonneg {inventory : Inventory} (h : parseInventory tag = some inventory) :
    0 ≤ inventory.quantity := by
  unfold parseInventory at h
  split at h
  · split_ifs at h
    cases h
    exact le_refl _
  · split_ifs at h
    cases h
    exact Int.natCast_nonneg _
  · cases h

variable {name : Text}

lemma oneTag_eq_some {items : Nat} (h : oneTag tags name items = some tag) :
    tagsNamed tags name = [tag] ∧ tag.length = items := by
  unfold oneTag at h
  split at h
  · rename_i only heq
    split_ifs at h with hl
    cases h
    exact ⟨heq, hl⟩
  · cases h

lemma oneReference_mem {references starts : List Text} {reference : Text}
    (h : oneReference references starts = some reference) : reference ∈ references := by
  unfold oneReference at h
  split at h
  · rename_i only heq
    obtain rfl := Option.some.inj h
    exact (mem_filter.1 (heq ▸ mem_singleton_self only)).1
  · cases h

lemma parseTuple_product {Q : StockPlatform} {tuple : AssignmentTuple}
    (h : parseTuple Q tags = some tuple) :
    ∃ tag ∈ tags, tag[1]? = some tuple.product.coordinate := by
  simp only [parseTuple, Option.bind_eq_bind, Option.bind_eq_some_iff, Option.guard_eq_some',
    exists_const, Option.pure_def, Option.some.injEq] at h
  obtain ⟨⟨-, ht⟩, -, -, -, -, reference, hr, -, -, -, -, product, hp, -, rfl⟩ := h
  obtain ⟨tag, htag, hv⟩ := mem_map.1 (oneReference_mem hr)
  refine ⟨tag, htag, ?_⟩
  have hc : product.coordinate = reference := by
    simpa using (Option.filter_eq_some_iff.1 hp).2
  have hl : 1 < tag.length := by
    have := (ht tag htag).1
    omega
  rw [getElem?_eq_getElem hl] at hv ⊢
  rw [hc, ← hv]
  rfl

lemma mem_tagsNamed : tag ∈ tagsNamed tags name ↔ tag ∈ tags ∧ tag[0]? = some name := by
  simp [tagsNamed]

lemma dTag_of_oneTag {d : Text} (h : oneTag tags name 2 = some tag) (hd : tag[1]? = some d) :
    tagsNamed tags name = [[name, d]] := by
  obtain ⟨hnm, hl⟩ := oneTag_eq_some h
  have hn := (mem_tagsNamed.1 (hnm ▸ mem_singleton_self tag)).2
  match tag, hl with
  | [x, y], _ =>
    simp only [getElem?_cons_zero, Option.some.injEq] at hn
    simp only [getElem?_cons_succ, getElem?_cons_zero, Option.some.injEq] at hd
    rw [hnm, hn, hd]

lemma reads_of_parse (h : parseRevision P e = some r) : Reads P e r := by
  simp only [parseRevision, Option.map_eq_some_iff] at h
  obtain ⟨a, ha, rfl⟩ := h
  simp only [parseEventMarketAssignmentEvent, Option.bind_eq_bind, Option.bind_eq_some_iff,
    Option.guard_eq_some', exists_const, Option.pure_def] at ha
  obtain ⟨⟨hk, -, hval, -⟩, dTag, ho, d, hd, -, _, -, -, _, -, -, _, -, _, -, tuple, ht,
    -, ha⟩ := ha
  split at ha
  swap
  · simp only [Option.bind_none, reduceCtorEq] at ha
  simp only [Option.bind_some, Option.bind_eq_some_iff, Option.some.injEq] at ha
  obtain ⟨inventory, hi, -, -, -, -, rfl⟩ := ha
  refine ⟨rfl, hval, hk, rfl, rfl, ⟨d, dTag_of_oneTag ho hd, rfl⟩, ?_, parseInventory_nonneg hi⟩
  obtain ⟨tag, htag, hv⟩ := parseTuple_product ht
  obtain ⟨hm, hn⟩ := mem_tagsNamed.1 htag
  exact ⟨tag, hm, hn, hv⟩

lemma Reads.coordinateOf (h : Reads P e r) : coordinateOf e = some r.coordinate := by
  obtain ⟨d, hnm, hc⟩ := h.dTag
  rw [Markets.coordinateOf, oneTag, hnm, h.kind, hc]
  rfl

lemma Sound.parse_congr (h : Sound P) (ha : P.isValidSignedEvent a = true)
    (hb : P.isValidSignedEvent b = true) (hid : a.id = b.id) (hr : parseRevision P a = some r) :
    parseRevision P b = some { r with signedEvent := b } := by
  obtain ⟨hc, hby⟩ := h.content a b ha hb hid
  obtain ⟨sig, rfl⟩ : ∃ sig, a = { b with sig := sig } := ⟨a.sig, hc⟩
  simp only [parseRevision, Option.map_eq_some_iff] at hr ⊢
  obtain ⟨parsed, hp, rfl⟩ := hr
  refine ⟨parsed, ?_, rfl⟩
  rw [← hp]
  simp only [parseEventMarketAssignmentEvent, hby, ha, hb]

lemma Sound.coordinateOf_congr (h : Sound P) (ha : P.isValidSignedEvent a = true)
    (hb : P.isValidSignedEvent b = true) (hid : a.id = b.id) : coordinateOf a = coordinateOf b := by
  rw [(h.content a b ha hb hid).1]
  rfl

lemma Sound.compare_congr (h : Sound P) (ha : P.isValidSignedEvent a = true)
    (hb : P.isValidSignedEvent b = true) (hid : a.id = b.id) :
    0 ≤ compareReplaceableEventFrontiers a b := by
  have hs := compare_self b
  rw [compare_eq] at hs ⊢
  rw [h.frontier hb] at hs ⊢
  rw [h.frontier ha, hid, (h.content a b ha hb hid).1]
  exact hs

end

section
variable (P : RecoveryPlatform) (merchantPubkey productCoordinate : Text)

structure RevisionOf (e : SignedEvent) (r : Revision) : Prop where
  parse : parseRevision P e = some r
  merchantPubkey : r.merchantPubkey = merchantPubkey
  productCoordinate : r.productCoordinate = productCoordinate

def IsMarker (e : SignedEvent) : Prop :=
  ∃ r, RevisionOf P merchantPubkey productCoordinate e r ∧
    requiresOrganizerStockRecovery r.toParsedAssignment

def IsClear (e : SignedEvent) : Prop :=
  ∃ r, parseRevision P e = some r ∧ ¬requiresOrganizerStockRecovery r.toParsedAssignment

def Released (events : List SignedEvent) (e : SignedEvent) : Prop :=
  ∃ n ∈ events, IsClear P n ∧ coordinateOf n = coordinateOf e ∧
    0 < compareReplaceableEventFrontiers n e

def HoldsFor (m e : SignedEvent) : Prop :=
  IsMarker P merchantPubkey productCoordinate m ∧ coordinateOf m = coordinateOf e ∧
    0 ≤ compareReplaceableEventFrontiers m e

def Retained (evidence : EvidenceTable) (e : SignedEvent) : Prop :=
  ∃ row ∈ evidence.rows, HoldsFor P merchantPubkey productCoordinate row.signedEvent e

end

section
variable {P : RecoveryPlatform} {merchantPubkey productCoordinate : Text} {e m n : SignedEvent}
  {r : Revision} {rows : List EvidenceRow} {events candidates : List SignedEvent}

lemma RevisionOf.isProductAssignment (h : RevisionOf P merchantPubkey productCoordinate e r) :
    isProductAssignment merchantPubkey productCoordinate e = true := by
  have hr := reads_of_parse h.parse
  obtain ⟨tag, ht, hn, hv⟩ := hr.product
  have hp := hr.merchantPubkey.symm.trans h.merchantPubkey
  simp only [Markets.isProductAssignment, decide_eq_true_eq]
  exact ⟨hr.kind, hp, tag, ht, hn, h.productCoordinate ▸ hv⟩

lemma IsMarker.valid (h : IsMarker P merchantPubkey productCoordinate e) :
    P.isValidSignedEvent e = true := by
  obtain ⟨r, hr, -⟩ := h
  exact (reads_of_parse hr.parse).valid

lemma Released.mono {events' : List SignedEvent} (h : Released P events e)
    (hs : events ⊆ events') : Released P events' e := by
  obtain ⟨n, hn, hr⟩ := h
  exact ⟨n, hs hn, hr⟩

lemma HoldsFor.refl (h : IsMarker P merchantPubkey productCoordinate e) :
    HoldsFor P merchantPubkey productCoordinate e e := ⟨h, rfl, compare_self e⟩

lemma Sound.newer_of_clear (h : Sound P) (hn : IsClear P n)
    (he : IsMarker P merchantPubkey productCoordinate e)
    (hle : 0 ≤ compareReplaceableEventFrontiers n e) :
    0 < compareReplaceableEventFrontiers n e := by
  by_contra hlt
  obtain ⟨rn, hp, hc⟩ := hn
  obtain ⟨re, hre, hm⟩ := he
  have hid := h.id_eq_of_tie (reads_of_parse hp).valid (reads_of_parse hre.parse).valid hle
    (compare_flip hlt)
  have heq := h.parse_congr (reads_of_parse hre.parse).valid (reads_of_parse hp).valid
    hid.symm hre.parse
  rw [hp, Option.some.injEq] at heq
  rw [heq] at hc
  exact hc hm

lemma Sound.holdsFor_congr (h : Sound P) (hm : HoldsFor P merchantPubkey productCoordinate m e)
    (hn : P.isValidSignedEvent n = true) (hid : n.id = m.id) :
    HoldsFor P merchantPubkey productCoordinate n e := by
  have hv := hm.1.valid
  obtain ⟨⟨r, hr, hmrk⟩, hc, hle⟩ := hm
  refine ⟨⟨_, ⟨h.parse_congr hv hn hid.symm hr.parse, hr.merchantPubkey,
    hr.productCoordinate⟩, hmrk⟩, ?_, compare_trans (h.compare_congr hn hv hid) hle⟩
  rw [h.coordinateOf_congr hn hv hid, hc]

lemma uniqueEvents_holds (events : List SignedEvent) :
    Holds (fun event : SignedEvent => event.id) (uniqueEvents events) events := mapOf_holds _ _

lemma exists_unique_id {e : SignedEvent} (h : e ∈ events) : ∃ c ∈ uniqueEvents events,
    c.id = e.id :=
  mem_map.1 ((uniqueEvents_holds events).held e h)

lemma mem_candidatesOf (h : e ∈ candidatesOf P merchantPubkey productCoordinate rows events) :
    e ∈ rows.map (·.signedEvent) ++ events ∧
      isProductAssignment merchantPubkey productCoordinate e = true ∧
      P.isValidSignedEvent e = true := by
  have hm := mem_filter.1 ((uniqueEvents_holds _).from_entries e h)
  exact ⟨hm.1, by simpa using hm.2⟩

lemma exists_candidate (hr : e ∈ rows.map (·.signedEvent) ++ events)
    (he : RevisionOf P merchantPubkey productCoordinate e r) :
    ∃ c ∈ candidatesOf P merchantPubkey productCoordinate rows events, c.id = e.id := by
  refine exists_unique_id (mem_filter.2 ⟨hr, ?_⟩)
  rw [he.isProductAssignment, (reads_of_parse he.parse).valid]
  rfl

variable {evidence : EvidenceTable} {done : List Revision} {row : EvidenceRow}

lemma mem_retainedRows
    (hf : (retainedRows merchantPubkey productCoordinate evidence).length ≤ maxRetained)
    (hr : row ∈ evidence.rows)
    (hp : isProductAssignment merchantPubkey productCoordinate row.signedEvent = true) :
    row ∈ retainedRows merchantPubkey productCoordinate evidence := by
  unfold retainedRows at hf ⊢
  rw [length_take] at hf
  rw [take_of_length_le (by omega)]
  exact (mem_insertionSort _).2 (mem_filter.2 ⟨hr, hp⟩)

lemma retainedRows_subset (h : row ∈ retainedRows merchantPubkey productCoordinate evidence) :
    row ∈ evidence.rows :=
  (mem_filter.1 ((mem_insertionSort _).1 (mem_of_mem_take h))).1

variable {groups : List (Text × List SignedEvent)} {group : Text × List SignedEvent}

lemma mem_byCoordinate :
    group ∈ byCoordinate candidates ↔ (∃ c ∈ candidates, coordinateOf c = some group.1) ∧
      group.2 = candidates.filter fun event => decide (coordinateOf event = some group.1) := by
  have hh := mapOf_holds (id : Text → Text) (candidates.filterMap coordinateOf)
  have hm : ∀ coordinate, coordinate ∈ mapOf id (candidates.filterMap coordinateOf) ↔
      ∃ c ∈ candidates, coordinateOf c = some coordinate := by
    intro coordinate
    rw [← mem_filterMap]
    constructor
    · exact hh.from_entries coordinate
    · intro h
      simpa using hh.held coordinate h
  unfold byCoordinate
  rw [mem_map]
  constructor
  · rintro ⟨coordinate, hc, rfl⟩
    exact ⟨(hm coordinate).1 hc, rfl⟩
  · rintro ⟨hc, hr⟩
    exact ⟨group.1, (hm group.1).2 hc, Prod.ext rfl hr.symm⟩

lemma byCoordinate_nodup : ((byCoordinate candidates).map Prod.fst).Nodup := by
  have hh := (mapOf_holds (id : Text → Text) (candidates.filterMap coordinateOf)).nodup
  rw [byCoordinate, map_map]
  exact hh

lemma currentOf_eq_some {coordinate : Text} {revisions : List SignedEvent} :
    currentOf P coordinate revisions = some r ↔ newest revisions = some r.signedEvent ∧
      parseRevision P r.signedEvent = some r ∧ r.coordinate = coordinate := by
  simp only [currentOf, Option.filter_eq_some_iff, Option.bind_eq_some_iff, decide_eq_true_eq]
  constructor
  · rintro ⟨⟨e, hn, hp⟩, hc⟩
    rw [← (reads_of_parse hp).signedEvent] at hn hp
    exact ⟨hn, hp, hc⟩
  · rintro ⟨hn, hp, hc⟩
    exact ⟨⟨_, hn, hp⟩, hc⟩

def ClearGroup (P : RecoveryPlatform) (group : Text × List SignedEvent) : Prop :=
  ∃ r, currentOf P group.1 group.2 = some r ∧ ¬requiresOrganizerStockRecovery r.toParsedAssignment

lemma examine_clear {tuples : List Revision} (h : examine P groups done = .clear tuples) :
    ∃ passed, tuples = done ++ passed ∧ passed.map (·.coordinate) = groups.map Prod.fst ∧
      (∀ r ∈ passed, ∃ group ∈ groups, currentOf P group.1 group.2 = some r ∧
        ¬requiresOrganizerStockRecovery r.toParsedAssignment) ∧
      ∀ group ∈ groups, ∃ r ∈ passed, currentOf P group.1 group.2 = some r := by
  induction groups generalizing done with
  | nil =>
    obtain rfl := (Examined.clear.inj h).symm
    exact ⟨[], (append_nil _).symm, rfl, fun r hr => absurd hr not_mem_nil,
      fun group hgrp => absurd hgrp not_mem_nil⟩
  | cons group groups ih =>
    rw [examine] at h
    cases hc : currentOf P group.1 group.2 with
    | none => simp [hc] at h
    | some current =>
      simp only [hc] at h
      split_ifs at h with hm
      obtain ⟨passed, rfl, hco, hf, hto⟩ := ih h
      refine ⟨current :: passed, by simp, ?_, fun r hr => ?_, fun g hg => ?_⟩
      · rw [map_cons, map_cons, hco, (currentOf_eq_some.1 hc).2.2]
      · rcases mem_cons.1 hr with rfl | hr
        · exact ⟨group, .head _, hc, hm⟩
        · obtain ⟨g, hg, hre⟩ := hf r hr
          exact ⟨g, .tail _ hg, hre⟩
      · rcases mem_cons.1 hg with rfl | hg
        · exact ⟨current, .head _, hc⟩
        · obtain ⟨r, hr, hre⟩ := hto g hg
          exact ⟨r, .tail _ hr, hre⟩

lemma examine_marked (h : examine P groups done = .marked r) : ∃ group ∈ groups,
      currentOf P group.1 group.2 = some r ∧ requiresOrganizerStockRecovery
        r.toParsedAssignment := by
  induction groups generalizing done with
  | nil => cases h
  | cons group groups ih =>
    rw [examine] at h
    cases hc : currentOf P group.1 group.2 with
    | none => simp [hc] at h
    | some current =>
      simp only [hc] at h
      split_ifs at h with hm
      · obtain rfl := Examined.marked.inj h
        exact ⟨group, .head _, hc, hm⟩
      · obtain ⟨found, hf, hr⟩ := ih h
        exact ⟨found, .tail _ hf, hr⟩

lemma examine_reaches {before after : List (Text × List SignedEvent)}
    (hb : ∀ g ∈ before, ClearGroup P g) (hcur : currentOf P group.1 group.2 = some r)
    (hm : requiresOrganizerStockRecovery r.toParsedAssignment) :
    examine P (before ++ group :: after) done = .marked r := by
  induction before generalizing done with
  | nil =>
    rw [nil_append, examine, hcur]
    exact if_pos hm
  | cons g before ih =>
    rw [forall_mem_cons] at hb
    obtain ⟨⟨current, hg, hc⟩, hr⟩ := hb
    rw [cons_append, examine, hg]
    exact (if_neg hc).trans (ih hr)

end

end Conduit.Markets
