import Conduit.Markets.RecoveryRuns

namespace Conduit.Markets

open Js Runs Stock List Option Function

section
variable (P : RecoveryPlatform) (merchantPubkey productCoordinate : Text)

def Reached (evidence : EvidenceTable) (answer : ReadResult) (e : SignedEvent) : Prop :=
  let rows := retainedRows merchantPubkey productCoordinate evidence
  let candidates := candidatesOf P merchantPubkey productCoordinate rows answer.events
  rows.length ≤ maxRetained ∧ candidates.length ≤ maxCandidates ∧
    (∀ c ∈ candidates, coordinateOf c ≠ none) ∧
    ∃ before group after, byCoordinate candidates = before ++ group :: after ∧
      coordinateOf e = some group.1 ∧ (∀ g ∈ before, ClearGroup P g) ∧
      ∃ r, currentOf P group.1 group.2 = some r

/-- Candidates are read while no call is about to retain, and each marker read is retained, released
or reached. -/
def KeepsMarkers (s : State) : Action → Prop
  | .observe _ _ answer =>
    (∀ i coverage current, s.calls i ≠ some (.retaining coverage current)) ∧
      ∀ e ∈ answer.events, IsMarker P merchantPubkey productCoordinate e →
        Retained P merchantPubkey productCoordinate s.evidence e ∨
          Released P ((s.evidence.rows.map (·.signedEvent)) ++ answer.events) e ∨
          Reached P merchantPubkey productCoordinate s.evidence answer e
  | _ => True

def RecoveryStep (a : Action) (s t : State) : Prop :=
  act P merchantPubkey productCoordinate s a = some t

def KeptStep (a : Action) (s t : State) : Prop :=
  KeepsMarkers P merchantPubkey productCoordinate s a ∧
    RecoveryStep P merchantPubkey productCoordinate a s t

def Held (s : State) (e : SignedEvent) : Prop :=
  Retained P merchantPubkey productCoordinate s.evidence e ∨ Released P s.seen e ∨
    ∃ i coverage current, s.calls i = some (.retaining coverage current) ∧
      HoldsFor P merchantPubkey productCoordinate current.signedEvent e

structure Inv (s : State) : Prop where
  verified : Verified P s.evidence
  calls : ∀ i call, s.calls i = some call →
    CallOk P merchantPubkey productCoordinate s.seen s.evidence call
  held : ∀ e ∈ s.seen, IsMarker P merchantPubkey productCoordinate e →
    Held P merchantPubkey productCoordinate s e

end

section
variable {P : RecoveryPlatform} {merchantPubkey productCoordinate : Text} {s t : State} {i : Nat}
  {call : Call} {seen : List SignedEvent} {evidence : EvidenceTable} {work : Work} {e : SignedEvent}

variable {answer : ReadResult} {parsed : CheckoutSpark.AddressableCoordinate}
  {recovered : List Assignment}

lemma reached_retaining (hP : Sound P) (source : ProductSource) (event : SignedEvent)
    (plan : Option Bool) (seen : List SignedEvent) (he : e ∈ answer.events)
    (hm : IsMarker P merchantPubkey productCoordinate e)
    (h : Reached P merchantPubkey productCoordinate evidence answer e) :
    Released P ((evidence.rows.map (·.signedEvent)) ++ answer.events) e ∨
      ∃ coverage current, observedCall P merchantPubkey productCoordinate event source plan answer
          evidence seen = .retaining coverage current ∧
        HoldsFor P merchantPubkey productCoordinate current.signedEvent e := by
  obtain ⟨hrows, hcan, hcoor, before, group, after, hg, hgrp, hbef, r, hcur⟩ := h
  have hmem : group ∈ byCoordinate (candidatesOf P merchantPubkey productCoordinate
      (retainedRows merchantPubkey productCoordinate evidence) answer.events) := by
    rw [hg]
    exact mem_append_right _ mem_cons_self
  obtain ⟨hp, hco, hrm, hle⟩ := current_of_group hmem hcur
  have hval := hm.valid
  have hmrk := hm
  obtain ⟨re, hre, -⟩ := hmrk
  -- The marker's copy among the candidates is in the group, so the newest is no older.
  obtain ⟨c, hc, hid⟩ := exists_candidate (mem_append_right _ he) hre
  have hcv := (mem_candidatesOf hc).2.2
  have heq := hP.coordinateOf_congr hcv hval hid
  have hn : 0 ≤ compareReplaceableEventFrontiers r.signedEvent e :=
    compare_trans (hle c hc (heq.trans hgrp)) (hP.compare_congr hcv hval hid)
  have hr : coordinateOf r.signedEvent = coordinateOf e := by
    rw [(reads_of_parse hp).coordinateOf, hgrp, hco]
  by_cases hpo : requiresOrganizerStockRecovery r.toParsedAssignment
  · right
    have ht := hP.tuple _ _ _ _ hp hre.parse (by
      rw [(reads_of_parse hp).coordinateOf, (reads_of_parse hre.parse).coordinateOf]
        at hr
      exact some.inj hr)
    have hrev : RevisionOf P merchantPubkey productCoordinate r.signedEvent r :=
      ⟨hp, ht.1.trans hre.merchantPubkey, ht.2.2.trans hre.productCoordinate⟩
    refine ⟨coverageOf plan [answer] (decide (maxCandidates ≤ answer.events.length)), r, ?_,
      ⟨r, hrev, hpo⟩, hr, hn⟩
    unfold observedCall
    rw [if_neg (by omega), if_neg fun hno => ?_, hg, examine_reaches hbef hcur hpo]
    obtain ⟨c', hc', hno⟩ := hno
    exact hcoor c' hc' hno
  · left
    have hcl : IsClear P r.signedEvent := ⟨r, hp, hpo⟩
    refine ⟨r.signedEvent, ?_, hcl, hr, hP.newer_of_clear hcl hm hn⟩
    rcases mem_append.1 (mem_candidatesOf hrm).1 with hold | hnew
    · obtain ⟨row, hrow, hev⟩ := mem_map.1 hold
      exact mem_append_left _ (mem_map.2 ⟨row, retainedRows_subset hrow, hev⟩)
    · exact mem_append_right _ hnew

variable {marketCoordinate value : Text} {pending : List Revision} {source : ProductSource}
  {event : SignedEvent} {markets : List Text} {plan : Option Bool} {Q : StockPlatform} {now : Int}

lemma observedCall_ok (hP : Sound P)
    (hs : acceptedSource P merchantPubkey productCoordinate event = some source)
    (hhe : ∀ e ∈ seen, IsMarker P merchantPubkey productCoordinate e →
      Retained P merchantPubkey productCoordinate evidence e ∨ Released P seen e) :
    CallOk P merchantPubkey productCoordinate
      (seen ++ ((evidence.rows.map (·.signedEvent)) ++ answer.events)) evidence
      (observedCall P merchantPubkey productCoordinate event source plan answer evidence seen) := by
  unfold observedCall
  dsimp only
  set rows := retainedRows merchantPubkey productCoordinate evidence with hrows
  set candidates := candidatesOf P merchantPubkey productCoordinate rows answer.events
    with hcan
  have hre : ∀ c ∈ candidates,
      c ∈ (evidence.rows.map (·.signedEvent)) ++ answer.events := by
    intro c hc
    rcases mem_append.1 (mem_candidatesOf hc).1 with hold | hnew
    · obtain ⟨row, hrow, hev⟩ := mem_map.1 hold
      exact mem_append_left _ (mem_map.2 ⟨row, retainedRows_subset hrow, hev⟩)
    · exact mem_append_right _ hnew
  split_ifs with hlimit hcoor
  · trivial
  · trivial
  have hf : rows.length ≤ maxRetained := by omega
  cases hexam : examine P (byCoordinate candidates) [] with
  | malformed => trivial
  | marked current =>
    obtain ⟨group, hg, hcur, -⟩ := examine_marked hexam
    exact (current_of_group hg hcur).1
  | clear tuples =>
    have hp := passed_of_clear hexam hcoor
    -- A revision that the read saw has a copy among the candidates.
    have ha : ∀ e ∈ (evidence.rows.map (·.signedEvent)) ++ answer.events, ∀ r,
        RevisionOf P merchantPubkey productCoordinate e r → Among candidates e := by
      intro e he r hr
      refine exists_candidate ?_ hr
      rcases mem_append.1 he with hold | hnew
      · obtain ⟨row, hrow, rfl⟩ := mem_map.1 hold
        exact mem_append_left _ (mem_map.2
          ⟨row, mem_retainedRows hf hrow hr.isProductAssignment, rfl⟩)
      · exact mem_append_right _ hnew
    have hro : ∀ row ∈ evidence.rows,
        row.signedEvent ∈ (evidence.rows.map (·.signedEvent)) ++ answer.events :=
      fun row hrow => mem_append_left _ (mem_map.2 ⟨row, hrow, rfl⟩)
    refine ⟨⟨hs, hp, fun c hc => ⟨hre c hc, (mem_candidatesOf hc).2⟩,
      fun marketCoordinate e he => absurd he not_mem_nil, fun e he hm => ?_⟩,
      by simpa using (mapOf_holds (id : Text → Text) _).nodup, fun _ _ => rfl,
      fun row hrow r hr => .inl (ha _ (hro row hrow) r hr),
      fun e he r hr => .inl (ha e he r hr), rfl⟩
    rcases hhe e he hm with ⟨row, hrow, hh⟩ | hrel
    · obtain ⟨r, hr, -⟩ := hh.1
      obtain ⟨c, hc, hid⟩ := ha _ (hro row hrow) r hr
      have hco := hP.holdsFor_congr hh (mem_candidatesOf hc).2.2 hid
      obtain ⟨n, hn, hcoord, hle⟩ := hp.covers c hc
      obtain ⟨hprs, hmem, hcl⟩ := hp.reads n hn
      refine ⟨n.signedEvent, mem_append_right _ (hre _ hmem), ⟨n, hprs, hcl⟩, ?_,
        hP.newer_of_clear ⟨n, hprs, hcl⟩ hm (compare_trans hle hco.2.2)⟩
      rw [(reads_of_parse hprs).coordinateOf, ← hcoord, hco.2.1]
    · exact hrel.mono (subset_append_left _ _)

lemma Scoping.load (h : Scoping P merchantPubkey productCoordinate seen evidence work
      (marketCoordinate :: markets)) (hv : Verified P evidence) :
    Scoping P merchantPubkey productCoordinate seen evidence
      (work.load marketCoordinate (retainedEvents evidence marketCoordinate)) markets := by
  have hnd := nodup_cons.1 h.nodup
  have hemp := h.unloaded marketCoordinate mem_cons_self
  refine ⟨⟨h.base.signed, h.base.passed, fun c hc => ⟨mem_append_left _
      (h.base.candidates c hc).1, (h.base.candidates c hc).2⟩, fun m e he => ?_, h.base.before⟩,
    hnd.2, fun m hm => ?_, h.rows, fun e he r hr => ?_, h.unassigned⟩
  · simp only [Work.load] at he
    by_cases hm : m = marketCoordinate
    · subst hm
      rw [update_self] at he
      obtain ⟨row, hrow, -, rfl⟩ := mem_retainedEvents.1 he
      exact ⟨mem_append_right _ he, (hv row hrow).2⟩
    · rw [update_of_ne hm] at he
      exact ⟨mem_append_left _ (h.base.scope m e he).1, (h.base.scope m e he).2⟩
  · have hne : m ≠ marketCoordinate := fun heq => hnd.1 (heq ▸ hm)
    simp only [Work.load, update_of_ne hne]
    exact h.unloaded m (mem_cons_of_mem _ hm)
  · simp only [Work.load] at he ⊢
    rcases mem_append.1 he with hold | hn
    · refine (h.known e hold r hr).imp_right fun ha => ?_
      have hne : r.marketCoordinate ≠ marketCoordinate := by
        intro heq
        rw [heq, hemp] at ha
        obtain ⟨c, hc, -⟩ := ha
        cases hc
      rwa [update_of_ne hne]
    · obtain ⟨row, hrow, hmkt, rfl⟩ := mem_retainedEvents.1 hn
      refine (h.rows row hrow r hr).imp_right fun ho => ?_
      rw [ho, hmkt, update_self]
      exact ⟨_, hn, rfl⟩

lemma Scoping.push (hP : Sound P)
    (h : Scoping P merchantPubkey productCoordinate seen evidence work []) :
    Resolving P merchantPubkey productCoordinate seen work.pushCandidates
      work.tupleCandidates [] := by
  refine ⟨⟨h.base.signed, h.base.passed, h.base.candidates, fun m e he => ?_, h.base.before⟩,
    fun c hc => hc, fun c hc e he r hr heq => ?_, fun a ha => absurd ha not_mem_nil, ?_,
    fun c hc => .inl hc⟩
  · simp only [Work.pushCandidates, mem_append, mem_flatMap, mem_filter] at he
    rcases he with hs | ⟨-, -, hm, -⟩
    · exact h.base.scope m e hs
    · exact ⟨(h.base.candidates e hm).1, (h.base.candidates e hm).2.2⟩
  · have hcp := (h.base.passed.reads c hc).1
    rcases h.known e he r hr with ⟨x, hx, hid⟩ | ⟨x, hx, hid⟩
    · have hco := hP.coordinateOf_congr (h.base.candidates x hx).2.2
        (reads_of_parse hr.parse).valid hid
      refine ⟨x, mem_append_right _ (mem_flatMap.2 ⟨c, ?_, ?_⟩), hid⟩
      · exact mem_filter.2 ⟨hc, by simp⟩
      · refine mem_filter.2 ⟨hx, ?_⟩
        rw [hco, (reads_of_parse hr.parse).coordinateOf, heq]
        simp
    · rw [(hP.tuple _ _ _ _ hr.parse hcp heq).2.1] at hx
      exact ⟨x, mem_append_left _ hx, hid⟩
  · rw [map_nil, nil_append]
    exact h.base.passed.nodup

lemma Inv.setCall (h : Inv P merchantPubkey productCoordinate s)
    (hca : t.calls = update s.calls i (some call))
    (hg : Grows P merchantPubkey productCoordinate s.seen t.seen s.evidence t.evidence)
    (hv : Verified P t.evidence)
    (hc : CallOk P merchantPubkey productCoordinate t.seen t.evidence call)
    (hh : ∀ e ∈ t.seen, IsMarker P merchantPubkey productCoordinate e →
      Held P merchantPubkey productCoordinate t e) : Inv P merchantPubkey productCoordinate t := by
  refine ⟨hv, fun j call' hc' => ?_, hh⟩
  rw [hca] at hc'
  by_cases hj : j = i
  · subst hj
    rw [update_self] at hc'
    exact some.inj hc' ▸ hc
  · rw [update_of_ne hj] at hc'
    exact (h.calls j call' hc').grows hg

lemma Held.next (h : Held P merchantPubkey productCoordinate s e)
    (hc : t.calls = update s.calls i (some call))
    (hn : ∀ coverage current, s.calls i ≠ some (.retaining coverage current))
    (hs : s.seen ⊆ t.seen) (hr : Retained P merchantPubkey productCoordinate s.evidence e →
      Retained P merchantPubkey productCoordinate t.evidence e) :
    Held P merchantPubkey productCoordinate t e := by
  rcases h with hk | hrel | ⟨j, coverage, current, hj, hh⟩
  · exact .inl (hr hk)
  · exact .inr (.inl (hrel.mono hs))
  · refine .inr (.inr ⟨j, coverage, current, ?_, hh⟩)
    have hne : j ≠ i := fun heq => hn coverage current (heq ▸ hj)
    rw [hc, update_of_ne hne]
    exact hj

lemma Inv.quiet (h : Inv P merchantPubkey productCoordinate s)
    (hc : t.calls = update s.calls i (some call)) (hev : t.evidence = s.evidence)
    (hs : t.seen = s.seen) (hn : ∀ coverage current, s.calls i ≠ some (.retaining coverage current))
    (hca : CallOk P merchantPubkey productCoordinate s.seen s.evidence call) :
    Inv P merchantPubkey productCoordinate t := by
  refine h.setCall hc ⟨by rw [hs]; exact .refl _, fun row hr => ?_⟩ ?_ ?_
    fun e he hm => ?_
  · rw [hev] at hr
    exact .inl hr
  · rw [hev]
    exact h.verified
  · rw [hev, hs]
    exact hca
  · rw [hs] at he
    refine (h.held e he hm).next hc hn ?_ ?_
    · rw [hs]
      exact .refl _
    · rw [hev]
      exact id

lemma startedCall_ok (products : Table Product Product.coordinate) (event : SignedEvent) :
    CallOk P merchantPubkey productCoordinate seen evidence
      (startedCall P merchantPubkey productCoordinate products event) := by
  unfold startedCall
  cases products.get productCoordinate with
  | some existing => trivial
  | none =>
    cases hs : acceptedSource P merchantPubkey productCoordinate event with
    | none => trivial
    | some source => exact hs

lemma kind_of_parseCanonicalCoordinate {kinds : List Nat}
    (h : parseCanonicalCoordinate Q value kinds = some parsed) :
    parsed.kind ∈ kinds ∧ parsed.coordinate = value := by
  obtain ⟨hp, hv⟩ := filter_eq_some_iff.1 h
  refine ⟨?_, by simpa using hv⟩
  unfold CheckoutSpark.parseAddressableCoordinate at hp
  split at hp
  · dsimp only at hp
    split_ifs at hp with hc
    cases hp
    exact hc.2.2.2.2.2.1
  · cases hp

lemma not_occurrence {r : Revision}
    (h : parseCanonicalCoordinate Q value [31922, 31923] = some parsed)
    (hr : parseRevision P e = some r) : r.coordinate ≠ value := by
  obtain ⟨hk, rfl⟩ := kind_of_parseCanonicalCoordinate h
  obtain ⟨d, -, hc⟩ := (reads_of_parse hr).dTag
  rw [hc, CheckoutSpark.AddressableCoordinate.coordinate]
  have hf : numberText (31922 : Nat) = "31922".toList ∧
    numberText (31923 : Nat) = "31923".toList := by
    decide
  simp only [mem_cons, not_mem_nil, or_false] at hk
  rcases hk with hk | hk
  · rw [hk, hf.1]
    simp
  · rw [hk, hf.2]
    simp

lemma relevant_of_occurrenceState (P : RecoveryPlatform) (assignment : ParsedAssignment)
    (retained : List SignedEvent) (reads : OccurrenceReads) (e : SignedEvent)
    (he : e ∈ (occurrenceState P assignment retained reads).2) :
    P.isValidSignedEvent e = true ∧ ∀ r, parseRevision P e ≠ some r := by
  have hu : ∀ {events}, e ∈ validEvents P events → P.isValidSignedEvent e = true := by
    intro events hmem
    exact (mem_filter.1 ((uniqueEvents_holds _).from_entries e hmem)).2
  unfold occurrenceState at he
  dsimp only at he
  cases hp : parseCanonicalCoordinate P.toStockPlatform assignment.occurrenceCoordinate
      [31922, 31923] with
  | none =>
    rw [hp] at he
    cases he
  | some parsed =>
    simp only [hp] at he
    split at he
    · cases he
    · rename_i current hcur
      cases hend : P.calendarEnd current with
      | none =>
        simp only [hend] at he
        cases he
      | some calendarEnd =>
        simp only [hend] at he
        by_cases hm : current.kind = 31923 ∧ tagsNamed current.tags "end" = []
        · rw [if_pos hm] at he
          cases he
        · rw [if_neg hm] at he
          obtain ⟨ha, hrel⟩ := mem_filter.1 he
          refine ⟨?_, fun r hr => ?_⟩
          · split at ha
            · exact hu ha
            · exact hu ha
          · rw [isRelevant, decide_eq_true_eq, (reads_of_parse hr).kind,
              (reads_of_parse hr).coordinateOf, some.injEq] at hrel
            rcases hrel with hc | ⟨hk, -⟩
            · exact not_occurrence hp hr hc
            · cases hk

lemma committed_quiet (P : RecoveryPlatform) (merchantPubkey productCoordinate : Text) (s : State)
    (i : Nat) (work : Work) (recovered : List Assignment) (now : Int) :
    ∃ call, (committed merchantPubkey productCoordinate s i work recovered now).calls =
        update s.calls i (some call) ∧
      (committed merchantPubkey productCoordinate s i work recovered now).evidence = s.evidence ∧
      (committed merchantPubkey productCoordinate s i work recovered now).seen = s.seen ∧
      CallOk P merchantPubkey productCoordinate s.seen s.evidence call := by
  unfold committed
  split
  · exact ⟨_, rfl, rfl, rfl, trivial⟩
  · split
    · exact ⟨_, rfl, rfl, rfl, trivial⟩
    · split_ifs
      · exact ⟨_, rfl, rfl, rfl, trivial⟩
      · exact ⟨_, rfl, rfl, rfl, trivial⟩

lemma Inv.observe (hP : Sound P) (h : Inv P merchantPubkey productCoordinate s)
    (hk : KeepsMarkers P merchantPubkey productCoordinate s (.observe i plan answer))
    (hc : s.calls i = some (.reading event source)) :
    Inv P merchantPubkey productCoordinate { s.setCall i (observedCall P merchantPubkey
        productCoordinate event source plan answer s.evidence s.seen) with
      seen := s.seen ++ ((s.evidence.rows.map (·.signedEvent)) ++ answer.events) } := by
  obtain ⟨hn, ha⟩ := hk
  have hg : Grows P merchantPubkey productCoordinate s.seen (s.seen ++
      ((s.evidence.rows.map (·.signedEvent)) ++ answer.events)) s.evidence s.evidence :=
    ⟨subset_append_left _ _, fun row hrow => .inl hrow⟩
  have hold : ∀ e ∈ s.seen, IsMarker P merchantPubkey productCoordinate e →
      Retained P merchantPubkey productCoordinate s.evidence e ∨ Released P s.seen e := by
    intro e he hm
    rcases h.held e he hm with hk | hr | ⟨j, coverage, current, hj, -⟩
    · exact .inl hk
    · exact .inr hr
    · exact absurd hj (hn j coverage current)
  refine h.setCall (i := i) rfl hg h.verified (observedCall_ok hP (h.calls i _ hc) hold) fun
    e he hm => ?_
  rcases mem_append.1 he with hs | hread
  · rcases hold e hs hm with hk | hr
    · exact .inl hk
    · exact .inr (.inl (hr.mono (subset_append_left _ _)))
  rcases mem_append.1 hread with hold' | hnew
  · obtain ⟨row, hrow, rfl⟩ := mem_map.1 hold'
    exact .inl ⟨row, hrow, .refl hm⟩
  · have hre := fun hr : Released P
        ((s.evidence.rows.map (·.signedEvent)) ++ answer.events) e =>
      hr.mono (subset_append_right s.seen _)
    rcases ha e hnew hm with hk | hr | hreac
    · exact .inl hk
    · exact .inr (.inl (hre hr))
    · rcases reached_retaining hP source event plan s.seen hnew hm hreac with
        hr | ⟨coverage, current, heq, hh⟩
      · exact .inr (.inl (hre hr))
      · refine .inr (.inr ⟨i, coverage, current, ?_, hh⟩)
        rw [← heq]
        exact update_self ..

lemma Inv.retain (hP : Sound P) (h : Inv P merchantPubkey productCoordinate s) {coverage : Coverage}
    {current : Revision} (hc : s.calls i = some (.retaining coverage current)) :
    Inv P merchantPubkey productCoordinate { s.setCall i
        (.returned (.unsafeConflict coverage .organizerStockRecoveryRequired)) with
      evidence := retainEvents now current.marketCoordinate [current.signedEvent] s.evidence } := by
  have hp : parseRevision P current.signedEvent = some current := h.calls i _ hc
  have hv : ∀ e ∈ [current.signedEvent], P.isValidSignedEvent e = true :=
    fun e he => mem_singleton.1 he ▸ (reads_of_parse hp).valid
  refine h.setCall (i := i) rfl ⟨.refl _, fun row hrow => ?_⟩ (h.verified.retain hv)
    trivial fun e he hm => ?_
  · refine (mem_retainEvents hrow).imp_right ?_
    rintro ⟨e, he, rfl⟩ r hr
    obtain rfl := mem_singleton.1 he
    rw [show parseRevision P current.signedEvent = some r from hr.parse] at hp
    exact congrArg (fun r : Revision => r.marketCoordinate) (some.inj hp)
  · rcases h.held e he hm with hk | hrel | ⟨j, coverage', current', hj, hh⟩
    · exact .inl (hk.retain hP h.verified hv)
    · exact .inr (.inl hrel)
    · by_cases hji : j = i
      · -- Its own marker is retained now.
        subst hji
        rw [hc] at hj
        obtain ⟨-, rfl⟩ := Call.retaining.inj (some.inj hj)
        exact .inl (retained_of_mem hP hv (mem_singleton_self _) hh)
      · refine .inr (.inr ⟨j, coverage', current', ?_, hh⟩)
        exact (update_of_ne hji _ _).trans hj

lemma Inv.load (h : Inv P merchantPubkey productCoordinate s)
    (hc : s.calls i = some (.scoping work (marketCoordinate :: markets))) :
    Inv P merchantPubkey productCoordinate { s.setCall i (.scoping (work.load marketCoordinate
        (retainedEvents s.evidence marketCoordinate)) markets) with
      seen := s.seen ++ retainedEvents s.evidence marketCoordinate } := by
  have hs : Scoping P merchantPubkey productCoordinate s.seen s.evidence work
      (marketCoordinate :: markets) := h.calls i _ hc
  have hg : Grows P merchantPubkey productCoordinate s.seen
      (s.seen ++ retainedEvents s.evidence marketCoordinate) s.evidence s.evidence :=
    ⟨subset_append_left _ _, fun row hr => .inl hr⟩
  have hl : CallOk P merchantPubkey productCoordinate s.seen s.evidence (.scoping (work.load
      marketCoordinate (retainedEvents s.evidence marketCoordinate)) markets) :=
    hs.load h.verified
  refine h.setCall (i := i) rfl hg h.verified
    (hl.grows hg) fun e he hm => ?_
  rcases mem_append.1 he with hse | hre
  · exact (h.held e hse hm).next (i := i) rfl (by simp [hc]) hg.seen id
  · obtain ⟨row, hr, -, rfl⟩ := mem_retainedEvents.1 hre
    exact .inl ⟨row, hr, .refl hm⟩

lemma Inv.resolve (hP : Sound P) (h : Inv P merchantPubkey productCoordinate s)
    {candidate : Revision} {fetched : List SignedEvent} {resolved : AssignmentRead}
    (hc : s.calls i = some (.resolving work (candidate :: pending) recovered))
    (hf : ∀ e ∈ fetched, IsCandidateScoped P candidate e)
    (hre : Resolves P productCoordinate candidate
      (work.scopedCache candidate.marketCoordinate ++ fetched) resolved) :
    Inv P merchantPubkey productCoordinate { s.setCall i (resolvedCall P merchantPubkey
        productCoordinate (work.retain candidate fetched resolved.coverage) candidate
          resolved pending
        recovered) with
      evidence := retainEvents now candidate.marketCoordinate fetched s.evidence
      seen := s.seen ++ fetched } := by
  have hres : Resolving P merchantPubkey productCoordinate s.seen work (candidate :: pending)
      recovered := h.calls i _ hc
  have hca := hres.base.revision (hres.tuples candidate mem_cons_self)
  have hv : ∀ e ∈ fetched, P.isValidSignedEvent e = true := fun e he => (hf e he).1
  have hg : Grows P merchantPubkey productCoordinate s.seen (s.seen ++ fetched) s.evidence
      (retainEvents now candidate.marketCoordinate fetched s.evidence) := by
    refine ⟨subset_append_left _ _, fun row hrow => (mem_retainEvents hrow).imp_right ?_⟩
    rintro ⟨e, he, rfl⟩ r hr
    have heq := (isScoped_iff hr.parse (hr.merchantPubkey.trans hca.2.symm)).1
      (hf e he)
    exact (hP.tuple _ _ _ _ hr.parse hca.1 heq).2.1
  have hresolved : CallOk P merchantPubkey productCoordinate s.seen s.evidence (resolvedCall P
      merchantPubkey productCoordinate (work.retain candidate fetched resolved.coverage) candidate
      resolved pending recovered) := resolvedCall_ok hP hres hf hre
  refine h.setCall (i := i) rfl hg (h.verified.retain hv)
    (hresolved.grows hg) fun e he hm => ?_
  rcases mem_append.1 he with hs | hn
  · exact (h.held e hs hm).next (i := i) rfl (by simp [hc]) hg.seen
      fun hk => hk.retain hP h.verified hv
  · exact .inl (retained_of_mem hP hv hn (.refl hm))

lemma Inv.date (hP : Sound P) (h : Inv P merchantPubkey productCoordinate s) {assignment : Revision}
    {retained : List SignedEvent} {reads : OccurrenceReads}
    (hc : s.calls i = some (.dating work assignment retained pending recovered)) :
    let (lifecycle, relevant) := occurrenceState P assignment.toParsedAssignment retained reads
    Inv P merchantPubkey productCoordinate { s.setCall i (.resolving
        (work.mergeCoverage lifecycle.coverage) pending (recovered ++ [recoveredAssignment
          merchantPubkey productCoordinate assignment lifecycle.endMs lifecycle.terminal])) with
      evidence := retainEvents now assignment.marketCoordinate relevant s.evidence } := by
  have hrel := fun e =>
    relevant_of_occurrenceState P assignment.toParsedAssignment retained reads e
  revert hrel
  generalize occurrenceState P assignment.toParsedAssignment retained reads = state
  obtain ⟨lifecycle, relevant⟩ := state
  intro hrel
  have hv := fun e he => (hrel e he).1
  have hg : Grows P merchantPubkey productCoordinate s.seen s.seen s.evidence
      (retainEvents now assignment.marketCoordinate relevant s.evidence) := by
    refine ⟨.refl _, fun row hrow => (mem_retainEvents hrow).imp_right ?_⟩
    rintro ⟨e, he, rfl⟩ r hr
    exact absurd hr.parse ((hrel e he).2 r)
  have hd : ∀ endMs terminal, Resolving P merchantPubkey productCoordinate s.seen work pending
      (recovered ++ [recoveredAssignment merchantPubkey productCoordinate assignment
        endMs terminal]) :=
    h.calls i _ hc
  refine h.setCall (i := i) rfl hg (h.verified.retain hv)
    ((hd lifecycle.endMs lifecycle.terminal).mergeCoverage lifecycle.coverage)
    fun e he hm => ?_
  exact (h.held e he hm).next (i := i) rfl (by simp [hc]) (.refl _)
    fun hk => hk.retain hP h.verified hv

lemma Inv.step (hP : Sound P) (h : Inv P merchantPubkey productCoordinate s) {a : Action}
    (hs : KeptStep P merchantPubkey productCoordinate a s t) :
    Inv P merchantPubkey productCoordinate t := by
  obtain ⟨hk, ha⟩ := hs
  unfold RecoveryStep at ha
  cases a with
  | start i event =>
    simp only [act] at ha
    split at ha
    · cases ha
      exact h.quiet (i := i) rfl rfl rfl (by simp [*]) (startedCall_ok _ _)
    · cases ha
  | observe i plan answer =>
    simp only [act] at ha
    split at ha
    · cases ha
      exact h.observe hP hk ‹_›
    · cases ha
  | retain i now =>
    simp only [act] at ha
    split at ha
    · cases ha
      exact h.retain hP ‹_›
    · cases ha
  | load i =>
    simp only [act] at ha
    split at ha
    · cases ha
      exact h.load ‹_›
    · rename_i work hc
      cases ha
      have hsc : Scoping P merchantPubkey productCoordinate s.seen s.evidence work [] :=
        h.calls i _ hc
      exact h.quiet (i := i) rfl rfl rfl (by simp [hc]) (hsc.push hP)
    · cases ha
  | resolve i fetched resolved now =>
    simp only [act] at ha
    split at ha
    · split_ifs at ha with hr
      cases ha
      exact h.resolve hP ‹_› hr.1 hr.2
    · cases ha
  | ask i =>
    simp only [act] at ha
    split at ha
    · rename_i work assignment pending recovered hc
      cases ha
      have hask : ∀ endMs terminal, Resolving P merchantPubkey productCoordinate
        s.seen work pending
          (recovered ++ [recoveredAssignment merchantPubkey productCoordinate assignment endMs
            terminal]) := h.calls i _ hc
      exact h.quiet (i := i) rfl rfl rfl (by simp [hc]) hask
    · cases ha
  | date i reads now =>
    simp only [act] at ha
    split at ha
    · cases ha
      exact h.date hP ‹_›
    · cases ha
  | commit i now =>
    simp only [act] at ha
    split at ha
    · rename_i work recovered hc
      cases ha
      obtain ⟨call, hca, he, hse, hok⟩ :=
        committed_quiet P merchantPubkey productCoordinate s i work recovered now
      exact h.quiet hca he hse (by simp [hc]) hok
    · cases ha
  | stop i =>
    simp only [act] at ha
    split at ha
    · cases ha
    · cases ha
    · cases ha
    · cases ha
    · rename_i call hne _ _ hc
      cases ha
      refine h.quiet (i := i) rfl rfl rfl (fun coverage current heq => ?_) trivial
      exact hne coverage current (some.inj (hc.symm.trans heq))

end

end Conduit.Markets
