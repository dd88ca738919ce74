import Conduit.Markets.Revisions
import Conduit.Runs

namespace Conduit.Markets

open Js Runs Stock List Table Function

section
variable {P : RecoveryPlatform} {merchantPubkey productCoordinate : Text}
  {candidates : List SignedEvent} {tuples : List Revision}

structure Passed (P : RecoveryPlatform) (candidates : List SignedEvent) (tuples : List Revision) :
    Prop where
  nodup : (tuples.map (·.coordinate)).Nodup
  reads : ∀ r ∈ tuples, parseRevision P r.signedEvent = some r ∧ r.signedEvent ∈ candidates ∧
    ¬requiresOrganizerStockRecovery r.toParsedAssignment
  covers : ∀ c ∈ candidates, ∃ r ∈ tuples, coordinateOf c = some r.coordinate ∧
    0 ≤ compareReplaceableEventFrontiers r.signedEvent c

lemma current_of_group {group : Text × List SignedEvent} {r : Revision}
    (hg : group ∈ byCoordinate candidates) (h : currentOf P group.1 group.2 = some r) :
    parseRevision P r.signedEvent = some r ∧ r.coordinate = group.1 ∧ r.signedEvent ∈ candidates ∧
      ∀ c ∈ candidates, coordinateOf c = some group.1 →
        0 ≤ compareReplaceableEventFrontiers r.signedEvent c := by
  obtain ⟨hn, hp, hco⟩ := currentOf_eq_some.1 h
  obtain ⟨hm, hle⟩ := newest_spec hn
  rw [(mem_byCoordinate.1 hg).2] at hm hle
  refine ⟨hp, hco, (mem_filter.1 hm).1, fun c hc heq => hle c ?_⟩
  exact mem_filter.2 ⟨hc, by simpa using heq⟩

lemma passed_of_clear (h : examine P (byCoordinate candidates) [] = .clear tuples)
    (hco : ¬∃ c ∈ candidates, coordinateOf c = none) : Passed P candidates tuples := by
  obtain ⟨passed, rfl, hm, hf, hto⟩ := examine_clear h
  refine ⟨?_, fun r hr => ?_, fun c hc => ?_⟩
  · rw [hm]
    exact byCoordinate_nodup
  · obtain ⟨group, hg, hcur, hcl⟩ := hf r hr
    obtain ⟨hp, -, hmem, -⟩ := current_of_group hg hcur
    exact ⟨hp, hmem, hcl⟩
  · cases hc' : coordinateOf c with
    | none => exact absurd ⟨c, hc, hc'⟩ hco
    | some coordinate =>
      have hg : (coordinate, candidates.filter fun event =>
          decide (coordinateOf event = some coordinate)) ∈ byCoordinate candidates :=
        mem_byCoordinate.2 ⟨⟨c, hc, hc'⟩, rfl⟩
      obtain ⟨r, hr, hcur⟩ := hto _ hg
      obtain ⟨-, heq, -, hle⟩ := current_of_group hg hcur
      exact ⟨r, hr, congrArg some heq.symm, hle c hc hc'⟩

end

section
variable {P : RecoveryPlatform} {merchantPubkey productCoordinate marketCoordinate : Text}
  {evidence : EvidenceTable} {events : List SignedEvent} {row : EvidenceRow} {e : SignedEvent}
  {now : Int}

def Verified (P : RecoveryPlatform) (evidence : EvidenceTable) : Prop :=
  ∀ row ∈ evidence.rows, row.id = evidenceId row.marketCoordinate row.signedEvent.id ∧
    P.isValidSignedEvent row.signedEvent = true

lemma retainEvents_keys : (((uniqueEvents events).map (evidenceRowOf now marketCoordinate)).map
    EvidenceRow.id).Nodup := by
  have hi := (uniqueEvents_holds events).nodup
  rw [map_map]
  refine Nodup.map_on (fun a ha b hb hab => ?_) hi.of_map
  have hid : a.id = b.id := by
    have hr : ':' :: a.id = ':' :: b.id := append_cancel_left hab
    exact (cons.inj hr).2
  exact inj_on_of_nodup_map hi ha hb hid

lemma mem_retainEvents (h : row ∈ (retainEvents now marketCoordinate events evidence).rows) :
    row ∈ evidence.rows ∨ ∃ e ∈ events, row = evidenceRowOf now marketCoordinate e := by
  rcases (mem_putAll retainEvents_keys).1 h with hn | ⟨hold, -⟩
  · obtain ⟨e, he, rfl⟩ := mem_map.1 hn
    exact .inr ⟨e, (uniqueEvents_holds events).from_entries e he, rfl⟩
  · exact .inl hold

lemma Verified.retain (h : Verified P evidence) (hv : ∀ e ∈ events, P.isValidSignedEvent e = true) :
    Verified P (retainEvents now marketCoordinate events evidence) := by
  intro row hr
  rcases mem_retainEvents hr with hold | ⟨e, he, rfl⟩
  · exact h row hold
  · exact ⟨rfl, hv e he⟩

lemma exists_retained (he : e ∈ events) :
    ∃ row ∈ (retainEvents now marketCoordinate events evidence).rows,
      row.signedEvent ∈ events ∧ row.signedEvent.id = e.id := by
  obtain ⟨c, hc, hid⟩ := exists_unique_id he
  refine ⟨evidenceRowOf now marketCoordinate c, (mem_putAll retainEvents_keys).2
    (.inl (mem_map_of_mem hc)), (uniqueEvents_holds events).from_entries c hc, hid⟩

lemma evidenceId_tail {m m' i i' : Text} (hi : i.length = i'.length)
    (h : evidenceId m i = evidenceId m' i') : i = i' := by
  have hl := append_inj_right' h (by simp [hi])
  exact (cons.inj hl).2

lemma row_kept (hP : Sound P) (hf : Verified P evidence)
    (hv : ∀ e ∈ events, P.isValidSignedEvent e = true) (hrow : row ∈ evidence.rows) :
    ∃ row' ∈ (retainEvents now marketCoordinate events evidence).rows,
      row'.signedEvent.id = row.signedEvent.id ∧ P.isValidSignedEvent row'.signedEvent = true := by
  obtain ⟨hid, hr⟩ := hf row hrow
  by_cases hn : ∃ c ∈ uniqueEvents events, evidenceId marketCoordinate c.id = row.id
  · obtain ⟨c, hc, heq⟩ := hn
    have hm := (uniqueEvents_holds events).from_entries c hc
    refine ⟨evidenceRowOf now marketCoordinate c, (mem_putAll retainEvents_keys).2
      (.inl (mem_map_of_mem hc)), ?_, hv c hm⟩
    refine evidenceId_tail ?_ (heq.trans hid)
    exact (hP.id c (hv c hm)).1.trans (hP.id _ hr).1.symm
  · refine ⟨row, (mem_putAll retainEvents_keys).2 (.inr ⟨hrow, fun a ha heq => ?_⟩), rfl,
      hr⟩
    obtain ⟨c, hc, rfl⟩ := mem_map.1 ha
    exact hn ⟨c, hc, heq⟩

lemma Retained.retain (hP : Sound P) (hf : Verified P evidence)
    (hv : ∀ e ∈ events, P.isValidSignedEvent e = true)
    (h : Retained P merchantPubkey productCoordinate evidence e) :
    Retained P merchantPubkey productCoordinate
      (retainEvents now marketCoordinate events evidence) e := by
  obtain ⟨row, hr, hh⟩ := h
  obtain ⟨row', hr', hid, hv'⟩ := row_kept hP hf hv hr
  exact ⟨row', hr', hP.holdsFor_congr hh hv' hid⟩

lemma retained_of_mem (hP : Sound P) (hv : ∀ e ∈ events, P.isValidSignedEvent e = true)
    {m : SignedEvent} (hm : m ∈ events) (h : HoldsFor P merchantPubkey productCoordinate m e) :
    Retained P merchantPubkey productCoordinate
      (retainEvents now marketCoordinate events evidence) e := by
  obtain ⟨row, hr, hmem, hid⟩ := exists_retained hm
  exact ⟨row, hr, hP.holdsFor_congr h (hv _ hmem) hid⟩

lemma mem_retainedEvents : e ∈ retainedEvents evidence marketCoordinate ↔
    ∃ row ∈ evidence.rows, row.marketCoordinate = marketCoordinate ∧ row.signedEvent = e := by
  simp only [retainedEvents, coordinateRows, mem_map, mem_insertionSort, mem_filter,
    decide_eq_true_eq, and_assoc]

end

section
variable (P : RecoveryPlatform) (merchantPubkey productCoordinate : Text)

def Among (events : List SignedEvent) (e : SignedEvent) : Prop := ∃ c ∈ events, c.id = e.id

structure WorkOk (seen : List SignedEvent) (work : Work) : Prop where
  signed : acceptedSource P merchantPubkey productCoordinate work.signedProductEvent =
    some work.source
  passed : Passed P work.candidates work.tupleCandidates
  candidates : ∀ c ∈ work.candidates, c ∈ work.read ∧
    isProductAssignment merchantPubkey productCoordinate c = true ∧ P.isValidSignedEvent c = true
  scope : ∀ marketCoordinate, ∀ e ∈ work.scopedCache marketCoordinate, e ∈ work.read ∧
    P.isValidSignedEvent e = true
  before : ∀ e ∈ work.before, IsMarker P merchantPubkey productCoordinate e → Released P seen e

def OwnMarket (row : EvidenceRow) : Prop :=
  ∀ r, RevisionOf P merchantPubkey productCoordinate row.signedEvent r →
    r.marketCoordinate = row.marketCoordinate

structure Scoping (seen : List SignedEvent) (evidence : EvidenceTable) (work : Work)
    (markets : List Text) : Prop where
  base : WorkOk P merchantPubkey productCoordinate seen work
  nodup : markets.Nodup
  unloaded : ∀ marketCoordinate ∈ markets, work.scopedCache marketCoordinate = []
  rows : ∀ row ∈ evidence.rows, ∀ r, RevisionOf P merchantPubkey productCoordinate
    row.signedEvent r →
    Among work.candidates row.signedEvent ∨ r.marketCoordinate = row.marketCoordinate
  known : ∀ e ∈ work.read, ∀ r, RevisionOf P merchantPubkey productCoordinate e r →
    Among work.candidates e ∨ Among (work.scopedCache r.marketCoordinate) e
  unassigned : work.unassigned = []

def Newest (read : List SignedEvent) (a : Assignment) : Prop :=
  ∃ r endMs terminal, r.signedEvent ∈ read ∧
    RevisionOf P merchantPubkey productCoordinate r.signedEvent r ∧
    ¬requiresOrganizerStockRecovery r.toParsedAssignment ∧
    a = recoveredAssignment merchantPubkey productCoordinate r endMs terminal ∧
    ∀ e ∈ read, ∀ r', RevisionOf P merchantPubkey productCoordinate e r' →
      r'.coordinate = r.coordinate → 0 ≤ compareReplaceableEventFrontiers r.signedEvent e

structure Resolving (seen : List SignedEvent) (work : Work) (pending : List Revision)
    (recovered : List Assignment) : Prop where
  base : WorkOk P merchantPubkey productCoordinate seen work
  tuples : ∀ c ∈ pending, c ∈ work.tupleCandidates
  known : ∀ c ∈ pending, ∀ e ∈ work.read, ∀ r, RevisionOf P merchantPubkey productCoordinate e r →
    r.coordinate = c.coordinate → Among (work.scopedCache c.marketCoordinate) e
  newest : ∀ a ∈ recovered, Newest P merchantPubkey productCoordinate work.read a
  nodup : (recovered.map (·.coordinate) ++ pending.map (·.coordinate)).Nodup
  covers : ∀ c ∈ work.tupleCandidates, c ∈ pending ∨
    c.coordinate ∈ recovered.map (·.coordinate) ∨ c.coordinate ∈ work.unassigned

/-- What a call is worth while it runs. -/
def CallOk (seen : List SignedEvent) (evidence : EvidenceTable) : Call → Prop
  | .reading event source => acceptedSource P merchantPubkey productCoordinate event = some source
  | .retaining _ current => parseRevision P current.signedEvent = some current
  | .scoping work markets => Scoping P merchantPubkey productCoordinate seen evidence work markets
  | .resolving work pending recovered =>
    Resolving P merchantPubkey productCoordinate seen work pending recovered
  | .asking work assignment pending recovered | .dating work assignment _ pending recovered =>
    ∀ endMs terminal, Resolving P merchantPubkey productCoordinate seen work pending
      (recovered ++ [recoveredAssignment merchantPubkey productCoordinate assignment
        endMs terminal])
  | .returned _ | .threw => True

structure Grows (seen seen' : List SignedEvent) (evidence evidence' : EvidenceTable) : Prop where
  seen : seen ⊆ seen'
  rows : ∀ row ∈ evidence'.rows, row ∈ evidence.rows ∨
    OwnMarket P merchantPubkey productCoordinate row

end

section
variable {P : RecoveryPlatform} {merchantPubkey productCoordinate : Text}
  {seen seen' : List SignedEvent} {evidence evidence' : EvidenceTable} {work : Work}
  {cand assignment : Revision} {pending : List Revision} {recovered : List Assignment}
  {e : SignedEvent}

lemma WorkOk.grows (h : WorkOk P merchantPubkey productCoordinate seen work)
    (hs : seen ⊆ seen') : WorkOk P merchantPubkey productCoordinate seen' work :=
  { h with before := fun e he hm => (h.before e he hm).mono hs }

lemma Resolving.grows (h : Resolving P merchantPubkey productCoordinate seen work
    pending recovered) (hs : seen ⊆ seen') :
    Resolving P merchantPubkey productCoordinate seen' work pending recovered :=
  { h with base := h.base.grows hs }

lemma CallOk.grows {call : Call} (h : CallOk P merchantPubkey productCoordinate seen
    evidence call) (hg : Grows P merchantPubkey productCoordinate seen seen' evidence evidence') :
    CallOk P merchantPubkey productCoordinate seen' evidence' call := by
  cases call with
  | reading event source => exact h
  | retaining coverage current => exact h
  | scoping work markets =>
    refine { h with base := h.base.grows hg.seen, rows := fun row hrow r hr => ?_ }
    rcases hg.rows row hrow with hold | ho
    · exact h.rows row hold r hr
    · exact .inr (ho r hr)
  | resolving work pending recovered => exact Resolving.grows h hg.seen
  | asking work assignment pending recovered =>
    exact fun endMs terminal => (h endMs terminal).grows hg.seen
  | dating work assignment retained pending recovered =>
    exact fun endMs terminal => (h endMs terminal).grows hg.seen
  | returned result => trivial
  | threw => trivial

lemma WorkOk.revision (h : WorkOk P merchantPubkey productCoordinate seen work)
    (hc : cand ∈ work.tupleCandidates) : parseRevision P cand.signedEvent = some cand ∧
      cand.merchantPubkey = merchantPubkey := by
  obtain ⟨hprs, hm, -⟩ := h.passed.reads cand hc
  have hp := (h.candidates _ hm).2.1
  rw [isProductAssignment, decide_eq_true_eq] at hp
  exact ⟨hprs, (reads_of_parse hprs).merchantPubkey.trans hp.2.1⟩

lemma isScoped_iff {r : Revision} (hp : parseRevision P e = some r)
    (hm : r.merchantPubkey = cand.merchantPubkey) :
    IsCandidateScoped P cand e ↔ r.coordinate = cand.coordinate := by
  have hr := reads_of_parse hp
  obtain ⟨d, hnm, hc⟩ := hr.dTag
  rw [← hr.merchantPubkey, hm] at hc
  have hpub := hr.merchantPubkey.symm.trans hm
  have hmem : ∀ tag, tag ∈ e.tags ∧ tag[0]? = some "d".toList ↔ tag = ["d".toList, d] := by
    intro tag
    rw [← mem_tagsNamed, hnm, mem_singleton]
  constructor
  · rintro ⟨-, -, hf | ⟨-, tag, ht, hn, d', hd', heq⟩⟩
    · rw [hr.kind] at hf
      cases hf
    · obtain rfl := (hmem tag).1 ⟨ht, hn⟩
      obtain rfl : d = d' := by simpa using hd'
      rw [hc, heq]
  · intro heq
    obtain ⟨ht, hn⟩ := (hmem _).2 rfl
    exact ⟨hr.valid, hpub, .inr ⟨hr.kind, _, ht, hn, d, rfl, heq.symm.trans hc⟩⟩

variable {resolved : AssignmentRead}

lemma Resolving.newest_of_resolves (hP : Sound P)
    (h : Resolving P merchantPubkey productCoordinate seen work (cand :: pending) recovered)
    {fetched : List SignedEvent} (coverage : Coverage) (hres : Resolves P productCoordinate cand
      (work.scopedCache cand.marketCoordinate ++ fetched) resolved)
    (ha : resolved.assignment = some assignment)
    (hcl : ¬requiresOrganizerStockRecovery assignment.toParsedAssignment) (endMs : Int)
    (terminal : Bool) : (recoveredAssignment merchantPubkey productCoordinate assignment endMs
        terminal).coordinate = cand.coordinate ∧
      Newest P merchantPubkey productCoordinate (work.retain cand fetched coverage).read
        (recoveredAssignment merchantPubkey productCoordinate assignment endMs terminal) := by
  rw [Resolves, ha] at hres
  obtain ⟨hp, hco, -, -, hpr, -, hmem, hn⟩ := hres
  have hca := h.base.revision (h.tuples cand mem_cons_self)
  have hmer := (hP.tuple _ _ _ _ hp hca.1 hco).1.trans hca.2
  refine ⟨hco, assignment, endMs, terminal, ?_, ⟨hp, hmer, hpr⟩, hcl, rfl,
    fun e he r' hr' heq => ?_⟩
  · rcases mem_append.1 hmem with hsc | hnew
    · exact mem_append_left _ (h.base.scope _ _ hsc).1
    · exact mem_append_right _ hnew
  · have hs := fun {e' r''} (hr'' : parseRevision P e' = some r'')
      (hm : r''.merchantPubkey = merchantPubkey) (hc : r''.coordinate = cand.coordinate) =>
      (isScoped_iff hr'' (hm.trans hca.2.symm)).2 hc
    have heq' := heq.trans hco
    rcases mem_append.1 he with hold | hnew
    · -- A copy of it is in the scope, under the same id.
      obtain ⟨c, hc, hid⟩ := h.known cand mem_cons_self e hold r' hr' heq'
      have hv := (h.base.scope _ c hc).2
      have hev := (reads_of_parse hr'.parse).valid
      have hcopy := hP.parse_congr hev hv hid.symm hr'.parse
      refine compare_trans (hn c (mem_append_left _ hc) (reads_of_parse hcopy).kind ?_)
        (hP.compare_congr hv hev hid)
      exact hs hcopy hr'.merchantPubkey heq'
    · exact hn e (mem_append_right _ hnew) (reads_of_parse hr'.parse).kind
        (hs hr'.parse hr'.merchantPubkey heq')

lemma Newest.fetched {a : Assignment} {read fetched : List SignedEvent}
    (h : Newest P merchantPubkey productCoordinate read a)
    (hm : cand.merchantPubkey = merchantPubkey) (hf : ∀ e ∈ fetched, IsCandidateScoped P cand e)
    (hne : a.coordinate ≠ cand.coordinate) :
    Newest P merchantPubkey productCoordinate (read ++ fetched) a := by
  obtain ⟨r, endMs, terminal, hmem, hr, hc, rfl, hle⟩ := h
  refine ⟨r, endMs, terminal, mem_append_left _ hmem, hr, hc, rfl, fun e he r' hr' heq => ?_⟩
  rcases mem_append.1 he with hold | hn
  · exact hle e hold r' hr' heq
  · have := (isScoped_iff hr'.parse (hr'.merchantPubkey.trans hm.symm)).1 (hf e hn)
    exact absurd (heq.symm.trans this) hne

lemma among_retain {fetched : List SignedEvent} (coverage : Coverage) {marketCoordinate : Text}
    (h : Among (work.scopedCache marketCoordinate) e) :
    Among ((work.retain cand fetched coverage).scopedCache marketCoordinate) e := by
  obtain ⟨c, hc, hid⟩ := h
  simp only [Work.retain]
  by_cases hm : marketCoordinate = cand.marketCoordinate
  · subst hm
    rw [update_self]
    split_ifs
    · exact ⟨c, hc, hid⟩
    · obtain ⟨c', hc', hid'⟩ := exists_unique_id (mem_append_left fetched hc)
      exact ⟨c', hc', hid'.trans hid⟩
  · rw [update_of_ne hm]
    exact ⟨c, hc, hid⟩

lemma WorkOk.retain (h : WorkOk P merchantPubkey productCoordinate seen work)
    {fetched : List SignedEvent} (hf : ∀ e ∈ fetched, IsCandidateScoped P cand e)
    (coverage : Coverage) :
    WorkOk P merchantPubkey productCoordinate seen (work.retain cand fetched coverage) where
  signed := h.signed
  passed := h.passed
  candidates c hc := ⟨mem_append_left _ (h.candidates c hc).1, (h.candidates c hc).2⟩
  before := h.before
  scope marketCoordinate e he := by
    have hold : e ∈ work.scopedCache marketCoordinate →
        e ∈ work.read ++ fetched ∧ P.isValidSignedEvent e = true := fun hm =>
      ⟨mem_append_left _ (h.scope _ e hm).1, (h.scope _ e hm).2⟩
    simp only [Work.retain] at he
    by_cases hmkt : marketCoordinate = cand.marketCoordinate
    · subst hmkt
      rw [update_self] at he
      split_ifs at he
      · exact hold he
      · rcases mem_append.1 ((uniqueEvents_holds _).from_entries e he) with hs | hn
        · exact hold hs
        · exact ⟨mem_append_right _ hn, (hf e hn).1⟩
    · rw [update_of_ne hmkt] at he
      exact hold he

lemma Resolving.advance
    (h : Resolving P merchantPubkey productCoordinate seen work (cand :: pending) recovered)
    {fetched : List SignedEvent} (hf : ∀ e ∈ fetched, IsCandidateScoped P cand e)
    (coverage : Coverage) (new : List Assignment) (unassigned : List Text)
    (hn : ∀ a ∈ new, a.coordinate = cand.coordinate ∧ Newest P merchantPubkey
      productCoordinate (work.retain cand fetched coverage).read a)
    (hnd : (new.map (·.coordinate)).Nodup) (hcov : cand.coordinate ∈ new.map (·.coordinate) ∨
      cand.coordinate ∈ unassigned) : Resolving P merchantPubkey productCoordinate seen
      { work.retain cand fetched coverage with unassigned := work.unassigned ++ unassigned }
      pending (recovered ++ new) := by
  have hmer := (h.base.revision (h.tuples cand mem_cons_self)).2
  have hap := h.nodup
  rw [map_cons, nodup_append] at hap
  obtain ⟨hold, hp, hd⟩ := hap
  rw [nodup_cons] at hp
  have hb := h.base.retain hf coverage
  refine ⟨⟨hb.signed, hb.passed, hb.candidates, hb.scope, hb.before⟩,
    fun c hc => h.tuples c (mem_cons_of_mem _ hc), fun c hc e he r hr hs => ?_,
    fun a ha => ?_, ?_, fun c hc => ?_⟩
  · rcases mem_append.1 he with hre | hfe
    · exact among_retain coverage (h.known c (mem_cons_of_mem _ hc) e hre r hr hs)
    · have hsc := (isScoped_iff hr.parse (hr.merchantPubkey.trans hmer.symm)).1
        (hf e hfe)
      refine absurd (mem_map.2 ⟨c, hc, hs.symm.trans hsc⟩) hp.1
  · rcases mem_append.1 ha with hrec | ha
    · refine (h.newest a hrec).fetched hmer hf ?_
      exact hd _ (mem_map_of_mem hrec) _ mem_cons_self
    · exact (hn a ha).2
  · rw [map_append, append_assoc, nodup_append, nodup_append]
    have heq : ∀ x ∈ new.map (·.coordinate), x = cand.coordinate := by
      intro x hx
      obtain ⟨a, ha, rfl⟩ := mem_map.1 hx
      exact (hn a ha).1
    refine ⟨hold, ⟨hnd, hp.2, fun x hx y hy hxy => ?_⟩, fun x hx y hy => ?_⟩
    · exact hp.1 (heq x hx ▸ hxy ▸ hy)
    · rcases mem_append.1 hy with hy | hy
      · rw [heq y hy]
        exact hd x hx _ mem_cons_self
      · exact hd x hx y (mem_cons_of_mem _ hy)
  · rw [map_append]
    rcases h.covers c hc with hm | hm | hm
    · rcases mem_cons.1 hm with rfl | hm
      · rcases hcov with hn | hno
        · exact .inr (.inl (mem_append_right _ hn))
        · exact .inr (.inr (mem_append_right _ hno))
      · exact .inl hm
    · exact .inr (.inl (mem_append_left _ hm))
    · exact .inr (.inr (mem_append_left _ hm))

lemma Resolving.mergeCoverage
    (h : Resolving P merchantPubkey productCoordinate seen work pending recovered)
    (coverage : Coverage) :
    Resolving P merchantPubkey productCoordinate seen (work.mergeCoverage coverage)
      pending recovered :=
  ⟨⟨h.base.signed, h.base.passed, h.base.candidates, h.base.scope, h.base.before⟩,
    h.tuples, h.known,
    h.newest, h.nodup, h.covers⟩

lemma Resolving.recover (hP : Sound P)
    (h : Resolving P merchantPubkey productCoordinate seen work (cand :: pending) recovered)
    {fetched : List SignedEvent} (hf : ∀ e ∈ fetched, IsCandidateScoped P cand e)
    (hr : Resolves P productCoordinate cand
      (work.scopedCache cand.marketCoordinate ++ fetched) resolved)
    (hasg : resolved.assignment = some assignment)
    (hc : ¬requiresOrganizerStockRecovery assignment.toParsedAssignment) (endMs : Int)
    (terminal : Bool) : Resolving P merchantPubkey productCoordinate seen
      (work.retain cand fetched resolved.coverage) pending (recovered ++
        [recoveredAssignment merchantPubkey productCoordinate assignment endMs terminal]) := by
  have hn := h.newest_of_resolves hP resolved.coverage hr hasg hc
    endMs terminal
  have hs := h.advance hf resolved.coverage _ []
    (fun a ha => mem_singleton.1 ha ▸ hn) (nodup_singleton _)
    (.inl (mem_map.2 ⟨_, mem_singleton_self _, hn.1⟩))
  rw [append_nil] at hs
  exact hs

lemma resolvedCall_ok (hP : Sound P)
    (h : Resolving P merchantPubkey productCoordinate seen work (cand :: pending) recovered)
    {fetched : List SignedEvent} (hf : ∀ e ∈ fetched, IsCandidateScoped P cand e)
    (hr : Resolves P productCoordinate cand
      (work.scopedCache cand.marketCoordinate ++ fetched) resolved) :
    CallOk P merchantPubkey productCoordinate seen evidence
      (resolvedCall P merchantPubkey productCoordinate
        (work.retain cand fetched resolved.coverage) cand resolved pending
          recovered) := by
  unfold resolvedCall
  split_ifs
  · trivial
  · trivial
  cases hasg : resolved.assignment with
  | none =>
    have hn := h.advance hf resolved.coverage [] [cand.coordinate]
      (fun a ha => nomatch ha) nodup_nil (.inr mem_cons_self)
    rw [append_nil] at hn
    exact hn
  | some assignment =>
    dsimp only
    split_ifs with hm hrem
    · trivial
    · exact (h.recover hP hf hr hasg hm endlessMs
        false).mergeCoverage .complete
    · exact fun endMs terminal => h.recover hP hf hr hasg hm endMs terminal

end

end Conduit.Markets
