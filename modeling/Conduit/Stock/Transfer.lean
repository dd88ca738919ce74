import Conduit.Stock.Standing

namespace Conduit.Stock

open Js Throwing List Table

structure WriterSnapshot.Valid (P : StockPlatform) (account market : Text)
    (snapshot : WriterSnapshot) : Prop where
  own : ∀ pool ∈ snapshot.pools, pool.accountPubkey = account ∧ pool.readOnlyRecovery = false ∧
    ∃ grant, readGrant P pool.grantRumor = .ok grant ∧ grant.marketCoordinate = market ∧
      pool.Own grant
  pools : (snapshot.pools.map Pool.poolId).Nodup
  entries : (snapshot.entries.map Entry.id).Nodup
  recorded : ∀ e ∈ snapshot.entries, e.accountPubkey = account ∧
    e.id = entryKey e.accountPubkey e.rumor.id ∧
    ∃ accepted, e.rumor.content = .accepted accepted ∧ accepted.poolId = e.poolId
  owned : ∀ e ∈ snapshot.entries, ∃ pool ∈ snapshot.pools, pool.poolId = e.poolId ∧
    e.sequence ≤ pool.acceptedSequence
  distinct : ∀ poolId,
    ((snapshot.entries.filter fun e => e.poolId = poolId).map Entry.sequence).Nodup

structure WriterSnapshot.Captures (P : StockPlatform) (seat : Seat P.toPlatform) (db : Journal)
    (snapshot : WriterSnapshot) : Prop where
  pools : ∀ pool, pool ∈ snapshot.pools ↔ pool ∈ db.pools.rows ∧ pool.For P seat
  entries : ∀ poolId pool, db.Entrusts P seat poolId pool →
    (snapshot.entries.filter fun e => e.poolId = poolId).Perm (db.entriesOf seat.account poolId)

section
variable {P : StockPlatform} {seat : Seat P.toPlatform} {db db' : Journal}
  {payload : OrganizerStockWriterHandoverPayload} {pool : Pool} {grant : StockGrant}

lemma snapshotFrontier_entries {position : Int} {front result : Frontier} {entries : List Entry}
    (h : snapshotFrontier P payload pool grant position front entries = .ok result) :
    (∀ e ∈ entries, e.accountPubkey = payload.organizerPubkey ∧
      e.id = entryKey payload.organizerPubkey e.rumor.id ∧
      (∃ accepted, e.rumor.content = .accepted accepted ∧ accepted.poolId = pool.poolId) ∧
      position < e.sequence ∧ e.sequence ≤ position + entries.length) ∧
    (entries.map Entry.sequence).Nodup := by
  induction entries generalizing position front with
  | nil => simp
  | cons entry entries ih =>
    simp only [snapshotFrontier, bind_ok, parseAcceptance_ok, exists_reject, not_or, not_not] at h
    obtain ⟨accepted, hp, ⟨hid, hacc, hseq, -, -, hpid, -⟩, hr⟩ := h
    obtain ⟨ha, hnd⟩ := ih hr
    have hc := (parseStockAuthorityRumor_ok.1 hp).1
    constructor
    · rw [forall_mem_cons, length_cons]
      refine ⟨⟨hacc, hid, ⟨accepted, hc.symm, hpid⟩, ?_, ?_⟩, fun e he => ?_⟩
      · omega
      · push_cast
        omega
      · obtain ⟨heac, heid, hec, hlt, hle⟩ := ha e he
        refine ⟨heac, heid, hec, ?_, ?_⟩
        · omega
        · push_cast
          omega
    · rw [map_cons, nodup_cons]
      refine ⟨fun hm => ?_, hnd⟩
      obtain ⟨e, he, heq⟩ := mem_map.1 hm
      have hlt := (ha e he).2.2.2.1
      omega

lemma checkSnapshotPool_chain (h : checkSnapshotPool P payload pool = .ok ()) :
    (pool.accountPubkey = payload.organizerPubkey ∧ pool.readOnlyRecovery = false ∧
      ∃ grant, readGrant P pool.grantRumor = .ok grant ∧
        grant.marketCoordinate = payload.marketCoordinate ∧ pool.Own grant) ∧
    (∀ e ∈ payload.snapshot.entries, e.poolId = pool.poolId →
      e.accountPubkey = payload.organizerPubkey ∧
      e.id = entryKey payload.organizerPubkey e.rumor.id ∧
      (∃ accepted, e.rumor.content = .accepted accepted ∧ accepted.poolId = e.poolId) ∧
      e.sequence ≤ pool.acceptedSequence) ∧
    ((payload.snapshot.entries.filter fun e => e.poolId = pool.poolId).map Entry.sequence).Nodup := by
  simp only [checkSnapshotPool, run_ok, not_or, not_not] at h
  obtain ⟨grant, hasrt, ⟨ha, horg, -, hm, hr, -⟩, -, hlen, frontier, hf, -, -⟩ := h
  obtain ⟨hgr, hc, -, -⟩ := assertPool_ok.1 hasrt
  obtain ⟨-, ho, -, hid, -⟩ := readGrant_parties hgr
  obtain ⟨hall, hnd⟩ := snapshotFrontier_entries hf
  refine ⟨⟨ha, by simpa using hr, grant, hgr, hm, hc, ?_, ?_, ?_⟩, ?_, hnd⟩
  · rw [ha, horg]
  · rw [ha, ← horg, hc.2.2.2.1]
    exact ho
  · rw [hc.1]
    exact hid
  · intro e he hp
    obtain ⟨heac, heid, ⟨accepted, hco, hac⟩, -, hle⟩ :=
      hall e (mem_filter.2 ⟨he, by simpa using hp⟩)
    exact ⟨heac, heid, ⟨accepted, hco, hac.trans hp.symm⟩, by omega⟩

lemma validateSnapshot_valid (h : validateSnapshot P payload = .ok ()) :
    payload.snapshot.Valid P payload.organizerPubkey payload.marketCoordinate := by
  simp only [validateSnapshot, run_ok, not_or, not_not, pure_ok] at h
  obtain ⟨⟨-, -, -, -, hps, hent, -⟩, units, hc, units', hc', -⟩ := h
  have hp : ∀ pool ∈ payload.snapshot.pools, checkSnapshotPool P payload pool = .ok () := by
    intro pool hp
    obtain ⟨u, -, hu⟩ := mapResult_accepts hc hp
    exact hu
  have hen : ∀ e ∈ payload.snapshot.entries, checkSnapshotEntry P payload e = .ok () := by
    intro e he
    obtain ⟨u, -, hu⟩ := mapResult_accepts hc' he
    exact hu
  have ho : ∀ e ∈ payload.snapshot.entries, ∃ pool ∈ payload.snapshot.pools,
      pool.poolId = e.poolId := by
    intro e he
    have hok := hen e he
    simp only [checkSnapshotEntry, run_ok, not_or, not_not] at hok
    obtain ⟨-, -, ⟨ho, -⟩, -⟩ := hok
    exact ho
  refine ⟨fun pool hm => (checkSnapshotPool_chain (hp pool hm)).1, hps, hent, ?_, ?_, ?_⟩
  · intro e he
    obtain ⟨pool, hm, hpid⟩ := ho e he
    obtain ⟨ha, hid, hco, -⟩ :=
      (checkSnapshotPool_chain (hp pool hm)).2.1 e he hpid.symm
    exact ⟨ha, ha ▸ hid, hco⟩
  · intro e he
    obtain ⟨pool, hm, hpid⟩ := ho e he
    exact ⟨pool, hm, hpid, ((checkSnapshotPool_chain (hp pool hm)).2.1 e he hpid.symm).2.2.2⟩
  · intro poolId
    by_cases hpid : ∃ pool ∈ payload.snapshot.pools, pool.poolId = poolId
    · obtain ⟨pool, hm, rfl⟩ := hpid
      exact (checkSnapshotPool_chain (hp pool hm)).2.2
    · rw [filter_eq_nil_iff.2]
      · exact nodup_nil
      · intro e he hma
        obtain ⟨pool, hm, hown⟩ := ho e he
        exact hpid ⟨pool, hm, hown.trans (of_decide_eq_true hma)⟩

lemma cohort_captures (hdb : db.Sound P) {writer : Text} {captured : Cohort}
    (h : cohort P db seat.account seat.market writer = .ok captured)
    (commitments : List SignedEvent) : WriterSnapshot.Captures P seat db
      { pools := captured.pools, entries := captured.entries, commitments } := by
  simp only [cohort, run_ok] at h
  obtain ⟨pools, hf, -, -, rfl⟩ := h
  have hmem : ∀ pool, pool ∈ pools ↔ pool ∈ db.pools.rows ∧ pool.For P seat := by
    intro pool
    rw [mem_filterResult hf, mem_filter, decide_eq_true_eq]
    constructor
    · rintro ⟨⟨hr, ha⟩, hk⟩
      simp only [inCohort, run_ok, decide_eq_true_eq] at hk
      obtain ⟨grant, hasrt, -, hm, -⟩ := hk
      exact ⟨hr, ha, grant, (assertPool_ok.1 hasrt).1, hm⟩
    · rintro ⟨hr, ha, grant, hgr, hm⟩
      refine ⟨⟨hr, ha⟩, ?_⟩
      obtain ⟨keep, hk⟩ := filterResult_accepts hf
        (mem_filter.2 ⟨hr, by simpa using ha⟩)
      rw [hk]
      simp only [inCohort, run_ok] at hk
      obtain ⟨grant', hasrt, ho, rfl⟩ := hk
      obtain rfl : grant = grant' :=
        Except.ok.inj (hgr.symm.trans (assertPool_ok.1 hasrt).1)
      -- another writer's pool would have to be recov history
      have hwr : pool.writerId = writer := by
        by_contra hne
        exact ho ⟨hm, hne, .inr (hdb.own pool hr).1⟩
      rw [decide_eq_true ⟨hm, hwr⟩]
  refine ⟨fun pool => ?_, fun poolId pool hpo => ?_⟩
  · rw [← hmem]
    exact mem_mergeSort
  · obtain ⟨hr, hfor, hp⟩ := hdb.entrusts_iff.1 hpo
    refine ((mergeSort_perm _ _).filter _).trans ?_
    rw [filter_filter, filter_filter]
    refine Perm.of_eq (filter_congr fun e _ => ?_)
    rw [Bool.eq_iff_iff]
    simp only [Bool.and_eq_true, decide_eq_true_eq]
    constructor
    · rintro ⟨⟨hp', -⟩, ha⟩
      exact ⟨ha, hp'⟩
    · rintro ⟨ha, hp'⟩
      exact ⟨⟨hp', pool, (hmem pool).2 ⟨hr, hfor⟩, hp.trans hp'.symm⟩, ha⟩

def Journal.withSnapshot (db : Journal) (snapshot : WriterSnapshot) : Journal :=
  { db with
    pools := db.pools.putAll snapshot.pools
    entries := db.entries.putAll snapshot.entries }

structure WriterSnapshot.Apart (snapshot : WriterSnapshot) (db : Journal) : Prop where
  pools : ∀ p ∈ snapshot.pools, ∀ q ∈ db.pools.rows, p.grantRumor.id = q.grantRumor.id →
    p.grantRumor = q.grantRumor
  entries : ∀ e ∈ snapshot.entries, ∀ f ∈ db.entries.rows, e.rumor.id = f.rumor.id →
    e.rumor = f.rumor

variable {snapshot : WriterSnapshot}

lemma WriterSnapshot.Valid.pool_for (h : snapshot.Valid P seat.account seat.market)
    (hp : pool ∈ snapshot.pools) : pool.For P seat := by
  obtain ⟨ha, -, grant, hgr, hm, -⟩ := h.own pool hp
  exact ⟨ha, grant, hgr, hm⟩

lemma entryKey_inj {a a' x x' : Text} (ha : IsHex64 a) (ha' : IsHex64 a')
    (h : entryKey a x = entryKey a' x') : a = a' ∧ x = x' := by
  have hl : a.length = a'.length := by
    rw [ha.1, ha'.1]
  unfold entryKey at h
  rw [append_assoc, append_assoc] at h
  obtain ⟨rfl, hr⟩ := append_inj h hl
  exact ⟨rfl, (append_right_inj _).1 hr⟩

section

variable (h : snapshot.Valid P seat.account seat.market)
include h

lemma WriterSnapshot.Valid.pools_new (hdb : db.Sound P)
    (hnone : ∀ pool ∈ db.pools.rows, ¬ pool.For P seat) (hapart : snapshot.Apart db)
    (hp : pool ∈ snapshot.pools) : db.pools.get pool.id = none := by
  obtain ⟨hacc, -, grant, hgr, hmkt, ho⟩ := h.own pool hp
  cases hg : db.pools.get pool.id with
  | none => rfl
  | some q =>
    exfalso
    have hr := mem_of_get hg
    obtain ⟨-, grant', hgr', ho'⟩ := hdb.own q hr
    rw [ho.carries.2.1] at hg
    obtain ⟨hqac, hq⟩ := hdb.of_get hg
    refine hnone q hr ?_
    refine (h.pool_for hp).congr hqac (hapart.pools pool hp q hr ?_).symm
    rw [← ho.carries.1, ← ho'.carries.1, hq]

lemma WriterSnapshot.Valid.entries_new (hdb : db.Sound P)
    (hnone : ∀ pool ∈ db.pools.rows, ¬ pool.For P seat) (hapart : snapshot.Apart db) {e : Entry}
    (he : e ∈ snapshot.entries) : db.entries.get e.id = none := by
  obtain ⟨hacc, hid, accepted, hc, ha⟩ := h.recorded e he
  obtain ⟨pool, hpo, hpid, -⟩ := h.owned e he
  obtain ⟨hp, -, grant, -, -, ho⟩ := h.own pool hpo
  cases hg : db.entries.get e.id with
  | none => rfl
  | some f =>
    have hr := mem_of_get hg
    obtain ⟨hf, accepted', hc', ha'⟩ := hdb.recorded f hr
    obtain ⟨q, hq, hqac, hqp, -⟩ := hdb.owned f hr
    obtain ⟨-, grant', -, ho'⟩ := hdb.own q hq
    have hk : entryKey e.accountPubkey e.rumor.id = entryKey f.accountPubkey f.rumor.id := by
      rw [← hid, ← hf, key_of_get hg]
    obtain ⟨heq, hrum⟩ := entryKey_inj
      (hacc.trans hp.symm ▸ ho.accountHex) (hqac ▸ ho'.accountHex) hk
    -- the same decision, so the same pool, which the journal does not have
    rw [hapart.entries e he f hr hrum, hc'] at hc
    obtain rfl := StockPayload.accepted.inj hc
    have hn := h.pools_new hdb hnone hapart hpo
    rw [ho.carries.2.1, hp, hpid, ← ha, ha', ← hqp, ← hacc, heq, ← hqac, hdb.key hq] at hn
    cases hn

lemma WriterSnapshot.Valid.ids_nodup : (snapshot.pools.map Pool.id).Nodup := by
  have hps := h.pools
  rw [Nodup, pairwise_map] at hps ⊢
  refine hps.imp_of_mem fun {p q} hp hq hne hid => hne ?_
  obtain ⟨-, -, grant, -, -, ho⟩ := h.own p hp
  obtain ⟨-, -, grant', -, -, ho'⟩ := h.own q hq
  rw [ho.carries.2.1, ho'.carries.2.1] at hid
  exact (key_inj ho'.accountHex ho'.poolHex hid).2

section

variable (hdb : db.Sound P)
include hdb

section

variable (hnone : ∀ pool ∈ db.pools.rows, ¬ pool.For P seat)
include hnone

section

variable (hapart : snapshot.Apart db)
include hapart

lemma WriterSnapshot.Valid.entriesOf_restored (account poolId : Text) :
    (db.withSnapshot snapshot).entriesOf account poolId = db.entriesOf account poolId ++
      if account = seat.account then snapshot.entries.filter fun e => e.poolId = poolId else [] := by
  have hr : (db.entries.putAll snapshot.entries).rows = db.entries.rows ++ snapshot.entries :=
    rows_putAll h.entries fun e he => h.entries_new hdb hnone hapart he
  unfold Journal.entriesOf Journal.withSnapshot
  rw [hr, filter_append]
  congr 1
  split_ifs with ha
  · apply filter_congr
    intro e he
    rw [(h.recorded e he).1, ha]
    simp
  · apply filter_eq_nil_iff.2
    intro e he
    rw [(h.recorded e he).1]
    simp [Ne.symm ha]

lemma WriterSnapshot.Valid.sound_restored : (db.withSnapshot snapshot).Sound P := by
  have hps : (db.pools.putAll snapshot.pools).rows = db.pools.rows ++ snapshot.pools :=
    rows_putAll h.ids_nodup fun p hp => h.pools_new hdb hnone hapart hp
  have hent : (db.entries.putAll snapshot.entries).rows = db.entries.rows ++ snapshot.entries :=
    rows_putAll h.entries fun e he => h.entries_new hdb hnone hapart he
  refine ⟨fun pool hpo => ?_, fun e he => ?_, fun e he => ?_, fun account poolId => ?_⟩
  · rcases mem_append.1 (hps ▸ hpo) with hpo | hpo
    · exact hdb.own pool hpo
    · obtain ⟨-, hrec, grant, hgr, -, ho⟩ := h.own pool hpo
      exact ⟨hrec, grant, hgr, ho⟩
  · rcases mem_append.1 (hent ▸ he) with he | he
    · exact hdb.recorded e he
    · exact (h.recorded e he).2
  · rcases mem_append.1 (hent ▸ he) with he | he
    · obtain ⟨pool, hpo, hr⟩ := hdb.owned e he
      exact ⟨pool, hps.symm ▸ mem_append_left _ hpo, hr⟩
    · obtain ⟨pool, hpo, hpid, hle⟩ := h.owned e he
      refine ⟨pool, hps.symm ▸ mem_append_right _ hpo, ?_, hpid, hle⟩
      rw [(h.own pool hpo).1, (h.recorded e he).1]
  · rw [h.entriesOf_restored hdb hnone hapart]
    split_ifs with ha
    · by_cases hpo : ∃ pool ∈ snapshot.pools, pool.poolId = poolId
      · obtain ⟨pool, hpo, rfl⟩ := hpo
        obtain ⟨hpoolAccount, -, grant, -, -, ho⟩ := h.own pool hpo
        have hn := h.pools_new hdb hnone hapart hpo
        rw [ho.carries.2.1, hpoolAccount, ← ha] at hn
        rw [hdb.entriesOf_eq_nil hn, nil_append]
        exact h.distinct pool.poolId
      · rw [filter_eq_nil_iff.2, append_nil]
        · exact hdb.distinct account poolId
        · intro e he hm
          obtain ⟨pool, hmem, hpid, -⟩ := h.owned e he
          exact hpo ⟨pool, hmem, hpid.trans (of_decide_eq_true hm)⟩
    · rw [append_nil]
      exact hdb.distinct account poolId

lemma WriterSnapshot.Valid.get_restored {key : Text} :
    (db.withSnapshot snapshot).pools.get key = some pool ↔
      (pool ∈ db.pools.rows ∨ pool ∈ snapshot.pools) ∧ pool.id = key := by
  have hps : (db.pools.putAll snapshot.pools).rows = db.pools.rows ++ snapshot.pools :=
    rows_putAll h.ids_nodup fun p hp => h.pools_new hdb hnone hapart hp
  rw [get_eq_some]
  change pool ∈ (db.pools.putAll snapshot.pools).rows ∧ _ ↔ _
  rw [hps, mem_append]

lemma WriterSnapshot.Valid.extends_restored {source : Journal} (hs : source.Sound P)
    (hc : snapshot.Captures P seat source) : Extends P seat source (db.withSnapshot snapshot) := by
  have hent : ∀ poolId pool, source.Entrusts P seat poolId pool →
      ((db.withSnapshot snapshot).entriesOf seat.account poolId).Perm
        (source.entriesOf seat.account poolId) := by
    intro poolId pool hp
    obtain ⟨hr, hf, rfl⟩ := hs.entrusts_iff.1 hp
    have hm := (hc.pools pool).2 ⟨hr, hf⟩
    obtain ⟨ha, -, grant, -, -, ho⟩ := h.own pool hm
    have hn := h.pools_new hdb hnone hapart hm
    rw [ho.carries.2.1, ha] at hn
    rw [h.entriesOf_restored hdb hnone hapart, if_pos rfl, hdb.entriesOf_eq_nil hn, nil_append]
    exact hc.entries pool.poolId pool hp
  refine ⟨fun poolId pool hp => ⟨pool, ⟨?_, hp.2⟩, .refl pool⟩, ?_, ?_⟩
  · obtain ⟨hr, hf, -⟩ := hs.entrusts_iff.1 hp
    exact (h.get_restored hdb hnone hapart).2
      ⟨.inr ((hc.pools pool).2 ⟨hr, hf⟩), key_of_get hp.1⟩
  · intro poolId pool hp e he
    exact ⟨e, (hent poolId pool hp).mem_iff.2 he, .refl e⟩
  · intro poolId pool hp
    rw [hs.history_congr ((hent poolId pool hp).symm.map _)]

end

end

end

end

lemma WriterSnapshot.Valid.steady_restored {other : Seat P.toPlatform}
    (h : snapshot.Valid P other.account other.market) (hdb : db.Sound P)
    (hnone : ∀ pool ∈ db.pools.rows, ¬ pool.For P other) (hapart : snapshot.Apart db)
    (hne : ¬ (other.account = seat.account ∧ other.market = seat.market)) :
    Steady P seat db (db.withSnapshot snapshot) := by
  have heq : ∀ poolId pool, db.Entrusts P seat poolId pool ↔
      (db.withSnapshot snapshot).Entrusts P seat poolId pool := by
    intro poolId pool
    unfold Journal.Entrusts
    rw [h.get_restored hdb hnone hapart, get_eq_some]
    constructor
    · rintro ⟨⟨hr, hk⟩, hf⟩
      exact ⟨⟨.inl hr, hk⟩, hf⟩
    · rintro ⟨⟨hr | hm, hk⟩, hf⟩
      · exact ⟨⟨hr, hk⟩, hf⟩
      · obtain ⟨ha, grant, hgr, hmkt⟩ := h.pool_for hm
        obtain ⟨ha', grant', hgr', hmkt'⟩ := hf
        obtain rfl : grant = grant' := Except.ok.inj (hgr.symm.trans hgr')
        exact absurd ⟨ha.symm.trans ha', hmkt.symm.trans hmkt'⟩ hne
  have hent : ∀ poolId pool, db.Entrusts P seat poolId pool →
      (db.withSnapshot snapshot).entriesOf seat.account poolId =
        db.entriesOf seat.account poolId := by
    intro poolId pool hp
    rw [h.entriesOf_restored hdb hnone hapart]
    split_ifs with ha
    · rw [filter_eq_nil_iff.2, append_nil]
      intro e he hma
      obtain ⟨p, hm, hpid, -⟩ := h.owned e he
      obtain ⟨hpac, -, grant, -, -, ho⟩ := h.own p hm
      have hn := h.pools_new hdb hnone hapart hm
      rw [ho.carries.2.1, hpac, hpid, of_decide_eq_true hma, ← ha, hp.1] at hn
      cases hn
    · rw [append_nil]
  exact steady_of_same heq hent

end

section
variable {P : WriterPlatform} {db db' : Journal}

lemma registerOrganizerStockWriterDevice_writes {input : RegisterInput}
    (h : registerOrganizerStockWriterDevice P db input = .ok db') : db' = db ∨
      IsMarketOf P.toPlatform input.marketCoordinate input.authenticatedPubkey ∧
      db.writers.get (organizerStockWriterKey input.authenticatedPubkey input.marketCoordinate) =
        none ∧
      ∃ row : Writer, row.id =
          organizerStockWriterKey input.authenticatedPubkey input.marketCoordinate ∧
        row.state = .active ∧ row.outgoing = none ∧
        db' = { db with writers := db.writers.put row } := by
  simp only [registerOrganizerStockWriterDevice, run_ok, not_or, not_not] at h
  obtain ⟨-, ⟨-, -, hm⟩, h⟩ := h
  cases hg : db.writers.get
      (organizerStockWriterKey input.authenticatedPubkey input.marketCoordinate) with
  | some prior =>
    simp only [hg, run_ok] at h
    exact .inl h.2.symm
  | none =>
    simp only [hg, run_ok] at h
    obtain ⟨current, -, -, rfl⟩ := h
    exact .inr ⟨hm, rfl, _, rfl, rfl, rfl, rfl⟩

lemma prepareOrganizerStockWriterTarget_writes {input : PrepareTargetInput}
    (hdb : db.Sound P.toStockPlatform)
    (h : prepareOrganizerStockWriterTarget P db input = .ok db') : db' = db ∨
      IsMarketOf P.toPlatform input.marketCoordinate input.authenticatedPubkey ∧
      db.writers.get (organizerStockWriterKey input.authenticatedPubkey input.marketCoordinate) =
        none ∧
      (∀ pool ∈ db.pools.rows, pool.accountPubkey = input.authenticatedPubkey →
        ∀ grant, readGrant P.toStockPlatform pool.grantRumor = .ok grant →
          grant.marketCoordinate ≠ input.marketCoordinate) ∧
      ∃ row : Writer, row.id =
          organizerStockWriterKey input.authenticatedPubkey input.marketCoordinate ∧
        row.state = .target ∧ row.outgoing = none ∧
        db' = { db with writers := db.writers.put row } := by
  simp only [prepareOrganizerStockWriterTarget, run_ok, not_or, not_not] at h
  obtain ⟨-, ⟨-, hm⟩, h⟩ := h
  cases hg : db.writers.get
      (organizerStockWriterKey input.authenticatedPubkey input.marketCoordinate) with
  | some prior =>
    simp only [hg, run_ok] at h
    exact .inl h.2.symm
  | none =>
    simp only [hg, run_ok] at h
    obtain ⟨units, hc, rfl⟩ := h
    refine .inr ⟨hm, rfl, ?_, _, rfl, rfl, rfl, rfl⟩
    intro pool hp hacc grant hgr heq
    obtain ⟨u, -, hu⟩ := mapResult_accepts hc
      (mem_filter.2 ⟨hp, by simpa using hacc⟩)
    simp only [bind_ok, reject_ok] at hu
    obtain ⟨grant', ha, hf⟩ := hu
    obtain rfl : grant = grant' := Except.ok.inj (hgr.symm.trans (assertPool_ok.1 ha).1)
    exact hf ⟨heq, (hdb.own pool hp).1⟩

variable {payload : OrganizerStockWriterHandoverPayload} {rumor : HandoverRumor}

lemma parseOrganizerStockWriterHandoverRumor_ok
    (h : parseOrganizerStockWriterHandoverRumor P rumor = .ok payload) : payload = rumor.content ∧
      IsMarketOf P.toPlatform payload.marketCoordinate payload.organizerPubkey ∧
      payload.snapshot.Valid P.toStockPlatform payload.organizerPubkey payload.marketCoordinate := by
  simp only [parseOrganizerStockWriterHandoverRumor, run_ok, not_or, not_not] at h
  obtain ⟨-, ⟨-, hm, -⟩, u, hv, rfl⟩ := h
  exact ⟨rfl, hm, validateSnapshot_valid hv⟩

lemma buildHandover_ok (h : buildHandover P payload = .ok rumor) : rumor.content = payload ∧
      IsMarketOf P.toPlatform payload.marketCoordinate payload.organizerPubkey ∧
      payload.snapshot.Valid P.toStockPlatform payload.organizerPubkey payload.marketCoordinate := by
  simp only [buildHandover, run_ok] at h
  obtain ⟨parsed, hp, rfl⟩ := h
  obtain ⟨rfl, hr⟩ := parseOrganizerStockWriterHandoverRumor_ok hp
  exact ⟨rfl, hr⟩

lemma beginOrganizerStockWriterHandover_writes {input : BeginInput}
    (h : beginOrganizerStockWriterHandover P db input = .ok db') :
    db' = db ∨ ∃ prior captured rumor commitments,
      db.writers.get (organizerStockWriterKey input.authenticatedPubkey input.marketCoordinate) =
        some prior ∧ prior.state = .active ∧
      cohort P.toStockPlatform db input.authenticatedPubkey input.marketCoordinate input.writerId =
        .ok captured ∧
      rumor.content = input.payload prior captured commitments ∧
      IsMarketOf P.toPlatform input.marketCoordinate input.authenticatedPubkey ∧
      rumor.content.snapshot.Valid P.toStockPlatform input.authenticatedPubkey
        input.marketCoordinate ∧
      db' = { db with writers := db.writers.put (prior.retire rumor) } := by
  simp only [beginOrganizerStockWriterHandover, run_ok] at h
  obtain ⟨-, h⟩ := h
  cases hg : db.writers.get
      (organizerStockWriterKey input.authenticatedPubkey input.marketCoordinate) with
  | none =>
    rw [hg] at h
    cases h
  | some prior =>
    simp only [hg] at h
    split at h
    · simp only [run_ok] at h
      obtain ⟨payload, -, -, rfl⟩ := h
      exact .inl rfl
    · simp only [run_ok, not_or, not_not] at h
      obtain ⟨⟨ha, -, -⟩, captured, hcoh, commitments, -, rumor, hb, -, u, -, rfl⟩ := h
      obtain ⟨hc, hm, hv⟩ := buildHandover_ok hb
      refine .inr ⟨prior, captured, rumor, commitments, rfl, ha, hcoh, hc, hm, ?_, rfl⟩
      rw [hc]
      exact hv

lemma restoreOrganizerStockWriterHandover_writes {input : RestoreInput}
    (h : restoreOrganizerStockWriterHandover P db input = .ok db') :
    ∃ rumor, P.openHandover input.envelope input.envelopes = some rumor ∧
      rumor.content.organizerPubkey = input.authenticatedPubkey ∧
      rumor.content.targetDeviceId = input.expectedTargetDeviceId ∧
      IsMarketOf P.toPlatform rumor.content.marketCoordinate rumor.content.organizerPubkey ∧
      ∃ writer, db.writers.get (organizerStockWriterKey rumor.content.organizerPubkey
          rumor.content.marketCoordinate) = some writer ∧
        (writer.state = .active ∧ db' = db ∨
          writer.state = .target ∧
          db' = { db.withSnapshot rumor.content.snapshot with
            writers := db.writers.put
              (rumor.activated input.authenticatedPubkey input.envelope) }) := by
  simp only [restoreOrganizerStockWriterHandover, run_ok] at h
  obtain ⟨-, h⟩ := h
  cases ho : P.openHandover input.envelope input.envelopes with
  | none =>
    rw [ho] at h
    cases h
  | some rumor =>
    simp only [ho, run_ok] at h
    obtain ⟨payload, hp, ha, ht, -, -, h⟩ := h
    obtain ⟨rfl, hm, -⟩ := parseOrganizerStockWriterHandoverRumor_ok hp
    rw [not_or, not_not] at ht
    rw [not_not] at ha
    refine ⟨rumor, rfl, ha, ht.1, hm, ?_⟩
    rw [ha]
    cases hg : db.writers.get (organizerStockWriterKey input.authenticatedPubkey
        rumor.content.marketCoordinate) with
    | none =>
      rw [hg] at h
      cases h
    | some writer =>
      simp only [hg, run_ok] at h
      obtain ⟨hst, known, -, h⟩ := h
      refine ⟨writer, rfl, ?_⟩
      split_ifs at h with hact
      · simp only [run_ok] at h
        obtain ⟨u, -, rfl⟩ := h
        exact .inl ⟨hact, rfl⟩
      · simp only [run_ok] at h
        obtain ⟨u, -, rfl⟩ := h
        refine .inr ⟨?_, rfl⟩
        by_contra hne
        exact hst (.inr (.inl ⟨hne, fun hb => hact hb.1⟩))

end

end Conduit.Stock
