import Conduit.Sequenced
import Conduit.Stock.JournalOrder
import Conduit.Stock.WriterHandover

namespace Conduit.Stock

open Js Throwing Sequenced List Table Journal Keyed

/-- The organizer's market that one writer serves at a time. -/
structure Seat (P : Platform) where
  (account market : Text)
  isMarket : IsMarketOf P market account

variable (P : StockPlatform)

variable (seat : Seat P.toPlatform)

def Pool.For (pool : Pool) : Prop :=
  pool.accountPubkey = seat.account ∧
    ∃ grant, readGrant P pool.grantRumor = .ok grant ∧ grant.marketCoordinate = seat.market

variable (db : Journal)

def Journal.Entrusts (poolId : Text) (pool : Pool) : Prop :=
  db.pools.get (poolKey seat.account poolId) = some pool ∧ pool.For P seat

def Journal.numbered (account poolId : Text) : List (Int × Rumor) :=
  (db.entriesOf account poolId).map fun e => (e.sequence, e.rumor)

def Journal.history (account poolId : Text) : List Rumor :=
  inOrder (db.numbered account poolId)

structure Entry.KeptBy (entry later : Entry) : Prop where
  id : later.id = entry.id
  rumor : later.rumor = entry.rumor
  evidence : later.evidence = entry.evidence
  handout : ∀ handout ∈ entry.handout, later.handout.map Handout.rumor = some handout.rumor

structure Pool.KeptBy (pool later : Pool) : Prop where
  grantRumor : later.grantRumor = pool.grantRumor
  closing : ∀ closing ∈ pool.closingRumor, later.closingRumor = some closing

/-- Every pool, close, entry and handout of the market is kept, lists go on. -/
structure Extends (P : StockPlatform) (seat : Seat P.toPlatform) (db db' : Journal) : Prop where
  pools : ∀ poolId pool, db.Entrusts P seat poolId pool →
    ∃ later, db'.Entrusts P seat poolId later ∧ pool.KeptBy later
  entries : ∀ poolId pool, db.Entrusts P seat poolId pool →
    ∀ e ∈ db.entriesOf seat.account poolId, ∃ later ∈ db'.entriesOf seat.account poolId,
      e.KeptBy later
  history : ∀ poolId pool, db.Entrusts P seat poolId pool →
    db.history seat.account poolId <+: db'.history seat.account poolId

def Steady (db db' : Journal) : Prop :=
  Extends P seat db db' ∧ Extends P seat db' db

structure Journal.Sound (P : StockPlatform) (db : Journal) : Prop where
  own : ∀ pool ∈ db.pools.rows, pool.readOnlyRecovery = false ∧
    ∃ grant, readGrant P pool.grantRumor = .ok grant ∧ pool.Own grant
  recorded : ∀ e ∈ db.entries.rows, e.id = entryKey e.accountPubkey e.rumor.id ∧
    ∃ accepted, e.rumor.content = .accepted accepted ∧ accepted.poolId = e.poolId
  owned : ∀ e ∈ db.entries.rows, ∃ pool ∈ db.pools.rows, pool.accountPubkey = e.accountPubkey ∧
    pool.poolId = e.poolId ∧ e.sequence ≤ pool.acceptedSequence
  distinct : ∀ account poolId, ((db.entriesOf account poolId).map Entry.sequence).Nodup

section
variable {P : StockPlatform} {seat : Seat P.toPlatform} {db db' db'' : Journal} {poolId : Text}
  {pool new : Pool}

lemma Entry.KeptBy.refl (e : Entry) : e.KeptBy e :=
  ⟨rfl, rfl, rfl, fun handout h => by rw [h]; rfl⟩

variable {rumor : Rumor} {q : Pool} {e : Entry}

lemma Entry.KeptBy.trans {f g : Entry} (h : e.KeptBy f) (h' : f.KeptBy g) : e.KeptBy g := by
  refine ⟨h'.id.trans h.id, h'.rumor.trans h.rumor, h'.evidence.trans h.evidence, ?_⟩
  intro handout hh
  obtain ⟨later, hl, hr⟩ := Option.map_eq_some_iff.1 (h.handout handout hh)
  rw [h'.handout later hl, hr]

lemma Pool.KeptBy.refl (pool : Pool) : pool.KeptBy pool := ⟨rfl, fun _ h => h⟩

lemma Pool.KeptBy.trans {p r : Pool} (h : p.KeptBy q) (h' : q.KeptBy r) : p.KeptBy r :=
  ⟨h'.grantRumor.trans h.grantRumor, fun closing hc => h'.closing closing (h.closing closing hc)⟩

lemma Extends.refl (P : StockPlatform) (seat : Seat P.toPlatform) (db : Journal) :
    Extends P seat db db :=
  ⟨fun _ pool h => ⟨pool, h, .refl pool⟩, fun _ _ _ e he => ⟨e, he, .refl e⟩,
    fun _ _ _ => prefix_refl _⟩

lemma Extends.trans (h : Extends P seat db db') (h' : Extends P seat db' db'') :
    Extends P seat db db'' := by
  refine ⟨?_, ?_, ?_⟩
  · intro poolId pool hp
    obtain ⟨later, hl, hk⟩ := h.pools poolId pool hp
    obtain ⟨latest, hla, hk'⟩ := h'.pools poolId later hl
    exact ⟨latest, hla, hk.trans hk'⟩
  · intro poolId pool hp e he
    obtain ⟨later, hl, -⟩ := h.pools poolId pool hp
    obtain ⟨f, hf, hk⟩ := h.entries poolId pool hp e he
    obtain ⟨g, hg, hk'⟩ := h'.entries poolId later hl f hf
    exact ⟨g, hg, hk.trans hk'⟩
  · intro poolId pool hp
    obtain ⟨later, hl, -⟩ := h.pools poolId pool hp
    exact (h.history poolId pool hp).trans (h'.history poolId later hl)

lemma Steady.refl (P : StockPlatform) (seat : Seat P.toPlatform) (db : Journal) :
    Steady P seat db db :=
  ⟨.refl P seat db, .refl P seat db⟩

lemma Steady.trans (h : Steady P seat db db') (h' : Steady P seat db' db'') :
    Steady P seat db db'' :=
  ⟨h.1.trans h'.1, h'.2.trans h.2⟩

lemma Steady.symm (h : Steady P seat db db') : Steady P seat db' db := ⟨h.2, h.1⟩

lemma Journal.Sound.key (h : db.Sound P) (hp : pool ∈ db.pools.rows) :
    db.pools.get (poolKey pool.accountPubkey pool.poolId) = some pool := by
  obtain ⟨-, grant, -, ho⟩ := h.own pool hp
  rw [← ho.carries.2.1]
  exact get_of_mem hp

variable {grant : StockGrant} {account : Text}

section

variable (h : db.Sound P)
include h

lemma Journal.Sound.of_get (hg : db.pools.get (poolKey account poolId) = some pool) :
    pool.accountPubkey = account ∧ pool.poolId = poolId := by
  obtain ⟨-, grant, -, ho⟩ := h.own pool (mem_of_get hg)
  obtain ⟨ha, hp⟩ := key_inj ho.accountHex ho.poolHex
    ((key_of_get hg).symm.trans ho.carries.2.1)
  exact ⟨ha.symm, hp.symm⟩

lemma Journal.Sound.eq_of_ids {p : Pool} (hp : p ∈ db.pools.rows) (hq : q ∈ db.pools.rows)
    (ha : p.accountPubkey = q.accountPubkey) (hpid : p.poolId = q.poolId) : p = q := by
  have hg := h.key hp
  rw [ha, hpid, h.key hq] at hg
  exact (Option.some.inj hg).symm

lemma Journal.Sound.entrusts_iff : db.Entrusts P seat poolId pool ↔
      pool ∈ db.pools.rows ∧ pool.For P seat ∧ pool.poolId = poolId := by
  constructor
  · intro hp
    exact ⟨mem_of_get hp.1, hp.2, (h.of_get hp.1).2⟩
  · rintro ⟨hr, hf, rfl⟩
    refine ⟨?_, hf⟩
    rw [← hf.1]
    exact h.key hr

lemma Journal.Sound.entriesOf_eq_nil (hg : db.pools.get (poolKey account poolId) = none) :
    db.entriesOf account poolId = [] := by
  apply eq_nil_iff_forall_not_mem.2
  intro e he
  obtain ⟨hr, rfl, rfl⟩ := mem_entriesOf.1 he
  obtain ⟨pool, hp, ha, hpid, -⟩ := h.owned e hr
  rw [← ha, ← hpid, h.key hp] at hg
  cases hg

lemma Journal.Sound.numbered_nodup (account poolId : Text) :
    ((db.numbered account poolId).map Prod.fst).Nodup := by
  have hnd := h.distinct account poolId
  unfold numbered
  rw [map_map]
  exact hnd

lemma Journal.Sound.history_congr
    (hpm : (db.numbered account poolId).Perm (db'.numbered account poolId)) :
    db.history account poolId = db'.history account poolId :=
  inOrder_congr hpm (h.numbered_nodup account poolId)

end

lemma Pool.For.congr (h : pool.For P seat) (ha : new.accountPubkey = pool.accountPubkey)
    (hgr : new.grantRumor = pool.grantRumor) : new.For P seat := by
  unfold Pool.For
  rw [ha, hgr]
  exact h

lemma entrusts_put (hps : db'.pools = db.pools.put new) (hp : pool ∈ db.pools.rows)
    (hid : new.id = pool.id) (ha : new.accountPubkey = pool.accountPubkey)
    (hgr : new.grantRumor = pool.grantRumor) (q : Pool) :
    (db.Entrusts P seat poolId q → ∃ later, db'.Entrusts P seat poolId later ∧
      (later = q ∨ q = pool ∧ later = new)) ∧
    (db'.Entrusts P seat poolId q → ∃ earlier, db.Entrusts P seat poolId earlier ∧
      (q = earlier ∨ earlier = pool ∧ q = new)) := by
  by_cases hk : poolKey seat.account poolId = pool.id
  · have hn : db'.pools.get (poolKey seat.account poolId) = some new := by
      rw [hps, hk, ← hid]
      exact get_put_self _ _
    have hold : db.pools.get (poolKey seat.account poolId) = some pool := by
      rw [hk]
      exact get_of_mem hp
    constructor
    · rintro ⟨hg, hf⟩
      obtain rfl : pool = q := Option.some.inj (hold.symm.trans hg)
      exact ⟨new, ⟨hn, hf.congr ha hgr⟩, .inr ⟨rfl, rfl⟩⟩
    · rintro ⟨hg, hf⟩
      obtain rfl : new = q := Option.some.inj (hn.symm.trans hg)
      exact ⟨pool, ⟨hold, hf.congr ha.symm hgr.symm⟩, .inr ⟨rfl, rfl⟩⟩
  · have heq : db'.pools.get (poolKey seat.account poolId) =
        db.pools.get (poolKey seat.account poolId) := by
      rw [hps]
      exact get_put_of_ne (hid ▸ hk)
    constructor
    · exact fun h => ⟨q, ⟨heq.trans h.1, h.2⟩, .inl rfl⟩
    · exact fun h => ⟨q, ⟨heq.symm.trans h.1, h.2⟩, .inl rfl⟩

lemma pools_kept_put (hps : db'.pools = db.pools.put new) (hp : pool ∈ db.pools.rows)
    (hid : new.id = pool.id) (ha : new.accountPubkey = pool.accountPubkey)
    (hk : pool.KeptBy new) (hq : db.Entrusts P seat poolId q) :
    ∃ later, db'.Entrusts P seat poolId later ∧ q.KeptBy later := by
  obtain ⟨later, hl, rfl | ⟨rfl, rfl⟩⟩ :=
    (entrusts_put hps hp hid ha hk.grantRumor q).1 hq
  · exact ⟨later, hl, .refl later⟩
  · exact ⟨later, hl, hk⟩

lemma extends_of_entries (hent : db'.entries = db.entries)
    (hps : ∀ poolId pool, db.Entrusts P seat poolId pool →
      ∃ later, db'.Entrusts P seat poolId later ∧ pool.KeptBy later) : Extends P seat db db' := by
  have heq : ∀ poolId, db'.entriesOf seat.account poolId = db.entriesOf seat.account poolId := by
    intro poolId
    unfold entriesOf
    rw [hent]
  refine ⟨hps, fun poolId _ _ e he => ⟨e, heq poolId ▸ he, .refl e⟩, fun poolId _ _ => ?_⟩
  unfold history numbered
  rw [heq]

lemma steady_of_same (hps : ∀ poolId q, db.Entrusts P seat poolId q ↔ db'.Entrusts P seat poolId q)
    (hent : ∀ poolId q, db.Entrusts P seat poolId q →
      db'.entriesOf seat.account poolId = db.entriesOf seat.account poolId) :
    Steady P seat db db' := by
  have hh : ∀ poolId q, db.Entrusts P seat poolId q →
      db.history seat.account poolId = db'.history seat.account poolId := by
    intro poolId q hq
    unfold history numbered
    rw [hent poolId q hq]
  constructor
  · refine ⟨fun poolId q hq => ⟨q, (hps poolId q).1 hq, .refl q⟩, ?_, ?_⟩
    · intro poolId q hq e he
      exact ⟨e, hent poolId q hq ▸ he, .refl e⟩
    · intro poolId q hq
      rw [hh poolId q hq]
  · refine ⟨fun poolId q hq => ⟨q, (hps poolId q).2 hq, .refl q⟩, ?_, ?_⟩
    · intro poolId q hq e he
      exact ⟨e, hent poolId q ((hps poolId q).2 hq) ▸ he, .refl e⟩
    · intro poolId q hq
      rw [hh poolId q ((hps poolId q).2 hq)]

lemma steady_of_writers (hps : db'.pools = db.pools) (he : db'.entries = db.entries) :
    Steady P seat db db' := by
  refine steady_of_same (fun poolId q => ?_) fun poolId q _ => ?_
  · unfold Journal.Entrusts
    rw [hps]
  · unfold entriesOf
    rw [he]

lemma Journal.Sound.of_writers (h : db.Sound P) (hps : db'.pools = db.pools)
    (he : db'.entries = db.entries) : db'.Sound P := by
  have heq : ∀ account poolId, db'.entriesOf account poolId = db.entriesOf account poolId := by
    intro account poolId
    unfold entriesOf
    rw [he]
  refine ⟨hps ▸ h.own, he ▸ h.recorded, ?_, fun account poolId => ?_⟩
  · rw [he, hps]
    exact h.owned
  · rw [heq]
    exact h.distinct account poolId

lemma Journal.Sound.put (h : db.Sound P) (hps : db'.pools = db.pools.put new)
    (hent : db'.entries = db.entries) (hp : pool ∈ db.pools.rows)
    (hr : new.readOnlyRecovery = pool.readOnlyRecovery)
    (hgr : readGrant P new.grantRumor = .ok grant) (ho : new.Own grant)
    (ha : new.accountPubkey = pool.accountPubkey) (hpid : new.poolId = pool.poolId)
    (hs : pool.acceptedSequence ≤ new.acceptedSequence) : db'.Sound P := by
  have heq : ∀ account poolId, db'.entriesOf account poolId = db.entriesOf account poolId := by
    intro account poolId
    unfold entriesOf
    rw [hent]
  refine ⟨fun q hq => ?_, hent ▸ h.recorded, fun e he => ?_, fun account poolId => ?_⟩
  · rw [hps] at hq
    rcases mem_put.1 hq with rfl | ⟨hq, -⟩
    · exact ⟨hr.trans (h.own pool hp).1, grant, hgr, ho⟩
    · exact h.own q hq
  · rw [hent] at he
    obtain ⟨q, hq, hqac, hqp, hle⟩ := h.owned e he
    rw [hps]
    by_cases hid : q.id = new.id
    · have hn : new.id = pool.id := by
        obtain ⟨-, g, -, hpo⟩ := h.own pool hp
        rw [ho.carries.2.1, hpo.carries.2.1, ha, hpid]
      obtain rfl : q = pool := eq_of_key_eq db.pools.nodup hq hp (hid.trans hn)
      exact ⟨new, mem_put.2 (.inl rfl), ha.trans hqac, hpid.trans hqp, hle.trans hs⟩
    · exact ⟨q, mem_put.2 (.inr ⟨hq, hid⟩), hqac, hqp, hle⟩
  · rw [heq]
    exact h.distinct account poolId

lemma Journal.Sound.accept (h : db.Sound P) {input : AcceptanceInput} (hp : pool ∈ db.pools.rows)
    (ho : pool.Own grant) (hgr : readGrant P pool.grantRumor = .ok grant)
    (ha : input.authenticatedPubkey = pool.accountPubkey)
    (hr : createStockAuthorityRumor P (.accepted (input.payload pool)) (input.nowMs / 1000) =
      .ok rumor) (hkey : db.entries.get (input.entry pool rumor).id = none) :
    let db' : Journal := { db with
      entries := db.entries.put (input.entry pool rumor)
      pools := db.pools.put (pool.accepts input.quantity rumor) }
    (∀ seat, Extends P seat db db') ∧ db'.Sound P := by
  intro db'
  have hent : ∀ account poolId, db'.entriesOf account poolId = db.entriesOf account poolId ++
      if pool.accountPubkey = account ∧ pool.poolId = poolId then [input.entry pool rumor]
      else [] := by
    intro account poolId
    have hput := entriesOf_put account poolId hkey
      (db.pools.put (pool.accepts input.quantity rumor))
    rw [show (input.entry pool rumor).accountPubkey = pool.accountPubkey from ha] at hput
    exact hput
  -- the new entry is numbered after every other of its pool
  have hl : ∀ e ∈ db.entriesOf pool.accountPubkey pool.poolId,
      e.sequence < (input.entry pool rumor).sequence := by
    intro e he
    obtain ⟨hrow, heac, hep⟩ := mem_entriesOf.1 he
    obtain ⟨q, hq, hqac, hqp, hle⟩ := h.owned e hrow
    obtain rfl := h.eq_of_ids hq hp (hqac.trans heac) (hqp.trans hep)
    change e.sequence < q.acceptedSequence + 1
    omega
  have hk : pool.KeptBy (pool.accepts input.quantity rumor) := ⟨rfl, fun _ hc => hc⟩
  refine ⟨fun seat => ⟨?_, ?_, ?_⟩, ⟨?_, ?_, ?_, ?_⟩⟩
  · intro poolId q hq
    exact pools_kept_put (show db'.pools = db.pools.put (pool.accepts input.quantity rumor) from rfl)
      hp rfl rfl hk hq
  · intro poolId q _ e he
    refine ⟨e, ?_, .refl e⟩
    rw [hent]
    exact mem_append_left _ he
  · intro poolId q _
    by_cases ho : pool.accountPubkey = seat.account ∧ pool.poolId = poolId
    · obtain ⟨ha', rfl⟩ := ho
      unfold history numbered
      rw [hent, if_pos ⟨ha', rfl⟩, map_append, map_singleton, inOrder_concat]
      · exact prefix_append _ _
      · exact h.numbered_nodup seat.account pool.poolId
      · intro y hy
        obtain ⟨e, he, rfl⟩ := mem_map.1 hy
        exact hl e (ha' ▸ he)
    · unfold history numbered
      rw [hent, if_neg ho, append_nil]
  · intro q hq
    rcases mem_put.1 hq with rfl | ⟨hq, -⟩
    · exact ⟨(h.own pool hp).1, grant, hgr, ho.carries, ho.account, ho.accountHex,
        ho.poolHex⟩
    · exact h.own q hq
  · intro e he
    rcases mem_put.1 he with rfl | ⟨he, -⟩
    · exact ⟨rfl, input.payload pool, (createStockAuthorityRumor_content hr).1, rfl⟩
    · exact h.recorded e he
  · intro e he
    rcases mem_put.1 he with rfl | ⟨he, -⟩
    · exact ⟨_, mem_put.2 (.inl rfl), ha.symm, rfl, le_refl _⟩
    · obtain ⟨q, hq, hqac, hqp, hle⟩ := h.owned e he
      by_cases hid : q.id = pool.id
      · obtain rfl := eq_of_key_eq db.pools.nodup hq hp hid
        refine ⟨_, mem_put.2 (.inl rfl), hqac, hqp, ?_⟩
        change e.sequence ≤ q.acceptedSequence + 1
        omega
      · exact ⟨q, mem_put.2 (.inr ⟨hq, hid⟩), hqac, hqp, hle⟩
  · intro account poolId
    rw [hent, map_append, nodup_append]
    refine ⟨h.distinct account poolId, ?_, ?_⟩
    · split_ifs <;> simp
    · intro n hn m hm
      split_ifs at hm with hpa
      · obtain ⟨e, he, rfl⟩ := mem_map.1 hn
        obtain rfl : m = (input.entry pool rumor).sequence := by simpa using hm
        rw [← hpa.1, ← hpa.2] at he
        exact ne_of_lt (hl e he)
      · cases hm

lemma Journal.Sound.rebind (h : db.Sound P) (he : e ∈ db.entries.rows)
    (binding : Option (List PoolLine)) :
    (∀ seat, Steady P seat db (db.rebind e binding)) ∧ (db.rebind e binding).Sound P := by
  have hr : ∀ f ∈ (db.rebind e binding).entries.rows, ∃ f' ∈ db.entries.rows, ∃ b,
      f = { f' with orderPoolBinding := b } := by
    intro f hf
    rcases mem_put.1 (show f ∈ (db.entries.put _).rows from hf) with rfl | ⟨hf, -⟩
    · exact ⟨e, he, binding, rfl⟩
    · exact ⟨f, hf, f.orderPoolBinding, rfl⟩
  have hn : ∀ account poolId,
      ((db.rebind e binding).numbered account poolId).Perm (db.numbered account poolId) := by
    intro account poolId
    exact map_filter_put_perm (a := { e with orderPoolBinding := binding }) (b := e)
      (p := fun e => e.accountPubkey = account ∧ e.poolId = poolId)
      (f := fun e => (e.sequence, e.rumor)) (get_of_mem he) rfl rfl
  have hs : (db.rebind e binding).Sound P := by
    refine ⟨h.own, fun f hf => ?_, fun f hf => ?_, fun account poolId => ?_⟩
    · obtain ⟨f', hf', b, rfl⟩ := hr f hf
      exact h.recorded f' hf'
    · obtain ⟨f', hf', b, rfl⟩ := hr f hf
      exact h.owned f' hf'
    · have hpm := (hn account poolId).map Prod.fst
      unfold numbered at hpm
      rw [map_map, map_map] at hpm
      exact hpm.nodup_iff.2 (h.distinct account poolId)
  refine ⟨fun seat => ⟨⟨fun _ q hq => ⟨q, hq, .refl q⟩, ?_, ?_⟩,
    ⟨fun _ q hq => ⟨q, hq, .refl q⟩, ?_, ?_⟩⟩, hs⟩
  · intro poolId q _ f hf
    obtain ⟨hrow, hi⟩ := mem_entriesOf.1 hf
    by_cases hid : f.id = e.id
    · obtain rfl := eq_of_key_eq db.entries.nodup hrow he hid
      exact ⟨{ f with orderPoolBinding := binding },
        mem_entriesOf.2 ⟨mem_put.2 (.inl rfl), hi⟩, rfl, rfl, rfl, (Entry.KeptBy.refl f).handout⟩
    · exact ⟨f, mem_entriesOf.2 ⟨mem_put.2 (.inr ⟨hrow, hid⟩), hi⟩, .refl f⟩
  · intro poolId q _
    rw [h.history_congr (hn seat.account poolId).symm]
  · intro poolId q _ f hf
    obtain ⟨hrow, hi⟩ := mem_entriesOf.1 hf
    obtain ⟨f', hf', b, rfl⟩ := hr f hrow
    exact ⟨f', mem_entriesOf.2 ⟨hf', hi⟩, rfl, rfl, rfl, (Entry.KeptBy.refl f').handout⟩
  · intro poolId q _
    rw [h.history_congr (hn seat.account poolId).symm]

lemma Journal.Sound.install (h : db.Sound P) (hgr : readGrant P rumor = .ok grant)
    (hn : db.pools.get (poolKey grant.organizerPubkey rumor.id) = none) : let db' : Journal :=
      { db with pools := db.pools.put (newPool grant.organizerPubkey rumor grant .active) }
    (∀ seat, Extends P seat db db') ∧ db'.Sound P := by
  obtain ⟨-, ho, -, hid, -⟩ := readGrant_parties hgr
  refine ⟨fun seat => extends_of_entries rfl fun poolId q hq => ⟨q, ⟨?_, hq.2⟩, .refl q⟩,
    ⟨fun q hq => ?_, h.recorded, fun e he => ?_, h.distinct⟩⟩
  · refine (get_put_of_ne ?_).trans hq.1
    intro heq
    have hg := hq.1
    rw [heq] at hg
    exact absurd (hn.symm.trans hg) (by simp)
  · rcases mem_put.1 hq with rfl | ⟨hq, -⟩
    · exact ⟨rfl, grant, hgr, ⟨rfl, rfl, rfl, rfl, rfl, rfl, rfl, rfl⟩, rfl, ho, hid⟩
    · exact h.own q hq
  · obtain ⟨q, hq, hr⟩ := h.owned e he
    refine ⟨q, mem_put.2 (.inr ⟨hq, ?_⟩), hr⟩
    exact get_eq_none.1 hn q hq

lemma Journal.Sound.progress (hdb : db.Sound P) (hp : pool ∈ db.pools.rows) {new : Pool}
    (hk : pool.KeptBy new) (hid : new.id = pool.id)
    (hr : new.readOnlyRecovery = pool.readOnlyRecovery)
    (hgr : readGrant P new.grantRumor = .ok grant) (ho : new.Own grant)
    (ha : new.accountPubkey = pool.accountPubkey) (hpid : new.poolId = pool.poolId)
    (hs : pool.acceptedSequence ≤ new.acceptedSequence) :
    let db' : Journal := { db with pools := db.pools.put new }
    (∀ seat, Extends P seat db db') ∧ db'.Sound P :=
  ⟨fun _ => extends_of_entries rfl fun _ _ hq => pools_kept_put rfl hp hid ha hk hq,
    hdb.put rfl rfl hp hr hgr ho ha hpid hs⟩

lemma JournalMove.extends (h : JournalMove P db db') (hdb : db.Sound P) :
    (∀ seat, Extends P seat db db') ∧ db'.Sound P := by
  cases h with
  | accept hp ho hgr ha _ _ _ _ _ _ _ hr hkey =>
    exact hdb.accept hp ho hgr ha hr hkey
  | bind he binding =>
    obtain ⟨hs, hsnd⟩ := hdb.rebind he binding
    exact ⟨fun seat => (hs seat).1, hsnd⟩
  | @close pool grant rumor nowMs hp ho hgr hopen =>
    let new : Pool := { pool with state := .closing, closingRumor := some rumor }
    have hk : pool.KeptBy new := ⟨rfl, fun c hc => by rw [hopen] at hc; cases hc⟩
    exact hdb.progress hp hk rfl rfl hgr ⟨ho.carries, ho.account, ho.accountHex, ho.poolHex⟩
      rfl rfl (le_refl _)
  | @acknowledge pool hp hcls quantity sequence lastId =>
    obtain ⟨-, grant, hgr, ho⟩ := hdb.own pool hp
    let new : Pool := { pool with
      state := .closed
      importedQuantity := quantity
      importedSequence := sequence
      lastImportedId := lastId }
    have hk : pool.KeptBy new := ⟨rfl, fun _ hc => hc⟩
    exact hdb.progress hp hk rfl rfl hgr ⟨ho.carries, ho.account, ho.accountHex, ho.poolHex⟩
      rfl rfl (le_refl _)
  | install hgr hn => exact hdb.install hgr hn
  | register writers =>
    let db' : Journal := { db with writers := writers }
    have hps : db'.pools = db.pools := rfl
    exact ⟨fun _ => (steady_of_writers hps rfl).1, hdb.of_writers hps rfl⟩

lemma Moves.extends (h : Moves P db db') (hdb : db.Sound P) :
    (∀ seat, Extends P seat db db') ∧ db'.Sound P := by
  induction h with
  | refl => exact ⟨fun seat => .refl P seat db, hdb⟩
  | tail _ hm ih =>
    obtain ⟨hn, hs⟩ := hm.extends ih.2
    exact ⟨fun seat => (ih.1 seat).trans (hn seat), hs⟩

end

end Conduit.Stock
