import Conduit.Stock.Extending

namespace Conduit.Stock

open Js Throwing Table Option

def Seat.key {P : Platform} (seat : Seat P) : Text :=
  organizerStockWriterKey seat.account seat.market

lemma Seat.key_eq {P : Platform} (seat : Seat P) {account market : Text}
    (ha : seat.account = account) (hm : seat.market = market) :
    seat.key = organizerStockWriterKey account market := by
  rw [← ha, ← hm]
  rfl

def Writer.standing (row : Writer) : Writer := { row with installedPoolIds := [] }

def Journal.Blocked {P : Platform} (seat : Seat P) (db : Journal) : Prop :=
  ∀ writerId, assertOrganizerStockWriterCurrent db seat.account seat.market writerId ≠ .ok ()

section
variable {P : StockPlatform} {seat : Seat P.toPlatform} {db db' : Journal} {poolId : Text}
  {pool new : Pool}

lemma blocked_of_get {row : Writer} (hg : db.writers.get seat.key = some row)
    (hst : row.state ≠ .active) : db.Blocked seat := by
  intro writerId h
  unfold assertOrganizerStockWriterCurrent at h
  rw [reject_ok] at h
  exact h ⟨row, hg, .inr (.inr (.inl hst))⟩

lemma Journal.Blocked.of_writers (h : db.Blocked seat) (hw : db'.writers = db.writers) :
    db'.Blocked seat := by
  intro writerId
  unfold assertOrganizerStockWriterCurrent
  rw [hw]
  exact h writerId

variable {grant : StockGrant}

lemma Journal.Blocked.not_for (h : db.Blocked seat) {writerId : Text}
    (hgr : readGrant P pool.grantRumor = .ok grant)
    (hc : assertOrganizerStockWriterCurrent db pool.accountPubkey grant.marketCoordinate
      writerId = .ok ()) : ¬ pool.For P seat := by
  rintro ⟨ha, grant', hgr', hm⟩
  obtain rfl : grant = grant' := Except.ok.inj (hgr.symm.trans hgr')
  rw [ha, hm] at hc
  exact h writerId hc

lemma steady_of_other (hps : db'.pools = db.pools.put new) (hp : pool ∈ db.pools.rows)
    (hid : new.id = pool.id) (ha : new.accountPubkey = pool.accountPubkey)
    (hgr : new.grantRumor = pool.grantRumor) (ho : ¬ pool.For P seat)
    (hent : ∀ poolId, poolKey seat.account poolId ≠ pool.id →
      db'.entriesOf seat.account poolId = db.entriesOf seat.account poolId) :
    Steady P seat db db' := by
  have heq : ∀ poolId q, db.Entrusts P seat poolId q ↔ db'.Entrusts P seat poolId q := by
    intro poolId q
    constructor
    · intro hq
      obtain ⟨later, hl, rfl | ⟨rfl, -⟩⟩ := (entrusts_put hps hp hid ha hgr q).1 hq
      · exact hl
      · exact absurd hq.2 ho
    · intro hq
      obtain ⟨earlier, he, rfl | ⟨rfl, -⟩⟩ :=
        (entrusts_put hps hp hid ha hgr q).2 hq
      · exact he
      · exact absurd he.2 ho
  have hr : ∀ poolId q, db.Entrusts P seat poolId q →
      db'.entriesOf seat.account poolId = db.entriesOf seat.account poolId := by
    intro poolId q hq
    refine hent poolId fun hk => ho ?_
    have hg := hq.1
    rw [hk, get_of_mem hp] at hg
    exact some.inj hg ▸ hq.2
  exact steady_of_same heq hr

lemma Rebinds.steady (h : Rebinds db db') (hdb : db.Sound P) :
    (∀ seat, Steady P seat db db') ∧ db'.writers = db.writers ∧ db'.Sound P := by
  induction h with
  | refl => exact ⟨fun seat => .refl P seat db, rfl, hdb⟩
  | tail _ hst ih =>
    obtain ⟨hstd, hw, hs⟩ := ih
    obtain ⟨e, he, binding, rfl⟩ := hst
    obtain ⟨hn, hs'⟩ := hs.rebind he binding
    exact ⟨fun seat => (hstd seat).trans (hn seat), hw, hs'⟩

lemma commitOrganizerStockAcceptance_writes (seat : Seat P.toPlatform) {input : AcceptanceInput}
    {accepted : Accepted} (h : commitOrganizerStockAcceptance P db input = .ok (db', accepted)) :
    db'.writers = db.writers ∧ (db.Blocked seat → Steady P seat db db') := by
  obtain ⟨-, pool, grant, hs, ⟨prior, -, -, -, rfl, -⟩ | ⟨rumor, hf, rfl, -⟩⟩ :=
    commitOrganizerStockAcceptance_cases h
  · exact ⟨rfl, fun _ => .refl P seat _⟩
  · refine ⟨rfl, fun hb => ?_⟩
    have hc := hs.current
    rw [← hs.account] at hc
    have hp : ({ db with
        entries := db.entries.put (input.entry pool rumor)
        pools := db.pools.put (pool.accepts input.quantity rumor) } : Journal).pools =
      db.pools.put (pool.accepts input.quantity rumor) := rfl
    refine steady_of_other hp (mem_of_get hs.get) rfl rfl rfl
      (hb.not_for (assertPool_ok.1 hs.asserts).1 hc) fun poolId hne => ?_
    rw [entriesOf_put seat.account poolId hf.key, if_neg, List.append_nil]
    rintro ⟨ha', hpid'⟩
    refine hne ?_
    rw [← ha', ← hpid']
    exact (congrArg (poolKey · pool.poolId) hs.account.symm).trans
      hs.own.carries.2.1.symm

variable {rumor : Rumor} {input : OrderAcceptanceInput}

lemma acceptLines_writes (seat : Seat P.toPlatform) {entries : List PoolLine}
    {results : List Accepted} (h : acceptLines P input db entries = .ok (db', results)) :
    db'.writers = db.writers ∧ (db.Blocked seat → Steady P seat db db') := by
  induction entries generalizing db results with
  | nil =>
    obtain ⟨rfl, -⟩ := Prod.mk.inj (Except.ok.inj h)
    exact ⟨rfl, fun _ => .refl P seat db⟩
  | cons entry entries ih =>
    simp only [acceptLines, run_ok] at h
    obtain ⟨⟨db₁, accepted⟩, hf, ⟨db₂, rest⟩, hr, h⟩ := h
    obtain ⟨rfl, -⟩ := Prod.mk.inj h
    obtain ⟨hw, hs⟩ := commitOrganizerStockAcceptance_writes seat hf
    obtain ⟨hw', hs'⟩ := ih hr
    refine ⟨hw'.trans hw, fun hb => ?_⟩
    exact (hs hb).trans (hs' (hb.of_writers hw))

lemma commitOrganizerStockOrder_writes (seat : Seat P.toPlatform) (hdb : db.Sound P)
    (h : commitOrganizerStockOrder P db input = .ok db') :
    db'.writers = db.writers ∧ (db.Blocked seat → Steady P seat db db') := by
  simp only [commitOrganizerStockOrder, bind_ok, pure_ok] at h
  obtain ⟨-, -, -, -, -, -, -, -, ⟨db₁, results⟩, ha, rfl⟩ := h
  obtain ⟨hm, hbd, -⟩ := acceptLines_moves ha
  obtain ⟨hw, hs⟩ := acceptLines_writes seat ha
  have hsnd : db₁.Sound P := (hm.extends hdb).2
  obtain ⟨hb, hw', -⟩ := (bindEntry_rebinds hbd).steady hsnd
  exact ⟨hw'.trans hw, fun hblk => (hs hblk).trans (hb seat)⟩

lemma beginOrganizerStockClose_writes (seat : Seat P.toPlatform) {input : OrganizerCloseInput}
    (h : beginOrganizerStockClose P db input = .ok (db', rumor)) :
    db'.writers = db.writers ∧ (db.Blocked seat → Steady P seat db db') := by
  obtain ⟨pool, grant, hg, -, hacc, ha, hc, rfl | ⟨-, -, -, -, -, rfl⟩⟩ :=
    beginOrganizerStockClose_cases h
  · exact ⟨rfl, fun _ => .refl P seat _⟩
  · refine ⟨rfl, fun hb => ?_⟩
    rw [← hacc] at hc
    let new : Pool := { pool with state := .closing, closingRumor := some rumor }
    have hp : ({ db with pools := db.pools.put new } : Journal).pools = db.pools.put new := rfl
    exact steady_of_other hp (mem_of_get hg) rfl rfl rfl
      (hb.not_for (assertPool_ok.1 ha).1 hc) fun _ _ => rfl

lemma Acknowledges.steady {nextGrant : StockGrant} (h : Acknowledges P nextGrant db db')
    (ho : ¬ (nextGrant.organizerPubkey = seat.account ∧ nextGrant.marketCoordinate = seat.market)) :
    Steady P seat db db' ∧ db'.writers = db.writers := by
  obtain ⟨pool, hp, grant, hgr, hpr, quantity, sequence, lastId, rfl, -⟩ := h
  refine ⟨?_, rfl⟩
  let new : Pool := { pool with
    state := .closed
    importedQuantity := quantity
    importedSequence := sequence
    lastImportedId := lastId }
  have hput : ({ db with pools := db.pools.put new } : Journal).pools = db.pools.put new := rfl
  refine steady_of_other hput hp rfl rfl rfl ?_ fun _ _ => rfl
  rintro ⟨ha, grant', hgr', hm⟩
  obtain rfl : grant = grant' := Except.ok.inj (hgr.symm.trans hgr')
  obtain ⟨-, -, heq, -, -, -, hs, -⟩ := hpr
  exact ho ⟨heq.symm.trans ha, hs.symm.trans hm⟩

lemma steady_install (hgr : readGrant P rumor = .ok grant)
    (hn : db.pools.get (poolKey grant.organizerPubkey rumor.id) = none)
    (ho : ¬ (grant.organizerPubkey = seat.account ∧ grant.marketCoordinate = seat.market)) :
    Steady P seat db
      { db with pools := db.pools.put (newPool grant.organizerPubkey rumor grant .active) } := by
  have heq : ∀ poolId, poolKey seat.account poolId ≠ poolKey grant.organizerPubkey rumor.id →
      (db.pools.put (newPool grant.organizerPubkey rumor grant .active)).get
        (poolKey seat.account poolId) = db.pools.get (poolKey seat.account poolId) :=
    fun poolId hne => get_put_of_ne hne
  constructor
  · refine extends_of_entries rfl fun poolId q hq => ⟨q, ⟨?_, hq.2⟩, .refl q⟩
    refine (heq poolId fun hk => ?_).trans hq.1
    have hg := hq.1
    rw [hk, hn] at hg
    cases hg
  · refine extends_of_entries rfl fun poolId q hq => ⟨q, ⟨?_, hq.2⟩, .refl q⟩
    refine (heq poolId fun hk => ?_).symm.trans hq.1
    have hg := hq.1
    rw [hk] at hg
    obtain rfl := some.inj ((get_put_self db.pools
      (newPool grant.organizerPubkey rumor grant .active)).symm.trans hg)
    obtain ⟨ha, grant', hgr', hm⟩ := hq.2
    obtain rfl : grant = grant' := Except.ok.inj (hgr.symm.trans hgr')
    exact ho ⟨ha, hm⟩

/-- The registrations stay, up to the pools that are installed under them. -/
def Journal.KeepsStanding (db db' : Journal) : Prop :=
  ∀ key, (db'.writers.get key).map Writer.standing = (db.writers.get key).map Writer.standing

lemma Journal.KeepsStanding.of_writers (h : db'.writers = db.writers) : db.KeepsStanding db' := by
  intro key
  rw [h]

lemma installOrganizerStockHandover_writes (seat : Seat P.toPlatform) {input : InstallInput}
    (h : installOrganizerStockHandover P db input = .ok db') :
    db.KeepsStanding db' ∧ (db.Blocked seat → Steady P seat db db') := by
  simp only [installOrganizerStockHandover, run_ok] at h
  obtain ⟨grant, hgr, u, -, -, hm, u₁, hcur, u₂, -, h⟩ := h
  cases hg : db.pools.get (poolKey grant.organizerPubkey input.grantRumor.id) with
  | some prior =>
    simp only [hg, run_ok] at h
    obtain ⟨-, -, -, rfl⟩ := h
    exact ⟨.of_writers rfl, fun _ => .refl P seat db⟩
  | none =>
    have ha : input.authenticatedPubkey = grant.organizerPubkey :=
      not_not.1 (not_or.1 hm).1
    simp only [hg, installPool, run_ok] at h
    obtain ⟨-, db₁, hf, h⟩ := h
    obtain ⟨hrun, hn⟩ := closeOverlapping_acknowledges
      (db.pools.nodup.sublist (List.filter_sublist.map _))
      (fun q hq => List.mem_of_mem_filter hq) hf
    have ho : db.Blocked seat → ¬ (grant.organizerPubkey = seat.account ∧
        grant.marketCoordinate = seat.market) := by
      rintro hb ⟨horg, hmkt⟩
      rw [ha, horg, hmkt] at hcur
      exact hb input.writerId hcur
    have hc : db₁.writers = db.writers ∧ (db.Blocked seat → Steady P seat db db₁) := by
      clear h hn hf
      induction hrun with
      | refl => exact ⟨rfl, fun _ => .refl P seat db⟩
      | tail _ hs ih =>
        refine ⟨?_, fun hb => ?_⟩
        · obtain ⟨pool, -, grant', -, -, quantity, sequence, lastId, rfl, -⟩ := hs
          exact ih.1
        · exact (ih.2 hb).trans (hs.steady (ho hb)).1
    have hi : db.Blocked seat → Steady P seat db { db₁ with
        pools := db₁.pools.put (newPool grant.organizerPubkey input.grantRumor grant .active) } :=
      fun hb => (hc.2 hb).trans
        (steady_install hgr (hn _ hg) (ho hb))
    cases hr : db.writers.get
        (organizerStockWriterKey input.authenticatedPubkey grant.marketCoordinate) with
    | none =>
      rw [hr] at h
      obtain rfl := pure_ok.1 h
      exact ⟨.of_writers hc.1, hi⟩
    | some row =>
      rw [hr] at h
      obtain rfl := pure_ok.1 h
      refine ⟨fun key => ?_, fun hb => (hi hb).trans (steady_of_writers ?_ ?_)⟩
      · have hid : (row.install input.grantRumor.id).id = row.id := rfl
        rw [hc.1, get_put, hid]
        split_ifs with hk
        · rw [hk, get_of_mem (mem_of_get hr)]
          rfl
        · rfl
      · rfl
      · rfl

lemma JournalOp.apply_writes (seat : Seat P.toPlatform) (hdb : db.Sound P) {op : JournalOp}
    (h : op.apply P db = .ok db') :
    db.KeepsStanding db' ∧ (db.Blocked seat → Steady P seat db db') := by
  cases op with
  | install input => exact installOrganizerStockHandover_writes seat h
  | acceptance input =>
    obtain ⟨⟨db₁, accepted⟩, hcmt, h⟩ := bind_ok.1 h
    obtain rfl := pure_ok.1 h
    obtain ⟨hw, hs⟩ := commitOrganizerStockAcceptance_writes seat hcmt
    exact ⟨.of_writers hw, hs⟩
  | order input =>
    obtain ⟨hw, hs⟩ := commitOrganizerStockOrder_writes seat hdb h
    exact ⟨.of_writers hw, hs⟩
  | close input =>
    obtain ⟨⟨db₁, rumor⟩, hc, h⟩ := bind_ok.1 h
    obtain rfl := pure_ok.1 h
    obtain ⟨hw, hs⟩ := beginOrganizerStockClose_writes seat hc
    exact ⟨.of_writers hw, hs⟩

lemma retainGrantEnvelope_writes (hdb : db.Sound P) {account : Text} {envelope : SignedEvent}
    (h : retainGrantEnvelope db account rumor envelope = .ok db') :
    db'.writers = db.writers ∧ (∀ seat, Steady P seat db db') ∧ db'.Sound P := by
  unfold retainGrantEnvelope at h
  cases hg : db.pools.get (poolKey account rumor.id) with
  | none =>
    rw [hg] at h
    cases h
  | some pool =>
    simp only [hg, run_ok] at h
    obtain ⟨-, rfl⟩ := h
    have hr := mem_of_get hg
    obtain ⟨-, grant, hgr, ho⟩ := hdb.own pool hr
    let new : Pool :=
      { pool with receivedEnvelope := some (pool.receivedEnvelope.getD envelope) }
    have hp : ({ db with pools := db.pools.put new } : Journal).pools = db.pools.put new := rfl
    have hk : pool.KeptBy new := ⟨rfl, fun _ hc => hc⟩
    have hk' : new.KeptBy pool := ⟨rfl, fun _ hc => hc⟩
    refine ⟨rfl, fun seat => ⟨extends_of_entries rfl fun _ _ hq =>
        pools_kept_put hp hr rfl rfl hk hq,
      extends_of_entries rfl fun poolId q hq => ?_⟩,
      hdb.put hp rfl hr rfl hgr ⟨ho.carries, ho.account, ho.accountHex, ho.poolHex⟩
        rfl rfl (le_refl _)⟩
    obtain ⟨earlier, he, rfl | ⟨rfl, rfl⟩⟩ := (entrusts_put hp hr rfl rfl rfl q).2 hq
    · exact ⟨q, he, .refl q⟩
    · exact ⟨earlier, he, hk'⟩

end

end Conduit.Stock
