import Conduit.Runs
import Conduit.Stock.Handover

namespace Conduit.Stock

open Js Throwing List Table Relation.ReflTransGen Prod

def Journal.entriesOf (db : Journal) (account poolId : Text) : List Entry :=
  db.entries.rows.filter fun e => e.accountPubkey = account ∧ e.poolId = poolId

lemma mem_entriesOf {db : Journal} {account poolId : Text} {e : Entry} :
    e ∈ db.entriesOf account poolId ↔
      e ∈ db.entries.rows ∧ e.accountPubkey = account ∧ e.poolId = poolId := by
  simp [Journal.entriesOf]

def Journal.rebind (db : Journal) (e : Entry) (binding : Option (List PoolLine)) : Journal :=
  { db with entries := db.entries.put { e with orderPoolBinding := binding } }

structure Pool.Own (pool : Pool) (grant : StockGrant) : Prop where
  carries : pool.Carries grant
  account : pool.accountPubkey = pool.organizerPubkey
  accountHex : IsHex64 pool.accountPubkey
  poolHex : IsHex64 pool.poolId

inductive JournalMove (P : StockPlatform) : Journal → Journal → Prop
  | accept {db : Journal} {pool : Pool} {grant : StockGrant} {input : AcceptanceInput}
      {rumor : Rumor} (hpool : pool ∈ db.pools.rows) (hown : pool.Own grant)
      (hgrant : readGrant P pool.grantRumor = .ok grant)
      (haccount : input.authenticatedPubkey = pool.accountPubkey)
      (hnew : ∀ e ∈ db.entriesOf pool.accountPubkey pool.poolId, e.orderId ≠ input.orderId)
      (hactive : pool.state = .active) (hexpires : input.nowMs < grant.expiresAtMs)
      (hstart : pool.grantRumor.createdAt * 1000 ≤ input.nowMs)
      (hpredecessor : checkPredecessor P db pool pool.accountPubkey input.nowMs = .ok ())
      (hquantity : 1 ≤ input.quantity) (hleft : input.quantity ≤ pool.quantity - pool.acceptedQuantity)
      (hrumor : createStockAuthorityRumor P (.accepted (input.payload pool)) (input.nowMs / 1000) =
        .ok rumor)
      (hkey : db.entries.get (input.entry pool rumor).id = none) :
      JournalMove P db { db with
        entries := db.entries.put (input.entry pool rumor)
        pools := db.pools.put (pool.accepts input.quantity rumor) }
  | bind {db : Journal} {e : Entry} (he : e ∈ db.entries.rows) (binding : Option (List PoolLine)) :
      JournalMove P db (db.rebind e binding)
  | close {db : Journal} {pool : Pool} {grant : StockGrant} {rumor : Rumor} {nowMs : Int}
      (hpool : pool ∈ db.pools.rows) (hown : pool.Own grant)
      (hgrant : readGrant P pool.grantRumor = .ok grant) (hopen : pool.closingRumor = none)
      (hactive : pool.state = .active) (hstart : pool.grantRumor.createdAt * 1000 ≤ nowMs)
      (hpredecessor : checkPredecessor P db pool pool.accountPubkey nowMs = .ok ())
      (hrumor : createStockAuthorityRumor P (.closed pool.close) (nowMs / 1000) = .ok rumor) :
      JournalMove P db
        { db with pools := db.pools.put { pool with state := .closing, closingRumor := some rumor } }
  | acknowledge {db : Journal} {pool : Pool} (hpool : pool ∈ db.pools.rows)
      (hclosing : pool.state = .closing) (importedQuantity importedSequence : Int)
      (lastImportedId : Text) :
      JournalMove P db { db with pools := db.pools.put { pool with
        state := .closed
        importedQuantity := importedQuantity
        importedSequence := importedSequence
        lastImportedId := lastImportedId } }
  | install {db : Journal} {rumor : Rumor} {grant : StockGrant}
      (hgrant : readGrant P rumor = .ok grant)
      (hnone : db.pools.get (poolKey grant.organizerPubkey rumor.id) = none) :
      JournalMove P db
        { db with pools := db.pools.put (newPool grant.organizerPubkey rumor grant .active) }
  | register {db : Journal} (writers : Table Writer Writer.id) :
      JournalMove P db { db with writers := writers }

def Moves (P : StockPlatform) : Journal → Journal → Prop := Relation.ReflTransGen (JournalMove P)

section
variable {P : StockPlatform} {db db' : Journal} {pool : Pool} {grant : StockGrant}

lemma key_inj {a a' p p' : Text} (ha : IsHex64 a') (hp : IsHex64 p')
    (h : a ++ ":" ++ p = a' ++ ":" ++ p') : a = a' ∧ p = p' := by
  have hco : ∀ {s : Text}, IsHex64 s → ':' ∉ s := fun hs hm =>
    absurd (all_eq_true.1 hs.2 _ hm) (by decide)
  have hcount : (a ++ ":" ++ p).count ':' = 1 := by
    rw [h]
    simp [count_eq_zero_of_not_mem (hco ha), count_eq_zero_of_not_mem (hco hp)]
  have hza : ':' ∉ a := by
    intro hm
    have := count_pos_iff.2 hm
    simp only [count_append] at hcount
    have hone : count ':' (":".toList) = 1 := by decide
    omega
  have ht := congrArg (takeWhile fun c => c != ':') h
  have htak : ∀ {s t : Text}, ':' ∉ s →
      (s ++ ":" ++ t).takeWhile (fun c => c != ':') = s := by
    intro s t hs
    rw [append_assoc, takeWhile_append_of_pos]
    · simp
    · intro c hc
      have : c ≠ ':' := fun heq => hs (heq ▸ hc)
      simpa using this
  rw [htak hza, htak (hco ha)] at ht
  subst ht
  exact ⟨rfl, append_cancel_left h⟩

lemma own_of_assertPool {account poolId : Text}
    (hg : db.pools.get (poolKey account poolId) = some pool)
    (horg : pool.organizerPubkey = account) (h : assertPool P pool = .ok grant) :
    pool.Own grant ∧ pool.accountPubkey = account ∧ pool.poolId = poolId := by
  obtain ⟨hgr, hc, hacc, -⟩ := assertPool_ok.1 h
  obtain ⟨hm, ho, -, hid, -⟩ := readGrant_parties hgr
  have hp : IsHex64 pool.poolId := hc.1 ▸ hid
  have ha : IsHex64 pool.accountPubkey := by
    simp only [mem_cons, not_mem_nil, or_false] at hacc
    rcases hacc with h | h
    · exact h ▸ hm
    · exact h ▸ ho
  have hk : poolKey account poolId = poolKey pool.accountPubkey pool.poolId :=
    (key_of_get hg).symm.trans hc.2.1
  obtain ⟨rfl, rfl⟩ := key_inj ha hp hk
  exact ⟨⟨hc, horg.symm, ha, hp⟩, rfl, rfl⟩

def Entry.Bound (e : Entry) (db : Journal) : Prop :=
  ∃ row ∈ db.entries.rows, ∃ binding, e = { row with orderPoolBinding := binding }

structure AcceptanceInput.Stands (P : StockPlatform) (db : Journal) (input : AcceptanceInput)
    (pool : Pool) (grant : StockGrant) : Prop where
  get : db.pools.get (poolKey input.authenticatedPubkey input.poolId) = some pool
  own : pool.Own grant
  account : pool.accountPubkey = input.authenticatedPubkey
  poolId : pool.poolId = input.poolId
  organizer : pool.organizerPubkey = input.authenticatedPubkey
  writer : pool.writerId = input.writerId
  asserts : assertPool P pool = .ok grant
  current : assertOrganizerStockWriterCurrent db input.authenticatedPubkey grant.marketCoordinate
    input.writerId = .ok ()

structure AcceptanceInput.Fresh (P : StockPlatform) (db : Journal) (input : AcceptanceInput)
    (pool : Pool) (grant : StockGrant) (rumor : Rumor) : Prop where
  new : ∀ e ∈ db.entriesOf pool.accountPubkey pool.poolId, e.orderId ≠ input.orderId
  active : pool.state = .active
  expires : input.nowMs < grant.expiresAtMs
  start : pool.grantRumor.createdAt * 1000 ≤ input.nowMs
  predecessor : checkPredecessor P db pool input.authenticatedPubkey input.nowMs = .ok ()
  quantity : 1 ≤ input.quantity
  left : input.quantity ≤ pool.quantity - pool.acceptedQuantity
  created : createStockAuthorityRumor P (.accepted (input.payload pool)) (input.nowMs / 1000) =
    .ok rumor
  key : db.entries.get (input.entry pool rumor).id = none
  apart : ∀ e ∈ db.entries.rows, ¬ e.Collides (input.entry pool rumor)

def AcceptanceInput.Owns (input : AcceptanceInput) (e : Entry) : Prop :=
  e.accountPubkey = input.authenticatedPubkey ∧ e.poolId = input.poolId ∧ e.orderId = input.orderId

section

variable {input : AcceptanceInput} {accepted : Accepted}
  (h : commitOrganizerStockAcceptance P db input = .ok (db', accepted))
include h

lemma commitOrganizerStockAcceptance_cases :
    ¬ (input.evidence = [] ∨ utf8ByteLength input.evidence > 65536) ∧
      ∃ pool grant, input.Stands P db pool grant ∧
        ((∃ prior ∈ db.entries.rows, input.Owns prior ∧ replayAcceptance P prior input = .ok () ∧
            db' = db ∧ accepted = { replayed := true, entry := prior }) ∨
          ∃ rumor, input.Fresh P db pool grant rumor ∧
            db' = { db with
              entries := db.entries.put (input.entry pool rumor)
              pools := db.pools.put (pool.accepts input.quantity rumor) } ∧
            accepted = { replayed := false, entry := input.entry pool rumor }) := by
  simp only [commitOrganizerStockAcceptance, run_ok] at h
  obtain ⟨u, -, -, hev, h⟩ := h
  refine ⟨hev, ?_⟩
  cases hg : db.pools.get (poolKey input.authenticatedPubkey input.poolId) with
  | none =>
    rw [hg] at h
    cases h
  | some pool =>
    simp only [hg, run_ok] at h
    obtain ⟨hwr, grant, ha, u₁, hc, h⟩ := h
    rw [not_or, not_not, not_not] at hwr
    obtain ⟨hown, hacc, hp⟩ := own_of_assertPool hg hwr.1 ha
    refine ⟨pool, grant, ⟨hg, hown, hacc, hp, hwr.1, hwr.2, ha, hc⟩, ?_⟩
    cases hf : db.entries.rows.find? (fun e => e.accountPubkey = input.authenticatedPubkey ∧
        e.poolId = input.poolId ∧ e.orderId = input.orderId) with
    | some prior =>
      simp only [hf, run_ok, Prod.mk.injEq] at h
      obtain ⟨u, hrep, rfl, rfl⟩ := h
      refine .inl ⟨prior, mem_of_find?_eq_some hf, ?_, hrep, rfl, rfl⟩
      simpa [AcceptanceInput.Owns] using find?_some hf
    | none =>
      simp only [hf, run_ok] at h
      obtain ⟨hen, u, hpr, hq, rumor, hrum, h⟩ := h
      cases hk : db.entries.get (input.entry pool rumor).id with
      | some e =>
        rw [hk] at h
        cases h
      | none =>
        simp only [hk, rejects_ok, pure_ok, Prod.mk.injEq] at h
        obtain ⟨hap, rfl, rfl⟩ := h
        simp only [not_or, not_not, not_le, not_lt] at hen hq
        refine .inr ⟨rumor, ⟨fun e he hord => ?_, hen.1, hen.2.2.1, hen.2.2.2,
          hpr, hq.1, hq.2, hrum, hk,
          fun e he hcol => hap ⟨e, he, hcol⟩⟩, rfl, rfl⟩
        obtain ⟨he, heac, hep⟩ := mem_entriesOf.1 he
        have := find?_eq_none.1 hf e he
        simp only [decide_eq_true_eq] at this
        exact this ⟨heac.trans hacc, hep.trans hp, hord⟩

lemma commitOrganizerStockAcceptance_moves : Moves P db db' ∧ accepted.entry.Bound db' ∧
      ∀ e ∈ db.entries.rows, e ∈ db'.entries.rows := by
  obtain ⟨-, pool, grant, hs, ⟨prior, hp, -, -, rfl, rfl⟩ | ⟨rumor, hf, rfl, rfl⟩⟩ :=
    commitOrganizerStockAcceptance_cases h
  · exact ⟨Relation.ReflTransGen.refl, ⟨prior, hp, prior.orderPoolBinding, rfl⟩,
      fun _ he => he⟩
  · refine ⟨single (.accept (mem_of_get hs.get) hs.own
      (assertPool_ok.1 hs.asserts).1 hs.account.symm hf.new hf.active
      hf.expires hf.start (hs.account ▸ hf.predecessor) hf.quantity
      hf.left hf.created hf.key), ?_, ?_⟩
    · exact ⟨_, mem_put.2 (.inl rfl), _, rfl⟩
    · intro e he
      exact mem_put.2 (.inr ⟨he, get_eq_none.1 hf.key e he⟩)

end

variable {input : OrderAcceptanceInput} {results : List Accepted}

lemma acceptLines_moves {entries : List PoolLine}
    (h : acceptLines P input db entries = .ok (db', results)) :
    Moves P db db' ∧ (∀ r ∈ results, r.entry.Bound db') ∧
      ∀ e ∈ db.entries.rows, e ∈ db'.entries.rows := by
  induction entries generalizing db results with
  | nil =>
    obtain ⟨rfl, rfl⟩ := mk.inj (Except.ok.inj h)
    exact ⟨Relation.ReflTransGen.refl, by simp, fun _ he => he⟩
  | cons entry entries ih =>
    simp only [acceptLines, run_ok] at h
    obtain ⟨⟨db₁, accepted⟩, hf, ⟨db₂, rest⟩, hr, h⟩ := h
    obtain ⟨rfl, rfl⟩ := mk.inj h
    obtain ⟨hm, ⟨row, hrow, hent⟩, hk⟩ := commitOrganizerStockAcceptance_moves hf
    obtain ⟨hm', hbd, hk'⟩ := ih hr
    refine ⟨hm.trans hm', ?_, fun e he => hk' e (hk e he)⟩
    exact forall_mem_cons.2 ⟨⟨row, hk' row hrow, hent⟩, hbd⟩

def Rebinds : Journal → Journal → Prop :=
  Relation.ReflTransGen fun db db' => ∃ e ∈ db.entries.rows, ∃ binding, db' = db.rebind e binding

lemma Rebinds.moves (h : Rebinds db db') : Moves P db db' := by
  refine mono ?_ _ _ h
  rintro db _ ⟨e, he, binding, rfl⟩
  exact .bind he binding

lemma bindEntry_rebinds {binding : List PoolLine} (h : ∀ r ∈ results, r.entry.Bound db) :
    Rebinds db (results.foldl (bindEntry binding) db) := by
  induction results generalizing db with
  | nil => exact Relation.ReflTransGen.refl
  | cons r results ih =>
    rw [forall_mem_cons] at h
    obtain ⟨⟨row, hrow, b, he⟩, hre⟩ := h
    rw [foldl_cons]
    unfold bindEntry
    split_ifs with hnone
    · have he' : { r.entry with orderPoolBinding := some binding } =
          { row with orderPoolBinding := some binding } := by rw [he]
      rw [he']
      refine head ⟨row, hrow, some binding, rfl⟩ (ih fun r hr => ?_)
      obtain ⟨other, ho, b', hr⟩ := hre r hr
      by_cases hid : other.id = row.id
      · -- the row of this key has its new manifest; the result is read against it
        have heq : other = row := Keyed.eq_of_key_eq db.entries.nodup ho hrow hid
        exact ⟨_, mem_put.2 (.inl rfl), b', by rw [hr, heq]⟩
      · exact ⟨other, mem_put.2 (.inr ⟨ho, hid⟩), b', hr⟩
    · exact ih hre

lemma commitOrganizerStockOrder_moves (h : commitOrganizerStockOrder P db input = .ok db') :
    Moves P db db' := by
  simp only [commitOrganizerStockOrder, bind_ok, pure_ok] at h
  obtain ⟨-, -, -, -, -, -, -, -, ⟨db₁, results⟩, ha, rfl⟩ := h
  obtain ⟨hm, hbd, -⟩ := acceptLines_moves ha
  exact hm.trans (bindEntry_rebinds hbd).moves

variable {input : OrganizerCloseInput} {nextGrant : StockGrant} {rumor : Rumor}

section

variable (h : beginOrganizerStockClose P db input = .ok (db', rumor))
include h

lemma beginOrganizerStockClose_cases :
    ∃ pool grant, db.pools.get (poolKey input.authenticatedPubkey input.poolId) = some pool ∧
      pool.Own grant ∧ pool.accountPubkey = input.authenticatedPubkey ∧
      assertPool P pool = .ok grant ∧
      assertOrganizerStockWriterCurrent db input.authenticatedPubkey grant.marketCoordinate
        input.writerId = .ok () ∧
      (db' = db ∨ pool.closingRumor = none ∧ pool.state = .active ∧
        pool.grantRumor.createdAt * 1000 ≤ input.nowMs ∧
        checkPredecessor P db pool pool.accountPubkey input.nowMs = .ok () ∧
        createStockAuthorityRumor P (.closed pool.close) (input.nowMs / 1000) = .ok rumor ∧
        db' = { db with
          pools := db.pools.put { pool with state := .closing, closingRumor := some rumor } }) := by
  simp only [beginOrganizerStockClose, run_ok] at h
  obtain ⟨u, -, -, h⟩ := h
  cases hg : db.pools.get (poolKey input.authenticatedPubkey input.poolId) with
  | none =>
    rw [hg] at h
    cases h
  | some pool =>
    simp only [hg, run_ok] at h
    obtain ⟨hwr, grant, ha, u₁, hcur, h⟩ := h
    rw [not_or, not_not, not_not] at hwr
    obtain ⟨ho, hacc, hpid⟩ := own_of_assertPool hg hwr.1 ha
    refine ⟨pool, grant, rfl, ho, hacc, ha, hcur, ?_⟩
    cases hc : pool.closingRumor with
    | some known =>
      simp only [hc, pure_ok, Prod.mk.injEq] at h
      exact .inl h.1.symm
    | none =>
      simp only [hc, run_ok, Prod.mk.injEq, not_not, not_lt] at h
      obtain ⟨hact, hs, u, hp, r, hr, rfl, rfl⟩ := h
      exact .inr ⟨rfl, hact, hs, hacc ▸ hp, hr, rfl⟩

lemma beginOrganizerStockClose_moves : Moves P db db' := by
  obtain ⟨pool, grant, hg, hown, -, ha, -, rfl | ⟨ho, hact, hs, hp,
    hr, rfl⟩⟩ := beginOrganizerStockClose_cases h
  · exact Relation.ReflTransGen.refl
  · exact single (.close (mem_of_get hg) hown
      (assertPool_ok.1 ha).1 ho hact hs hp hr)

end

lemma reconcileOriginalOrganizerStockClose_closes {entries : List Entry} {events : List SignedEvent}
    {nowMs : Int} {closed : Pool}
    (h : reconcileOriginalOrganizerStockClose P pool entries nextGrant events nowMs = .ok closed) :
    (∃ grant, readGrant P pool.grantRumor = .ok grant ∧ pool.Precedes grant nextGrant) ∧
      ∃ qty sequence lastId, closed = { pool with
        state := .closed
        importedQuantity := qty
        importedSequence := sequence
        lastImportedId := lastId } ∧ ∃ grant, assertPool P closed = .ok grant := by
  simp only [reconcileOriginalOrganizerStockClose, run_ok] at h
  obtain ⟨grant, ha, hp, h⟩ := h
  refine ⟨⟨grant, (assertPool_ok.1 ha).1, not_not.1 hp⟩, ?_⟩
  cases hc : pool.closingRumor with
  | none =>
    rw [hc] at h
    cases h
  | some rumor =>
    simp only [hc, bind_ok] at h
    obtain ⟨payload, -, h⟩ := h
    cases payload with
    | closed closing =>
      simp only [run_ok, not_or, not_not] at h
      obtain ⟨hst, -, -, frontier, -, ⟨hqty, hl, -⟩, rfl⟩ := h
      refine ⟨_, _, _, rfl, grant, ?_⟩
      obtain ⟨hgr, hcar, hacc, ⟨hq, hs, -, -, hle, -, -, -, -, hz, -, hh, -⟩, -⟩ :=
        assertPool_ok.1 ha
      obtain ⟨-, -, hseq, hac, hlas, -⟩ := hst
      rw [hqty, hl, hseq, hac, hlas]
      exact assertPool_ok.2 ⟨hgr, hcar, hacc, ⟨hq, hs, hq, hs, hle, hle, le_refl _,
        le_refl _, fun _ => ⟨rfl, rfl⟩, hz, hz, hh, hh⟩, by simp⟩
    | grant | accepted | handedOut => cases h

def Acknowledges (P : StockPlatform) (nextGrant : StockGrant) (db db' : Journal) : Prop :=
  ∃ pool ∈ db.pools.rows, ∃ grant, readGrant P pool.grantRumor = .ok grant ∧
    pool.Precedes grant nextGrant ∧ ∃ quantity sequence lastId,
      db' = { db with pools := db.pools.put { pool with
        state := .closed
        importedQuantity := quantity
        importedSequence := sequence
        lastImportedId := lastId } } ∧ ∃ grant, assertPool P { pool with
          state := .closed
          importedQuantity := quantity
          importedSequence := sequence
          lastImportedId := lastId } = .ok grant

lemma Acknowledges.move (h : Acknowledges P nextGrant db db') : JournalMove P db db' := by
  obtain ⟨pool, hp, grant, -, hpr, quantity, sequence, lastId, rfl, -⟩ := h
  exact .acknowledge hp hpr.1 quantity sequence lastId

lemma closeOverlapping_acknowledges {input : InstallInput} {prev : List Pool}
    (hnd : (prev.map Pool.id).Nodup) (hm : ∀ pool ∈ prev, pool ∈ db.pools.rows)
    (h : foldResult (closeOverlapping P input grant) db prev = .ok db') :
    Relation.ReflTransGen (Acknowledges P grant) db db' ∧
      ∀ key, db.pools.get key = none → db'.pools.get key = none := by
  induction prev generalizing db with
  | nil =>
    cases h
    exact ⟨Relation.ReflTransGen.refl, fun _ hk => hk⟩
  | cons pool prev ih =>
    rw [map_cons, nodup_cons] at hnd
    rw [forall_mem_cons] at hm
    obtain ⟨db₁, hf, hr⟩ := foldResult_cons_ok.1 h
    unfold closeOverlapping at hf
    split_ifs at hf with hcls
    · cases hf
      exact ih hnd.2 hm.2 hr
    · obtain ⟨closed, hc, hput⟩ := bind_ok.1 hf
      obtain rfl := pure_ok.1 hput
      obtain ⟨⟨earlier, he, hp⟩, quantity, sequence, lastId, rfl, ha⟩ :=
        reconcileOriginalOrganizerStockClose_closes hc
      have hm' : ∀ q ∈ prev, q ∈ (db.pools.put { pool with
          state := .closed
          importedQuantity := quantity
          importedSequence := sequence
          lastImportedId := lastId }).rows := by
        intro q hq
        refine mem_put.2 (.inr ⟨hm.2 q hq, fun heq => hnd.1 ?_⟩)
        exact heq ▸ mem_map_of_mem hq
      obtain ⟨hrun, hn⟩ := ih hnd.2 hm' hr
      refine ⟨head
        ⟨pool, hm.1, earlier, he, hp, quantity, sequence, lastId, rfl, ha⟩ hrun,
        fun key hk => ?_⟩
      refine hn key ?_
      rw [get_put, if_neg]
      · exact hk
      · exact fun heq => get_eq_none.1 hk pool hm.1 heq.symm

lemma installOrganizerStockHandover_moves {input : InstallInput}
    (h : installOrganizerStockHandover P db input = .ok db') : Moves P db db' := by
  simp only [installOrganizerStockHandover, run_ok] at h
  obtain ⟨grant, hgr, u, -, -, -, u₁, -, u₂, -, h⟩ := h
  cases hg : db.pools.get (poolKey grant.organizerPubkey input.grantRumor.id) with
  | some prior =>
    simp only [hg, run_ok] at h
    obtain ⟨-, -, -, rfl⟩ := h
    exact Relation.ReflTransGen.refl
  | none =>
    simp only [hg, installPool, run_ok] at h
    obtain ⟨-, db₁, hf, h⟩ := h
    have hr : ∀ q ∈ db.pools.rows.filter (fun q => q.accountPubkey = grant.organizerPubkey ∧
        q.assignmentCoordinate = grant.assignmentCoordinate), q ∈ db.pools.rows :=
      fun q hq => mem_of_mem_filter hq
    obtain ⟨hrun, hn⟩ := closeOverlapping_acknowledges
      (db.pools.nodup.sublist (filter_sublist.map _)) hr hf
    have hm : Moves P db db₁ := 
      mono (fun _ _ => Acknowledges.move) _ _ hrun
    have hi := hm.tail (.install hgr (hn _ hg))
    split at h
    · obtain rfl := pure_ok.1 h
      exact hi
    · obtain rfl := pure_ok.1 h
      exact hi.tail (.register _)

end

end Conduit.Stock
