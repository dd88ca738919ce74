import Conduit.Stock.Importing

namespace Conduit.Stock

open Js Throwing List Table Ledger

section
variable {P : StockPlatform} {db db' : Ledger} {pool : Pool} {grant : StockGrant} {c : Text}

variable {result : Ledger × Acceptance} {input : CloseInput} {rumor : Rumor}
  {chain : List (Rumor × StockAcceptance)} {entries : List VerifiedEntry}

section

variable {input : OrderInput} (himport : input.organizerImport = none)
include himport

lemma decideOrder_keeps (hn : db.acceptedOrders.get input.orderId = none)
    (hok : decideOrder P db input none = .ok result) : Keeps db result.1 := by
  simp only [decideOrder, importPools, storeImports, himport, run_ok] at hok
  obtain ⟨pools, -, begun, hb, w, hw, stored, hs, -, -, -, -, rfl⟩ := hok
  simp only [beginAcceptance, run_ok] at hb
  obtain ⟨consumed, -, rfl⟩ := hb
  cases hs
  have hh := laneItems_held (heldBy_begin db consumed) himport hw
  refine ⟨fun c => ?_, fun c m hm => hh.owner_written hm,
    fun hdb a ha hp => hh.tracked_written hdb ha hp, hh.ledger.pools,
    hh.ledger.entries, ?_⟩
  · rw [← Holding.map_imports_zero (db.holding c)]
    exact hh.holding_written c
  · intro k order ho _
    rw [hh.ledger.acceptedOrders, get_put_of_ne]
    · exact ho
    · intro heq
      have hk : db.acceptedOrders.get k = none := heq ▸ hn
      rw [hk] at ho
      cases ho

lemma acceptMerchantInventoryOrder_keeps
    (hok : acceptMerchantInventoryOrder P db input = .ok result) : Keeps db result.1 := by
  simp only [acceptMerchantInventoryOrder, bind_ok] at hok
  obtain ⟨-, -, hok⟩ := hok
  split at hok
  · rename_i hn
    exact decideOrder_keeps himport hn hok
  · simp only [rejects_ok, himport] at hok
    obtain ⟨-, hok⟩ := hok
    cases hok
    exact .refl db

end

variable {assignment : Assignment} {items : List OrderItem} {v : VerifiedImport} {op : StockOp}
  {nowMs : Int} {saved : List Entry}

lemma Pool.ImportsInOrder.congr_entries {saved' : List Entry}
    (h : pool.ImportsInOrder P grant saved chain)
    (hpm : (saved'.map Entry.rumor).Perm (saved.map Entry.rumor))
    (hr : ∀ e ∈ saved', e.Received P) : pool.ImportsInOrder P grant saved' chain :=
  { h with carried := hpm.trans h.carried, received := hr }

/-- The entry under its key with another manifest bound to it. -/
def Ledger.rebind (db : Ledger) (e : Entry) (binding : Option (List PoolLine)) : Ledger :=
  { db with entries := db.entries.put { e with orderPoolBinding := binding } }

lemma Ledger.InOrder.rebind (h : db.InOrder P) {e : Entry} (he : e ∈ db.entries.rows)
    (binding : Option (List PoolLine)) : InOrder P (db.rebind e binding) := by
  have hs : ∀ x ∈ (db.entries.put { e with orderPoolBinding := binding }).rows,
      ∃ y ∈ db.entries.rows, ∃ b, x = { y with orderPoolBinding := b } := by
    intro x hx
    rcases mem_put.1 hx with rfl | ⟨hx, -⟩
    · exact ⟨e, he, binding, rfl⟩
    · exact ⟨x, hx, x.orderPoolBinding, rfl⟩
  refine ⟨?_, ?_, h.held, h.owned, h.unclosed, h.tracked⟩
  · intro pool hp
    obtain ⟨grant, chain, hc⟩ := h.pools pool hp
    refine ⟨grant, chain, hc.congr_entries ?_ ?_⟩
    · exact map_filter_put_perm (a := { e with orderPoolBinding := binding }) (b := e)
        (p := fun x => x.accountPubkey = pool.accountPubkey ∧ x.poolId = pool.poolId)
        (f := Entry.rumor) (get_of_mem he) rfl rfl
    · intro x hx
      obtain ⟨hx, hacc, hpid⟩ := mem_ledger_entriesOf.1 hx
      obtain ⟨y, hy, b, rfl⟩ := hs x hx
      obtain ⟨hi, henv, a, ha⟩ :=
        hc.received y (mem_ledger_entriesOf.2 ⟨hy, hacc, hpid⟩)
      exact ⟨hi, henv, a, ha.content, ha.id, ha.poolId, ha.sequence, ha.orderId,
        ha.claimRef, ha.quantity⟩
  · intro x hx
    obtain ⟨y, hy, b, rfl⟩ := hs x hx
    exact h.entries y hy

lemma replayImport_keeps {I : Ledger → Prop}
    (hr : ∀ db e binding, e ∈ db.entries.rows → I db → I (db.rebind e binding)) (h : I db)
    {input : OrderInput} {provenance : Attribution}
    (hok : replayImport P db input v provenance = .ok db') : I db' := by
  simp only [replayImport, run_ok] at hok
  obtain ⟨-, entries, he, -, -, -, -, rfl⟩ := hok
  refine foldResult_keeps (p := fun entries => I { db with entries := entries }) ?_ h he
  intro e _ before after hb hs
  unfold replayEntry at hs
  split at hs
  · rename_i saved pool hsa _
    simp only [run_ok] at hs
    obtain ⟨-, -, -, hs⟩ := hs
    split_ifs at hs
    · obtain rfl := pure_ok.1 hs
      exact hr _ saved _ (mem_of_get hsa) hb
    · obtain rfl := pure_ok.1 hs
      exact hb
  · cases hs

lemma importOrder_cases (h : db.InOrder P) {input : ImportInput}
    (hr : ReadsImport P input items entries) (hh : P.HashesApart input.acceptedEnvelopes)
    (hv : (importOrderInput input items entries).organizerImport = some v)
    (hok : acceptMerchantInventoryOrder P db (importOrderInput input items entries) = .ok result) :
    (ImportsOrder P db result.1 (importOrderInput input items entries) v ∧
        ∀ order ∈ db.acceptedOrders.get input.order.id, order.organizerImport = none) ∨
      ∃ provenance, replayImport P db (importOrderInput input items entries) v provenance =
        .ok result.1 := by
  simp only [acceptMerchantInventoryOrder, bind_ok] at hok
  obtain ⟨-, -, hok⟩ := hok
  split at hok
  · rename_i hn
    refine .inl ⟨decideOrder_imports h hr hh hv hok, fun order ho => ?_⟩
    rw [show db.acceptedOrders.get input.order.id = none from hn] at ho
    cases ho
  · rename_i prior hp
    simp only [rejects_ok, hv] at hok
    obtain ⟨-, hok⟩ := hok
    cases himport : prior.organizerImport with
    | some provenance =>
      simp only [himport, run_ok] at hok
      obtain ⟨db', hrep, rfl⟩ := hok
      exact .inr ⟨provenance, hrep⟩
    | none =>
      rw [himport] at hok
      refine .inl ⟨decideOrder_imports h hr hh hv hok, fun order ho => ?_⟩
      rw [show db.acceptedOrders.get input.order.id = some prior from hp] at ho
      cases ho
      exact himport

lemma importOrder_inOrder (h : db.InOrder P) {input : ImportInput}
    (hr : ReadsImport P input items entries) (hh : P.HashesApart input.acceptedEnvelopes)
    (hok : acceptMerchantInventoryOrder P db (importOrderInput input items entries) = .ok result) :
    result.1.InOrder P := by
  obtain ⟨hi, -⟩ | ⟨provenance, hrep⟩ := importOrder_cases h hr hh rfl hok
  · exact h.imports hr hi
  · exact replayImport_keeps (fun db e binding he h => h.rebind he binding) h hrep

lemma Ledger.InOrder.pool_key (h : db.InOrder P) (hp : pool ∈ db.pools.rows) :
    db.pools.get (poolKey pool.accountPubkey pool.poolId) = some pool := by
  obtain ⟨grant, chain, hc⟩ := h.pools pool hp
  rw [← hc.carries.2.1]
  exact get_of_mem hp

lemma newPool_importsInOrder (hgr : readGrant P rumor = .ok grant) :
    (newPool grant.merchantPubkey rumor grant .prepared).ImportsInOrder P grant [] [] := by
  obtain ⟨-, -, -, -, hqty⟩ := readGrant_parties hgr
  refine ⟨hgr, ⟨rfl, rfl, rfl, rfl, rfl, rfl, rfl, rfl⟩, rfl, .nil, ?_, ?_, ?_, .nil, ?_, rfl, rfl,
    rfl, rfl, rfl, rfl, ?_, ?_⟩
  · simp
  · simp
  · simp
  · simp
  · change (0 : Int) ≤ _
    omega
  · simp [newPool]

lemma Ledger.InOrder.entrust (h : db.InOrder P) (hgr : readGrant P rumor = .ok grant)
    (hnew : db.pools.get (poolKey grant.merchantPubkey rumor.id) = none)
    (hasg : db.assignments.get grant.assignmentCoordinate = some assignment)
    (hm : assignment.merchantPubkey = grant.merchantPubkey)
    (hpr : assignment.productCoordinate = grant.productCoordinate)
    (hown : db.owner grant.productCoordinate = some grant.merchantPubkey)
    (hcls : ∀ hold ∈ assignment.organizerStockHold, hold.closed = true)
    (htrac : assignment.inventory.IsTracked) : InOrder P { db with
      assignments := db.assignments.put (assignment.entrusted rumor grant nowMs)
      pools := db.pools.put (newPool grant.merchantPubkey rumor grant .prepared) } := by
  have hk : (assignment.entrusted rumor grant nowMs).coordinate = grant.assignmentCoordinate := by
    have hk : assignment.coordinate = _ := key_of_get hasg
    exact hk
  have he : ∀ c, holding { db with
      assignments := db.assignments.put (assignment.entrusted rumor grant nowMs)
      pools := db.pools.put (newPool grant.merchantPubkey rumor grant .prepared) } c =
        if c = grant.assignmentCoordinate then
          some ⟨assignment.merchantPubkey, assignment.productCoordinate, grantedHold rumor grant⟩
        else db.holding c := by
    intro c
    change ((db.assignments.put _).get c).bind _ = _
    rw [get_put, hk]
    split_ifs
    · rfl
    · rfl
  have hfrs : ∀ x ∈ db.entries.rows, ¬ (x.accountPubkey = grant.merchantPubkey ∧
      x.poolId = rumor.id) := by
    rintro x hx ⟨ha, hpid⟩
    obtain ⟨q, hq, hqac, hqp⟩ := h.entries x hx
    have hget := h.pool_key hq
    rw [hqac, hqp, ha, hpid, hnew] at hget
    cases hget
  refine ⟨?_, ?_, ?_, ?_, ?_, ?_⟩
  · intro q hq
    rcases mem_put.1 hq with rfl | ⟨hq, -⟩
    · refine ⟨grant, [], ?_⟩
      have hn : entriesOf db grant.merchantPubkey rumor.id = [] :=
        filter_eq_nil_iff.2 fun x hx => by simpa using hfrs x hx
      change Pool.ImportsInOrder P _ grant (entriesOf db grant.merchantPubkey rumor.id) []
      rw [hn]
      exact newPool_importsInOrder hgr
    · exact h.pools q hq
  · intro x hx
    obtain ⟨q, hq, ha, hpid⟩ := h.entries x hx
    refine ⟨q, mem_put.2 (.inr ⟨hq, fun heq => ?_⟩), ha, hpid⟩
    exact get_eq_none.1 hnew q hq heq
  · intro c x hx
    rw [he] at hx
    split_ifs at hx with hc
    · cases hx
      refine ⟨newPool grant.merchantPubkey rumor grant .prepared, ?_, hc.symm, hpr.symm, rfl, rfl,
        rfl, ?_⟩
      · change (db.pools.put _).get (poolKey assignment.merchantPubkey rumor.id) = _
        rw [hm]
        exact get_put_self _ (newPool grant.merchantPubkey rumor grant .prepared)
      · simp [grantedHold, newPool]
    · obtain ⟨q, hq, hba⟩ := h.held c x hx
      refine ⟨q, ?_, hba⟩
      rw [get_put_of_ne]
      · exact hq
      · intro heq
        have hn : db.pools.get (poolKey x.merchantPubkey x.hold.poolId) = none := heq ▸ hnew
        rw [hn] at hq
        cases hq
  · intro c x hx
    rw [he] at hx
    split_ifs at hx
    · cases hx
      rw [hpr, hm]
      exact hown
    · exact h.owned c x hx
  · intro q hq ho
    rw [he]
    rcases mem_put.1 hq with rfl | ⟨hq, -⟩
    · exact ⟨_, if_pos rfl, hm, rfl⟩
    · obtain ⟨x, hx, hxm, hxp⟩ := h.unclosed q hq ho
      rw [if_neg]
      · exact ⟨x, hx, hxm, hxp⟩
      · intro hc
        -- The assignment's own hold would name this open pool, yet it is closed.
        have hhol : assignment.holding = some x := by
          rw [← holding_of_get hasg, ← hc]
          exact hx
        obtain ⟨hold, hhold, rfl⟩ := holding_eq_some.1 hhol
        obtain ⟨p, hp, hba⟩ := h.held _ _ hx
        have hs := h.pool_key hq
        rw [← hxm, ← hxp, hp] at hs
        cases hs
        exact ho (hba.closed.1 (hcls hold hhold))
  · intro b hb hpos
    rcases mem_put.1 hb with rfl | ⟨hb, -⟩
    · exact htrac
    · exact h.tracked b hb hpos

lemma prepareMerchantOrganizerStockPool_inOrder (h : db.InOrder P) {input : PrepareInput}
    (hok : prepareMerchantOrganizerStockPool P db input = .ok db') : db'.InOrder P := by
  simp only [prepareMerchantOrganizerStockPool, run_ok] at hok
  obtain ⟨grant, hgr, -, -, -, -, hok⟩ := hok
  cases hg : db.pools.get (poolKey grant.merchantPubkey input.grantRumor.id) with
  | some prior =>
    simp only [hg, run_ok] at hok
    obtain ⟨-, -, -, rfl⟩ := hok
    exact h
  | none =>
    rw [hg] at hok
    dsimp only at hok
    split at hok
    · rename_i assignment product ha hp
      simp only [run_ok, not_not] at hok
      obtain ⟨he, held, -, hc, -, rfl⟩ := hok
      obtain ⟨hm, hown, heq, -, -, -, -, -, -, -, -, -, -, ht, -⟩ := he
      refine h.entrust hgr hg ha hm heq ?_ ?_ ht
      · rw [owner, hp, Option.map_some, hown]
      · intro hold hh
        by_contra ho
        exact hc ⟨hold, hh, by simpa using ho⟩
    · cases hok

lemma Ledger.InOrder.release (h : db.InOrder P) {hold : OrganizerStockHold} {envelope : SignedEvent}
    (hp : pool ∈ db.pools.rows)
    (ha : db.assignments.get pool.assignmentCoordinate = some assignment)
    (hm : assignment.merchantPubkey = pool.accountPubkey)
    (hhold : assignment.organizerStockHold = some hold) (hpid : hold.poolId = pool.poolId) :
    InOrder P { db with
      assignments := db.assignments.put (assignment.releaseHold hold rumor nowMs)
      pools := db.pools.put { pool with
        state := .closed
        closingRumor := some rumor
        receivedClosingEnvelope := some envelope } } := by
  have hk : (assignment.releaseHold hold rumor nowMs).coordinate = pool.assignmentCoordinate := by
    have hk : assignment.coordinate = _ := key_of_get ha
    exact hk
  have hbef : db.holding pool.assignmentCoordinate =
      some ⟨assignment.merchantPubkey, assignment.productCoordinate, hold⟩ := by
    rw [holding_of_get ha]
    exact holding_eq_some.2 ⟨hold, hhold, rfl⟩
  have hr : ∀ c, holding { db with
      assignments := db.assignments.put (assignment.releaseHold hold rumor nowMs)
      pools := db.pools.put { pool with
        state := .closed
        closingRumor := some rumor
        receivedClosingEnvelope := some envelope } } c =
        if c = pool.assignmentCoordinate then
          some ⟨assignment.merchantPubkey, assignment.productCoordinate, { hold with closed := true }⟩
        else db.holding c := by
    intro c
    change ((db.assignments.put _).get c).bind _ = _
    rw [get_put, hk]
    split_ifs
    · rfl
    · rfl
  have hrow := h.pool_key hp
  have hid : pool.id = poolKey pool.accountPubkey pool.poolId := (key_of_get hrow)
  refine ⟨?_, ?_, ?_, ?_, ?_, ?_⟩
  · intro q hq
    rcases mem_put.1 hq with rfl | ⟨hq, -⟩
    · obtain ⟨grant, chain, hch⟩ := h.pools pool hp
      refine ⟨grant, chain, { hch with closing := ?_ }⟩
      simp
    · exact h.pools q hq
  · intro x hx
    obtain ⟨q, hq, hacc, hqp⟩ := h.entries x hx
    by_cases hqid : q.id = pool.id
    · obtain rfl : q = pool := Keyed.eq_of_key_eq db.pools.nodup hq hp hqid
      exact ⟨_, mem_put.2 (.inl rfl), hacc, hqp⟩
    · exact ⟨q, mem_put.2 (.inr ⟨hq, hqid⟩), hacc, hqp⟩
  · intro c x hx
    rw [hr] at hx
    split_ifs at hx with hc
    · cases hx
      obtain ⟨q, hq, hba⟩ := h.held _ _ hbef
      rw [hm, hpid, hrow] at hq
      cases hq
      refine ⟨{ pool with
        state := .closed
        closingRumor := some rumor
        receivedClosingEnvelope := some envelope }, ?_, hc.symm, hba.productCoordinate,
        hba.organizerPubkey, hba.quantity, hba.importedQuantity, by simp⟩
      rw [hm, hpid, ← hid]
      exact get_put_self _ _
    · obtain ⟨q, hq, hba⟩ := h.held c x hx
      refine ⟨q, ?_, hba⟩
      rw [get_put_of_ne]
      · exact hq
      · intro heq
        have hpo : db.pools.get (poolKey x.merchantPubkey x.hold.poolId) = some pool := by
          rw [heq]
          exact get_of_mem hp
        rw [hpo] at hq
        cases hq
        exact hc hba.assignmentCoordinate.symm
  · intro c x hx
    rw [hr] at hx
    split_ifs at hx with hc
    · cases hx
      have howned := h.owned _ _ hbef
      exact howned
    · exact h.owned c x hx
  · intro q hq ho
    rcases mem_put.1 hq with rfl | ⟨hq, hne⟩
    · exact absurd rfl ho
    · obtain ⟨x, hx, hxm, hxp⟩ := h.unclosed q hq ho
      rw [hr, if_neg]
      · exact ⟨x, hx, hxm, hxp⟩
      · intro hc
        rw [hc] at hx
        obtain rfl := Option.some.inj (hbef.symm.trans hx)
        apply hne
        have hqid : q.id = poolKey q.accountPubkey q.poolId := key_of_get (h.pool_key hq)
        rw [hqid, hid, ← hxm, ← hxp, ← hm, ← hpid]
  · intro b hb hpos
    rcases mem_put.1 hb with rfl | ⟨hb, -⟩
    · have hzero : (assignment.releaseHold hold rumor nowMs).held = 0 := rfl
      exact absurd hpos (lt_irrefl 0)
    · exact h.tracked b hb hpos

lemma closePool_cases {qty : Int} (hok : closePool db input rumor grant pool qty = .ok db') :
    (db' = db ∧ pool.state = .closed ∧ pool.closingRumor = some rumor) ∨
      ∃ assignment hold, pool.state ≠ .closed ∧
        (∀ known ∈ pool.closingRumor, known = rumor) ∧
        db.assignments.get grant.assignmentCoordinate = some assignment ∧
        assignment.organizerStockHold = some hold ∧
        assignment.merchantPubkey = input.authenticatedPubkey ∧ hold.poolId = pool.poolId ∧
        hold.quantity = grant.quantity ∧ hold.importedQuantity = qty ∧ hold.closed = false ∧
        assignment.HoldInOrder ∧
        db' = { db with
          assignments := db.assignments.put (assignment.releaseHold hold rumor input.nowMs)
          pools := db.pools.put { pool with
            state := .closed
            closingRumor := some rumor
            receivedClosingEnvelope := some input.closingEnvelope } } := by
  simp only [closePool, run_ok] at hok
  obtain ⟨hcon, hok⟩ := hok
  have heq : ∀ known ∈ pool.closingRumor, known = rumor := by
    intro known hkn
    by_contra hne
    exact hcon ⟨known, hkn, hne⟩
  split_ifs at hok with hc
  · simp only [run_ok] at hok
    obtain ⟨hs, rfl⟩ := hok
    obtain ⟨known, hkn⟩ := Option.ne_none_iff_exists'.1 hs
    exact .inl ⟨rfl, hc, heq known hkn ▸ hkn⟩
  · refine .inr ?_
    cases ha : db.assignments.get grant.assignmentCoordinate with
    | none =>
      rw [ha] at hok
      cases hok
    | some assignment =>
      rw [ha] at hok
      dsimp only at hok
      cases hh : assignment.organizerStockHold with
      | none =>
        rw [hh] at hok
        cases hok
      | some hold =>
        simp only [hh, run_ok, not_or, not_not,
          outstandingOrganizerStockHold_ok, Bool.not_eq_true] at hok
        obtain ⟨⟨hm, hp, hq, hi, ho⟩, -, ⟨hord, -⟩, rfl⟩ := hok
        exact ⟨assignment, hold, hc, heq, rfl, hh, hm, hp, hq, hi, ho, hord, rfl⟩

def Ledger.savedEntries (db : Ledger) (account poolId : Text) : List Entry :=
  (db.entriesOf account poolId).mergeSort fun a b => decide (a.sequence ≤ b.sequence)

structure ClosingChecks (P : StockPlatform) (db : Ledger) (input : CloseInput) (rumor : Rumor)
    (close : StockClose) (pool : Pool) (grant : StockGrant) (frontier : Frontier) : Prop where
  current : input.shouldContinue = true
  unwraps : P.unwrap input.closingEnvelope = some rumor
  parsed : parseStockAuthorityRumor P rumor = .ok (.closed close)
  merchant : close.merchantPubkey = input.authenticatedPubkey
  get : db.pools.get (poolKey input.authenticatedPubkey close.poolId) = some pool
  validated : validateMerchantOrganizerStockPool P pool input.authenticatedPubkey = .ok grant
  organizer : close.organizerPubkey = grant.organizerPubkey
  writer : close.writerId = grant.writerId
  start : pool.grantRumor.createdAt ≤ rumor.createdAt
  sequence : ((db.savedEntries input.authenticatedPubkey close.poolId).length : Int) =
    close.sequence
  entries : closingFrontier P input.authenticatedPubkey grant rumor close 0
    { previousId := close.poolId
      previousTime := pool.grantRumor.createdAt * 1000
      quantity := 0 } (db.savedEntries input.authenticatedPubkey close.poolId) = .ok frontier
  quantity : frontier.quantity = close.acceptedQuantity
  within : frontier.quantity ≤ grant.quantity
  lastId : frontier.previousId = close.lastAcceptedId
  importedSequence : pool.importedSequence = close.sequence
  importedQuantity : pool.importedQuantity = frontier.quantity
  lastImportedId : pool.lastImportedId = frontier.previousId
  acceptedSequence : pool.acceptedSequence = close.sequence
  acceptedQuantity : pool.acceptedQuantity = frontier.quantity
  lastAcceptedId : pool.lastAcceptedId = frontier.previousId
  time : IsTime input.nowMs
  notFuture : rumor.createdAt * 1000 ≤ input.nowMs
  attributed : ∃ checked, mapResult (checkAttribution P db input.authenticatedPubkey close)
    (db.savedEntries input.authenticatedPubkey close.poolId) = .ok checked

lemma reconcileMerchantOrganizerStockClose_ok :
    reconcileMerchantOrganizerStockClose P db input = .ok db' ↔
      ∃ rumor close pool grant front, ClosingChecks P db input rumor close pool grant front ∧
        closePool db input rumor grant pool front.quantity = .ok db' := by
  constructor
  · intro hok
    simp only [reconcileMerchantOrganizerStockClose, run_ok, Bool.not_eq_false] at hok
    obtain ⟨hc, hok⟩ := hok
    cases hu : P.unwrap input.closingEnvelope with
    | none =>
      rw [hu] at hok
      cases hok
    | some rumor =>
      simp only [hu, bind_ok] at hok
      obtain ⟨payload, hp, hok⟩ := hok
      cases payload with
      | grant | accepted | handedOut => cases hok
      | closed close =>
        simp only [run_ok, not_not] at hok
        obtain ⟨hm, hok⟩ := hok
        cases hg : db.pools.get (poolKey input.authenticatedPubkey close.poolId) with
        | none =>
          rw [hg] at hok
          cases hok
        | some pool =>
          simp only [hg, run_ok, not_or, not_not, not_lt, gt_iff_lt] at hok
          obtain ⟨grant, hv, ⟨ho, hwr, hs⟩, hseq, front, he,
            ⟨hqty, hwit, hl, h₁, h₂, h₃, h₄, h₅, h₆⟩, ht, hfut, checked, ha,
            hok⟩ := hok
          exact ⟨rumor, close, pool, grant, front, ⟨hc, hu, hp, hm, hg,
            hv, ho, hwr, hs, hseq, he, hqty, hwit, hl, h₁,
            h₂, h₃, h₄, h₅, h₆, ht, hfut, checked, ha⟩, hok⟩
  · rintro ⟨rumor, close, pool, grant, front, h, hok⟩
    obtain ⟨checked, ha⟩ := h.attributed
    simp only [reconcileMerchantOrganizerStockClose, run_ok, Bool.not_eq_false, h.unwraps]
    refine ⟨h.current, _, h.parsed, ?_⟩
    simp only [run_ok, not_not, h.get, not_or, not_lt, gt_iff_lt]
    exact ⟨h.merchant, grant, h.validated, ⟨h.organizer, h.writer, h.start⟩, h.sequence, front,
      h.entries, ⟨h.quantity, h.within, h.lastId, h.importedSequence, h.importedQuantity,
        h.lastImportedId, h.acceptedSequence, h.acceptedQuantity, h.lastAcceptedId⟩, h.time,
      h.notFuture, checked, ha, hok⟩

lemma reconcileMerchantOrganizerStockClose_inOrder (h : db.InOrder P)
    (hok : reconcileMerchantOrganizerStockClose P db input = .ok db') : db'.InOrder P := by
  obtain ⟨rumor, close, pool, grant, frontier, hc, hok⟩ :=
    reconcileMerchantOrganizerStockClose_ok.1 hok
  obtain ⟨-, hacc, -, hcar, -⟩ := validateMerchantOrganizerStockPool_ok.1 hc.validated
  obtain ⟨rfl, -⟩ | ⟨assignment, hold, -, -, ha, hh, hm, hp, -, -, -, -, rfl⟩ :=
    closePool_cases hok
  · exact h
  · rw [← hcar.2.2.2.2.2.1] at ha
    exact h.release (mem_of_get hc.get) ha (hm.trans hacc.symm) hh
      hp

lemma prepareMerchantOrganizerStockPool_same {input : PrepareInput}
    (hok : prepareMerchantOrganizerStockPool P db input = .ok db') :
    db'.entries = db.entries ∧ db'.acceptedOrders = db.acceptedOrders := by
  simp only [prepareMerchantOrganizerStockPool, run_ok] at hok
  obtain ⟨grant, -, -, -, -, -, hok⟩ := hok
  split at hok
  · simp only [run_ok] at hok
    obtain ⟨-, -, -, rfl⟩ := hok
    exact ⟨rfl, rfl⟩
  · split at hok
    · simp only [run_ok] at hok
      obtain ⟨-, held, -, -, -, rfl⟩ := hok
      exact ⟨rfl, rfl⟩
    · cases hok

lemma reconcileMerchantOrganizerStockClose_same
    (hok : reconcileMerchantOrganizerStockClose P db input = .ok db') :
    db'.entries = db.entries ∧ db'.acceptedOrders = db.acceptedOrders := by
  obtain ⟨rumor, close, pool, grant, frontier, -, hok⟩ :=
    reconcileMerchantOrganizerStockClose_ok.1 hok
  obtain ⟨rfl, -⟩ | ⟨assignment, hold, -, -, -, -, -, -, -, -, -, -, rfl⟩ := closePool_cases hok
  · exact ⟨rfl, rfl⟩
  · exact ⟨rfl, rfl⟩

def Ledger.after (P : StockPlatform) (db : Ledger) (op : StockOp) : Ledger :=
  match op.apply P db with
  | .ok db' => db'
  | .error _ => db

def StockOp.HashesApart (P : StockPlatform) : StockOp → Prop
  | .importOrder _ input => P.HashesApart input.acceptedEnvelopes
  | _ => True

lemma Ledger.InOrder.apply (h : db.InOrder P) (hh : op.HashesApart P)
    (hok : op.apply P db = .ok db') : db'.InOrder P := by
  cases op with
  | create input => exact h.keeps (initializeMerchantInventoryProduct_keeps hok)
  | stockEdit input => exact h.keeps (commitMerchantInventoryStockEdit_keeps hok)
  | assignment input => exact h.keeps (commitMerchantInventoryAssignment_keeps h.owned hok)
  | accept input =>
    simp only [StockOp.apply, run_ok] at hok
    obtain ⟨accepted, ha, rfl⟩ := hok
    exact h.keeps (acceptMerchantInventoryOrder_keeps rfl ha)
  | importOrder read input =>
    simp only [StockOp.apply, run_ok] at hok
    obtain ⟨entries, he, accepted, ha, rfl⟩ := hok
    exact importOrder_inOrder h (readImport_reads he) hh ha
  | prepare input => exact prepareMerchantOrganizerStockPool_inOrder h hok
  | close input => exact reconcileMerchantOrganizerStockClose_inOrder h hok
  | reconcile coordinate =>
    cases hok
    exact h.keeps (reconcileAssignment_reconciles P db coordinate).keeps
  | observe market events =>
    cases hok
    exact h.keeps ⟨fun _ => rfl, fun _ _ hm => hm, fun hdb => hdb, rfl, rfl, fun _ _ ho _ => ho⟩
  | checkpoint rows =>
    cases hok
    exact h.keeps ⟨fun _ => rfl, fun _ _ hm => hm, fun hdb => hdb, rfl, rfl, fun _ _ ho _ => ho⟩
  | publishProduct coordinate jobs signed =>
    cases hok
    exact h.keeps (publishProduct_keeps coordinate jobs signed)
  | publishAssignment coordinate jobs eventId =>
    cases hok
    exact h.keeps (publishAssignment_keeps coordinate jobs eventId)

lemma Ledger.InOrder.after (h : db.InOrder P) (hh : op.HashesApart P) :
    (db.after P op).InOrder P := by
  unfold Ledger.after
  split
  · rename_i db' hok
    exact h.apply hh hok
  · exact h

lemma Ledger.InOrder.run (h : db.InOrder P) {ops : List StockOp}
    (hh : ∀ op ∈ ops, op.HashesApart P) : (ops.foldl (Ledger.after P) db).InOrder P := by
  induction ops generalizing db with
  | nil => exact h
  | cons op ops ih =>
    rw [forall_mem_cons] at hh
    exact ih (h.after hh.1) hh.2

/-- A merchant before the first handover. -/
structure Ledger.Unentrusted (db : Ledger) : Prop where
  holds : ∀ a ∈ db.assignments.rows, a.organizerStockHold = none
  pools : db.pools = .empty
  entries : db.entries = .empty

lemma Ledger.Unentrusted.inOrder (h : db.Unentrusted) : db.InOrder P := by
  have hn : ∀ c, db.holding c = none := by
    intro c
    cases hg : db.assignments.get c with
    | none => exact holding_of_get_none hg
    | some a =>
      rw [holding_of_get hg, Assignment.holding, h.holds a (mem_of_get hg)]
      rfl
  refine ⟨?_, ?_, ?_, ?_, ?_, ?_⟩
  · rw [h.pools]
    exact fun pool hp => absurd hp not_mem_nil
  · rw [h.entries]
    exact fun e he => absurd he not_mem_nil
  · intro c x hx
    rw [hn] at hx
    cases hx
  · intro c x hx
    rw [hn] at hx
    cases hx
  · rw [h.pools]
    exact fun pool hp => absurd hp not_mem_nil
  · intro a ha hpos
    rw [Assignment.held, h.holds a ha] at hpos
    exact absurd hpos (lt_irrefl 0)

/-- Every hold has its pool, with one count of imported units on the hold, on the pool and on the
entries. -/
structure Ledger.HoldsAgree (db : Ledger) : Prop where
  pool : ∀ a ∈ db.assignments.rows, ∀ hold ∈ a.organizerStockHold, ∃ pool ∈ db.pools.rows,
    pool.accountPubkey = a.merchantPubkey ∧ pool.assignmentCoordinate = a.coordinate ∧
      pool.poolId = hold.poolId ∧ pool.organizerPubkey = hold.organizerPubkey ∧
      pool.quantity = hold.quantity ∧ hold.importedQuantity = pool.importedQuantity ∧
      pool.importedQuantity = db.importedQuantity pool.accountPubkey pool.poolId ∧
      (hold.closed = true ↔ pool.state = .closed)
  unclosed : ∀ p ∈ db.pools.rows, ∀ q ∈ db.pools.rows, p.state ≠ .closed → q.state ≠ .closed →
    p.assignmentCoordinate = q.assignmentCoordinate → p = q

/-- What a message says that it takes. -/
def Rumor.quantity (rumor : Rumor) : Int :=
  match rumor.content with
  | .accepted a => a.quantity
  | _ => 0

lemma Pool.ImportsInOrder.importedQuantity_eq (h : pool.ImportsInOrder P grant saved chain) :
    pool.importedQuantity = ((saved.filter (·.imported)).map (·.quantity)).sum := by
  have hall : saved.filter (·.imported) = saved :=
    filter_eq_self.2 fun e he => (h.received e he).imported
  have hs : saved.map (·.quantity) = (saved.map Entry.rumor).map Rumor.quantity := by
    rw [map_map]
    refine map_congr_left fun e he => ?_
    obtain ⟨a, ha⟩ := (h.received e he).records
    rw [Function.comp_apply, Rumor.quantity, ha.content, ← ha.quantity]
  have hc : chain.map (·.2.quantity) = (chain.map Prod.fst).map Rumor.quantity := by
    rw [map_map]
    refine map_congr_left fun x hx => ?_
    rw [Function.comp_apply, Rumor.quantity, (parseStockAuthorityRumor_accepted (h.parsed x hx)).1]
  rw [hall, hs, h.importedQuantity, hc]
  exact ((h.carried.map Rumor.quantity).sum_eq).symm

lemma Ledger.InOrder.holdsAgree (h : db.InOrder P) : db.HoldsAgree := by
  refine ⟨?_, ?_⟩
  · intro a ha hold hh
    have hhol : db.holding a.coordinate =
        some ⟨a.merchantPubkey, a.productCoordinate, hold⟩ := by
      rw [holding_of_get (get_of_mem ha)]
      exact holding_eq_some.2 ⟨hold, hh, rfl⟩
    obtain ⟨pool, hpo, hb⟩ := h.held _ _ hhol
    have hmem := mem_of_get hpo
    obtain ⟨grant, chain, hc⟩ := h.pools pool hmem
    obtain ⟨-, hm, -, hid, -⟩ : IsHex64 grant.organizerPubkey ∧
        IsHex64 grant.merchantPubkey ∧ True ∧ IsHex64 pool.grantRumor.id ∧ True := by
      obtain ⟨hm, horg, -, hid, -⟩ := readGrant_parties hc.authority
      exact ⟨horg, hm, trivial, hid, trivial⟩
    have hkey : poolKey a.merchantPubkey hold.poolId =
        poolKey pool.accountPubkey pool.poolId :=
      (key_of_get hpo).symm.trans hc.carries.2.1
    have hpa := key_inj (hc.account ▸ hc.carries.2.2.1 ▸ hm)
      (hc.carries.1 ▸ hid) hkey
    exact ⟨pool, hmem, hpa.1.symm, hb.assignmentCoordinate, hpa.2.symm,
      hb.organizerPubkey, hb.quantity, hb.importedQuantity.symm,
      hc.importedQuantity_eq, hb.closed⟩
  · intro p hp q hq hpopen hqo heq
    obtain ⟨x, hx, hpm, hpp⟩ := h.unclosed p hp hpopen
    obtain ⟨y, hy, hqm, hqp⟩ := h.unclosed q hq hqo
    rw [heq] at hx
    obtain rfl := Option.some.inj (Option.mem_def.1 hx |>.symm.trans hy)
    have hpg := h.pool_key hp
    rw [← hpm, ← hpp, hqm, hqp, h.pool_key hq] at hpg
    exact (Option.some.inj hpg).symm

end

namespace Sample

def merchantPlatform : StockPlatform :=
  { organizerPlatform with
    isValidSignedEvent := fun event => decide (event = productEvent ∨ event = committedEvent) }

def published : PublicationJob :=
  { job "assign" 1 1800000060000 with
    state := .delivered
    assignmentSnapshot := some {
      state := .active
      inventory := .tracked 3
      fulfillmentMethods := [.pickup]
      organizerStockHold := none } }

def prepare : PrepareInput where
  authenticatedPubkey := merchant
  grantRumor := grantRumor
  expectedAssignmentRevision := 1
  shouldContinue := true
  nowMs := 1800000100000

def entrusting : List StockOp :=
  [.create created, .assignment (assigned 3),
    .publishAssignment assignment [published] (some assignmentEventId), .prepare prepare]

end Sample

section
variable {P : StockPlatform} {db : Ledger}

end

end Conduit.Stock
