import Conduit.Chained
import Conduit.Stock.Guarantees
import Conduit.Stock.Moves

namespace Conduit.Stock

open Js Throwing List Sample Table

/-- How an accepted message stands in its journal. -/
def acceptances : Reading (Rumor × StockAcceptance) Text where
  id x := x.1.id
  previousId x := x.2.previousId
  sequence x := x.2.sequence
  time x := x.2.acceptedAtMs

/-- The entry's own fields are what its message states. -/
structure Entry.Records (e : Entry) (a : StockAcceptance) : Prop where
  content : e.rumor.content = .accepted a
  id : e.id = entryKey e.accountPubkey e.rumor.id
  poolId : a.poolId = e.poolId
  sequence : a.sequence = e.sequence
  orderId : a.orderId = e.orderId
  claimRef : a.claimRef = e.claimRef
  quantity : a.quantity = e.quantity

structure Pool.InOrder (P : StockPlatform) (pool : Pool) (grant : StockGrant)
    (entries : List Entry) (chain : List (Rumor × StockAcceptance)) : Prop where
  authority : readGrant P pool.grantRumor = .ok grant
  own : pool.Own grant
  carried : (entries.map Entry.rumor).Perm (chain.map Prod.fst)
  records : ∀ e ∈ entries, ∃ a, e.Records a
  created : ∀ x ∈ chain,
    createStockAuthorityRumor P (.accepted x.2) (x.2.acceptedAtMs / 1000) = .ok x.1
  parties : ∀ x ∈ chain, x.2.toStockParties = grant.toStockParties ∧ x.2.poolId = pool.poolId
  linked : acceptances.Chain pool.poolId (pool.grantRumor.createdAt * 1000) chain
  expires : ∀ x ∈ chain, x.2.acceptedAtMs < grant.expiresAtMs
  orders : (chain.map (·.2.orderId)).Nodup
  acceptedSequence : pool.acceptedSequence = chain.length
  acceptedQuantity : pool.acceptedQuantity = (chain.map (·.2.quantity)).sum
  lastAcceptedId : pool.lastAcceptedId = acceptances.lastId pool.poolId chain
  within : pool.acceptedQuantity ≤ grant.quantity
  closing : ∀ rumor ∈ pool.closingRumor, pool.state ≠ .active ∧
    createStockAuthorityRumor P (.closed pool.close) rumor.createdAt = .ok rumor ∧
    pool.grantRumor.createdAt ≤ rumor.createdAt ∧
    ∀ x ∈ chain, x.2.acceptedAtMs ≤ rumor.createdAt * 1000 + 999

def Journal.PoolInOrder (P : StockPlatform) (db : Journal) (account poolId : Text) : Prop :=
  match db.pools.get (poolKey account poolId) with
  | none => db.entriesOf account poolId = []
  | some pool => pool.accountPubkey = account ∧ pool.poolId = poolId ∧
      ∃ grant chain, pool.InOrder P grant (db.entriesOf account poolId) chain

section
variable {P : StockPlatform} {db db' : Journal} {pool : Pool} {grant : StockGrant}
  {account poolId : Text} {entries entries' : List Entry}
  {chain : List (Rumor × StockAcceptance)}

lemma poolInOrder_of_get (hg : db.pools.get (poolKey account poolId) = some pool) :
    db.PoolInOrder P account poolId ↔ pool.accountPubkey = account ∧ pool.poolId = poolId ∧
      ∃ grant chain, pool.InOrder P grant (db.entriesOf account poolId) chain := by
  unfold Journal.PoolInOrder
  rw [hg]

lemma poolInOrder_of_none (hg : db.pools.get (poolKey account poolId) = none) :
    db.PoolInOrder P account poolId ↔ db.entriesOf account poolId = [] := by
  unfold Journal.PoolInOrder
  rw [hg]

lemma poolInOrder_intro (pool : Pool)
    (hg : db.pools.get (poolKey pool.accountPubkey pool.poolId) = some pool)
    (h : pool.InOrder P grant (db.entriesOf pool.accountPubkey pool.poolId) chain) :
    db.PoolInOrder P pool.accountPubkey pool.poolId :=
  (poolInOrder_of_get hg).2 ⟨rfl, rfl, grant, chain, h⟩

variable {rumor : Rumor} {payload : StockPayload} {createdAt nowMs : Int} {e : Entry}

lemma createStockAuthorityRumor_content
    (h : createStockAuthorityRumor P payload createdAt = .ok rumor) :
    rumor.content = payload ∧ rumor.createdAt = createdAt := by
  obtain ⟨-, -, -, -, rfl⟩ := createStockAuthorityRumor_ok.1 h
  exact ⟨rfl, rfl⟩

lemma createStockAuthorityRumor_parses (hh : ∀ message, IsHex64 (P.eventHash message))
    (h : createStockAuthorityRumor P payload createdAt = .ok rumor) :
    parseStockAuthorityRumor P rumor = .ok payload := by
  obtain ⟨hp, ht, hb, hf, rfl⟩ := createStockAuthorityRumor_ok.1 h
  exact parseStockAuthorityRumor_ok.2
    ⟨rfl, rfl, hh _, hb, hp, ht, rfl, rfl, rfl, hf⟩

lemma Pool.InOrder.congr_entries (h : pool.InOrder P grant entries chain)
    (hpm : (entries'.map Entry.rumor).Perm (entries.map Entry.rumor))
    (hr : ∀ e ∈ entries', ∃ a, e.Records a) : pool.InOrder P grant entries' chain :=
  { h with carried := hpm.trans h.carried, records := hr }

lemma Pool.InOrder.lastTime_le (h : pool.InOrder P grant (db.entriesOf account poolId) chain)
    (hs : pool.grantRumor.createdAt * 1000 ≤ nowMs)
    (hp : checkPredecessor P db pool account nowMs = .ok ()) :
    acceptances.lastTime (pool.grantRumor.createdAt * 1000) chain ≤ nowMs := by
  rcases eq_nil_or_concat' chain with rfl | ⟨init, x, rfl⟩
  · exact hs
  · rw [Reading.lastTime_concat]
    have hseq := h.acceptedSequence
    rw [length_append, length_singleton] at hseq
    have hl := h.lastAcceptedId
    rw [Reading.lastId_concat] at hl
    unfold checkPredecessor at hp
    rw [if_pos (by omega)] at hp
    obtain ⟨e, he, hr⟩ := mem_map.1 (h.carried.mem_iff.2
      (mem_map_of_mem (mem_append_right init (mem_singleton_self x))))
    obtain ⟨hrow, heac, -⟩ := mem_entriesOf.1 he
    obtain ⟨a, ha⟩ := h.records e he
    have hk : db.entries.get (entryKey account pool.lastAcceptedId) = some e := by
      rw [hl, ← Table.get_of_mem hrow, ha.id, heac, hr]
      rfl
    have hc := (createStockAuthorityRumor_content (h.created x (by simp))).1
    simp only [hk, hr, bind_ok, parseAcceptance_ok, reject_ok, not_or, not_lt]
      at hp
    obtain ⟨previous, hprs, -, -, hle⟩ := hp
    have hpr := (parseStockAuthorityRumor_ok.1 hprs).1
    rw [hc] at hpr
    obtain rfl := StockPayload.accepted.inj hpr
    exact hle

lemma Pool.InOrder.accepts (h : pool.InOrder P grant (db.entriesOf pool.accountPubkey pool.poolId)
    chain) {input : AcceptanceInput}
    (hn : ∀ e ∈ db.entriesOf pool.accountPubkey pool.poolId, e.orderId ≠ input.orderId)
    (hact : pool.state = .active) (hexpy : input.nowMs < grant.expiresAtMs)
    (hs : pool.grantRumor.createdAt * 1000 ≤ input.nowMs)
    (hp : checkPredecessor P db pool pool.accountPubkey input.nowMs = .ok ())
    (hleft : input.quantity ≤ pool.quantity - pool.acceptedQuantity)
    (hrum : createStockAuthorityRumor P (.accepted (input.payload pool)) (input.nowMs / 1000) =
      .ok rumor) : (pool.accepts input.quantity rumor).InOrder P grant
      (db.entriesOf pool.accountPubkey pool.poolId ++ [input.entry pool rumor])
      (chain ++ [(rumor, input.payload pool)]) := by
  have ht := h.lastTime_le hs hp
  obtain ⟨hcar, hacc', hac, hpo⟩ := h.own
  obtain ⟨-, -, hm, horg, hwr, -, -, hqty⟩ := hcar
  have hopen : pool.closingRumor = none := by
    by_contra hne
    obtain ⟨r, hr⟩ := Option.ne_none_iff_exists'.1 hne
    exact (h.closing r hr).1 hact
  refine ⟨h.authority, ⟨h.own.carries, hacc', hac, hpo⟩, ?_, ?_, ?_, ?_, ?_, ?_, ?_,
    ?_, ?_, ?_, ?_, ?_⟩
  · simpa [AcceptanceInput.entry] using h.carried.append_right [rumor]
  · intro e he
    rcases mem_append.1 he with he | he
    · exact h.records e he
    · obtain rfl := mem_singleton.1 he
      refine ⟨input.payload pool, (createStockAuthorityRumor_content hrum).1, rfl, rfl, rfl, rfl,
        rfl, rfl⟩
  · rw [forall_mem_append]
    exact ⟨h.created, forall_mem_singleton.2 hrum⟩
  · rw [forall_mem_append]
    refine ⟨h.parties, forall_mem_singleton.2 ⟨?_, rfl⟩⟩
    simp only [AcceptanceInput.payload, hm, horg, hwr]
  · refine h.linked.concat ?_ h.lastAcceptedId ht
    change pool.acceptedSequence + 1 = _
    rw [h.acceptedSequence]
  · rw [forall_mem_append]
    exact ⟨h.expires, forall_mem_singleton.2 hexpy⟩
  · rw [map_append, nodup_append]
    refine ⟨h.orders, by simp, ?_⟩
    intro o ho o' ho' heq
    obtain rfl : o' = input.orderId := by simpa [AcceptanceInput.payload] using ho'
    obtain ⟨x, hx, rfl⟩ := mem_map.1 ho
    obtain ⟨e, he, hxe⟩ := mem_map.1 (h.carried.mem_iff.2 (mem_map_of_mem hx))
    obtain ⟨a, ha⟩ := h.records e he
    have hc := (createStockAuthorityRumor_content (h.created x hx)).1
    rw [← hxe, ha.content] at hc
    exact hn e he (ha.orderId.symm.trans ((congrArg StockAcceptance.orderId
      (StockPayload.accepted.inj hc)).trans heq))
  · simp [Pool.accepts, h.acceptedSequence]
  · simp [Pool.accepts, h.acceptedQuantity, AcceptanceInput.payload]
  · rw [Reading.lastId_concat]
    rfl
  · change pool.acceptedQuantity + input.quantity ≤ _
    omega
  · intro r hr
    change r ∈ pool.closingRumor at hr
    rw [hopen] at hr
    cases hr

lemma Pool.InOrder.closes (h : pool.InOrder P grant (db.entriesOf account poolId) chain)
    (hs : pool.grantRumor.createdAt * 1000 ≤ nowMs)
    (hp : checkPredecessor P db pool account nowMs = .ok ())
    (hr : createStockAuthorityRumor P (.closed pool.close) (nowMs / 1000) = .ok rumor) :
    Pool.InOrder P { pool with state := .closing, closingRumor := some rumor } grant
      (db.entriesOf account poolId) chain := by
  have htime := h.lastTime_le hs hp
  have hm := (createStockAuthorityRumor_content hr).2
  refine { h with
    own := ⟨h.own.carries, h.own.account, h.own.accountHex, h.own.poolHex⟩
    closing := ?_ }
  rintro r ⟨⟩
  refine ⟨by simp, ?_, ?_, ?_⟩
  · rw [hm]
    exact hr
  · rw [hm]
    change pool.grantRumor.createdAt ≤ _
    omega
  · intro x hx
    have hx := h.linked.time_le hx
    change x.2.acceptedAtMs ≤ _ at hx
    omega

lemma Pool.InOrder.acknowledged (h : pool.InOrder P grant entries chain)
    (importedQuantity importedSequence : Int) (lastImportedId : Text) : Pool.InOrder P { pool with
      state := .closed
      importedQuantity := importedQuantity
      importedSequence := importedSequence
      lastImportedId := lastImportedId } grant entries chain := by
  refine { h with
    own := ⟨h.own.carries, h.own.account, h.own.accountHex, h.own.poolHex⟩
    closing := fun r hr => ?_ }
  obtain ⟨-, hm, hs, ht⟩ := h.closing r hr
  exact ⟨by simp, hm, hs, ht⟩

lemma newPool_inOrder (hgr : readGrant P rumor = .ok grant) :
    (newPool grant.organizerPubkey rumor grant .active).InOrder P grant [] [] := by
  obtain ⟨-, ho, -, hid, hqty⟩ := readGrant_parties hgr
  refine ⟨hgr, ⟨⟨rfl, rfl, rfl, rfl, rfl, rfl, rfl, rfl⟩, rfl, ho, hid⟩, .nil, ?_, ?_, ?_,
    .nil, ?_, nodup_nil, rfl, rfl, rfl, ?_, ?_⟩
  · simp
  · simp
  · simp
  · simp
  · change (0 : Int) ≤ _
    omega
  · rintro r ⟨⟩

lemma entriesOf_bind (account poolId : Text) (he : e ∈ db.entries.rows)
    (binding : Option (List PoolLine)) :
    (((db.rebind e binding).entriesOf account poolId).map Entry.rumor).Perm
        ((db.entriesOf account poolId).map Entry.rumor) ∧
      ∀ f ∈ (db.rebind e binding).entriesOf account poolId, ∃ f' ∈ db.entriesOf account poolId,
        ∃ b, f = { f' with orderPoolBinding := b } := by
  have hg : db.entries.get e.id = some e := get_of_mem he
  refine ⟨?_, fun f hf => ?_⟩
  · exact map_filter_put_perm (a := { e with orderPoolBinding := binding }) (b := e)
      (p := fun e => e.accountPubkey = account ∧ e.poolId = poolId) (f := Entry.rumor) hg rfl rfl
  obtain ⟨hr, hp⟩ := mem_entriesOf.1 hf
  rcases mem_put.1 (show f ∈ (db.entries.put _).rows from hr) with rfl | ⟨hr, -⟩
  · exact ⟨e, mem_entriesOf.2 ⟨he, hp⟩, binding, rfl⟩
  · exact ⟨f, mem_entriesOf.2 ⟨hr, hp⟩, f.orderPoolBinding, rfl⟩

lemma entriesOf_put (account poolId : Text) (hk : db.entries.get e.id = none)
    (pools : Table Pool Pool.id) :
    Journal.entriesOf { db with entries := db.entries.put e, pools } account poolId =
      db.entriesOf account poolId ++ if e.accountPubkey = account ∧ e.poolId = poolId then [e]
        else [] := by
  unfold Journal.entriesOf
  rw [put_of_get_none hk, filter_append]
  split_ifs with h
  · simp [h]
  · simpa using h

lemma poolInOrder_put (h : db.PoolInOrder P account poolId)
    (hg : db'.pools.get (poolKey account poolId) = db.pools.get (poolKey account poolId))
    (he : db'.entriesOf account poolId = db.entriesOf account poolId) :
    db'.PoolInOrder P account poolId := by
  unfold Journal.PoolInOrder at h ⊢
  rw [hg, he]
  exact h

lemma JournalMove.poolInOrder (h : JournalMove P db db') (hdb : db.PoolInOrder P account poolId) :
    db'.PoolInOrder P account poolId := by
  cases h with
  | @accept pool grant input rumor hp hown hgr hacc hnew hact hexpy hs
      hpr hqty hl hr hk =>
    by_cases hid : poolKey account poolId = pool.id
    · have hg := Table.get_of_mem hp
      rw [← hid] at hg
      obtain ⟨rfl, rfl, grant', chain, ho⟩ := (poolInOrder_of_get hg).1 hdb
      obtain rfl : grant = grant' := Except.ok.inj (hgr.symm.trans ho.authority)
      have hn := ho.accepts hnew hact hexpy hs hpr hl hr
      have hent := entriesOf_put pool.accountPubkey pool.poolId hk
        (db.pools.put (pool.accepts input.quantity rumor))
      rw [if_pos ⟨hacc, rfl⟩] at hent
      rw [← hent] at hn
      exact poolInOrder_intro (pool.accepts input.quantity rumor)
        ((congrArg _ hid).trans (get_put_self _ _)) hn
    · refine poolInOrder_put hdb (get_put_of_ne (by exact hid)) ?_
      rw [entriesOf_put account poolId hk, if_neg, append_nil]
      rintro ⟨rfl, rfl⟩
      exact hid ((congrArg (poolKey · pool.poolId) hacc).trans hown.carries.2.1.symm)
  | @bind e he binding =>
    obtain ⟨hpm, hro⟩ := entriesOf_bind account poolId he binding
    have heq : (db.rebind e binding).pools.get (poolKey account poolId) =
        db.pools.get (poolKey account poolId) := rfl
    cases hg : db.pools.get (poolKey account poolId) with
    | none =>
      rw [poolInOrder_of_none hg] at hdb
      refine (poolInOrder_of_none (heq.trans hg)).2 (eq_nil_iff_forall_not_mem.2 fun f hf => ?_)
      obtain ⟨f', hf', -⟩ := hro f hf
      rw [hdb] at hf'
      cases hf'
    | some pool =>
      obtain ⟨hacc, hpid, grant, chain, ho⟩ := (poolInOrder_of_get hg).1 hdb
      refine (poolInOrder_of_get (heq.trans hg)).2 ⟨hacc, hpid, grant, chain,
        ho.congr_entries hpm fun f hf => ?_⟩
      obtain ⟨f', hf', b, rfl⟩ := hro f hf
      obtain ⟨a, ha⟩ := ho.records f' hf'
      exact ⟨a, ha.content, ha.id, ha.poolId, ha.sequence, ha.orderId, ha.claimRef, ha.quantity⟩
  | @close pool grant rumor nowMs hp hown hgr hopen hact hs hpr hr =>
    by_cases hid : poolKey account poolId = pool.id
    · have hg := Table.get_of_mem hp
      rw [← hid] at hg
      obtain ⟨rfl, rfl, grant', chain, ho⟩ := (poolInOrder_of_get hg).1 hdb
      exact poolInOrder_intro { pool with state := .closing, closingRumor := some rumor }
        ((congrArg _ hid).trans (get_put_self _ _))
        (ho.closes hs hpr hr)
    · exact poolInOrder_put hdb (get_put_of_ne (by exact hid)) rfl
  | @acknowledge pool hp hcls qty sequence lastId =>
    by_cases hid : poolKey account poolId = pool.id
    · have hg := Table.get_of_mem hp
      rw [← hid] at hg
      obtain ⟨rfl, rfl, grant, chain, ho⟩ := (poolInOrder_of_get hg).1 hdb
      exact poolInOrder_intro { pool with
        state := .closed
        importedQuantity := qty
        importedSequence := sequence
        lastImportedId := lastId } ((congrArg _ hid).trans (get_put_self _ _))
        (ho.acknowledged qty sequence lastId)
    · exact poolInOrder_put hdb (get_put_of_ne (by exact hid)) rfl
  | @install rumor grant hgr hno =>
    by_cases hid : poolKey account poolId = poolKey grant.organizerPubkey rumor.id
    · obtain ⟨-, horg, -, hrum, -⟩ := readGrant_parties hgr
      obtain ⟨rfl, rfl⟩ := key_inj horg hrum hid
      rw [poolInOrder_of_none hno] at hdb
      refine (poolInOrder_of_get (get_put_self db.pools _)).2 ⟨rfl, rfl, grant, [], ?_⟩
      change Pool.InOrder P _ grant (db.entriesOf _ _) []
      rw [hdb]
      exact newPool_inOrder hgr
    · exact poolInOrder_put hdb (get_put_of_ne (by exact hid)) rfl
  | register writers => exact hdb

def Journal.KeepsClose (db db' : Journal) (account poolId : Text) : Prop :=
  ∀ pool rumor, db.pools.get (poolKey account poolId) = some pool → pool.closingRumor = some rumor →
    ∃ pool', db'.pools.get (poolKey account poolId) = some pool' ∧
      pool'.closingRumor = some rumor ∧ pool'.close = pool.close ∧
      ((db'.entriesOf account poolId).map Entry.rumor).Perm
        ((db.entriesOf account poolId).map Entry.rumor)

lemma Journal.KeepsClose.refl (db : Journal) (account poolId : Text) :
    db.KeepsClose db account poolId :=
  fun pool _ hg hc => ⟨pool, hg, hc, rfl, Perm.refl _⟩

lemma Journal.KeepsClose.trans {db₁ db₂ : Journal} (h : db.KeepsClose db₁ account poolId)
    (h' : db₁.KeepsClose db₂ account poolId) : db.KeepsClose db₂ account poolId := by
  intro pool rumor hg hcls
  obtain ⟨pool₁, hg₁, hcls₁, hc₁, hpm₁⟩ := h pool rumor hg hcls
  obtain ⟨pool₂, hg₂, hcls₂, hc₂, hpm₂⟩ := h' pool₁ rumor hg₁ hcls₁
  exact ⟨pool₂, hg₂, hcls₂, hc₂.trans hc₁, hpm₂.trans hpm₁⟩

lemma JournalMove.keepsClose (h : JournalMove P db db') (hdb : db.PoolInOrder P account poolId) :
    db.KeepsClose db' account poolId := by
  intro pool rumor hg hc
  obtain ⟨rfl, rfl, grant, chain, hord⟩ := (poolInOrder_of_get hg).1 hdb
  have hen := (hord.closing rumor hc).1
  have hr := mem_of_get hg
  have hk := key_of_get hg
  have heq : ∀ {other : Pool}, other ∈ db.pools.rows →
      poolKey pool.accountPubkey pool.poolId = other.id → other = pool := fun hoth hid =>
    Keyed.eq_of_key_eq db.pools.nodup hoth hr (hid.symm.trans hk.symm)
  cases h with
  | @accept other grant input message hp ho hgr ha hnew hact hexpy hs
      hpr hqty hleft hrum hent =>
    have hne : poolKey pool.accountPubkey pool.poolId ≠ other.id := fun hid =>
      hen (heq hp hid ▸ hact)
    refine ⟨pool, (get_put_of_ne (by exact hne)).trans hg, hc, rfl, ?_⟩
    rw [entriesOf_put _ _ hent, if_neg, append_nil]
    rintro ⟨ha', hpid⟩
    refine hne ?_
    rw [← ha', ← hpid]
    exact (congrArg (poolKey · other.poolId) ha).trans ho.carries.2.1.symm
  | bind he binding =>
    exact ⟨pool, hg, hc, rfl, (entriesOf_bind _ _ he binding).1⟩
  | @close other grant message nowMs hp ho hgr hopen hact hs hpr hrum =>
    have hne : poolKey pool.accountPubkey pool.poolId ≠ other.id := fun hid =>
      hen (heq hp hid ▸ hact)
    exact ⟨pool, (get_put_of_ne (by exact hne)).trans hg, hc, rfl, Perm.refl _⟩
  | @acknowledge other hp hst quantity sequence lastId =>
    by_cases hid : poolKey pool.accountPubkey pool.poolId = other.id
    · obtain rfl := heq hp hid
      refine ⟨{ other with
        state := .closed
        importedQuantity := quantity
        importedSequence := sequence
        lastImportedId := lastId }, ?_, hc, rfl, Perm.refl _⟩
      rw [hid]
      exact get_put_self _ _
    · exact ⟨pool, (get_put_of_ne (by exact hid)).trans hg, hc, rfl,
        Perm.refl _⟩
  | @install message grant hgr hn =>
    have hne : poolKey pool.accountPubkey pool.poolId ≠ poolKey grant.organizerPubkey message.id := by
      intro hid
      rw [hid, hn] at hg
      cases hg
    exact ⟨pool, (get_put_of_ne (by exact hne)).trans hg, hc, rfl, Perm.refl _⟩
  | register writers => exact ⟨pool, hg, hc, rfl, Perm.refl _⟩

lemma Moves.poolInOrder (h : Moves P db db') (hdb : db.PoolInOrder P account poolId) :
    db'.PoolInOrder P account poolId ∧ db.KeepsClose db' account poolId := by
  induction h with
  | refl => exact ⟨hdb, .refl db account poolId⟩
  | tail _ hm ih => exact ⟨hm.poolInOrder ih.1, ih.2.trans (hm.keepsClose ih.1)⟩

end

inductive JournalOp where
  | install (input : InstallInput)
  | acceptance (input : AcceptanceInput)
  | order (input : OrderAcceptanceInput)
  | close (input : OrganizerCloseInput)

def JournalOp.apply (P : StockPlatform) (db : Journal) : JournalOp → Result Journal
  | .install input => installOrganizerStockHandover P db input
  | .acceptance input => do
    let (db, _) ← commitOrganizerStockAcceptance P db input
    return db
  | .order input => commitOrganizerStockOrder P db input
  | .close input => do
    let (db, _) ← beginOrganizerStockClose P db input
    return db

def Journal.after (P : StockPlatform) (db : Journal) (op : JournalOp) : Journal :=
  match op.apply P db with
  | .ok db' => db'
  | .error _ => db

section
variable {P : StockPlatform} {db db' : Journal} {account poolId : Text}

lemma JournalOp.apply_moves {op : JournalOp} (h : op.apply P db = .ok db') : Moves P db db' := by
  cases op with
  | install input => exact installOrganizerStockHandover_moves h
  | acceptance input =>
    obtain ⟨⟨db₁, accepted⟩, hcmt, h⟩ := bind_ok.1 h
    obtain rfl := pure_ok.1 h
    exact (commitOrganizerStockAcceptance_moves hcmt).1
  | order input => exact commitOrganizerStockOrder_moves h
  | close input =>
    obtain ⟨⟨db₁, rumor⟩, hc, h⟩ := bind_ok.1 h
    obtain rfl := pure_ok.1 h
    exact beginOrganizerStockClose_moves hc

lemma after_moves (P : StockPlatform) (db : Journal) (op : JournalOp) :
    Moves P db (db.after P op) := by
  unfold Journal.after
  cases hop : op.apply P db with
  | ok db' => exact op.apply_moves hop
  | error e => exact Relation.ReflTransGen.refl

lemma run_moves (P : StockPlatform) (db : Journal) (ops : List JournalOp) :
    Moves P db (ops.foldl (Journal.after P) db) := by
  induction ops generalizing db with
  | nil => exact Relation.ReflTransGen.refl
  | cons op ops ih => exact (after_moves P db op).trans (ih _)

end

namespace Sample

def writer : Text := "6f1c2a34-5b6d-4e7f-8a90-123456789abc"

def poolId : Text := hexText 64
  0x3d6b6e204892ee5b458398f9977a8c766b8ecd6be6a1ff60571ec6a18b476454

def assignmentEventId : Text := hexText 64
  0xa94a3cf114edd5493e1c162d1ade7f8467a3ea7ca21d8915cfa0759e0138be61

def grant : StockGrant where
  merchantPubkey := merchant
  organizerPubkey := organizer
  writerId := writer
  nonce := "0a1b2c3d-4e5f-4a6b-9c7d-0123456789ab"
  productCoordinate := product
  assignmentCoordinate := assignment
  marketCoordinate := market
  occurrenceCoordinate := occurrence
  productEventId := productEvent.id
  assignmentEventId := assignmentEventId
  marketEventId := marketEventId
  occurrenceEventId := openingEventId
  grantEventId := grantEventId
  scheduleEventId := none
  quantity := 3
  expiresAtMs := 1800057600000

def grantRumor : Rumor := { authorityMessage (.grant grant) 1800000100 with id := poolId }

def acceptance : StockAcceptance where
  merchantPubkey := merchant
  organizerPubkey := organizer
  writerId := writer
  poolId := poolId
  sequence := 1
  previousId := poolId
  orderId := "order-1"
  identityBinding := hexText 64 0xbe224929ff24bc11f81ea04234b7f7d5eca70265f17e7b429e44e767e2d7665c
  termsBinding := hexText 64 0xd97a59105c75d1009c3fda15454093093e1a9a641e717fa19481a720bafc2b15
  claimRef := hexText 64 0x144b0ea181f02aca3096ce31dc66b32f1bc8f97bbe5cdfe8b11954e1aa5f52be
  quantity := 2
  acceptedAtMs := 1800000200000

def acceptedId : Text := hexText 64
  0xc661568da222866dfe61836d9656e6fb3149f9089b7ffbdf5142190abadcff8a

def close : StockClose where
  merchantPubkey := merchant
  organizerPubkey := organizer
  writerId := writer
  poolId := poolId
  sequence := 1
  lastAcceptedId := acceptedId
  acceptedQuantity := 2

def closeId : Text := hexText 64
  0xd9be5504c7783df550a2df66984bf7791427f8d1370c9d21d1a6a726f64178bc

def committedEvent : SignedEvent where
  id := hexText 64 0xc23c1332456c3c55a465cde064150a0174bc46fec98fd0c06999700e74e8c965
  pubkey := merchant
  createdAt := 1800000110
  kind := 30410
  tags := [["d", assignmentHash], ["openmarkets", "event-market-assignment", "1"], ["a", market],
    ["a", occurrence], ["a", product], ["state", "active"], ["inventory", "tracked", "3"],
    ["fulfillment", "pickup"], ["prev", assignmentEventId],
    ["conduit_stock_pool", "1", "active", poolId, organizer, "3", "0"],
    ["alt", "Open Markets occurrence product assignment"]]
  content := ""
  sig := hexText 128 0xdda1bf2c7210c216a402375dc1b304787f76cd79b53e687f77e2cdd9715776ba6217f6f9b68df030730ed49e67f668896043f2963e26443f3ae3f8b55d13c1da

def organizerPlatform : StockPlatform :=
  { platform with
    eventHash := fun message =>
      if message = authorityMessage (.grant grant) 1800000100 then poolId
      else if message = authorityMessage (.accepted acceptance) 1800000200 then acceptedId
      else if message = authorityMessage (.closed close) 1800000300 then closeId
      else []
    payloadBytes := fun
      | .grant _ => 1219
      | .accepted _ => 726
      | .closed _ => 442
      | .handedOut _ => 0
    isValidSignedEvent := fun event => decide (event = committedEvent)
    eventBytes := fun _ => 1099 }

def emptyJournal : Journal where
  pools := Table.empty
  entries := Table.empty
  writers := Table.empty

def install : InstallInput where
  authenticatedPubkey := organizer
  writerId := writer
  grantRumor := grantRumor
  committedAssignmentEvent := committedEvent
  closedAssignmentEvents := []
  expectedWriterRegistration := none
  shouldContinue := true
  nowMs := 1800000120000

def sale (orderId : Text) (nowMs : Int) : OrderAcceptanceInput where
  authenticatedPubkey := organizer
  orderId := orderId
  identityBinding := acceptance.identityBinding
  termsBinding := acceptance.termsBinding
  claimRef := acceptance.claimRef
  evidence := "evidence"
  entries := [{ poolId, writerId := writer, quantity := 2 }]
  shouldContinue := true
  nowMs := nowMs

def closing : OrganizerCloseInput where
  authenticatedPubkey := organizer
  writerId := writer
  poolId := poolId
  shouldContinue := true
  nowMs := 1800000300000

def journalOps : List JournalOp :=
  [.install install, .order (sale "order-1" 1800000200000), .close closing]

end Sample

/-- Every pool that the organizer installs stays in order, whatever operations follow; and its close
is final. -/
theorem organizer_journal_in_order (P : StockPlatform) (account poolId : Text) (db : Journal)
    (hpool : db.pools.get (poolKey account poolId) = none)
    (hentries : db.entriesOf account poolId = []) (ops ops' : List JournalOp) :
    (ops.foldl (Journal.after P) db).PoolInOrder P account poolId ∧
      (ops.foldl (Journal.after P) db).KeepsClose ((ops ++ ops').foldl (Journal.after P) db) account
        poolId := by
  have hinitial : db.PoolInOrder P account poolId := (poolInOrder_of_none hpool).2 hentries
  have horder := ((run_moves P db ops).poolInOrder hinitial).1
  refine ⟨horder, ?_⟩
  rw [foldl_append]
  exact ((run_moves P _ ops').poolInOrder horder).2

theorem organizer_journal_sample :
    let db := journalOps.foldl (Journal.after organizerPlatform) emptyJournal
    (db.pools.get (poolKey organizer poolId)).map Pool.close = some close ∧
      db.PoolInOrder organizerPlatform organizer poolId ∧
      db.KeepsClose ((journalOps ++ [JournalOp.order (sale "order-2" 1800000400000)]).foldl
        (Journal.after organizerPlatform) emptyJournal) organizer
        poolId :=
  ⟨by decide +kernel, organizer_journal_in_order organizerPlatform organizer
    poolId emptyJournal rfl rfl journalOps _⟩

end Conduit.Stock
