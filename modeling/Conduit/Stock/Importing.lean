import Conduit.Stock.Selling

namespace Conduit.Stock

open Js Throwing List Option Table VerifiedEntry

structure VerifiedEntry.Reads (P : StockPlatform) (input : ImportInput) (e : VerifiedEntry)
    (grant : StockGrant) : Prop where
  envelope : e.envelope ∈ input.acceptedEnvelopes
  unwraps : P.unwrap e.envelope = some e.rumor
  parsed : parseStockAuthorityRumor P e.rumor = .ok (.accepted e.payload)
  authority : readGrant P e.grantRumor = .ok grant
  parties : e.payload.toStockParties = grant.toStockParties
  merchant : grant.merchantPubkey = input.order.merchantPubkey
  organizer : grant.organizerPubkey = input.order.organizerPubkey
  poolId : e.payload.poolId = e.grantRumor.id
  orderId : e.payload.orderId = input.order.id
  claimRef : e.payload.claimRef = input.order.claimRef
  identityHash : e.payload.identityBinding = input.order.identityHash
  termsHash : e.payload.termsBinding = input.order.termsHash
  start : e.grantRumor.createdAt * 1000 ≤ e.payload.acceptedAtMs
  expires : e.payload.acceptedAtMs < grant.expiresAtMs

def VerifiedEntry.sold (P : StockPlatform) (coordinate : Text) (e : VerifiedEntry) : Int :=
  match readGrant P e.grantRumor with
  | .ok grant => if grant.assignmentCoordinate = coordinate then e.payload.quantity else 0
  | .error _ => 0

structure ReadsImport (P : StockPlatform) (input : ImportInput) (items : List OrderItem)
    (entries : List VerifiedEntry) : Prop where
  read : ∀ e ∈ entries, ∃ grant, e.Reads P input grant
  nodup : (entries.map (·.payload.poolId)).Nodup
  picked : ∀ item ∈ items, item.method = .pickup
  named : ∀ item ∈ items, ∃ c, item.assignmentCoordinate = some c ∧ c ≠ []
  handed : ∀ c, handed items c = (entries.map (VerifiedEntry.sold P c)).sum

section
variable {P : StockPlatform} {db db' : Ledger} {pool : Pool} {grant : StockGrant} {c : Text}
  {input : ImportInput} {items : List OrderItem} {entries : List VerifiedEntry}
  {e : VerifiedEntry}
  {merchantPubkey : Text} {v : VerifiedImport} {rumor : Rumor} {pools : DelegatedPools}
  {item : OrderItem}

lemma validateMerchantOrganizerStockPool_ok :
    validateMerchantOrganizerStockPool P pool merchantPubkey = .ok grant ↔
      readGrant P pool.grantRumor = .ok grant ∧ pool.accountPubkey = merchantPubkey ∧
        pool.merchantPubkey = merchantPubkey ∧ pool.Carries grant ∧
        pool.CountersInOrder pool.quantity ∧
        ¬ (pool.importedSequence < pool.acceptedSequence ∧
          pool.acceptedQuantity ≤ pool.importedQuantity) := by
  unfold validateMerchantOrganizerStockPool
  rw [bind_ok, readGrant_ok]
  constructor
  · rintro ⟨payload, hp, h⟩
    cases payload with
    | grant g =>
      simp only [rejects_ok, pure_ok, not_or, not_not] at h
      obtain ⟨⟨hacc, hm, hcar, hc, ha⟩, rfl⟩ := h
      exact ⟨hp, hacc, hm, hcar, hc, ha⟩
    | accepted | closed | handedOut => cases h
  · rintro ⟨hp, hacc, hm, hcar, hc, ha⟩
    refine ⟨_, hp, rejects_ok.2 ⟨?_, rfl⟩⟩
    simp only [not_or, not_not]
    exact ⟨hacc, hm, hcar, hc, ha⟩

lemma pool_of_get {account poolId : Text} (ha : IsHex64 account) (hp : IsHex64 poolId)
    (hg : db.pools.get (poolKey account poolId) = some pool) (hc : pool.Carries grant) :
    pool.accountPubkey = account ∧ pool.poolId = poolId :=
  key_inj ha hp (hc.2.1.symm.trans (key_of_get hg))

lemma assignmentCoordinate_ne_nil (h : readGrant P rumor = .ok grant) :
    grant.assignmentCoordinate ≠ [] := by
  obtain ⟨-, -, -, -, -, -, -, -, ⟨coord, hc, -⟩, -⟩ := readGrant_parses h
  intro he
  rw [he] at hc
  cases hc

lemma parseStockAuthorityRumor_accepted {a : StockAcceptance}
    (h : parseStockAuthorityRumor P rumor = .ok (.accepted a)) : rumor.content = .accepted a ∧
      a.toStockParties.Parses P ∧ a.Parses P := by
  obtain ⟨hc, -, -, -, hp, -⟩ := parseStockAuthorityRumor_ok.1 h
  exact ⟨hc.symm, hp⟩

variable {payload : StockAcceptance} {order : OrderInput} {chain : List (Rumor × StockAcceptance)}

lemma delegatedItem_ok {line : DelegatedLine}
    (h : delegatedItem pool grant payload line = .ok item) : item.method = .pickup ∧
      item.assignmentCoordinate = some grant.assignmentCoordinate ∧
      item.quantity = line.quantity := by
  unfold delegatedItem at h
  split at h
  · cases h
  · simp only [rejects_ok, pure_ok] at h
    obtain ⟨-, rfl⟩ := h
    exact ⟨rfl, rfl, rfl⟩

lemma handed_delegated {lines : List DelegatedLine}
    (h : mapResult (delegatedItem pool grant payload) lines = .ok items) (c : Text) :
    handed items c =
      if grant.assignmentCoordinate = c then (lines.map (·.quantity)).sum else 0 := by
  have hm := mapResult_map
    (g := fun (i : OrderItem) => if i.assignmentCoordinate = some c then i.quantity else 0)
    (k := fun (l : DelegatedLine) => if grant.assignmentCoordinate = c then l.quantity else 0)
    (fun line item hi => by
      obtain ⟨-, hnm, hq⟩ := delegatedItem_ok hi
      simp [hnm, hq]) h
  rw [handed, hm]
  split_ifs
  · rfl
  · simp

lemma importEnvelope_reads {progress progress' : ImportProgress} {envelope : SignedEvent}
    (henv : envelope ∈ input.acceptedEnvelopes)
    (hr : ReadsImport P input progress.items progress.entries)
    (hs : progress.entries.map (·.payload.poolId) = progress.seen)
    (h : importEnvelope P db input progress envelope = .ok progress') :
    ReadsImport P input progress'.items progress'.entries ∧
      progress'.entries.map (·.payload.poolId) = progress'.seen := by
  simp only [importEnvelope] at h
  cases hu : P.unwrap envelope with
  | none =>
    rw [hu] at h
    cases h
  | some rumor =>
    simp only [hu, run_ok, parseAcceptance_ok] at h
    obtain ⟨payload, hprs, hmat, h⟩ := h
    simp only [not_or, not_not, not_lt] at hmat
    obtain ⟨hmer, horg, hord, hid, ht, hclm, -, -, hnew⟩ := hmat
    cases hget : db.pools.get (poolKey input.order.merchantPubkey payload.poolId) with
    | none =>
      rw [hget] at h
      cases h
    | some pool =>
      simp only [hget, run_ok, validateMerchantOrganizerStockPool_ok] at h
      obtain ⟨grant, ⟨hgr, -, hpo, hc, -⟩, hwit, items, hi, rfl⟩ := h
      simp only [not_or, not_not, not_lt, not_le] at hwit
      obtain ⟨-, -, hqty, hwr, hgran, hsta, hexpy⟩ := hwit
      obtain ⟨-, ⟨-, hm, -⟩, hids, -⟩ := parseStockAuthorityRumor_accepted hprs
      have hp : IsHex64 payload.poolId := hids _ mem_cons_self
      obtain ⟨-, hpid⟩ := pool_of_get (hmer ▸ hm) hp hget hc
      have hg : grant.merchantPubkey = input.order.merchantPubkey :=
        hc.2.2.1.symm.trans hpo
      refine ⟨⟨?_, ?_, ?_, ?_, ?_⟩, ?_⟩
      · rw [forall_mem_append]
        refine ⟨hr.read, forall_mem_singleton.2 ⟨grant, ?_⟩⟩
        refine ⟨henv, hu, hprs, hgr, ?_, hg,
          hgran.trans horg, hpid.symm.trans hc.1, hord, hclm, hid,
          ht, hsta, hexpy⟩
        have hpar : payload.toStockParties =
            ⟨payload.merchantPubkey, payload.organizerPubkey, payload.writerId⟩ := rfl
        rw [hpar, hmer, ← hg, ← hgran, ← hwr]
      · rw [map_append, nodup_append]
        refine ⟨hr.nodup, by simp, fun a ha b hb heq => hnew ?_⟩
        rw [hs] at ha
        obtain rfl : b = payload.poolId := by simpa using hb
        exact heq ▸ ha
      · rw [forall_mem_append]
        refine ⟨hr.picked, fun item hitem => ?_⟩
        obtain ⟨line, -, hl⟩ := mem_of_mapResult hi hitem
        exact (delegatedItem_ok hl).1
      · rw [forall_mem_append]
        refine ⟨hr.named, fun item hitem => ?_⟩
        obtain ⟨line, -, hl⟩ := mem_of_mapResult hi hitem
        exact ⟨_, (delegatedItem_ok hl).2.1, assignmentCoordinate_ne_nil hgr⟩
      · intro c
        rw [handed_append, hr.handed, handed_delegated hi, map_append, sum_append, hqty]
        simp [sold, hgr]
      · rw [map_append, hs]
        rfl

lemma bindTerms_ok {item' : OrderItem} (h : bindTerms db merchantPubkey item = .ok item') :
    item'.method = item.method ∧
      item'.assignmentCoordinate = item.assignmentCoordinate ∧ item'.quantity = item.quantity := by
  unfold bindTerms at h
  split at h
  · cases h
  · simp only [rejects_ok, pure_ok] at h
    obtain ⟨-, rfl⟩ := h
    exact ⟨rfl, rfl, rfl⟩

lemma readImport_reads {read : List OrderItem × List VerifiedEntry}
    (h : readImport P db input = .ok read) : ReadsImport P input read.1 read.2 := by
  simp only [readImport, run_ok] at h
  obtain ⟨-, -, -, progress, hp, -, items, hitems, rfl⟩ := h
  obtain ⟨hr, -⟩ := foldResult_keeps (p := fun (s : ImportProgress) =>
      ReadsImport P input s.items s.entries ∧ s.entries.map (·.payload.poolId) = s.seen)
    (fun envelope he s s' hs hst => importEnvelope_reads he hs.1 hs.2 hst)
    ⟨⟨by simp, by simp, by simp, by simp, by simp [handed]⟩, rfl⟩ hp
  have hsrc : ∀ item ∈ items, ∃ unbound ∈ progress.items,
      bindTerms db input.order.merchantPubkey unbound = .ok item := by
    intro item hi
    obtain ⟨unbound, hu, hbd⟩ := mem_of_mapResult hitems hi
    exact ⟨unbound, mem_mergeSort.1 hu, hbd⟩
  refine ⟨hr.read, hr.nodup, ?_, ?_, ?_⟩
  · intro item hi
    obtain ⟨unbound, hu, hbd⟩ := hsrc item hi
    rw [(bindTerms_ok hbd).1]
    exact hr.picked unbound hu
  · intro item hi
    obtain ⟨unbound, hu, hbd⟩ := hsrc item hi
    rw [(bindTerms_ok hbd).2.1]
    exact hr.named unbound hu
  · intro c
    have hm := mapResult_map
      (g := fun (i : OrderItem) => if i.assignmentCoordinate = some c then i.quantity else 0)
      (fun unbound item hbd => by
        obtain ⟨-, hnm, hq⟩ := bindTerms_ok hbd
        rw [hnm, hq]) hitems
    rw [← hr.handed, handed, hm, handed]
    exact ((mergeSort_perm _ _).map _).sum_eq

lemma Pool.ImportsInOrder.lastTime_le
    (h : pool.ImportsInOrder P grant (db.entriesOf pool.accountPubkey pool.poolId) chain)
    (hs : pool.grantRumor.createdAt * 1000 ≤ payload.acceptedAtMs)
    (hp : checkImportedPredecessor P db pool payload pool.accountPubkey = .ok ()) :
    acceptances.lastTime (pool.grantRumor.createdAt * 1000) chain ≤ payload.acceptedAtMs := by
  rcases eq_nil_or_concat' chain with rfl | ⟨init, x, rfl⟩
  · exact hs
  · rw [Reading.lastTime_concat]
    have hseq := h.importedSequence
    rw [length_append, length_singleton] at hseq
    have hl := h.lastImportedId
    rw [Reading.lastId_concat] at hl
    unfold checkImportedPredecessor at hp
    rw [if_pos (by omega)] at hp
    obtain ⟨e, he, hr⟩ := mem_map.1 (h.carried.mem_iff.2
      (mem_map_of_mem (mem_append_right init (mem_singleton_self x))))
    obtain ⟨hrow, hacc, -⟩ := mem_ledger_entriesOf.1 he
    obtain ⟨a, ha⟩ := (h.received e he).records
    have hk : db.entries.get (entryKey pool.accountPubkey pool.lastImportedId) = some e := by
      rw [hl, ← Table.get_of_mem hrow, ha.id, hacc, hr]
      rfl
    have hc := (parseStockAuthorityRumor_accepted (h.parsed x (by simp))).1
    simp only [hk, hr, bind_ok, parseAcceptance_ok, reject_ok, not_or, not_lt]
      at hp
    obtain ⟨prev, hprs, -, -, -, hle⟩ := hp
    have hpr := (parseStockAuthorityRumor_accepted hprs).1
    rw [hc] at hpr
    obtain rfl := StockPayload.accepted.inj hpr
    exact hle

structure VerifiedEntry.Held (P : StockPlatform) (db : Ledger) (merchantPubkey : Text)
    (e : VerifiedEntry) (pool : Pool) (grant : StockGrant) : Prop where
  get : db.pools.get (poolKey merchantPubkey e.payload.poolId) = some pool
  grantRumor : pool.grantRumor = e.grantRumor
  authority : readGrant P pool.grantRumor = .ok grant
  account : pool.accountPubkey = merchantPubkey
  carries : pool.Carries grant
  hold : ∃ assignment hold, db.assignments.get grant.assignmentCoordinate = some assignment ∧
    assignment.organizerStockHold = some hold ∧
    NextHeldEntry assignment hold pool e.payload merchantPubkey ∧
    e.payload.quantity ≤ assignment.held
  predecessor : checkImportedPredecessor P db pool e.payload merchantPubkey = .ok ()
  fresh : ∀ staged ∈ db.entries.get (entryKey merchantPubkey e.rumor.id), staged.imported = false

lemma checkDelegatedEntry_held {pools' : DelegatedPools}
    (h : checkDelegatedEntry P db order v pools e = .ok pools') :
    ∃ pool grant, e.Held P db order.merchantPubkey pool grant ∧
      pools' = pools.put (grant.assignmentCoordinate, pool) := by
  unfold checkDelegatedEntry at h
  cases hg : db.pools.get (poolKey order.merchantPubkey e.payload.poolId) with
  | none =>
    rw [hg] at h
    cases h
  | some pool =>
    simp only [hg, run_ok, not_not, validateMerchantOrganizerStockPool_ok] at h
    obtain ⟨hr, grant, ⟨hgr, hacc, -, hc, -⟩, h⟩ := h
    cases ha : db.assignments.get grant.assignmentCoordinate with
    | none =>
      rw [ha] at h
      cases h
    | some assignment =>
      simp only [ha, run_ok] at h
      obtain ⟨_, hn, _, hp, hst, -, rfl⟩ := h
      unfold checkNextHeldEntry at hn
      cases hh : assignment.organizerStockHold with
      | none =>
        rw [hh] at hn
        cases hn
      | some hold =>
        simp only [hh, bind_ok, reject_ok, exists_const, not_not,
          outstandingOrganizerStockHold_ok] at hn
        obtain ⟨hn, held, ⟨-, rfl⟩, hq⟩ := hn
        refine ⟨pool, grant, ⟨hg, hr, hgr, hacc, hc,
          ⟨assignment, hold, ha, hh, hn, not_lt.1 hq⟩, hp, ?_⟩, rfl⟩
        intro staged hg'
        by_contra hi
        exact hst ⟨staged, hg', fun hs => hi hs.1⟩

lemma delegatedPools_held {prior : Option AcceptedOrder}
    (h : delegatedPools P db order v prior = .ok pools) :
    (∀ e ∈ v.entries, ∃ pool grant, e.Held P db order.merchantPubkey pool grant) ∧
      ∀ x ∈ pools.rows, ∃ e ∈ v.entries, ∃ grant,
        e.Held P db order.merchantPubkey x.2 grant ∧ x.1 = grant.assignmentCoordinate := by
  simp only [delegatedPools, run_ok] at h
  obtain ⟨-, -, h⟩ := h
  suffices hlo : ∀ (l : List VerifiedEntry) (before : DelegatedPools),
      (∀ e ∈ l, e ∈ v.entries) → foldResult (checkDelegatedEntry P db order v) before l = .ok pools →
      (∀ x ∈ before.rows, ∃ e ∈ v.entries, ∃ grant,
        e.Held P db order.merchantPubkey x.2 grant ∧ x.1 = grant.assignmentCoordinate) →
      (∀ e ∈ l, ∃ pool grant, e.Held P db order.merchantPubkey pool grant) ∧
        ∀ x ∈ pools.rows, ∃ e ∈ v.entries, ∃ grant,
          e.Held P db order.merchantPubkey x.2 grant ∧ x.1 = grant.assignmentCoordinate from
    hlo v.entries .empty (fun _ he => he) h (fun x hx => absurd hx not_mem_nil)
  intro l
  induction l with
  | nil =>
    intro before _ hf hb
    cases hf
    exact ⟨fun e he => absurd he not_mem_nil, hb⟩
  | cons e l ih =>
    intro before hl hf hb
    rw [forall_mem_cons] at hl
    obtain ⟨after, hfst, hr⟩ := foldResult_cons_ok.1 hf
    obtain ⟨pool, grant, hh, rfl⟩ := checkDelegatedEntry_held hfst
    obtain ⟨ha, hro⟩ := ih _ hl.2 hr (by
      intro x hx
      rcases mem_put.1 hx with rfl | ⟨hx, -⟩
      · exact ⟨e, hl.1, grant, hh, rfl⟩
      · exact hb x hx)
    exact ⟨forall_mem_cons.2 ⟨⟨pool, grant, hh⟩, ha⟩, hro⟩

lemma Pool.ImportsInOrder.imports {saved : List Entry}
    (h : pool.ImportsInOrder P grant saved chain) (v : VerifiedImport)
    (ho : e.payload.orderId = order.orderId) (hu : P.unwrap e.envelope = some e.rumor)
    (hp : parseStockAuthorityRumor P e.rumor = .ok (.accepted e.payload))
    (hpar : e.payload.toStockParties = grant.toStockParties) (hpid : e.payload.poolId = pool.poolId)
    (hs : e.payload.sequence = pool.importedSequence + 1)
    (hpr : e.payload.previousId = pool.lastImportedId)
    (ht : acceptances.lastTime (pool.grantRumor.createdAt * 1000) chain ≤ e.payload.acceptedAtMs)
    (he : e.payload.acceptedAtMs < grant.expiresAtMs)
    (hleft : e.payload.quantity ≤ pool.quantity - pool.importedQuantity) :
    (pool.imports e.payload e.rumor).ImportsInOrder P grant
      (saved ++ [importedEntry order v e (pool.imports e.payload e.rumor)])
      (chain ++ [(e.rumor, e.payload)]) := by
  have hc : pool.acceptedSequence < e.payload.sequence := by
    rw [h.acceptedSequence]
    omega
  refine ⟨h.authority, h.carries, h.account, ?_, ?_, ?_, ?_, ?_, ?_, ?_, ?_, ?_, ?_, ?_, ?_, ?_, ?_⟩
  · simpa [importedEntry] using h.carried.append_right [e.rumor]
  · rw [forall_mem_append]
    refine ⟨h.received, forall_mem_singleton.2 ⟨rfl, ⟨e.envelope, rfl, hu⟩, ?_⟩⟩
    exact ⟨e.payload, (parseStockAuthorityRumor_accepted hp).1, rfl, hpid, rfl, ho, rfl, rfl⟩
  · rw [forall_mem_append]
    exact ⟨h.parsed, forall_mem_singleton.2 hp⟩
  · rw [forall_mem_append]
    exact ⟨h.parties, forall_mem_singleton.2 ⟨hpar, hpid⟩⟩
  · refine h.linked.concat ?_ ?_ ht
    · change e.payload.sequence = _
      rw [hs, h.importedSequence]
    · exact hpr.trans h.lastImportedId
  · rw [forall_mem_append]
    exact ⟨h.expires, forall_mem_singleton.2 he⟩
  · simp [Pool.imports, hs, h.importedSequence]
  · simp [Pool.imports, h.importedQuantity]
  · rw [Reading.lastId_concat]
    rfl
  · exact if_pos hc
  · exact if_pos hc
  · exact if_pos hc
  · have hqty : pool.quantity = grant.quantity := h.carries.2.2.2.2.2.2.2
    change pool.importedQuantity + e.payload.quantity ≤ _
    omega
  · change (if pool.state = .prepared then PoolState.active else pool.state) = .closed ↔
      pool.closingRumor ≠ none
    rw [← h.closing]
    split_ifs with hprep
    · simp [hprep]
    · rfl

structure Ready (P : StockPlatform) (order : OrderInput) (s : Ledger × DelegatedPools)
    (e : VerifiedEntry) (pool : Pool) (grant : StockGrant) (chain : List (Rumor × StockAcceptance)) :
    Prop where
  get : s.1.pools.get (poolKey order.merchantPubkey e.payload.poolId) = some pool
  rows : ∀ x ∈ s.2.rows, x.2.poolId = e.payload.poolId → x.2 = pool
  account : pool.accountPubkey = order.merchantPubkey
  poolId : e.payload.poolId = pool.poolId
  inOrder : pool.ImportsInOrder P grant (s.1.entriesOf pool.accountPubkey pool.poolId) chain
  fresh : s.1.entries.get (entryKey order.merchantPubkey e.rumor.id) = none
  orderId : e.payload.orderId = order.orderId
  unwraps : P.unwrap e.envelope = some e.rumor
  parsed : parseStockAuthorityRumor P e.rumor = .ok (.accepted e.payload)
  parties : e.payload.toStockParties = grant.toStockParties
  sequence : e.payload.sequence = pool.importedSequence + 1
  previousId : e.payload.previousId = pool.lastImportedId
  time : acceptances.lastTime (pool.grantRumor.createdAt * 1000) chain ≤ e.payload.acceptedAtMs
  expires : e.payload.acceptedAtMs < grant.expiresAtMs
  left : e.payload.quantity ≤ pool.quantity - pool.importedQuantity

def stored (order : OrderInput) (v : VerifiedImport) (s : Ledger × DelegatedPools)
    (e : VerifiedEntry) (coordinate : Text) (pool : Pool) : Ledger × DelegatedPools :=
  ({ s.1 with
    entries := s.1.entries.put (importedEntry order v e (pool.imports e.payload e.rumor))
    pools := s.1.pools.put (pool.imports e.payload e.rumor) },
    s.2.put (coordinate, pool.imports e.payload e.rumor))

section
variable {order : OrderInput} {v : VerifiedImport} {s s' : Ledger × DelegatedPools}
  {e' : VerifiedEntry} {pool' : Pool} {grant' : StockGrant}
  {chain chain' : List (Rumor × StockAcceptance)} {coord : Text}

section

variable (h : Ready P order s e pool grant chain)
include h

lemma Ready.storeImport (hs : storeImport order v s e = .ok s') :
    ∃ coord, s' = stored order v s e coord pool ∧ ∃ x ∈ s.2.rows, x.1 = coord ∧ x.2 = pool := by
  unfold Stock.storeImport at hs
  split at hs
  · cases hs
  · rename_i coord found hf
    have hm := mem_of_find?_eq_some hf
    have hf : found.poolId = e.payload.poolId := by simpa using find?_some hf
    obtain rfl : found = pool := h.rows _ hm hf
    cases hs
    exact ⟨coord, rfl, _, hm, rfl, rfl⟩

lemma Ready.key :
    (pool.imports e.payload e.rumor).id = poolKey order.merchantPubkey e.payload.poolId := by
  have hk : pool.id = _ := key_of_get h.get
  exact hk

lemma entriesOf_stored :
    (stored order v s e coord pool).1.entriesOf pool.accountPubkey pool.poolId =
      s.1.entriesOf pool.accountPubkey pool.poolId ++
        [importedEntry order v e (pool.imports e.payload e.rumor)] := by
  have hr := put_of_get_none (t := s.1.entries)
    (a := importedEntry order v e (pool.imports e.payload e.rumor)) h.fresh
  have ho : (importedEntry order v e (pool.imports e.payload e.rumor)).accountPubkey =
      pool.accountPubkey ∧ (importedEntry order v e (pool.imports e.payload e.rumor)).poolId =
        pool.poolId := ⟨h.account.symm, rfl⟩
  change ((s.1.entries.put _).rows.filter _) = _
  rw [hr, filter_append, filter_cons_of_pos (by simpa using ho)]
  rfl

lemma entriesOf_stored_ne {account poolId : Text}
    (hne : account ≠ pool.accountPubkey ∨ poolId ≠ pool.poolId) :
    (stored order v s e coord pool).1.entriesOf account poolId = s.1.entriesOf account poolId := by
  have hr := put_of_get_none (t := s.1.entries)
    (a := importedEntry order v e (pool.imports e.payload e.rumor)) h.fresh
  have ho : ¬ ((importedEntry order v e (pool.imports e.payload e.rumor)).accountPubkey = account ∧
      (importedEntry order v e (pool.imports e.payload e.rumor)).poolId = poolId) := by
    rintro ⟨ha, hp⟩
    rcases hne with hne | hne
    · exact hne (ha.symm.trans h.account.symm)
    · exact hne hp.symm
  change ((s.1.entries.put _).rows.filter _) = _
  rw [hr, filter_append, filter_cons_of_neg (by simpa using ho), filter_nil, append_nil]
  rfl

lemma Ready.other (h' : Ready P order s e' pool' grant' chain')
    (hp : e'.payload.poolId ≠ e.payload.poolId) (hid : e'.rumor.id ≠ e.rumor.id) :
    Ready P order (stored order v s e coord pool) e' pool' grant' chain' := by
  refine { h' with get := ?_, rows := ?_, inOrder := ?_, fresh := ?_ }
  · change (s.1.pools.put _).get _ = _
    rw [get_put_of_ne, h'.get]
    rw [h.key]
    exact fun heq => hp (append_cancel_left heq)
  · intro x hx hxe
    rcases mem_put.1 hx with rfl | ⟨hx, -⟩
    · exact absurd (hxe.symm.trans h.poolId.symm) hp
    · exact h'.rows x hx hxe
  · rw [entriesOf_stored_ne h]
    · exact h'.inOrder
    · exact .inr fun heq => hp (h'.poolId.trans (heq.trans h.poolId.symm))
  · change (s.1.entries.put _).get _ = _
    rw [get_put_of_ne, h'.fresh]
    exact fun heq => hid (append_cancel_left heq)

lemma Ready.poolsInOrder (hps : ∀ q ∈ s.1.pools.rows, ∃ grant chain,
      q.ImportsInOrder P grant (s.1.entriesOf q.accountPubkey q.poolId) chain) :
    ∀ q ∈ (stored order v s e coord pool).1.pools.rows, ∃ grant chain, q.ImportsInOrder P grant
      ((stored order v s e coord pool).1.entriesOf q.accountPubkey q.poolId) chain := by
  intro q hq
  rcases mem_put.1 (show q ∈ (s.1.pools.put _).rows from hq) with rfl | ⟨hq, hk⟩
  · refine ⟨grant, chain ++ [(e.rumor, e.payload)], ?_⟩
    change Pool.ImportsInOrder P _ grant
      ((stored order v s e coord pool).1.entriesOf pool.accountPubkey pool.poolId) _
    rw [entriesOf_stored h]
    exact h.inOrder.imports v h.orderId h.unwraps h.parsed h.parties h.poolId h.sequence h.previousId
      h.time h.expires h.left
  · obtain ⟨grant', chain', hq'⟩ := hps q hq
    refine ⟨grant', chain', ?_⟩
    rw [entriesOf_stored_ne h]
    · exact hq'
    · by_contra heq
      simp only [not_or, not_not] at heq
      apply hk
      rw [h.key, hq'.carries.2.1, heq.1, heq.2, h.account, h.poolId]

end

structure StoresImports (P : StockPlatform) (order : OrderInput) (v : VerifiedImport)
    (db db' : Ledger) (entries : List VerifiedEntry) : Prop where
  poolsInOrder : ∀ q ∈ db'.pools.rows, ∃ grant chain,
    q.ImportsInOrder P grant (db'.entriesOf q.accountPubkey q.poolId) chain
  imported : ∀ e ∈ entries, ∃ pool ∈ db.pools.get (poolKey order.merchantPubkey e.payload.poolId),
    db'.pools.get (poolKey order.merchantPubkey e.payload.poolId) =
      some (pool.imports e.payload e.rumor)
  others : ∀ k, (∀ e ∈ entries, k ≠ poolKey order.merchantPubkey e.payload.poolId) →
    db'.pools.get k = db.pools.get k
  entries : ∀ x ∈ db'.entries.rows, x ∈ db.entries.rows ∨ ∃ e ∈ entries, ∃ pool,
    pool.poolId = e.payload.poolId ∧ x = importedEntry order v e pool

lemma storeImports_fold {entries : List VerifiedEntry}
    (hr : ∀ e ∈ entries, ∃ pool grant chain, Ready P order s e pool grant chain)
    (hp : (entries.map (·.payload.poolId)).Nodup)
    (hi : (entries.map (·.rumor.id)).Nodup) (hps : ∀ q ∈ s.1.pools.rows, ∃ grant chain,
      q.ImportsInOrder P grant (s.1.entriesOf q.accountPubkey q.poolId) chain)
    (hok : foldResult (storeImport order v) s entries = .ok s') :
    StoresImports P order v s.1 s'.1 entries := by
  induction entries generalizing s with
  | nil =>
    cases hok
    exact ⟨hps, by simp, fun _ _ => rfl, fun x hx => .inl hx⟩
  | cons e entries ih =>
    rw [map_cons, nodup_cons] at hp hi
    rw [forall_mem_cons] at hr
    obtain ⟨⟨pool, grant, chain, hf⟩, hre⟩ := hr
    obtain ⟨s₁, hst, hok⟩ := foldResult_cons_ok.1 hok
    obtain ⟨coord, rfl, -⟩ := hf.storeImport hst
    have hs := ih (fun e' he' => by
        obtain ⟨pool', grant', chain', h'⟩ := hre e' he'
        refine ⟨pool', grant', chain', hf.other h' ?_ ?_⟩
        · exact fun heq => hp.1 (heq ▸ mem_map_of_mem he')
        · exact fun heq => hi.1 (heq ▸ mem_map_of_mem he'))
      hp.2 hi.2 (hf.poolsInOrder hps) hok
    have hke : ∀ k ≠ poolKey order.merchantPubkey e.payload.poolId,
        (stored order v s e coord pool).1.pools.get k = s.1.pools.get k := by
      intro k hk
      exact get_put_of_ne (hf.key ▸ hk)
    have hd : ∀ e' ∈ entries, poolKey order.merchantPubkey e'.payload.poolId ≠
        poolKey order.merchantPubkey e.payload.poolId := by
      intro e' he' heq
      exact hp.1 ((append_cancel_left heq) ▸ mem_map_of_mem he')
    refine ⟨hs.poolsInOrder, ?_, ?_, ?_⟩
    · rw [forall_mem_cons]
      constructor
      · refine ⟨pool, hf.get, ?_⟩
        rw [hs.others _ fun e' he' => (hd e' he').symm, ← hf.key]
        exact get_put_self _ _
      · intro e' he'
        obtain ⟨q, hq, himp⟩ := hs.imported e' he'
        rw [hke _ (hd e' he')] at hq
        exact ⟨q, hq, himp⟩
    · intro k hk
      rw [forall_mem_cons] at hk
      rw [hs.others k hk.2, hke k hk.1]
    · intro x hx
      rcases hs.entries x hx with hx | ⟨e', he', hx⟩
      · rcases mem_put.1 (show x ∈ (s.1.entries.put _).rows from hx) with rfl | ⟨hx, -⟩
        · exact .inr ⟨e, .head _, pool.imports e.payload e.rumor, hf.poolId.symm, rfl⟩
        · exact .inl hx
      · exact .inr ⟨e', .tail e he', hx⟩

structure ImportsOrder (P : StockPlatform) (db db' : Ledger) (order : OrderInput)
    (v : VerifiedImport) : Prop where
  holding : ∀ c, db'.holding c = (db.holding c).map fun h => h.imports (handed order.items c)
  owner : ∀ c m, db.owner c = some m → db'.owner c = some m
  tracked : db.TracksHeld → db'.TracksHeld
  held : ∀ e ∈ v.entries, ∃ pool grant, e.Held P db order.merchantPubkey pool grant
  stores : StoresImports P order v db db' v.entries
  orders : ∀ k ≠ order.orderId, db'.acceptedOrders.get k = db.acceptedOrders.get k
  order : ∃ items, db'.acceptedOrders.get order.orderId = some (acceptedOrder order items)

lemma VerifiedEntry.Held.left (h : e.Held P db order.merchantPubkey pool grant) :
    e.payload.quantity ≤ pool.quantity - pool.importedQuantity := by
  obtain ⟨asg, hold, -, hh, hn, hq⟩ := h.hold
  obtain ⟨-, -, -, hgran, himp, ho, -⟩ := hn
  rw [Assignment.held, hh, map_some, getD_some, OrganizerStockHold.outstanding,
    ho, if_neg (by decide)] at hq
  omega

lemma Reads.poolId_eq (hr : e.Reads P input grant')
    (h : e.Held P db order.merchantPubkey pool grant) :
    e.payload.poolId = pool.poolId ∧ grant' = grant := by
  have hgr := hr.authority
  rw [← h.grantRumor, h.authority] at hgr
  refine ⟨?_, (Except.ok.inj hgr).symm⟩
  rw [hr.poolId, ← h.grantRumor, h.carries.1]

lemma Ledger.InOrder.ready (h : db.InOrder P) {pools : DelegatedPools} {w : Working}
    (hre : ReadsImport P input items entries)
    (hw : w.db.pools = db.pools ∧ w.db.entries = db.entries) (hord : order.orderId = input.order.id)
    (hh : ∀ e ∈ entries, ∃ pool grant, e.Held P db order.merchantPubkey pool grant)
    (hro : ∀ x ∈ pools.rows, ∃ e ∈ entries, ∃ grant, e.Held P db order.merchantPubkey x.2 grant ∧
      x.1 = grant.assignmentCoordinate) :
    ∀ e ∈ entries, ∃ pool grant chain, Ready P order (w.db, pools) e pool grant chain := by
  intro e he
  obtain ⟨pool, grant, hen⟩ := hh e he
  obtain ⟨grant', hr⟩ := hre.read e he
  obtain ⟨hpid, rfl⟩ := Reads.poolId_eq hr hen
  obtain ⟨grant, chain, hc⟩ := h.pools pool (mem_of_get hen.get)
  have ha := hc.authority
  rw [hen.authority] at ha
  cases ha
  have hp := hen.predecessor
  obtain ⟨asg, hold, -, -, hn, -⟩ := hen.hold
  obtain ⟨-, -, -, -, -, -, -, -, hseq, hpr⟩ := hn
  have hent : w.db.entriesOf pool.accountPubkey pool.poolId =
      db.entriesOf pool.accountPubkey pool.poolId := by
    rw [Ledger.entriesOf, hw.2, Ledger.entriesOf]
  refine ⟨pool, grant', chain, ?_, ?_, hen.account, hpid, hent ▸ hc, ?_,
    hr.orderId.trans hord.symm, hr.unwraps, hr.parsed, hr.parties, hseq,
    hpr, ?_, hr.expires, hen.left⟩
  · rw [show (w.db, pools).1.pools = db.pools from hw.1]
    exact hen.get
  · intro x hx hxe
    obtain ⟨e', he', grant'', ho, -⟩ := hro x hx
    obtain ⟨g, hr'⟩ := hre.read e' he'
    have heq : e'.payload.poolId = e.payload.poolId :=
      (Reads.poolId_eq hr' ho).1.trans hxe
    have hg := ho.get
    rw [heq, hen.get] at hg
    exact (some.inj hg).symm
  · rw [show (w.db, pools).1.entries = db.entries from hw.2]
    cases hg : db.entries.get (entryKey order.merchantPubkey e.rumor.id) with
    | none => rfl
    | some staged =>
      have himp := h.imported (mem_of_get hg)
      rw [hen.fresh staged hg] at himp
      cases himp
  · refine hc.lastTime_le ?_ (hen.account.symm ▸ hp)
    rw [hen.grantRumor]
    exact hr.start

/-- Different hashes for the different messages of one import. -/
def StockPlatform.HashesApart (P : StockPlatform) (envelopes : List SignedEvent) : Prop :=
  ∀ a ∈ envelopes, ∀ b ∈ envelopes, ∀ r ∈ P.unwrap a, ∀ s ∈ P.unwrap b,
    P.eventHash r.toUnsigned = P.eventHash s.toUnsigned → r.toUnsigned = s.toUnsigned

lemma ReadsImport.ids_nodup (h : ReadsImport P input items entries)
    (hha : P.HashesApart input.acceptedEnvelopes) : (entries.map (·.rumor.id)).Nodup := by
  have hp := h.nodup
  rw [Nodup, pairwise_map] at hp ⊢
  refine hp.imp_of_mem fun {e e'} he he' hne hid => hne ?_
  obtain ⟨grant, hr⟩ := h.read e he
  obtain ⟨grant', hr'⟩ := h.read e' he'
  have hh := (parseStockAuthorityRumor_ok.1 hr.parsed).2.2.2.2.2.2.2.2.1
  have hh' := (parseStockAuthorityRumor_ok.1 hr'.parsed).2.2.2.2.2.2.2.2.1
  have heq := hha _ hr.envelope _ hr'.envelope _ hr.unwraps _ hr'.unwraps
    (hh.symm.trans (hid.trans hh'))
  have hc := (parseStockAuthorityRumor_accepted hr.parsed).1
  have hc' := (parseStockAuthorityRumor_accepted hr'.parsed).1
  rw [heq, hc'] at hc
  rw [StockPayload.accepted.inj hc]

lemma decideOrder_imports (h : db.InOrder P) (hr : ReadsImport P input items entries)
    (hha : P.HashesApart input.acceptedEnvelopes) {prior : Option AcceptedOrder}
    {result : Ledger × Acceptance} {v : VerifiedImport}
    (hv : (importOrderInput input items entries).organizerImport = some v)
    (hok : decideOrder P db (importOrderInput input items entries) prior = .ok result) :
    ImportsOrder P db result.1 (importOrderInput input items entries) v := by
  have hent : v.entries = entries := by
    cases hv
    rfl
  simp only [decideOrder, run_ok] at hok
  obtain ⟨pools, hps, begun, hb, w, hw, stored, hsto, -, -, -, -, rfl⟩ := hok
  simp only [beginAcceptance, run_ok] at hb
  obtain ⟨consumed, -, rfl⟩ := hb
  simp only [importPools, hv] at hps
  obtain ⟨hhe, hro⟩ := delegatedPools_held hps
  rw [hent] at hhe hro
  have hstill : StillHeld db pools := by
    intro c hc
    obtain ⟨x, hx⟩ := isSome_iff_exists.1 hc
    obtain ⟨e, he, grant, hen, hco⟩ := hro x (mem_of_get hx)
    obtain ⟨asg, hold, hget, -, -, hqty⟩ := hen.hold
    obtain ⟨grant', hrds⟩ := hr.read e he
    have hpos := (parseStockAuthorityRumor_accepted hrds.parsed).2.2.2.2.1.1
    refine ⟨asg, ?_, by omega⟩
    rw [← key_of_get hx, hco]
    exact hget
  have hh := delegatedItems_held (heldBy_begin db consumed) hstill (by rw [hv]; rfl)
    hr.picked hr.named hw
  simp only [zero_add] at hh
  have heq : w.db.pools = db.pools ∧ w.db.entries = db.entries :=
    ⟨hh.ledger.pools, hh.ledger.entries⟩
  simp only [storeImports, hv, run_ok] at hsto
  obtain ⟨s, hf, rfl⟩ := hsto
  rw [hent] at hf
  have hre : ∀ e ∈ entries, ∃ pool grant chain,
      Ready P (importOrderInput input items entries) (w.db, pools) e pool grant chain :=
    h.ready hr heq rfl hhe hro
  have hst := storeImports_fold hre hr.nodup (hr.ids_nodup hha) (by
    intro q hq
    rw [show (w.db, pools).1.pools = db.pools from heq.1] at hq
    obtain ⟨grant, chain, hch⟩ := h.pools q hq
    refine ⟨grant, chain, ?_⟩
    rw [Ledger.entriesOf, show (w.db, pools).1.entries = db.entries from heq.2]
    exact hch) hf
  have hord : s.1.acceptedOrders = db.acceptedOrders := by
    refine foldResult_keeps (p := fun (s : Ledger × DelegatedPools) =>
      s.1.acceptedOrders = db.acceptedOrders) ?_ hh.ledger.acceptedOrders hf
    intro entry _ s s' hs hstep
    unfold storeImport at hstep
    split at hstep
    · cases hstep
    · cases hstep
      exact hs
  refine ⟨hh.holding_written, fun c m hm => hh.owner_written hm,
    fun hdb a ha hpos => hh.tracked_written hdb ha hpos, ?_, ?_, ?_, ?_⟩
  · rw [hent]
    exact hhe
  · rw [hent]
    refine ⟨hst.poolsInOrder, ?_, ?_, ?_⟩
    · intro e he
      obtain ⟨pool, hpool, himp⟩ := hst.imported e he
      exact ⟨pool, heq.1 ▸ hpool, himp⟩
    · intro k hk
      rw [← heq.1]
      exact hst.others k hk
    · rw [← heq.2]
      exact hst.entries
  · intro k hk
    rw [get_put_of_ne (by exact hk), hord]
  · exact ⟨w.output, get_put_self _ _⟩

lemma handed_eq (hr : ReadsImport P input items entries) (he : e ∈ entries)
    (h : e.Held P db order.merchantPubkey pool grant)
    (hhe : ∀ e ∈ entries, ∃ pool grant, e.Held P db order.merchantPubkey pool grant) :
    handed items grant.assignmentCoordinate = e.payload.quantity := by
  have hs : ∀ e' ∈ entries, e'.payload.poolId ≠ e.payload.poolId →
      e'.sold P grant.assignmentCoordinate = 0 := by
    intro e' he' hne
    obtain ⟨pool', grant', h'⟩ := hhe e' he'
    unfold sold
    rw [← h'.grantRumor, h'.authority]
    dsimp only
    rw [if_neg]
    intro heq
    -- Both entries would be the next ones of the assignment's only hold.
    obtain ⟨asg, hold, hg, hh, ⟨-, hp, -⟩, -⟩ := h.hold
    obtain ⟨assignment', hold', hg', hh', ⟨-, hp', -⟩, -⟩ := h'.hold
    rw [heq, hg] at hg'
    cases hg'
    obtain rfl := some.inj (hh.symm.trans hh')
    obtain ⟨g, hrds⟩ := hr.read e he
    obtain ⟨g', hrds'⟩ := hr.read e' he'
    rw [(Reads.poolId_eq hrds h).1, (Reads.poolId_eq hrds' h').1] at hne
    exact hne (hp'.symm.trans hp)
  rw [hr.handed, Keyed.sum_eq_add_filter hr.nodup he]
  have hz : ((entries.filter fun e' => decide (e'.payload.poolId ≠ e.payload.poolId)).map
      (sold P grant.assignmentCoordinate)).sum = 0 := by
    apply sum_eq_zero
    intro n hn
    obtain ⟨e', he', rfl⟩ := mem_map.1 hn
    obtain ⟨he', hne⟩ := mem_filter.1 he'
    exact hs e' he' (by simpa using hne)
  rw [hz, add_zero, sold, ← h.grantRumor, h.authority]
  exact if_pos rfl

lemma handed_eq_zero (hr : ReadsImport P input items entries)
    (hh : ∀ e ∈ entries, ∃ pool grant, e.Held P db order.merchantPubkey pool grant)
    (hno : ∀ e ∈ entries, ∀ pool grant, e.Held P db order.merchantPubkey pool grant →
      grant.assignmentCoordinate ≠ c) : handed items c = 0 := by
  rw [hr.handed]
  apply sum_eq_zero
  intro n hn
  obtain ⟨e, he, rfl⟩ := mem_map.1 hn
  obtain ⟨pool, grant, h⟩ := hh e he
  rw [sold, ← h.grantRumor, h.authority]
  exact if_neg (hno e he pool grant h)

lemma ImportsOrder.source (h : ImportsOrder P db db' order v) {q : Pool}
    (hq : q ∈ db'.pools.rows) : ∃ pool ∈ db.pools.rows, pool.accountPubkey = q.accountPubkey ∧
      pool.poolId = q.poolId ∧ pool.assignmentCoordinate = q.assignmentCoordinate ∧
      (q.state ≠ .closed → pool.state ≠ .closed) := by
  have hg := Table.get_of_mem hq
  by_cases hent : ∃ e ∈ v.entries, q.id = poolKey order.merchantPubkey e.payload.poolId
  · obtain ⟨e, he, hk⟩ := hent
    obtain ⟨pool, hp, hi⟩ := h.stores.imported e he
    rw [hk, hi] at hg
    cases hg
    refine ⟨pool, Table.mem_of_get hp, rfl, rfl, rfl, fun ho hc => ho ?_⟩
    change (if pool.state = .prepared then PoolState.active else pool.state) = .closed
    rw [hc]
    rfl
  · have heq := h.stores.others q.id fun e he hk => hent ⟨e, he, hk⟩
    rw [heq] at hg
    exact ⟨q, Table.mem_of_get hg, rfl, rfl, rfl, fun ho => ho⟩

lemma ImportsOrder.pool_exists (h : ImportsOrder P db db' order v) (hpo : pool ∈ db.pools.rows) :
    ∃ q ∈ db'.pools.rows, q.accountPubkey = pool.accountPubkey ∧ q.poolId = pool.poolId := by
  have hg := Table.get_of_mem hpo
  by_cases hent : ∃ e ∈ v.entries, pool.id = poolKey order.merchantPubkey e.payload.poolId
  · obtain ⟨e, he, hk⟩ := hent
    obtain ⟨p, hp, hi⟩ := h.stores.imported e he
    rw [hk, hp] at hg
    cases hg
    exact ⟨_, Table.mem_of_get hi, rfl, rfl⟩
  · have heq := h.stores.others pool.id fun e he hk => hent ⟨e, he, hk⟩
    exact ⟨pool, Table.mem_of_get (heq.trans hg), rfl, rfl⟩

lemma Ledger.InOrder.imports (h : db.InOrder P) (hr : ReadsImport P input order.items v.entries)
    (hi : ImportsOrder P db db' order v) : db'.InOrder P := by
  refine ⟨hi.stores.poolsInOrder, ?_, ?_, ?_, ?_, hi.tracked h.tracked⟩
  · intro x hx
    rcases hi.stores.entries x hx with hx | ⟨e, he, pool, hpid, rfl⟩
    · obtain ⟨pool, hpo, ha, hpid⟩ := h.entries x hx
      obtain ⟨q, hq, hqac, hqp⟩ := hi.pool_exists hpo
      exact ⟨q, hq, hqac.trans ha, hqp.trans hpid⟩
    · obtain ⟨p, hp, him⟩ := hi.stores.imported e he
      obtain ⟨held, grant, hh⟩ := hi.held e he
      obtain rfl : p = held := some.inj (hp.symm.trans hh.get)
      obtain ⟨g, hrds⟩ := hr.read e he
      refine ⟨_, mem_of_get him, hh.account, ?_⟩
      exact (Reads.poolId_eq hrds hh).1.symm.trans hpid.symm
  · intro c x hx
    rw [hi.holding] at hx
    obtain ⟨y, hy, rfl⟩ := map_eq_some_iff.1 hx
    obtain ⟨pool, hpo, hb⟩ := h.held c y hy
    change ∃ q ∈ db'.pools.get (poolKey y.merchantPubkey y.hold.poolId), _
    by_cases hent : ∃ e ∈ v.entries, ∃ p grant, e.Held P db order.merchantPubkey p grant ∧
        grant.assignmentCoordinate = c
    · obtain ⟨e, he, p, grant, hh, rfl⟩ := hent
      obtain ⟨asg, hold, hget, hhold, hnext, -⟩ := hh.hold
      have hhol : db.holding grant.assignmentCoordinate =
          some ⟨asg.merchantPubkey, asg.productCoordinate, hold⟩ := by
        rw [holding_of_get hget]
        exact holding_eq_some.2 ⟨hold, hhold, rfl⟩
      obtain rfl := some.inj (hy.symm.trans hhol)
      obtain ⟨g, hrds⟩ := hr.read e he
      obtain ⟨hm, hpid, -, -, -, ho, hst, -⟩ := hnext
      have hk : poolKey asg.merchantPubkey hold.poolId =
          poolKey order.merchantPubkey e.payload.poolId := by
        rw [hm, hpid, (Reads.poolId_eq hrds hh).1]
      rw [hk, hh.get] at hpo
      obtain rfl := some.inj hpo
      obtain ⟨q, hq, him⟩ := hi.stores.imported e he
      obtain rfl : p = q := some.inj (hh.get.symm.trans hq)
      refine ⟨p.imports e.payload e.rumor, ?_, hb.assignmentCoordinate,
        hb.productCoordinate, hb.organizerPubkey, hb.quantity, ?_, ?_⟩
      · rw [hk]
        exact him
      · rw [handed_eq hr he hh hi.held]
        change p.importedQuantity + e.payload.quantity = hold.importedQuantity + e.payload.quantity
        rw [show p.importedQuantity = hold.importedQuantity from hb.importedQuantity]
      · change hold.closed = true ↔
          (if p.state = .prepared then PoolState.active else p.state) = .closed
        rw [ho]
        constructor
        · intro hcls
          cases hcls
        · intro hcls
          split_ifs at hcls
          exact absurd hcls hst
    · have hn : ∀ e ∈ v.entries, ∀ p grant, e.Held P db order.merchantPubkey p grant →
          grant.assignmentCoordinate ≠ c :=
        fun e he p grant hh hc => hent ⟨e, he, p, grant, hh, hc⟩
      rw [handed_eq_zero hr hi.held hn, Holding.imports_zero, hi.stores.others]
      · exact ⟨pool, hpo, hb⟩
      · intro e he hk
        obtain ⟨p, grant, hh⟩ := hi.held e he
        rw [hk, hh.get] at hpo
        cases hpo
        refine hn e he _ grant hh ?_
        rw [← hb.assignmentCoordinate]
        exact hh.carries.2.2.2.2.2.1.symm
  · intro c x hx
    rw [hi.holding] at hx
    obtain ⟨y, hy, rfl⟩ := map_eq_some_iff.1 hx
    exact hi.owner _ _ (h.owned c y hy)
  · intro q hq ho
    obtain ⟨pool, hpo, ha, hpid, hcoord, hst⟩ := hi.source hq
    obtain ⟨y, hy, hm, hnm⟩ := h.unclosed pool hpo (hst ho)
    refine ⟨y.imports (handed order.items q.assignmentCoordinate), ?_, hm.trans ha, hnm.trans hpid⟩
    rw [hi.holding, ← hcoord, show db.holding _ = some y from hy]
    rfl

end

end

end Conduit.Stock
