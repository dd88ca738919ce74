import Conduit.Stock.Counters

namespace Conduit.Stock

open Js Throwing List Sample Table

/-- The position that a message states. -/
def Rumor.sequence (rumor : Rumor) : Int :=
  match rumor.content with
  | .accepted a => a.sequence
  | _ => 0

section
variable {P : StockPlatform} {db : Ledger} {pool : Pool} {grant : StockGrant}
  {saved : List Entry} {chain pre rest : List (Rumor × StockAcceptance)} {account poolId : Text}

section

variable (h : pool.ImportsInOrder P grant saved chain)
include h

lemma Pool.ImportsInOrder.content {x : Rumor × StockAcceptance} (hx : x ∈ chain) :
    x.1.content = .accepted x.2 :=
  (parseStockAuthorityRumor_accepted (h.parsed x hx)).1

lemma Pool.ImportsInOrder.sequence_pairwise :
    (chain.map Prod.fst).Pairwise fun r s => r.sequence < s.sequence := by
  rw [pairwise_map]
  refine h.linked.sequence_lt.imp_of_mem fun {x y} hx hy hlt => ?_
  rw [Rumor.sequence, Rumor.sequence, h.content hx, h.content hy]
  exact hlt

lemma Pool.ImportsInOrder.saved_eq :
    (saved.mergeSort fun a b => decide (a.sequence ≤ b.sequence)).map Entry.rumor =
      chain.map Prod.fst := by
  have hpm : ((saved.mergeSort fun a b => decide (a.sequence ≤ b.sequence)).map Entry.rumor).Perm
      (chain.map Prod.fst) := ((mergeSort_perm _ _).map _).trans h.carried
  have hso : (saved.mergeSort fun a b => decide (a.sequence ≤ b.sequence)).Pairwise
      fun a b => decide (a.sequence ≤ b.sequence) = true := by
    apply pairwise_mergeSort
    · intro a b c hab hbc
      simp only [decide_eq_true_eq] at hab hbc ⊢
      omega
    · intro a b
      simp only [Bool.or_eq_true, decide_eq_true_eq]
      omega
  have hm : (chain.map Prod.fst).Pairwise fun r s => r.sequence ≤ s.sequence :=
    h.sequence_pairwise.imp (·.le)
  refine Perm.eq_of_pairwise ?_ ?_ hm hpm
  · intro r s hr hs hrs hsr
    have hnd : ((chain.map Prod.fst).map Rumor.sequence).Nodup := by
      rw [Nodup, pairwise_map]
      exact h.sequence_pairwise.imp (·.ne)
    exact Keyed.eq_of_key_eq hnd (hpm.mem_iff.1 hr) hs (le_antisymm hrs hsr)
  · rw [pairwise_map]
    refine hso.imp_of_mem fun {a b} ha hb hab => ?_
    obtain ⟨x, hx⟩ := (h.received a (mem_mergeSort.1 ha)).records
    obtain ⟨y, hy⟩ := (h.received b (mem_mergeSort.1 hb)).records
    rw [Rumor.sequence, Rumor.sequence, hx.content, hy.content]
    simpa [hx.sequence, hy.sequence] using hab

end

def frontierOf (pool : Pool) (chain : List (Rumor × StockAcceptance)) : Frontier where
  previousId := acceptances.lastId pool.poolId chain
  previousTime := acceptances.lastTime (pool.grantRumor.createdAt * 1000) chain
  quantity := (chain.map (·.2.quantity)).sum

lemma Pool.ImportsInOrder.closingFrontier {entries : List Entry}
    (h : pool.ImportsInOrder P grant saved chain) (hacc : ∀ e ∈ saved, e.accountPubkey = account)
    {rumor : Rumor} {close : StockClose} (hpid : close.poolId = pool.poolId)
    (hpar : close.toStockParties = grant.toStockParties)
    (ht : ∀ x ∈ chain, x.2.acceptedAtMs ≤ rumor.createdAt * 1000 + 999)
    (hc : chain = pre ++ rest) (hm : ∀ e ∈ entries, e ∈ saved)
    (hr : entries.map Entry.rumor = rest.map Prod.fst) :
    Stock.closingFrontier P account grant rumor close pre.length (frontierOf pool pre) entries =
      .ok (frontierOf pool chain) := by
  induction rest generalizing pre entries with
  | nil =>
    obtain rfl : entries = [] := map_eq_nil_iff.1 hr
    rw [hc, append_nil]
    rfl
  | cons x rest ih =>
    obtain ⟨e, entries, rfl, hf, hr⟩ := map_eq_cons_iff.1 hr
    rw [forall_mem_cons] at hm
    have hx : x ∈ chain := hc ▸ mem_append_right pre mem_cons_self
    obtain ⟨himp, ⟨envelope, he, hunw⟩, a, ha⟩ := h.received e hm.1
    have hco := h.content hx
    rw [← hf, ha.content] at hco
    obtain rfl := StockPayload.accepted.inj hco
    have hprs := h.parsed x hx
    obtain ⟨hxpar, hxp⟩ := h.parties x hx
    -- The entry is the last one of the chain's part up to it.
    have hl : acceptances.Chain pool.poolId (pool.grantRumor.createdAt * 1000) (pre ++ [x]) := by
      refine Reading.Chain.of_append (m := rest) ?_
      rw [append_assoc, singleton_append, ← hc]
      exact h.linked
    obtain ⟨hseq, hp, hle⟩ := hl.last
    rw [Option.mem_def] at he
    simp only [Stock.closingFrontier, he, himp, hunw, run_ok, parseAcceptance_ok]
    refine ⟨x.2, hf ▸ hprs, ?_, ?_⟩
    · simp only [not_or, not_not, not_lt, not_le, SameOrganizerStockRumor]
      refine ⟨trivial, hxp.trans hpid.symm, hxpar.trans hpar.symm, hseq,
        ha.sequence.symm, ?_, ha.orderId.symm, ha.claimRef.symm, ha.quantity.symm, hp, hle,
        h.expires x hx, ht x hx⟩
      rw [ha.id, hacc e hm.1]
    · have hn : chain = (pre ++ [x]) ++ rest := by
        rw [hc, append_assoc, singleton_append]
      have hs := ih hn hm.2 hr
      have hfron : frontierOf pool (pre ++ [x]) =
          { previousId := e.rumor.id
            previousTime := x.2.acceptedAtMs
            quantity := (frontierOf pool pre).quantity + x.2.quantity } := by
        simp [frontierOf, hf, acceptances]
      rw [hfron, length_append, length_singleton] at hs
      exact_mod_cast hs

lemma Pool.ImportsInOrder.quantity_pos (h : pool.ImportsInOrder P grant saved chain) :
    ∀ x ∈ chain, 1 ≤ x.2.quantity := by
  intro x hx
  exact (parseStockAuthorityRumor_accepted (h.parsed x hx)).2.2.2.2.1.1

lemma length_le_sum (l : List (Rumor × StockAcceptance)) (h : ∀ x ∈ l, 1 ≤ x.2.quantity) :
    (l.length : Int) ≤ (l.map (·.2.quantity)).sum := by
  induction l with
  | nil => simp
  | cons x l ih =>
    rw [forall_mem_cons] at h
    have hl := ih h.2
    rw [length_cons, map_cons, sum_cons]
    omega

lemma Pool.ImportsInOrder.lastId_hex (h : pool.ImportsInOrder P grant saved chain) :
    IsHex64 pool.lastImportedId := by
  have hp : IsHex64 pool.poolId := by
    obtain ⟨-, -, -, hid, -⟩ := readGrant_parties h.authority
    exact h.carries.1 ▸ hid
  rw [h.lastImportedId]
  rcases eq_nil_or_concat' chain with hn | ⟨init, x, hc⟩
  · rw [hn, Reading.lastId_nil]
    exact hp
  · rw [hc, Reading.lastId_concat]
    have hx : x ∈ chain := hc ▸ mem_append_right init (mem_singleton_self x)
    exact (parseStockAuthorityRumor_ok.1 (h.parsed x hx)).2.2.1

lemma Pool.ImportsInOrder.validates (h : pool.ImportsInOrder P grant saved chain) :
    validateMerchantOrganizerStockPool P pool pool.merchantPubkey = .ok grant := by
  have hlen := length_le_sum chain h.quantity_pos
  have hqty : pool.quantity = grant.quantity := h.carries.2.2.2.2.2.2.2
  have hwit := h.within
  have hseq := h.importedSequence
  have hi := h.importedQuantity
  have he : pool.importedSequence = 0 → chain = [] := by
    intro hz
    apply eq_nil_of_length_eq_zero
    omega
  have hh := h.lastId_hex
  refine validateMerchantOrganizerStockPool_ok.2 ⟨h.authority, h.account, rfl, h.carries, ?_, ?_⟩
  · have hz : pool.importedSequence = 0 →
        pool.importedQuantity = 0 ∧ pool.lastImportedId = pool.poolId := by
      intro hz
      have hn := he hz
      refine ⟨?_, ?_⟩
      · rw [hi, hn]
        rfl
      · rw [h.lastImportedId, hn]
        rfl
    unfold Pool.CountersInOrder WithinQuantity
    rw [h.acceptedSequence, h.acceptedQuantity, h.lastAcceptedId]
    exact ⟨by omega, by omega, by omega, by omega, by omega, by omega, le_refl _, le_refl _,
      fun _ => ⟨rfl, rfl⟩, hz, hz, hh, hh⟩
  · rw [h.acceptedSequence]
    exact fun hlt => absurd hlt.1 (lt_irrefl _)

end

structure Entry.AttributedTo (P : StockPlatform) (e : Entry) (a : StockAcceptance)
    (order : AcceptedOrder) : Prop where
  merchant : order.merchantPubkey = e.accountPubkey
  evidence : order.evidenceBinding = some e.evidence
  bindings : ∃ bindings, P.openEvidence order.evidence = some bindings ∧
    order.identityBinding = bindings.identityBinding ∧
    order.termsBinding = bindings.termsBinding ∧ a.identityBinding = bindings.identityHash ∧
    a.termsBinding = bindings.termsHash
  provenance : ∃ provenance ∈ order.organizerImport,
    provenance.organizerPubkey = a.organizerPubkey ∧ provenance.claimRef = a.claimRef ∧
    ∃ item ∈ provenance.entries, item.poolId = a.poolId ∧ item.entryId = e.rumor.id ∧
      item.writerId = a.writerId ∧ item.quantity = e.quantity

variable (P : StockPlatform)

def Ledger.Attributed (db : Ledger) : Prop :=
  ∀ e ∈ db.entries.rows, ∃ a, parseStockAuthorityRumor P e.rumor = .ok (.accepted a) ∧
    ∃ order ∈ db.acceptedOrders.get e.orderId, e.AttributedTo P a order

def ImportInput.Sealed (input : ImportInput) : Prop :=
  P.openEvidence input.order.sealedEvidence = some input.order.toOrderBindings

def StockOp.Genuine : StockOp → Prop
  | .importOrder _ input => P.HashesApart input.acceptedEnvelopes ∧ input.Sealed P
  | _ => True

section
variable {P : StockPlatform} {db db' : Ledger} {pool : Pool} {grant : StockGrant}

lemma StockOp.Genuine.hashesApart {op : StockOp} (h : op.Genuine P) : op.HashesApart P := by
  cases op with
  | importOrder read input => exact h.1
  | _ => trivial

section

variable (h : db.Attributed P)
include h

lemma Ledger.Attributed.congr (hent : db'.entries = db.entries)
    (hord : ∀ k, ∀ order ∈ db.acceptedOrders.get k, order.organizerImport ≠ none →
      db'.acceptedOrders.get k = some order) : db'.Attributed P := by
  intro e he
  rw [hent] at he
  obtain ⟨a, ha, order, ho, hattr⟩ := h e he
  refine ⟨a, ha, order, hord _ order ho fun hn => ?_, hattr⟩
  obtain ⟨provenance, hp, -⟩ := hattr.provenance
  rw [hn] at hp
  cases hp

lemma Ledger.Attributed.rebind {e : Entry} (he : e ∈ db.entries.rows)
    (binding : Option (List PoolLine)) : (db.rebind e binding).Attributed P := by
  intro x hx
  rcases mem_put.1 (show x ∈ (db.entries.put _).rows from hx) with rfl | ⟨hx, -⟩
  · obtain ⟨a, ha, order, ho, hattr⟩ := h e he
    exact ⟨a, ha, order, ho, hattr.merchant, hattr.evidence, hattr.bindings, hattr.provenance⟩
  · exact h x hx

lemma Ledger.Attributed.imports {input : ImportInput} {items : List OrderItem}
    {entries : List VerifiedEntry} {v : VerifiedImport} (hre : ReadsImport P input items entries)
    (hsld : input.Sealed P) (hv : (importOrderInput input items entries).organizerImport = some v)
    (hi : ImportsOrder P db db' (importOrderInput input items entries) v)
    (hpr : ∀ order ∈ db.acceptedOrders.get input.order.id, order.organizerImport = none) :
    db'.Attributed P := by
  cases hv
  intro x hx
  rcases hi.stores.entries x hx with hx | ⟨e, he, pool, hpid, rfl⟩
  · obtain ⟨a, ha, order, ho, hattr⟩ := h x hx
    refine ⟨a, ha, order, ?_, hattr⟩
    rw [Option.mem_def, hi.orders]
    · exact ho
    · -- The order of an entry has its import, the one decided here had none.
      intro heq
      obtain ⟨provenance, hp, -⟩ := hattr.provenance
      have hk : x.orderId = input.order.id := heq
      rw [hk] at ho
      rw [hpr order ho] at hp
      cases hp
  · obtain ⟨grant, hr⟩ := hre.read e he
    obtain ⟨accepted, ho⟩ := hi.order
    have horg : e.payload.organizerPubkey = input.order.organizerPubkey := by
      have hs := congrArg StockParties.organizerPubkey hr.parties
      exact hs.trans hr.organizer
    refine ⟨e.payload, hr.parsed, _, ho, rfl, rfl, ?_, ?_⟩
    · exact ⟨_, hsld, rfl, rfl, hr.identityHash, hr.termsHash⟩
    · refine ⟨_, rfl, horg.symm, hr.claimRef.symm,
        ⟨e.payload.poolId, e.rumor.id, e.payload.writerId, e.payload.quantity⟩, ?_, rfl, rfl, rfl,
        rfl⟩
      rw [importAttribution, mem_mergeSort]
      exact mem_map_of_mem he

lemma Ledger.Attributed.apply (hdb : db.InOrder P) {op : StockOp} (hg : op.Genuine P)
    (hok : op.apply P db = .ok db') : db'.Attributed P := by
  have hkps : Keeps db db' → db'.Attributed P := fun hk => h.congr hk.entries hk.orders
  cases op with
  | create input => exact hkps (initializeMerchantInventoryProduct_keeps hok)
  | stockEdit input => exact hkps (commitMerchantInventoryStockEdit_keeps hok)
  | assignment input => exact hkps (commitMerchantInventoryAssignment_keeps hdb.owned hok)
  | accept input =>
    simp only [StockOp.apply, run_ok] at hok
    obtain ⟨accepted, ha, rfl⟩ := hok
    exact hkps (acceptMerchantInventoryOrder_keeps rfl ha)
  | importOrder read input =>
    simp only [StockOp.apply, run_ok] at hok
    obtain ⟨entries, hent, accepted, ha, rfl⟩ := hok
    have hr := readImport_reads hent
    obtain ⟨hi, hp⟩ | ⟨provenance, hrep⟩ :=
      importOrder_cases hdb hr hg.1 rfl ha
    · exact h.imports hr hg.2 rfl hi hp
    · exact replayImport_keeps (fun db e binding he h => h.rebind he binding) h hrep
  | prepare input =>
    obtain ⟨hent, hord⟩ := prepareMerchantOrganizerStockPool_same hok
    exact h.congr hent fun k order ho _ => hord ▸ ho
  | close input =>
    obtain ⟨hent, hord⟩ := reconcileMerchantOrganizerStockClose_same hok
    exact h.congr hent fun k order ho _ => hord ▸ ho
  | reconcile coordinate =>
    cases hok
    exact hkps (reconcileAssignment_reconciles P db coordinate).keeps
  | observe market events =>
    cases hok
    exact h
  | checkpoint rows =>
    cases hok
    exact h
  | publishProduct coordinate jobs signed =>
    cases hok
    exact hkps (publishProduct_keeps coordinate jobs signed)
  | publishAssignment coordinate jobs eventId =>
    cases hok
    exact hkps (publishAssignment_keeps coordinate jobs eventId)

end

lemma run_attributed {ops : List StockOp} (hdb : db.InOrder P) (h : db.Attributed P)
    (hg : ∀ op ∈ ops, op.Genuine P) : (ops.foldl (Ledger.after P) db).Attributed P := by
  induction ops generalizing db with
  | nil => exact h
  | cons op ops ih =>
    rw [forall_mem_cons] at hg
    refine ih (hdb.after hg.1.hashesApart) ?_ hg.2
    unfold Ledger.after
    split
    · rename_i db' hok
      exact h.apply hdb hg.1 hok
    · exact h

lemma Ledger.Unentrusted.attributed (h : db.Unentrusted) : db.Attributed P := by
  intro e he
  rw [h.entries] at he
  exact absurd he not_mem_nil

end

structure StockClose.Ends (close : StockClose) (rumor : Rumor) (pool : Pool) (grant : StockGrant)
    (chain : List (Rumor × StockAcceptance)) : Prop where
  parties : close.toStockParties = grant.toStockParties
  poolId : close.poolId = pool.poolId
  sequence : close.sequence = chain.length
  acceptedQuantity : close.acceptedQuantity = (chain.map (·.2.quantity)).sum
  lastAcceptedId : close.lastAcceptedId = acceptances.lastId pool.poolId chain
  start : pool.grantRumor.createdAt ≤ rumor.createdAt
  time : ∀ x ∈ chain, x.2.acceptedAtMs ≤ rumor.createdAt * 1000 + 999

/-- The merchant's device receives the message, at no time before it. -/
structure CloseInput.Delivers (P : StockPlatform) (input : CloseInput) (account : Text)
    (rumor : Rumor) : Prop where
  account : input.authenticatedPubkey = account
  unwraps : P.unwrap input.closingEnvelope = some rumor
  current : input.shouldContinue = true
  time : IsTime input.nowMs
  notFuture : rumor.createdAt * 1000 ≤ input.nowMs

section
variable {P : StockPlatform} {db db' : Ledger} {pool other : Pool} {grant : StockGrant}
  {saved : List Entry} {chain l m : List (Rumor × StockAcceptance)} {rumor : Rumor}
  {close : StockClose} {input : CloseInput}

lemma messages_eq (hl : ∀ x ∈ l, x.1.content = .accepted x.2)
    (hm : ∀ x ∈ m, x.1.content = .accepted x.2) (h : l.map Prod.fst = m.map Prod.fst) : l = m := by
  induction l generalizing m with
  | nil => exact (map_eq_nil_iff.1 h.symm).symm
  | cons x l ih =>
    obtain ⟨y, m, rfl, hxy, hr⟩ := map_eq_cons_iff.1 h.symm
    rw [forall_mem_cons] at hl hm
    have hc := hl.1
    rw [← hxy, hm.1] at hc
    rw [ih hl.2 hm.2 hr.symm, Prod.ext hxy (StockPayload.accepted.inj hc)]

lemma Pool.InOrder.content (h : pool.InOrder P grant saved chain)
    {x : Rumor × StockAcceptance} (hx : x ∈ chain) : x.1.content = .accepted x.2 :=
  (createStockAuthorityRumor_content (h.created x hx)).1

lemma Pool.InOrder.sequence_pairwise (h : pool.InOrder P grant saved chain) :
    (chain.map Prod.fst).Pairwise fun r s => r.sequence < s.sequence := by
  rw [pairwise_map]
  refine h.linked.sequence_lt.imp_of_mem fun {x y} hx hy hlt => ?_
  rw [Rumor.sequence, Rumor.sequence, h.content hx, h.content hy]
  exact hlt

lemma Pool.ImportsInOrder.chain_eq {entries : List Entry}
    {accepted : List (Rumor × StockAcceptance)} (h : pool.ImportsInOrder P grant saved chain)
    (ho : other.InOrder P grant entries accepted)
    (heq : (saved.map Entry.rumor).Perm (entries.map Entry.rumor)) : chain = accepted := by
  have hpm : (chain.map Prod.fst).Perm (accepted.map Prod.fst) :=
    h.carried.symm.trans (heq.trans ho.carried)
  refine messages_eq (fun x hx => h.content hx) (fun x hx => ho.content hx) ?_
  refine Perm.eq_of_pairwise ?_ h.sequence_pairwise ho.sequence_pairwise hpm
  intro r s _ _ hrs hsr
  exact absurd hrs (lt_asymm hsr)

lemma Pool.InOrder.ends (h : other.InOrder P grant saved chain)
    (hc : other.closingRumor = some rumor) (hp : pool.poolId = other.poolId)
    (hgr : pool.grantRumor = other.grantRumor) : other.close.Ends rumor pool grant chain := by
  obtain ⟨-, -, hs, ht⟩ := h.closing rumor hc
  obtain ⟨-, -, hm, ho, hwr, -⟩ := h.own.carries
  refine ⟨?_, hp.symm, h.acceptedSequence, h.acceptedQuantity, ?_, ?_, ht⟩
  · rw [← show (⟨_, _, _⟩ : StockParties) = grant.toStockParties from rfl, ← hm,
      ← ho, ← hwr]
    rfl
  · rw [hp]
    exact h.lastAcceptedId
  · rw [hgr]
    exact hs

lemma Ledger.Attributed.checks (hdb : db.Attributed P) (h : pool.ImportsInOrder P grant saved chain)
    (hs : ∀ e ∈ saved, e ∈ db.entries.rows ∧ e.accountPubkey = pool.accountPubkey)
    (hen : close.Ends rumor pool grant chain) {e : Entry} (he : e ∈ saved) :
    checkAttribution P db pool.merchantPubkey close e = .ok () := by
  obtain ⟨hr, hacc⟩ := hs e he
  obtain ⟨a, hp, order, hord, ha⟩ := hdb e hr
  obtain ⟨x, hx, hrum⟩ := mem_map.1 (h.carried.mem_iff.1 (mem_map_of_mem he))
  have hxp := h.parsed x hx
  rw [hrum, hp] at hxp
  obtain rfl := StockPayload.accepted.inj (Except.ok.inj hxp)
  obtain ⟨hpar, hpid⟩ := h.parties x hx
  have heq := hpar.trans hen.parties.symm
  obtain ⟨bindings, ho, hid, ht, hiden, hter⟩ := ha.bindings
  obtain ⟨provenance, hpr, horg, hc, item, hitem, hitemPool, hitemEntry,
    hitemWriter, hi⟩ := ha.provenance
  rw [Option.mem_def] at hord
  simp only [checkAttribution, hord, ho, bind_ok, parseAcceptance_ok, reject_ok, not_or, not_not]
  refine ⟨x.2, hp, hid, ht, hiden, hter, ?_, ha.evidence,
    provenance, hpr, ?_, hc, item, hitem, ?_, hitemEntry, ?_, hi⟩
  · rw [ha.merchant, hacc, h.account]
  · exact horg.trans (congrArg StockParties.organizerPubkey heq)
  · exact hitemPool.trans (hpid.trans hen.poolId.symm)
  · exact hitemWriter.trans (congrArg StockParties.writerId heq)

lemma Pool.ImportsInOrder.closingChecks (hdb : db.InOrder P) (ha : db.Attributed P)
    (hp : pool ∈ db.pools.rows)
    (h : pool.ImportsInOrder P grant (db.entriesOf pool.accountPubkey pool.poolId) chain)
    (hprs : parseStockAuthorityRumor P rumor = .ok (.closed close))
    (hen : close.Ends rumor pool grant chain) (hi : input.Delivers P pool.merchantPubkey rumor) :
    ClosingChecks P db input rumor close pool grant (frontierOf pool chain) := by
  have hacc : input.authenticatedPubkey = pool.accountPubkey := hi.account.trans h.account.symm
  have hmer : close.merchantPubkey = grant.merchantPubkey :=
    congrArg StockParties.merchantPubkey hen.parties
  have hm : ∀ e ∈ db.savedEntries pool.accountPubkey pool.poolId,
      e ∈ db.entriesOf pool.accountPubkey pool.poolId := fun e he => mem_mergeSort.1 he
  have hr : ∀ e ∈ db.entriesOf pool.accountPubkey pool.poolId,
      e ∈ db.entries.rows ∧ e.accountPubkey = pool.accountPubkey := fun e he =>
    ⟨(mem_ledger_entriesOf.1 he).1, (mem_ledger_entriesOf.1 he).2.1⟩
  have hl : (db.savedEntries pool.accountPubkey pool.poolId).length = chain.length := by
    rw [Ledger.savedEntries, length_mergeSort]
    simpa using h.carried.length_eq
  have hent := h.closingFrontier (fun e he => (hr e he).2) hen.poolId
    hen.parties hen.time (nil_append chain).symm hm h.saved_eq
  rw [← hacc, ← hen.poolId] at hl hent
  refine ⟨hi.current, hi.unwraps, hprs, ?_, ?_, ?_,
    congrArg StockParties.organizerPubkey hen.parties,
    congrArg StockParties.writerId hen.parties, hen.start, ?_, ?_, ?_, ?_, ?_, ?_, ?_, ?_, ?_, ?_, ?_,
    hi.time, hi.notFuture, ?_⟩
  · rw [hmer, ← h.carries.2.2.1, hi.account]
  · rw [hacc, hen.poolId]
    exact hdb.pool_key hp
  · rw [hi.account]
    exact h.validates
  · rw [hl, hen.sequence]
  · rw [hen.poolId]
    rw [hen.poolId] at hent
    exact hent
  · exact hen.acceptedQuantity.symm
  · exact h.importedQuantity.symm.le.trans h.within
  · exact hen.lastAcceptedId.symm
  · rw [h.importedSequence, hen.sequence]
  · exact h.importedQuantity
  · exact h.lastImportedId
  · rw [h.acceptedSequence, h.importedSequence, hen.sequence]
  · rw [h.acceptedQuantity]
    exact h.importedQuantity
  · rw [h.lastAcceptedId]
    exact h.lastImportedId
  · rw [hi.account, hen.poolId, ← h.account]
    refine ⟨_, mapResult_of_ok (g := fun _ => ()) fun e he => ?_⟩
    rw [h.account]
    exact ha.checks h hr hen (hm e he)

def Pool.closedBy (pool : Pool) (rumor : Rumor) (envelope : SignedEvent) : Pool :=
  { pool with
    state := .closed
    closingRumor := some rumor
    receivedClosingEnvelope := some envelope }

lemma Pool.ImportsInOrder.closedBy (h : pool.ImportsInOrder P grant saved chain) (rumor : Rumor)
    (envelope : SignedEvent) :
    (pool.closedBy rumor envelope).ImportsInOrder P grant saved chain := by
  refine { h with
    carries := h.carries
    closing := ?_ }
  simp [Pool.closedBy]

lemma Ledger.InOrder.closesPool (hdb : db.InOrder P) (hpo : pool ∈ db.pools.rows)
    (h : pool.ImportsInOrder P grant saved chain) (hopen : pool.state ≠ .closed)
    (hi : input.authenticatedPubkey = pool.merchantPubkey)
    (hcls : ∀ known ∈ pool.closingRumor, known = rumor) :
    ∃ asg hold, db.assignments.get pool.assignmentCoordinate = some asg ∧
      asg.organizerStockHold = some hold ∧ hold.closed = false ∧
      hold.quantity = pool.quantity ∧ hold.importedQuantity = pool.importedQuantity ∧
      closePool db input rumor grant pool (frontierOf pool chain).quantity = .ok { db with
        assignments := db.assignments.put (asg.releaseHold hold rumor input.nowMs)
        pools := db.pools.put (pool.closedBy rumor input.closingEnvelope) } := by
  obtain ⟨x, hx, hm, hp⟩ := hdb.unclosed pool hpo hopen
  obtain ⟨asg, ha, hhol⟩ := Option.bind_eq_some_iff.1 hx
  obtain ⟨hold, hh, rfl⟩ := holding_eq_some.1 hhol
  obtain ⟨backing, hbac, hb⟩ := hdb.held _ _ hx
  dsimp only at hm hp hbac
  rw [hm, hp, hdb.pool_key hpo] at hbac
  cases hbac
  have hhel : hold.closed = false := by
    rw [← Bool.not_eq_true]
    exact fun hcl => hopen (hb.closed.1 hcl)
  have hprs := readGrant_parses h.authority
  obtain ⟨-, ho, -, hgran, -⟩ := readGrant_parties h.authority
  have hq : pool.quantity = grant.quantity := h.carries.2.2.2.2.2.2.2
  have hsum := length_le_sum chain h.quantity_pos
  have himp := h.importedQuantity
  have hwit := h.within
  have hwell : hold.WellFormed := by
    have hhex : IsHex64 hold.poolId := hp ▸ h.carries.1 ▸ hgran
    obtain ⟨-, -, -, -, -, hc, -⟩ := hprs
    refine ⟨?_, ?_, ?_, ?_, ?_, ?_⟩
    · rw [trim_of_all_isHexChar hhex.2]
      intro hemp
      have hlen := hhex.1
      rw [hemp] at hlen
      cases hlen
    · have horg := hb.organizerPubkey
      rw [h.carries.2.2.2.1] at horg
      exact horg ▸ ho
    · rw [← hb.quantity, hq]
      exact hc.1
    · rw [← hb.quantity, hq]
      exact hc.2
    · rw [← hb.importedQuantity]
      omega
    · rw [← hb.quantity, ← hb.importedQuantity]
      omega
  have hord : asg.HoldInOrder := by
    intro other hoth
    rw [hh] at hoth
    cases hoth
    refine ⟨hwell, fun hpos => hdb.tracked asg (mem_of_get ha) ?_⟩
    rw [Assignment.held, hh]
    exact hpos
  refine ⟨asg, hold, ha, hh, hhel, hb.quantity.symm, hb.importedQuantity.symm, ?_⟩
  have hco : pool.assignmentCoordinate = grant.assignmentCoordinate :=
    h.carries.2.2.2.2.2.1
  rw [hco] at ha
  simp only [closePool, run_ok, if_neg hopen, ha, hh,
    pure_ok, outstandingOrganizerStockHold_ok, not_or, not_not, Bool.not_eq_true]
  refine ⟨?_, ⟨?_, hp, ?_, ?_, hhel⟩, _, ⟨hord, rfl⟩, rfl⟩
  · rintro ⟨known, hkn, hne⟩
    exact hne (hcls known hkn)
  · rw [hi, hm, h.account]
  · rw [← hb.quantity, hq]
  · exact hb.importedQuantity.symm.trans h.importedQuantity

lemma Pool.closedBy_self (hc : pool.state = .closed)
    (hcls : pool.closingRumor = some rumor) (db : Ledger) :
    closePool db input rumor grant pool (frontierOf pool chain).quantity = .ok db := by
  simp only [closePool, run_ok, if_pos hc, hcls, pure_ok]
  simp [SameOrganizerStockRumor]

lemma Pool.ImportsInOrder.reconciles (hdb : db.InOrder P) (ha : db.Attributed P)
    (hp : pool ∈ db.pools.rows)
    (h : pool.ImportsInOrder P grant (db.entriesOf pool.accountPubkey pool.poolId) chain)
    (hprs : parseStockAuthorityRumor P rumor = .ok (.closed close))
    (he : close.Ends rumor pool grant chain)
    (hc : pool.state = .closed) (hcls : pool.closingRumor = some rumor)
    (hi : input.Delivers P pool.merchantPubkey rumor) :
    reconcileMerchantOrganizerStockClose P db input = .ok db := by
  have hch := h.closingChecks hdb ha hp hprs he hi
  exact reconcileMerchantOrganizerStockClose_ok.2
    ⟨rumor, close, pool, grant, frontierOf pool chain, hch,
      Pool.closedBy_self hc hcls db⟩

end

structure Ledger.HasImported (db : Ledger) (jdb : Journal) (other : Pool) (rumor : Rumor)
    (pool : Pool) : Prop where
  get : db.pools.get (poolKey other.merchantPubkey other.poolId) = some pool
  grant : pool.grantRumor = other.grantRumor
  entries : ((db.entriesOf other.merchantPubkey other.poolId).map Entry.rumor).Perm
    ((jdb.entriesOf other.accountPubkey other.poolId).map Entry.rumor)
  close : ∀ known ∈ pool.closingRumor, known = rumor

def Journal.acceptedQuantity (jdb : Journal) (account poolId : Text) : Int :=
  ((jdb.entriesOf account poolId).map (·.quantity)).sum

structure Ledger.Releases (db db' : Ledger) (pool : Pool) (units : Int) : Prop where
  closed : ∃ pool' ∈ db'.pools.get pool.id, pool'.state = .closed
  unchanged : pool.state = .closed → db' = db
  released : pool.state ≠ .closed → ∃ a ∈ db.assignments.get pool.assignmentCoordinate,
    ∃ a' ∈ db'.assignments.get pool.assignmentCoordinate, a.held - a'.held = units ∧ a'.held = 0
  others : ∀ c, c ≠ pool.assignmentCoordinate → db'.assignments.get c = db.assignments.get c
  stock : db'.products = db.products
  entries : db'.entries = db.entries

def Ledger.ClosesAtFrontier (P : StockPlatform) (db : Ledger) (input : CloseInput) : Prop :=
  ∃ rumor close pool, P.unwrap input.closingEnvelope = some rumor ∧ rumor.content = .closed close ∧
    db.pools.get (poolKey input.authenticatedPubkey close.poolId) = some pool ∧
    close.sequence = pool.importedSequence ∧ close.acceptedQuantity = pool.importedQuantity ∧
    close.lastAcceptedId = pool.lastImportedId ∧
    pool.importedSequence = (db.entriesOf pool.accountPubkey pool.poolId).length ∧
    pool.importedQuantity = db.importedQuantity pool.accountPubkey pool.poolId

structure ClosesTogether (P : StockPlatform) (db : Ledger) (jdb : Journal) (other : Pool)
    (rumor : Rumor) : Prop where
  accepts : ∀ pool, db.HasImported jdb other rumor pool →
    ∀ input : CloseInput, input.Delivers P other.merchantPubkey rumor →
      ∃ db', reconcileMerchantOrganizerStockClose P db input = .ok db' ∧
        db.Releases db' pool
          (pool.quantity - jdb.acceptedQuantity other.accountPubkey other.poolId) ∧
        ∀ again : CloseInput, again.Delivers P other.merchantPubkey rumor →
          reconcileMerchantOrganizerStockClose P db' again = .ok db'
  rejects : ∀ input db', reconcileMerchantOrganizerStockClose P db input = .ok db' →
    db.ClosesAtFrontier P input
  complete : (∀ e ∈ db.entriesOf other.merchantPubkey other.poolId,
      ∀ o ∈ jdb.entriesOf other.accountPubkey other.poolId,
        e.rumor.id = o.rumor.id → e.rumor = o.rumor) →
    ∀ input db', P.unwrap input.closingEnvelope = some rumor →
      reconcileMerchantOrganizerStockClose P db input = .ok db' →
      ((db.entriesOf other.merchantPubkey other.poolId).map Entry.rumor).Perm
        ((jdb.entriesOf other.accountPubkey other.poolId).map Entry.rumor)

section
variable {P : StockPlatform} {db db' : Ledger} {jdb : Journal} {pool other : Pool}
  {grant : StockGrant} {accepted : List (Rumor × StockAcceptance)} {rumor : Rumor}

lemma Pool.InOrder.acceptedQuantity_eq
    (h : other.InOrder P grant (jdb.entriesOf other.accountPubkey other.poolId) accepted) :
    jdb.acceptedQuantity other.accountPubkey other.poolId = (accepted.map (·.2.quantity)).sum := by
  have hent : (jdb.entriesOf other.accountPubkey other.poolId).map (·.quantity) =
      ((jdb.entriesOf other.accountPubkey other.poolId).map Entry.rumor).map Rumor.quantity := by
    rw [map_map]
    refine map_congr_left fun e he => ?_
    obtain ⟨a, ha⟩ := h.records e he
    rw [Function.comp_apply, Rumor.quantity, ha.content, ← ha.quantity]
  have hc : accepted.map (·.2.quantity) =
      (accepted.map Prod.fst).map Rumor.quantity := by
    rw [map_map]
    refine map_congr_left fun x hx => ?_
    rw [Function.comp_apply, Rumor.quantity, h.content hx]
  rw [Journal.acceptedQuantity, hent, hc]
  exact (h.carried.map Rumor.quantity).sum_eq

variable {input : CloseInput}

lemma Pool.InOrder.accepts_close (hdb : db.InOrder P) (hattr : db.Attributed P)
    (hhex : ∀ message, IsHex64 (P.eventHash message))
    (h : other.InOrder P grant (jdb.entriesOf other.accountPubkey other.poolId) accepted)
    (hcls : other.closingRumor = some rumor) (hi : db.HasImported jdb other rumor pool)
    (hin : input.Delivers P other.merchantPubkey rumor) :
    ∃ db', reconcileMerchantOrganizerStockClose P db input = .ok db' ∧
      db.Releases db' pool (pool.quantity - jdb.acceptedQuantity other.accountPubkey other.poolId) ∧
      ∀ again : CloseInput, again.Delivers P other.merchantPubkey rumor →
        reconcileMerchantOrganizerStockClose P db' again = .ok db' := by
  have hp := mem_of_get hi.get
  obtain ⟨grant', chain, hch⟩ := hdb.pools pool hp
  obtain rfl : grant = grant' := by
    have hau := hch.authority
    rw [hi.grant] at hau
    exact Except.ok.inj (h.authority.symm.trans hau)
  have hm : other.merchantPubkey = pool.merchantPubkey :=
    h.own.carries.2.2.1.trans hch.carries.2.2.1.symm
  have hpid : pool.poolId = other.poolId := by
    rw [hch.carries.1, h.own.carries.1, hi.grant]
  have hacc : pool.accountPubkey = other.merchantPubkey := hch.account.trans hm.symm
  have hent := hi.entries
  rw [← hacc, ← hpid] at hent
  rw [hpid] at hent
  obtain rfl : chain = accepted := by
    refine hch.chain_eq h ?_
    rw [hpid]
    exact hent
  have he := h.ends hcls hpid hi.grant
  have hprs := createStockAuthorityRumor_parses hhex (h.closing rumor hcls).2.1
  rw [hm] at hin ⊢
  have hchks := hch.closingChecks hdb hattr hp hprs he hin
  have hrec : ∀ db', closePool db input rumor grant pool (frontierOf pool chain).quantity =
      .ok db' → reconcileMerchantOrganizerStockClose P db input = .ok db' := fun db' hok =>
    reconcileMerchantOrganizerStockClose_ok.2
      ⟨rumor, other.close, pool, grant, frontierOf pool chain, hchks, hok⟩
  by_cases hcl : pool.state = .closed
  · obtain ⟨known, hkn⟩ := Option.ne_none_iff_exists'.1 (hch.closing.1 hcl)
    obtain rfl := hi.close known hkn
    refine ⟨db, hrec db (Pool.closedBy_self hcl hkn db), ?_, ?_⟩
    · refine ⟨⟨pool, get_of_mem hp, hcl⟩, fun _ => rfl, fun hopen => absurd hcl hopen,
        fun _ _ => rfl, rfl, rfl⟩
    · intro again ha
      exact hch.reconciles hdb hattr hp hprs he hcl hkn ha
  · obtain ⟨asg, hold, hasg, hhold, hhel, hqty, hh, hok⟩ :=
      hdb.closesPool hp hch hcl hin.account hi.close
    have hd := hrec _ hok
    have hkey : asg.coordinate = pool.assignmentCoordinate := key_of_get hasg
    refine ⟨_, hd, ?_, ?_⟩
    · refine ⟨⟨pool.closedBy rumor input.closingEnvelope, get_put_self _ _, rfl⟩,
        fun h => absurd h hcl, fun _ => ?_, ?_, rfl, rfl⟩
      · refine ⟨asg, hasg, asg.releaseHold hold rumor input.nowMs, ?_, ?_, rfl⟩
        · rw [← hkey]
          exact get_put_self _ _
        · have hzero : (asg.releaseHold hold rumor input.nowMs).held = 0 := rfl
          have hheld : asg.held = pool.quantity - pool.importedQuantity := by
            rw [Assignment.held, hhold]
            simp [OrganizerStockHold.outstanding, hhel, hqty, hh]
          rw [hzero, hheld, h.acceptedQuantity_eq, hch.importedQuantity, sub_zero]
      · intro c hc
        refine get_put_of_ne ?_
        intro heq
        have hkeys : c = asg.coordinate := heq
        exact hc (hkeys.trans hkey)
    · intro again ha
      obtain ⟨hsam, hs⟩ := reconcileMerchantOrganizerStockClose_same hd
      have hnext := hch.closedBy rumor input.closingEnvelope
      exact Pool.ImportsInOrder.reconciles (reconcileMerchantOrganizerStockClose_inOrder hdb hd)
        (hattr.congr hsam fun k order hord _ => hs ▸ hord)
        (mem_put.2 (.inl rfl)) hnext hprs
        ⟨he.parties, he.poolId, he.sequence, he.acceptedQuantity, he.lastAcceptedId,
          he.start, he.time⟩ rfl rfl ha

lemma Ledger.InOrder.closesAtFrontier (hdb : db.InOrder P)
    (hok : reconcileMerchantOrganizerStockClose P db input = .ok db') :
    db.ClosesAtFrontier P input := by
  obtain ⟨rumor, close, pool, grant, frontier, hc, -⟩ :=
    reconcileMerchantOrganizerStockClose_ok.1 hok
  obtain ⟨grant', chain, hch⟩ := hdb.pools pool (mem_of_get hc.get)
  have hco := (parseStockAuthorityRumor_ok.1 hc.parsed).1
  refine ⟨rumor, close, pool, hc.unwraps, hco.symm, hc.get,
    hc.importedSequence.symm, ?_, ?_, ?_, hch.importedQuantity_eq⟩
  · rw [hc.importedQuantity, hc.quantity]
  · rw [hc.lastImportedId, hc.lastId]
  · have hl := hch.carried.length_eq
    rw [length_map, length_map] at hl
    rw [hch.importedSequence, hl]

lemma Pool.InOrder.complete_of_close (hdb : db.InOrder P)
    (h : other.InOrder P grant (jdb.entriesOf other.accountPubkey other.poolId) accepted)
    (hcls : other.closingRumor = some rumor)
    (ha : ∀ e ∈ db.entriesOf other.merchantPubkey other.poolId,
      ∀ o ∈ jdb.entriesOf other.accountPubkey other.poolId,
        e.rumor.id = o.rumor.id → e.rumor = o.rumor)
    (hu : P.unwrap input.closingEnvelope = some rumor)
    (hok : reconcileMerchantOrganizerStockClose P db input = .ok db') :
    ((db.entriesOf other.merchantPubkey other.poolId).map Entry.rumor).Perm
      ((jdb.entriesOf other.accountPubkey other.poolId).map Entry.rumor) := by
  obtain ⟨known, close, pool, grant', frontier, hch, -⟩ :=
    reconcileMerchantOrganizerStockClose_ok.1 hok
  obtain rfl : known = rumor := Option.some.inj (hch.unwraps.symm.trans hu)
  obtain rfl : close = other.close := by
    have hco := (parseStockAuthorityRumor_ok.1 hch.parsed).1
    rw [(createStockAuthorityRumor_content (h.closing known hcls).2.1).1] at hco
    exact StockPayload.closed.inj hco
  have hmer : other.merchantPubkey = input.authenticatedPubkey := hch.merchant
  have hg := hch.get
  rw [← hmer] at hg
  obtain ⟨grant'', chain, hc⟩ := hdb.pools pool (mem_of_get hg)
  obtain ⟨hm, -, -, hid, -⟩ := readGrant_parties h.authority
  obtain ⟨hacc, hp⟩ := pool_of_get (h.own.carries.2.2.1 ▸ hm)
    h.own.poolHex hg hc.carries
  rw [hacc, show pool.poolId = other.poolId from hp] at hc
  have hlen : chain.length = accepted.length := by
    have hs := hc.importedSequence.symm.trans
      (hch.importedSequence.trans h.acceptedSequence)
    exact_mod_cast hs
  have hl : acceptances.lastId other.poolId chain = acceptances.lastId other.poolId accepted := by
    have hlas := hc.lastImportedId.symm.trans
      ((hch.lastImportedId.trans hch.lastId).trans h.lastAcceptedId)
    rw [show pool.poolId = other.poolId from hp] at hlas
    exact hlas
  have hlin := hc.linked
  rw [show pool.poolId = other.poolId from hp] at hlin
  have heq : chain = accepted := by
    refine hlin.eq_of_lastId h.linked hlen ?_ hl
    intro x hx y hy hi
    obtain ⟨e, he, hex⟩ := mem_map.1 (hc.carried.mem_iff.2 (mem_map_of_mem hx))
    obtain ⟨o, ho, hoy⟩ := mem_map.1 (h.carried.mem_iff.2 (mem_map_of_mem hy))
    have hr : x.1 = y.1 := by
      rw [← hex, ← hoy]
      refine ha e he o ho ?_
      rw [hex, hoy]
      exact hi
    have hco := hc.content hx
    rw [hr, h.content hy] at hco
    exact Prod.ext hr (StockPayload.accepted.inj hco).symm
  rw [heq] at hc
  exact hc.carried.trans h.carried.symm

end

namespace Sample

def quietClose : StockClose :=
  { close with
    sequence := 0
    lastAcceptedId := poolId
    acceptedQuantity := 0 }

def quietCloseRumor : Rumor :=
  { authorityMessage (.closed quietClose) 1800000300 with
    id := hexText 64 0xfa93c34e883e1978da5e4259fc6c726fa916a2e3644b376ab6254385734d77ce }

def quietPlatform : StockPlatform :=
  { merchantPlatform with
    eventHash := fun message =>
      if message = grantRumor.toUnsigned then poolId
      else if message = quietCloseRumor.toUnsigned then quietCloseRumor.id
      else hexText 64 0 }

def quietOps : List JournalOp := [.install install, .close closing]

def quietPool : Pool :=
  { newPool organizer grantRumor grant .active with
    state := .closing
    closingRumor := some quietCloseRumor }

end Sample

section
variable {P : StockPlatform} {db : Ledger} {jdb : Journal} {other : Pool} {rumor : Rumor}

end

end Conduit.Stock
