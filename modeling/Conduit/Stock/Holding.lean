import Conduit.Stock.JournalOrder

namespace Conduit.Stock

open Js Throwing Table Option

/-- The stock that an assignment sets apart, with the assignment's owner and product. -/
structure Holding where
  (merchantPubkey productCoordinate : Text)
  hold : OrganizerStockHold

def Holding.imports (h : Holding) (n : Int) : Holding :=
  { h with hold := { h.hold with importedQuantity := h.hold.importedQuantity + n } }

def Assignment.holding (a : Assignment) : Option Holding :=
  a.organizerStockHold.map fun hold => ⟨a.merchantPubkey, a.productCoordinate, hold⟩

def Ledger.holding (db : Ledger) (coordinate : Text) : Option Holding :=
  (db.assignments.get coordinate).bind Assignment.holding

variable (db : Ledger)

def Ledger.owner (productCoordinate : Text) : Option Text :=
  (db.products.get productCoordinate).map (·.merchantPubkey)

def Ledger.entriesOf (account poolId : Text) : List Entry :=
  db.entries.rows.filter fun e => e.accountPubkey = account ∧ e.poolId = poolId

def Ledger.importedQuantity (account poolId : Text) : Int :=
  (((db.entriesOf account poolId).filter (·.imported)).map (·.quantity)).sum

structure Entry.Received (P : StockPlatform) (e : Entry) : Prop where
  imported : e.imported = true
  envelope : ∃ envelope ∈ e.receivedEnvelope, P.unwrap envelope = some e.rumor
  records : ∃ a, e.Records a

structure Pool.ImportsInOrder (P : StockPlatform) (pool : Pool) (grant : StockGrant)
    (entries : List Entry) (chain : List (Rumor × StockAcceptance)) : Prop where
  authority : readGrant P pool.grantRumor = .ok grant
  carries : pool.Carries grant
  account : pool.accountPubkey = pool.merchantPubkey
  carried : (entries.map Entry.rumor).Perm (chain.map Prod.fst)
  received : ∀ e ∈ entries, e.Received P
  parsed : ∀ x ∈ chain, parseStockAuthorityRumor P x.1 = .ok (.accepted x.2)
  parties : ∀ x ∈ chain, x.2.toStockParties = grant.toStockParties ∧ x.2.poolId = pool.poolId
  linked : acceptances.Chain pool.poolId (pool.grantRumor.createdAt * 1000) chain
  expires : ∀ x ∈ chain, x.2.acceptedAtMs < grant.expiresAtMs
  importedSequence : pool.importedSequence = chain.length
  importedQuantity : pool.importedQuantity = (chain.map (·.2.quantity)).sum
  lastImportedId : pool.lastImportedId = acceptances.lastId pool.poolId chain
  acceptedSequence : pool.acceptedSequence = pool.importedSequence
  acceptedQuantity : pool.acceptedQuantity = pool.importedQuantity
  lastAcceptedId : pool.lastAcceptedId = pool.lastImportedId
  within : pool.importedQuantity ≤ grant.quantity
  closing : pool.state = .closed ↔ pool.closingRumor ≠ none

structure Pool.Backs (pool : Pool) (coordinate : Text) (h : Holding) : Prop where
  assignmentCoordinate : pool.assignmentCoordinate = coordinate
  productCoordinate : pool.productCoordinate = h.productCoordinate
  organizerPubkey : pool.organizerPubkey = h.hold.organizerPubkey
  quantity : pool.quantity = h.hold.quantity
  importedQuantity : pool.importedQuantity = h.hold.importedQuantity
  closed : h.hold.closed = true ↔ pool.state = .closed

def Ledger.TracksHeld : Prop :=
  ∀ a ∈ db.assignments.rows, 0 < a.held → a.inventory.IsTracked

structure Ledger.InOrder (P : StockPlatform) (db : Ledger) : Prop where
  pools : ∀ pool ∈ db.pools.rows, ∃ grant chain,
    pool.ImportsInOrder P grant (db.entriesOf pool.accountPubkey pool.poolId) chain
  entries : ∀ e ∈ db.entries.rows, ∃ pool ∈ db.pools.rows, pool.accountPubkey = e.accountPubkey ∧
    pool.poolId = e.poolId
  held : ∀ c h, db.holding c = some h →
    ∃ pool ∈ db.pools.get (poolKey h.merchantPubkey h.hold.poolId), pool.Backs c h
  owned : ∀ c h, db.holding c = some h → db.owner h.productCoordinate = some h.merchantPubkey
  unclosed : ∀ pool ∈ db.pools.rows, pool.state ≠ .closed →
    ∃ h ∈ db.holding pool.assignmentCoordinate, h.merchantPubkey = pool.accountPubkey ∧
      h.hold.poolId = pool.poolId
  tracked : db.TracksHeld

structure Keeps (db db' : Ledger) : Prop where
  holding : ∀ c, db'.holding c = db.holding c
  owner : ∀ c m, db.owner c = some m → db'.owner c = some m
  tracked : db.TracksHeld → db'.TracksHeld
  pools : db'.pools = db.pools
  entries : db'.entries = db.entries
  orders : ∀ k, ∀ order ∈ db.acceptedOrders.get k, order.organizerImport ≠ none →
    db'.acceptedOrders.get k = some order

section
variable {P : StockPlatform} {db db' db'' : Ledger} {pool : Pool} {grant : StockGrant}
  {a a' : Assignment} {c : Text}

lemma Keeps.refl (db : Ledger) : Keeps db db :=
  ⟨fun _ => rfl, fun _ _ h => h, fun h => h, rfl, rfl, fun _ _ h _ => h⟩

lemma mem_ledger_entriesOf {account poolId : Text} {e : Entry} : e ∈ db.entriesOf account poolId ↔
      e ∈ db.entries.rows ∧ e.accountPubkey = account ∧ e.poolId = poolId := by
  simp [Ledger.entriesOf]

lemma holding_of_get (h : db.assignments.get c = some a) : db.holding c = a.holding := by
  rw [Ledger.holding, h, bind_some]

lemma holding_of_get_none (h : db.assignments.get c = none) : db.holding c = none := by
  rw [Ledger.holding, h, bind_none]

lemma holding_eq_some {h : Holding} : a.holding = some h ↔
    ∃ hold, a.organizerStockHold = some hold ∧ h = ⟨a.merchantPubkey, a.productCoordinate, hold⟩ := by
  simp [Assignment.holding, eq_comm]

lemma Holding.imports_zero (h : Holding) : h.imports 0 = h := by
  simp [Holding.imports]

lemma Holding.map_imports_zero (h : Option Holding) : h.map (fun h => h.imports 0) = h := by
  simp [Holding.imports_zero]

lemma Ledger.InOrder.keeps (h : db.InOrder P) (hk : Keeps db db') : db'.InOrder P := by
  have he : ∀ account poolId, db'.entriesOf account poolId = db.entriesOf account poolId := by
    intro account poolId
    rw [Ledger.entriesOf, hk.entries, Ledger.entriesOf]
  refine ⟨?_, ?_, ?_, ?_, ?_, hk.tracked h.tracked⟩
  · rw [hk.pools]
    intro pool hp
    rw [he]
    exact h.pools pool hp
  · rw [hk.pools, hk.entries]
    exact h.entries
  · intro c x hx
    rw [hk.pools]
    exact h.held c x (hk.holding c ▸ hx)
  · intro c x hx
    exact hk.owner _ _ (h.owned c x (hk.holding c ▸ hx))
  · intro pool hp ho
    rw [hk.holding]
    rw [hk.pools] at hp
    exact h.unclosed pool hp ho

lemma Ledger.InOrder.imported (h : db.InOrder P) {e : Entry} (he : e ∈ db.entries.rows) :
    e.imported = true := by
  obtain ⟨pool, hp, ha, hpid⟩ := h.entries e he
  obtain ⟨grant, chain, hi⟩ := h.pools pool hp
  exact (hi.received e (mem_ledger_entriesOf.2 ⟨he, ha.symm, hpid.symm⟩)).imported

lemma keeps_putProduct {product : Product}
    (h : ∀ p ∈ db.products.get product.coordinate, p.merchantPubkey = product.merchantPubkey) :
    Keeps db { db with products := db.products.put product } := by
  refine ⟨fun _ => rfl, ?_, fun h => h, rfl, rfl, fun _ _ h _ => h⟩
  intro c m hm
  change ((db.products.put product).get c).map _ = _
  rw [get_put]
  split_ifs with hc
  · subst hc
    obtain ⟨p, hp, rfl⟩ := map_eq_some_iff.1 hm
    exact congrArg some (h p hp).symm
  · exact hm

lemma keeps_putAssignment (h : a.holding = db.holding a.coordinate)
    (ht : db.TracksHeld → 0 < a.held → a.inventory.IsTracked) :
    Keeps db { db with assignments := db.assignments.put a } := by
  refine ⟨?_, fun _ _ h => h, ?_, rfl, rfl, fun _ _ h _ => h⟩
  · intro c
    change ((db.assignments.put a).get c).bind _ = _
    rw [get_put]
    split_ifs with hc
    · rw [bind_some, h, hc]
    · rfl
  · intro hdb b hb
    rcases mem_put.1 hb with rfl | ⟨hb, -⟩
    · exact ht hdb
    · exact hdb b hb

lemma initializeMerchantInventoryProduct_keeps {input : InitializeInput}
    (h : initializeMerchantInventoryProduct P db input = .ok db') : Keeps db db' := by
  simp only [initializeMerchantInventoryProduct, run_ok] at h
  obtain ⟨-, -, parts, -, -, -, -, h⟩ := h
  cases hg : db.products.get input.productCoordinate with
  | some product =>
    rw [hg] at h
    obtain rfl := pure_ok.1 h
    exact .refl db
  | none =>
    rw [hg] at h
    obtain rfl := pure_ok.1 h
    apply keeps_putProduct
    intro p hp
    rw [show db.products.get _ = none from hg] at hp
    cases hp

lemma commitMerchantInventoryStockEdit_keeps {input : StockEditInput}
    (h : commitMerchantInventoryStockEdit db input = .ok db') : Keeps db db' := by
  simp only [commitMerchantInventoryStockEdit, run_ok] at h
  obtain ⟨-, -, -, h⟩ := h
  cases hg : db.products.get input.productCoordinate with
  | none =>
    rw [hg] at h
    cases h
  | some product =>
    rw [hg] at h
    dsimp only at h
    split at h
    · simp only [run_ok] at h
      obtain ⟨-, rfl⟩ := h
      exact .refl db
    · simp only [run_ok] at h
      obtain ⟨-, -, -, -, reserved, -, -, rfl⟩ := h
      apply keeps_putProduct
      intro p hp
      have hk : product.coordinate = input.productCoordinate := key_of_get hg
      rw [show (product.edited input).coordinate = input.productCoordinate from hk, hg] at hp
      cases hp
      rfl

lemma commitMerchantInventoryAssignment_keeps {input : AssignmentInput}
    (ho : ∀ c h, db.holding c = some h → db.owner h.productCoordinate = some h.merchantPubkey)
    (h : commitMerchantInventoryAssignment P db input = .ok db') : Keeps db db' := by
  simp only [commitMerchantInventoryAssignment, bind_ok] at h
  obtain ⟨-, -, h⟩ := h
  cases hpr : db.products.get input.productCoordinate with
  | none =>
    rw [hpr] at h
    cases h
  | some product =>
    simp only [hpr, run_ok] at h
    obtain ⟨-, held, hh, hu, h⟩ := h
    split at h
    · simp only [run_ok] at h
      obtain ⟨-, rfl⟩ := h
      exact .refl db
    · simp only [commitAssignmentRevision, run_ok] at h
      obtain ⟨-, -, ht, -, reserved, -, -, rfl⟩ := h
      have htr : ∀ existing ∈ db.assignments.get input.assignmentCoordinate,
          0 < existing.held → input.inventory.IsTracked := by
        intro existing hg hp
        by_contra hn
        refine hu ⟨?_, hn⟩
        rw [show db.assignments.get input.assignmentCoordinate = some existing from hg] at hh
        simp only [optionResult, run_ok, outstandingOrganizerStockHold_ok] at hh
        obtain ⟨n, ⟨-, rfl⟩, rfl⟩ := hh
        exact hp
      refine keeps_putAssignment ?_ fun _ hp => ?_
      swap
      · cases hg : db.assignments.get input.assignmentCoordinate with
        | none =>
          rw [hg] at hp
          exact absurd hp (lt_irrefl 0)
        | some existing =>
          rw [hg] at hp
          exact htr existing hg hp
      change Assignment.holding _ = db.holding input.assignmentCoordinate
      cases hg : db.assignments.get input.assignmentCoordinate with
      | none =>
        rw [holding_of_get_none hg]
        rfl
      | some existing =>
        rw [holding_of_get hg]
        cases hho : existing.organizerStockHold with
        | none => simp [Assignment.holding, AssignmentInput.assignment, hho]
        | some hold =>
          have hhol : existing.holding =
              some ⟨existing.merchantPubkey, existing.productCoordinate, hold⟩ :=
            holding_eq_some.2 ⟨hold, hho, rfl⟩
          have hown := ho _ _ ((holding_of_get hg).trans hhol)
          have heq : existing.productCoordinate = input.productCoordinate := by
            by_contra hne
            exact ht ⟨existing, hg, .inl hne⟩
          rw [Ledger.owner, heq, hpr] at hown
          have hm : product.merchantPubkey = existing.merchantPubkey :=
            some.inj hown
          rw [hhol, heq, ← hm]
          simp [Assignment.holding, AssignmentInput.assignment, hho]

lemma SameButOccurrence.holding (h : SameButOccurrence a a') : a'.holding = a.holding := by
  rw [Assignment.holding, h.organizerStockHold, h.merchantPubkey, h.productCoordinate,
    Assignment.holding]

lemma Reconciles.holding (h : Reconciles db db') (c : Text) : db'.holding c = db.holding c := by
  cases hg : db'.assignments.get c with
  | some a =>
    obtain ⟨b, hb, heq⟩ := h.assignments a (mem_of_get hg)
    have hk : b.coordinate = c := heq.coordinate.symm.trans (key_of_get hg)
    rw [holding_of_get hg, heq.holding, ← holding_of_get (hk ▸ get_of_mem hb)]
  | none =>
    rw [holding_of_get_none hg]
    symm
    apply holding_of_get_none
    rw [get_eq_none]
    intro b hb hk
    obtain ⟨a, ha, heq⟩ := h.kept b hb
    exact get_eq_none.1 hg a ha (heq.coordinate.trans hk)

lemma Reconciles.keeps (h : Reconciles db db') : Keeps db db' := by
  refine ⟨h.holding, ?_, ?_, h.pools, h.entries, ?_⟩
  · intro c m hm
    rw [Ledger.owner, h.products]
    exact hm
  · intro hdb a ha hp
    obtain ⟨b, hb, heq⟩ := h.assignments a ha
    rw [heq.inventory]
    exact hdb b hb (heq.held ▸ hp)
  · intro k order ho _
    rw [h.acceptedOrders]
    exact ho

lemma publishProduct_keeps (coordinate : Text) (jobs : List PublicationJob)
    (signed : SignedEvent) : Keeps db (publishProduct db coordinate jobs signed) := by
  unfold publishProduct
  split
  · exact .refl db
  · rename_i product hpr
    apply keeps_putProduct
    intro p hp
    have hk : product.coordinate = coordinate := key_of_get hpr
    rw [show db.products.get _ = some product from hk ▸ hpr] at hp
    cases hp
    rfl

lemma publishAssignment_keeps (coordinate : Text) (jobs : List PublicationJob)
    (eventId : Option Text) : Keeps db (publishAssignment db coordinate jobs eventId) := by
  unfold publishAssignment
  split
  · exact .refl db
  · rename_i assignment ha
    refine keeps_putAssignment ?_ fun hdb => ?_
    · have hk : assignment.coordinate = coordinate := key_of_get ha
      rw [hk, holding_of_get ha]
      rfl
    · exact hdb assignment (mem_of_get ha)

end

end Conduit.Stock
