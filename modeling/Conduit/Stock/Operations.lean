import Conduit.Runs
import Conduit.Stock.Accepting

namespace Conduit.Stock

open Js Throwing Runs List Table

inductive StockOp where
  | create (input : InitializeInput)
  | stockEdit (input : StockEditInput)
  | assignment (input : AssignmentInput)
  /-- An order without a verified import. -/
  | accept (input : OrderInput)
  /-- An import whose entries were read in an earlier transaction, from the ledger `read`. -/
  | importOrder (read : Ledger) (input : ImportInput)
  | prepare (input : PrepareInput)
  | close (input : CloseInput)
  /-- One transaction of `reconcileKnownOccurrenceLifecycle`. -/
  | reconcile (coordinate : Text)
  /-- The events retained for a market change. -/
  | observe (market : Text) (events : List SignedEvent)
  /-- Stock decisions that were made before the acceptance writer existed. -/
  | checkpoint (rows : List StockCheckpoint)
  /-- A publication job moves on. -/
  | publishProduct (coordinate : Text) (jobs : List PublicationJob) (signed : SignedEvent)
  | publishAssignment (coordinate : Text) (jobs : List PublicationJob) (eventId : Option Text)

def StockOp.clock : StockOp → Option Int
  | .stockEdit input => some input.nowMs
  | .assignment input => some input.nowMs
  | .accept input => some input.acceptedAt
  | .importOrder _ input => some input.nowMs
  | .prepare input => some input.nowMs
  | .close input => some input.nowMs
  | _ => none

def publishProduct (db : Ledger) (coordinate : Text) (jobs : List PublicationJob)
    (signed : SignedEvent) : Ledger :=
  match db.products.get coordinate with
  | none => db
  | some product => { db with
      products := db.products.put { product with
        publicationJobs := jobs
        signedProductEvent := signed } }

def publishAssignment (db : Ledger) (coordinate : Text) (jobs : List PublicationJob)
    (eventId : Option Text) : Ledger :=
  match db.assignments.get coordinate with
  | none => db
  | some assignment => { db with
      assignments := db.assignments.put { assignment with
        publicationJobs := jobs
        signedAssignmentEventId := eventId } }

variable (P : StockPlatform)

def StockOp.apply (db : Ledger) : StockOp → Result Ledger
  | .create input => initializeMerchantInventoryProduct P db input
  | .stockEdit input => commitMerchantInventoryStockEdit db input
  | .assignment input => commitMerchantInventoryAssignment P db input
  | .accept input => do
    let accepted ← acceptMerchantInventoryOrder P db { input with organizerImport := none }
    return accepted.1
  | .importOrder read input => do
    let entries ← readImport P read input
    let accepted ← acceptMerchantInventoryOrder P db (importOrderInput input entries.1 entries.2)
    return accepted.1
  | .prepare input => prepareMerchantOrganizerStockPool P db input
  | .close input => reconcileMerchantOrganizerStockClose P db input
  | .reconcile coordinate => .ok (reconcileAssignment P db coordinate)
  | .observe market events =>
    .ok { db with evidence := fun m => if m = market then events else db.evidence m }
  | .checkpoint rows => .ok { db with stockCheckpoints := rows }
  | .publishProduct coordinate jobs signed => .ok (Stock.publishProduct db coordinate jobs signed)
  | .publishAssignment coordinate jobs eventId =>
    .ok (Stock.publishAssignment db coordinate jobs eventId)

structure Inventories where
  ledger : Ledger
  nowMs : Int

/-- A step that succeeds, at a time of its own, under a condition on the state before it. -/
def StockStep (allowed : Ledger → Int → StockOp → Prop) (op : StockOp) (s t : Inventories) : Prop :=
  s.nowMs ≤ t.nowMs ∧ (∀ clock ∈ op.clock, clock = t.nowMs) ∧
    op.apply P s.ledger = .ok t.ledger ∧ allowed s.ledger t.nowMs op

/-- The known calendar does not bring back units that the product's stock no longer has. -/
def StockOp.KeepsLapsed (db : Ledger) (nowMs : Int) : StockOp → Prop
  | .reconcile coordinate => ¬ Revives P db coordinate nowMs
  | _ => True

instance (P : StockPlatform) (db : Ledger) (nowMs : Int) (op : StockOp) :
    Decidable (op.KeepsLapsed P db nowMs) := by
  unfold StockOp.KeepsLapsed; split <;> infer_instance

section
variable {P : StockPlatform} {db db' : Ledger} {nowMs : Int} {input : ImportInput}

lemma delegatedItem_method {pool : Pool} {grant : StockGrant} {payload : StockAcceptance}
    {line : DelegatedLine} {item : OrderItem}
    (h : delegatedItem pool grant payload line = .ok item) : item.method = .pickup := by
  unfold delegatedItem at h
  split at h
  · cases h
  · simp only [rejects_ok, pure_ok] at h
    obtain ⟨-, rfl⟩ := h
    rfl

lemma importEnvelope_items {progress progress' : ImportProgress} {envelope : SignedEvent}
    (h : importEnvelope P db input progress envelope = .ok progress')
    (hitems : ∀ item ∈ progress.items, item.method = .pickup) :
    ∀ item ∈ progress'.items, item.method = .pickup := by
  simp only [importEnvelope] at h
  split at h
  · cases h
  · simp only [run_ok] at h
    obtain ⟨payload, -, -, h⟩ := h
    split at h
    · cases h
    · simp only [run_ok] at h
      obtain ⟨grant, -, -, items, hn, rfl⟩ := h
      intro item hi
      rcases mem_append.1 hi with hi | hi
      · exact hitems item hi
      · obtain ⟨line, -, hl⟩ := mem_of_mapResult hn hi
        exact delegatedItem_method hl

lemma readImport_items {read : List OrderItem × List VerifiedEntry}
    (h : readImport P db input = .ok read) : ∀ item ∈ read.1, item.method = .pickup := by
  simp only [readImport, run_ok] at h
  obtain ⟨-, -, -, progress, hp, -, items, hitems, rfl⟩ := h
  have ha : ∀ item ∈ progress.items, item.method = .pickup :=
    foldResult_keeps (p := fun (s : ImportProgress) => ∀ item ∈ s.items, item.method = .pickup)
      (fun envelope _ s s' hs hst => importEnvelope_items hst hs)
      (fun item hi => absurd hi not_mem_nil) hp
  intro item hi
  obtain ⟨unbound, hu, hbd⟩ := mem_of_mapResult hitems hi
  have hm : unbound ∈ progress.items := mem_mergeSort.1 hu
  unfold bindTerms at hbd
  split at hbd
  · cases hbd
  · simp only [rejects_ok, pure_ok] at hbd
    obtain ⟨-, rfl⟩ := hbd
    exact ha unbound hm

lemma Covered.publishProduct (h : Covered db nowMs) (coord : Text)
    (jobs : List PublicationJob) (signed : SignedEvent) :
    Covered (Stock.publishProduct db coord jobs signed) nowMs := by
  unfold Stock.publishProduct
  split
  · exact h
  · rename_i product hp
    exact h.putProduct _ (h.covered product (mem_of_get hp))

lemma Covered.publishAssignment (h : Covered db nowMs) (coord : Text)
    (jobs : List PublicationJob) (eid : Option Text) :
    Covered (Stock.publishAssignment db coord jobs eid) nowMs := by
  unfold Stock.publishAssignment
  split
  · exact h
  · rename_i assignment ha
    have hk := key_of_get ha
    exact h.replaceAssignment (b := assignment) (h.holds assignment (mem_of_get ha))
      (by rw [hk]; exact ha) rfl (le_refl _)

lemma Covered.apply {op : StockOp} (h : Covered db nowMs) (hc : ∀ clock ∈ op.clock,
    clock = nowMs) (hk : op.KeepsLapsed P db nowMs) (hok : op.apply P db = .ok db') :
    Covered db' nowMs := by
  cases op with
  | create input => exact h.create hok
  | stockEdit input => exact h.stockEdit (hc _ rfl) hok
  | assignment input => exact h.commitAssignment (hc _ rfl) hok
  | accept input =>
    simp only [StockOp.apply, run_ok] at hok
    obtain ⟨accepted, ha, rfl⟩ := hok
    have hn : ({ input with organizerImport := none } : OrderInput).acceptedAt = nowMs :=
      hc _ rfl
    exact h.accept hn
      (fun hi => absurd hi Bool.false_ne_true) ha
  | importOrder read input =>
    simp only [StockOp.apply, run_ok] at hok
    obtain ⟨entries, he, accepted, ha, rfl⟩ := hok
    have hn : (importOrderInput input entries.1 entries.2).acceptedAt = nowMs := hc _ rfl
    exact h.accept hn
      (fun _ => readImport_items he) ha
  | prepare input => exact h.prepare (hc _ rfl) hok
  | close input => exact h.close hok
  | reconcile coordinate =>
    cases hok
    exact h.reconcile hk
  | observe market events =>
    cases hok
    exact h.congr rfl rfl
  | checkpoint rows =>
    cases hok
    exact h.congr rfl rfl
  | publishProduct coordinate jobs signed =>
    cases hok
    exact h.publishProduct coordinate jobs signed
  | publishAssignment coordinate jobs eventId =>
    cases hok
    exact h.publishAssignment coordinate jobs eventId

lemma Covered.step {op : StockOp} {s t : Inventories} (h : Covered s.ledger s.nowMs)
    (hs : StockStep P (StockOp.KeepsLapsed P) op s t) : Covered t.ledger t.nowMs :=
  (h.later hs.1).apply hs.2.1 hs.2.2.2 hs.2.2.1

lemma covered_of_empty (hp : db.products = .empty) (ha : db.assignments = .empty) :
    Covered db nowMs := by
  refine ⟨?_, ?_, ?_⟩
  · rw [ha]
    exact fun a hm => nomatch hm
  · rw [ha]
    exact fun a hm => nomatch hm
  · rw [hp]
    exact fun p hm => nomatch hm

structure AllocationsWithinStock (db : Ledger) (nowMs : Int) : Prop where
  within : ∀ p ∈ db.products.rows, ∀ stock ∈ p.stock, ∃ reserved,
    reservedAllocation (db.assignmentsOf p.coordinate) nowMs = .ok reserved ∧ reserved ≤ stock
  readable : ∀ c, readMerchantInventoryAvailability db c nowMs ≠
    .error (.error "Committed allocations exceed stock")

lemma someResult_of_ok {α : Type} {f : α → Result Bool} {l : List α}
    (h : ∀ a ∈ l, ∃ b, f a = .ok b) : ∃ b, someResult f l = .ok b := by
  induction l with
  | nil => exact ⟨false, rfl⟩
  | cons a l ih =>
    obtain ⟨b, hb⟩ := h a mem_cons_self
    simp only [someResult, hb, ok_bind]
    cases b with
    | true => exact ⟨true, rfl⟩
    | false => exact ih fun a' ha' => h a' (mem_cons_of_mem a ha')

lemma Covered.readable (h : Covered db nowMs) (c : Text) :
    readMerchantInventoryAvailability db c nowMs ≠
      .error (.error "Committed allocations exceed stock") := by
  intro hr
  unfold readMerchantInventoryAvailability at hr
  split at hr
  · simp at hr
  · rename_i product hp
    have hm := mem_of_get hp
    obtain rfl : product.coordinate = c := key_of_get hp
    dsimp only at hr
    split at hr
    · obtain ⟨mismatch, hmis⟩ := someResult_of_ok (f := fun a => do
          let held ← outstandingOrganizerStockHold a
          return decide (held > 0 ∨ (a.inventory ≠ .untracked ∧ a.state = .active)))
        (l := db.assignmentsOf product.coordinate) fun a ha => by
          have ho := h.holds a (mem_filter.1 ha).1
          rw [outstandingOrganizerStockHold_ok.2 ⟨ho, rfl⟩]
          exact ⟨_, rfl⟩
      rw [hmis, ok_bind, reject] at hr
      split_ifs at hr <;> simp [bind, Except.bind, pure, Except.pure] at hr
    · rename_i stock hs
      have hro := h.covered product hm stock hs
      rw [h.reservedAllocation, ok_bind] at hr
      simp only [reject, gt_iff_lt, not_lt.2 hro, if_false] at hr
      split_ifs at hr <;> simp [bind, Except.bind, pure, Except.pure] at hr

lemma Covered.allocationsWithinStock (h : Covered db nowMs) : AllocationsWithinStock db nowMs :=
  ⟨fun p hp stock hs => ⟨_, h.reservedAllocation p.coordinate, h.covered p hp stock hs⟩,
    h.readable⟩

end

end Conduit.Stock
