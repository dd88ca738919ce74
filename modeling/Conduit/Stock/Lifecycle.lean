import Conduit.Stock.Ledger

namespace Conduit.Stock

open Js Throwing Table

def normalizeFrontierCreatedAt (value : Int) : Option Int :=
  if IsSafeInteger value ∧ 0 ≤ value then some value else none

def normalizeFrontierEventId (value : Text) : Option Text :=
  let normalized := toLowerCase (trim value)
  if normalized = [] then none else some normalized

/-- The newer timestamp wins and the lexicographically lowest event id wins a tie. -/
def compareReplaceableEventFrontiers (candidate current : SignedEvent) : Int :=
  match normalizeFrontierCreatedAt candidate.createdAt,
    normalizeFrontierCreatedAt current.createdAt with
  | none, none => 0
  | none, some _ => -1
  | some _, none => 1
  | some x, some y =>
    if x > y then 1
    else if x < y then -1
    else match normalizeFrontierEventId candidate.id, normalizeFrontierEventId current.id with
      | none, none => 0
      | none, some _ => -1
      | some _, none => 1
      | some i, some j =>
        if i = j then 0
        else if CheckoutSpark.TextLe i j then 1
        else -1

def isOccurrenceCancelled (event : SignedEvent) : Bool :=
  let tags := tagsNamed event.tags "event_occurrence"
  1 < tags.length || tags.any fun tag =>
    tag.length != 3 || tag[1]? != some "1".toList || tag[2]? != some "scheduled".toList

/-- `${event.kind}:${event.pubkey}:${d}`. -/
def eventCoordinate (event : SignedEvent) : Text :=
  numberText event.kind ++ ":" ++ event.pubkey ++ ":" ++
    (tagValue event.tags "d").getD "undefined"

variable (P : StockPlatform)

def newestAddressableEvidence (events : List SignedEvent) (coordinate : Text) :
    Option SignedEvent :=
  ((events.filter fun event =>
      eventCoordinate event = coordinate && P.isValidSignedEvent event).mergeSort
    fun a b => decide (0 ≤ compareReplaceableEventFrontiers a b)).head?

def HasCancellation (evidence : List SignedEvent) (occurrence : SignedEvent) : Prop :=
  ∃ event ∈ evidence, event.kind = occurrence.kind ∧ event.pubkey = occurrence.pubkey ∧
    (∃ tag ∈ event.tags, tag[0]? = some "d".toList ∧ tag[1]? = tagValue occurrence.tags "d") ∧
    tagsNamed event.tags "event_occurrence" =
      [["event_occurrence".toList, "1".toList, "cancelled".toList]]
  deriving Decidable

def addressableKinds : List Nat := List.range' 30000 10000

def eventMarketAddressableKinds : List Nat := [30402, 30405, 30406, 30409, 31922, 31923, 31924]

def DeletesRevision (coordinate : CheckoutSpark.AddressableCoordinate)
    (event deletion : SignedEvent) : Prop :=
  deletion.kind = 5 ∧ P.isValidSignedEvent deletion = true ∧
    toLowerCase deletion.pubkey = coordinate.authorPubkey ∧
    ((∃ tag ∈ deletion.tags, tag[0]? = some "e".toList ∧ ∃ id ∈ tag[1]?,
        IsHex64 (toLowerCase id) ∧ toLowerCase id = toLowerCase event.id) ∨
      ((∃ tag ∈ deletion.tags, tag[0]? = some "a".toList ∧ ∃ value ∈ tag[1]?,
          ∃ target ∈ CheckoutSpark.parseAddressableCoordinate P.toPlatform value addressableKinds,
            target.coordinate = coordinate.coordinate) ∧
        event.createdAt ≤ deletion.createdAt))
  deriving Decidable

/-- `isEventMarketAddressableRevisionDeleted`. -/
def IsRevisionDeleted (occurrenceCoordinate : Text) (event : SignedEvent)
    (events : List SignedEvent) : Prop :=
  ∃ coordinate ∈ CheckoutSpark.parseAddressableCoordinate P.toPlatform occurrenceCoordinate
      eventMarketAddressableKinds,
    IsHex64 (toLowerCase event.id) ∧ ∃ deletion ∈ events, DeletesRevision P coordinate event deletion
  deriving Decidable

def reconcileOccurrence (evidence : Text → List SignedEvent) (current : Assignment) : Assignment :=
  if current.terminal = true ∨ ¬ ∃ market ∈ CheckoutSpark.parseAddressableCoordinate P.toPlatform
      current.marketCoordinate [30409], market.coordinate = current.marketCoordinate then current
  else
    let events := evidence current.marketCoordinate
    match newestAddressableEvidence P events current.occurrenceCoordinate with
    | none => current
    | some occurrence =>
      if HasCancellation events occurrence ∨
          IsRevisionDeleted P current.occurrenceCoordinate occurrence events then
        { current with terminal := true, revision := current.revision + 1 }
      else match P.calendarEnd occurrence with
        | none => current
        | some calendarEnd =>
          if isOccurrenceCancelled occurrence = false ∧ calendarEnd ≠ current.occurrenceEndMs then
            { current with occurrenceEndMs := calendarEnd, revision := current.revision + 1 }
          else current

def reconcileAssignment (db : Ledger) (coordinate : Text) : Ledger :=
  match db.assignments.get coordinate with
  | none => db
  | some current =>
    let reconciled := reconcileOccurrence P db.evidence current
    if reconciled = current then db
    else { db with assignments := db.assignments.put reconciled }

/-- Current dates govern unused allocations. -/
def reconcileKnownOccurrenceLifecycle (db : Ledger) (merchantPubkey : Text)
    (productCoordinate : Option Text) : Ledger :=
  let assignments := db.assignments.rows.filter fun a =>
    (∀ coordinate ∈ productCoordinate, a.productCoordinate = coordinate) ∧
      a.merchantPubkey = merchantPubkey
  (assignments.map (·.coordinate)).foldl (reconcileAssignment P) db

structure SameButOccurrence (a b : Assignment) : Prop where
  coordinate : b.coordinate = a.coordinate
  merchantPubkey : b.merchantPubkey = a.merchantPubkey
  productCoordinate : b.productCoordinate = a.productCoordinate
  inventory : b.inventory = a.inventory
  state : b.state = a.state
  organizerStockHold : b.organizerStockHold = a.organizerStockHold

lemma SameButOccurrence.refl (a : Assignment) : SameButOccurrence a a :=
  ⟨rfl, rfl, rfl, rfl, rfl, rfl⟩

lemma SameButOccurrence.trans {a b c : Assignment} (h₁ : SameButOccurrence a b)
    (h₂ : SameButOccurrence b c) : SameButOccurrence a c :=
  ⟨h₂.coordinate.trans h₁.coordinate, h₂.merchantPubkey.trans h₁.merchantPubkey,
    h₂.productCoordinate.trans h₁.productCoordinate, h₂.inventory.trans h₁.inventory,
    h₂.state.trans h₁.state, h₂.organizerStockHold.trans h₁.organizerStockHold⟩

lemma SameButOccurrence.holdInOrder {a b : Assignment} (h : SameButOccurrence a b)
    (ha : a.HoldInOrder) : b.HoldInOrder := by
  unfold Assignment.HoldInOrder
  rw [h.organizerStockHold, h.inventory]
  exact ha

lemma SameButOccurrence.held {a b : Assignment} (h : SameButOccurrence a b) : b.held = a.held := by
  rw [Assignment.held, h.organizerStockHold, Assignment.held]

lemma reconcileOccurrence_same (P : StockPlatform) (evid : Text → List SignedEvent)
    (a : Assignment) : SameButOccurrence a (reconcileOccurrence P evid a) := by
  unfold reconcileOccurrence
  split_ifs
  · exact .refl a
  · dsimp only
    split
    · exact .refl a
    · split_ifs
      · exact ⟨rfl, rfl, rfl, rfl, rfl, rfl⟩
      · split
        · exact .refl a
        · split_ifs <;> exact ⟨rfl, rfl, rfl, rfl, rfl, rfl⟩

structure Reconciles (db db' : Ledger) : Prop where
  products : db'.products = db.products
  acceptedOrders : db'.acceptedOrders = db.acceptedOrders
  stockCheckpoints : db'.stockCheckpoints = db.stockCheckpoints
  pools : db'.pools = db.pools
  entries : db'.entries = db.entries
  evidence : db'.evidence = db.evidence
  assignments : ∀ a ∈ db'.assignments.rows, ∃ b ∈ db.assignments.rows, SameButOccurrence b a
  kept : ∀ b ∈ db.assignments.rows, ∃ a ∈ db'.assignments.rows, SameButOccurrence b a

lemma Reconciles.refl (db : Ledger) : Reconciles db db :=
  ⟨rfl, rfl, rfl, rfl, rfl, rfl, fun a ha => ⟨a, ha, .refl a⟩, fun a ha => ⟨a, ha, .refl a⟩⟩

lemma Reconciles.trans {db db' db'' : Ledger} (h₁ : Reconciles db db')
    (h₂ : Reconciles db' db'') : Reconciles db db'' := by
  refine ⟨h₂.products.trans h₁.products, h₂.acceptedOrders.trans h₁.acceptedOrders,
    h₂.stockCheckpoints.trans h₁.stockCheckpoints, h₂.pools.trans h₁.pools,
    h₂.entries.trans h₁.entries, h₂.evidence.trans h₁.evidence, ?_, ?_⟩
  · intro a ha
    obtain ⟨b, hb, hab⟩ := h₂.assignments a ha
    obtain ⟨c, hc, hbc⟩ := h₁.assignments b hb
    exact ⟨c, hc, hbc.trans hab⟩
  · intro c hc
    obtain ⟨b, hb, hcb⟩ := h₁.kept c hc
    obtain ⟨a, ha, hba⟩ := h₂.kept b hb
    exact ⟨a, ha, hcb.trans hba⟩

lemma reconcileAssignment_reconciles (P : StockPlatform) (db : Ledger) (coord : Text) :
    Reconciles db (reconcileAssignment P db coord) := by
  unfold reconcileAssignment
  split
  · exact .refl db
  · rename_i current hc
    have hm := mem_of_get hc
    have heq := reconcileOccurrence_same P db.evidence current
    dsimp only
    split_ifs
    · exact .refl db
    · refine ⟨rfl, rfl, rfl, rfl, rfl, rfl, ?_, ?_⟩
      · intro a ha
        rcases mem_put.1 ha with rfl | ⟨ha, -⟩
        · exact ⟨current, hm, heq⟩
        · exact ⟨a, ha, .refl a⟩
      · intro b hb
        by_cases hk : b.coordinate = (reconcileOccurrence P db.evidence current).coordinate
        · obtain rfl : b = current :=
            Keyed.eq_of_key_eq db.assignments.nodup hb hm (hk.trans heq.coordinate)
          exact ⟨_, mem_put.2 (.inl rfl), heq⟩
        · exact ⟨b, mem_put.2 (.inr ⟨hb, hk⟩), .refl b⟩

lemma foldl_reconcileAssignment (P : StockPlatform) (coordinates : List Text) (db : Ledger) :
    Reconciles db (coordinates.foldl (reconcileAssignment P) db) := by
  induction coordinates generalizing db with
  | nil => exact .refl db
  | cons coordinate coordinates ih =>
    exact (reconcileAssignment_reconciles P db coordinate).trans (ih _)

lemma reconcileKnownOccurrenceLifecycle_reconciles (P : StockPlatform) (db : Ledger)
    (merchant : Text) (product : Option Text) :
    Reconciles db (reconcileKnownOccurrenceLifecycle P db merchant product) :=
  foldl_reconcileAssignment P _ db

end Conduit.Stock
