import Conduit.Stock.Operations

namespace Conduit.Stock

open Js Throwing Runs

namespace Sample

def merchant : Text := hexText 64
  0x6b4b33b69bfac1e277294de4278717028f35d9d95570b944ff44055ab44e8502

def organizer : Text := hexText 64
  0x94d7c2d90a4e8bcf3bea52087e57a4e9b2466eca03d78a4cbd2ee48a6b5307e2

def assignmentHash : Text := hexText 64
  0xd872c5d47ec4c06a52f3bce0afabbd04887f98c36374a259a66a5f667e2cda28

def marketEventId : Text := hexText 64
  0x127624f70da597f86e7e259d6d75b6381790076ec19e4ee22142bf0d3c48d762

def grantEventId : Text := hexText 64
  0xb48d851f52ad8440cb1fa64b478e2935a7f7e266605446d4229756746726f136

def openingEventId : Text := hexText 64
  0x8b805a605d48753753f437c538e9dc2f209d62bb8c08c9a058ddcc64b931e854

def product : Text := "30402:" ++ merchant ++ ":vinyl"

def market : Text := "30409:" ++ organizer ++ ":fair"

def occurrence : Text := "31922:" ++ organizer ++ ":opening"

def assignment : Text := "30410:" ++ merchant ++ ":" ++ assignmentHash

def productEvent : SignedEvent where
  id := hexText 64 0xfb377629acb740dadbdc8af2f4645495ff617a6daaa00f4a3b2e2300ed0dfa3d
  pubkey := merchant
  createdAt := 1800000000
  kind := 30402
  tags := [["d", "vinyl"], ["stock", "5"]]
  content := ""
  sig := hexText 128 0x3b1579f7e58c6390e192363df6450caebfa19583df77b46deae4e30f63ea4adf6ebc4b72707d3f0bfede1a881c0fc0b7d5aa160de89b9babebc9f4b04f58685a

def postponedEvent : SignedEvent where
  id := hexText 64 0x51b234dacdb894c155ccfe58b109d88b3baf9a1fc69087f3b8687fcf39ff1f79
  pubkey := organizer
  createdAt := 1800040000
  kind := 31922
  tags := [["d", "opening"], ["title", "Opening"], ["start", "2027-01-17"], ["end", "2027-01-18"]]
  content := ""
  sig := hexText 128 0xd1629b2fc87e87c3954c5155b8d726f1da63999fb1e464ecf8bd5afbb245d2950860394a180a433c5f37763f7030e4c9fe7cd26a741d5bf1474db3693f1460cb

def digest : Json → Text
  | .arr [.str m, .str o, .str p] =>
    if m = market ∧ o = occurrence ∧ p = product then assignmentHash else []
  | _ => []

def platform : StockPlatform where
  digest := digest
  readBolt11 _ := none
  parseEvidence _ text := some text
  evidenceDigestValue _ text := .str text
  normalizePublicWebSocketUrl := some
  normalizeSafeLnurlPayRequestUrl := some
  identifierMatches _ _ := false
  isValidNostrPublicKey key := decide (key = merchant ∨ key = organizer)
  encodeLnurl url := url
  readZapRequest _ := none
  bindsZapDescription _ _ := false
  isControl _ := false
  eventHash _ := []
  payloadBytes _ := 0
  fitsTransport _ := true
  isValidSignedEvent event := decide (event = productEvent ∨ event = postponedEvent)
  integerOf text :=
    if text = "30402" then some 30402 else if text = "30410" then some 30410 else none
  eventBytes _ := 0
  isRelayHint _ := false
  calendarEnd event := if event = postponedEvent then some 1800230400000 else none
  evidenceBinding _ := []
  unwrap _ := none
  openEvidence _ := none

def created : InitializeInput where
  productCoordinate := product
  merchantPubkey := merchant
  stock := some 5
  signedProductEvent := productEvent

def assigned (quantity : Int) : AssignmentInput where
  productCoordinate := product
  assignmentCoordinate := assignment
  marketCoordinate := market
  occurrenceCoordinate := occurrence
  inventory := .tracked quantity
  state := .active
  fulfillmentMethods := [.pickup]
  context := some {
    productEventId := productEvent.id
    marketEventId := marketEventId
    occurrenceEventId := openingEventId
    scheduleEventId := none
    grantEventId := grantEventId
    occurrenceEndMs := 1800057600000
    terminal := false }
  expectedRevision := none
  mutationId := "assign"
  nowMs := 1800000060000

def soldOut : StockEditInput where
  productCoordinate := product
  expectedRevision := 0
  stock := some 0
  mutationId := "sold-out"
  nowMs := 1800060000000

def order : OrderInput where
  orderId := "order"
  merchantPubkey := merchant
  identityBinding := "identity"
  termsBinding := "terms"
  evidence := "evidence"
  deviceEncrypted := false
  evidenceBinding := none
  assertCurrent := .ok ()
  items := [{
    productCoordinate := product
    assignmentCoordinate := none
    method := .ordinary
    quantity := 2
    admission := .ordinary productEvent.id
    productTermsEventId := none }]
  priorStockAdjustments := []
  organizerImport := none
  acceptedAt := 1800050000000

def after (db : Ledger) (op : StockOp) : Ledger :=
  match op.apply platform db with
  | .ok db' => db'
  | .error _ => db

lemma apply_eq_after {db : Ledger} {op : StockOp} (h : (op.apply platform db).isOk = true) :
    op.apply platform db = .ok (after db op) := by
  unfold after
  cases hop : op.apply platform db with
  | ok db' => rfl
  | error e =>
    rw [hop] at h
    cases h

def afterAll : Inventories → List (Int × StockOp) → Inventories
  | s, [] => s
  | s, (t, op) :: ops => afterAll ⟨after s.ledger op, t⟩ ops

/-- The operations of a run all succeed, in order and under their condition. -/
def Runnable (allowed : Ledger → Int → StockOp → Prop) : Inventories → List (Int × StockOp) → Prop
  | _, [] => True
  | s, (t, op) :: ops => (s.nowMs ≤ t ∧ (∀ clock ∈ op.clock, clock = t) ∧
      (op.apply platform s.ledger).isOk = true ∧ allowed s.ledger t op) ∧
    Runnable allowed ⟨after s.ledger op, t⟩ ops

def decidableRunnable (allowed : Ledger → Int → StockOp → Prop)
    [∀ db t op, Decidable (allowed db t op)] :
    (s : Inventories) → (ops : List (Int × StockOp)) → Decidable (Runnable allowed s ops)
  | _, [] => isTrue trivial
  | _, _ :: ops => @instDecidableAnd _ _ inferInstance (decidableRunnable allowed _ ops)

instance (allowed : Ledger → Int → StockOp → Prop) [∀ db t op, Decidable (allowed db t op)]
    (s : Inventories) (ops : List (Int × StockOp)) : Decidable (Runnable allowed s ops) :=
  decidableRunnable allowed s ops

lemma run_of_runnable {allowed : Ledger → Int → StockOp → Prop} {s : Inventories}
    {ops : List (Int × StockOp)} (h : Runnable allowed s ops) :
    Run (StockStep platform allowed) s (ops.map (·.2)) (afterAll s ops) := by
  induction ops generalizing s with
  | nil => exact .nil s
  | cons o ops ih =>
    obtain ⟨⟨ht, hc, hok, ha⟩, hr⟩ := h
    exact .cons ⟨ht, hc, apply_eq_after hok, ha⟩ (ih hr)

def start : Inventories := ⟨.empty, 1800000000000⟩

/-- The opening is postponed before its first date, and records are sold beside it. -/
def postponedInTime : List (Int × StockOp) :=
  [(1800000000000, .create created), (1800000060000, .assignment (assigned 3)),
    (1800040000000, .observe market [postponedEvent]), (1800040000000, .reconcile assignment),
    (1800050000000, .accept order)]

/-- The opening is postponed after its first date, when its units are gone. -/
def postponedTooLate : List (Int × StockOp) :=
  [(1800000000000, .create created), (1800000060000, .assignment (assigned 5)),
    (1800060000000, .stockEdit soldOut), (1800070000000, .observe market [postponedEvent]),
    (1800070000000, .reconcile assignment)]

end Sample

section
variable {P : StockPlatform} {s₀ s : Inventories} {ops : List StockOp}

/-- Committed allocations lie within the stock, as long as no gone units come back. -/
theorem run_allocationsWithinStock (hp : s₀.ledger.products = .empty)
    (ha : s₀.ledger.assignments = .empty)
    (h : Run (StockStep P (StockOp.KeepsLapsed P)) s₀ ops s) {nowMs : Int} (hnow : s.nowMs ≤ nowMs) :
    AllocationsWithinStock s.ledger nowMs :=
  ((h.invariant (fun _ _ _ hs hstep => Covered.step hs hstep)
    (covered_of_empty hp ha)).later hnow).allocationsWithinStock

theorem allocationsWithinStock_sample :
    AllocationsWithinStock (Sample.afterAll Sample.start Sample.postponedInTime).ledger
      1800050000000 := by
  refine run_allocationsWithinStock rfl rfl (Sample.run_of_runnable ?_) (le_of_eq ?_)
  · decide +kernel
  · decide +kernel

/-- A postponement that is known only after the first date brings back units that are gone. -/
theorem run_exceedsStock : Run (StockStep Sample.platform fun _ _ _ => True) Sample.start
      (Sample.postponedTooLate.map (·.2)) (Sample.afterAll Sample.start Sample.postponedTooLate) ∧
    ¬ AllocationsWithinStock (Sample.afterAll Sample.start Sample.postponedTooLate).ledger
      1800070000000 := by
  refine ⟨Sample.run_of_runnable (by decide +kernel), fun h => h.readable Sample.product ?_⟩
  decide +kernel

end

end Conduit.Stock
