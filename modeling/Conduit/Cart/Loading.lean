import Conduit.Cart.Installing
import Conduit.Runs

namespace Conduit.Cart

open Js Throwing Runs Option List

inductive CartOp where
  | changeFulfillment (identity : CartItemIdentity) (input : CartItemInput)
    (expectedRevision : Int)
  | add (input : CartItemInput) (quantity : Int)
  | increment (identity : CartItemIdentity) (quantity : Int)
    (evidence : Option CartItemStockEvidence)
  | refreshAndIncrement (identity : CartItemIdentity) (input : CartItemInput) (quantity : Int)
  | install (proposed : List CartItemInput) (expectedRevision : Int) (replaceExisting : Bool)
  | decrement (observed : CanonicalCartRecord) (identity : CartItemIdentity)
  | remove (observed : CanonicalCartRecord) (identity : CartItemIdentity)
  | clear (observed : CanonicalCartRecord)
  | clearPurchase (observed : CanonicalCartRecord) (purchaseId : PurchaseId)
  | consume (claim : CartPurchaseClaim)

/-- `record.revision += 1; record.updatedAt = Date.now()`. -/
def commit (now : Int) (record : CanonicalCartRecord) : CanonicalCartRecord :=
  { record with revision := record.revision + 1, updatedAt := now }

variable (P : CartPlatform)

def CartOp.next (now : Int) (op : CartOp) (record : CanonicalCartRecord) :
    Option CanonicalCartRecord :=
  match op with
  | .changeFulfillment identity input expectedRevision =>
    (changeCartRepositoryFulfillment P identity input expectedRevision record).map (commit now)
  | .add input quantity => (addCartRepositoryItem P input quantity now record).map (commit now)
  | .increment identity quantity evidence =>
    (incrementCartRepositoryItem P identity quantity evidence record).map (commit now)
  | .refreshAndIncrement identity input quantity =>
    (refreshAndIncrementCartRepositoryItem P identity input quantity record).map (commit now)
  | .install proposed expectedRevision replaceExisting =>
    match installCheckoutIntentPurchase P proposed expectedRevision replaceExisting now record with
    | .ok installed => installed.put
    | .error _ => none
  | .decrement observed identity =>
    (decrementCartRepositoryItem observed identity record).map (commit now)
  | .remove observed identity => (removeCartRepositoryItem observed identity record).map (commit now)
  | .clear observed => (clearCartRepository observed record).map (commit now)
  | .clearPurchase observed purchaseId =>
    (clearCartRepositoryPurchase observed purchaseId record).map (commit now)
  | .consume claim => (consumeCartPurchase claim record).map (commit now)

/-- `requireProductEvidence`. -/
def CartOp.requiresEvidence : CartOp → Bool
  | .changeFulfillment .. | .add .. | .increment .. | .refreshAndIncrement .. | .install .. => true
  | _ => false

def CartOp.load (admits : Text → Admission) (op : CartOp) (stored : CanonicalCartRecord) :
    Result CanonicalCartRecord :=
  if op.requiresEvidence = true then restoreStoredRecord P admits stored
  else parseStoredRecord P (fun _ => false) stored

def CartOp.row (now : Int) (op : CartOp) (stored record : CanonicalCartRecord) :
    CanonicalCartRecord :=
  match op.next P now record with
  | some next =>
    if op.requiresEvidence = true then next else preserveStoredProductEvidence next stored
  | none => stored

/-- The record's counters can go up by one revision and `n` numbers. -/
def Room (n : Int) (record : CanonicalCartRecord) : Prop :=
  record.revision + 1 ≤ maxSafeInteger ∧ record.nextSequence + n ≤ maxSafeInteger
  deriving Decidable

def CartOp.Meets (op : CartOp) (record : CanonicalCartRecord) : Prop :=
  match op with
  | .changeFulfillment _ input _ =>
    WellFormed P input.toItem ∧ Room 2 record ∧ ∀ line ∈ record.lines, line.total ≤ maxSafeInteger
  | .add input quantity =>
    WellFormed P input.toItem ∧ Room 2 record ∧ quantity ≤ maxSafeInteger
  | .increment _ quantity _ => Room 1 record ∧ quantity ≤ maxSafeInteger
  | .refreshAndIncrement _ input quantity =>
    WellFormed P input.toItem ∧ Room 1 record ∧ quantity ≤ maxSafeInteger
  | .install proposed expectedRevision _ =>
    (∀ item ∈ proposed, WellFormed P item.toItem) ∧ Room (2 * proposed.length) record ∧
      (record.revision = expectedRevision → ∀ item ∈ proposed,
        sameItems (deliveryGroup record.lines item.merchantPubkey) proposed = true →
          KeepsPickups proposed item.merchantPubkey record.lines)
  | _ => Room 0 record

structure CartAction where
  op : CartOp
  now : Int
  admits : Text → Admission

inductive CartStep : CartAction → CanonicalCartRecord → CanonicalCartRecord → Prop
  | stored {action : CartAction} {stored record : CanonicalCartRecord}
    (loads : action.op.load P action.admits stored = .ok record)
    (meets : action.op.Meets P record) :
    CartStep action stored (action.op.row P action.now stored record)
  | memory {action : CartAction} {record : CanonicalCartRecord}
    (meets : action.op.Meets P record) :
    CartStep action record ((action.op.next P action.now record).getD record)

variable {P}
  {record next : CanonicalCartRecord} {proposed : List CartItemInput} {installed : Installed}
  {admits : Text → Admission} {expectedRevision now : Int} {replaceExisting : Bool}
  {op : CartOp}

lemma Canonical.commit {n : Int} (h : Canonical P record) (he : Edits P n record next)
    (hro : Room n record) : Canonical P (commit now next) := by
  obtain ⟨⟨hrlow, hrhigh⟩, hrpos⟩ := h.revision
  obtain ⟨⟨hnlow, hnhigh⟩, hnpos⟩ := h.nextSequence
  obtain ⟨hr, hn⟩ := hro
  have hrev := he.revision
  have hlower := he.lower
  have hupper := he.upper
  have hrev' : (Cart.commit now next).revision = next.revision + 1 := rfl
  have hnext' : (Cart.commit now next).nextSequence = next.nextSequence := rfl
  unfold maxSafeInteger at hr hn
  exact
    { id := he.id.trans h.id
      version := he.version.trans h.version
      revision := ⟨⟨by omega, by omega⟩, by omega⟩
      nextSequence := ⟨⟨by omega, by omega⟩, by omega⟩
      lines := he.lines }

lemma Shrinks.edits {lines : List CartLine} (h : Canonical P record)
    (hs : Shrinks record.lines lines) : Edits P 0 record { record with lines := lines } :=
  ⟨rfl, rfl, rfl, le_refl _, by simp, h.lines.shrinks hs⟩

lemma removeAllocatedBatches_edits {allocations : List CartAllocation} (h : Canonical P record)
    (hn : removeAllocatedBatches allocations record = some next) : Edits P 0 record next := by
  rw [removeAllocatedBatches_eq_some hn]
  exact (removeAllocations_shrinks allocations fun l hl => (h.lines.batches l hl).stocked).edits h

lemma finishInstall_put {status : InstallStatus} {merchant : Text}
    (h : finishInstall status merchant now record = .ok installed)
    (hp : installed.put = some next) : next = commit now record := by
  unfold finishInstall at h
  split at h
  · cases h
    exact (some.inj hp).symm
  · cases h

lemma install_cases
    (h : installCheckoutIntentPurchase P proposed expectedRevision replaceExisting now record =
      .ok installed) (hp : installed.put = some next) :
    ∃ merchant, ValidProposal proposed merchant expectedRevision ∧
      record.revision = expectedRevision ∧
      ((sameItems (deliveryGroup record.lines merchant) proposed = true ∧
        next = commit now
          { record with lines := record.lines.map (refreshLine P proposed merchant) }) ∨
      next = commit now (replaceDelivery P proposed merchant now record)) := by
  unfold installCheckoutIntentPurchase at h
  split at h
  · rename_i incoming _
    split at h
    · rename_i hv
      refine ⟨incoming.merchantPubkey, hv.2, ?_⟩
      simp only [installInto] at h
      split at h
      · cases h
      · rename_i hr
        refine ⟨not_not.1 hr, ?_⟩
        split at h
        · cases h
        · split at h
          · rename_i heq
            split at h
            · cases h
              cases hp
            · left
              exact ⟨heq, finishInstall_put h hp⟩
          · right
            exact finishInstall_put h hp
    · cases h
  · cases h

lemma ValidProposal.proposals {merchant : Text}
    (h : ValidProposal proposed merchant expectedRevision)
    (hw : ∀ item ∈ proposed, WellFormed P item.toItem) : Proposals P proposed merchant := by
  obtain ⟨-, -, -, -, hnd, ha, -⟩ := h
  refine ⟨hnd, hw, fun item hi => (ha item hi).2.2.2.1, fun item hi => (ha item hi).2.2.2.2.1, ?_⟩
  intro item hi
  obtain ⟨⟨-, hm⟩, hpos, -⟩ := ha item hi
  exact ⟨by omega, hm⟩

lemma install_canonical (hr : Canonical P record)
    (hm : (CartOp.install proposed expectedRevision replaceExisting).Meets P record)
    (h : installCheckoutIntentPurchase P proposed expectedRevision replaceExisting now record =
      .ok installed) (hput : installed.put = some next) : Canonical P next := by
  obtain ⟨hw, hro, hk⟩ := hm
  obtain ⟨merchant, hv, hrev, hc⟩ := install_cases h hput
  have hp := hv.proposals hw
  rcases hc with ⟨heq, rfl⟩ | rfl
  · obtain ⟨item, hi⟩ := exists_mem_of_ne_nil proposed hv.1
    have hk := hk hrev item hi
    rw [hp.merchant item hi] at hk
    have he : Edits P (2 * proposed.length) record
        { record with lines := record.lines.map (refreshLine P proposed merchant) } :=
      ⟨rfl, rfl, rfl, le_refl _, by dsimp only; omega,
        hr.lines.refreshed hp heq (hk heq)⟩
    exact hr.commit he hro
  · exact hr.commit (replaceDelivery_edits hp hr.lines) hro

lemma CartOp.next_canonical (hr : Canonical P record) (hm : op.Meets P record)
    (hn : op.next P now record = some next) : Canonical P next := by
  cases op with
  | changeFulfillment identity input expectedRevision =>
    obtain ⟨hw, hro, ht⟩ := hm
    obtain ⟨edited, he, rfl⟩ := map_eq_some_iff.1 hn
    exact hr.commit
      (changeCartRepositoryFulfillment_edits hr.lines hw ht he) hro
  | add input quantity =>
    obtain ⟨hw, hro, hq⟩ := hm
    obtain ⟨edited, he, rfl⟩ := map_eq_some_iff.1 hn
    exact hr.commit (addCartRepositoryItem_edits hr.lines hw hq he) hro
  | increment identity quantity evidence =>
    obtain ⟨hro, hq⟩ := hm
    obtain ⟨edited, he, rfl⟩ := map_eq_some_iff.1 hn
    exact hr.commit (incrementCartRepositoryItem_edits hr.lines hq he) hro
  | refreshAndIncrement identity input quantity =>
    obtain ⟨hw, hro, hq⟩ := hm
    obtain ⟨edited, he, rfl⟩ := map_eq_some_iff.1 hn
    exact hr.commit
      (refreshAndIncrementCartRepositoryItem_edits hr.lines hw hq he) hro
  | install proposed expectedRevision replaceExisting =>
    simp only [CartOp.next] at hn
    split at hn
    · rename_i installed hi
      exact install_canonical hr hm hi hn
    · cases hn
  | decrement observed identity =>
    obtain ⟨edited, he, rfl⟩ := map_eq_some_iff.1 hn
    obtain ⟨lines, rfl, hs⟩ := decrementCartRepositoryItem_shrinks
      (fun l hl => (hr.lines.batches l hl).stocked) he
    exact hr.commit (hs.edits hr) hm
  | remove observed identity =>
    obtain ⟨edited, he, rfl⟩ := map_eq_some_iff.1 hn
    exact hr.commit (removeAllocatedBatches_edits hr he) hm
  | clear observed =>
    obtain ⟨edited, he, rfl⟩ := map_eq_some_iff.1 hn
    exact hr.commit (removeAllocatedBatches_edits hr he) hm
  | clearPurchase observed purchaseId =>
    obtain ⟨edited, he, rfl⟩ := map_eq_some_iff.1 hn
    exact hr.commit (removeAllocatedBatches_edits hr he) hm
  | consume claim =>
    obtain ⟨edited, he, rfl⟩ := map_eq_some_iff.1 hn
    exact hr.commit (removeAllocatedBatches_edits hr he) hm

lemma sameLine_evidence (line : CartLine) (event : Option Text) :
    SameLine P line { line with item := { line.item with signedProductEvent := event } } :=
  ⟨rfl, rfl, Prod.ext rfl (fulfillmentId_congr rfl rfl), fun h =>
    ⟨h.productId, h.merchantPubkey, h.title, h.currency, h.price, h.coordinate, h.fulfillment⟩⟩

lemma restoreLine_ok {line line' : CartLine} (h : restoreLine admits line = .ok line') :
    SameLine P line line' := by
  simp only [restoreLine, run_ok] at h
  obtain ⟨item, hi, rfl⟩ := h
  unfold restoreCartItemEvidence at hi
  split at hi
  · cases hi
    exact sameLine_evidence line line.item.signedProductEvent
  · split at hi
    · cases hi
    · cases hi
      exact sameLine_evidence line line.item.signedProductEvent
    · cases hi
      exact sameLine_evidence line none

lemma Canonical.loads {stored : CanonicalCartRecord} (h : Canonical P stored)
    (hl : op.load P admits stored = .ok record) : Canonical P record := by
  have hprs : ∀ {value : CanonicalCartRecord} (isVerified : Text → Bool), Canonical P value →
      parseStoredRecord P isVerified value = .ok record → Canonical P record := by
    intro value isVerified hv hprs
    obtain ⟨parsed, hp, hc⟩ := hv.parses isVerified
    rw [hp] at hprs
    exact Except.ok.inj hprs ▸ hc
  unfold CartOp.load at hl
  split at hl
  · simp only [restoreStoredRecord, bind_ok] at hl
    obtain ⟨lines, hls, hp⟩ := hl
    have ha : Forall₂ (SameLine P) stored.lines lines :=
      (mapResult_ok_iff.1 hls).imp fun _ _ hli => restoreLine_ok hli
    have hr : Canonical P { stored with lines := lines } :=
      ⟨h.id, h.version, h.revision, h.nextSequence, h.lines.parsed ha⟩
    exact hprs _ hr hp
  · exact hprs _ h hl

lemma Canonical.preserve (h : Canonical P record) (stored : CanonicalCartRecord) :
    Canonical P (preserveStoredProductEvidence record stored) := by
  refine ⟨h.id, h.version, h.revision, h.nextSequence, h.lines.parsed ?_⟩
  apply forall₂_map_right_iff.2
  apply forall₂_same.2
  intro line _
  exact sameLine_evidence line _

lemma CartStep.canonical {action : CartAction} {before after : CanonicalCartRecord}
    (h : Canonical P before) (hs : CartStep P action before after) : Canonical P after := by
  cases hs with
  | stored loads meets =>
    have hr := h.loads loads
    unfold CartOp.row
    split
    · rename_i next hn
      have hc := CartOp.next_canonical hr meets hn
      split
      · exact hc
      · exact hc.preserve before
    · exact h
  | memory meets =>
    cases hn : action.op.next P action.now before with
    | none => exact h
    | some next => exact CartOp.next_canonical h meets hn

/-- In every run whose mutations meet their condition, every cart is in canonical form and is
accepted by the parser. -/
theorem run_loadable {stored cart : CanonicalCartRecord} {actions : List CartAction}
    (h : Canonical P stored) (hrun : Run (CartStep P) stored actions cart) : Canonical P cart ∧
      ∀ isVerified, ∃ record, parseStoredRecord P isVerified cart = .ok record := by
  have hcart : Canonical P cart :=
    hrun.invariant (fun _ _ _ hI hstep => hstep.canonical hI) h
  refine ⟨hcart, ?_⟩
  intro isVerified
  obtain ⟨record, hrecord, -⟩ := hcart.parses isVerified
  exact ⟨record, hrecord⟩

namespace Sample

def platform : CartPlatform where
  digest _ := []
  readBolt11 _ := none
  parseEvidence _ text := some text
  evidenceDigestValue _ text := .str text
  normalizePublicWebSocketUrl := some
  normalizeSafeLnurlPayRequestUrl := some
  identifierMatches _ _ := false
  isValidNostrPublicKey _ := false
  encodeLnurl url := url
  readZapRequest _ := none
  bindsZapDescription _ _ := false
  isControl _ := false
  normalizePublicMediaUrl := some
  toUpperCase text := text
  numberOf _ := none
  acceptsPickup _ := true
  acceptsRetiredPickup _ := true
  parseOther other := other

def merchant : Text := hexText 64 0x8f2c

def organizer : Text := hexText 64 0x51d7

def mug : Text := "30402:".toList ++ merchant ++ ":mug"

def eventId (n : Nat) : Text := hexText 64 n

def pickup : PickupFulfillment where
  merchantPubkey := merchant
  payeePubkey := merchant
  market := ⟨"30409:".toList ++ organizer ++ ":fair", eventId 1⟩
  calendar := ⟨"31923:".toList ++ organizer ++ ":saturday", eventId 2⟩
  product := ⟨mug, eventId 3⟩
  occurrenceAssignment := none
  mode := "merchant_present"
  assignment := "stand 4"
  evidence := []

def mugInput (fulfillment : Fulfillment) (updatedAt : Int) (event : Nat) (quantity : Int) :
    CartItemInput where
  cartLineId := none
  productId := mug
  merchantPubkey := merchant
  merchantAddedAt := none
  title := "Mug"
  price := 12
  currency := "USD"
  priceSats := some none
  sourcePrice := some none
  image := some none
  format := some (some .physical)
  eventMarketContext := none
  fulfillment := some (some fulfillment)
  shippingCostSats := some none
  sourceShippingCost := some none
  shippingOptionId := some none
  shippingOptionLaunchUnsupported := some none
  productUpdatedAt := some (some updatedAt)
  productEventId := some (some (eventId event))
  signedProductEvent := some none
  stock := some none
  quantity := quantity
  other := []

def mugLine (n : Int) (fulfillment : Fulfillment) : CartLine where
  id := lineIdOf n
  item := { (mugInput fulfillment 1000 3 1).toItem with merchantAddedAt := some 500 }
  batches := [⟨batchIdOf (n + 1), 1⟩]

def cart : CanonicalCartRecord where
  id := cartRecordId
  version := 1
  revision := 2
  nextSequence := 5
  lines := [mugLine 1 .shipping, mugLine 3 (.eventMarketPickup pickup)]
  migratedAt := 400
  updatedAt := 600

def added : CartAction := ⟨.add (mugInput .shipping 2000 4 0) 2, 700, fun _ => .verified⟩

def linked : CartOp := .install [mugInput .shipping 2000 4 1] 2 false

lemma wellFormed_mug (ful : Fulfillment) (h : ∀ s, ful ≠ .pickup s)
    (updatedAt : Int) (event : Nat) (qty : Int) :
    WellFormed platform (mugInput ful updatedAt event qty).toItem where
  productId := by
    change isNonempty mug = true
    decide +kernel
  merchantPubkey := by
    change isNonempty merchant = true
    decide +kernel
  title := by
    change isNonempty "Mug" = true
    decide
  currency := by
    change isNonempty "USD" = true
    decide
  price := by
    change (0 : Rat) ≤ 12
    decide
  coordinate := by
    change normalizeProductCoordinate mug merchant = some mug
    decide +kernel
  fulfillment := by
    intro f hf
    obtain rfl : ful = f := some.inj hf
    exact ⟨by cases ful <;> rfl, h⟩

lemma canonical_cart : Canonical platform cart where
  id := rfl
  version := rfl
  revision := by decide
  nextSequence := by decide
  lines :=
    { batches := by decide +kernel
      items := by
        intro line hl
        have hls : line = mugLine 1 .shipping ∨
            line = mugLine 3 (.eventMarketPickup pickup) := by
          simpa [cart] using hl
        rcases hls with rfl | rfl
        · have h := wellFormed_mug .shipping (fun _ => nofun) 1000 3 1
          exact ⟨h.productId, h.merchantPubkey, h.title, h.currency, h.price, h.coordinate,
            h.fulfillment⟩
        · have h := wellFormed_mug (.eventMarketPickup pickup) (fun _ => nofun) 1000 3 1
          exact ⟨h.productId, h.merchantPubkey, h.title, h.currency, h.price, h.coordinate,
            h.fulfillment⟩
      issued := by
        intro line hl
        have hls : line = mugLine 1 .shipping ∨
            line = mugLine 3 (.eventMarketPickup pickup) := by
          simpa [cart] using hl
        rcases hls with rfl | rfl
        · refine ⟨(isTaken_lineIdOf 1).issuedBelow (by decide), ?_⟩
          intro b hb
          obtain rfl := mem_singleton.1 hb
          exact (isTaken_batchIdOf 2).issuedBelow (by decide)
        · refine ⟨(isTaken_lineIdOf 3).issuedBelow (by decide), ?_⟩
          intro b hb
          obtain rfl := mem_singleton.1 hb
          exact (isTaken_batchIdOf 4).issuedBelow (by decide)
      lineIds := by decide +kernel
      lineKeys := by decide +kernel }

end Sample

theorem run_loadable_added :
    Canonical Sample.platform (Sample.added.op.row Sample.platform 700 Sample.cart Sample.cart) ∧
      ∀ isVerified, ∃ record, parseStoredRecord Sample.platform isVerified
        (Sample.added.op.row Sample.platform 700 Sample.cart Sample.cart) = .ok record := by
  have hloads : Sample.added.op.load Sample.platform Sample.added.admits Sample.cart =
      .ok Sample.cart := by decide +kernel
  have hmeets : Sample.added.op.Meets Sample.platform Sample.cart :=
    ⟨Sample.wellFormed_mug .shipping (fun _ => nofun) 2000 4 0, by decide, by decide⟩
  exact run_loadable Sample.canonical_cart (.cons (.stored hloads hmeets) (.nil _))

/-- The link turns the pickup line into a second delivery line of the mug, and the cart is
refused at its next load. -/
theorem install_unloadable : Canonical Sample.platform Sample.cart ∧
      (∀ item ∈ [Sample.mugInput .shipping 2000 4 1], WellFormed Sample.platform item.toItem) ∧
      Room 2 Sample.cart ∧
      Sample.linked.load Sample.platform (fun _ => .verified) Sample.cart = .ok Sample.cart ∧
      parseStoredRecord Sample.platform (fun _ => false)
        (Sample.linked.row Sample.platform 700 Sample.cart Sample.cart) = .error duplicateLine := by
  refine ⟨Sample.canonical_cart, ?_, by decide, by decide +kernel, by decide +kernel⟩
  intro item hitem
  obtain rfl := List.mem_singleton.1 hitem
  exact Sample.wellFormed_mug .shipping (fun _ => nofun) 2000 4 1

end Conduit.Cart
