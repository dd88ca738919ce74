import Conduit.Joined
import Conduit.Stock.Records

namespace Conduit.Markets

open Js Stock

/-- `pickupEvidenceCoordinateSchema`. -/
structure EvidencePin where
  (coordinate eventId : Text)
  createdAt : Int
  deriving DecidableEq

structure GrantPin where
  eventId : Text
  createdAt : Int
  deriving DecidableEq

/-- What every update of a pickup repeats of its release. -/
structure HandoffGraph where
  (claimRef merchantPubkey organizerPubkey : Text)
  (market calendar : EvidencePin)
  grant : GrantPin
  deriving DecidableEq

structure ReceiptItem where
  product : EvidencePin
  signedEvent : Option SignedEvent
  quantity : Int
  selectedSpecifications : Option (List (Text × Text))
  deriving DecidableEq

inductive HandoffBody where
  | future_market_ready (authorityEvidence : Option (List SignedEvent)) (items : List ReceiptItem)
      (issuedAt : Int)
  | future_market_revoked (readyReceiptId : Text) (issuedAt : Int)
  | future_market_handed_out (readyReceiptId : Text) (handedOutAt : Int)
  deriving DecidableEq

/-- A parsed private message with a `FutureMarketPrivatePayload`. -/
structure HandoffMessage where
  (id senderPubkey recipientPubkey : Text)
  createdAt : Int
  graph : HandoffGraph
  body : HandoffBody
  deriving DecidableEq

structure HandoffPlatform where
  /-- The payload passes the schema of its type. -/
  schemaAccepts : HandoffGraph → HandoffBody → Bool
  /-- The digest of the graph's JSON text. -/
  futurePrivateGraphDigest : HandoffGraph → Text
  /-- The message in a gift wrap to this account, where it is valid and its signer opens it. -/
  unwrapGiftWrap : Text → SignedEvent → Option HandoffMessage
  isValidGiftWrap : Text → SignedEvent → Bool
  /-- `getFutureMarketClaimRef` of an order, a merchant, an organizer and a market coordinate. -/
  claimRefDigest : Text → Text → Text → Text → Text

def HandoffBody.readyReceiptId : HandoffBody → Option Text
  | .future_market_ready _ _ _ => none
  | .future_market_revoked id _ | .future_market_handed_out id _ => some id

def HandoffBody.isRevocation : HandoffBody → Bool
  | .future_market_revoked _ _ => true
  | _ => false

def HandoffBody.isAck : HandoffBody → Bool
  | .future_market_handed_out _ _ => true
  | _ => false

def sender (graph : HandoffGraph) (body : HandoffBody) : Text :=
  if body.isAck = true then graph.organizerPubkey else graph.merchantPubkey

def recipient (graph : HandoffGraph) (body : HandoffBody) : Text :=
  if body.isAck = true then graph.merchantPubkey else graph.organizerPubkey

section
variable (P : HandoffPlatform)

/-- `authenticatedFutureMessage`. -/
def AuthenticatedFutureMessage (m : HandoffMessage) : Prop :=
  P.schemaAccepts m.graph m.body = true ∧ m.senderPubkey = sender m.graph m.body ∧
    m.recipientPubkey = recipient m.graph m.body
  deriving Decidable

inductive ClaimState where
  | ready_for_pickup
  | revoked
  | handed_out
  | conflicting
  deriving DecidableEq

structure OrganizerClaim where
  receipt : HandoffMessage
  state : ClaimState
  (revocation ack : Option HandoffMessage)
  deriving DecidableEq

variable (organizerPubkey : Text)

variable (marketCoordinate : Option Text)

def isReceiptFor (m : HandoffMessage) : Bool :=
  decide (m.body.readyReceiptId = none ∧ m.recipientPubkey = organizerPubkey ∧
    (marketCoordinate.getD [] = [] ∨ marketCoordinate = some m.graph.market.coordinate))

def siblingsOf (receipts : List HandoffMessage) (receipt : HandoffMessage) : List HandoffMessage :=
  receipts.filter fun candidate => decide (candidate.graph.claimRef = receipt.graph.claimRef ∧
    candidate.graph.merchantPubkey = receipt.graph.merchantPubkey)

def terminalOf (messages : List HandoffMessage) (receiptId : Text) : List HandoffMessage :=
  messages.filter fun m => decide (m.body.readyReceiptId = some receiptId)

def claimOf (messages siblings : List HandoffMessage) (receipt : HandoffMessage) : OrganizerClaim :=
  let terminal := terminalOf messages receipt.id
  let revocations := terminal.filter (·.body.isRevocation)
  let acks := terminal.filter (·.body.isAck)
  { receipt := receipt
    state :=
      if siblings.length ≠ 1 ∨ (∃ m ∈ terminal, m.graph ≠ receipt.graph) ∨
          (revocations ≠ [] ∧ acks ≠ []) then .conflicting
      else if revocations ≠ [] then .revoked
      else if acks ≠ [] then .handed_out else .ready_for_pickup
    revocation := revocations.getLast?
    ack := acks.getLast? }

def authenticatedIn (input : List HandoffMessage) : List HandoffMessage :=
  input.filter fun m => decide (AuthenticatedFutureMessage P m)

def reduceFutureMarketOrganizerClaims (input : List HandoffMessage) : List OrganizerClaim :=
  let messages := authenticatedIn P input
  let receipts := messages.filter (isReceiptFor organizerPubkey marketCoordinate)
  let first := receipts.filter fun receipt =>
    decide ((siblingsOf receipts receipt).head?.map HandoffMessage.id = some receipt.id)
  sortBy (fun a b => decide (b.receipt.createdAt ≤ a.receipt.createdAt))
    (first.map fun receipt => claimOf messages (siblingsOf receipts receipt) receipt)

/-- A `FutureTerminalRecord` with the claim that it is kept under. -/
structure TerminalRecord where
  (claimRef readyReceiptId : Text)
  (ack revoked conflicting : Bool)
  graphDigest : Text
  observedRumorIds : List Text
  compacted : Bool
  deriving DecidableEq

def TerminalRecord.Valid (r : TerminalRecord) : Prop :=
  IsHex64 r.claimRef ∧ IsHex64 r.readyReceiptId ∧ IsHex64 r.graphDigest ∧
    (∀ id ∈ r.observedRumorIds, IsHex64 id) ∧ (r.ack = true ∨ r.revoked = true)
  deriving Decidable

abbrev TerminalHistory := List TerminalRecord

variable (history : TerminalHistory)

def recordOf (claimRef : Text) : Option TerminalRecord :=
  lookup TerminalRecord.claimRef claimRef history

variable (m : HandoffMessage)

def noteTerminal : TerminalHistory :=
  match m.body.readyReceiptId with
  | none => history
  | some readyReceiptId =>
    let digest := P.futurePrivateGraphDigest m.graph
    mapSet TerminalRecord.claimRef history (match recordOf history m.graph.claimRef with
      | none => ⟨m.graph.claimRef, readyReceiptId, m.body.isAck, m.body.isRevocation, false, digest,
          [], false⟩
      | some previous => { previous with
          ack := previous.ack || m.body.isAck
          revoked := previous.revoked || m.body.isRevocation
          conflicting := previous.conflicting ||
            decide (previous.readyReceiptId ≠ readyReceiptId ∨ previous.graphDigest ≠ digest) })

def noteObserved : TerminalHistory :=
  match recordOf history m.graph.claimRef with
  | none => history
  | some record => mapSet TerminalRecord.claimRef history { record with
      conflicting := record.conflicting ||
        decide (record.graphDigest ≠ P.futurePrivateGraphDigest m.graph ∨
          m.body.readyReceiptId = none ∧ record.readyReceiptId ≠ m.id)
      observedRumorIds := if m.id ∈ record.observedRumorIds then record.observedRumorIds
        else record.observedRumorIds ++ [m.id] }

def noteTerminalMessages (messages : List HandoffMessage) : TerminalHistory :=
  messages.foldl (noteObserved P) (messages.foldl (noteTerminal P) history)

def applyTerminal (terminal : Option TerminalRecord) (claim : OrganizerClaim) : OrganizerClaim :=
  match terminal with
  | none => claim
  | some terminal =>
    if claim.state = .conflicting ∨ terminal.conflicting = true ∨
        terminal.readyReceiptId ≠ claim.receipt.id ∨
        terminal.graphDigest ≠ P.futurePrivateGraphDigest claim.receipt.graph ∨
        (terminal.ack = true ∧ terminal.revoked = true) then { claim with state := .conflicting }
    else if terminal.revoked = true then { claim with state := .revoked }
    else if terminal.ack = true then { claim with state := .handed_out }
    else claim

inductive HandoffType where
  | future_market_ready
  | future_market_revoked
  | future_market_handed_out
  deriving DecidableEq

/-- `FutureMarketPrivateDeliveryRecord`. -/
structure DeliveryRecord where
  type : HandoffType
  (rumorId claimRef readyReceiptId senderPubkey recipientPubkey : Text)
  orderCorrelationRef : Option Text
  (signedRecipientWrap signedSelfWrap : SignedEvent)

/-- `memory` is lost with the tab, the rest is stored; `marks` has each claim's release. -/
structure Account where
  memory : Option (List HandoffMessage)
  terminal : TerminalHistory
  observed : List (Text × SignedEvent)
  (pending archive : List DeliveryRecord)
  marks : List (Text × Text)

def Account.empty : Account := ⟨none, [], [], [], [], []⟩

/-- A history with an invalid record is refused as a whole. -/
def loadTerminalHistory (a : Account) : Option TerminalHistory := do
  guard (∀ r ∈ a.terminal, r.Valid)
  pure a.terminal

/-- `none`: the call throws. -/
def getFutureMarketTerminalHistory (owner claimRef : Text) (a : Account) :
    Option (Option TerminalRecord) :=
  if IsHex64 owner ∧ IsHex64 claimRef then (loadTerminalHistory a).map fun h => recordOf h claimRef
  else some none

variable (owner : Text)

def applyTerminalHistoryToClaims (claims : List OrganizerClaim) (a : Account) :
    Option (List OrganizerClaim) :=
  claims.mapM fun claim => do
    let terminal ← getFutureMarketTerminalHistory owner claim.receipt.graph.claimRef a
    pure (applyTerminal P terminal claim)

def prunable (history : TerminalHistory) (completedClaimRef : Option Text)
    (pending : List DeliveryRecord) (record : DeliveryRecord) : Prop :=
  (∀ p ∈ pending, p.rumorId ≠ record.rumorId) ∧ ∃ terminal ∈ recordOf history record.claimRef,
    terminal.readyReceiptId = record.readyReceiptId ∧
      (completedClaimRef = some record.claimRef ∨ terminal.compacted = true ∨
        (record.type = .future_market_ready ∧ owner = record.recipientPubkey) ∨
        (record.type = .future_market_handed_out ∧ owner = record.senderPubkey))
  deriving Decidable

def compactTerminalArchive (history : TerminalHistory)
    (completedClaimRef : Option Text) (a : Account) : Account :=
  { a with archive := a.archive.filter fun record =>
      decide (¬ prunable owner history completedClaimRef a.pending record) }

inductive FinalStatus where
  | complete
  | cancelled

def mayCompact (status : FinalStatus) (terminal : TerminalRecord) : Prop :=
  terminal.conflicting = false ∧ ¬ (terminal.ack = true ∧ terminal.revoked = true) ∧
    match status with
    | .complete => terminal.ack = true
    | .cancelled => terminal.revoked = true

instance (status : FinalStatus) (terminal : TerminalRecord) :
    Decidable (mayCompact status terminal) := by
  unfold mayCompact
  cases status <;> infer_instance

/-- `stopped`: the archive could not be compacted after the record was marked. -/
def compactCompletedFutureMarketDelivery (owner claimRef : Text) (status : FinalStatus)
    (stopped : Bool) (a : Account) : Option Account := do
  guard (IsHex64 owner ∧ IsHex64 claimRef)
  let history ← loadTerminalHistory a
  let terminal ← recordOf history claimRef
  guard (mayCompact status terminal)
  let marked := mapSet TerminalRecord.claimRef history { terminal with compacted := true }
  let a := { a with terminal := marked }
  if stopped = true then pure a
  else
    let a := compactTerminalArchive owner marked (some claimRef) a
    pure { a with
      observed := a.observed.filter fun entry => decide (entry.1 ∉ terminal.observedRumorIds)
      marks := a.marks.filter fun mark => decide (mark.1 ≠ claimRef)
      memory := a.memory.map fun retained =>
        retained.filter fun m => decide (m.graph.claimRef ≠ claimRef) }

/-- A private message list. `wraps`: the authenticated wrap of each message. -/
structure PrivateRead where
  messages : List HandoffMessage
  wraps : List (Text × SignedEvent)
  (stale coverageDegraded : Bool)

/-- A retention throws in memory, after the history, or after the observations. -/
inductive Stop where
  | recalled (kept : Nat)
  | noted
  | merged
  deriving DecidableEq

def recoverStored (retained : List HandoffMessage) (a : Account) : Option (List HandoffMessage) :=
  (a.observed.filter fun entry => decide (entry.1 ∉ retained.map HandoffMessage.id)).mapM
    fun entry => do
      let m ← P.unwrapGiftWrap owner entry.2
      guard (AuthenticatedFutureMessage P m ∧ m.id = entry.1)
      pure m

def fenced (history : TerminalHistory) (m : HandoffMessage) : Bool :=
  decide (∃ terminal ∈ recordOf history m.graph.claimRef,
    owner = m.graph.organizerPubkey ∨ terminal.compacted = true)

def compactedIn : Bool :=
  decide (∃ terminal ∈ recordOf history m.graph.claimRef, terminal.compacted = true)

def retainFutureMessages (read : PrivateRead) (stop : Option Stop) (a : Account) :
    Option (Account × Option (List HandoffMessage)) :=
  let retained := a.memory.getD []
  let authenticated := authenticatedIn P read.messages
  let newly := read.wraps.filter fun entry =>
    decide (entry.1 ∈ authenticated.map HandoffMessage.id)
  match stop with
  | some (.recalled kept) =>
    let added := ((recoverStored P owner retained a).getD [] ++ authenticated).take kept
    let memory := a.memory.map fun memory => added.foldl (mapSet HandoffMessage.id) memory
    some ({ a with memory := memory }, none)
  | stop => do
    let recovered ← recoverStored P owner retained a
    guard (∀ entry ∈ newly, P.isValidGiftWrap owner entry.2 = true)
    let stored ← loadTerminalHistory a
    let messages := (recovered ++ authenticated).foldl (mapSet HandoffMessage.id) retained
    let history := noteTerminalMessages P stored messages
    let a := { a with memory := a.memory.map fun _ => messages, terminal := history }
    if stop = some .noted then pure (a, none)
    else
      let merged := newly.foldl (mapSet Prod.fst) a.observed
      let observed := merged.filter fun entry =>
        decide (¬ ∃ m ∈ messages, m.id = entry.1 ∧ fenced owner history m = true)
      let a := { a with observed := observed }
      if stop = some .merged then pure (a, none)
      else
        let a := compactTerminalArchive owner history none a
        pure ({ a with memory := some (messages.filter fun m => !fenced owner history m) },
          some (messages.filter fun m => !compactedIn history m))

/-- `readFutureMarketReadyReceipts`; `none` for the claims where it throws. -/
def readFutureMarketReadyReceipts (read : PrivateRead) (stop : Option Stop) (a : Account) :
    Option (Account × Option (List OrganizerClaim)) := do
  let (a, messages) ← retainFutureMessages P organizerPubkey read stop a
  pure (a, messages.bind fun messages => applyTerminalHistoryToClaims P organizerPubkey
    (reduceFutureMarketOrganizerClaims P organizerPubkey marketCoordinate messages) a)

structure PickupLine where
  product : EvidencePin
  quantity : Int
  selectedSpecifications : Option (List (Text × Text))

structure PickupOrder where
  (id merchantPubkey organizerPubkey : Text)
  (market calendar : EvidencePin)
  grant : GrantPin
  lines : List PickupLine

variable (order : PickupOrder)

def PickupOrder.claimRef : Text :=
  P.claimRefDigest order.id order.merchantPubkey order.organizerPubkey order.market.coordinate

def sameLine (item : ReceiptItem) (line : PickupLine) : Prop :=
  item.product = line.product ∧ item.quantity = line.quantity ∧
    item.selectedSpecifications.getD [] = line.selectedSpecifications.getD []
  deriving Decidable

def exactSnapshot (receipt : HandoffMessage) : Prop :=
  receipt.graph.market.eventId = order.market.eventId ∧
    receipt.graph.calendar.eventId = order.calendar.eventId ∧
    receipt.graph.grant.eventId = order.grant.eventId ∧
    match receipt.body with
    | .future_market_ready _ items _ => items.length = order.lines.length ∧
        ∀ pair ∈ items.zip order.lines, sameLine pair.1 pair.2
    | _ => False

instance (order : PickupOrder) (receipt : HandoffMessage) :
    Decidable (exactSnapshot order receipt) := by
  unfold exactSnapshot
  cases receipt.body <;> infer_instance

def checkSnapshot (claim : OrganizerClaim) : OrganizerClaim :=
  if exactSnapshot order claim.receipt then claim else { claim with state := .conflicting }

variable (read : PrivateRead)

/-- `readFutureMarketMerchantClaim`. -/
def readFutureMarketMerchantClaim (stop : Option Stop)
    (a : Account) : Option (Account × Option (Option OrganizerClaim)) := do
  let (a, messages) ← retainFutureMessages P order.merchantPubkey read stop a
  pure (a, do
    let messages ← messages
    let found := (reduceFutureMarketOrganizerClaims P order.organizerPubkey
      (some order.market.coordinate) messages).find? fun candidate =>
        decide (candidate.receipt.graph.claimRef = order.claimRef P ∧
          candidate.receipt.graph.merchantPubkey = order.merchantPubkey)
    let claims ← applyTerminalHistoryToClaims P order.merchantPubkey found.toList a
    pure (claims.head?.map (checkSnapshot order)))

/-- What a call shows or sends. -/
inductive Report where
  | reported (claims : List OrganizerClaim)
  | ackBuilt (claimRef : Text)
  | released (claimRef : Text)

/-- One account on one device. `log`: the newest report first. -/
structure Desk where
  account : Account
  log : List Report

def Desk.start : Desk := ⟨.empty, []⟩

def showReceipts (marketCoordinate : Option Text) (read : PrivateRead)
    (stop : Option Stop) (s : Desk) : Option Desk := do
  let (a, claims) ← readFutureMarketReadyReceipts P owner marketCoordinate read stop s.account
  pure ⟨a, (claims.map .reported).toList ++ s.log⟩

def showMerchantClaim (stop : Option Stop) (s : Desk) : Option Desk := do
  guard (order.merchantPubkey = owner)
  let (a, claim) ← readFutureMarketMerchantClaim P order read stop s.account
  pure ⟨a, (claim.map fun claim => .reported claim.toList).toList ++ s.log⟩

/-- The retention of `readFutureMarketHandoffAcks`. -/
def readAcks (stop : Option Stop) (s : Desk) : Option Desk := do
  let (a, _) ← retainFutureMessages P owner read stop s.account
  pure { s with account := a }

/-- `verified`: the release is confirmed and its authority and merchandise hold. -/
def publishFutureMarketHandoffAck (claim : OrganizerClaim) (verified : Bool)
    (read : PrivateRead) (stop : Option Stop) (s : Desk) : Option Desk := do
  guard (verified = true ∧ claim.state = .ready_for_pickup ∧
    claim.receipt.graph.organizerPubkey = owner)
  let (a, current) ← readFutureMarketReadyReceipts P owner
    (some claim.receipt.graph.market.coordinate) read stop s.account
  let exact := (current.getD []).find? fun other => decide (other.receipt.id = claim.receipt.id ∧
    other.receipt.graph.claimRef = claim.receipt.graph.claimRef)
  let built := exact.filter fun exact => decide (exact.state = .ready_for_pickup ∧
    exact.receipt.graph = claim.receipt.graph ∧ exact.receipt.body = claim.receipt.body)
  pure ⟨a, (built.map fun exact => .ackBuilt exact.receipt.graph.claimRef).toList ++ s.log⟩

def noRelease (owner claimRef : Text) (a : Account) : Prop :=
  (∀ mark ∈ a.marks, mark.1 ≠ claimRef) ∧
    getFutureMarketTerminalHistory owner claimRef a = some none
  deriving Decidable

/-- `verified`: the order, its evidence and its payment allow the receipt. -/
def publishFutureMarketReadyReceipt (verified : Bool)
    (read : PrivateRead) (stop : Option Stop) (s : Desk) : Option Desk := do
  guard (verified = true ∧ order.merchantPubkey = owner)
  let claimRef := order.claimRef P
  guard (noRelease owner claimRef s.account)
  guard (∀ record ∈ s.account.archive ++ s.account.pending,
    ¬ (record.type = .future_market_ready ∧ record.claimRef = claimRef))
  let (a, recovered) ← readFutureMarketMerchantClaim P order read stop s.account
  let released := recovered = some none ∧ noRelease owner claimRef a ∧ read.stale = false ∧
    read.coverageDegraded = false
  pure ⟨a, (if released then [.released claimRef] else []) ++ s.log⟩

inductive PickupAction where
  | showReceipts (marketCoordinate : Option Text) (read : PrivateRead) (stop : Option Stop)
  | showMerchantClaim (order : PickupOrder) (read : PrivateRead) (stop : Option Stop)
  | readAcks (read : PrivateRead) (stop : Option Stop)
  | handOut (claim : OrganizerClaim) (verified : Bool) (read : PrivateRead) (stop : Option Stop)
  | release (order : PickupOrder) (verified : Bool) (read : PrivateRead) (stop : Option Stop)
  | compact (claimRef : Text) (status : FinalStatus) (stopped : Bool)
  /-- `saveFutureMarketPrivateDelivery` and `archiveFutureMarketPrivateDelivery` write no more. -/
  | saveDeliveries (pending archive : List DeliveryRecord) (marks : List (Text × Text))
  | restart

def applyPickup (s : Desk) : PickupAction → Option Desk
  | .showReceipts coordinate read stop => showReceipts P owner coordinate read stop s
  | .showMerchantClaim order read stop => showMerchantClaim P owner order read stop s
  | .readAcks read stop => readAcks P owner read stop s
  | .handOut claim verified read stop =>
    publishFutureMarketHandoffAck P owner claim verified read stop s
  | .release order verified read stop =>
    publishFutureMarketReadyReceipt P owner order verified read stop s
  | .compact claimRef status stopped =>
    (compactCompletedFutureMarketDelivery owner claimRef status stopped s.account).map fun a =>
      { s with account := a }
  | .saveDeliveries pending archive marks =>
    some { s with account :=
      { s.account with pending := pending, archive, marks } }
  | .restart => some { s with account := { s.account with memory := none } }

def PickupStep (a : PickupAction) (s t : Desk) : Prop :=
  applyPickup P owner s a = some t

end

end Conduit.Markets
