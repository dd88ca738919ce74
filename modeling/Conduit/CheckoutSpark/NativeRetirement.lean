import Conduit.CheckoutSpark.Plan
import Conduit.Emitting
import Conduit.Js.Collation

namespace Conduit.CheckoutSpark.Retirement

open Js

/-- A JavaScript value; `other` stands for those that no check accepts. -/
inductive Raw where
  | undefined
  | null
  | other
  | number (n : Int)
  | bigint (n : Int)
  | text (s : Text)
  | bytes (l : List Nat)
  | array (items : List Raw)
  | object (fields : List (Text × Raw))

namespace Raw

/-- A property read; a value without properties gives `undefined`, as `value?.name` does. -/
def field (name : Text) : Raw → Raw
  | object fields => ((fields.find? (·.1 = name)).map Prod.snd).getD undefined
  | _ => undefined

def asText : Raw → Option Text
  | text s => some s
  | _ => none

def asNumber : Raw → Option Int
  | number n => some n
  | _ => none

def asArray : Raw → Option (List Raw)
  | array items => some items
  | _ => none

def isUndefined : Raw → Bool
  | undefined => true
  | _ => false

end Raw

/-- `TRANSFER_TYPES`. -/
def transferTypes : List Int := [0, 1, 2, 3, 4, 5, 30, 40]

def pageSize : Nat := 100

def maxPages : Nat := 20

structure Leaf where
  id : Text
  value : Int
  (senderId receiverId : Text)
  deriving DecidableEq

structure SwapTransferFacts where
  (senderId senderIdentity receiverId receiverIdentity : Text)
  (receiverStatus receiverSats : Int)
  leaves : List Leaf
  deriving DecidableEq

structure HistoryTransfer where
  id : Text
  (type status network totalValue : Int)
  swapFacts : Option SwapTransferFacts
  deriving DecidableEq

structure SwapRequestFacts where
  (requestId walletIdentity sspIdentity : Text)
  network : Network
  (outboundId inboundId : Text)
  value : Int
  inboundLeafIds : List Text
  deriving DecidableEq

/-- What `closedProofs` keeps of a proof that a return is closed. -/
structure ReturnClosure where
  walletId : Text
  network : Network
  transferId : Text
  (debitedSats observedAt : Int)

/-- A call of the reader; histories are scanned one after the other and numbered. -/
inductive Call where
  | transfers (scan page : Nat) (offset : Int)
  | swapEvidence (scan : Nat) (transferId : Text)
  | available
  | owned
  | pending

/-- Where `assertCurrent` is called. -/
inductive Moment where
  | opening
  | before (call : Call)
  | after (call : Call)
  | closing

/-- Where the clock is read. -/
inductive Instant where
  | proof (pass index : Nat)
  | started
  | observed

/-- The answers of a reader, `none` where it rejects. -/
structure Reader where
  getTransfers : (scan page : Nat) → (offset : Int) → Option Raw
  getInternalSwapEvidence : Option ((scan : Nat) → (transferId : Text) → Option Raw)
  (getAvailableBalance getOwnedBalance getPendingTransfers : Option Raw)

structure Input where
  authenticatedReader : Reader
  walletId : Text
  network : Network
  sparkAddress : Text
  stateUpdatedAt : Int
  expectedTransferIds : List Text
  /-- `none` is an object that no proof was made for. -/
  closedReturnedProofs : List (Option ReturnClosure)
  requireExactHistoryScope : Bool
  /-- `none` where the clock throws or shows no whole number. -/
  now : Instant → Option Int
  /-- `false` where it throws. -/
  assertCurrent : Moment → Bool

/-- A computation that leaves its calls behind; `null` and what throws are both `none`. -/
abbrev Reading (α : Type) := Emitting Call α

def guardedRead (input : Input) (c : Call) (read : Option Raw) : Reading Raw := do
  Emitting.require (input.assertCurrent (.before c) = true)
  let result ← Emitting.emit c read
  Emitting.require (input.assertCurrent (.after c) = true)
  return result

variable (value : Raw)

def isIdentifier : Option Text := do
  let s ← value.asText
  guard (IsId s 512)
  return s

def positiveSats : Option Int := do
  let n ← value.asNumber
  guard (IsSafeInteger n ∧ 0 < n)
  return n

/-- `/^(02|03)[0-9a-f]{64}$/i`, in lower case. -/
def identity : Option Text := do
  let s ← value.asText
  guard (IsCompressedPubkey (toLowerCase s))
  return toLowerCase s

def bytesIdentity : Raw → Option Text
  | .bytes l => do
    guard (l.length = 33)
    identity (.text (l.flatMap fun byte => [hexDigit (byte / 16), hexDigit (byte % 16)]))
  | _ => none

def satsAmount : Option Int := do
  guard ((value.field "originalUnit").asText = some "SATOSHI".toList)
  let n ← (value.field "originalValue").asNumber
  guard (IsSafeInteger n ∧ 0 ≤ n)
  return n

/-- One entry of `transfer.leaves`. -/
def snapshotLeaf (senderId receiverId : Text) (edge : Raw) : Option Leaf := do
  let id ← isIdentifier ((edge.field "leaf").field "id")
  let value ← positiveSats ((edge.field "leaf").field "value")
  guard ((edge.field "transferSenderId").asText = some senderId ∧
    (edge.field "transferReceiverId").asText = some receiverId)
  return { id, value, senderId, receiverId }

def safeSum (leaves : List Leaf) : Option Int :=
  leaves.foldlM (fun sum leaf => do
    guard (IsSafeInteger (sum + leaf.value))
    return sum + leaf.value) 0

def snapshotSwapTransfer (L : Collation) (transfer : Raw) : Option SwapTransferFacts := do
  let senders ← (transfer.field "senders").asArray
  let receivers ← (transfer.field "receivers").asArray
  let rawLeaves ← (transfer.field "leaves").asArray
  guard (senders.length = 1 ∧ receivers.length = 1 ∧ 1 ≤ rawLeaves.length ∧
    rawLeaves.length ≤ pageSize * maxPages)
  let sender ← senders.head?
  let receiver ← receivers.head?
  let senderIdentity ← bytesIdentity (sender.field "identityPublicKey")
  let receiverIdentity ← bytesIdentity (receiver.field "identityPublicKey")
  let senderId ← isIdentifier (sender.field "id")
  let receiverId ← isIdentifier (receiver.field "id")
  let receiverSats ← positiveSats (receiver.field "amountSats")
  guard (senderId ≠ receiverId ∧ senderIdentity ≠ receiverIdentity ∧
    (receiver.field "status").asNumber = some 6)
  let leaves ← rawLeaves.mapM (snapshotLeaf senderId receiverId)
  let sum ← safeSum leaves
  guard (sum = receiverSats ∧ (transfer.field "totalValue").asNumber = some sum ∧
    (leaves.map Leaf.id).Nodup)
  return {
    senderId, senderIdentity, receiverId, receiverIdentity
    receiverStatus := 6
    receiverSats
    leaves := leaves.insertionSort (L.ByKey Leaf.id) }

/-- `!== undefined && !== id`, negated. -/
def NamesRequest (transfer : Raw) (requestId : Text) : Prop :=
  (transfer.field "userRequestId").isUndefined = true ∨
    (transfer.field "userRequestId").asText = some requestId
  deriving Decidable

def networkName : Network → Text
  | .mainnet => "MAINNET"
  | .regtest => "REGTEST"

def snapshotSwapRequest (evidence : Raw) (transfer : HistoryTransfer) (network : Network) :
    Option SwapRequestFacts := do
  let walletIdentity ← identity (evidence.field "walletIdentityPublicKey")
  let sspIdentity ← identity (evidence.field "sspIdentityPublicKey")
  let response := evidence.field "transfer"
  let request := response.field "userRequest"
  let outbound := request.field "outboundTransfer"
  let inbound := request.field "inboundTransfer"
  let requestId ← isIdentifier (request.field "id")
  let value ← satsAmount (request.field "totalAmount")
  let outboundId ← isIdentifier (outbound.field "sparkId")
  let inboundId ← isIdentifier (inbound.field "sparkId")
  let swapLeaves ← (request.field "swapLeaves").asArray
  guard (walletIdentity ≠ sspIdentity ∧
    (response.field "sparkId").asText = some transfer.id ∧
    satsAmount (response.field "totalAmount") = some transfer.totalValue ∧
    (request.field "typename").asText = some "LeavesSwapRequest".toList ∧
    (request.field "status").asText = some "SUCCEEDED".toList ∧
    (request.field "network").asText = some (networkName network) ∧
    satsAmount (request.field "fee") = some 0 ∧ 0 < value ∧
    outboundId ≠ inboundId ∧ (transfer.id = outboundId ∨ transfer.id = inboundId) ∧
    NamesRequest outbound requestId ∧ NamesRequest inbound requestId ∧
    satsAmount (outbound.field "totalAmount") = some value ∧
    satsAmount (inbound.field "totalAmount") = some value ∧
    1 ≤ swapLeaves.length ∧ swapLeaves.length ≤ pageSize * maxPages)
  let inboundLeafIds ← swapLeaves.mapM fun leaf => isIdentifier (leaf.field "leafId")
  guard inboundLeafIds.Nodup
  return {
    requestId, walletIdentity, sspIdentity, network, outboundId, inboundId, value
    inboundLeafIds := inboundLeafIds.insertionSort TextLe }

section Histories

variable (L : Collation) (input : Input) (closedReturns : List (Text × Int))

def IsExtra (id : Text) : Prop :=
  id ∉ input.expectedTransferIds ∧ id ∉ closedReturns.map Prod.fst
  deriving Decidable

/-- The `closedReturns.get(id)` of the checks of one transfer. -/
def debitOf (id : Text) : Option Int := (closedReturns.find? (·.1 = id)).map Prod.snd

def networkNumber : Network → Int
  | .mainnet => 1
  | .regtest => 2

def StatusHolds (id : Text) (type status totalValue : Int) : Prop :=
  match debitOf closedReturns id with
  | some debit => type = 0 ∧ (status = 6 ∨ status = 7) ∧ totalValue = debit
  | none => status = 5

instance (id : Text) (type status totalValue : Int) :
    Decidable (StatusHolds closedReturns id type status totalValue) := by
  unfold StatusHolds
  split <;> infer_instance

def historyTransfer (transfer : Raw) : Option HistoryTransfer := do
  let id ← isIdentifier (transfer.field "id")
  let type ← (transfer.field "type").asNumber
  let status ← (transfer.field "status").asNumber
  let network ← (transfer.field "network").asNumber
  let totalValue ← (transfer.field "totalValue").asNumber
  guard (StatusHolds closedReturns id type status totalValue ∧ type ∈ transferTypes ∧
    network = networkNumber input.network ∧ IsSafeInteger totalValue ∧ 0 ≤ totalValue)
  if input.requireExactHistoryScope = true ∧ IsExtra input closedReturns id then
    let swapFacts ← snapshotSwapTransfer L transfer
    return { id, type, status, network, totalValue, swapFacts := some swapFacts }
  else
    return { id, type, status, network, totalValue, swapFacts := none }

def pageOf (offset : Int) (result : Raw) : Option (List Raw × Int) := do
  let transfers ← (result.field "transfers").asArray
  let next ← (result.field "offset").asNumber
  guard (transfers.length ≤ pageSize ∧ IsSafeInteger next ∧ ¬ (0 ≤ next ∧ next ≤ offset))
  return (transfers, next)

def readPages (scan : Nat) : (remaining page : Nat) → (offset : Int) →
    Reading (List HistoryTransfer)
  | 0, _, _ => Emitting.give none
  | remaining + 1, page, offset => do
    let result ← guardedRead input (.transfers scan page offset)
      (input.authenticatedReader.getTransfers scan page offset)
    let answer ← Emitting.give (pageOf offset result)
    let history ← Emitting.give (answer.1.mapM (historyTransfer L input closedReturns))
    if answer.2 < 0 then
      return history
    else
      let rest ← readPages scan remaining (page + 1) answer.2
      return history ++ rest

variable (history : List HistoryTransfer)

/-- `history.sort((left, right) => left.id.localeCompare(right.id))`. -/
def sortHistory : List HistoryTransfer :=
  history.insertionSort (L.ByKey HistoryTransfer.id)

def IsWhole : Prop :=
  (history.map HistoryTransfer.id).Nodup ∧
    (∀ id ∈ input.expectedTransferIds, id ∈ history.map HistoryTransfer.id) ∧
    ∀ id ∈ closedReturns.map Prod.fst, id ∈ history.map HistoryTransfer.id
  deriving Decidable

def readCompleteHistory (scan : Nat) : Reading (List HistoryTransfer) := do
  let history ← readPages L input closedReturns scan maxPages 0 0
  Emitting.require (IsWhole input closedReturns history)
  return sortHistory L history

def readRequests (readEvidence : Nat → Text → Option Raw) (scan : Nat) :
    (context : Option (Text × Text)) → (requests : List SwapRequestFacts) →
    (transfers : List HistoryTransfer) → Reading (List SwapRequestFacts)
  | _, requests, [] => return requests
  | context, requests, transfer :: transfers => do
    let evidence ← guardedRead input (.swapEvidence scan transfer.id)
      (readEvidence scan transfer.id)
    let request ← Emitting.give (snapshotSwapRequest evidence transfer input.network)
    Emitting.require (∀ c ∈ context, c = (request.walletIdentity, request.sspIdentity))
    let prior := requests.find? (·.requestId = request.requestId)
    Emitting.require (∀ p ∈ prior, p = request)
    readRequests readEvidence scan (some (request.walletIdentity, request.sspIdentity))
      (if prior.isSome then requests else requests ++ [request]) transfers

def LegsAgree (request : SwapRequestFacts) (outbound inbound : HistoryTransfer)
    (out inn : SwapTransferFacts) : Prop :=
  ((outbound.type = 4 ∧ inbound.type = 5) ∨ (outbound.type = 30 ∧ inbound.type = 40)) ∧
    outbound.totalValue = request.value ∧ inbound.totalValue = request.value ∧
    out.senderIdentity = request.walletIdentity ∧ out.receiverIdentity = request.sspIdentity ∧
    inn.senderIdentity = request.sspIdentity ∧ inn.receiverIdentity = request.walletIdentity ∧
    (inn.leaves.map Leaf.id).insertionSort TextLe = request.inboundLeafIds
  deriving Decidable

def coverLegs (extras : List HistoryTransfer) :
    (covered : List Text) → (requests : List SwapRequestFacts) → Option (List Text)
  | covered, [] => some covered
  | covered, request :: requests => do
    let outbound ← extras.find? (·.id = request.outboundId)
    let inbound ← extras.find? (·.id = request.inboundId)
    let out ← outbound.swapFacts
    let inn ← inbound.swapFacts
    guard (LegsAgree request outbound inbound out inn ∧
      outbound.id ∉ covered ∧ inbound.id ∉ covered)
    coverLegs extras (covered ++ [outbound.id, inbound.id]) requests

def extrasOf : List HistoryTransfer :=
  history.filter fun transfer => decide (IsExtra input closedReturns transfer.id)

def proveInternalSwapScope (scan : Nat) (history : List HistoryTransfer) :
    Reading (List SwapRequestFacts) := do
  let extras := extrasOf input closedReturns history
  if extras = [] then
    return []
  else
    let readEvidence ← Emitting.give input.authenticatedReader.getInternalSwapEvidence
    Emitting.require (extras.length % 2 = 0 ∧
      ∀ t ∈ extras, t.type ∈ [4, 5, 30, 40] ∧ t.swapFacts.isSome = true)
    let requests ← readRequests input readEvidence scan none [] extras
    let covered ← Emitting.give (coverLegs extras [] requests)
    Emitting.require (covered.length = extras.length)
    return requests.insertionSort (L.ByKey SwapRequestFacts.requestId)

def swapScope (scan : Nat) (history : List HistoryTransfer) : Reading (List SwapRequestFacts) :=
  if input.requireExactHistoryScope = true then
    proveInternalSwapScope L input closedReturns scan history
  else
    return []

def readStableHistoryScope (firstScan secondScan : Nat) :
    Reading (List HistoryTransfer × List SwapRequestFacts) := do
  let first ← readCompleteHistory L input closedReturns firstScan
  let firstSwaps ← swapScope L input closedReturns firstScan first
  let second ← readCompleteHistory L input closedReturns secondScan
  Emitting.require (first = second)
  let secondSwaps ← swapScope L input closedReturns secondScan second
  Emitting.require (firstSwaps = secondSwaps)
  return (second, secondSwaps)

end Histories

/-- `assertCheckoutSparkSettledClosedReturnedProof`. -/
def assertClosedReturnedProof (proof : Option ReturnClosure) (walletId : Text)
    (network : Network) (nowMs : Int) : Option ReturnClosure := do
  let observed ← proof
  guard (observed.walletId = walletId ∧ observed.network = network ∧ IsSafeInteger nowMs ∧
    0 ≤ nowMs ∧ observed.observedAt ≤ nowMs ∧ nowMs - observed.observedAt ≤ 5000)
  return observed

def requireFreshClosedReturns (input : Input) (pass : Nat) :
    (index : Nat) → (observed : List (Text × Int)) → (proofs : List (Option ReturnClosure)) →
    Option (List (Text × Int))
  | _, observed, [] => some observed
  | index, observed, proof :: proofs => do
    let nowMs ← input.now (.proof pass index)
    let closure ← assertClosedReturnedProof proof input.walletId input.network nowMs
    guard (closure.transferId ∉ observed.map Prod.fst ∧
      closure.transferId ∉ input.expectedTransferIds)
    requireFreshClosedReturns input pass (index + 1)
      (observed ++ [(closure.transferId, closure.debitedSats)]) proofs

variable (input : Input)

/-- The checks of an input that both judgements begin with. -/
def InputHolds : Prop :=
  IsId input.walletId 512 ∧ IsId input.sparkAddress 512 ∧ IsSafeInteger input.stateUpdatedAt ∧
    0 ≤ input.stateUpdatedAt ∧ 2 ≤ input.expectedTransferIds.length ∧
    input.expectedTransferIds.length ≤ pageSize * maxPages ∧
    (∀ id ∈ input.expectedTransferIds, IsId id 512) ∧ input.expectedTransferIds.Nodup
  deriving Decidable

def openScope : Reading (List (Text × Int) × Int) := do
  Emitting.require (input.closedReturnedProofs.length ≤ pageSize * maxPages)
  let closedReturns ← Emitting.give
    (requireFreshClosedReturns input 0 0 [] input.closedReturnedProofs)
  Emitting.require (input.assertCurrent .opening = true)
  let startedAt ← Emitting.give (input.now .started)
  Emitting.require (IsSafeInteger startedAt ∧ input.stateUpdatedAt ≤ startedAt)
  return (closedReturns, startedAt)

def Raw.bigintValue : Raw → Option Int
  | .bigint n => some n
  | _ => none

/-- `Array.isArray(pending) && pending.length === 0`. -/
def Raw.isEmptyArray : Raw → Bool
  | .array [] => true
  | _ => false

def readFunds : Reading (Raw × Raw × Bool) := do
  let available ← guardedRead input .available input.authenticatedReader.getAvailableBalance
  let owned ← guardedRead input .owned input.authenticatedReader.getOwnedBalance
  let pending ← guardedRead input .pending input.authenticatedReader.getPendingTransfers
  return (available, owned, pending.isEmptyArray)

variable (L : Collation)

/-- The judgement of an exact scope; `owned === available` needs no second look. -/
def treasuryHistory (input : Input) (authorizedDebitSats : Int) : Reading Unit := do
  Emitting.require (InputHolds input ∧ IsSafeInteger authorizedDebitSats ∧ 0 ≤ authorizedDebitSats)
  let opened ← openScope input
  let _ ← readStableHistoryScope L input opened.1 0 1
  let funds ← readFunds input
  Emitting.require (input.assertCurrent .closing = true)
  let _ ← Emitting.give (requireFreshClosedReturns input 1 0 [] input.closedReturnedProofs)
  Emitting.require (funds.1.bigintValue = some authorizedDebitSats ∧
    funds.2.1.bigintValue = some authorizedDebitSats ∧ funds.2.2 = true)

/-- `{ ...input, requireExactHistoryScope: true }`. -/
def exactScope : Input := { input with requireExactHistoryScope := true }

/-- `true` is a value, `false` is none. -/
def proveCheckoutSparkNativeTreasuryHistory (input : Input)
    (authorizedDebitSats : Int) : Reading Unit :=
  treasuryHistory L (exactScope input) authorizedDebitSats

structure RetirementEvidence where
  walletId : Text
  network : Network
  (observedAt availableSats ownedSats incomingSats : Int)
  (fundingReceiveTerminal sendHistoryTerminal claimsTerminal refundsTerminal : Bool)

def collectCheckoutSparkNativeRetirementEvidence (input : Input) : Reading RetirementEvidence := do
  Emitting.require (InputHolds input)
  let opened ← openScope input
  let historyScope ← readStableHistoryScope L input opened.1 0 1
  let funds ← readFunds input
  Emitting.require (funds.1.bigintValue = some 0 ∧ funds.2.1.bigintValue = some 0 ∧
    funds.2.2 = true)
  let scopeAgain ← readStableHistoryScope L input opened.1 2 3
  Emitting.require (scopeAgain = historyScope)
  let observedAt ← Emitting.give (input.now .observed)
  Emitting.require (IsSafeInteger observedAt ∧ opened.2 ≤ observedAt ∧
    input.stateUpdatedAt < observedAt ∧ input.assertCurrent .closing = true)
  let _ ← Emitting.give (requireFreshClosedReturns input 1 0 [] input.closedReturnedProofs)
  return {
    walletId := input.walletId
    network := input.network
    observedAt := observedAt
    availableSats := 0
    ownedSats := 0
    incomingSats := 0
    fundingReceiveTerminal := true
    sendHistoryTerminal := true
    claimsTerminal := true
    refundsTerminal := true }

end Conduit.CheckoutSpark.Retirement
