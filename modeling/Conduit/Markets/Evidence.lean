import Conduit.Js.Map
import Conduit.Stock.Handover
import Conduit.Stock.Lifecycle

namespace Conduit.Markets

open Js Stock

def maxEventMarketRecordsPerCoordinate : Int := 2048

def maxEventMarketDiscoveryRecords : Int := 2048

def maxEventMarketDiscoveryBytes : Int := 8388608

inductive EvidenceRetention where
  | durable
  | discovery
  deriving DecidableEq

/-- `discoveryBytes` is absent on durable and on legacy evidence. -/
structure EvidenceRow where
  (id marketCoordinate : Text)
  signedEvent : SignedEvent
  cachedAt : Int
  discoveryBytes : Option Nat
  deriving DecidableEq

abbrev EvidenceTable := Table EvidenceRow EvidenceRow.id

structure EvidencePlatform extends StockPlatform where
  /-- `encoder.encode(JSON.stringify(row)).byteLength`. -/
  rowBytes : EvidenceRow → Nat

inductive CommerceState where
  | opened
  | closed
  deriving DecidableEq

inductive MerchantMode where
  | merchantPresent
  | organizerHandoff

structure MerchantRow where
  pubkey : Text
  mode : MerchantMode
  assignment : Text

structure ParsedRoster where
  (coordinate organizerPubkey calendarCoordinate eventId : Text)
  createdAt : Int
  state : CommerceState
  merchants : List MerchantRow
  previousEventId : Option Text
  signedEvent : SignedEvent

section
variable (P : EvidencePlatform)

def validDTag (value : Text) : Bool :=
  decide (0 < value.length ∧ utf8ByteLength value ≤ 128) && value.all fun c => !P.isControl c

def parseMerchantMode (text : Text) : Option MerchantMode :=
  if text = "merchant_present" then some .merchantPresent
  else if text = "organizer_handoff" then some .organizerHandoff
  else none

def parseMerchantRow : List Text → Option MerchantRow
  | [_, pubkey, mode, assignment] => do
    let mode ← parseMerchantMode mode
    guard (IsHex64 pubkey ∧ trim assignment = assignment ∧ 0 < assignment.length ∧
      utf8ByteLength assignment ≤ 120 ∧ (assignment.all fun c => !P.isControl c) = true)
    return ⟨pubkey, mode, assignment⟩
  | _ => none

def parseCommerceState (tag : List Text) : Option CommerceState :=
  if tag[1]? ≠ some "2".toList then none
  else if tag[2]? = some "open".toList then some .opened
  else if tag[2]? = some "closed".toList then some .closed
  else none

def parseEventMarketRosterFieldsForPrivateOrder (event : SignedEvent) : Option ParsedRoster := do
  guard (event.kind = 30409 ∧ P.eventBytes event ≤ 65536)
  let d ← oneTag event.tags "d" 2
  let dTag ← d[1]?
  guard (validDTag P dTag = true)
  let a ← oneTag event.tags "a" 2
  let reference ← a[1]?
  let calendar ← CheckoutSpark.parseAddressableCoordinate P.toPlatform reference
    [31922, 31923, 31924]
  guard (calendar.authorPubkey = event.pubkey)
  let state ← (oneTag event.tags "event_market" 3).bind parseCommerceState
  let previousEventId ← parsePrevious event.id (tagsNamed event.tags "prev")
  guard (tagsNamed event.tags "shipping_option" = [])
  let merchants ← (tagsNamed event.tags "merchant").mapM (parseMerchantRow P)
  guard (merchants.length ≤ 128 ∧ (merchants.map (·.pubkey)).Nodup)
  return {
    coordinate := ("30409:" : Text) ++ event.pubkey ++ ":" ++ dTag
    organizerPubkey := event.pubkey
    calendarCoordinate := calendar.coordinate
    eventId := event.id
    createdAt := event.createdAt
    state := state
    merchants := merchants
    previousEventId := previousEventId
    signedEvent := event }

def parseEventMarketRosterEvent (event : SignedEvent) : Option ParsedRoster :=
  if P.isValidSignedEvent event = true then parseEventMarketRosterFieldsForPrivateOrder P event
  else none

/-- `resolveEventMarketRoster` finds the newest revision deleted. -/
def ResolvesDeleted (coordinate : Text) (events : List SignedEvent) : Prop :=
  ∃ market ∈ CheckoutSpark.parseAddressableCoordinate P.toPlatform coordinate [30409],
    ∃ winner ∈ ((events.filter fun event =>
        decide (event.kind = 30409 ∧ event.pubkey = market.authorPubkey ∧
          (∃ tag ∈ event.tags, tag[0]? = some "d".toList ∧ tag[1]? = some market.dTag) ∧
          P.isValidSignedEvent event = true)).insertionSort
        fun a b => 0 ≤ compareReplaceableEventFrontiers a b).head?,
      IsRevisionDeleted P.toStockPlatform market.coordinate winner
        (events.filter fun event => decide (event.kind = 5))
  deriving Decidable

/-- `deletionAppliesToScopedEvent`. -/
def DeletionApplies (coordinate : Text) (event : SignedEvent) (deletions : List SignedEvent) :
    Prop :=
  ∃ market ∈ CheckoutSpark.parseAddressableCoordinate P.toPlatform coordinate [30409],
    event.pubkey = market.authorPubkey ∧
      ∃ d ∈ oneD event.tags, ∃ target ∈ CheckoutSpark.parseAddressableCoordinate P.toPlatform
          (numberText event.kind ++ ":" ++ event.pubkey ++ ":" ++ d) [30409, 31922, 31923, 31924],
        (event.kind = 30409 → target.coordinate = coordinate) ∧
          IsRevisionDeleted P.toStockPlatform target.coordinate event deletions
where
  /-- The value of the only `d` tag. -/
  oneD (tags : List (List Text)) : Option Text :=
    match tagsNamed tags "d" with
    | [tag] => some ((tag[1]?).getD "undefined")
    | _ => none

instance (coordinate : Text) (event : SignedEvent) (deletions : List SignedEvent) :
    Decidable (DeletionApplies P coordinate event deletions) := by
  unfold DeletionApplies; infer_instance

def verifySignedEventBatches (available : List SignedEvent → Bool) (events : List SignedEvent) :
    Option (List SignedEvent) :=
  if available events = true then some (events.filter fun event => P.isValidSignedEvent event)
  else none

def evidenceId (coordinate eventId : Text) : Text := coordinate ++ ':' :: eventId

section
variable (coordinate : Text) (table : EvidenceTable)

def storedRow (event : SignedEvent) : Option EvidenceRow :=
  table.get (evidenceId coordinate event.id)

def evidenceRow (now : Int) (retention : EvidenceRetention) (durableNegative : Bool)
    (previous : Option EvidenceRow) (event : SignedEvent) : EvidenceRow :=
  let row : EvidenceRow := ⟨evidenceId coordinate event.id, coordinate, event, now, none⟩
  if retention = .discovery ∧ durableNegative = false ∧ ∀ p ∈ previous, p.discoveryBytes ≠ none then
    { row with discoveryBytes := some (P.rowBytes { row with discoveryBytes := some 0 } + 16) }
  else row

def coordinateRows : List EvidenceRow :=
  (table.rows.filter fun row => decide (row.marketCoordinate = coordinate)).insertionSort
    fun a b => CheckoutSpark.TextLe a.id b.id

def cachedRows : List EvidenceRow :=
  (table.rows.filter (·.discoveryBytes.isSome)).insertionSort fun a b =>
    a.discoveryBytes.getD 0 < b.discoveryBytes.getD 0 ∨
      a.discoveryBytes.getD 0 = b.discoveryBytes.getD 0 ∧ CheckoutSpark.TextLe a.id b.id

end

structure Admission where
  coordinate : Text
  (existing newRecords newCacheRecords addedBytes cachedCount bytes : Int)

namespace Admission

variable (a : Admission)

def growsCache : Prop := 0 < a.newCacheRecords ∨ 0 < a.addedBytes

instance (a : Admission) : Decidable a.growsCache := inferInstanceAs (Decidable (_ ∨ _))

def atCapacity (removed : List EvidenceRow) : Prop :=
  maxEventMarketRecordsPerCoordinate < a.existing + a.newRecords -
      (removed.countP fun row => decide (row.marketCoordinate = a.coordinate)) ∨
    a.growsCache ∧
      (maxEventMarketDiscoveryRecords < a.cachedCount + a.newCacheRecords - removed.length ∨
        maxEventMarketDiscoveryBytes <
          a.bytes + a.addedBytes - (removed.map fun row => (row.discoveryBytes.getD 0 : Int)).sum)

instance (a : Admission) (removed : List EvidenceRow) : Decidable (a.atCapacity removed) :=
  inferInstanceAs (Decidable (_ ∨ _))

/-- Positive writes cannot reclaim quota. -/
def refusedEarly : Prop :=
  maxEventMarketRecordsPerCoordinate < a.existing + a.newRecords ∨
    a.growsCache ∧ maxEventMarketDiscoveryRecords < a.cachedCount + a.newCacheRecords

instance (a : Admission) : Decidable a.refusedEarly := inferInstanceAs (Decidable (_ ∨ _))

end Admission

def bytesOf (row : EvidenceRow) : Int := row.discoveryBytes.getD 0

def admission (coordinate : Text) (table : EvidenceTable) (rows : List EvidenceRow) : Admission :=
  let stored := fun row : EvidenceRow => table.get row.id
  let newCacheRecords : Int := rows.countP fun row =>
    row.discoveryBytes.isSome && ((stored row).bind (·.discoveryBytes)).isNone
  let addedBytes : Int := (rows.map fun row => bytesOf row - ((stored row).map bytesOf).getD 0).sum
  let grows := decide (0 < newCacheRecords ∨ 0 < addedBytes)
  { coordinate := coordinate
    existing := table.rows.countP fun row => decide (row.marketCoordinate = coordinate)
    newRecords := rows.countP fun row => (stored row).isNone
    newCacheRecords := newCacheRecords
    addedBytes := addedBytes
    cachedCount := if grows then table.rows.countP fun row => row.discoveryBytes.isSome else 0
    bytes := if grows then (table.rows.map bytesOf).sum else 0 }

def evictWhile (full : List EvidenceRow → Bool) (leaves : List EvidenceRow → Option Bool) :
    List (List EvidenceRow) → List EvidenceRow → Option (List EvidenceRow)
  | [], evicted => some evicted
  | group :: groups, evicted =>
    if full evicted = false then some evicted
    else do
      let evictable ← leaves group
      evictWhile full leaves groups (if evictable then evicted ++ group else evicted)

def isCalendarKind (kind : Int) : Bool := decide (kind = 31922 ∨ kind = 31923 ∨ kind = 31924)

/-- Presentation of a deleted market that no deletion names. -/
def isPresentation (writing : List Text) (verified : List SignedEvent) (row : EvidenceRow) : Bool :=
  decide (row.discoveryBytes.isSome = true ∧ row.id ∉ writing ∧
    isCalendarKind row.signedEvent.kind = true ∧ row.signedEvent ∈ verified ∧
    ¬∃ event ∈ verified, event.kind = 5 ∧ ∃ tag ∈ event.tags,
      tag[0]? = some "e".toList ∧ tag[1]? = some row.signedEvent.id ∨
      tag[0]? = some "a".toList ∧ tag[1]? = some (eventCoordinate row.signedEvent))

variable (available : List SignedEvent → Bool)

def isInitialCandidate (table : EvidenceTable) (group : List EvidenceRow) : Option Bool :=
  match group with
  | [] => some false
  | first :: _ =>
    let candidate := first.marketCoordinate
    if group.countP (fun row => decide (row.signedEvent.kind = 30409)) ≠ 1 ∨
        (∃ row ∈ group, row.signedEvent.kind ≠ 30409 ∧
          isCalendarKind row.signedEvent.kind = false) ∨
        table.rows.countP (fun row => decide (row.marketCoordinate = candidate)) ≠ group.length then
      some false
    else do
      let admitted ← verifySignedEventBatches P available (group.map (·.signedEvent))
      if admitted.length ≠ group.length then return false
      match (admitted.find? fun event => decide (event.kind = 30409)).bind
          (parseEventMarketRosterEvent P) with
      | none => return false
      | some market =>
        return decide (market.coordinate = candidate ∧ market.state = .opened ∧
          market.previousEventId = none ∧ market.merchants = [] ∧
          ∀ event ∈ admitted, event.pubkey = market.organizerPubkey)

variable (coordinate : Text)

variable (table : EvidenceTable)

def otherGroups : List (List EvidenceRow) :=
  let others := (cachedRows table).filter fun row => decide (row.marketCoordinate ≠ coordinate)
  (mapOf (·.marketCoordinate) others).map fun candidate =>
    others.filter fun row => decide (row.marketCoordinate = candidate.marketCoordinate)

def evictPresentation (verified : List SignedEvent)
    (rows : List EvidenceRow) (full : List EvidenceRow → Bool) : Option (List EvidenceRow) :=
  if ResolvesDeleted P coordinate verified then
    evictWhile full (fun group => some (group.all (isPresentation (rows.map (·.id)) verified)))
      ((coordinateRows coordinate table).map fun row => [row]) []
  else some []

def evictedRows (unique newDeletions : List SignedEvent) (rows : List EvidenceRow)
    (full : List EvidenceRow → Bool) : Option (List EvidenceRow) :=
  if full [] = false ∨ newDeletions = [] then some []
  else do
    let verified ← verifySignedEventBatches P available
      (((coordinateRows coordinate table).map (·.signedEvent)) ++ unique)
    if ¬∃ event ∈ verified, DeletionApplies P coordinate event newDeletions then return []
    let evicted ← evictPresentation P coordinate table verified rows full
    evictWhile full (isInitialCandidate P available table) (otherGroups coordinate table) evicted

def durableWitnesses
    (deletions : List SignedEvent) (table : EvidenceTable) : Option (List SignedEvent) :=
  let durableRows := if deletions = [] then [] else
    (coordinateRows coordinate table).filter (·.discoveryBytes.isNone)
  if durableRows = [] then some []
  else verifySignedEventBatches P available (durableRows.map (·.signedEvent))

/-- A scoped negative of durable evidence belongs to that custody too. -/
def isDurableNegative (deletions witnesses : List SignedEvent) (event : SignedEvent) : Bool :=
  decide (∃ deletion ∈ deletions, deletion.id = event.id ∧
    ∃ witness ∈ witnesses, DeletionApplies P coordinate witness [deletion])

/-- The transaction of `retain` over the events and the verified deletions among them; `none` where
it throws. -/
def retainTransaction (now : Int) (coordinate : Text)
    (unique deletions : List SignedEvent) (retention : EvidenceRetention) (table : EvidenceTable) :
    Option EvidenceTable := do
  let witnesses ← durableWitnesses P available coordinate deletions table
  let rows := unique.map fun event => evidenceRow P coordinate now retention
    (isDurableNegative P coordinate deletions witnesses event) (storedRow coordinate table event)
    event
  let a := admission coordinate table rows
  let newDeletions := deletions.filter fun event =>
    decide (event ∈ unique) && (storedRow coordinate table event).isNone
  guard ¬(newDeletions = [] ∧ a.refusedEarly)
  let evicted ← evictedRows P available coordinate table unique newDeletions rows
    fun removed => decide (a.atCapacity removed)
  guard ¬a.atCapacity evicted
  return (table.removeAll evicted).putAll rows

def verifiedDeletions (unique : List SignedEvent)
    (retention : EvidenceRetention) : Option (List SignedEvent) :=
  if retention = .discovery then
    verifySignedEventBatches P available (unique.filter fun event => decide (event.kind = 5))
  else some []

/-- `retain`; `none` where it throws. -/
def retain (now : Int) (coordinate : Text)
    (events : List SignedEvent) (retention : EvidenceRetention) (table : EvidenceTable) :
    Option EvidenceTable :=
  if events = [] then some table
  else do
    let unique := mapOf (·.id) events
    let deletions ← verifiedDeletions P available unique retention
    retainTransaction P available now coordinate unique deletions retention table

end

end Conduit.Markets
