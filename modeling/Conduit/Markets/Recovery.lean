import Conduit.Markets.Evidence

namespace Conduit.Markets

open Js Stock

def maxCandidates : Nat := 128

def maxRetained : Nat := 2048

def maxOccurrenceRevisions : Nat := 64

/-- `Number.MAX_SAFE_INTEGER`. -/
def endlessMs : Int := 9007199254740991

inductive Coverage where
  | complete
  | partialRead
  | unavailable
  deriving DecidableEq

inductive RelayStatus where
  | success
  | partialAnswer
  | failed
  deriving DecidableEq

structure ReadResult where
  events : List SignedEvent
  relays : List RelayStatus

/-- What `parseProductEvent` reads of a product. -/
structure ProductSource where
  (id pubkey : Text)
  isVariable : Bool
  stock : Option Int

structure RecoveryPlatform extends StockPlatform where
  parseProductEvent : SignedEvent → Option ProductSource

structure Revision extends ParsedAssignment where
  signedEvent : SignedEvent
  deriving DecidableEq

inductive ConflictReason where
  | invalidProduct
  | malformedAssignment
  | assignmentConflict
  | trackingMismatch
  | overallocated
  | evidenceLimit
  | organizerStockRecoveryRequired

inductive RecoveryResult where
  | ready (coverage : Coverage) (product : Product) (recoveredAssignments : Nat)
      (alreadyCommitted : Bool)
  | unsafeConflict (coverage : Coverage) (reason : ConflictReason)

/-- `relayHintTruncated` of the plan, where there is one. -/
def coverageOf (plan : Option Bool) (reads : List ReadResult) (truncated : Bool) : Coverage :=
  let statuses := reads.flatMap (·.relays)
  if statuses.all fun status => status = .failed then .unavailable
  else if truncated || plan == some true || statuses.any fun status => status ≠ .success then
    .partialRead
  else .complete

def mergeCoverage (a b : Coverage) : Coverage :=
  if a = .unavailable ∨ b = .unavailable then .unavailable
  else if a = .partialRead ∨ b = .partialRead then .partialRead
  else .complete

/-- The coordinate of an event with one well-formed `d` tag. -/
def coordinateOf (event : SignedEvent) : Option Text :=
  ((oneTag event.tags "d" 2).bind fun tag => tag[1]?).map fun d =>
    numberText event.kind ++ ":" ++ event.pubkey ++ ":" ++ d

def requiresOrganizerStockRecovery (assignment : ParsedAssignment) : Prop :=
  match assignment.stockPool with
  | .absent => False
  | .invalid => True
  | .valid pool => pool.state = .active

instance (assignment : ParsedAssignment) : Decidable
    (requiresOrganizerStockRecovery assignment) := by
  unfold requiresOrganizerStockRecovery
  exact match assignment.stockPool with
    | .absent | .invalid | .valid _ => inferInstance

def cancellation (event : SignedEvent) : Prop :=
  tagsNamed event.tags "event_occurrence" =
    [["event_occurrence".toList, "1".toList, "cancelled".toList]]
  deriving Decidable

def newest (events : List SignedEvent) : Option SignedEvent :=
  (events.insertionSort fun a b => 0 ≤ compareReplaceableEventFrontiers a b).head?

/-- `[...new Map(events.map((event) => [event.id, event])).values()]`. -/
def uniqueEvents (events : List SignedEvent) : List SignedEvent :=
  mapOf (·.id) events

def evidenceRowOf (now : Int) (marketCoordinate : Text) (event : SignedEvent) : EvidenceRow where
  id := evidenceId marketCoordinate event.id
  marketCoordinate := marketCoordinate
  signedEvent := event
  cachedAt := now
  discoveryBytes := none

/-- `bulkPut` of the events under a market. -/
def retainEvents (now : Int) (marketCoordinate : Text) (events : List SignedEvent)
    (evidence : EvidenceTable) : EvidenceTable :=
  evidence.putAll ((uniqueEvents events).map (evidenceRowOf now marketCoordinate))

def retainedEvents (evidence : EvidenceTable) (marketCoordinate : Text) : List SignedEvent :=
  (coordinateRows marketCoordinate evidence).map (·.signedEvent)

section
variable (P : RecoveryPlatform)

def parseRevision (event : SignedEvent) : Option Revision :=
  (parseEventMarketAssignmentEvent P.toStockPlatform event).map fun a => ⟨a, event⟩

structure Lifecycle where
  endMs : Int
  terminal : Bool
  coverage : Coverage

/-- What the relays answer about an occurrence. -/
structure OccurrenceReads where
  plan : Option Bool
  reads : List ReadResult
  idDeletions : Option ReadResult

def validEvents (events : List SignedEvent) : List SignedEvent :=
  uniqueEvents (events.filter fun event => P.isValidSignedEvent event)

/-- The evidence that concerns the occurrence and its newest revision. -/
def isRelevant (coordinate : Text) (author : Text) (current event : SignedEvent) : Bool :=
  decide (coordinateOf event = some coordinate ∨
    event.kind = 5 ∧ event.pubkey = author ∧ ∃ tag ∈ event.tags,
      tag[0]? = some "a".toList ∧ tag[1]? = some coordinate ∨
      tag[0]? = some "e".toList ∧ tag[1]? = some current.id)

def occurrenceState (assignment : ParsedAssignment) (retained : List SignedEvent)
    (input : OccurrenceReads) : Lifecycle × List SignedEvent :=
  let coordinate := assignment.occurrenceCoordinate
  match parseCanonicalCoordinate P.toStockPlatform coordinate [31922, 31923] with
  | none => (⟨endlessMs, false, .unavailable⟩, [])
  | some parsed =>
    let first := validEvents P (retained ++ input.reads.flatMap (·.events))
    let revisions := first.filter fun event => decide (coordinateOf event = some coordinate)
    match newest revisions with
    | none =>
      let truncated := input.reads.any fun read => maxOccurrenceRevisions ≤ read.events.length
      let coverage := coverageOf input.plan input.reads truncated
      (⟨endlessMs, false, mergeCoverage coverage .partialRead⟩, [])
    | some current =>
      let idRead := if input.plan.isSome then input.idDeletions else none
      let all := match idRead with
        | none => first
        | some read => validEvents P (first ++ read.events)
      let reads := input.reads ++ idRead.toList
      let failed := input.plan.isSome && idRead.isNone
      let truncated := failed || reads.any fun read => maxOccurrenceRevisions ≤ read.events.length
      let coverage := coverageOf input.plan reads truncated
      match P.calendarEnd current with
      | none => (⟨endlessMs, false, mergeCoverage coverage .partialRead⟩, [])
      | some calendarEnd =>
        -- A missing end cannot establish expiry or release.
        if current.kind = 31923 ∧ tagsNamed current.tags "end" = [] then
          (⟨endlessMs, false, mergeCoverage coverage .partialRead⟩, [])
        else
          let deletions := all.filter fun event =>
            decide (event.kind = 5 ∧ event.pubkey = parsed.authorPubkey)
          let terminal := decide (IsRevisionDeleted P.toStockPlatform coordinate current deletions ∨
            ∃ event ∈ revisions, cancellation event)
          (⟨calendarEnd, terminal, coverage⟩,
            all.filter (isRelevant coordinate parsed.authorPubkey current))

variable (merchantPubkey productCoordinate : Text)

def isProductAssignment (event : SignedEvent) : Bool :=
  decide (event.kind = 30410 ∧ event.pubkey = merchantPubkey ∧ ∃ tag ∈ event.tags,
    tag[0]? = some "a".toList ∧ tag[1]? = some productCoordinate)

/-- Unrelated cached markets must not displace this product's known holds. -/
def retainedRows (evidence : EvidenceTable) : List EvidenceRow :=
  ((evidence.rows.filter fun row =>
      isProductAssignment merchantPubkey productCoordinate row.signedEvent).insertionSort
    fun a b => CheckoutSpark.TextLe a.id b.id).take (maxRetained + 1)

def candidatesOf (rows : List EvidenceRow) (events : List SignedEvent) : List SignedEvent :=
  uniqueEvents ((rows.map (·.signedEvent) ++ events).filter fun event =>
    isProductAssignment merchantPubkey productCoordinate event && P.isValidSignedEvent event)

def byCoordinate (candidates : List SignedEvent) : List (Text × List SignedEvent) :=
  (mapOf id (candidates.filterMap coordinateOf)).map fun coordinate =>
    (coordinate, candidates.filter fun event => decide (coordinateOf event = some coordinate))

inductive Examined where
  | malformed
  | marked (current : Revision)
  | clear (tupleCandidates : List Revision)

def currentOf (coordinate : Text) (revisions : List SignedEvent) : Option Revision :=
  ((newest revisions).bind (parseRevision P)).filter fun current =>
    decide (current.coordinate = coordinate)

def examine : List (Text × List SignedEvent) → List Revision → Examined
  | [], tupleCandidates => .clear tupleCandidates
  | (coordinate, revisions) :: rest, tupleCandidates =>
    match currentOf P coordinate revisions with
    | none => .malformed
    | some current =>
      if requiresOrganizerStockRecovery current.toParsedAssignment then .marked current
      else examine rest (tupleCandidates ++ [current])

structure Work where
  signedProductEvent : SignedEvent
  source : ProductSource
  coverage : Coverage
  candidates : List SignedEvent
  tupleCandidates : List Revision
  scopedCache : Text → List SignedEvent
  (read before : List SignedEvent)
  unassigned : List Text

inductive Call where
  | reading (signedProductEvent : SignedEvent) (source : ProductSource)
  /-- About to retain a public marker. -/
  | retaining (coverage : Coverage) (current : Revision)
  /-- Loads the scopes of the markets. -/
  | scoping (work : Work) (markets : List Text)
  | resolving (work : Work) (pending : List Revision) (recovered : List Assignment)
  /-- About to load the evidence of the assignment's occurrence, and with that evidence. -/
  | asking (work : Work) (assignment : Revision) (pending : List Revision)
      (recovered : List Assignment)
  | dating (work : Work) (assignment : Revision) (retained : List SignedEvent)
      (pending : List Revision) (recovered : List Assignment)
  | returned (result : RecoveryResult)
  | threw

structure State where
  evidence : EvidenceTable
  products : Table Product Product.coordinate
  assignments : Table Assignment Assignment.coordinate
  calls : Nat → Option Call
  /-- Everything that some call has read. -/
  seen : List SignedEvent

def State.setCall (s : State) (i : Nat) (call : Call) : State :=
  { s with calls := Function.update s.calls i (some call) }

def acceptedSource (event : SignedEvent) : Option ProductSource := do
  guard (P.isValidSignedEvent event = true)
  let source ← P.parseProductEvent event
  guard (source.id = productCoordinate ∧ source.pubkey = merchantPubkey ∧
    source.isVariable = false ∧ StockTagMatches event source.stock)
  return source

/-- Existing committed inventory bypasses reads and remains the writer's truth. -/
def startedCall (products : Table Product Product.coordinate) (event : SignedEvent) : Call :=
  match products.get productCoordinate with
  | some existing => .returned (.ready .complete existing 0 true)
  | none =>
    match acceptedSource P merchantPubkey productCoordinate event with
    | none => .returned (.unsafeConflict .unavailable .invalidProduct)
    | some source => .reading event source

def observedCall (event : SignedEvent) (source : ProductSource) (plan : Option Bool)
    (answer : ReadResult) (evidence : EvidenceTable) (seen : List SignedEvent) : Call :=
  let rows := retainedRows merchantPubkey productCoordinate evidence
  let coverage := coverageOf plan [answer] (decide (maxCandidates ≤ answer.events.length))
  let candidates := candidatesOf P merchantPubkey productCoordinate rows answer.events
  if maxRetained < rows.length ∨ maxCandidates < candidates.length then
    -- Positive knowledge of skipped reservations cannot become ready inventory.
    .returned (.unsafeConflict .partialRead .evidenceLimit)
  else if ∃ candidate ∈ candidates, coordinateOf candidate = none then
    .returned (.unsafeConflict coverage .malformedAssignment)
  else match examine P (byCoordinate candidates) [] with
    | .malformed => .returned (.unsafeConflict coverage .malformedAssignment)
    | .marked current => .retaining coverage current
    | .clear tupleCandidates =>
      .scoping {
        signedProductEvent := event
        source := source
        coverage := coverage
        candidates := candidates
        tupleCandidates := tupleCandidates
        scopedCache := fun _ => []
        read := (evidence.rows.map (·.signedEvent)) ++ answer.events
        before := seen
        unassigned := [] }
        (mapOf id (tupleCandidates.map (·.marketCoordinate)))

/-- The complete market-scoped context, with malformed newer revisions and deletions. -/
def Work.load (work : Work) (marketCoordinate : Text) (events : List SignedEvent) : Work :=
  { work with
    scopedCache := Function.update work.scopedCache marketCoordinate events
    read := work.read ++ events }

def Work.pushCandidates (work : Work) : Work :=
  { work with
    scopedCache := fun marketCoordinate => work.scopedCache marketCoordinate ++
      (work.tupleCandidates.filter fun candidate =>
        decide (candidate.marketCoordinate = marketCoordinate)).flatMap fun candidate =>
          work.candidates.filter fun event =>
            decide (coordinateOf event = some candidate.coordinate) }

inductive ResolvedState where
  | active
  | removed
  | missing
  | malformed
  | deleted
  | conflicting
  | incomplete
  deriving DecidableEq

/-- What `readEventMarketAssignment` answers. -/
structure AssignmentRead where
  assignment : Option Revision
  state : ResolvedState
  coverage : Coverage

def IsCandidateScoped (candidate : Revision) (event : SignedEvent) : Prop :=
  P.isValidSignedEvent event = true ∧ event.pubkey = candidate.merchantPubkey ∧
    (event.kind = 5 ∨ event.kind = 30410 ∧ ∃ tag ∈ event.tags, tag[0]? = some "d".toList ∧
      ∃ d ∈ tag[1]?, candidate.coordinate = ("30410:" : Text) ++
        candidate.merchantPubkey ++ ":" ++ d)
  deriving Decidable

def Resolves (candidate : Revision) (known : List SignedEvent) (resolved : AssignmentRead) : Prop :=
  match resolved.assignment with
  | none => resolved.state ≠ .active ∧ resolved.state ≠ .removed
  | some assignment =>
    parseRevision P assignment.signedEvent = some assignment ∧
      assignment.coordinate = candidate.coordinate ∧
      assignment.marketCoordinate = candidate.marketCoordinate ∧
      assignment.occurrenceCoordinate = candidate.occurrenceCoordinate ∧
      assignment.productCoordinate = productCoordinate ∧
      resolved.state = (match assignment.state with
        | .active => ResolvedState.active
        | .removed => .removed) ∧
      assignment.signedEvent ∈ known ∧
      ∀ event ∈ known, event.kind = 30410 → IsCandidateScoped P candidate event →
        0 ≤ compareReplaceableEventFrontiers assignment.signedEvent event

instance (candidate : Revision) (known : List SignedEvent) (resolved : AssignmentRead) :
    Decidable (Resolves P productCoordinate candidate known resolved) := by
  unfold Resolves; split <;> infer_instance

def Work.retain (work : Work) (candidate : Revision) (fetched : List SignedEvent)
    (coverage : Coverage) : Work :=
  let scope := work.scopedCache candidate.marketCoordinate
  { work with
    coverage := mergeCoverage work.coverage coverage
    scopedCache := Function.update work.scopedCache candidate.marketCoordinate
      (if fetched = [] then scope else uniqueEvents (scope ++ fetched))
    read := work.read ++ fetched }

def Work.mergeCoverage (work : Work) (coverage : Coverage) : Work :=
  { work with coverage := Markets.mergeCoverage work.coverage coverage }

def recoveredAssignment (assignment : Revision) (endMs : Int) (terminal : Bool) : Assignment where
  coordinate := assignment.coordinate
  merchantPubkey := merchantPubkey
  productCoordinate := productCoordinate
  marketCoordinate := assignment.marketCoordinate
  occurrenceCoordinate := assignment.occurrenceCoordinate
  inventory := assignment.inventory
  state := assignment.state
  fulfillmentMethods := assignment.fulfillmentMethods
  occurrenceEndMs := endMs
  terminal := terminal
  organizerStockHold := none
  revision := 0
  signedAssignmentEventId := some assignment.eventId
  publicationJobs := []

def observesMarker (candidate : Revision) (scope : List SignedEvent) : Prop :=
  ∃ observed ∈ (newest (scope.filter fun event =>
      decide (coordinateOf event = some candidate.coordinate))).bind (parseRevision P),
    requiresOrganizerStockRecovery observed.toParsedAssignment
  deriving Decidable

def resolvedCall (work : Work) (candidate : Revision) (resolved : AssignmentRead)
    (pending : List Revision) (recovered : List Assignment) : Call :=
  if observesMarker P candidate (work.scopedCache candidate.marketCoordinate) then
    -- Even deleting that assignment does not prove its private pool reconciled.
    .returned (.unsafeConflict work.coverage .organizerStockRecoveryRequired)
  else if resolved.state = .conflicting ∨ resolved.state = .malformed ∨
      resolved.state = .incomplete ∨ resolved.state = .missing then
    .returned (.unsafeConflict work.coverage .assignmentConflict)
  else match resolved.assignment with
    | none =>
      .resolving { work with unassigned := work.unassigned ++ [candidate.coordinate] }
        pending recovered
    | some assignment =>
      if requiresOrganizerStockRecovery assignment.toParsedAssignment then
        .returned (.unsafeConflict work.coverage .organizerStockRecoveryRequired)
      else if assignment.state = .removed then
        .resolving (work.mergeCoverage .complete) pending (recovered ++
          [recoveredAssignment merchantPubkey productCoordinate assignment endlessMs false])
      else .asking work assignment pending recovered

def freshProduct (work : Work) : Product where
  coordinate := productCoordinate
  merchantPubkey := merchantPubkey
  stock := work.source.stock
  revision := 0
  sourceProductEvent := work.signedProductEvent
  signedProductEvent := work.signedProductEvent
  publicationJobs := []

def allocationConflict (stock : Option Int) (recovered : List Assignment) (now : Int) :
    Option ConflictReason :=
  let active := recovered.filter fun a => decide (a.state = .active)
  if ∃ a ∈ active, ¬(a.inventory.IsTracked ↔ stock.isSome = true) then some .trackingMismatch
  else if ∃ n ∈ stock, n < (active.map fun a => a.liveAllocation now).sum then some .overallocated
  else none

def committed (s : State) (i : Nat) (work : Work) (recovered : List Assignment)
    (now : Int) : State :=
  match allocationConflict work.source.stock recovered now with
  | some reason => s.setCall i (.returned (.unsafeConflict work.coverage reason))
  | none =>
    match s.products.get productCoordinate with
    | some current => s.setCall i (.returned (.ready work.coverage current 0 true))
    | none =>
      if ∃ a ∈ recovered, (s.assignments.get a.coordinate).isSome = true then s.setCall i .threw
      else
        let product := freshProduct merchantPubkey productCoordinate work
        { s.setCall i (.returned (.ready work.coverage product recovered.length false)) with
          products := s.products.put product
          assignments := s.assignments.putAll recovered }

/-- What a call does between two of its waits, with what it waited for. -/
inductive Action where
  | start (i : Nat) (signedProductEvent : SignedEvent)
  | observe (i : Nat) (plan : Option Bool) (answer : ReadResult)
  | retain (i : Nat) (now : Int)
  | load (i : Nat)
  | resolve (i : Nat) (fetched : List SignedEvent) (resolved : AssignmentRead) (now : Int)
  | ask (i : Nat)
  | date (i : Nat) (reads : OccurrenceReads) (now : Int)
  | commit (i : Nat) (now : Int)
  /-- The session changed, or a read of the device failed. -/
  | stop (i : Nat)

def act (s : State) : Action → Option State
  | .start i event =>
    match s.calls i with
    | none => some (s.setCall i (startedCall P merchantPubkey productCoordinate s.products event))
    | some _ => none
  | .observe i plan answer =>
    match s.calls i with
    | some (.reading event source) =>
      let call := observedCall P merchantPubkey productCoordinate event source plan
        answer s.evidence
        s.seen
      some { s.setCall i call with
        seen := s.seen ++ ((s.evidence.rows.map (·.signedEvent)) ++ answer.events) }
    | _ => none
  | .retain i now =>
    match s.calls i with
    | some (.retaining coverage current) =>
      some { s.setCall i
          (.returned (.unsafeConflict coverage .organizerStockRecoveryRequired)) with
        evidence := retainEvents now current.marketCoordinate [current.signedEvent] s.evidence }
    | _ => none
  | .load i =>
    match s.calls i with
    | some (.scoping work (marketCoordinate :: markets)) =>
      let events := retainedEvents s.evidence marketCoordinate
      some { s.setCall i (.scoping (work.load marketCoordinate events) markets) with
        seen := s.seen ++ events }
    | some (.scoping work []) =>
      some (s.setCall i (.resolving work.pushCandidates work.tupleCandidates []))
    | _ => none
  | .resolve i fetched resolved now =>
    match s.calls i with
    | some (.resolving work (candidate :: pending) recovered) =>
      if (∀ event ∈ fetched, IsCandidateScoped P candidate event) ∧
        Resolves P productCoordinate candidate
          (work.scopedCache candidate.marketCoordinate ++ fetched) resolved then
        let call := resolvedCall P merchantPubkey productCoordinate
          (work.retain candidate fetched resolved.coverage) candidate resolved pending recovered
        some { s.setCall i call with
          evidence := retainEvents now candidate.marketCoordinate fetched s.evidence
          seen := s.seen ++ fetched }
      else none
    | _ => none
  | .ask i =>
    match s.calls i with
    | some (.asking work assignment pending recovered) =>
      let retained := retainedEvents s.evidence assignment.marketCoordinate
      some (s.setCall i (.dating work assignment retained pending recovered))
    | _ => none
  | .date i reads now =>
    match s.calls i with
    | some (.dating work assignment retained pending recovered) =>
      let (lifecycle, relevant) := occurrenceState P assignment.toParsedAssignment retained reads
      some { s.setCall i (.resolving (work.mergeCoverage lifecycle.coverage) pending (recovered ++
          [recoveredAssignment merchantPubkey productCoordinate assignment lifecycle.endMs
            lifecycle.terminal])) with
        evidence := retainEvents now assignment.marketCoordinate relevant s.evidence }
    | _ => none
  | .commit i now =>
    match s.calls i with
    | some (.resolving work [] recovered) =>
      some (committed merchantPubkey productCoordinate s i work recovered now)
    | _ => none
  | .stop i =>
    match s.calls i with
    | none | some (.retaining _ _) | some (.returned _) | some .threw => none
    | some _ => some (s.setCall i .threw)

end

end Conduit.Markets
