import Conduit.Js.Map
import Conduit.Stock.Records

namespace Conduit.Inbox

open Js Stock

def pageLimit : Nat := 50

def boundaryLimit : Nat := 512

structure HistoryPlatform where
  /-- `isValidSignedPublicNostrEvent`. -/
  isValidSignedEvent : SignedEvent → Bool
  /-- `a.localeCompare(b) <= 0`. -/
  localeLe : Text → Text → Bool

inductive Transport where
  | nip17
  | nip04Incoming
  | nip04Outgoing
  deriving DecidableEq

inductive Coverage where
  | complete
  | partly
  | unavailable
  deriving DecidableEq

inductive QueryStatus where
  | success
  | partly
  | unavailable
  | aborted
  deriving DecidableEq

inductive SourceStatus where
  | success
  | partly
  | failed
  | aborted
  deriving DecidableEq

structure RelaySource where
  status : SourceStatus
  (eventCount malformedCount unusableCount : Nat)

structure InboxRead where
  events : List SignedEvent
  coverage : Coverage
  status : QueryStatus
  (attemptedCount completedCount failedCount : Nat)
  relays : List RelaySource
  observations : List (Text × Nat)

structure HistoryCursor where
  relayUrl : Text
  untilAt : Int
  sessionScope : Text

inductive PageStatus where
  | advanced
  | sourceEose
  | partly
  | unavailable
  | capped
  deriving DecidableEq

structure RangeEvidence where
  relayUrl : Text
  /-- Inclusive range; `since` is never bound. -/
  untilAt : Option Int
  eose : Bool
  saturated : Bool
  observedCount : Nat

structure PageResult where
  status : PageStatus
  visitedCount : Nat
  nextCursor : Option HistoryCursor
  range : RangeEvidence

structure PageOptions where
  principalPubkey : Text
  transport : Option Transport
  relayUrl : Text
  (authorizedRelayUrls declaredRelayUrls : Option (List Text))
  /-- `authorization.sessionScope`. -/
  sessionScope : Text
  cursor : Option HistoryCursor

def PageOptions.principal (options : PageOptions) : Text :=
  toLowerCase (trim options.principalPubkey)

def PageOptions.untilAt (options : PageOptions) : Option Int :=
  options.cursor.map (·.untilAt)

structure ReadAnswer where
  read : InboxRead
  streamed : List SignedEvent

/-- What happens when the next selected event comes up. -/
inductive VisitAnswer where
  | stale
  | expired
  /-- The event is passed to `visit`. -/
  | failed
  | visited

/-- The readers' answers (`none` where one throws), and what happens at each visit. -/
structure PageAnswers where
  starts : Bool
  page : Option ReadAnswer
  boundary : Int → Option ReadAnswer
  visits : Nat → VisitAnswer

/-- The events that were passed to `visit`, and the result; `none` where the call throws. -/
structure PageRun where
  visited : List SignedEvent
  result : Option PageResult

section
variable (P : HistoryPlatform) (options : PageOptions)

def WithinRange (since untilAt : Option Int) (event : SignedEvent) : Prop :=
  (∀ n ∈ since, n ≤ event.createdAt) ∧ ∀ n ∈ untilAt, event.createdAt ≤ n
  deriving Decidable

def recipientTags (event : SignedEvent) : List (List Text) :=
  event.tags.filter fun tag => tag[0]? = some ("p" : Text)

def IsValidHistoryEvent (principal : Text) (transport : Option Transport)
    (since untilAt : Option Int) (event : SignedEvent) : Prop :=
  event.kind = (if transport = none ∨ transport = some .nip17 then 1059 else 4) ∧
    P.isValidSignedEvent event = true ∧ (recipientTags event).length = 1 ∧
    (if transport = some .nip04Outgoing then event.pubkey = principal
      else ∃ tag ∈ recipientTags event, tag[1]? = some principal) ∧
    WithinRange since untilAt event

instance (principal : Text) (transport : Option Transport) (since untilAt : Option Int)
    (event : SignedEvent) :
    Decidable (IsValidHistoryEvent P principal transport since untilAt event) := by
  unfold IsValidHistoryEvent; split <;> infer_instance

def IsCompleteProtectedInboxRead (read : InboxRead) (limit : Nat) (principal : Text)
    (since untilAt : Option Int) (transport : Option Transport) : Prop :=
  read.coverage = .complete ∧ read.status = .success ∧ read.attemptedCount = 1 ∧
    read.completedCount = 1 ∧ read.failedCount = 0 ∧
    (∃ relay, read.relays = [relay] ∧ relay.status = .success ∧
      relay.eventCount = read.events.length ∧ relay.malformedCount = 0 ∧
      relay.unusableCount = 0) ∧
    (("eose" : Text), 0) ∈ read.observations ∧ read.events.length ≤ limit ∧
    ∀ event ∈ read.events, IsValidHistoryEvent P principal transport since untilAt event

instance (relays : List RelaySource) (p : RelaySource → Prop) [DecidablePred p] :
    Decidable (∃ relay, relays = [relay] ∧ p relay) :=
  match relays with
  | [] => isFalse (by simp)
  | [relay] => decidable_of_iff (p relay) (by simp)
  | _ :: _ :: _ => isFalse (by simp)

instance (read : InboxRead) (limit : Nat) (principal : Text) (since untilAt : Option Int)
    (transport : Option Transport) :
    Decidable (IsCompleteProtectedInboxRead P read limit principal since untilAt transport) := by
  unfold IsCompleteProtectedInboxRead; infer_instance

def streamedEvents (limit : Nat) (since untilAt : Option Int) (events : List SignedEvent) :
    List SignedEvent :=
  events.foldl
    (fun streamed event =>
      if streamed.length < limit ∧ event.id ∉ streamed.map (·.id) ∧
          IsValidHistoryEvent P options.principal options.transport since untilAt event then
        streamed ++ [event]
      else streamed) []

/-- Streamed positives never synthesize an end or repair incomplete counters. -/
def retainedEvents (limit : Nat) (since untilAt : Option Int) (answer : ReadAnswer) :
    List SignedEvent :=
  (answer.read.events.take limit ++
      streamedEvents P options limit since untilAt answer.streamed).foldl
    (fun retained event =>
      if retained.length < limit ∧
          IsValidHistoryEvent P options.principal options.transport since untilAt event then
        mapSet (·.id) retained event
      else retained) []

/-- `readPage`: the read, and whether it is complete. -/
def readPage (limit : Nat) (since untilAt : Option Int) (answer : ReadAnswer) : InboxRead × Bool :=
  if IsCompleteProtectedInboxRead P answer.read limit options.principal since untilAt
      options.transport then
    (answer.read, true)
  else if streamedEvents P options limit since untilAt answer.streamed = [] then
    (answer.read, false)
  else ({ answer.read with events := retainedEvents P options limit since untilAt answer }, false)

inductive VisitEnd where
  | threw
  | expired
  | finished

def visitEvents (visits : Nat → VisitAnswer) :
    Nat → List SignedEvent → List SignedEvent × Nat × VisitEnd
  | n, [] => ([], n, .finished)
  | n, event :: events =>
    match visits n with
    | .stale => ([], n, .threw)
    | .expired => ([], n, .expired)
    | .failed => ([event], n, .threw)
    | .visited =>
      let rest := visitEvents visits (n + 1) events
      (event :: rest.1, rest.2)

variable (visits : Nat → VisitAnswer)

def retainIncomplete (range : RangeEvidence) (status : PageStatus)
    (events : List SignedEvent) : PageRun :=
  let selected := mapOf (·.id) ((events.take (pageLimit + boundaryLimit)).filter
    fun event =>
      IsValidHistoryEvent P options.principal options.transport none options.untilAt event)
  let run := visitEvents visits 0 selected
  { visited := run.1
    result := match run.2.2 with
      | .threw => none
      | .expired | .finished => some {
        status := status
        visitedCount := run.2.1
        nextCursor := options.cursor
        range := { range with observedCount := selected.length } } }

def newestFirst (a b : SignedEvent) : Bool :=
  decide (b.createdAt < a.createdAt) || (decide (a.createdAt = b.createdAt) && P.localeLe a.id b.id)

def visitSelected (range : RangeEvidence)
    (selected : List SignedEvent) (nextUntil : Option Int) : PageRun :=
  let run := visitEvents visits 0 (selected.mergeSort (newestFirst P))
  { visited := run.1
    result := match run.2.2, nextUntil with
      | .threw, _ => none
      | .expired, _ => some {
        status := .partly
        visitedCount := run.2.1
        nextCursor := options.cursor
        range := range }
      | .finished, none => some {
        status := .sourceEose
        visitedCount := run.2.1
        nextCursor := none
        range := range }
      | .finished, some nextUntil => some {
        status := .advanced
        visitedCount := run.2.1
        nextCursor := some {
          sessionScope := options.sessionScope
          relayUrl := options.relayUrl
          untilAt := nextUntil }
        range := range } }

/-- `Math.min(...selected.map((event) => event.created_at))`. -/
def oldest (events : List SignedEvent) : Int :=
  ((events.map (·.createdAt)).min?).getD 0

/-- A full page gets a separate inclusive read of its oldest second. -/
def visitBoundary (answers : PageAnswers) (range : RangeEvidence) (selected : List SignedEvent)
    (boundaryAt : Int) : PageRun :=
  match answers.boundary boundaryAt with
  | none => { visited := [], result := none }
  | some answer =>
    let (boundary, complete) :=
      readPage P options boundaryLimit (some boundaryAt) (some boundaryAt) answer
    if boundary.coverage = .unavailable then
      retainIncomplete P options answers.visits range .unavailable (selected ++ boundary.events)
    else if complete = false then
      retainIncomplete P options answers.visits range .partly (selected ++ boundary.events)
    else if ∃ relay ∈ boundary.relays.head?, boundaryLimit ≤ relay.eventCount then
      retainIncomplete P options answers.visits range .capped (selected ++ boundary.events)
    else if ∃ event ∈ selected, event.createdAt = boundaryAt ∧
        event.id ∉ boundary.events.map (·.id) then
      retainIncomplete P options answers.visits range .capped (selected ++ boundary.events)
    else
      let all := mapOf (·.id) (selected ++ boundary.events)
      let range := { range with observedCount := all.length }
      if boundaryAt > 0 then
        if ∃ untilAt ∈ options.untilAt, untilAt ≤ boundaryAt - 1 then
          retainIncomplete P options answers.visits range .capped (all ++ boundary.events)
        else visitSelected P options answers.visits range all (some (boundaryAt - 1))
      else visitSelected P options answers.visits range all none

def ValidCursor : Prop :=
  ∀ cursor ∈ options.cursor, cursor.sessionScope = options.sessionScope ∧
    cursor.relayUrl = options.relayUrl ∧ IsSafeInteger cursor.untilAt ∧ 0 ≤ cursor.untilAt
  deriving Decidable

/-- Visit one bounded time window on one authorized recipient inbox. Full pages get a separate
inclusive timestamp-boundary read before the cursor descends. A cap, malformed response,
interruption, or stalled boundary leaves the cursor unchanged, so no timestamp is silently skipped.
`sourceEose` is only a relay and range observation, never all-history proof. -/
def visitProtectedInboxHistoryPage (answers : PageAnswers) : PageRun :=
  let range : RangeEvidence := {
    relayUrl := options.relayUrl
    untilAt := options.untilAt
    eose := false
    saturated := false
    observedCount := 0 }
  if answers.starts = false ∨
      options.relayUrl ∉ (options.authorizedRelayUrls.or options.declaredRelayUrls).getD [] ∨
      ¬ ValidCursor options then
    { visited := [], result := none }
  else
    match answers.page with
    | none => { visited := [], result := none }
    | some answer =>
      let (page, complete) := readPage P options pageLimit none options.untilAt answer
      if page.coverage = .unavailable then
        retainIncomplete P options answers.visits range .unavailable page.events
      else if complete = false then
        retainIncomplete P options answers.visits range .partly page.events
      else
        let saturated := decide (∃ relay ∈ page.relays.head?, pageLimit ≤ relay.eventCount)
        let range := { range with
          eose := true
          observedCount := page.events.length
          saturated := saturated }
        if saturated then visitBoundary P options answers range page.events (oldest page.events)
        else visitSelected P options answers.visits range page.events none

end

end Conduit.Inbox
