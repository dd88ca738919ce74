import Conduit.CheckoutSpark.Plan
import Conduit.Runs

namespace Conduit.Social

open Js CheckoutSpark

structure ListEvent where
  id : Text
  createdAt : Int
  tags : List (List Text)
  (content sig : Text)
  deriving DecidableEq

structure SocialPlatform where
  /-- The hash of a list with this time, these tags and this content. -/
  eventId : Int → List (List Text) → Text → Text
  normalizePublicWebSocketUrl : Text → Option Text

def Verified (P : SocialPlatform) (e : ListEvent) : Prop :=
  e.id = P.eventId e.createdAt e.tags e.content
  deriving Decidable

def normalizeHexPubkey (value : Option Text) : Option Text :=
  (value.map fun v => toLowerCase (trim v)).filter fun v => decide (IsHex64 v)

def followOf (tag : List Text) : Option Text :=
  if tag[0]? = some "p".toList then normalizeHexPubkey tag[1]? else none

def extractFollowPubkeys (tags : List (List Text)) : List Text :=
    (tags.filterMap followOf).eraseDups

/-- `getFollowListPubkeySet(event).has(pubkey)`. -/
def Follows (e : Option ListEvent) (pubkey : Text) : Prop :=
  pubkey ∈ extractFollowPubkeys ((e.map ListEvent.tags).getD [])
  deriving Decidable

def buildContactListUpdateTags (currentTags : List (List Text)) (targetPubkey : Text)
    (shouldFollow : Bool) : List (List Text) :=
  let alreadyFollowing := decide (targetPubkey ∈ extractFollowPubkeys currentTags)
  if shouldFollow = true ∧ alreadyFollowing = false then
    currentTags ++ [["p".toList, targetPubkey]]
  else if shouldFollow = false ∧ alreadyFollowing = true then
    currentTags.filter fun tag => decide (followOf tag ≠ some targetPubkey)
  else currentTags

/-- `getConduitNip89AppDefinition`, with `getConduitNip89HandlerAddress`. -/
structure AppDefinition where
  (name dTag : Text)
  address : Option Text
  relayHint : Text
  deriving DecidableEq

def isConduitClientTagForApp (app : AppDefinition) (tag : List Text) : Bool :=
  decide (tag[0]? = some "client".toList) &&
    (decide (tag[1]? = some app.name) ||
      (tag[2]?.any fun address => (':' :: app.dTag).isSuffixOf address))

def appendConduitClientTag (tags : List (List Text)) (app : AppDefinition) : List (List Text) :=
  let nextTags := tags.filter fun tag => !isConduitClientTagForApp app tag
  match app.address with
  | none => nextTags
  | some address => nextTags ++ [["client".toList, app.name, address, app.relayHint]]

/-- The order of `selectLatestFollowListEvent`. -/
def Stronger (a b : ListEvent) : Prop :=
  b.createdAt < a.createdAt ∨ a.createdAt = b.createdAt ∧ TextLe a.id b.id ∧ a.id ≠ b.id
  deriving Decidable

def selectLatestFollowListEvent (events : List ListEvent) : Option ListEvent :=
  events.foldl (fun best e => match best with
    | none => some e
    | some b => if Stronger e b then some e else some b) none

def isPlausibleFollowListEventTimestamp (e : ListEvent) (now : Int) : Bool :=
  decide (e.createdAt ≤ now + 300)

inductive SnapshotState where
  | observed
  | pending
  deriving DecidableEq

/-- `CachedOwnContactListSnapshot`. -/
structure Snapshot where
  event : ListEvent
  sourceRelayUrls : List Text
  state : SnapshotState
  cachedAt : Int
  deriving DecidableEq

def chooseStrongestOwnContactListSnapshot (left : Option Snapshot) (right : Snapshot) : Snapshot :=
  match left with
  | none => right
  | some left =>
    if left.event = right.event then
      { event := right.event
        sourceRelayUrls := (left.sourceRelayUrls ++ right.sourceRelayUrls).eraseDups
        state := if left.state = .observed ∨ right.state = .observed then .observed else .pending
        cachedAt := max left.cachedAt right.cachedAt }
    else if selectLatestFollowListEvent [left.event, right.event] = some right.event then right
    else left

inductive RelayReadStatus where
  | success
  | partly
  | failed
  deriving DecidableEq

structure RelayReadSourceStatus where
  relayUrl : Text
  status : RelayReadStatus
  eventCount : Nat
  rejectedEventCount : Option Nat
  deriving DecidableEq

inductive RelayListResolutionState where
  | network
  | freshCache
  | staleCache
  | missing
  | partialNetwork
  | lookupUnavailable
  deriving DecidableEq

inductive FollowListCoverageState where
  | complete
  | limited
  | unavailable
  deriving DecidableEq

inductive ReadSnapshotState where
  | none
  | network
  | observed
  | pending
  deriving DecidableEq

def SnapshotState.toRead : SnapshotState → ReadSnapshotState
  | .observed => .observed
  | .pending => .pending

structure FollowListAuthorRead where
  ownerSafetySnapshot : Option Snapshot
  event : Option ListEvent
  (eventSourceRelayUrls hintRelayUrls plannedRelayUrls : List Text)
  relays : List RelayReadSourceStatus
  verificationComplete : Bool
  coverage : FollowListCoverageState
  relayListState : RelayListResolutionState
  (relayHintTruncated capped : Bool)
  snapshotState : ReadSnapshotState
  deriving DecidableEq

structure Fetched where
  verifiedContactLists : List ListEvent
  eventSourceRelayUrls : List (Text × List Text)
  (candidateOverflow truncated allVerified : Bool)
  deriving DecidableEq

structure RelayAnswer where
  fetched : Option Fetched
  (hintRelayUrls plannedRelayUrls : List Text)
  relays : List RelayReadSourceStatus
  relayListState : RelayListResolutionState
  relayHintTruncated : Bool
  deriving DecidableEq

/-- `FOLLOW_LIST_EVENTS_PER_AUTHOR`. -/
def eventsPerAuthor : Nat := 10

variable (a : RelayAnswer)

def authorRead (now : Int) : FollowListAuthorRead :=
  match a.fetched with
  | none =>
    { ownerSafetySnapshot := none, event := none, eventSourceRelayUrls := []
      hintRelayUrls := a.hintRelayUrls, plannedRelayUrls := a.plannedRelayUrls, relays := a.relays
      verificationComplete := true, coverage := .unavailable, relayListState := a.relayListState
      relayHintTruncated := a.relayHintTruncated, capped := a.relayHintTruncated
      snapshotState := .none }
  | some f =>
    let verificationComplete := !f.candidateOverflow && !f.truncated && f.allVerified
    let responseCapped := a.relays.any fun r =>
      decide (eventsPerAuthor ≤ r.eventCount + r.rejectedEventCount.getD 0)
    let capped := a.relayHintTruncated || f.candidateOverflow || f.truncated || responseCapped
    let event := selectLatestFollowListEvent
      (f.verifiedContactLists.filter fun e => isPlausibleFollowListEventTimestamp e now)
    let relayDiscoveryComplete := decide (a.relayListState = .network ∨
      a.relayListState = .freshCache ∨ a.relayListState = .missing)
    let coverage :=
      if (a.relays.any fun r => decide (r.status ≠ .failed)) = false then
        FollowListCoverageState.unavailable
      else if verificationComplete = true ∧ relayDiscoveryComplete = true ∧ capped = false ∧
          (a.relays.all fun r => decide (r.status = .success)) = true then .complete
      else .limited
    { ownerSafetySnapshot := none, event := event
      eventSourceRelayUrls := (event.bind fun e =>
        (f.eventSourceRelayUrls.find? fun s => decide (s.1 = e.id)).map Prod.snd).getD []
      hintRelayUrls := a.hintRelayUrls, plannedRelayUrls := a.relays.map (·.relayUrl)
      relays := a.relays, verificationComplete, coverage := coverage
      relayListState := a.relayListState, relayHintTruncated := a.relayHintTruncated
      capped := capped, snapshotState := if event.isSome = true then .network else .none }

def observedOwnerFrontier : Option (ListEvent × List Text) :=
  a.fetched.bind fun f => (selectLatestFollowListEvent f.verifiedContactLists).map fun e =>
    (e, ((f.eventSourceRelayUrls.find? fun s => decide (s.1 = e.id)).map Prod.snd).getD [])

/-- The list that `preserveStrongestOwnFollowList` offers to be retained. -/
def networkSnapshot (now : Int) : Option Snapshot :=
  let read := authorRead a now
  match observedOwnerFrontier a with
  | some (event, sourceRelayUrls) => some ⟨event, sourceRelayUrls, .observed, now⟩
  | none => (read.event.filter fun _ => read.verificationComplete).map fun event =>
    ⟨event, read.eventSourceRelayUrls, .observed, now⟩

variable (read : FollowListAuthorRead)

def withRetained (retainedWinner : Option Snapshot) (now : Int) : FollowListAuthorRead :=
  match retainedWinner with
  | none => read
  | some winner =>
    if isPlausibleFollowListEventTimestamp winner.event now = false then
      { read with ownerSafetySnapshot := some winner, coverage := .limited }
    else
      { read with
        event := some winner.event
        eventSourceRelayUrls := winner.sourceRelayUrls
        verificationComplete := true
        coverage := .limited
        snapshotState := winner.state.toRead }

/-- The read after the observed list was retained as `persisted`. -/
def withPersisted (observed : ListEvent) (persisted : Snapshot)
    (now : Int) : FollowListAuthorRead :=
  if read.verificationComplete = true ∧ read.event.map (·.id) = some observed.id ∧
      read.event.map (·.id) = some persisted.event.id then
    { read with
      event := some persisted.event
      eventSourceRelayUrls := persisted.sourceRelayUrls
      snapshotState := .network }
  else withRetained read (some persisted) now

def withoutRetained : FollowListAuthorRead :=
  { read with
    verificationComplete := false
    coverage := if read.event.isSome = true then .limited else .unavailable }

def succeeded (relayUrl : Text) : Bool :=
  read.relays.any fun r => decide (r.relayUrl = relayUrl) && decide (r.status = .success)

def emptyRelay (r : RelayReadSourceStatus) : Bool :=
  decide (r.status = .success) && decide (r.eventCount = 0) && decide
    (r.rejectedEventCount = some 0)

def hasCurrentRelayDiscovery : Bool :=
  decide (read.relayListState = .network ∨ read.relayListState = .missing)

def CompleteEmptyRead : Prop :=
  read.event = none ∧ read.snapshotState = .none ∧ read.verificationComplete = true ∧
    read.coverage = .complete ∧ read.relayHintTruncated = false ∧
    hasCurrentRelayDiscovery read = true ∧ read.plannedRelayUrls ≠ [] ∧
    (read.relays.all emptyRelay) = true ∧
    (read.plannedRelayUrls.all fun url => read.relays.any fun r =>
      decide (r.relayUrl = url) && emptyRelay r) = true
  deriving Decidable

def exactOwnerLocalEvidence (P : SocialPlatform) (read : FollowListAuthorRead) : Bool :=
  decide (read.snapshotState = .network) && decide (read.coverage = .limited) &&
    !read.relayHintTruncated && !read.capped && hasCurrentRelayDiscovery read &&
    (read.eventSourceRelayUrls.any fun url => decide (url ∈ read.hintRelayUrls) &&
      (P.normalizePublicWebSocketUrl url).isNone && succeeded read url) &&
    (read.hintRelayUrls.all fun url => succeeded read url)

/-- `none` when it throws. -/
def requirePublishableContactListSnapshot (P : SocialPlatform) (read : FollowListAuthorRead) :
    Option (Option ListEvent) :=
  if read.ownerSafetySnapshot.isSome = true then none
  else if CompleteEmptyRead read then some none
  else match read.event with
    | none => none
    | some event =>
      if read.verificationComplete = true ∧
          (read.coverage = .complete ∨ exactOwnerLocalEvidence P read = true) ∧
          hasCurrentRelayDiscovery read = true ∧
          (read.relays.any fun r => decide (r.status = .success) &&
            decide (r.relayUrl ∈ read.eventSourceRelayUrls)) = true then some (some event)
      else none

def RowChanged (before current : Option Snapshot) (verified : Bool) : Prop :=
  current.isSome ≠ before.isSome ∨ current.isSome = true ∧
    (verified = true ∧ current.map (·.event) ≠ before.map (·.event) ∨
      verified = false ∧ current ≠ before)
  deriving Decidable

/-- The `expectedBaseEvent` check: `some none` where no list is known to exist. -/
def BaseHolds (current : Option Snapshot) (expectedBase : Option (Option ListEvent)) : Prop :=
  match current, expectedBase with
  | some _, some none => False
  | some row, some (some base) =>
    (selectLatestFollowListEvent [row.event, base]).map (·.id) = some base.id
  | _, _ => True

instance (current : Option Snapshot) (expectedBase : Option (Option ListEvent)) :
    Decidable (BaseHolds current expectedBase) := by
  unfold BaseHolds; split <;> infer_instance

/-- `none` when it throws. -/
def chooseAfterBaseCheck (before current : Option Snapshot) (verified : Bool)
    (expectedBase : Option (Option ListEvent)) (normalized : Snapshot) : Option Snapshot :=
  if RowChanged before current verified ∨ (before.isSome = true ∧ verified = false) ∨
      ¬ BaseHolds current expectedBase then none
  else some (chooseStrongestOwnContactListSnapshot current normalized)

end Conduit.Social
