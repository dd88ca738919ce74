import Conduit.Social.ContactLists

namespace Conduit.Social

open Js CheckoutSpark Runs Function

structure Update where
  targetPubkey : Text
  shouldFollow : Bool
  app : AppDefinition
  deriving DecidableEq

/-- A call in a tab, of `readLatestFollowLists` if there is no update; `id` tells calls apart. -/
structure Call where
  (id tab : Nat)
  update : Option Update
  deriving DecidableEq

def Call.Ok (c : Call) : Prop := ∀ u, c.update = some u → IsHex64 u.targetPubkey
  deriving Decidable

/-- Why a snapshot is persisted. -/
inductive Purpose where
  | observing (read : FollowListAuthorRead) (observed : ListEvent)
  | storing (update : Update) (read : FollowListAuthorRead) (base : Option ListEvent)
  | acknowledging
  deriving DecidableEq

/-- `expectedBaseEvent`. -/
def Purpose.expectedBase : Purpose → Option (Option ListEvent)
  | .storing _ _ base => some base
  | _ => none

def Purpose.required : Purpose → Bool
  | .storing .. => true
  | _ => false

/-- What a call awaits. -/
inductive Phase where
  | fetching
  | loading (answer : RelayAnswer) (now : Int)
  | admitting (answer : RelayAnswer) (now : Int) (stored : Option Snapshot)
  | getting (snapshot : Snapshot) (purpose : Purpose)
  | verifying (snapshot : Snapshot) (purpose : Purpose) (before : Option Snapshot)
  | committing (snapshot : Snapshot) (purpose : Purpose) (before : Option Snapshot)
    (verified : Bool)
  | signing (update : Update) (read : FollowListAuthorRead) (base : Option ListEvent)
    (createdAt : Int) (tags : List (List Text)) (content : Text)
  | publishing (event : ListEvent)
  | acking (event : ListEvent)
  deriving DecidableEq

structure Store where
  event : ListEvent
  update : Update
  read : FollowListAuthorRead
  base : Option ListEvent
  before : Option Snapshot

structure Lists where
  row : Option Snapshot
  memory : Nat → Option Snapshot
  running : Call → Option Phase
  stores : List Store
  handed : List ListEvent

def Lists.start : Lists := ⟨none, fun _ => none, fun _ => none, [], []⟩

def setPhase (s : Lists) (c : Call) (phase : Option Phase) : Lists :=
  { s with running := update s.running c phase }

/-- `rememberOwnContactListSnapshot`. -/
def remember (s : Lists) (tab : Nat) (snapshot : Snapshot) : Lists :=
  { s with
    memory := update s.memory tab
      (some (chooseStrongestOwnContactListSnapshot (s.memory tab) snapshot)) }

def strongestOwner (read : FollowListAuthorRead) : Option (ListEvent × ReadSnapshotState) :=
  match read.ownerSafetySnapshot with
  | some snapshot => some (snapshot.event, snapshot.state.toRead)
  | none => read.event.map fun e => (e, read.snapshotState)

variable (P : SocialPlatform)

/-- What follows the read in `publishContactListUpdate`. -/
def decideUpdate (u : Update) (read : FollowListAuthorRead) (now : Int) : Option Phase :=
  match (strongestOwner read).filter fun x =>
      decide (Follows (some x.1) u.targetPubkey) == u.shouldFollow with
  | some (event, state) => if state = .pending then some (.publishing event) else none
  | none =>
    match requirePublishableContactListSnapshot P read with
    | none => none
    | some latest =>
      if latest = none ∧ u.shouldFollow = false then none
      else some (.signing u read latest
        (max now ((latest.map (·.createdAt)).getD (-1) + 1))
        (appendConduitClientTag (buildContactListUpdateTags ((latest.map (·.tags)).getD [])
          u.targetPubkey u.shouldFollow) u.app)
        ((latest.map (·.content)).getD []))

variable (s : Lists)

variable (c : Call)

def finishRead (read : FollowListAuthorRead) (now : Int) : Lists :=
  setPhase s c (c.update.bind fun u => decideUpdate P u read now)

/-- What `loadOwnContactListSnapshot` chooses, once the stored list is verified. -/
def chooseLoaded (tab : Nat) : Option Snapshot → Option Snapshot
  | some snapshot => some (chooseStrongestOwnContactListSnapshot (s.memory tab) snapshot)
  | none => s.memory tab

def rememberLoaded (tab : Nat) : Option Snapshot → Lists
  | some snapshot => remember s tab snapshot
  | none => s

/-- The rest of `preserveStrongestOwnFollowList`, when it has what is retained. -/
def preserve (a : RelayAnswer) (readAt now : Int) (retained : Option Snapshot) : Lists :=
  match (networkSnapshot a readAt).filter fun observed =>
      decide ((chooseStrongestOwnContactListSnapshot retained observed).event.id =
        observed.event.id) with
  | some observed =>
    setPhase s c (some (.getting observed (.observing (authorRead a readAt) observed.event)))
  | none => finishRead P s c (withRetained (authorRead a readAt) retained now) now

def loaded (a : RelayAnswer) (readAt now : Int) (stored : Option Snapshot) : Lists :=
  let chosen := chooseLoaded s c.tab stored
  let s := rememberLoaded s c.tab chosen
  preserve P s c a readAt now (chosen.bind fun _ => s.memory c.tab)

/-- What follows `persistOwnContactListSnapshot` when it returns `persisted`. -/
def afterPersist (snapshot persisted : Snapshot) (purpose : Purpose) (now : Int) : Lists :=
  match purpose with
  | .observing read observed => finishRead P s c (withPersisted read observed persisted now) now
  | .storing .. => setPhase s c
    (if persisted.event.id = snapshot.event.id then some (.publishing snapshot.event) else none)
  | .acknowledging => setPhase s c none

/-- The transaction of `persistOwnContactListSnapshot`, and what follows when it fails. -/
def commit (snapshot : Snapshot) (purpose : Purpose)
    (before : Option Snapshot) (verified succeeds : Bool) (now : Int) : Lists :=
  let chosen := (chooseAfterBaseCheck before s.row verified purpose.expectedBase snapshot).filter
    fun _ => succeeds
  match chosen with
  | some chosen =>
    let stores := match purpose with
      | .storing update read base =>
        if chosen.event = snapshot.event then
          s.stores ++ [⟨snapshot.event, update, read, base, s.row⟩] else s.stores
      | _ => s.stores
    let t := remember { s with row := some chosen, stores } c.tab chosen
    afterPersist P t c snapshot ((t.memory c.tab).getD chosen) purpose now
  | none =>
    if purpose.required = true then setPhase s c none
    else
      let t := remember s c.tab snapshot
      afterPersist P t c snapshot ((t.memory c.tab).getD snapshot) purpose now

inductive Event where
  | begins (c : Call)
  | answers (c : Call) (answer : RelayAnswer) (now : Int)
  | loads (c : Call) (succeeds : Bool)
  | admits (c : Call) (verified : Bool) (now : Int)
  | gets (c : Call)
  | verifies (c : Call) (verified : Bool)
  | commits (c : Call) (succeeds : Bool) (now : Int)
  | signs (c : Call) (event : ListEvent) (now : Int)
  | hands (c : Call)
  | acks (c : Call) (relayUrls : List Text) (now : Int)
  | stops (c : Call)
  | forgets (tab : Nat)

def act : Event → Option Lists
  | .begins c => do
    guard (s.running c = none ∧ c.Ok)
    some (setPhase s c (some .fetching))
  | .answers c answer now => do
    guard (s.running c = some .fetching ∧
      ∀ f, answer.fetched = some f → ∀ e ∈ f.verifiedContactLists, Verified P e)
    some (setPhase s c (some (.loading answer now)))
  | .loads c succeeds =>
    match s.running c with
    | some (.loading answer now) =>
      some (setPhase s c (some (.admitting answer now (s.row.filter fun _ => succeeds))))
    | _ => none
  | .admits c verified now =>
    match s.running c with
    | some (.admitting answer readAt stored) =>
      if stored.isSome = true ∧ verified = false then
        some (finishRead P s c (withoutRetained (authorRead answer readAt)) now)
      else some (loaded P s c answer readAt now stored)
    | _ => none
  | .gets c =>
    match s.running c with
    | some (.getting snapshot purpose) =>
      some (setPhase s c (some (.verifying snapshot purpose s.row)))
    | _ => none
  | .verifies c verified =>
    match s.running c with
    | some (.verifying snapshot purpose before) =>
      some (setPhase s c (some (.committing snapshot purpose before verified)))
    | _ => none
  | .commits c succeeds now =>
    match s.running c with
    | some (.committing snapshot purpose before verified) =>
      some (commit P s c snapshot purpose before verified succeeds now)
    | _ => none
  | .signs c event now =>
    match s.running c with
    | some (.signing update read base createdAt tags content) => do
      guard (Verified P event ∧ event.createdAt = createdAt ∧ event.tags = tags ∧
        event.content = content)
      some (setPhase s c (some (.getting ⟨event, [], .pending, now⟩ (.storing update read base))))
    | _ => none
  | .hands c =>
    match s.running c with
    | some (.publishing event) =>
      some { setPhase s c (some (.acking event)) with handed := s.handed ++ [event] }
    | _ => none
  | .acks c relayUrls now =>
    match s.running c with
    | some (.acking event) => do
      guard (relayUrls ≠ [])
      some (setPhase s c (some (.getting ⟨event, relayUrls, .observed, now⟩ .acknowledging)))
    | _ => none
  | .stops c => some (setPhase s c none)
  | .forgets tab => some { s with memory := update s.memory tab none }

end Conduit.Social
