import Conduit.ProductDelivery.Removals
import Conduit.Runs

namespace Conduit.ProductDelivery

open Js Runs Stock Throwing
open Network (sortUrls)

/-- A row of `localProductShippingOutbox`. -/
structure ShippingRow where
  (id merchantPubkey : Text)
  (relayUrls acknowledgedRelayUrls : List Text)

/-- A row of `localProductWriteIntents`. -/
structure WriteIntent where
  (listingJobId merchantPubkey : Text)
  shippingEventIds : List Text

inductive ListingPhase where
  | loaded
  | waiting (eventId relayUrl : Text)
  | admitted (eventId relayUrl : Text)
  | claimed (eventId relayUrl : Text)
  | started (eventId relayUrl : Text)
  | answering (eventId relayUrl : Text)
  | recording (eventId relayUrl : Text) (status : ListingStatus)
  deriving DecidableEq

structure ListingTask where
  run : Nat
  stored : ListingJob
  phase : ListingPhase
  deriving DecidableEq

inductive DeletionPhase where
  | loaded (stored : DeletionJob)
  | permitted
  | retired
  | settling
  | running (rest : List Text) (runStarted : Bool)
  | attempted (current : DeletionJob) (relayUrl : Text) (rest : List Text) (attemptAt : Int)
  | answering (relayUrl : Text) (rest : List Text) (attemptAt : Int)
  | recording (relayUrl : Text) (rest : List Text) (status : DeletionStatus)
  deriving DecidableEq

structure DeletionTask where
  (owner id : Text)
  (leaseMs retryDelayMs : Int)
  phase : DeletionPhase
  deriving DecidableEq

def DeletionTask.key (task : DeletionTask) : Text × Text := (task.owner, task.id)

inductive Event where
  | listingPublished (id : Text) (event : SignedEvent) (relayUrl : Text)
  | listingAcked (id eventId relayUrl : Text)
  | shippingAcked (eventId relayUrl : Text)
  | deletionPublished (id : Text) (event : SignedEvent) (relayUrl : Text)
  deriving DecidableEq

/-- `starts`: what each listing run read when it was counted. `log`: the newest event first. -/
structure Outboxes where
  clock : Int
  listings : Table ListingJob ListingJob.id
  deletions : Table DeletionJob DeletionJob.id
  shipping : Table ShippingRow ShippingRow.id
  intents : List WriteIntent
  listingRuns : List ListingTask
  starts : List (Nat × ListingJob)
  deletionRuns : Table DeletionTask DeletionTask.key
  log : List Event

def Outboxes.start : Outboxes := ⟨0, .empty, .empty, .empty, [], [], [], .empty, []⟩

/-- What `update` of the listing outbox refuses to change. -/
def SameListingIntent (next current : ListingJob) : Prop :=
  next.id = current.id ∧ next.merchantPubkey = current.merchantPubkey ∧
    next.signedEvents = current.signedEvents ∧ next.relayTargets = current.relayTargets ∧
    next.companionDeletionJobId = current.companionDeletionJobId ∧
    next.replacesRejectedListingJobId = current.replacesRejectedListingJobId ∧
    next.prerequisiteShippingEventIds = current.prerequisiteShippingEventIds
  deriving Decidable

variable (s : Outboxes)

def Outboxes.updateListing (id : Text) (f : ListingJob → ListingJob) :
    Option (ListingJob × Outboxes) := do
  let current ← s.listings.get id
  let next := f current
  guard (SameListingIntent next current)
  pure (next, { s with listings := s.listings.put next })

def Outboxes.updateDeletion (id : Text) (f : DeletionJob → Result DeletionJob) :
    Option (DeletionJob × Outboxes) := do
  let current ← s.deletions.get id
  let next ← (f current).toOption
  guard (next.id = id ∧ next.signedEvent = current.signedEvent ∧
    next.companionListingJobId = current.companionListingJobId)
  pure (next, { s with deletions := s.deletions.put next })

def eligibleAfter (job : ListingJob) (eligible : List Text) (eventId : Text) : List Text :=
  match s.shipping.get eventId with
  | none => []
  | some shipping =>
    if shipping.merchantPubkey = job.merchantPubkey ∧
        sortUrls shipping.relayUrls = sortUrls (job.relayTargets.map ListingTarget.relayUrl) ∧
        ∃ intent ∈ s.intents, intent.listingJobId = job.id ∧
          intent.merchantPubkey = job.merchantPubkey ∧ eventId ∈ intent.shippingEventIds then
      eligible.filter fun url => decide (url ∈ shipping.acknowledgedRelayUrls)
    else []

def shippingPrerequisiteEligibleRelays (job : ListingJob) : List Text :=
  job.prerequisiteShippingEventIds.foldl (eligibleAfter s job)
    (job.relayTargets.map ListingTarget.relayUrl)

def Outboxes.moveListing (task : ListingTask) (next : List ListingTask) : Outboxes :=
  { s with listingRuns := next ++ s.listingRuns.erase task }

variable (P : DeliveryPlatform)

def persistListing (input : ListingInput) (now : Int) (s : Outboxes) : Option Outboxes := do
  let job ← (prepareProductListingDeliveryJob P input now).toOption
  guard (s.listings.get job.id = none)
  pure { s with listings := s.listings.put job }

def persistDeletion (input : DeletionInput) (now : Int) (s : Outboxes) : Option Outboxes := do
  let job ← (prepareProductDeletionDeliveryJob P input now).toOption
  guard (s.deletions.get job.id = none)
  pure { s with deletions := s.deletions.put job }

/-- The update of `markProductListingDeliveryReady`. -/
def markReady (id : Text) (now : Int) (s : Outboxes) : Option Outboxes := do
  let (_, t) ← s.updateListing id fun current =>
    { current with readyForDelivery := true, updatedAt := now }
  pure t

def putShipping (row : ShippingRow) (s : Outboxes) : Outboxes :=
  { s with
    shipping := s.shipping.put row
    log := (row.acknowledgedRelayUrls.map (.shippingAcked row.id)) ++ s.log }

def loadListing (run : Nat) (id : Text) (s : Outboxes) : Option Outboxes := do
  guard ((∀ task ∈ s.listingRuns, task.run ≠ run) ∧ ∀ start ∈ s.starts, start.1 ≠ run)
  let stored ← s.listings.get id
  guard (stored.state ≠ .superseded_unpublished ∧ stored.readyForDelivery = true)
  pure { s with listingRuns := ⟨run, stored, .loaded⟩ :: s.listingRuns }

variable (task : ListingTask)

def beginListing (now retryDelayMs : Int) (s : Outboxes) : Option Outboxes := do
  guard (task ∈ s.listingRuns ∧ task.phase = .loaded)
  let eligible := shippingPrerequisiteEligibleRelays s task.stored
  guard (eligible ≠ [])
  guard (IsSignedProductFamily P task.stored.merchantPubkey task.stored.signedEvents)
  let pairs := task.stored.relayDelivery.filter fun delivery =>
    decide (IsReplayEligible task.stored delivery.eventId ∧ delivery.status.Retryable ∧
      delivery.relayUrl ∈ eligible)
  if pairs = [] then
    let (_, t) ← s.updateListing task.stored.id fun job => reconcileListing job now retryDelayMs
    pure (t.moveListing task [])
  else pure (s.moveListing task (pairs.map fun delivery =>
    { task with phase := .waiting delivery.eventId delivery.relayUrl }))

def admitPair (eventId relayUrl : Text) (s : Outboxes) : Option Outboxes := do
  guard (task ∈ s.listingRuns ∧ task.phase = .waiting eventId relayUrl)
  guard ((∃ event ∈ task.stored.signedEvents, event.id = eventId) ∧
    ∃ target ∈ task.stored.relayTargets, target.relayUrl = relayUrl)
  guard (relayUrl ∈ shippingPrerequisiteEligibleRelays s task.stored)
  pure (s.moveListing task [{ task with phase := .admitted eventId relayUrl }])

/-- `claimReplayAttempt` of a pair whose event is the current revision of its product. -/
def claimPair (eventId relayUrl : Text) (now : Int) (s : Outboxes) : Option Outboxes := do
  guard (task ∈ s.listingRuns ∧ task.phase = .admitted eventId relayUrl)
  let job ← s.listings.get task.stored.id
  guard (IsReplayEligible job eventId)
  let pair ← job.relayDelivery.find? fun delivery =>
    decide (delivery.eventId = eventId ∧ delivery.relayUrl = relayUrl)
  guard pair.status.Retryable
  let next := startedDeliveryAttempt eventId relayUrl now job
  let t := { s with listings := s.listings.put next }
  if SameListingIntent next task.stored then
    pure (t.moveListing task [{ task with phase := .claimed eventId relayUrl }])
  else pure (t.moveListing task [])

def countRun (now retryDelayMs : Int) (s : Outboxes) : Option (ListingJob × Outboxes) :=
  match s.starts.find? fun start => decide (start.1 = task.run) with
  | some start => some (start.2, s)
  | none => (s.updateListing task.stored.id (markListingRunStarted now retryDelayMs)).map fun next =>
    (next.1, { next.2 with starts := (task.run, next.1) :: next.2.starts })

def startPair (eventId relayUrl : Text) (now retryDelayMs : Int)
    (s : Outboxes) : Option Outboxes := do
  guard (task ∈ s.listingRuns ∧ task.phase = .claimed eventId relayUrl)
  let (started, t) ← countRun task now retryDelayMs s
  guard (IsReplayEligible started eventId)
  pure (t.moveListing task [{ task with phase := .started eventId relayUrl }])

def publishPair (eventId relayUrl : Text) (s : Outboxes) : Option Outboxes := do
  guard (task ∈ s.listingRuns ∧ task.phase = .started eventId relayUrl)
  let event ← task.stored.signedEvents.find? fun event => decide (event.id = eventId)
  let target ← task.stored.relayTargets.find? fun target => decide (target.relayUrl = relayUrl)
  if IsApprovedListingTarget P target then
    let t := s.moveListing task [{ task with phase := .answering eventId relayUrl }]
    pure { t with log := .listingPublished task.stored.id event target.relayUrl :: t.log }
  else pure (s.moveListing task [{ task with phase := .recording eventId relayUrl .rejected }])

def answerPair (eventId relayUrl : Text) (status : ListingStatus)
    (s : Outboxes) : Option Outboxes := do
  guard (task ∈ s.listingRuns ∧ task.phase = .answering eventId relayUrl ∧ status ≠ .pending)
  pure (s.moveListing task [{ task with phase := .recording eventId relayUrl status }])

def recordPair (eventId relayUrl : Text) (status : ListingStatus)
    (now retryDelayMs : Int) (s : Outboxes) : Option Outboxes := do
  guard (task ∈ s.listingRuns ∧ task.phase = .recording eventId relayUrl status)
  let (_, t) ← s.updateListing task.stored.id
    (markListingOutcome eventId relayUrl status now retryDelayMs)
  let acked := if status = .acked then [.listingAcked task.stored.id eventId relayUrl] else []
  pure { t.moveListing task [] with log := acked ++ t.log }

def Outboxes.moveDeletion (s : Outboxes) (task : DeletionTask) (phase : DeletionPhase) : Outboxes :=
  { s with deletionRuns := s.deletionRuns.put { task with phase := phase } }

def Outboxes.endDeletion (s : Outboxes) (task : DeletionTask) : Outboxes :=
  { s with deletionRuns := s.deletionRuns.remove task.key }

def loadDeletion (owner id : Text) (leaseMs retryDelayMs : Int) (s : Outboxes) :
    Option Outboxes := do
  guard (s.deletionRuns.get (owner, id) = none)
  let stored ← s.deletions.get id
  guard (stored.state ≠ .superseded_unpublished)
  pure { s with deletionRuns := s.deletionRuns.put ⟨owner, id, leaseMs, retryDelayMs, .loaded stored⟩ }

variable (task : DeletionTask)

/-- `isCompanionListingReady`, where the deletion has a companion. -/
def permitDeletion (stored : DeletionJob) (s : Outboxes) : Option Outboxes := do
  guard (task ∈ s.deletionRuns.rows ∧ task.phase = .loaded stored)
  guard (∀ id ∈ stored.companionListingJobId,
    IsDeliveredCompanionListingForDeletion P (s.listings.get id) stored)
  guard (IsSignedDeletion P stored.signedEvent)
  pure (s.moveDeletion task .permitted)

def retireTargets (now : Int) (s : Outboxes) : Option Outboxes := do
  guard (task ∈ s.deletionRuns.rows ∧ task.phase = .permitted ∧ s.clock ≤ now)
  let (_, t) ← s.updateDeletion task.id
    (retireUnapprovedPersistedRelayTargets P now task.retryDelayMs)
  pure { t.moveDeletion task .retired with clock := now }

def claimLease (now : Int) (forceRecovery : Bool) (s : Outboxes) : Option Outboxes := do
  guard (task ∈ s.deletionRuns.rows ∧ task.phase = .retired ∧ s.clock ≤ now)
  let (claimed, t) ← s.updateDeletion task.id fun current =>
    .ok (claimDeliveryLease task.owner now task.leaseMs forceRecovery current)
  let t := { t with clock := now }
  if claimed.state = .superseded_unpublished ∨ claimed.deliveryLeaseOwner ≠ some task.owner ∨
      ¬ IsSignedDeletion P claimed.signedEvent then
    pure (t.endDeletion task)
  else
    let outstanding := (claimed.relayDelivery.filter fun d => decide (d.status ≠ .acked)).map
      DeletionDelivery.relayUrl
    pure (t.moveDeletion task (if outstanding = [] then .settling else .running outstanding false))

/-- Nothing is outstanding: the job is brought up to date. -/
def settleDeletion (now : Int) (s : Outboxes) : Option Outboxes := do
  guard (task ∈ s.deletionRuns.rows ∧ task.phase = .settling ∧ s.clock ≤ now)
  let (_, t) ← s.updateDeletion task.id fun current =>
    .ok (reconcileDeletion now task.retryDelayMs current)
  pure { t.moveDeletion task (.running [] true) with clock := now }

variable (relayUrl : Text)

variable (rest : List Text)

/-- A relay whose rejection is too recent, or that the account no longer writes to. -/
def skipRelay (runStarted : Bool) (s : Outboxes) : Option Outboxes := do
  guard (task ∈ s.deletionRuns.rows ∧ task.phase = .running (relayUrl :: rest) runStarted)
  pure (s.moveDeletion task (.running rest runStarted))

def startDeletionRun (now : Int) (s : Outboxes) : Option Outboxes := do
  guard (task ∈ s.deletionRuns.rows ∧ task.phase = .running rest false ∧ s.clock ≤ now)
  let (_, t) ← s.updateDeletion task.id fun current =>
    .ok (markDeletionRunStarted task.owner now task.retryDelayMs current)
  pure { t.moveDeletion task (.running rest true) with clock := now }

def attemptRelay (now : Int) (s : Outboxes) : Option Outboxes := do
  guard (task ∈ s.deletionRuns.rows ∧ task.phase = .running (relayUrl :: rest) true ∧ s.clock ≤ now)
  let (current, t) ← s.updateDeletion task.id fun current =>
    .ok (markRelayAttemptStarted relayUrl task.owner now task.leaseMs current)
  let t := { t with clock := now }
  let delivery := current.relayDelivery.find? fun d => decide (d.relayUrl = relayUrl)
  if current.deliveryLeaseOwner ≠ some task.owner ∨ (∃ d ∈ delivery, d.status = .acked) then
    pure (t.moveDeletion task (.running rest true))
  else pure (t.moveDeletion task (.attempted current relayUrl rest now))

def publishDeletion (current : DeletionJob) (relayUrl : Text)
    (rest : List Text) (attemptAt : Int) (s : Outboxes) : Option Outboxes := do
  guard (task ∈ s.deletionRuns.rows ∧ task.phase = .attempted current relayUrl rest attemptAt)
  guard (IsSignedDeletion P current.signedEvent)
  let target := current.relayPlan.find? fun target => decide (target.relayUrl = relayUrl)
  if ∃ t ∈ target, IsApprovedDeletionTarget P t then
    let t := s.moveDeletion task (.answering relayUrl rest attemptAt)
    pure { t with log := .deletionPublished task.id current.signedEvent relayUrl :: t.log }
  else pure (s.moveDeletion task (.recording relayUrl rest .rejected))

/-- The publisher's outcome; `none` where it threw at a relay that the account has left. -/
def answerDeletion (attemptAt : Int)
    (status : Option DeletionStatus) (s : Outboxes) : Option Outboxes := do
  guard (task ∈ s.deletionRuns.rows ∧ task.phase = .answering relayUrl rest attemptAt ∧
    status ≠ some .pending)
  pure (s.moveDeletion task (match status with
    | some status => .recording relayUrl rest status
    | none => .running rest true))

def recordDeletion (status : DeletionStatus) (now : Int) (s : Outboxes) : Option Outboxes := do
  guard (task ∈ s.deletionRuns.rows ∧ task.phase = .recording relayUrl rest status ∧ s.clock ≤ now)
  let (_, t) ← s.updateDeletion task.id fun current =>
    .ok (markRelayOutcome relayUrl task.owner status now task.retryDelayMs current)
  pure { t.moveDeletion task (.running rest true) with clock := now }

/-- A run ends, after its last relay or by a throw. `released`: the release was written. -/
def finishDeletion (released : Bool) (s : Outboxes) : Option Outboxes := do
  guard (task ∈ s.deletionRuns.rows)
  if released = true then
    let (_, t) ← s.updateDeletion task.id fun current =>
      .ok (releaseDeliveryLease task.owner current)
    pure (t.endDeletion task)
  else pure (s.endDeletion task)

inductive Action where
  | persistListing (input : ListingInput) (now : Int)
  | persistDeletion (input : DeletionInput) (now : Int)
  | markReady (id : Text) (now : Int)
  | putShipping (row : ShippingRow)
  | putIntents (intents : List WriteIntent)
  | loadListing (run : Nat) (id : Text)
  | beginListing (task : ListingTask) (now retryDelayMs : Int)
  | admitPair (task : ListingTask) (eventId relayUrl : Text)
  | claimPair (task : ListingTask) (eventId relayUrl : Text) (now : Int)
  | startPair (task : ListingTask) (eventId relayUrl : Text) (now retryDelayMs : Int)
  | publishPair (task : ListingTask) (eventId relayUrl : Text)
  | answerPair (task : ListingTask) (eventId relayUrl : Text) (status : ListingStatus)
  | recordPair (task : ListingTask) (eventId relayUrl : Text) (status : ListingStatus)
      (now retryDelayMs : Int)
  | loadDeletion (owner id : Text) (leaseMs retryDelayMs : Int)
  | permitDeletion (task : DeletionTask) (stored : DeletionJob)
  | retireTargets (task : DeletionTask) (now : Int)
  | claimLease (task : DeletionTask) (now : Int) (forceRecovery : Bool)
  | settleDeletion (task : DeletionTask) (now : Int)
  | skipRelay (task : DeletionTask) (relayUrl : Text) (rest : List Text) (runStarted : Bool)
  | startDeletionRun (task : DeletionTask) (rest : List Text) (now : Int)
  | attemptRelay (task : DeletionTask) (relayUrl : Text) (rest : List Text) (now : Int)
  | publishDeletion (task : DeletionTask) (current : DeletionJob) (relayUrl : Text)
      (rest : List Text) (attemptAt : Int)
  | answerDeletion (task : DeletionTask) (relayUrl : Text) (rest : List Text) (attemptAt : Int)
      (status : Option DeletionStatus)
  | recordDeletion (task : DeletionTask) (relayUrl : Text) (rest : List Text)
      (status : DeletionStatus) (now : Int)
  | finishDeletion (task : DeletionTask) (released : Bool)

def apply (s : Outboxes) : Action → Option Outboxes
  | .persistListing input now => persistListing P input now s
  | .persistDeletion input now => persistDeletion P input now s
  | .markReady id now => markReady id now s
  | .putShipping row => some (putShipping row s)
  | .putIntents intents => some { s with intents := intents }
  | .loadListing run id => loadListing run id s
  | .beginListing task now delay => beginListing P task now delay s
  | .admitPair task eventId relayUrl => admitPair task eventId relayUrl s
  | .claimPair task eventId relayUrl now => claimPair task eventId relayUrl now s
  | .startPair task eventId relayUrl now delay => startPair task eventId relayUrl now delay s
  | .publishPair task eventId relayUrl => publishPair P task eventId relayUrl s
  | .answerPair task eventId relayUrl status => answerPair task eventId relayUrl status s
  | .recordPair task eventId relayUrl status now delay =>
    recordPair task eventId relayUrl status now delay s
  | .loadDeletion owner id leaseMs delay => loadDeletion owner id leaseMs delay s
  | .permitDeletion task stored => permitDeletion P task stored s
  | .retireTargets task now => retireTargets P task now s
  | .claimLease task now force => claimLease P task now force s
  | .settleDeletion task now => settleDeletion task now s
  | .skipRelay task relayUrl rest started => skipRelay task relayUrl rest started s
  | .startDeletionRun task rest now => startDeletionRun task rest now s
  | .attemptRelay task relayUrl rest now => attemptRelay task relayUrl rest now s
  | .publishDeletion task current relayUrl rest at_ =>
    publishDeletion P task current relayUrl rest at_ s
  | .answerDeletion task relayUrl rest at_ status =>
    answerDeletion task relayUrl rest at_ status s
  | .recordDeletion task relayUrl rest status now => recordDeletion task relayUrl rest status now s
  | .finishDeletion task released => finishDeletion task released s

def Step (a : Action) (s t : Outboxes) : Prop := apply P s a = some t

end Conduit.ProductDelivery
