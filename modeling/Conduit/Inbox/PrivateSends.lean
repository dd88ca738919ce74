import Conduit.Inbox.PrivateDelivery
import Conduit.Runs

namespace Conduit.PrivateDelivery

open Js Stock Runs Throwing
open OrderRelay (RelayPlatform DeclarationState)

inductive SendPhase where
  | staged
  | publishing (owner : Text)
  | recording (owner : Text) (outcome : Option PublishWithPlannerResult) (call : RecordCall)
  | releasing (owner : Text) (accepted : Option PublishWithPlannerResult)
      (checkpointFailure : Bool)
  deriving DecidableEq

/-- A `stageAndPublishPrivateLeg` call; `flagsFailure` where its caller hears of a failed record. -/
structure SendTask where
  id : Text
  leg : PrivateDeliveryLeg
  (requireAck flagsFailure : Bool)
  phase : SendPhase
  deriving DecidableEq

inductive RetryPhase where
  | claimed
  | sending (owner : Text)
  | recording (owner : Text) (call : RecordCall)
  deriving DecidableEq

/-- A `retryPrivateDeliveries` call at one of its rows. `rest`: the legs still to be tried. -/
structure RetryTask where
  id : Text
  replayAcknowledged : Bool
  rest : List PrivateDeliveryLeg
  phase : RetryPhase
  deriving DecidableEq

structure Publication where
  (id recipientPubkey : Text)
  event : SignedEvent
  relayUrls : List Text

/-- A send of a recipient's leg, or a resume, that returned without a throw. -/
structure Report where
  (id recipientPubkey : Text)
  checkpointFailure : Bool

structure DeliveryTabs where
  rows : DeliveryTable
  sealedJobs : List SealedJob
  sends : List SendTask
  retries : List RetryTask
  (staged recorded : List Text)
  published : List Publication
  reports : List Report

inductive Action where
  | stage (rumorId senderPubkey : Text) (selfCopy : Bool) (leg : PrivateDeliveryLeg)
      (requireAck flagsFailure : Bool) (nonce : Nat) (owner : Text) (now : Int)
  | hold (task : SendTask)
  | beat (id owner : Text) (now : Int)
  | publish (task : SendTask) (outcome : Option PublishWithPlannerResult)
  | load (task : SendTask) (nonce : Nat)
  | commit (task : SendTask) (now : Int)
  | recordFails (task : SendTask)
  | release (task : SendTask) (committed : Bool)
  | claim (id owner : Text) (replayAcknowledged : Bool) (now : Int)
  | holdRetry (task : RetryTask)
  | publishRetry (task : RetryTask) (declaration : DeclarationState)
      (outcome : Option PublishWithPlannerResult)
  | skipRetry (task : RetryTask)
  | loadRetry (task : RetryTask) (nonce : Nat)
  | commitRetry (task : RetryTask) (now : Int)
  | finishRetry (task : RetryTask)
  | resumed (rumorId recipientPubkey : Text)

section
variable (P : RelayPlatform) (principal : Text)

def Fresh (nonce : Nat) (s : DeliveryTabs) : Prop := ∀ value ∈ s.sealedJobs, value.nonce ≠ nonce
  deriving Decidable

def stage (rumorId senderPubkey : Text) (selfCopy : Bool) (leg : PrivateDeliveryLeg)
    (requireAck flagsFailure : Bool) (nonce : Nat) (owner : Text) (now : Int)
    (s : DeliveryTabs) : Option DeliveryTabs := do
  let job : PrivateDeliveryJob := ⟨rumorId, senderPubkey, [leg], now⟩
  let id := deliveryId rumorId selfCopy
  let value : SealedJob := ⟨nonce, id, job⟩
  guard (checkStage P principal job = .ok ())
  guard (Fresh nonce s)
  let rows ← (stageTransaction value owner now s.rows).toOption
  pure { s with
    rows := rows
    sealedJobs := value :: s.sealedJobs
    sends := ⟨id, leg, requireAck, flagsFailure, .staged⟩ :: s.sends
    staged := id :: s.staged }

/-- The send goes on as `next`. -/
def DeliveryTabs.moveSend (s : DeliveryTabs) (task next : SendTask) : DeliveryTabs :=
  { s with sends := next :: s.sends.erase task }

def DeliveryTabs.moveRetry (s : DeliveryTabs) (task next : RetryTask) : DeliveryTabs :=
  { s with retries := next :: s.retries.erase task }

/-- `holdPrivateDeliveryClaim` adopts the owner that the row names. -/
def adoptedOwner (id : Text) (s : DeliveryTabs) : Option Text := do
  let row ← s.rows.get id
  let claim ← row.claim
  pure claim.owner

variable (task : SendTask)

def hold (s : DeliveryTabs) : Option DeliveryTabs := do
  guard (task ∈ s.sends ∧ task.phase = .staged)
  let owner ← adoptedOwner task.id s
  pure (s.moveSend task { task with phase := .publishing owner })

variable (outcome : Option PublishWithPlannerResult)

/-- The relays that a publication may report are those that it was given. -/
def Within (relayUrls : List Text) : Prop :=
  ∀ result ∈ outcome, ∀ relay ∈ result.successfulRelayUrls, relay ∈ relayUrls
  deriving Decidable

def publish (s : DeliveryTabs) : Option DeliveryTabs := do
  guard (task ∈ s.sends ∧ Within outcome task.leg.relayUrls)
  match task.phase with
  | .publishing owner =>
    let call : RecordCall := ⟨task.id, task.leg.event.id, outcome, true, 0, none⟩
    pure { s.moveSend task { task with phase := .recording owner outcome call } with
      published :=
        ⟨task.id, task.leg.recipientPubkey, task.leg.event, task.leg.relayUrls⟩ :: s.published }
  | _ => none

def loadCall (call : RecordCall) (nonce : Nat) (s : DeliveryTabs) :
    Option (RecordCall × DeliveryTabs) := do
  guard (call.loaded = none ∧ call.attempt < maxRecordAttempts ∧ Fresh nonce s)
  let row ← s.rows.get call.id
  let job ← mergedJob call row.value
  let value : SealedJob := ⟨nonce, call.id, job⟩
  pure ({ call with loaded := some (row.value.nonce, value) },
    { s with sealedJobs := value :: s.sealedJobs })

def commitCall (call : RecordCall) (now : Int) (s : DeliveryTabs) :
    Option (Option RecordCall × DeliveryTabs) := do
  let (nonce, value) ← call.loaded
  match ← recordTransaction call nonce value now s.rows with
  | some rows => pure (none, { s with rows := rows, recorded := call.id :: s.recorded })
  | none => pure (some { call with attempt := call.attempt + 1, loaded := none }, s)

def load (nonce : Nat) (s : DeliveryTabs) : Option DeliveryTabs := do
  guard (task ∈ s.sends)
  match task.phase with
  | .recording owner outcome call =>
    let (call, s) ← loadCall call nonce s
    pure (s.moveSend task { task with phase := .recording owner outcome call })
  | _ => none

def SendTask.accepted : Option PublishWithPlannerResult :=
  outcome.filter fun result => task.requireAck = false ∨ result.successfulRelayUrls ≠ []

def commit (now : Int) (s : DeliveryTabs) : Option DeliveryTabs := do
  guard (task ∈ s.sends)
  match task.phase with
  | .recording owner outcome call =>
    let (call, s) ← commitCall call now s
    match call with
    | some call => pure (s.moveSend task { task with phase := .recording owner outcome call })
    | none => pure (s.moveSend task
        { task with phase := .releasing owner (task.accepted outcome) false })
  | _ => none

/-- A record that throws. -/
def SendTask.unrecorded : Option PublishWithPlannerResult :=
  outcome.filter fun result => task.flagsFailure = true ∧ result.successfulRelayUrls ≠ []

def recordFails (s : DeliveryTabs) : Option DeliveryTabs := do
  guard (task ∈ s.sends)
  match task.phase with
  | .recording owner outcome _ =>
    pure (s.moveSend task { task with phase := .releasing owner (task.unrecorded outcome) true })
  | _ => none

def release (committed : Bool) (s : DeliveryTabs) : Option DeliveryTabs := do
  guard (task ∈ s.sends)
  match task.phase with
  | .releasing owner accepted checkpointFailure =>
    let result := if committed = true then accepted else task.unrecorded accepted
    pure { s with
      rows := if committed = true then updateRow task.id (releaseClaim owner) s.rows else s.rows
      sends := s.sends.erase task
      reports :=
        if result ≠ none ∧ task.requireAck = true then
          ⟨task.id, task.leg.recipientPubkey, checkpointFailure || !committed⟩ :: s.reports
        else s.reports }
  | _ => none

def claimRow (id owner : Text) (replayAcknowledged : Bool) (now : Int) (s : DeliveryTabs) :
    Option DeliveryTabs := do
  let current ← s.rows.get id
  guard (Claimable replayAcknowledged now current)
  let job ← openJob current.value id
  pure { s with
    rows := s.rows.put { current with claim := some ⟨owner, now + claimMs⟩ }
    retries := ⟨id, replayAcknowledged, job.legs, .claimed⟩ :: s.retries }

def holdRetry (task : RetryTask) (s : DeliveryTabs) : Option DeliveryTabs := do
  guard (task ∈ s.retries ∧ task.phase = .claimed)
  let owner ← adoptedOwner task.id s
  pure (s.moveRetry task { task with phase := .sending owner })

def publishRetry (task : RetryTask) (declaration : DeclarationState)
    (outcome : Option PublishWithPlannerResult) (s : DeliveryTabs) : Option DeliveryTabs := do
  guard (task ∈ s.retries)
  let leg ← task.rest.head?
  let targets := retryTargets P task.replayAcknowledged declaration leg
  guard (targets ≠ [] ∧ Within outcome targets)
  match task.phase with
  | .sending owner =>
    let call : RecordCall := ⟨task.id, leg.event.id, outcome, true, 0, none⟩
    let next := { task with phase := .recording owner call, rest := task.rest.tail }
    pure { s.moveRetry task next with
      published := ⟨task.id, leg.recipientPubkey, leg.event, targets⟩ :: s.published }
  | _ => none

/-- The leg has no target, or its failure does not end the call. -/
def skipRetry (task : RetryTask) (s : DeliveryTabs) : Option DeliveryTabs := do
  guard (task ∈ s.retries)
  match task.phase with
  | .sending _ => pure (s.moveRetry task { task with rest := task.rest.tail })
  | .recording owner _ => pure (s.moveRetry task { task with phase := .sending owner })
  | .claimed => none

def loadRetry (task : RetryTask) (nonce : Nat) (s : DeliveryTabs) : Option DeliveryTabs := do
  guard (task ∈ s.retries)
  match task.phase with
  | .recording owner call =>
    let (call, s) ← loadCall call nonce s
    pure (s.moveRetry task { task with phase := .recording owner call })
  | _ => none

def commitRetry (task : RetryTask) (now : Int) (s : DeliveryTabs) : Option DeliveryTabs := do
  guard (task ∈ s.retries)
  match task.phase with
  | .recording owner call =>
    let (call, s) ← commitCall call now s
    match call with
    | some call => pure (s.moveRetry task { task with phase := .recording owner call })
    | none => pure (s.moveRetry task { task with phase := .sending owner })
  | _ => none

/-- The `finally` block, after the last leg or after a throw. -/
def finishRetry (task : RetryTask) (s : DeliveryTabs) : Option DeliveryTabs := do
  guard (task ∈ s.retries)
  let rows :=
    match task.phase with
    | .sending owner => updateRow task.id (releaseClaim owner) s.rows
    | .recording owner _ => updateRow task.id (releaseClaim owner) s.rows
    | .claimed => s.rows
  pure { s with rows := rows, retries := s.retries.erase task }

/-- A `resumePrivateDelivery` reads the recipient's leg, once its retry is over. -/
def resumed (rumorId recipientPubkey : Text) (s : DeliveryTabs) : Option DeliveryTabs := do
  let id := deliveryId rumorId false
  let row ← s.rows.get id
  let job ← openJob row.value id
  guard (Acknowledged recipientPubkey job)
  pure { s with reports := ⟨id, recipientPubkey, false⟩ :: s.reports }

def Action.run : Action → DeliveryTabs → Option DeliveryTabs
  | .stage rumorId senderPubkey selfCopy leg requireAck flagsFailure nonce owner now =>
    PrivateDelivery.stage P principal rumorId senderPubkey selfCopy leg requireAck flagsFailure
      nonce owner now
  | .hold task => PrivateDelivery.hold task
  | .beat id owner now => fun s => some { s with rows := updateRow id (heartbeat owner now) s.rows }
  | .publish task outcome => PrivateDelivery.publish task outcome
  | .load task nonce => PrivateDelivery.load task nonce
  | .commit task now => PrivateDelivery.commit task now
  | .recordFails task => PrivateDelivery.recordFails task
  | .release task committed => PrivateDelivery.release task committed
  | .claim id owner replayAcknowledged now => claimRow id owner replayAcknowledged now
  | .holdRetry task => PrivateDelivery.holdRetry task
  | .publishRetry task declaration outcome =>
    PrivateDelivery.publishRetry P task declaration outcome
  | .skipRetry task => PrivateDelivery.skipRetry task
  | .loadRetry task nonce => PrivateDelivery.loadRetry task nonce
  | .commitRetry task now => PrivateDelivery.commitRetry task now
  | .finishRetry task => PrivateDelivery.finishRetry task
  | .resumed rumorId recipientPubkey => PrivateDelivery.resumed rumorId recipientPubkey

def Step (a : Action) (s t : DeliveryTabs) : Prop := a.run P principal s = some t

end

end Conduit.PrivateDelivery
