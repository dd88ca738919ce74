import Conduit.Orders.RelayDelivery
import Conduit.Runs

namespace Conduit.OrderRelay

open Js Stock Runs

inductive RetryPhase where
  | claimed
  | sending
  | begun (relayUrl : Text) (generation : Nat) (wrapId : Text)
  | published (relayUrl : Text) (generation : Nat) (wrapId : Text)
  deriving DecidableEq

/-- A `retryOrderRelayDelivery` call that has claimed its order. `rest`: the relays still to be
tried. -/
structure RetryTask where
  input : RetryInput
  claimed : OrderLifecycle
  delivery : OrderRelayDeliveryRecord
  phase : RetryPhase
  rest : List Text
  deriving DecidableEq

/-- A `resumePendingOrderRelayDeliveries` call, and the orders of its list still to be retried. -/
structure ResumeTask where
  buyerPubkey : Text
  timestamp : Int
  rest : List OrderLifecycle
  deriving DecidableEq

structure Begun where
  (orderId relayUrl : Text)
  generation : Nat

structure Publication where
  (orderId relayUrl : Text)
  event : SignedEvent

structure RelayTabs where
  table : OrderTable
  retries : List RetryTask
  resumes : List ResumeTask
  staged : List OrderLifecycle
  begun : List Begun
  published : List Publication

inductive Action where
  | stage (lifecycle : StagedOrderLifecycleInput) (prepared : PreparedOrderRelayDelivery)
      (leaseOwner : Text) (timestamp : Int)
  | begin (input : BeginInput) (shouldContinue : Bool) (timestamp : Int)
  | record (input : RecordInput) (timestamp : Int)
  | claim (input : RetryInput) (timestamp : Int)
  | plan (task : RetryTask) (declaration : DeclarationState) (ordered : List Text)
  | skip (task : RetryTask)
  | beginRetry (task : RetryTask) (shouldContinue : Bool) (timestamp : Int)
  | cancel (task : RetryTask)
  | publish (task : RetryTask)
  | settle (task : RetryTask) (status : OrderRelayDeliveryStatus) (timestamp : Int)
  | finish (task : RetryTask) (retryNow now : Int)
  | list (buyerPubkey : Text) (timestamp : Int)
  | resumeNext (task : ResumeTask) (leaseOwner : Text) (allowGuest : Bool) (timestamp : Int)

section
variable (P : RelayPlatform)

def stage (lifecycle : StagedOrderLifecycleInput) (prepared : PreparedOrderRelayDelivery)
    (leaseOwner : Text) (timestamp : Int) (s : RelayTabs) : Option RelayTabs := do
  let record ← (prepareStage P lifecycle prepared leaseOwner timestamp).toOption
  let (inserted, table) ← (stageTransaction P record s.table).toOption
  pure { s with
    table := table
    staged := if inserted = true then record :: s.staged else s.staged }

/-- A `beginOrderRelayDeliveryAttempt` that does not throw, with the row and the generations that
it returns. -/
def beginRun (input : BeginInput) (shouldContinue : Bool) (timestamp : Int) (s : RelayTabs) :
    Option (RelayTabs × OrderLifecycle × List (Text × Nat)) := do
  let current ← s.table.get input.orderId
  let (row, generations) ← beginAttempt P input shouldContinue timestamp current
  pure ({ s with
    table := s.table.put row
    begun := (generations.map fun g => ⟨input.orderId, g.1, g.2⟩) ++ s.begun }, row, generations)

def recordRun (input : RecordInput) (timestamp : Int) (s : RelayTabs) : RelayTabs :=
  { s with table := updateOrder input.orderId (recordOutcomes P input timestamp) s.table }

/-- A retry moves on where the row that its first transaction leaves is its own. -/
def claimRun (input : RetryInput) (timestamp : Int) (s : RelayTabs) : Option RelayTabs := do
  let current ← s.table.get input.orderId
  let claimed := claimRetry P input timestamp current
  let s := { s with table := s.table.put claimed }
  match claimed.orderRelayDelivery with
  | none => pure s
  | some delivery =>
    if Claimed P input claimed delivery then
      pure { s with retries := ⟨input, claimed, delivery, .claimed, []⟩ :: s.retries }
    else pure s

/-- The call goes on as `next`. -/
def RelayTabs.move (s : RelayTabs) (task next : RetryTask) : RelayTabs :=
  { s with retries := next :: s.retries.erase task }

variable (task : RetryTask)

def planRun (declaration : DeclarationState) (ordered : List Text)
    (s : RelayTabs) : Option RelayTabs := do
  guard (task ∈ s.retries ∧ task.phase = .claimed)
  guard (ordered.Perm (privateDeliveryRetryTargets P (retryLeg P task.delivery)
    (task.delivery.route = .compatibilityOrder) declaration))
  pure (s.move task { task with phase := .sending, rest := ordered })

variable (s : RelayTabs)

/-- The relay is not eligible, or the session has changed. -/
def skipRun : Option RelayTabs := do
  guard (task ∈ s.retries ∧ task.phase = .sending ∧ task.rest ≠ [])
  pure (s.move task { task with rest := task.rest.tail })

def RetryTask.beginInput (relayUrl : Text) : BeginInput where
  orderId := task.input.orderId
  buyerPubkey := task.claimed.buyerPubkey
  leaseOwner := task.input.leaseOwner
  relayUrls := [relayUrl]

/-- `beforePublish`: no generation is begun at a relay that has acknowledged. -/
def beginRetryRun (shouldContinue : Bool) (timestamp : Int) (s : RelayTabs) : Option RelayTabs := do
  guard (task ∈ s.retries ∧ task.phase = .sending)
  let relayUrl ← task.rest.head?
  let (s, row, generations) ← beginRun P (task.beginInput relayUrl) shouldContinue timestamp s
  let delivery ← row.orderRelayDelivery
  match generations.find? fun g => g.1 = relayUrl with
  | none => pure (s.move task { task with rest := task.rest.tail })
  | some g => pure (s.move task { task with
      phase := .begun relayUrl g.2 delivery.signedRecipientWrap.id
      rest := task.rest.tail })

def cancelRun : Option RelayTabs := do
  guard (task ∈ s.retries)
  match task.phase with
  | .begun _ _ _ => pure (s.move task { task with phase := .sending })
  | _ => none

def publishRun : Option RelayTabs := do
  guard (task ∈ s.retries)
  match task.phase with
  | .begun relayUrl generation wrapId =>
    pure { s.move task { task with phase := .published relayUrl generation wrapId } with
      published :=
        ⟨task.input.orderId, relayUrl, task.delivery.signedRecipientWrap⟩ :: s.published }
  | _ => none

/-- A publisher's `pending` counts as a time-out. -/
def settledOutcome (relayUrl : Text) (status : OrderRelayDeliveryStatus) (generation : Nat) :
    Outcome :=
  if h : status = .pending then ⟨relayUrl, .timedOut, generation, by decide⟩
  else ⟨relayUrl, status, generation, h⟩

variable (status : OrderRelayDeliveryStatus)

def RetryTask.recordInput (relayUrl : Text) (generation : Nat) (wrapId : Text) : RecordInput where
  orderId := task.input.orderId
  buyerPubkey := task.claimed.buyerPubkey
  leaseOwner := task.input.leaseOwner
  wrapId := wrapId
  outcomes := [settledOutcome relayUrl status generation]
  releaseLease := false
  retryDelayMs := some retryDelayMs

/-- `afterPublish`. -/
def settleRun (timestamp : Int) (s : RelayTabs) : Option RelayTabs := do
  guard (task ∈ s.retries)
  match task.phase with
  | .published relayUrl generation wrapId =>
    pure ((recordRun P (task.recordInput status relayUrl generation wrapId) timestamp s).move task
      { task with phase := .sending })
  | _ => none

/-- The `finally` block, after the last relay or after a throw. -/
def finishRun (retryNow now : Int) (s : RelayTabs) : Option RelayTabs := do
  guard (task ∈ s.retries)
  pure { s with
    table := updateOrder task.input.orderId (finishRetry P task.input.leaseOwner retryNow now)
      s.table
    retries := s.retries.erase task }

def listRun (buyerPubkey : Text) (timestamp : Int) (s : RelayTabs) : RelayTabs :=
  { s with resumes :=
      ⟨buyerPubkey, timestamp, s.table.rows.filter fun row => row.buyerPubkey = buyerPubkey⟩ ::
        s.resumes }

def resumeNextRun (task : ResumeTask) (leaseOwner : Text) (allowGuest : Bool) (timestamp : Int)
    (s : RelayTabs) : Option RelayTabs := do
  guard (task ∈ s.resumes)
  let lifecycle ← task.rest.head?
  let s := { s with resumes := { task with rest := task.rest.tail } :: s.resumes.erase task }
  if Resumable P task.timestamp lifecycle then
    claimRun P ⟨lifecycle.orderId, task.buyerPubkey, leaseOwner, allowGuest⟩ timestamp s
  else pure s

def Action.run : Action → RelayTabs → Option RelayTabs
  | .stage lifecycle prepared leaseOwner timestamp =>
    OrderRelay.stage P lifecycle prepared leaseOwner timestamp
  | .begin input shouldContinue timestamp =>
    fun s => (beginRun P input shouldContinue timestamp s).map Prod.fst
  | .record input timestamp => fun s => some (recordRun P input timestamp s)
  | .claim input timestamp => claimRun P input timestamp
  | .plan task declaration ordered => planRun P task declaration ordered
  | .skip task => skipRun task
  | .beginRetry task shouldContinue timestamp => beginRetryRun P task shouldContinue timestamp
  | .cancel task => cancelRun task
  | .publish task => publishRun task
  | .settle task status timestamp => settleRun P task status timestamp
  | .finish task retryNow now => finishRun P task retryNow now
  | .list buyerPubkey timestamp => fun s => some (listRun buyerPubkey timestamp s)
  | .resumeNext task leaseOwner allowGuest timestamp =>
    resumeNextRun P task leaseOwner allowGuest timestamp

def Step (a : Action) (s t : RelayTabs) : Prop := a.run P s = some t

end

def Action.recorded : Action → Option RecordInput
  | .record input _ => some input
  | .settle task status _ =>
    match task.phase with
    | .published relayUrl generation wrapId =>
      some (task.recordInput status relayUrl generation wrapId)
    | _ => none
  | _ => none

end Conduit.OrderRelay
