import Conduit.Orders.RelayDelivery

namespace Conduit.PrivateDelivery

open Js Stock Throwing
open OrderRelay (RelayPlatform DeclarationState giftWrap privateDeliveryRetryTargets)

def claimMs : Int := 60000

/-- A record that finds the row changed reads it again. -/
def maxRecordAttempts : Nat := 32

structure PublishWithPlannerResult where
  (successfulRelayUrls failedRelayUrls : List Text)
  deriving DecidableEq

/-- What a leg's publication reads beyond these is in `plan`. -/
structure PrivateDeliveryLeg where
  recipientPubkey : Text
  event : SignedEvent
  relayUrls : List Text
  compatibility : Bool
  plan : Text
  (acknowledged failed : List Text)
  delivery : Option PublishWithPlannerResult
  deriving DecidableEq

structure PrivateDeliveryJob where
  (rumorId senderPubkey : Text)
  legs : List PrivateDeliveryLeg
  createdAt : Int
  deriving DecidableEq

structure SealedJob where
  nonce : Nat
  id : Text
  job : PrivateDeliveryJob
  deriving DecidableEq

inductive DeliveryState where
  | queued
  | partly
  | failed
  | accepted
  deriving DecidableEq

structure DeliveryClaim where
  owner : Text
  expiresAt : Int

structure DeliveryRow where
  id : Text
  value : SealedJob
  state : DeliveryState
  updatedAt : Int
  claim : Option DeliveryClaim

abbrev DeliveryTable := Table DeliveryRow (·.id)

def deliveryId (rumorId : Text) (selfCopy : Bool) : Text :=
  ("delivery:" : Text) ++ rumorId ++ if selfCopy = true then ":self" else ""

/-- `store.open`. -/
def openJob (value : SealedJob) (id : Text) : Option PrivateDeliveryJob :=
  if value.id = id then some value.job else none

section Stage
variable (P : RelayPlatform) (principal : Text)

def Stageable (leg : PrivateDeliveryLeg) : Prop :=
  P.isValidSignedPublicNostrEvent leg.event = true ∧ leg.event.kind = giftWrap ∧
    (∃ tag ∈ leg.event.tags, tag[0]? = some ("p" : Text) ∧ tag[1]? = some leg.recipientPubkey) ∧
    leg.relayUrls ≠ []
  deriving Decidable

def checkStage (job : PrivateDeliveryJob) : Result Unit :=
  reject (¬ (job.senderPubkey = principal ∧ job.legs ≠ [] ∧ ∀ leg ∈ job.legs, Stageable P leg))
    (.error "Invalid private delivery stage")

/-- The transaction of `stagePrivateDelivery`. -/
def stageTransaction (value : SealedJob) (owner : Text) (now : Int) (table : DeliveryTable) :
    Result DeliveryTable := do
  reject (table.get value.id ≠ none)
    (.error "Private message is already staged; retry the saved delivery")
  pure (table.put
    { id := value.id
      value := value
      state := .queued
      updatedAt := now
      claim := some ⟨owner, now + claimMs⟩ })

end Stage

section Record

variable (delivery : Option PublishWithPlannerResult)

variable (leg : PrivateDeliveryLeg)

/-- The relays of `leg` that a publication reports as successful. -/
def reported : List Text :=
  match delivery with
  | none => []
  | some result => result.successfulRelayUrls.filter fun relay => relay ∈ leg.relayUrls

def recordLeg : PrivateDeliveryLeg :=
  let acknowledged := (leg.acknowledged ++ reported delivery leg).eraseDups
  { leg with
    delivery := delivery.or leg.delivery
    acknowledged := acknowledged
    failed := leg.relayUrls.filter fun relay => relay ∉ acknowledged }

def updateLeg (eventId : Text) (f : PrivateDeliveryLeg → PrivateDeliveryLeg) :
    List PrivateDeliveryLeg → Option (List PrivateDeliveryLeg)
  | [] => none
  | leg :: rest =>
    if leg.event.id = eventId then some (f leg :: rest)
    else (updateLeg eventId f rest).map (leg :: ·)

def Accepted : Prop := ∀ relay ∈ leg.relayUrls, relay ∈ leg.acknowledged
  deriving Decidable

def recordedState (job : PrivateDeliveryJob) : DeliveryState :=
  if ∀ leg ∈ job.legs, Accepted leg then .accepted
  else if ∃ leg ∈ job.legs, leg.acknowledged ≠ [] then .partly
  else .failed

/-- A `recordPrivateDelivery` call, with the row's nonce that it read and the job sealed over it. -/
structure RecordCall where
  (id eventId : Text)
  delivery : Option PublishWithPlannerResult
  holdClaim : Bool
  attempt : Nat
  loaded : Option (Nat × SealedJob)
  deriving DecidableEq

variable (call : RecordCall)

def mergedJob (value : SealedJob) : Option PrivateDeliveryJob := do
  let job ← openJob value call.id
  let legs ← updateLeg call.eventId (recordLeg call.delivery) job.legs
  pure { job with legs := legs }

def releasesClaim (job : PrivateDeliveryJob) : Prop :=
  call.holdClaim = false ∧
    ((∃ leg ∈ job.legs.getLast?, leg.event.id = call.eventId) ∨
      ∀ result ∈ call.delivery, result.successfulRelayUrls = [])
  deriving Decidable

def recordedRow (value : SealedJob) (now : Int) (current : DeliveryRow) : DeliveryRow :=
  { current with
    value := value
    claim := if releasesClaim call value.job then none else current.claim
    state := recordedState value.job
    updatedAt := now }

def recordTransaction (nonce : Nat) (value : SealedJob) (now : Int)
    (table : DeliveryTable) : Option (Option DeliveryTable) := do
  let current ← table.get call.id
  if current.value.nonce = nonce then
    pure (some (table.put (recordedRow call value now current)))
  else pure none

end Record

def heartbeat (owner : Text) (now : Int) (current : DeliveryRow) : DeliveryRow :=
  if current.claim.map (·.owner) = some owner then
    { current with claim := some ⟨owner, now + claimMs⟩ }
  else current

def releaseClaim (owner : Text) (current : DeliveryRow) : DeliveryRow :=
  if current.claim.map (·.owner) = some owner then { current with claim := none } else current

/-- `database.update` of one row. -/
def updateRow (id : Text) (f : DeliveryRow → DeliveryRow) (table : DeliveryTable) : DeliveryTable :=
  match table.get id with
  | some current => table.put (f current)
  | none => table

def Claimable (replayAcknowledged : Bool) (now : Int) (current : DeliveryRow) : Prop :=
  (replayAcknowledged = true ∨ current.state ≠ .accepted) ∧
    ∀ claim ∈ current.claim, claim.expiresAt ≤ now
  deriving Decidable

def retryTargets (P : RelayPlatform) (replayAcknowledged : Bool) (declaration : DeclarationState)
    (leg : PrivateDeliveryLeg) : List Text :=
  privateDeliveryRetryTargets P
    (leg.relayUrls.filter fun url => replayAcknowledged = true ∨ url ∉ leg.acknowledged)
    leg.compatibility declaration

/-- What a `resumePrivateDelivery` that does not throw has read of the recipient's leg. -/
def Acknowledged (recipientPubkey : Text) (job : PrivateDeliveryJob) : Prop :=
  ∃ leg ∈ job.legs.find? (fun leg => leg.recipientPubkey = recipientPubkey),
    leg.delivery ≠ none ∧ leg.acknowledged ≠ []
  deriving Decidable

end Conduit.PrivateDelivery
