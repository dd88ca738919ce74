import Conduit.Js.Json
import Conduit.Runs

namespace Conduit.Signer.Nip46

open Js Runs

structure ResponseEvent where
  id : Text
  kind : Int
  pubkey : Text
  tags : List (List Text)
  content : Text

/-- Keys, relays, `verifyEvent` (`none` when it throws), decrypted JSON, and error texts. -/
structure Nip46Platform where
  (clientPubkey remotePubkey : Text)
  relays : List Text
  verifyEvent : ResponseEvent → Option Bool
  decryptJson : Text → Option JsonValue
  (isUnsupported isInvalidNip44CiphertextError : Text → Bool)

inductive TransportState where
  | active
  | unavailable
  | closed
  deriving DecidableEq

inductive Nip46TransportErrorCode where
  | unavailable
  | invalid_response
  | rejected
  | unsupported
  | invalid_ciphertext

/-- An entry of `subscriptions`; `serial` tells one record object from another. -/
structure Subscription where
  relay : Text
  (generation serial : Nat)

/-- `${generation}:${generateId()}`. -/
def requestId (generation : Nat) (call : Text) : Text := numberText generation ++ ":" ++ call

/-- An entry of `pending`; `call` is the generated part of its id. -/
structure PendingRequest where
  (id method : Text)
  generation : Nat
  call : Text
  deriving DecidableEq

inductive Outcome where
  | rejected (code : Nip46TransportErrorCode)
  /-- The result, the event that carried it, and the generation it was received in. -/
  | resolved (result : Option Text) (event : ResponseEvent) (receivedIn : Nat)

structure Settled where
  call : Text
  generation : Nat
  outcome : Outcome

/-- The signer and what it did; `misplaced` has the calls registered while inactive or aborted. -/
structure Transport where
  subscriptions : List Subscription
  pending : List PendingRequest
  seenResponseIds : List Text
  generation : Nat
  state : TransportState
  restartingSubscriptions : Bool
  nextSerial : Nat
  (calls aborted published : List Text)
  settled : List Settled
  misplaced : List Text

def Transport.empty : Transport := ⟨[], [], [], 0, .active, false, 0, [], [], [], [], []⟩

variable (t : Transport)

def settle (p : PendingRequest) (outcome : Outcome) : Transport :=
  { t with
    pending := t.pending.filter fun q => decide (q.id ≠ p.id)
    settled := t.settled ++ [⟨p.call, p.generation, outcome⟩] }

def settleRequest (id : Text) (outcome : Outcome) : Transport :=
  match t.pending.find? fun p => decide (p.id = id) with
  | some p => settle t p outcome
  | none => t

def rejectPending (code : Nip46TransportErrorCode) : Transport :=
  { t with
    pending := []
    settled := t.settled ++ t.pending.map fun p => ⟨p.call, p.generation, .rejected code⟩ }

def rejectCall (call : Text) : Transport :=
  { t with settled := t.settled ++ [⟨call, t.generation, .rejected .unavailable⟩] }

variable (closing : Transport → Transport)

def closeSubscriptions (t : Transport) : Transport :=
  { closing { t with restartingSubscriptions := true } with
    subscriptions := []
    restartingSubscriptions := false }

def failTransport (code : Nip46TransportErrorCode) (t : Transport) : Transport :=
  if t.state ≠ .active then t
  else
    rejectPending (closeSubscriptions closing
      { t with state := .unavailable, generation := t.generation + 1 }) code

variable (relay : Text)

def Transport.subscription : Option Subscription :=
  t.subscriptions.find? fun r => decide (r.relay = relay)

def Transport.unsubscribe : Transport :=
  { t with subscriptions := t.subscriptions.filter fun r => decide (r.relay ≠ relay) }

def handleSubscriptionClose (generation : Nat) (t : Transport) : Transport :=
  match t.subscription relay with
  | none => t
  | some r =>
    if r.generation ≠ generation then t
    else
      let t := t.unsubscribe relay
      if t.restartingSubscriptions = true ∨ t.state ≠ .active ∨ t.subscriptions ≠ [] then t
      else failTransport closing .unavailable t

section
variable (P : Nip46Platform)

def IsResponse (event : ResponseEvent) : Prop :=
  event.kind = 24133 ∧ event.pubkey = P.remotePubkey ∧
    (∃ tag ∈ event.tags, tag[0]? = some "p".toList ∧ tag[1]? = some P.clientPubkey) ∧
    P.verifyEvent event = some true
  deriving Decidable

def rememberResponse (id : Text) : Transport :=
  let seen := t.seenResponseIds ++ [id]
  { t with seenResponseIds := if 256 < seen.length then seen.drop 1 else seen }

def responseRecord (event : ResponseEvent) : Option (Text × JsonValue) := do
  let response ← P.decryptJson event.content
  let id ← response.field "id" >>= JsonValue.string?
  guard (id ≠ [])
  some (id, response)

inductive Answer where
  | authUrl
  | error (code : Nip46TransportErrorCode)
  | result (result : Option Text)
  | malformed

def readAnswer (method : Text) (response : JsonValue) : Answer :=
  let errorText := response.field "error" >>= JsonValue.string?
  if (response.field "result" >>= JsonValue.string?) = some "auth_url".toList ∧
      errorText.isSome = true then .authUrl
  else if JsonValue.isNullish (response.field "error") = false ∧ errorText ≠ some [] then
    match errorText with
    | none => .malformed
    | some text =>
      if P.isUnsupported text then .error .unsupported
      else if method = "nip44_decrypt" ∧ P.isInvalidNip44CiphertextError text = true then
        .error .invalid_ciphertext
      else .error .rejected
  else match response.field "result" with
    | some (.string result) => .result (some result)
    | some .null => .result none
    | _ => .malformed

/-- `handleResponse` on an event that was not seen before. -/
def answerResponse (closing : Transport → Transport) (event : ResponseEvent) (t : Transport) :
    Transport :=
  match responseRecord P event with
  | none => failTransport closing .invalid_response t
  | some (id, response) =>
    match t.pending.find? fun p => decide (p.id = id) with
    | none => t
    | some p =>
      if p.generation ≠ t.generation then t
      else match readAnswer P p.method response with
        | .authUrl => t
        | .error code => settleRequest t id (.rejected code)
        | .malformed => failTransport closing .invalid_response t
        | .result result => settleRequest t id (.resolved result event t.generation)

def handleResponse (closing : Transport → Transport) (event : ResponseEvent) (t : Transport) :
    Transport :=
  if t.state ≠ .active ∨ ¬ IsResponse P event ∨ event.id ∈ t.seenResponseIds then t
  else answerResponse P closing event (rememberResponse t event.id)

end

/-- One turn of `startSubscriptions`: `during` is what happens inside `pool.subscribe`. -/
def subscribeRelay (during : Transport → Transport) (succeeds : Bool) (relay : Text)
    (t : Transport) : Transport :=
  if (t.subscription relay).isSome = true then t
  else
    let opened := during { t with
      subscriptions := t.subscriptions ++ [⟨relay, t.generation, t.nextSerial⟩]
      nextSerial := t.nextSerial + 1 }
    if succeeds = false ∧ (opened.subscription relay).any
      (fun r => decide (r.serial = t.nextSerial))
    then opened.unsubscribe relay
    else opened

inductive PublishOutcome where
  | published
  | throws
  | noRoute

mutual

inductive Event where
  | subscriptionCloses (relay : Text) (generation : Nat) (closing : Events)
  | responds (event : ResponseEvent) (closing : Events)
  | aborts (call : Text)
  /-- Every relay rejected the request. -/
  | publishFails (call : Text) (closing : Events)
  | sendRequest (call method : Text) (opening : Openings) (publishing : Events)
      (outcome : PublishOutcome) (closing : Events)
  | resume (closing : Events) (opening : Openings) (failing : Events)
  | close (closing : Events)

inductive Events where
  | nil
  | cons (event : Event) (rest : Events)

/-- What the calls of `pool.subscribe` do, one for each relay in turn. -/
inductive Openings where
  | nil
  | cons (during : Events) (succeeds : Bool) (rest : Openings)

end

section
variable (P : Nip46Platform)

/-- The request is registered and published; the calls of `pool.publish` come last. -/
def register (publishing closing : Transport → Transport) (call method : Text)
    (outcome : PublishOutcome) (t : Transport) : Transport :=
  let t := { t with
    pending := t.pending ++ [⟨requestId t.generation call, method, t.generation, call⟩]
    published := t.published ++ [call]
    misplaced := if t.state = .active ∧ call ∉ t.aborted then t.misplaced
      else t.misplaced ++ [call] }
  let t := publishing t
  match outcome with
  | .published => t
  | .throws | .noRoute => failTransport closing .unavailable t

/-- `sendRequest`, of a call that was not made before. -/
def sendRequest (opening publishing closing : Transport → Transport) (call method : Text)
    (outcome : PublishOutcome) (t : Transport) : Transport :=
  if call ∈ t.calls then t
  else
    let t := { t with calls := t.calls ++ [call] }
    if t.state ≠ .active then rejectCall t call
    else if call ∈ t.aborted then rejectCall t call
    else
      let t := opening t
      if t.subscriptions = [] then rejectCall (failTransport closing .unavailable t) call
      else register publishing closing call method outcome t

/-- `resume`, which throws on a closed transport. -/
def resume (closing opening failing : Transport → Transport) (t : Transport) : Transport :=
  if t.state = .closed then t
  else
    let t := rejectPending { t with generation := t.generation + 1 } .unavailable
    let t := closeSubscriptions closing t
    let t := opening { t with state := .active }
    if t.subscriptions = [] then failTransport failing .unavailable t else t

def close (t : Transport) : Transport :=
  if t.state = .closed then t
  else rejectPending (closeSubscriptions closing
    { t with state := .closed, generation := t.generation + 1 }) .unavailable

def abort (call : Text) (t : Transport) : Transport :=
  let t := { t with aborted := t.aborted ++ [call] }
  match t.pending.find? fun p => decide (p.call = call) with
  | some p => settle t p (.rejected .unavailable)
  | none => t

def publishFails (call : Text) (t : Transport) : Transport :=
  if t.pending.any fun p => decide (p.call = call) then failTransport closing .unavailable t else t

mutual

def Event.run : Event → Transport → Transport
  | .subscriptionCloses relay generation closing, t =>
    handleSubscriptionClose closing.run relay generation t
  | .responds event closing, t => handleResponse P closing.run event t
  | .aborts call, t => abort call t
  | .publishFails call closing, t => Nip46.publishFails closing.run call t
  | .sendRequest call method opening publishing outcome closing, t =>
    Nip46.sendRequest (opening.run P.relays) publishing.run closing.run call method outcome t
  | .resume closing opening failing, t =>
    Nip46.resume closing.run (opening.run P.relays) failing.run t
  | .close closing, t => Nip46.close closing.run t

def Events.run : Events → Transport → Transport
  | .nil, t => t
  | .cons event rest, t => rest.run (event.run t)

/-- `startSubscriptions` over the relays that are left. -/
def Openings.run : Openings → List Text → Transport → Transport
  | .nil, relays, t => relays.foldl (fun t relay => subscribeRelay id true relay t) t
  | .cons _ _ _, [], t => t
  | .cons during succeeds rest, relay :: relays, t =>
    rest.run relays (subscribeRelay during.run succeeds relay t)

end

def Nip46Step (e : Event) (s t : Transport) : Prop := e.run P s = t

def Constructed (t : Transport) : Prop :=
  ∃ opening : Openings, opening.run P P.relays .empty = t ∧ t.subscriptions ≠ []

end

end Conduit.Signer.Nip46
