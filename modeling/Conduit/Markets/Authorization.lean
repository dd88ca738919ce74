import Conduit.Ancestry
import Conduit.Js.Map
import Conduit.Stock.Handover

namespace Conduit.Markets

open Js Stock Ancestry

def maxSequence : Int := 2147483647

inductive AuthorizationState where
  | active
  | revoked
  deriving DecidableEq

structure AuthorizationRepair where
  (deletionId targetId : Text)
  deriving DecidableEq

/-- What a transition says, without the signature that was retained for it. -/
structure AuthorizationTerms where
  (eventId marketCoordinate organizerPubkey merchantPubkey : Text)
  state : AuthorizationState
  sequence : Int
  parentIds : List Text
  repairs : List AuthorizationRepair
  deriving DecidableEq

structure ParsedEventMarketAuthorization extends AuthorizationTerms where
  signedEvent : SignedEvent
  deriving DecidableEq

def parseAuthorizationState (tag : List Text) : Option AuthorizationState :=
  if tag[1]? = some "active".toList then some .active
  else if tag[1]? = some "revoked".toList then some .revoked
  else none

/-- `/^(0|[1-9]\d*)$/` and `Number(text)`, not above the largest sequence. -/
def parseSequence (tag : List Text) : Option Int := do
  let text ← tag[1]?
  guard (IsDecimal text ∧ (CheckoutSpark.digitsValue text : Int) ≤ maxSequence)
  return CheckoutSpark.digitsValue text

def parseParents (eventId : Text) (tags : List (List Text)) : Option (List Text) := do
  let parentIds := tags.map fun tag => (tag[1]?).getD []
  guard (parentIds.length ≤ 8 ∧ (∀ tag ∈ tags, tag.length = 2) ∧
    (∀ id ∈ parentIds, IsHex64 id ∧ id ≠ eventId) ∧ parentIds.Nodup)
  return parentIds

def AuthorizationRepair.key (repair : AuthorizationRepair) : Text :=
  repair.deletionId ++ ":" ++ repair.targetId

def parseRepairs (tags : List (List Text)) : Option (List AuthorizationRepair) := do
  let repairs := tags.map fun tag => ({
    deletionId := (tag[1]?).getD []
    targetId := (tag[2]?).getD [] } : AuthorizationRepair)
  guard ((∀ tag ∈ tags, tag.length = 3) ∧
    (∀ repair ∈ repairs, IsHex64 repair.deletionId ∧ IsHex64 repair.targetId) ∧
    (repairs.map AuthorizationRepair.key).Nodup)
  return repairs

variable (P : StockPlatform)

variable (event : SignedEvent)

def parseEventMarketAuthorizationFieldsForPrivateOrder : Option ParsedEventMarketAuthorization := do
  guard (event.kind = 3841 ∧ event.content = [] ∧ P.eventBytes event ≤ 65536)
  let marker ← oneTag event.tags "openmarkets" 3
  guard (marker[1]? = some "event-market-auth".toList ∧ marker[2]? = some "1".toList)
  let address ← oneTag event.tags "a" 2
  let market ← address[1]?.bind fun value =>
    CheckoutSpark.parseAddressableCoordinate P.toPlatform value [30409]
  guard (market.authorPubkey = event.pubkey)
  let merchant ← (oneTag event.tags "p" 2).bind fun tag => tag[1]?
  guard (IsHex64 merchant)
  let state ← (oneTag event.tags "state" 2).bind parseAuthorizationState
  let sequence ← (oneTag event.tags "seq" 2).bind parseSequence
  let alt ← oneTag event.tags "alt" 2
  guard (alt[1]? = some "Open Markets event merchant authorization".toList)
  let parentIds ← parseParents event.id (tagsNamed event.tags "auth_parent")
  guard (parentIds = [] ↔ sequence = 0)
  let repairs ← parseRepairs (tagsNamed event.tags "repair")
  return {
    eventId := event.id
    signedEvent := event
    marketCoordinate := market.coordinate
    organizerPubkey := event.pubkey
    merchantPubkey := merchant
    state := state
    sequence := sequence
    parentIds := parentIds
    repairs := repairs }

inductive Resolution where
  | invalidReference
  | missing
  | malformed
  | missingParent
  | deletedUnknown (missingTargetIds : List Text) (deletions : List SignedEvent)
  | deleted (tips : List ParsedEventMarketAuthorization)
  | conflicting (tips : List ParsedEventMarketAuthorization)
  | settled (state : AuthorizationState) (tip : ParsedEventMarketAuthorization)
    (ancestry : List ParsedEventMarketAuthorization)
  deriving DecidableEq

structure ResolutionInput where
  (marketCoordinate merchantPubkey : Text)
  (transitions deletions : List SignedEvent)

variable (events : List ParsedEventMarketAuthorization)

/-- `events.get(id)`. -/
def transitionOf (id : Text) : Option ParsedEventMarketAuthorization :=
  events.find? fun event => decide (event.eventId = id)

/-- `event.tags.some((tag) => tag[0] === name && tag[1] === value)`. -/
def HasTag (name value : Text) : Prop :=
  ∃ tag ∈ event.tags, tag[0]? = some name ∧ tag[1]? = some value
  deriving Decidable

def IsScoped (market merchantPubkey : Text) : Prop :=
  HasTag event "a" market ∧ HasTag event "p" merchantPubkey
  deriving Decidable

/-- The values of the `e` tags, where a tag without one gives the empty text. -/
def targetIds (deletion : SignedEvent) : List Text :=
  (tagsNamed deletion.tags "e").map fun tag => (tag[1]?).getD []

def parentSequences (event : ParsedEventMarketAuthorization) : List Int :=
  event.parentIds.filterMap fun id => (transitionOf events id).map (·.sequence)

def checkTransition (event : ParsedEventMarketAuthorization) : Option Resolution :=
  if event.parentIds = [] ∧ event.sequence ≠ 0 then some .malformed
  else if ∃ id ∈ event.parentIds, transitionOf events id = none then some .missingParent
  else if event.parentIds ≠ [] ∧
      event.sequence ≠ 1 + (parentSequences events event).foldr max 0 then some .malformed
  else none

/-- The transitions that no observed transition names as its parent. -/
def tipsOf : List ParsedEventMarketAuthorization :=
  events.filter fun event => ∀ child ∈ events, event.eventId ∉ child.parentIds

section
variable (events ancestry : List ParsedEventMarketAuthorization)

def walkFrom (fuel : Nat) (tip : ParsedEventMarketAuthorization) :
    Option (List ParsedEventMarketAuthorization) :=
  (visit (·.eventId) (·.parentIds) (transitionOf events) fuel
    ⟨[], []⟩ tip).map Visit.order

def descendsFrom (fuel : Nat) (transition : ParsedEventMarketAuthorization) (targetId : Text) :
    Option Bool :=
  Ancestry.descendsFrom (·.parentIds) (transitionOf events) targetId fuel
    transition

def repaired (fuel : Nat) (deletionId targetId : Text) : Option Bool :=
  ancestry.anyM fun transition =>
    if { deletionId, targetId } ∈ transition.repairs ∧
        transition.eventId ≠ targetId ∧ (transitionOf events targetId).isSome then
      descendsFrom events fuel transition targetId
    else some false

def Applies (market merchantPubkey : Text) (deletion : SignedEvent) (targetId : Text) : Prop :=
  (transitionOf events targetId).isSome ∨ IsScoped deletion market merchantPubkey
  deriving Decidable

def unrepaired (fuel : Nat) (market merchantPubkey : Text) (deletions : List SignedEvent) :
    Option Bool :=
  deletions.anyM fun deletion =>
    (targetIds deletion).anyM fun targetId =>
      if Applies events market merchantPubkey deletion targetId then
        (repaired events ancestry fuel deletion.id targetId).map not
      else some false

end

def resolveTransitions (fuel : Nat) (market merchantPubkey : Text)
    (events : List ParsedEventMarketAuthorization) (deletions : List SignedEvent) :
    Option Resolution :=
  match events.findSome? (checkTransition events) with
  | some problem => some problem
  | none =>
    match tipsOf events with
    | [tip] => do
      let ancestry ← walkFrom events fuel tip
      if ancestry.length ≠ events.length then return .conflicting [tip]
      let unrepaired ← unrepaired events ancestry fuel market merchantPubkey deletions
      if unrepaired then return .deleted [tip]
      return .settled tip.state tip ancestry
    | tips => some (.conflicting tips)

def resolveDeletions (market merchantPubkey : Text) (deletions : List SignedEvent) : Resolution :=
  let scopedDeletions := deletions.filter fun deletion =>
    IsScoped deletion market merchantPubkey ∧ ∃ id ∈ targetIds deletion, IsHex64 id
  if scopedDeletions = [] then .missing
  else .deletedUnknown
    ((scopedDeletions.flatMap fun deletion =>
      (targetIds deletion).filter fun id => IsHex64 id).foldl (fun ids id => if id ∈ ids then ids else ids ++ [id]) []) scopedDeletions

variable (accepted : SignedEvent → Bool)

variable (market : CheckoutSpark.AddressableCoordinate)

def scopedTransitions (input : ResolutionInput) : List SignedEvent :=
  (input.transitions.filter fun event => event.kind = 3841 ∧ event.pubkey = market.authorPubkey ∧
    IsScoped event market.coordinate input.merchantPubkey).filter accepted

def acceptedDeletions (input : ResolutionInput) : List SignedEvent :=
  input.deletions.filter fun event =>
    event.kind = 5 ∧ event.pubkey = market.authorPubkey ∧ accepted event = true

/-- `none` where the fuel runs out. -/
def reduceEventMarketAuthorization (P : StockPlatform) (accepted : SignedEvent → Bool)
    (parse : SignedEvent → Option ParsedEventMarketAuthorization) (fuel : Nat)
    (input : ResolutionInput) : Option Resolution :=
  match CheckoutSpark.parseAddressableCoordinate P.toPlatform input.marketCoordinate [30409] with
  | none => some .invalidReference
  | some market =>
    if ¬ IsHex64 input.merchantPubkey then some .invalidReference
    else
      match (scopedTransitions accepted market input).mapM parse with
      | none => some .malformed
      | some parsed =>
        let deletions := acceptedDeletions accepted market input
        match mapOf (·.eventId) parsed with
        | [] => some (resolveDeletions market.coordinate input.merchantPubkey deletions)
        | event :: events =>
          resolveTransitions fuel market.coordinate input.merchantPubkey (event :: events) deletions

/-- `isVerifiedNostrEvent` holds of the events whose signature was checked on arrival. -/
def parseEventMarketAuthorizationEvent
    (isVerifiedNostrEvent : SignedEvent → Bool) (event : SignedEvent) : Option ParsedEventMarketAuthorization :=
  if isVerifiedNostrEvent event then parseEventMarketAuthorizationFieldsForPrivateOrder P event
  else none

def resolveEventMarketAuthorization (isVerifiedNostrEvent : SignedEvent → Bool)
    (fuel : Nat) (input : ResolutionInput) : Option Resolution :=
  reduceEventMarketAuthorization P isVerifiedNostrEvent
    (parseEventMarketAuthorizationEvent P isVerifiedNostrEvent) fuel input

end Conduit.Markets
