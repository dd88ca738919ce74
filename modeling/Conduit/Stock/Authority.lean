import Conduit.CheckoutSpark.EventBinding
import Conduit.Stock.Records

namespace Conduit.Stock

open Js Throwing

structure StockParties where
  (merchantPubkey organizerPubkey : Text)
  writerId : Text
  deriving DecidableEq

structure StockGrant extends StockParties where
  (nonce productCoordinate assignmentCoordinate marketCoordinate occurrenceCoordinate : Text)
  (productEventId assignmentEventId marketEventId occurrenceEventId : Text)
  grantEventId : Text
  scheduleEventId : Option Text
  (quantity expiresAtMs : Int)
  deriving DecidableEq

structure StockAcceptance extends StockParties where
  poolId : Text
  sequence : Int
  (previousId orderId identityBinding termsBinding claimRef : Text)
  (quantity acceptedAtMs : Int)
  deriving DecidableEq

structure StockClose extends StockParties where
  poolId : Text
  sequence : Int
  lastAcceptedId : Text
  acceptedQuantity : Int
  deriving DecidableEq

structure HandoutLine where
  (poolId acceptedId : Text)
  quantity : Int
  deriving DecidableEq

structure StockHandout extends StockParties where
  (orderId identityBinding termsBinding claimRef : Text)
  entries : List HandoutLine
  handedOutAtMs : Int
  deriving DecidableEq

inductive StockPayload where
  | grant (grant : StockGrant)
  | accepted (acceptance : StockAcceptance)
  | closed (close : StockClose)
  | handedOut (handout : StockHandout)
  deriving DecidableEq

def StockPayload.parties : StockPayload → StockParties
  | .grant g => g.toStockParties
  | .accepted a => a.toStockParties
  | .closed c => c.toStockParties
  | .handedOut h => h.toStockParties

structure Unsigned where
  kind : Int
  pubkey : Text
  createdAt : Int
  tags : List (List Text)
  content : StockPayload
  deriving DecidableEq

structure Rumor extends Unsigned where
  id : Text
  deriving DecidableEq

structure OrderBindings where
  (identityHash termsHash identityBinding termsBinding : Text)

structure StockPlatform extends Platform where
  /-- `getEventHash`. -/
  eventHash : Unsigned → Text
  /-- `new TextEncoder().encode(JSON.stringify(payload)).byteLength`. -/
  payloadBytes : StockPayload → Nat
  /-- `assertPrivateMessageFitsTransport`. -/
  fitsTransport : Unsigned → Bool
  /-- `isValidSignedPublicNostrEvent`. -/
  isValidSignedEvent : SignedEvent → Bool
  /-- `Number(text)` where that is an integer. -/
  integerOf : Text → Option Int
  /-- `new TextEncoder().encode(JSON.stringify(event)).length`. -/
  eventBytes : SignedEvent → Nat
  /-- `new URL(hint)` names a web socket host, without a user, a password or a fragment. -/
  isRelayHint : Text → Bool
  /-- The exclusive end of the calendar event that `parseEventMarketCalendarEvent` reads. -/
  calendarEnd : SignedEvent → Option Int
  /-- `merchantAcceptanceBinding("evidence", evidence)`. -/
  evidenceBinding : Text → Text
  unwrap : SignedEvent → Option Rumor
  openEvidence : Text → Option OrderBindings

def authorityInvalid : Failure := .error "Event Market stock authority is invalid."

/-- `count(value)` and `count(value, true)`. -/
def IsCount (value minimum : Int) : Prop := minimum ≤ value ∧ value ≤ maxStock
  deriving Decidable

def IsTime (value : Int) : Prop := IsSafeInteger value ∧ 0 ≤ value
  deriving Decidable

/-- `/^[0-9a-f]{8}-[0-9a-f]{4}-4[0-9a-f]{3}-[89ab][0-9a-f]{3}-[0-9a-f]{12}$/`. -/
def IsUuidV4 (s : Text) : Prop :=
  match split '-' s with
  | [a, b, c, d, e] =>
    (a.length = 8 ∧ b.length = 4 ∧ c.length = 4 ∧ d.length = 4 ∧ e.length = 12) ∧
      (∀ part ∈ [a, b, c, d, e], part.all isHexChar = true) ∧ c.head? = some '4' ∧
      ∃ variant ∈ d.head?, variant ∈ ("89ab" : Text)
  | _ => False

instance (s : Text) : Decidable (IsUuidV4 s) := by
  unfold IsUuidV4
  exact match split '-' s with
    | [] | [_] | [_, _] | [_, _, _] | [_, _, _, _] | [_, _, _, _, _] => inferInstance
    | _ :: _ :: _ :: _ :: _ :: _ :: _ => inferInstanceAs (Decidable False)

variable (P : StockPlatform)

def StockParties.Parses (p : StockParties) : Prop :=
  P.isValidNostrPublicKey p.merchantPubkey = true ∧ IsHex64 p.merchantPubkey ∧
    P.isValidNostrPublicKey p.organizerPubkey = true ∧ IsHex64 p.organizerPubkey ∧
    p.merchantPubkey ≠ p.organizerPubkey ∧ IsUuidV4 p.writerId
  deriving Decidable

def StockGrant.Parses (g : StockGrant) : Prop :=
  IsUuidV4 g.nonce ∧
    (∀ id ∈ [g.productEventId, g.assignmentEventId, g.marketEventId, g.occurrenceEventId,
      g.grantEventId], IsHex64 id) ∧
    (∀ id ∈ g.scheduleEventId, IsHex64 id) ∧ IsCount g.quantity 1 ∧ IsTime g.expiresAtMs ∧
    CheckoutSpark.IsCanonicalCoordinate P.toPlatform g.productCoordinate [30402] g.merchantPubkey ∧
    CheckoutSpark.IsCanonicalCoordinate P.toPlatform g.assignmentCoordinate [30410]
      g.merchantPubkey ∧
    CheckoutSpark.IsCanonicalCoordinate P.toPlatform g.marketCoordinate [30409]
      g.organizerPubkey ∧
    CheckoutSpark.IsCanonicalCoordinate P.toPlatform g.occurrenceCoordinate [31922, 31923]
      g.organizerPubkey
  deriving Decidable

def StockAcceptance.Parses (a : StockAcceptance) : Prop :=
  (∀ id ∈ [a.poolId, a.previousId, a.identityBinding, a.termsBinding, a.claimRef], IsHex64 id) ∧
    IsCount a.sequence 1 ∧ IsCount a.quantity 1 ∧ IsTime a.acceptedAtMs ∧ a.orderId ≠ [] ∧
    length a.orderId ≤ 512 ∧ trim a.orderId = a.orderId ∧
    a.orderId.all (fun c => !P.isControl c) = true ∧
    (if a.sequence = 1 then a.previousId = a.poolId else a.previousId ≠ a.poolId)
  deriving Decidable

def StockClose.Parses (c : StockClose) : Prop :=
  IsHex64 c.poolId ∧ IsHex64 c.lastAcceptedId ∧ IsCount c.sequence 0 ∧
    IsCount c.acceptedQuantity 0 ∧
    (if c.sequence = 0 then c.lastAcceptedId = c.poolId ∧ c.acceptedQuantity = 0
      else c.lastAcceptedId ≠ c.poolId ∧ c.sequence ≤ c.acceptedQuantity)
  deriving Decidable

def StockHandout.Parses (h : StockHandout) : Prop :=
  h.orderId ≠ [] ∧ length h.orderId ≤ 512 ∧ trim h.orderId = h.orderId ∧
    h.orderId.all (fun c => !P.isControl c) = true ∧
    (∀ id ∈ [h.identityBinding, h.termsBinding, h.claimRef], IsHex64 id) ∧
    IsTime h.handedOutAtMs ∧ 1 ≤ h.entries.length ∧ h.entries.length ≤ 128 ∧
    (∀ entry ∈ h.entries, IsHex64 entry.poolId ∧ IsHex64 entry.acceptedId ∧
      IsCount entry.quantity 1) ∧
    (h.entries.map HandoutLine.acceptedId).Nodup ∧
    (h.entries.map HandoutLine.poolId).IsChain fun a b => ¬ CheckoutSpark.TextLe b a
  deriving Decidable

/-- `parsePayload` accepts the payload. -/
def StockPayload.Parses (P : StockPlatform) (payload : StockPayload) : Prop :=
  payload.parties.Parses P ∧
    match payload with
    | .grant g => g.Parses P
    | .accepted a => a.Parses P
    | .closed c => c.Parses
    | .handedOut h => h.Parses P

instance (P : StockPlatform) (payload : StockPayload) : Decidable (payload.Parses P) := by
  unfold StockPayload.Parses; cases payload <;> infer_instance

variable (payload : StockPayload)

variable (createdAt : Int)

/-- `assertTimeBinding`. -/
def StockPayload.TimeBound : Prop :=
  IsTime createdAt ∧ IsSafeInteger (createdAt * 1000) ∧
    match payload with
    | .grant g => createdAt * 1000 < g.expiresAtMs
    | .accepted a => a.acceptedAtMs / 1000 = createdAt
    | .closed _ => True
    | .handedOut h => h.handedOutAtMs / 1000 = createdAt

instance (payload : StockPayload) (createdAt : Int) : Decidable (payload.TimeBound createdAt) := by
  unfold StockPayload.TimeBound; cases payload <;> infer_instance

def StockPayload.sender : StockPayload → Text
  | .grant g => g.merchantPubkey
  | .accepted a => a.organizerPubkey
  | .closed c => c.organizerPubkey
  | .handedOut h => h.organizerPubkey

def StockPayload.recipient : StockPayload → Text
  | .grant g => g.organizerPubkey
  | .accepted a => a.merchantPubkey
  | .closed c => c.merchantPubkey
  | .handedOut h => h.merchantPubkey

def authorityTags : List (List Text) :=
  [["p", payload.recipient], ["subject", "conduit-event-stock"],
    ["conduit", "event-stock", "1"]]

def authorityMessage : Unsigned where
  kind := 14
  pubkey := payload.sender
  createdAt := createdAt
  tags := authorityTags payload
  content := payload

/-- Pure unsigned construction. -/
def createStockAuthorityRumor : Result Rumor := do
  let message := authorityMessage payload createdAt
  reject (¬ payload.Parses P ∨ ¬ payload.TimeBound createdAt ∨ P.payloadBytes payload > 16384)
    authorityInvalid
  reject (P.fitsTransport message = false)
    (.error ("This message is too large to send securely. For an order, remove items from the " ++
      "cart or contact the merchant to arrange a smaller order."))
  return { message with id := P.eventHash message }

/-- Strict structural decoder only. -/
def parseStockAuthorityRumor (rumor : Rumor) : Result StockPayload := do
  let payload := rumor.content
  reject (rumor.kind ≠ 14 ∨ ¬ IsHex64 rumor.id ∨ P.payloadBytes payload > 16384 ∨
      ¬ payload.Parses P ∨ ¬ payload.TimeBound rumor.createdAt ∨ rumor.pubkey ≠ payload.sender ∨
      rumor.tags ≠ authorityTags payload ∨ rumor.id ≠ P.eventHash rumor.toUnsigned ∨
      P.fitsTransport rumor.toUnsigned = false)
    authorityInvalid
  return payload

/-- `payload.type === "accepted"`. -/
def parseAcceptance (rumor : Rumor) (e : Failure) : Result StockAcceptance := do
  match ← parseStockAuthorityRumor P rumor with
  | .accepted a => return a
  | _ => .error e

section
variable {P : StockPlatform} {rumor : Rumor} {payload : StockPayload} {createdAt : Int}

lemma parseStockAuthorityRumor_ok :
    parseStockAuthorityRumor P rumor = .ok payload ↔ payload = rumor.content ∧ rumor.kind = 14 ∧
      IsHex64 rumor.id ∧ P.payloadBytes payload ≤ 16384 ∧ payload.Parses P ∧
      payload.TimeBound rumor.createdAt ∧ rumor.pubkey = payload.sender ∧
      rumor.tags = authorityTags payload ∧ rumor.id = P.eventHash rumor.toUnsigned ∧
      P.fitsTransport rumor.toUnsigned = true := by
  simp only [parseStockAuthorityRumor, rejects_ok, pure_ok, not_or, not_not, not_lt,
    ne_eq, Bool.not_eq_false, gt_iff_lt]
  constructor
  · rintro ⟨⟨h₁, h₂, h₃, h₄, h₅, h₆, h₇, h₈, h₉⟩, rfl⟩
    exact ⟨rfl, h₁, h₂, h₃, h₄, h₅, h₆, h₇, h₈, h₉⟩
  · rintro ⟨rfl, h₁, h₂, h₃, h₄, h₅, h₆, h₇, h₈, h₉⟩
    exact ⟨⟨h₁, h₂, h₃, h₄, h₅, h₆, h₇, h₈, h₉⟩, rfl⟩

lemma createStockAuthorityRumor_ok :
    createStockAuthorityRumor P payload createdAt = .ok rumor ↔ payload.Parses P ∧
      payload.TimeBound createdAt ∧ P.payloadBytes payload ≤ 16384 ∧
      P.fitsTransport (authorityMessage payload createdAt) = true ∧
      rumor = { authorityMessage payload createdAt with
        id := P.eventHash (authorityMessage payload createdAt) } := by
  simp only [createStockAuthorityRumor, rejects_ok, pure_ok, not_or, not_not, not_lt,
    Bool.not_eq_false, gt_iff_lt, and_assoc, @eq_comm _ rumor]

lemma parseAcceptance_ok {e : Failure} {a : StockAcceptance} :
    parseAcceptance P rumor e = .ok a ↔ parseStockAuthorityRumor P rumor = .ok (.accepted a) := by
  unfold parseAcceptance
  rw [bind_ok]
  constructor
  · rintro ⟨payload, hp, h⟩
    cases payload with
    | accepted b =>
      obtain rfl := pure_ok.1 h
      exact hp
    | grant | closed | handedOut => cases h
  · intro h
    exact ⟨_, h, rfl⟩

end

end Conduit.Stock
