import Conduit.Js.Text
import Conduit.Throwing

namespace Conduit

open Js

/-- What a function of the program throws. -/
inductive Failure where
  | error (message : String)
  | repositoryConflict
  | repositoryIntegrity
  | invoiceOriginUnavailable
  | invoiceRange (minimumSats maximumSats : Int)
  deriving DecidableEq

abbrev Result (α : Type) := Except Failure α

/-- The values whose `JSON.stringify` text is hashed. -/
inductive Json where
  | null
  | bool (b : Bool)
  | num (n : Int)
  | str (s : Text)
  | arr (items : List Json)
  | obj (fields : List (Text × Json))

/-- The tuples of `...(value ? [f(value)] : [])`. -/
def Json.ofOption {α : Type} (f : α → Json) : Option α → List Json
  | some a => [f a]
  | none => []

/-- What `parseBolt11Invoice` and `isValidLightningInvoice` read beyond an invoice's prefix. -/
structure Bolt11Fields where
  (msats expiresAt : Option Int)
  paymentHash : Option Text
  wellSigned : Bool

inductive EvidenceSchema where
  | pricing
  | pricingAuthority
  | sourcePrice
  | variation
  | shippingPolicyQuote

/-- A signed Nostr event whose id and signature were verified and that has no other key. -/
structure ZapRequest where
  (id pubkey : Text)
  (createdAt kind : Int)
  tags : List (List Text)
  content : Text

/-- The parts of the program's platform that its own rules treat as opaque. -/
structure Platform where
  /-- `bytesToHex(sha256(JSON.stringify(value)))`. -/
  digest : Json → Text
  /-- The rest of a lower-case text that starts with a BOLT11 prefix. -/
  readBolt11 : Text → Option Bolt11Fields
  /-- `schema.parse` on JSON text. -/
  parseEvidence : EvidenceSchema → Text → Option Text
  /-- The digest tuple of parsed evidence. -/
  evidenceDigestValue : EvidenceSchema → Text → Json
  /-- `normalizePublicWebSocketUrl` of a URL with neither search nor hash. -/
  normalizePublicWebSocketUrl : Text → Option Text
  /-- `normalizeSafeLnurlPayRequestUrl`. -/
  normalizeSafeLnurlPayRequestUrl : Text → Option Text
  /-- The JSON text of a receiver's metadata names exactly this lightning address. -/
  identifierMatches : Text → Text → Bool
  isValidNostrPublicKey : Text → Bool
  encodeLnurl : Text → Text
  /-- `JSON.parse` and `isValidSignedPublicNostrEvent` of a zap request. -/
  readZapRequest : Text → Option ZapRequest
  /-- `validateZapInvoiceDescriptionBinding` of an invoice and a request. -/
  bindsZapDescription : Text → Text → Bool
  /-- `/\p{Cc}/u` on one character. -/
  isControl : Char → Bool

end Conduit
