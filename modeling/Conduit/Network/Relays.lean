import Conduit.CheckoutSpark.EventBinding
import Conduit.Stock.Records

namespace Conduit.Network

open Js Stock Throwing CheckoutSpark

/-- What the evidence takes from the address parser, the configuration and the language's collation. -/
structure NetworkPlatform where
  tryNormalizeRelayUrl : Text → Option Text
  /-- `config.e2eRelayIsolationEnabled`, with `getConfiguredIsolatedE2eRelayUrl()`. -/
  e2eRelayIsolation : Option (Option Text)
  isVerifiedNostrEvent : SignedEvent → Bool
  /-- `a.localeCompare(b) <= 0`. -/
  localeLe : Text → Text → Bool
  /-- `JSON.stringify` of a list of addresses. -/
  confirmationAttemptKey : List Text → Text

/-- An address that was normalised is left alone by the parser. -/
structure NetworkPlatform.Lawful (P : NetworkPlatform) : Prop where
  idempotent : ∀ {url u}, P.tryNormalizeRelayUrl url = some u → P.tryNormalizeRelayUrl u = some u
  localeLe_total : ∀ a b, P.localeLe a b = true ∨ P.localeLe b a = true
  localeLe_trans : ∀ a b c, P.localeLe a b = true → P.localeLe b c = true → P.localeLe a c = true
  localeLe_antisymm : ∀ a b, P.localeLe a b = true → P.localeLe b a = true → a = b
  key_injective : ∀ a b, P.confirmationAttemptKey a = P.confirmationAttemptKey b → a = b

variable (P : NetworkPlatform)

variable (urls : List Text)

/-- Normalize and deduplicate, in the order of the first occurrences. -/
def uniqueRelayUrls : List Text :=
  (urls.filterMap P.tryNormalizeRelayUrl).eraseDups

/-- The address that an isolated run may use, when it is among the given ones. -/
def isolatedRelayUrls (isolated : Option Text) (urls : List Text) : List Text :=
  match isolated with
  | none => []
  | some url => if ∃ u ∈ urls, P.tryNormalizeRelayUrl u = some url then [url] else []

def normalizeOwnerSelectedRelayUrls : List Text :=
  match P.e2eRelayIsolation with
  | some isolated => isolatedRelayUrls P isolated urls
  | none => uniqueRelayUrls P urls

def normalizeSecureRelayUrls : List Text :=
  ((urls.filterMap P.tryNormalizeRelayUrl).filter fun url => startsWith url "wss://").eraseDups

def normalizeSecureOrIsolatedE2eRelayUrls : List Text :=
  match P.e2eRelayIsolation with
  | some isolated => isolatedRelayUrls P isolated urls
  | none => normalizeSecureRelayUrls P urls

/-- `normalizeRetainedRelayUrls`. -/
abbrev normalizeRetainedRelayUrls (urls : List Text) : List Text :=
  normalizeOwnerSelectedRelayUrls P urls

/-- `urls.sort()`. -/
def sortUrls : List Text := urls.insertionSort TextLe

end Conduit.Network
