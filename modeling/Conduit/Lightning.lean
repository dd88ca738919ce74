import Conduit.Platform
import Mathlib.Data.List.Infix

namespace Conduit

open Js

inductive LightningInvoiceNetwork where
  | mainnet
  | testnet
  | signet
  | regtest
  | unknown
  deriving DecidableEq

def lightningScheme : Text := "lightning:"

/-- `.replace(/^lightning:/i, "")`. -/
def stripLightningScheme (l : Text) : Text :=
  if toLowerCase (l.take 10) = lightningScheme then l.drop 10 else l

def normalizeLightningInvoice (invoice : Text) : Text :=
  stripLightningScheme (trim invoice)

/-- `/^ln(?:bcrt|tbs|bc|tb|sb)/`, the start of every invoice prefix that the reader takes. -/
def hasBolt11Prefix (normalized : Text) : Bool :=
  startsWith normalized "lnbc" || startsWith normalized "lntb" || startsWith normalized "lnsb"

def isMixedCase (raw : Text) : Bool :=
  raw.any (fun c => 97 ≤ c.toNat && c.toNat ≤ 122) &&
    raw.any (fun c => 65 ≤ c.toNat && c.toNat ≤ 90)

variable (P : Platform)

variable (invoice : Text)

/-- `parseBolt11Invoice` with the checks of `isValidLightningInvoice` on the fields it reads. -/
def parseBolt11Invoice : Option Bolt11Fields :=
  let raw := normalizeLightningInvoice invoice
  if isMixedCase raw then none
  else
    let normalized := toLowerCase raw
    if hasBolt11Prefix normalized then P.readBolt11 normalized else none

def isValidLightningInvoice : Bool :=
  match parseBolt11Invoice P invoice with
  | some fields => fields.wellSigned
  | none => false

def decodeLightningInvoiceMsats : Option Int :=
  (parseBolt11Invoice P invoice).bind Bolt11Fields.msats

/-- The `expiresAt` of `decodeLightningInvoiceMetadata`, in seconds. -/
def decodeLightningInvoiceExpiresAt : Option Int :=
  (parseBolt11Invoice P invoice).bind Bolt11Fields.expiresAt

def decodeLightningInvoicePaymentHash : Option Text :=
  (parseBolt11Invoice P invoice).bind Bolt11Fields.paymentHash

def getLightningInvoiceNetwork : LightningInvoiceNetwork :=
  let normalized := toLowerCase (normalizeLightningInvoice invoice)
  if startsWith normalized "lnbcrt" then .regtest
  else if startsWith normalized "lnbc" then .mainnet
  else if startsWith normalized "lntbs" then .signet
  else if startsWith normalized "lnsb" then .signet
  else if startsWith normalized "lntb" then .testnet
  else .unknown

def canonicalPaymentRequest (request : Text) : Text :=
  toLowerCase (normalizeLightningInvoice request)

def isLowerAlpha (c : Char) : Bool := 97 ≤ c.toNat && c.toNat ≤ 122

def isLowerAlphanumeric (c : Char) : Bool :=
  isLowerAlpha c || (48 ≤ c.toNat && c.toNat ≤ 57)

/-- `/^[a-z0-9.-]+\.[a-z]{2,}$/`, read from the last dot. -/
def MatchesDomain (domain : Text) : Prop :=
  let tld := (domain.reverse.takeWhile (· != '.')).reverse
  let rest := (domain.reverse.dropWhile (· != '.')).reverse.dropLast
  '.' ∈ domain ∧ 2 ≤ tld.length ∧ tld.all isLowerAlpha = true ∧ rest ≠ [] ∧
    rest.all (fun c => isLowerAlphanumeric c || c == '.' || c == '-') = true
  deriving Decidable

/-- `isValidLud16Address` on a text that is already trimmed and in lower case. -/
def IsValidLud16Address (trimmed : Text) : Prop :=
  match split '@' trimmed with
  | [user, domain] =>
    user ≠ [] ∧ domain ≠ [] ∧
    user.all (fun c => isLowerAlphanumeric c || "._~!$&'()*+,;=:-".toList.contains c) = true ∧
    MatchesDomain domain ∧ domain.head? ≠ some '.' ∧ domain.getLast? ≠ some '.' ∧
    ¬ ['.', '.'] <:+: domain
  | _ => False

instance (trimmed : Text) : Decidable (IsValidLud16Address trimmed) := by
  unfold IsValidLud16Address; split <;> infer_instance

end Conduit
