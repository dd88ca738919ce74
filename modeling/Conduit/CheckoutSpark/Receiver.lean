import Conduit.CheckoutSpark.EventBinding

namespace Conduit.CheckoutSpark

open Js Throwing

inductive PublicZapSigner where
  | shopper
  | anonymousService (authorizationDigest : Text)
  deriving DecidableEq

structure MerchantPublicZapPolicy where
  signer : PublicZapSigner
  signerPubkey : Text
  relays : List Text
  content : Text
  deriving DecidableEq

/-- Exact selected candidate, retained privately with its immutable payout. -/
structure PublicZapContext where
  (requestJson requestId : Text)
  requestCreatedAt : Int
  (recipientPubkey receiptPubkey lnurl callback payRequestUrl : Text)
  deriving DecidableEq

inductive ReceiverMode where
  | isPrivate
  | isPublic
  deriving DecidableEq

/-- Portable issuance facts only. -/
structure ReceiverBinding where
  contractId : Text
  mode : ReceiverMode
  (lud16 payRequestUrl callbackUrl metadata verifyUrl : Text)
  deriving DecidableEq

def buildAnonZapCheckoutContent (itemCount : Nat) : Text :=
  "Zapped out " ++ numberText itemCount ++ (if itemCount = 1 then " item" else " items") ++
    " at https://shop.conduit.market/"

def anonZapItemCount (content : Text) : Nat :=
  digitsValue ((content.drop 11).takeWhile isDigitChar)

def AnonymousApproval (policy : MerchantPublicZapPolicy) : Prop :=
  match policy.signer with
  | .shopper => True
  | .anonymousService authorizationDigest =>
    IsHex64 authorizationDigest ∧ 1 ≤ anonZapItemCount policy.content ∧
      anonZapItemCount policy.content ≤ 4950 ∧
      policy.content = buildAnonZapCheckoutContent (anonZapItemCount policy.content)

instance (policy : MerchantPublicZapPolicy) : Decidable (AnonymousApproval policy) := by
  unfold AnonymousApproval; split <;> infer_instance

/-- `normalized.replace(/\\/$/, "")`. -/
def stripTrailingSlash (url : Text) : Text :=
  if url.getLast? = some '/' then url.dropLast else url

variable (P : Platform)

def normalizeZapRelay (relay : Text) : Result Text :=
  match P.normalizePublicWebSocketUrl relay with
  | some normalized => .ok (stripTrailingSlash normalized)
  | none => .error (.error "Checkout Spark public zap relay is invalid.")

variable (input : MerchantPublicZapPolicy)

def freezeMerchantPublicZapPolicy : Result MerchantPublicZapPolicy := do
  reject (P.isValidNostrPublicKey input.signerPubkey = false ∨
      input.signerPubkey ≠ toLowerCase input.signerPubkey ∨
      (input.signer = .shopper ∧ input.content ≠ []) ∨ input.relays = [] ∨
      input.relays.length > 12)
    (.error "Checkout Spark public zap approval is invalid.")
  reject (¬ AnonymousApproval input)
    (.error "Checkout Spark anonymous public zap approval is invalid.")
  let relays ← mapResult (normalizeZapRelay P) input.relays
  reject (¬ relays.Nodup) (.error "Checkout Spark public zap relays are duplicated.")
  return { input with relays := relays }

def merchantPublicZapPolicyDigestValue : Result Json := do
  let policy ← freezeMerchantPublicZapPolicy P input
  let relays : Json := .arr (policy.relays.map Json.str)
  return match policy.signer with
    | .anonymousService authorizationDigest =>
      .arr [.str "conduit:checkout-spark-merchant-public-zap:v2", .str "anonymous_service",
        .str policy.signerPubkey, .str authorizationDigest, relays, .str policy.content, .bool true]
    | .shopper =>
      .arr [.str "conduit:checkout-spark-merchant-public-zap:v1", .str policy.signerPubkey, relays,
        .str policy.content, .bool true]

def zapRequestTags (recipient : Text) (amountMsats : Int) (lnurl : Text)
    (relays : List Text) : List (List Text) :=
  [["p", recipient], ["amount", numberText amountMsats], ["lnurl", lnurl], "relays" :: relays,
    ["omf", "zapout"], ["client", "conduit-market"]]

def isAttestationKeyChar (c : Char) : Bool :=
  isLowerAlphanumeric c || (65 ≤ c.toNat && c.toNat ≤ 90) || c == '_' || c == '-'

def IsZapAttestation (tag : List Text) : Prop :=
  match tag with
  | [name, keyId, signature] =>
    name = "omf_auth" ∧ 1 ≤ keyId.length ∧ keyId.length ≤ 32 ∧
      keyId.all isAttestationKeyChar = true ∧ signature.length = 128 ∧
      signature.all isHexChar = true
  | _ => False

instance (tag : List Text) : Decidable (IsZapAttestation tag) := by
  unfold IsZapAttestation; split <;> infer_instance

def MatchesPolicyTags (tags baseTags : List (List Text)) (policy : MerchantPublicZapPolicy) :
    Prop :=
  match policy.signer with
  | .shopper => tags = baseTags
  | .anonymousService _ =>
    tags.length = baseTags.length + 1 ∧ (∃ tag ∈ tags.getLast?, IsZapAttestation tag) ∧
      tags.dropLast = baseTags

instance (tags baseTags : List (List Text)) (policy : MerchantPublicZapPolicy) :
    Decidable (MatchesPolicyTags tags baseTags policy) := by
  unfold MatchesPolicyTags; split <;> infer_instance

structure PublicZapExpectation where
  policy : MerchantPublicZapPolicy
  (recipientPubkey lud16 : Text)
  amountSats : Int
  paymentRequest : Text
  (preparedAt planCreatedAt : Int)

def lnurlPayRequestUrl (lud16 : Text) : Text :=
  let parts := split '@' (toLowerCase (trim lud16))
  let user : Text := parts[0]?.getD "undefined".toList
  let domain : Text := parts[1]?.getD "undefined".toList
  "https://" ++ domain ++ "/.well-known/lnurlp/" ++ user

/-- Revalidation, not a payment receipt or device-local invoice-origin proof. -/
def restorePublicZapContext (input : PublicZapContext)
    (expected : PublicZapExpectation) : Result PublicZapContext := do
  let policy ← freezeMerchantPublicZapPolicy P expected.policy
  let payRequestUrl := lnurlPayRequestUrl expected.lud16
  reject (length input.requestJson > 16384 ∨
      input.recipientPubkey ≠ expected.recipientPubkey ∨
      P.isValidNostrPublicKey input.receiptPubkey = false ∨
      input.receiptPubkey ≠ toLowerCase input.receiptPubkey ∨
      input.payRequestUrl ≠ payRequestUrl ∨ input.lnurl ≠ P.encodeLnurl payRequestUrl ∨
      P.normalizeSafeLnurlPayRequestUrl input.callback ≠ some input.callback ∨
      ¬ IsSafeInteger input.requestCreatedAt ∨ input.requestCreatedAt < 0 ∨
      input.requestCreatedAt * 1000 > expected.preparedAt ∨
      input.requestCreatedAt < expected.planCreatedAt / 1000)
    (.error "Checkout Spark public zap context is invalid.")
  match P.readZapRequest input.requestJson with
  | none => .error (.error "Checkout Spark public zap request is invalid.")
  | some request =>
    reject (request.id ≠ input.requestId ∨ request.pubkey ≠ policy.signerPubkey ∨
        request.kind ≠ 9734 ∨ request.createdAt ≠ input.requestCreatedAt ∨
        request.content ≠ policy.content ∨
        ¬ MatchesPolicyTags request.tags
          (zapRequestTags expected.recipientPubkey (expected.amountSats * 1000) input.lnurl
            policy.relays) policy ∨
        P.bindsZapDescription expected.paymentRequest input.requestJson = false)
      (.error "Checkout Spark public zap request binding is invalid.")
    return input

def isContractChar (c : Char) : Bool :=
  isLowerAlphanumeric c || c == '.' || c == '_' || c == '-'

/-- `/^[a-z0-9][a-z0-9._-]{0,95}$/`. -/
def IsContractId (value : Text) : Prop :=
  value.length ≤ 96 ∧ (∃ c ∈ value.head?, isLowerAlphanumeric c = true) ∧
    value.all isContractChar = true
  deriving Decidable

/-- Shape validation does not produce authority. -/
def freezeReceiverBinding (value : ReceiverBinding) : Result ReceiverBinding := do
  reject (¬ IsContractId value.contractId ∨
      normalizeReceiverAddress value.lud16 ≠ some value.lud16 ∨
      P.identifierMatches value.metadata value.lud16 = false ∨
      P.normalizeSafeLnurlPayRequestUrl value.payRequestUrl ≠ some value.payRequestUrl ∨
      P.normalizeSafeLnurlPayRequestUrl value.callbackUrl ≠ some value.callbackUrl ∨
      P.normalizeSafeLnurlPayRequestUrl value.verifyUrl ≠ some value.verifyUrl)
    (.error "Checkout receiver binding is invalid.")
  return value

variable {P : Platform}

lemma restorePublicZapContext_eq {input c : PublicZapContext} {expected : PublicZapExpectation}
    (h : restorePublicZapContext P input expected = .ok c) : c = input := by
  simp only [restorePublicZapContext, run_ok] at h
  obtain ⟨policy, -, -, h⟩ := h
  split at h
  · cases h
  · simp only [run_ok] at h
    exact h.2.symm

lemma freezeReceiverBinding_eq {value b : ReceiverBinding}
    (h : freezeReceiverBinding P value = .ok b) : b = value := by
  simp only [freezeReceiverBinding, run_ok] at h
  exact h.2.symm

/-- Every relay is already in the form that a freeze gives it. -/
def MerchantPublicZapPolicy.Settled (P : Platform) (policy : MerchantPublicZapPolicy) : Prop :=
  ∀ relay ∈ policy.relays, normalizeZapRelay P relay = .ok relay

lemma freezeMerchantPublicZapPolicy_idem {input policy : MerchantPublicZapPolicy}
    (h : freezeMerchantPublicZapPolicy P input = .ok policy) (hs : policy.Settled P) :
    freezeMerchantPublicZapPolicy P policy = .ok policy := by
  simp only [freezeMerchantPublicZapPolicy, run_ok] at h
  obtain ⟨ha, han, relays, hr, hnd, rfl⟩ := h
  have hl := mapResult_length hr
  have hne : relays ≠ [] := by
    intro hn
    rw [hn] at hl
    exact ha (by simp [List.eq_nil_of_length_eq_zero hl.symm])
  have hk : mapResult (normalizeZapRelay P) relays = .ok relays := mapResult_self_iff.2 hs
  simp only [freezeMerchantPublicZapPolicy, run_ok]
  refine ⟨?_, han, relays, hk, hnd, rfl⟩
  rintro (hkey | hlo | hc | he | hm)
  · exact ha (.inl hkey)
  · exact ha (.inr (.inl hlo))
  · exact ha (.inr (.inr (.inl hc)))
  · exact hne he
  · exact ha (.inr (.inr (.inr (.inr (hl ▸ hm)))))

end Conduit.CheckoutSpark
