import Conduit.Gateway.Names

namespace Conduit.Gateway

open Js Throwing

inductive Operation where
  | register
  | unregister
  | transfer
  | recover
  | available
  | metadata
  deriving DecidableEq

def Operation.Changes (operation : Operation) : Prop :=
  operation = .register ∨ operation = .unregister ∨ operation = .transfer
  deriving Decidable

/-- `body` is `none` where the request has none that is UTF-8. -/
structure Request where
  (method url : Text)
  (origin authorization body : Option Text)
  deriving DecidableEq

structure Reply where
  value : Text
  status : Nat

def response (value : String) (status : Nat) : Reply := ⟨value, status⟩

/-- What a throw becomes. -/
def unavailable : Reply := response "request unavailable" 503

def orReply {α : Type} (o : Option α) (reply : Reply) : Except Reply α :=
  o.elim (.error reply) .ok

lemma orReply_ok {α : Type} {o : Option α} {reply : Reply} {a : α} :
    orReply o reply = .ok a ↔ o = some a := by
  cases o <;> simp [orReply]

/-- `^\/lnurlpay\/((?:02|03)[a-f0-9]{64})(?:\/(recover|available|transfer|metadata))?$`. -/
def managementPath (pathname : Text) : Option (Text × Option Text) :=
  match split '/' pathname with
  | [start, lnurlpay, identity] =>
    if start = [] ∧ lnurlpay = "lnurlpay".toList ∧ IsCompressedPubkey identity then
      some (identity, none)
    else none
  | [start, lnurlpay, identity, segment] =>
    if start = [] ∧ lnurlpay = "lnurlpay".toList ∧ IsCompressedPubkey identity ∧
        segment ∈ ["recover".toList, "available".toList, "transfer".toList, "metadata".toList] then
      some (identity, some segment)
    else none
  | _ => none

def operationOf (segment : Option Text) (method : Text) : Operation :=
  match segment with
  | none => if method = "DELETE".toList then .unregister else .register
  | some segment =>
    if segment = "recover".toList then .recover
    else if segment = "available".toList then .available
    else if segment = "transfer".toList then .transfer
    else .metadata

def domain : Text := "conduit.cash"

def lines (parts : List Text) : Text := joinWith '\n' parts

variable (P : GatewayPlatform)

def breezAddressMessage (operation : Operation) (identity username description : Text)
    (timestamp : Int) : Text :=
  match operation with
  | .register => lines ["breez-lnurl:v2", "register", domain, username,
      P.addressRequestHash description, numberText timestamp]
  | .available =>
    lines ["breez-lnurl:v2", "available", domain, identity, username, numberText timestamp]
  | _ => lines ["breez-lnurl:v2", "recover", domain, identity, numberText timestamp]

def unregisterMessage (name : Text) (timestamp : Int) : Text :=
  lines ["breez-lnurl:v2", "unregister", domain, name, numberText timestamp]

def transferFromMessage (name source identity : Text) (timestamp : Int) : Text :=
  lines ["breez-lnurl:v2", "transfer-from", domain, name, source, identity, numberText timestamp]

def transferToMessage (name source identity description : Text) (timestamp : Int) : Text :=
  lines ["breez-lnurl:v2", "transfer-to", domain, name, source, identity,
    P.addressRequestHash description, numberText timestamp]

/-- `typeof value === "string" ? value : ""`. -/
def stringOrEmpty (value : Option JsonValue) : Text := (value.bind JsonValue.string?).getD []

def isDerHex (signature : Text) : Bool :=
  16 ≤ signature.length && signature.length ≤ 144 && signature.length % 2 == 0 &&
    signature.all isHexChar

def VerifyAddressWalletSignature (message signature identity : Text) : Prop :=
  isDerHex signature = true ∧ ValidSparkIdentity P identity ∧
    P.verify signature message identity = true
  deriving Decidable

def fresh (timestamp : Option JsonValue) (now : Int) : Option Int := do
  let n ← timestamp.bind JsonValue.int?
  guard (IsSafeInteger n ∧ (now - n).natAbs ≤ 600)
  pure n

def ApprovalWindow (bound : Option Int) (now : Int) : Prop :=
  ∃ u ∈ bound, IsSafeInteger u ∧ now ≤ u ∧ u - now ≤ 86400
  deriving Decidable

variable (approval : Option ApprovedName)

def Registrable : Prop := ∃ n ∈ approval, n.registration = true
  deriving Decidable

def Deletable (now : Int) : Prop :=
  ∃ n ∈ approval, ApprovalWindow n.deleteUntil now
  deriving Decidable

def Transferable (source identity : Text) (now : Int) : Prop :=
  ∃ n ∈ approval, n.transferFrom = some source ∧ ApprovalWindow n.transferUntil now ∧
    source ≠ identity
  deriving Decidable

/-- `String(body.from_pubkey ?? "")`. -/
def fromPubkey (body : JsonValue) : Option Text :=
  let value := body.field "from_pubkey"
  if JsonValue.isNullish value then some [] else textOf value

def transferStatements (body : JsonValue) (identity name description : Text) (timestamp : Int)
    (approval : Option ApprovedName) (now : Int) : Except Reply (List Text) := do
  let source ← orReply (fromPubkey body) unavailable
  reject (¬ Transferable approval source identity now) (response "name not approved" 403)
  let base := transferFromMessage name source identity timestamp
  let target := transferToMessage P name source identity description timestamp
  let fromSignature ← orReply (textOf (body.field "from_signature")) unavailable
  reject (¬ VerifyAddressWalletSignature P base fromSignature source)
    (response "invalid signature" 401)
  let toSignature ← orReply (textOf (body.field "to_signature")) unavailable
  reject (¬ VerifyAddressWalletSignature P target toSignature identity)
    (response "invalid signature" 401)
  pure [base, target]

def ownStatement (operation : Operation) (body : JsonValue) (identity name description : Text)
    (timestamp : Int) (approval : Option ApprovedName) (now : Int) : Except Reply (List Text) := do
  let message := if operation = .unregister then unregisterMessage name timestamp
    else breezAddressMessage P operation identity name description timestamp
  let signature ← orReply (textOf (body.field "signature")) unavailable
  reject (¬ VerifyAddressWalletSignature P message signature identity)
    (response "invalid signature" 401)
  reject (operation = .available ∧ ¬ Registrable approval) (response "name not approved" 403)
  reject (operation = .unregister ∧ ¬ Deletable approval now)
    (response "deletion not approved" 403)
  reject (operation = .register ∧ ¬ Registrable approval) (response "name not approved" 403)
  pure [message]

def statementsOf (operation : Operation) (body : JsonValue) (identity name : Text)
    (timestamp : Int) (approval : Option ApprovedName) (now : Int) : Except Reply (List Text) :=
  let description := stringOrEmpty (body.field "description")
  if operation = .transfer then
    transferStatements P body identity name description timestamp approval now
  else ownStatement P operation body identity name description timestamp approval now

/-- Its checks have passed, but for a registration's observation and the account's proof. -/
structure Checked where
  identity : Text
  operation : Operation
  (raw name : Text)
  timestamp : Int
  approval : Option ApprovedName
  verifiedStatements : List Text
  deriving DecidableEq

def boundedText (body : Option Text) (max : Nat) : Option Text :=
  body.filter fun raw => decide (utf8ByteLength raw ≤ max)

def management (names : List ApprovedName) (request : Request) (now : Int) :
    Except Reply Checked := do
  let (identity, segment) ← orReply (managementPath (P.pathname request.url))
    (response "invalid route" 404)
  reject (¬ ValidSparkIdentity P identity) (response "invalid route" 404)
  let operation := operationOf segment request.method
  reject (operation = .metadata) (response "metadata unavailable" 403)
  let method : Text := if operation = .unregister then "DELETE" else "POST"
  reject (request.method ≠ method ∨ P.search request.url ≠ []) (response "invalid route" 405)
  let raw ← orReply (boundedText request.body 8192) unavailable
  let body ← orReply (P.parse raw) unavailable
  reject (JsonValue.isNullish (some body) = true) unavailable
  let timestamp ← orReply (fresh (body.field "timestamp") now) (response "invalid timestamp" 401)
  let name := stringOrEmpty (body.field "username")
  let description := stringOrEmpty (body.field "description")
  reject (1024 < Js.length description ∨ operation ≠ .recover ∧ ¬ ValidName name)
    (response "invalid request" 400)
  let approval := names.find? fun n => decide (n.name = name ∧ n.sparkIdentity = identity)
  let verifiedStatements ← statementsOf P operation body identity name timestamp approval now
  pure ⟨identity, operation, raw, name, timestamp, approval, verifiedStatements⟩

structure Observation where
  identity : Text
  name : Option Text
  observedAt : Int
  deriving DecidableEq

def Recovered (observed : Observation) (name : Text) (approval : ApprovedName) (now : Int) : Prop :=
  now - observed.observedAt ≤ 60 ∧
    (observed.name = none ∨ observed.name = some name ∨
      observed.name ≠ none ∧ observed.name = approval.replaces)
  deriving Decidable

variable (request : Request)

def decodeAccountProof : Option JsonValue := do
  let header := request.authorization.getD []
  guard (startsWith header "Nostr ".toList = true ∧ Js.length header ≤ 4096)
  let text ← P.atob (header.drop 6)
  P.parse text

def ProofBy (event : JsonValue) (request : Request) (raw ownerPubkey : Text) (now : Int) : Prop :=
  (event.field "pubkey").bind JsonValue.string? = some ownerPubkey ∧
    (event.field "kind").bind JsonValue.int? = some 27235 ∧
    (event.field "content").bind JsonValue.string? = some [] ∧
    (∃ created ∈ (event.field "created_at").bind JsonValue.int?,
      IsSafeInteger created ∧ (now - created).natAbs ≤ 60) ∧
    P.verifyEvent event = true ∧
    (event.field "tags").bind JsonValue.stringRows? =
      some [["u".toList, request.url], ["method".toList, request.method],
        ["payload".toList, P.addressRequestHash raw]]
  deriving Decidable

def ValidManagementAccountProof (raw ownerPubkey : Text) (now : Int) : Prop :=
  ∃ event ∈ decodeAccountProof P request, ProofBy P event request raw ownerPubkey now
  deriving Decidable

def Proven (checked : Checked) (now : Int) : Prop :=
  ∃ n ∈ checked.approval, ValidManagementAccountProof P request checked.raw n.ownerPubkey now
  deriving Decidable

end Conduit.Gateway
