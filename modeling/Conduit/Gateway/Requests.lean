import Conduit.Gateway.Management
import Conduit.Runs
import Conduit.Table

namespace Conduit.Gateway

open Js Runs Throwing

structure Env where
  rateLimiter : Bool
  (allowedOrigins sharedSecret domainApiKey providerProxyQualified : Text)

def isReceivingName (s : Text) : Bool := s ≠ [] && s.all fun c => isNameChar c || c == '.'

def isPublicReceivingPath (pathname : Text) : Bool :=
  match split '/' pathname with
  | [start, lnurlp, name] =>
    start == [] && lnurlp == "lnurlp".toList && isReceivingName name
  | [start, first, second, third] =>
    start == [] &&
      (first == ".well-known".toList && second == "lnurlp".toList && isReceivingName third ||
      first == "lnurlp".toList && isReceivingName second &&
        (third == "invoice".toList || third == "verify".toList) ||
      first == "lnurlp".toList && second == "verify".toList && decide (IsHex64 third))
  | [start, lnurlp, name, action, hash] =>
    start == [] && lnurlp == "lnurlp".toList && isReceivingName name &&
      (action == "invoice".toList || action == "verify".toList) && hash ≠ [] &&
      hash.all isHexChar
  | _ => false

def addressRequestPath : Text := "/api/name-requests"

inductive Handler where
  | replies
  | nameRequest
  | management
  | receiving

variable (P : GatewayPlatform) (env : Env) (names : List ApprovedName)

variable (request : Request)

/-- `admitted`: the origin is that of a trusted preview. -/
def handlerOf (admitted : Bool) : Handler :=
  let pathname := P.pathname request.url
  let publicReceiving := request.method ∈ ["GET".toList, "OPTIONS".toList] ∧
    isPublicReceivingPath pathname = true
  let readiness := pathname = addressRequestPath ++ "/availability".toList ∧
    request.method = "GET".toList ∧ P.search request.url = []
  let origin := request.origin.filter fun o => decide (o ≠ [])
  let allowed := origin = none ∨ publicReceiving ∨
    (∃ o ∈ origin, o ∈ split ',' env.allowedOrigins) ∨ admitted = true
  if validateApprovedNames P names ≠ .ok () then .replies
  else if readiness then .replies
  else if origin ≠ none ∧ ¬ allowed then .replies
  else if request.method = "OPTIONS".toList then .replies
  else if pathname = addressRequestPath ∨ pathname = addressRequestPath ++ "/status".toList then
    .nameRequest
  else if startsWith pathname "/lnurlpay/".toList = true then .management
  else if request.method = "GET".toList ∧ isPublicReceivingPath pathname = true then .receiving
  else .replies

/-- A row of `mutation_claims`. -/
structure Claim where
  (statementHash identity : Text)
  expiresAt : Int

inductive Stage where
  | observing
  | claiming
  | limiting
  | forwarding
  | answering
  | pruning (observed : Option Text)
  | storing (observed : Option Text)
  deriving DecidableEq

inductive Task where
  | receiving (request : Request) (now : Int)
  | managing (request : Request) (now : Int) (checked : Checked) (stage : Stage)
  deriving DecidableEq

/-- What the provider was sent, and at which time of the gateway's the request had arrived. -/
structure Forwarded where
  request : Request
  body : Option Text
  now : Int
  deriving DecidableEq

inductive Event where
  | forwarded (f : Forwarded)
  | observed (o : Observation)
  deriving DecidableEq

/-- `log`: what was forwarded and stored, the newest first. -/
structure GatewayState where
  clock : Int
  claims : Table Claim Claim.statementHash
  observations : Table Observation Observation.identity
  tasks : List Task
  log : List Event

def GatewayState.start : GatewayState := ⟨0, .empty, .empty, [], []⟩

/-- The provider's answer as the gateway reads it. -/
structure Answer where
  status : Nat
  text : Text

/-- `text.includes(part)`. -/
def includes (text part : Text) : Bool :=
  match text with
  | [] => part == []
  | c :: rest => startsWith (c :: rest) part || includes rest part

/-- The name that a recovery's answer tells: `some none` where the wallet has none. -/
def observedName (answer : Answer) : Option (Option Text) := do
  guard (¬ (300 ≤ answer.status ∧ answer.status < 400))
  guard (includes answer.text env.sharedSecret = false ∧
    includes answer.text env.domainApiKey = false)
  let data ← P.parse answer.text
  if answer.status = 404 then
    guard (data.string? = some "user not found".toList)
    pure none
  else
    guard (200 ≤ answer.status ∧ answer.status < 300)
    let username ← (data.field "username").bind JsonValue.string?
    guard (ValidName username)
    guard ((data.field "lightning_address").bind JsonValue.string? =
      some (username ++ "@conduit.cash".toList))
    guard ((data.field "lnurl").bind JsonValue.string? =
      some ("lnurlp://conduit.cash/lnurlp/".toList ++ username))
    pure (some username)

/-- A wallet whose observations are kept. -/
def Registered (identity : Text) : Prop :=
  ∃ n ∈ names, n.sparkIdentity = identity ∧ n.registration = true
  deriving Decidable

variable (now : Int)

variable (checked : Checked)

def afterProof : Option Stage := do
  guard (Proven P request checked now)
  guard (env.providerProxyQualified = "true".toList)
  pure .claiming

def firstStage : Option Stage :=
  match checked.operation with
  | .register => some .observing
  | .recover => some .limiting
  | .available => some .forwarding
  | _ => afterProof P env request now checked

def statementHash (identity : Text) (statements : List Text) : Text :=
  P.addressRequestHash (P.stringify (identity :: statements))

variable (s : GatewayState)

def GatewayState.move (task : Task) (next : Option Task) : GatewayState :=
  { s with tasks := next.toList ++ s.tasks.erase task }

def firstTask (admitted : Bool) : Option Task :=
  match handlerOf P env names request admitted with
  | .management =>
    match management P names request now with
    | .ok checked => (firstStage P env request now checked).map (.managing request now checked)
    | .error _ => none
  | .receiving => some (.receiving request now)
  | _ => none

def receive (admitted : Bool) (s : GatewayState) : Option GatewayState := do
  guard (s.clock ≤ now)
  pure { s with
    clock := now
    tasks := (firstTask P env names request now admitted).toList ++ s.tasks }

def observe : Option GatewayState := do
  let task := Task.managing request now checked .observing
  guard (task ∈ s.tasks)
  let observed ← s.observations.get checked.identity
  let approval ← checked.approval
  guard (Recovered observed checked.name approval now)
  let stage ← afterProof P env request now checked
  pure (s.move task (some (.managing request now checked stage)))

/-- `INSERT OR IGNORE INTO mutation_claims`. `answered`: the database's answer arrived. -/
def claim (answered : Bool) (s : GatewayState) : Option GatewayState := do
  let task := Task.managing request now checked .claiming
  guard (task ∈ s.tasks)
  let statement := statementHash P checked.identity checked.verifiedStatements
  guard (s.claims.get statement = none)
  let next := if answered = true then some (Task.managing request now checked .forwarding) else none
  let row : Claim := ⟨statement, checked.identity, checked.timestamp + 600⟩
  pure { s.move task next with claims := s.claims.put row }

/-- `recoveryRateLimit`. -/
def limit : Option GatewayState := do
  let task := Task.managing request now checked .limiting
  guard (task ∈ s.tasks)
  guard (env.rateLimiter = true ∧ env.sharedSecret ≠ [])
  pure (s.move task (some (.managing request now checked .forwarding)))

/-- `proxy`, up to the call of the provider. -/
def forward : Option GatewayState := do
  let task := Task.managing request now checked .forwarding
  guard (task ∈ s.tasks)
  guard (env.sharedSecret ≠ [] ∧ env.domainApiKey ≠ [])
  let next := if checked.operation = .recover then
      some (Task.managing request now checked .answering)
    else none
  pure { s.move task next with log := .forwarded ⟨request, checked.raw, now⟩ :: s.log }

def forwardReceiving : Option GatewayState := do
  guard (Task.receiving request now ∈ s.tasks)
  guard (env.sharedSecret ≠ [] ∧ env.domainApiKey ≠ [])
  pure { s.move (.receiving request now) none with
    log := .forwarded ⟨request, none, now⟩ :: s.log }

def answer (reply : Answer) (s : GatewayState) : Option GatewayState := do
  let task := Task.managing request now checked .answering
  guard (task ∈ s.tasks)
  let observed ← observedName P env reply
  guard (Registered names checked.identity)
  pure (s.move task (some (.managing request now checked (.pruning observed))))

/-- The rows that `DELETE FROM address_observations WHERE observed_at < ?` leaves. -/
def recentObservations (t : Table Observation Observation.identity) (bound : Int) :
    Table Observation Observation.identity where
  rows := t.rows.filter fun o => decide (bound ≤ o.observedAt)
  nodup := t.nodup.sublist (List.filter_sublist.map _)

def prune (observed : Option Text) (s : GatewayState) : Option GatewayState := do
  let task := Task.managing request now checked (.pruning observed)
  guard (task ∈ s.tasks)
  pure { s.move task (some (.managing request now checked (.storing observed))) with
    observations := recentObservations s.observations (now - 86400) }

/-- An older observation never replaces a newer one. -/
def store (observed : Option Text) (s : GatewayState) : Option GatewayState := do
  let task := Task.managing request now checked (.storing observed)
  guard (task ∈ s.tasks)
  let row : Observation := ⟨checked.identity, observed, now⟩
  guard (∀ o ∈ s.observations.get checked.identity, o.observedAt ≤ now)
  pure { s.move task none with
    observations := s.observations.put row
    log := .observed row :: s.log }

inductive Action where
  | receive (request : Request) (now : Int) (admitted : Bool)
  | observe (request : Request) (now : Int) (checked : Checked)
  | claim (request : Request) (now : Int) (checked : Checked) (answered : Bool)
  | limit (request : Request) (now : Int) (checked : Checked)
  | forward (request : Request) (now : Int) (checked : Checked)
  | forwardReceiving (request : Request) (now : Int)
  | answer (request : Request) (now : Int) (checked : Checked) (reply : Answer)
  | prune (request : Request) (now : Int) (checked : Checked) (observed : Option Text)
  | store (request : Request) (now : Int) (checked : Checked) (observed : Option Text)

def apply : Action → Option GatewayState
  | .receive request now admitted => receive P env names request now admitted s
  | .observe request now checked => observe P env request now checked s
  | .claim request now checked answered => claim P request now checked answered s
  | .limit request now checked => limit env request now checked s
  | .forward request now checked => forward env request now checked s
  | .forwardReceiving request now => forwardReceiving env request now s
  | .answer request now checked reply => answer P env names request now checked reply s
  | .prune request now checked observed => prune request now checked observed s
  | .store request now checked observed => store request now checked observed s

def Step (a : Action) (s t : GatewayState) : Prop := apply P env names s a = some t

end Conduit.Gateway
