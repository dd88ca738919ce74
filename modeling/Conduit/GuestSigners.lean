import Conduit.Inbox.WireSize
import Conduit.Joined
import Conduit.Social.ContactLists
import Conduit.Stock.Ledger

namespace Conduit.GuestSigners

open Js Throwing Stock WireSize Social List

def guestOrderSessionTtlMs : Int := 24 * 60 * 60 * 1000

/-- A clock that a caller passes, `none` where it does not read an integer. -/
abbrev Reading := Option Int

/-- What `JSON.parse` and `new NDKEvent` read of a plaintext. -/
structure RawRumor where
  event : PrivateMessageEvent
  /-- Whether there is a `sig`, and whether it is truthy. -/
  (hasSig sigTruthy : Bool)

structure RecoveryPlan where
  schemaVersion : Int
  (orderId checkoutId planDigest : Text)
  takeoverAt : Int

/-- `json` is its `JSON.stringify`. -/
structure RecoveryPayload where
  schemaVersion : Int
  (type handoffId senderPubkey merchantPubkey : Text)
  organizerPubkey : Option Text
  preparedAt : Int
  plan : RecoveryPlan
  json : Text

structure EventMarketFreePurchasePayload where
  (handoffId orderId senderPubkey merchantPubkey organizerPubkey : Text)
  createdAt : Int
  json : Text

structure GuestPlatform (Secret Nonce : Type) where
  getPublicKey : Secret → Text
  /-- `v2.encrypt` under the conversation key, with the nonce that it draws. -/
  encrypt : Secret → Text → Text → Nonce → Option Text
  getEventHash : UnsignedNostrEvent → Text
  sign : Secret → Text → Text
  marketApp : AppDefinition
  readRumor : Text → Option RawRumor
  /-- `JSON.parse(content)?.schemaVersion === 5`. -/
  isProgress : Text → Option Bool
  parseRecoveryPayload : RecoveryPayload → Option RecoveryPayload
  restoreOrganizerPayload : RecoveryPayload → Option RecoveryPayload
  restoreOrganizerProgress : RecoveryPayload → Option RecoveryPayload
  parseCheckoutSparkRecoveryRumor : RawRumor → Option RecoveryPayload
  parseCheckoutSparkOrganizerRecoveryRumor : RawRumor → Option RecoveryPayload
  parseCheckoutSparkOrganizerRecoveryProgressRumor : RawRumor → Option RecoveryPayload
  restoreEventMarketFreePurchase :
    EventMarketFreePurchasePayload → Option EventMarketFreePurchasePayload
  parseEventMarketFreePurchaseRumor : RawRumor → Option EventMarketFreePurchasePayload
  fitsTransport : UnsignedNostrEvent → Bool

variable {Secret Nonce : Type} (P : GuestPlatform Secret Nonce)

/-- A NIP-44 payload spells out its nonce. -/
def GuestPlatform.CarriesNonce : Prop :=
  ∀ secret recipient text nonce secret' recipient' text' nonce' c,
    P.encrypt secret recipient text nonce = some c →
    P.encrypt secret' recipient' text' nonce' = some c → nonce = nonce'

def GuestPlatform.finalizeEvent (secret : Secret) (event : UnsignedNostrEvent) : SignedEvent :=
  let event := { event with pubkey := P.getPublicKey secret }
  let id := P.getEventHash event
  { id, pubkey := event.pubkey, createdAt := event.createdAt, kind := event.kind,
    tags := event.tags, content := event.content, sig := P.sign secret id }

structure EphemeralOrderSigner (Secret : Type) where
  secret : Secret
  (pubkey orderId merchantPubkey : Text)
  expiresAt : Int

namespace EphemeralOrderSigner

variable (signer : EphemeralOrderSigner Secret) (now : Int)

def assertActive : Except String Unit :=
  reject (signer.expiresAt ≤ now) "Guest order session has expired."

def outOfScope : String := "Guest signer cannot sign outside its order scope."

def signEvent (event : UnsignedNostrEvent) : Except String SignedEvent := do
  assertActive signer now
  reject (event.pubkey ≠ signer.pubkey) outOfScope
  if event.kind = 16 then
    let type := tagValue event.tags "type"
    reject (tagValue event.tags "order" ≠ some signer.orderId ∨
      tagValue event.tags "p" ≠ some signer.merchantPubkey ∨
      (type ≠ some "order".toList ∧ type ≠ some "payment_proof".toList)) outOfScope
  else
    reject (event.kind ≠ 13) "Guest signer can only sign private order envelopes."
  return P.finalizeEvent signer.secret event

def encryptNip44 (recipient value : Text) (nonce : Nonce) : Except String Text := do
  assertActive signer now
  match P.encrypt signer.secret recipient value nonce with
  | none => throw "invalid plaintext"
  | some ciphertext => return ciphertext

end EphemeralOrderSigner

structure GuestOrderSigningIdentity (Secret : Type) where
  (orderId merchantPubkey : Text)
  (createdAt expiresAt : Int)
  pubkey : Text
  signer : EphemeralOrderSigner Secret

def createGuestOrderSigningIdentityFromPrivateSigner (secret : Secret)
    (orderId merchantPubkey : Text) (createdAt : Int) : GuestOrderSigningIdentity Secret :=
  let expiresAt := createdAt + guestOrderSessionTtlMs
  let signer := { secret, pubkey := P.getPublicKey secret, orderId, merchantPubkey, expiresAt }
  { orderId, merchantPubkey, createdAt, expiresAt, pubkey := signer.pubkey, signer }

structure BuiltRumor where
  rumor : UnsignedNostrEvent
  json : Text

def orderRumor (pubkey : Text) (atMs : Int) (tags : List (String × Text)) (content : Text) :
    UnsignedNostrEvent where
  pubkey := pubkey
  kind := 16
  createdAt := atMs / 1000
  tags := appendConduitClientTag (tags.map fun tag => [tag.1.toList, tag.2]) P.marketApp
  content := content

def recoveryRumor (recipient : Text) (payload : RecoveryPayload) : UnsignedNostrEvent :=
  orderRumor P payload.senderPubkey payload.preparedAt
    [("p", recipient), ("type", payload.type), ("order", payload.plan.orderId),
      ("checkout", payload.plan.checkoutId), ("handoff", payload.handoffId)] payload.json

def buildCheckoutSparkRecoveryRumor (value : RecoveryPayload) : Option BuiltRumor := do
  let payload ← P.parseRecoveryPayload value
  let rumor := recoveryRumor P payload.merchantPubkey payload
  return ⟨rumor, jsonObject [("id", quote (P.getEventHash rumor)), ("pubkey", quote rumor.pubkey),
    ("kind", numberText rumor.kind), ("created_at", numberText rumor.createdAt),
    ("tags", jsonTags rumor.tags), ("content", quote rumor.content)]⟩

def buildCheckoutSparkOrganizerRecoveryRumor (value : RecoveryPayload) : Option BuiltRumor := do
  let payload ← if value.schemaVersion = 5 then P.restoreOrganizerProgress value
    else P.restoreOrganizerPayload value
  let rumor := recoveryRumor P (← payload.organizerPubkey) payload
  return ⟨rumor, stringifyRumor rumor (P.getEventHash rumor)⟩

def buildEventMarketFreePurchaseRumor (value : EventMarketFreePurchasePayload) :
    Option BuiltRumor := do
  let payload ← P.restoreEventMarketFreePurchase value
  let rumor := orderRumor P payload.senderPubkey payload.createdAt
    [("p", payload.organizerPubkey), ("type", "event_market_free_purchase"),
      ("order", payload.orderId), ("handoff", payload.handoffId)] payload.json
  guard (P.fitsTransport rumor = true)
  return ⟨rumor, jsonObject [("kind", numberText rumor.kind), ("pubkey", quote rumor.pubkey),
    ("created_at", numberText rumor.createdAt), ("tags", jsonTags rumor.tags),
    ("content", quote rumor.content), ("id", quote (P.getEventHash rumor))]⟩

/-- What a call of `encryptNip44` has encrypted. -/
structure Encryption (Nonce : Type) where
  (recipient plaintext ciphertext : Text)
  nonce : Nonce
  /-- The takeover of the plan, if there is one. -/
  deadline : Option Int

/-- The ciphertexts whose seals may be signed. -/
abbrev Pending := List (Text × Option Int)

/-- `pending.delete(content)`. -/
def forget (content : Text) (pending : Pending) : Pending :=
  pending.filter fun p => p.1 ≠ content

/-- What the two signers differ in. -/
structure LentSigner (Secret : Type) where
  identity : GuestOrderSigningIdentity Secret
  recipient : Text
  /-- The check before and after each `await`. -/
  isActive : Option Int → Reading → Bool
  /-- The rumor that a plaintext is sealed as, at a time, and the deadline of its seal. -/
  reads : Text → Int → Option (Text × Option Int)
  /-- Whether the deadline is checked before the guest's signer is asked. -/
  rechecks : Bool
  /-- Whether every refusal drops what is pending. -/
  drops : Bool
  (refusal decryptRefusal : String)

namespace LentSigner

variable (L : LentSigner Secret) (pending : Pending)

def refuse {α : Type} : Pending × Except String α :=
  (if L.drops then [] else pending, .error L.refusal)

def encryptNip44 (recipient value : Text) (now again : Reading) (signerNow : Int)
    (nonce : Nonce) : Pending × Except String (Encryption Nonce) :=
  if L.isActive none now then
    if recipient = L.recipient then
      match now.bind (L.reads value) with
      | none => L.refuse pending
      | some (json, deadline) =>
        if L.rechecks = false ∨ L.isActive deadline again = true then
          (pending, do
            let ciphertext ← L.identity.signer.encryptNip44 P signerNow recipient json nonce
            return ⟨recipient, json, ciphertext, nonce, deadline⟩)
        else ([], .error L.refusal)
    else L.refuse pending
  else ([], .error L.refusal)

def signEvent (event : UnsignedNostrEvent) (now : Reading) (signerNow : Int) :
    Pending × Except String (SignedEvent × Option Int) :=
  let granted := pending.lookup event.content
  if L.isActive granted.join now then
    match granted with
    | none => L.refuse pending
    | some deadline =>
      if event.kind = 13 ∧ event.pubkey = L.identity.pubkey ∧ event.tags = [] then
        (forget event.content pending, do
          let sealed ← L.identity.signer.signEvent P signerNow { event with tags := [] }
          return (sealed, deadline))
      else L.refuse pending
  else ([], .error L.refusal)

/-- `decryptNip44` and `decryptLegacy`. -/
def decrypt : Except String Text := .error L.decryptRefusal

end LentSigner

inductive Answer (Nonce : Type) where
  | key (pubkey : Text)
  | ciphertext (encryption : Encryption Nonce)
  | signed (event : SignedEvent) (returnedAt : Reading)
  | plaintext (text : Text)

/-- `obtained` and `answers` record what was encrypted and what calls returned, the newest first. -/
structure Desk (Nonce : Type) where
  pending : Pending := []
  encrypting : List (Encryption Nonce) := []
  signing : List (SignedEvent × Option Int) := []
  obtained : List (Encryption Nonce) := []
  answers : List (Answer Nonce) := []

/-- A call begins, or one that waits goes on; with what the clocks read. A call of `getPublicKey`
goes on at any time. -/
inductive Event (Nonce : Type) where
  | pubkey (now : Reading)
  | getPublicKey (now : Reading)
  | gotPublicKey (now : Reading)
  | encryptNip44 (recipient value : Text) (now again : Reading) (signerNow : Int) (nonce : Nonce)
  | encrypted (call : Nat) (now : Reading)
  | signEvent (event : UnsignedNostrEvent) (now : Reading) (signerNow : Int)
  | signed (call : Nat) (now : Reading)
  | decrypt

variable (L : LentSigner Secret)

def step (s : Desk Nonce) : Event Nonce → Desk Nonce
  | .pubkey now =>
    if L.isActive none now then { s with answers := .key L.identity.pubkey :: s.answers }
    else { s with pending := [] }
  | .getPublicKey now => if L.isActive none now then s else { s with pending := [] }
  | .gotPublicKey now =>
    if L.isActive none now then
      if L.identity.signer.pubkey = L.identity.pubkey then
        { s with answers := .key L.identity.pubkey :: s.answers }
      else { s with pending := (L.refuse (α := Text) s.pending).1 }
    else { s with pending := [] }
  | .encryptNip44 recipient value now again signerNow nonce =>
    match L.encryptNip44 P s.pending recipient value now again signerNow nonce with
    | (pending, .error _) => { s with pending }
    | (pending, .ok x) =>
      { s with pending, encrypting := x :: s.encrypting, obtained := x :: s.obtained }
  | .encrypted call now =>
    match s.encrypting[call]? with
    | none => s
    | some x =>
      let s := { s with encrypting := s.encrypting.eraseIdx call }
      if L.isActive x.deadline now then
        { s with
          pending := mapSet Prod.fst s.pending (x.ciphertext, x.deadline)
          answers := .ciphertext x :: s.answers }
      else { s with pending := [] }
  | .signEvent event now signerNow =>
    match L.signEvent P s.pending event now signerNow with
    | (pending, .error _) => { s with pending }
    | (pending, .ok sealed) => { s with pending, signing := sealed :: s.signing }
  | .signed call now =>
    match s.signing[call]? with
    | none => s
    | some (event, deadline) =>
      let s := { s with signing := s.signing.eraseIdx call }
      if L.isActive deadline now then { s with answers := .signed event now :: s.answers }
      else { s with pending := [] }
  | .decrypt =>
    match L.decrypt with
    | .error _ => s
    | .ok text => { s with answers := .plaintext text :: s.answers }

def run (s : Desk Nonce) (l : List (Event Nonce)) : Desk Nonce := l.foldl (step P L) s

structure OrganizerScope where
  (organizerPubkey checkoutId planDigest : Text)

section
variable (identity : GuestOrderSigningIdentity Secret) (scope : Option OrganizerScope)

/-- `assertActive` of the recovery signer. -/
def recoveryActive (deadline : Option Int) (now : Reading) : Bool :=
  IsHex64 identity.pubkey ∧ IsHex64 identity.merchantPubkey ∧ identity.orderId ≠ [] ∧
    IsSafeInteger identity.createdAt ∧ 0 < identity.createdAt ∧
    IsSafeInteger identity.expiresAt ∧
    identity.expiresAt = identity.createdAt + guestOrderSessionTtlMs ∧
    (∃ t ∈ now, IsSafeInteger t ∧ identity.createdAt ≤ t ∧
      t < min identity.expiresAt (deadline.getD identity.expiresAt)) ∧
    identity.signer.pubkey = identity.pubkey

def RecoveryPayload.InScope (payload : RecoveryPayload) : Prop :=
  payload.senderPubkey = identity.pubkey ∧ payload.merchantPubkey = identity.merchantPubkey ∧
    payload.plan.orderId = identity.orderId ∧
    ∀ o ∈ scope, payload.organizerPubkey = some o.organizerPubkey ∧
      payload.plan.checkoutId = o.checkoutId ∧ payload.plan.planDigest = o.planDigest

instance decidableInScope (payload : RecoveryPayload) :
    Decidable (payload.InScope identity scope) :=
  inferInstanceAs (Decidable (_ ∧ _ ∧ _ ∧ ∀ o ∈ scope, _))

def parseScoped (raw : RawRumor) : Option RecoveryPayload :=
  match scope with
  | none => P.parseCheckoutSparkRecoveryRumor raw
  | some _ => (P.isProgress raw.event.content).bind fun isProgress =>
    if isProgress then P.parseCheckoutSparkOrganizerRecoveryProgressRumor raw
    else P.parseCheckoutSparkOrganizerRecoveryRumor raw

def buildScoped (payload : RecoveryPayload) : Option BuiltRumor :=
  match scope with
  | none => buildCheckoutSparkRecoveryRumor P payload
  | some _ => buildCheckoutSparkOrganizerRecoveryRumor P payload

/-- The `try` of `encryptNip44`. -/
def readRecovery (value : Text) (currentTime : Int) : Option (Text × Option Int) := do
  let raw ← P.readRumor value
  guard (raw.sigTruthy = false)
  let payload ← parseScoped P scope raw
  let canonicalRumor ← buildScoped P scope payload
  guard (payload.schemaVersion ≠ 1 ∧
    payload.plan.schemaVersion ∈ [3, 4, 5] ∧
    (scope = none ∨ payload.schemaVersion = 4 ∨ payload.schemaVersion = 5) ∧
    payload.InScope identity scope ∧
    identity.createdAt ≤ payload.preparedAt ∧ payload.preparedAt ≤ currentTime ∧
    raw.event.content = payload.json ∧
    jsonTags raw.event.tags = jsonTags canonicalRumor.rumor.tags)
  return (canonicalRumor.json, some payload.plan.takeoverAt)

def scopeError : String := "Guest recovery signer cannot act outside its checkout scope."

def createGuestCheckoutSparkRecoverySigner (now : Reading) : Except String (LentSigner Secret) := do
  reject (recoveryActive identity none now = false) scopeError
  return {
    identity
    recipient := (scope.map (·.organizerPubkey)).getD identity.merchantPubkey
    isActive := recoveryActive identity
    reads := readRecovery P identity scope
    rechecks := true
    drops := false
    refusal := scopeError
    decryptRefusal := "Guest recovery signer cannot decrypt inbound messages." }

variable (payload : EventMarketFreePurchasePayload) (canonical : Text)

def freePurchaseError : String := "Guest free-purchase signer is outside its order scope."

/-- `isCurrentGuestOrderSigningIdentity` for the identity's own order, merchant and key. -/
def isCurrentGuestOrderSigningIdentity (now : Reading) : Prop :=
  IsHex64 identity.pubkey ∧ IsHex64 identity.merchantPubkey ∧ identity.orderId ≠ [] ∧
    ∃ t ∈ now, IsSafeInteger t ∧ IsSafeInteger identity.createdAt ∧ 0 < identity.createdAt ∧
      identity.createdAt ≤ t ∧ IsSafeInteger identity.expiresAt ∧
      identity.expiresAt = identity.createdAt + guestOrderSessionTtlMs ∧
      t < identity.expiresAt ∧ identity.signer.pubkey = identity.pubkey
  deriving Decidable

/-- `check` of the free-purchase signer. -/
def freePurchaseActive (now : Reading) : Bool :=
  isCurrentGuestOrderSigningIdentity identity now ∧
    payload.senderPubkey = identity.pubkey ∧ payload.merchantPubkey = identity.merchantPubkey ∧
    payload.orderId = identity.orderId ∧ identity.createdAt ≤ payload.createdAt ∧
    ∃ t ∈ now, payload.createdAt ≤ t

/-- The `try` of `encryptNip44`. -/
def readFreePurchase (value : Text) : Option (Text × Option Int) := do
  let raw ← P.readRumor value
  guard (raw.hasSig = false)
  let parsed ← P.parseEventMarketFreePurchaseRumor raw
  guard (parsed.json = payload.json)
  let built ← buildEventMarketFreePurchaseRumor P parsed
  guard (built.json = canonical)
  return (canonical, none)

def createGuestEventMarketFreePurchaseSigner (given : EventMarketFreePurchasePayload)
    (now : Reading) : Except String (LentSigner Secret) := do
  match P.restoreEventMarketFreePurchase given with
  | none => throw "Exact free event purchase authority is unavailable."
  | some payload =>
    match buildEventMarketFreePurchaseRumor P payload with
    | none => throw "Exact free event purchase authority is unavailable."
    | some rumor =>
      reject (freePurchaseActive identity payload now = false) freePurchaseError
      return {
        identity
        recipient := payload.organizerPubkey
        isActive := fun _ => freePurchaseActive identity payload
        reads := fun value _ => readFreePurchase P payload rumor.json value
        rechecks := false
        drops := true
        refusal := freePurchaseError
        decryptRefusal := "Guest order signing cannot open an inbox." }

end

def Answer.sealed : Answer Nonce → Option Text
  | .signed event _ => some event.content
  | _ => none

def Desk.sealed (s : Desk Nonce) : List Text := s.answers.filterMap Answer.sealed

def Desk.count (s : Desk Nonce) (c : Text) : Nat :=
  (s.encrypting.map (·.ciphertext)).count c + (s.pending.map Prod.fst).count c +
    (s.signing.map fun y => y.1.content).count c + s.sealed.count c

/-- `Sealable`: the plaintexts that the signer is lent out for, with the deadlines of their seals. -/
def LentSigner.Encrypts (Sealable : Text → Option Int → Prop) (x : Encryption Nonce) : Prop :=
  P.encrypt L.identity.signer.secret x.recipient x.plaintext x.nonce = some x.ciphertext ∧
    x.recipient = L.recipient ∧ Sealable x.plaintext x.deadline

/-- A tagless seal of the guest. -/
def LentSigner.Seals (event : SignedEvent) : Prop :=
  event = P.finalizeEvent L.identity.signer.secret {
    pubkey := L.identity.pubkey, kind := 13, createdAt := event.createdAt, tags := []
    content := event.content }

def LentSigner.InTime (deadline : Option Int) (now : Reading) : Prop :=
  ∃ t ∈ now, t < L.identity.expiresAt ∧ ∀ d ∈ deadline, t < d

def LentSigner.Allows (Sealable : Text → Option Int → Prop) (obtained : List (Encryption Nonce)) :
    Answer Nonce → Prop
  | .key pubkey => pubkey = L.identity.pubkey
  | .ciphertext x => x ∈ obtained ∧ L.Encrypts P Sealable x
  | .signed event now => L.Seals P event ∧ ∃ x ∈ obtained, L.Encrypts P Sealable x ∧
      x.ciphertext = event.content ∧ L.InTime x.deadline now
  | .plaintext _ => False

structure LentSigner.Keeps (Sealable : Text → Option Int → Prop) : Prop where
  reads : ∀ value now json deadline, L.reads value now = some (json, deadline) →
    Sealable json deadline
  inTime : ∀ json deadline now, Sealable json deadline → L.isActive deadline now = true →
    L.InTime deadline now

structure Inv (Sealable : Text → Option Int → Prop) (s : Desk Nonce) : Prop where
  obtained : ∀ x ∈ s.obtained, L.Encrypts P Sealable x
  encrypting : ∀ x ∈ s.encrypting, x ∈ s.obtained
  pending : ∀ p ∈ s.pending, ∃ x ∈ s.obtained, x.ciphertext = p.1 ∧ x.deadline = p.2
  signing : ∀ y ∈ s.signing, L.Seals P y.1 ∧
    ∃ x ∈ s.obtained, x.ciphertext = y.1.content ∧ x.deadline = y.2
  answers : ∀ a ∈ s.answers, L.Allows P Sealable s.obtained a
  once : ∀ c, s.count c ≤ (s.obtained.map (·.ciphertext)).count c

section
variable {P L} {Sealable : Text → Option Int → Prop} {s : Desk Nonce} {pending : Pending}
  {c content : Text}

lemma count_map_eraseIdx {α : Type} {l : List α} {i : Nat} {x : α} {f : α → Text}
    (hx : l[i]? = some x) :
    (l.map f).count c = ((l.eraseIdx i).map f).count c + if f x = c then 1 else 0 := by
  obtain ⟨hi, rfl⟩ := List.getElem?_eq_some_iff.1 hx
  have hp := ((getElem_cons_eraseIdx_perm hi).map f).count_eq c
  rw [map_cons, count_cons] at hp
  simpa using hp.symm

lemma count_forget (h : content ∈ pending.map Prod.fst) :
    ((forget content pending).map Prod.fst).count c + (if content = c then 1 else 0) ≤
      (pending.map Prod.fst).count c := by
  split
  case isTrue hc =>
    subst hc
    have hz : ((forget content pending).map Prod.fst).count content = 0 :=
      count_eq_zero.2 fun hm => by
        obtain ⟨p, hp, he⟩ := mem_map.1 hm
        exact of_decide_eq_true (mem_filter.1 hp).2 he
    have := count_pos_iff.2 h
    omega
  case isFalse => exact (filter_sublist.map _).count_le c

lemma count_mapSet (pending : Pending) (p : Text × Option Int) (c : Text) :
    ((mapSet Prod.fst pending p).map Prod.fst).count c ≤
      (pending.map Prod.fst).count c + if p.1 = c then 1 else 0 := by
  rw [keys_mapSet]
  split
  · exact Nat.le_add_right ..
  · rw [count_append, count_singleton]
    simp

lemma mem_of_pending {deadline : Option Int} (h : pending.lookup content = some deadline) :
    (content, deadline) ∈ pending := by
  induction pending with
  | nil => cases h
  | cons p pending ih =>
    rw [lookup_cons] at h
    split at h
    next he =>
      rw [eq_of_beq he, ← Option.some.inj h]
      exact .head _
    next => exact .tail _ (ih h)

lemma LentSigner.Allows.cons {obtained : List (Encryption Nonce)} {x : Encryption Nonce}
    {a : Answer Nonce} (h : L.Allows P Sealable obtained a) :
    L.Allows P Sealable (x :: obtained) a := by
  cases a with
  | key => exact h
  | ciphertext => exact ⟨.tail _ h.1, h.2⟩
  | signed =>
    obtain ⟨hs, y, hy, hr⟩ := h
    exact ⟨hs, y, .tail _ hy, hr⟩
  | plaintext => exact h

lemma Inv.shrink (h : Inv P L Sealable s) {encrypting : List (Encryption Nonce)}
    {signing : List (SignedEvent × Option Int)} (hp : pending.Sublist s.pending)
    (he : encrypting.Sublist s.encrypting) (hs : signing.Sublist s.signing) :
    Inv P L Sealable { s with pending, encrypting, signing } where
  obtained := h.obtained
  encrypting x hm := h.encrypting x (he.subset hm)
  pending p hm := h.pending p (hp.subset hm)
  signing y hm := h.signing y (hs.subset hm)
  answers := h.answers
  once c := by
    have ho := h.once c
    have hle := (he.map (·.ciphertext)).count_le c
    have hle' := (hp.map Prod.fst).count_le c
    have hle'' := (hs.map fun y => y.1.content).count_le c
    dsimp only [Desk.count, Desk.sealed] at ho ⊢
    omega

lemma Inv.drop (h : Inv P L Sealable s) (hp : pending.Sublist s.pending) :
    Inv P L Sealable { s with pending } :=
  h.shrink hp (Sublist.refl _) (Sublist.refl _)

lemma Inv.key (h : Inv P L Sealable s) :
    Inv P L Sealable { s with answers := .key L.identity.pubkey :: s.answers } :=
  ⟨h.obtained, h.encrypting, h.pending, h.signing, forall_mem_cons.2 ⟨rfl, h.answers⟩, h.once⟩

lemma Inv.encrypt (h : Inv P L Sealable s) {x : Encryption Nonce} (hx : L.Encrypts P Sealable x) :
    Inv P L Sealable { s with encrypting := x :: s.encrypting, obtained := x :: s.obtained } where
  obtained := forall_mem_cons.2 ⟨hx, h.obtained⟩
  encrypting := forall_mem_cons.2 ⟨.head _, fun y hy => .tail _ (h.encrypting y hy)⟩
  pending p hp := by
    obtain ⟨y, hy, hr⟩ := h.pending p hp
    exact ⟨y, .tail _ hy, hr⟩
  signing y hy := by
    obtain ⟨hs, z, hz, hr⟩ := h.signing y hy
    exact ⟨hs, z, .tail _ hz, hr⟩
  answers a ha := (h.answers a ha).cons
  once c := by
    have ho := h.once c
    dsimp only [Desk.count, Desk.sealed] at ho ⊢
    rw [map_cons, map_cons, count_cons, count_cons]
    omega

lemma Inv.encrypted (h : Inv P L Sealable s) {call : Nat} {x : Encryption Nonce}
    (hx : s.encrypting[call]? = some x) :
    Inv P L Sealable { s with
      encrypting := s.encrypting.eraseIdx call
      pending := mapSet Prod.fst s.pending (x.ciphertext, x.deadline)
      answers := .ciphertext x :: s.answers } where
  obtained := h.obtained
  encrypting y hy := h.encrypting y (mem_of_mem_eraseIdx hy)
  pending p hp := by
    rcases mem_mapSet hp with rfl | hp
    · exact ⟨x, h.encrypting x (mem_of_getElem? hx), rfl, rfl⟩
    · exact h.pending p hp
  signing := h.signing
  answers := by
    have ho := h.encrypting x (mem_of_getElem? hx)
    exact forall_mem_cons.2 ⟨⟨ho, h.obtained x ho⟩, h.answers⟩
  once c := by
    have ho := h.once c
    have he := count_map_eraseIdx (c := c) (f := (·.ciphertext)) hx
    have hp := count_mapSet s.pending (x.ciphertext, x.deadline) c
    dsimp only [Desk.count, Desk.sealed] at ho hp ⊢
    rw [filterMap_cons_none rfl]
    omega

lemma Inv.sign (h : Inv P L Sealable s) {y : SignedEvent × Option Int} (hs : L.Seals P y.1)
    (hy : (y.1.content, y.2) ∈ s.pending) :
    Inv P L Sealable { s with
      pending := forget y.1.content s.pending, signing := y :: s.signing } where
  obtained := h.obtained
  encrypting := h.encrypting
  pending p hp := h.pending p (mem_filter.1 hp).1
  signing := forall_mem_cons.2 ⟨⟨hs, h.pending _ hy⟩, h.signing⟩
  answers := h.answers
  once c := by
    have ho := h.once c
    have hf := count_forget (c := c) (mem_map_of_mem (f := Prod.fst) hy)
    dsimp only [Desk.count, Desk.sealed] at ho hf ⊢
    rw [map_cons, count_cons]
    simp only [beq_iff_eq]
    omega

lemma Inv.signed (hL : L.Keeps Sealable) (h : Inv P L Sealable s) {call : Nat}
    {y : SignedEvent × Option Int} {now : Reading} (hy : s.signing[call]? = some y)
    (ha : L.isActive y.2 now = true) :
    Inv P L Sealable { s with
      signing := s.signing.eraseIdx call, answers := .signed y.1 now :: s.answers } where
  obtained := h.obtained
  encrypting := h.encrypting
  pending := h.pending
  signing z hz := h.signing z (mem_of_mem_eraseIdx hz)
  answers := by
    obtain ⟨hs, x, hx, hc, hd⟩ := h.signing y (mem_of_getElem? hy)
    exact forall_mem_cons.2
      ⟨⟨hs, x, hx, h.obtained x hx, hc, hL.inTime _ _ _ (h.obtained x hx).2.2 (hd ▸ ha)⟩, h.answers⟩
  once c := by
    have ho := h.once c
    have he := count_map_eraseIdx (c := c) (f := fun y => y.1.content) hy
    dsimp only [Desk.count, Desk.sealed] at ho ⊢
    rw [filterMap_cons_some (f := Answer.sealed) rfl, count_cons]
    simp only [beq_iff_eq]
    omega

lemma encryptNip44_ok {signer : EphemeralOrderSigner Secret} {now : Int} {recipient value : Text}
    {nonce : Nonce} (h : signer.encryptNip44 P now recipient value nonce = .ok c) :
    P.encrypt signer.secret recipient value nonce = some c := by
  unfold EphemeralOrderSigner.encryptNip44 EphemeralOrderSigner.assertActive at h
  obtain ⟨-, h⟩ := rejects_ok.1 h
  split at h
  · cases h
  next he => exact he.trans (congrArg some (Except.ok.inj h))

lemma signEvent_ok {signer : EphemeralOrderSigner Secret} {now : Int}
    {event : UnsignedNostrEvent} {e : SignedEvent} (h : signer.signEvent P now event = .ok e) :
    e = P.finalizeEvent signer.secret event := by
  unfold EphemeralOrderSigner.signEvent EphemeralOrderSigner.assertActive at h
  obtain ⟨-, h⟩ := rejects_ok.1 h
  obtain ⟨-, h⟩ := rejects_ok.1 h
  split_ifs at h
  · obtain ⟨-, h⟩ := rejects_ok.1 h
    exact (Except.ok.inj h).symm
  · obtain ⟨-, h⟩ := rejects_ok.1 h
    exact (Except.ok.inj h).symm

lemma refuse_sublist {α : Type} : (L.refuse (α := α) pending).1.Sublist pending := by
  unfold LentSigner.refuse
  dsimp only
  split
  · exact nil_sublist _
  · exact Sublist.refl _

lemma encrypt_spec (hL : L.Keeps Sealable) (pending : Pending) (recipient value : Text)
    (now again : Reading) (signerNow : Int) (nonce : Nonce) :
    (L.encryptNip44 P pending recipient value now again signerNow nonce).1.Sublist pending ∧
      ∀ x, (L.encryptNip44 P pending recipient value now again signerNow nonce).2 = .ok x →
        L.Encrypts P Sealable x := by
  unfold LentSigner.encryptNip44
  split
  · split
    next hrec =>
      split
      · exact ⟨refuse_sublist, nofun⟩
      next hr =>
        obtain ⟨t, -, hr⟩ := Option.bind_eq_some_iff.1 hr
        split
        · refine ⟨Sublist.refl _, fun x hx => ?_⟩
          obtain ⟨c, hc, hx⟩ := bind_ok.1 hx
          cases Except.ok.inj hx
          exact ⟨encryptNip44_ok hc, hrec, hL.reads _ _ _ _ hr⟩
        · exact ⟨nil_sublist _, nofun⟩
    · exact ⟨refuse_sublist, nofun⟩
  · exact ⟨nil_sublist _, nofun⟩

lemma sign_spec (pending : Pending) (event : UnsignedNostrEvent) (now : Reading)
    (signerNow : Int) :
    (L.signEvent P pending event now signerNow).1.Sublist pending ∧
      ∀ y, (L.signEvent P pending event now signerNow).2 = .ok y →
        L.Seals P y.1 ∧ (y.1.content, y.2) ∈ pending ∧
          (L.signEvent P pending event now signerNow).1 = forget y.1.content pending := by
  unfold LentSigner.signEvent
  dsimp only
  split
  · split
    · exact ⟨refuse_sublist, nofun⟩
    next hd =>
      split
      next he =>
        refine ⟨filter_sublist, fun y hy => ?_⟩
        obtain ⟨e, hse, hy⟩ := bind_ok.1 hy
        cases Except.ok.inj hy
        have hs := signEvent_ok hse
        rw [he.1, he.2.1] at hs
        subst hs
        exact ⟨rfl, mem_of_pending hd, rfl⟩
      · exact ⟨refuse_sublist, nofun⟩
  · exact ⟨nil_sublist _, nofun⟩

lemma Inv.step (hL : L.Keeps Sealable) (h : Inv P L Sealable s) (e : Event Nonce) :
    Inv P L Sealable (step P L s e) := by
  cases e with
  | pubkey now =>
    rw [GuestSigners.step]
    split
    · exact h.key
    · exact h.drop (nil_sublist _)
  | getPublicKey now =>
    rw [GuestSigners.step]
    split
    · exact h
    · exact h.drop (nil_sublist _)
  | gotPublicKey now =>
    rw [GuestSigners.step]
    split_ifs
    · exact h.key
    · exact h.drop refuse_sublist
    · exact h.drop (nil_sublist _)
  | encryptNip44 recipient value now again signerNow nonce =>
    have hx := encrypt_spec (P := P) hL s.pending recipient value now again signerNow nonce
    rw [GuestSigners.step]
    split
    next he => exact h.drop (by simpa only [he] using hx.1)
    next he =>
      rw [he] at hx
      exact (h.drop hx.1).encrypt (hx.2 _ rfl)
  | encrypted call now =>
    rw [GuestSigners.step]
    split
    · exact h
    next hx =>
      dsimp only
      split
      · exact h.encrypted hx
      · exact h.shrink (nil_sublist _) (eraseIdx_sublist ..) (Sublist.refl _)
  | signEvent event now signerNow =>
    have hy := sign_spec (P := P) (L := L) s.pending event now signerNow
    rw [GuestSigners.step]
    split
    next he => exact h.drop (by simpa only [he] using hy.1)
    next he =>
      rw [he] at hy
      obtain ⟨hs, hm, rfl⟩ := hy.2 _ rfl
      exact h.sign hs hm
  | signed call now =>
    rw [GuestSigners.step]
    split
    · exact h
    next hy =>
      dsimp only
      split
      next ha => exact h.signed hL hy ha
      · exact h.shrink (nil_sublist _) (Sublist.refl _) (eraseIdx_sublist ..)
  | decrypt => exact h

lemma Inv.run (hL : L.Keeps Sealable) (h : Inv P L Sealable s) (l : List (Event Nonce)) :
    Inv P L Sealable (run P L s l) := by
  induction l generalizing s with
  | nil => exact h
  | cons e l ih => exact ih (h.step hL e)

end

/-- What the calls of a signer returned, and for what. -/
structure StaysWithin (Sealable : Text → Option Int → Prop) (s : Desk Nonce) : Prop where
  answers : ∀ a ∈ s.answers, L.Allows P Sealable s.obtained a
  once : (s.obtained.map (·.nonce)).Nodup → s.sealed.Nodup

lemma LentSigner.Keeps.stays {L : LentSigner Secret} {Sealable : Text → Option Int → Prop}
    (hL : L.Keeps Sealable) (hP : P.CarriesNonce) (l : List (Event Nonce)) :
    StaysWithin P L Sealable (run P L {} l) := by
  have h : Inv P L Sealable (run P L {} l) := Inv.run hL {
    obtained := by simp
    encrypting := by simp
    pending := by simp
    signing := by simp
    answers := by simp
    once := by simp [Desk.count, Desk.sealed] } l
  refine ⟨h.answers, fun hn => nodup_iff_count_le_one.2 fun c => ?_⟩
  have hc : ((run P L {} l).obtained.map (·.ciphertext)).Nodup := by
    refine Nodup.map_on (fun x hx y hy hxy => ?_) hn.of_map
    have hs := (h.obtained x hx).1
    rw [hxy] at hs
    exact inj_on_of_nodup_map hn hx hy (hP _ _ _ _ _ _ _ _ _ hs (h.obtained y hy).1)
  have ho := h.once c
  have hle := nodup_iff_count_le_one.1 hc c
  unfold Desk.count at ho
  omega

section
variable (identity : GuestOrderSigningIdentity Secret)

def RecoveryRumor (scope : Option OrganizerScope) (json : Text) (deadline : Option Int) : Prop :=
  ∃ payload rumor, payload.InScope identity scope ∧ buildScoped P scope payload = some rumor ∧
    rumor.json = json ∧ deadline = some payload.plan.takeoverAt

def FreePurchaseRumor (payload : EventMarketFreePurchasePayload) (json : Text)
    (deadline : Option Int) : Prop :=
  deadline = none ∧ payload.senderPubkey = identity.pubkey ∧
    payload.merchantPubkey = identity.merchantPubkey ∧ payload.orderId = identity.orderId ∧
    ∃ rumor, buildEventMarketFreePurchaseRumor P payload = some rumor ∧ rumor.json = json

variable {P identity} {now : Reading} {L : LentSigner Secret}

lemma recovery_keeps {scope : Option OrganizerScope}
    (h : createGuestCheckoutSparkRecoverySigner P identity scope now = .ok L) :
    L.recipient = (scope.map (·.organizerPubkey)).getD identity.merchantPubkey ∧
      L.Keeps (RecoveryRumor P identity scope) := by
  obtain ⟨-, h⟩ := rejects_ok.1 h
  cases Except.ok.inj h
  refine ⟨rfl, fun value now json deadline hr => ?_, fun _ deadline now _ ha => ?_⟩
  · simp only [readRecovery, run_gives] at hr
    obtain ⟨raw, -, -, payload, -, rumor, hb, ⟨-, -, -, hs, -⟩, he⟩ := hr
    cases he
    exact ⟨payload, rumor, hs, hb, rfl, rfl⟩
  · obtain ⟨-, -, -, -, -, -, -, ⟨t, ht, -, -, hlt⟩, -⟩ := of_decide_eq_true ha
    refine ⟨t, ht, (lt_min_iff.1 hlt).1, fun d hd => ?_⟩
    cases hd
    exact (lt_min_iff.1 hlt).2

lemma freePurchase_keeps {given : EventMarketFreePurchasePayload}
    (h : createGuestEventMarketFreePurchaseSigner P identity given now = .ok L) :
    ∃ payload, P.restoreEventMarketFreePurchase given = some payload ∧
      L.recipient = payload.organizerPubkey ∧ L.Keeps (FreePurchaseRumor P identity payload) := by
  unfold createGuestEventMarketFreePurchaseSigner at h
  split at h
  · cases h
  next payload hp =>
    split at h
    · cases h
    next rumor hb =>
      obtain ⟨ha, h⟩ := rejects_ok.1 h
      cases Except.ok.inj h
      obtain ⟨-, hs, hm, ho, -⟩ := of_decide_eq_true (Bool.eq_true_of_not_eq_false ha)
      refine ⟨payload, hp, rfl, fun value now json deadline hr => ?_, fun _ _ now hd ha => ?_⟩
      · simp only [readFreePurchase, run_gives] at hr
        obtain ⟨raw, -, -, parsed, -, -, built, -, -, he⟩ := hr
        cases he
        exact ⟨rfl, hs, hm, ho, rumor, hb, rfl⟩
      · obtain ⟨⟨-, -, -, t, ht, -, -, -, -, -, -, hlt, -⟩, -⟩ := of_decide_eq_true ha
        exact ⟨t, ht, hlt, fun d hd' => by rw [hd.1] at hd'; cases hd'⟩

end

/-- However its calls overlap, a signer seals rumors of its order only, in time, and each ciphertext
once. -/
theorem guest_signers_stay_within (P : GuestPlatform Secret Nonce) (hP : P.CarriesNonce)
    (secret : Secret) (orderId merchantPubkey : Text) (createdAt : Int) (now : Reading)
    (l : List (Event Nonce)) (L : LentSigner Secret) :
    let identity :=
      createGuestOrderSigningIdentityFromPrivateSigner P secret orderId merchantPubkey createdAt
    (∀ scope, createGuestCheckoutSparkRecoverySigner P identity scope now = .ok L →
      L.recipient = (scope.map (·.organizerPubkey)).getD merchantPubkey ∧
        StaysWithin P L (RecoveryRumor P identity scope) (run P L {} l)) ∧
    ∀ given, createGuestEventMarketFreePurchaseSigner P identity given now = .ok L →
      ∃ payload, P.restoreEventMarketFreePurchase given = some payload ∧
        L.recipient = payload.organizerPubkey ∧
        StaysWithin P L (FreePurchaseRumor P identity payload) (run P L {} l) := by
  intro identity
  constructor
  · intro scope h
    exact ⟨(recovery_keeps h).1, (recovery_keeps h).2.stays P hP l⟩
  · intro given h
    obtain ⟨payload, hp, hr, hL⟩ := freePurchase_keeps h
    exact ⟨payload, hp, hr, hL.stays P hP l⟩

namespace Sample

def guest : Text := replicate 64 'a'

def merchant : Text := replicate 64 'b'

def purchase : EventMarketFreePurchasePayload where
  handoffId := "handoff"
  orderId := "order"
  senderPubkey := guest
  merchantPubkey := merchant
  organizerPubkey := replicate 64 'c'
  createdAt := 1000
  json := "purchase"

def platform : GuestPlatform Unit Char where
  getPublicKey _ := guest
  encrypt _ _ text nonce := some (nonce :: text)
  getEventHash _ := "hash"
  sign _ id := id
  marketApp := ⟨"market", "market", none, []⟩
  readRumor text := some ⟨{ tags := [], content := text }, false, false⟩
  isProgress _ := none
  parseRecoveryPayload := some
  restoreOrganizerPayload := some
  restoreOrganizerProgress := some
  parseCheckoutSparkRecoveryRumor _ := none
  parseCheckoutSparkOrganizerRecoveryRumor _ := none
  parseCheckoutSparkOrganizerRecoveryProgressRumor _ := none
  restoreEventMarketFreePurchase := some
  parseEventMarketFreePurchaseRumor _ := some purchase
  fitsTransport _ := true

def canonical : Text :=
  ((buildEventMarketFreePurchaseRumor platform purchase).map (·.json)).getD []

def calls : List (Event Char) :=
  let request : UnsignedNostrEvent := ⟨guest, 13, 1, [], 'n' :: canonical⟩
  [.encryptNip44 purchase.organizerPubkey canonical (some 1000) none 1000 'n',
    .encrypted 0 (some 1001), .signEvent request (some 1002) 1002,
    .signEvent request (some 1003) 1003, .signed 0 (some 1004)]

end Sample

open Sample in
theorem guest_signers_stay_within_free :
    let identity :=
      createGuestOrderSigningIdentityFromPrivateSigner platform () "order" merchant 1000
    ∃ L, createGuestEventMarketFreePurchaseSigner platform identity purchase (some 1000) = .ok L ∧
      (run platform L {} calls).sealed = ['n' :: canonical] ∧
      StaysWithin platform L (FreePurchaseRumor platform identity purchase)
        (run platform L {} calls) := by
  have hP : platform.CarriesNonce := by
    intro _ _ _ _ _ _ _ _ c h h'
    cases h
    cases h'
    rfl
  obtain ⟨-, hfree⟩ :=
    guest_signers_stay_within platform hP () "order" merchant 1000 (some 1000) calls _
  obtain ⟨payload, hp, -, hs⟩ := hfree purchase rfl
  cases Option.some.inj hp
  exact ⟨_, rfl, by decide +kernel, hs⟩

end Conduit.GuestSigners
