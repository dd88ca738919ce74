import Conduit.CheckoutSpark.EventBinding
import Conduit.Stock.Records

namespace Conduit.Inbox

open Js Stock CheckoutSpark Option

def inboxDecodeRulesVersion : Nat := 5

def leaseMs : Int := 60000

def maxRelayMessageChars : Nat := 524288

inductive InboxDecodeState where
  | queued
  | waitingForSigner
  | opening
  | permissionDeclined
  | opened
  | unsupported
  | malformed
  | invalidEnvelope
  | retryableFailure
  | providerUnavailable
  | machine
  | unrelated
  | deleted
  | expired
  deriving DecidableEq

structure InboxClaim where
  owner : Text
  expiresAt : Int
  deriving DecidableEq

structure InboxWrapperRow where
  (id accountPubkey : Text)
  event : SignedEvent
  sources : List Text
  observedAt : Int
  state : InboxDecodeState
  (rulesVersion attempts : Nat)
  clientSealMetadata : Bool
  claim : Option InboxClaim
  expiresAt : Option Int
  deriving DecidableEq

structure StoredMessage where
  (id senderPubkey recipientPubkey content : Text)
  decrypted : Option Text
  (createdAt kind : Int)
  read : Bool
  deriving DecidableEq

structure CachedOrderMessage where
  (id orderId senderPubkey recipientPubkey : Text)
  createdAt : Int
  rawContent : Text
  deriving DecidableEq

inductive LegacyRow where
  | direct (row : StoredMessage)
  | order (row : CachedOrderMessage)
  deriving DecidableEq

def LegacyRow.id : LegacyRow → Text
  | .direct row => row.id
  | .order row => row.id

def LegacyRow.senderPubkey : LegacyRow → Text
  | .direct row => row.senderPubkey
  | .order row => row.senderPubkey

def LegacyRow.recipientPubkey : LegacyRow → Text
  | .direct row => row.recipientPubkey
  | .order row => row.recipientPubkey

def LegacyRow.createdAt : LegacyRow → Int
  | .direct row => row.createdAt
  | .order row => row.createdAt

/-- A message of a projection. The fields that the store does not read are in `body`. -/
structure InboxMessage where
  (id senderPubkey : Text)
  createdAt : Int
  body : Text
  deriving DecidableEq

inductive MessageCategory where
  | direct
  | file
  | commerce
  | machine
  | unrelated
  deriving DecidableEq

structure Provenance where
  (rumorId authorPubkey : Text)
  createdAt : Option Int
  deriving DecidableEq

structure DecodedCommerceMessage where
  category : MessageCategory
  provenance : Provenance
  association : Option Text
  body : Text
  deriving DecidableEq

inductive InboxProjection where
  | quarantine (legacy : LegacyRow) (id senderPubkey : Text) (createdAt : Int)
  | direct (message : InboxMessage)
  | order (message : InboxMessage)
  | checkoutRecovery (message : InboxMessage)
  | eventFreePurchase (message : InboxMessage)
  | recovery (message : InboxMessage)
  | record (record : DecodedCommerceMessage)
  deriving DecidableEq

inductive ProjectionKind where
  | quarantine
  | direct
  | order
  | checkoutRecovery
  | eventFreePurchase
  | recovery
  | record
  deriving DecidableEq

namespace InboxProjection

def kind : InboxProjection → ProjectionKind
  | quarantine .. => .quarantine
  | direct _ => .direct
  | order _ => .order
  | checkoutRecovery _ => .checkoutRecovery
  | eventFreePurchase _ => .eventFreePurchase
  | recovery _ => .recovery
  | record _ => .record

/-- The `id` of `projectionIdentity`. -/
def id : InboxProjection → Text
  | quarantine _ id _ _ => id
  | direct m | order m | checkoutRecovery m | eventFreePurchase m | recovery m => m.id
  | record r => r.provenance.rumorId

/-- The `author` of `projectionIdentity`. -/
def author : InboxProjection → Text
  | quarantine _ _ sender _ => sender
  | direct m | order m | checkoutRecovery m | eventFreePurchase m | recovery m => m.senderPubkey
  | record r => r.provenance.authorPubkey

/-- The `createdAt` of `projectionIdentity`. -/
def createdAt : InboxProjection → Int
  | quarantine _ _ _ at_ => at_
  | direct m | order m | checkoutRecovery m | eventFreePurchase m | recovery m => m.createdAt
  | record r => r.provenance.createdAt.getD 0 * 1000

def commerceRecord : InboxProjection → Option DecodedCommerceMessage
  | record r => if r.category = .commerce then some r else none
  | _ => none

end InboxProjection

/-- What `seal` returns. -/
structure InboxCipher where
  nonce : Nat
  (account id : Text)
  value : InboxProjection
  deriving DecidableEq

structure InboxDeletionRow where
  (id accountPubkey logicalId author : Text)
  observedAt : Int

structure InboxProjectionRow where
  (id accountPubkey logicalId : Text)
  wrapId : Option Text
  createdAt : Int
  kind : ProjectionKind
  read : Bool
  value : InboxCipher
  expiresAt : Option Int
  deleted : Bool
  deriving DecidableEq

structure InboxDb where
  commerceInboxWrappers : Table InboxWrapperRow InboxWrapperRow.id
  commerceInboxRecords : Table InboxProjectionRow InboxProjectionRow.id
  commerceInboxDeletions : Table InboxDeletionRow InboxDeletionRow.id
  messages : Table StoredMessage StoredMessage.id
  orderMessages : Table CachedOrderMessage CachedOrderMessage.id

/-- The fields of a `ParsedOrderMessage` that the migration compares. -/
structure ParsedOrder where
  (id orderId senderPubkey recipientPubkey : Text)
  createdAt : Int
  type : Text

structure StorePlatform where
  isValidSignedEvent : SignedEvent → Bool
  /-- The characters of the event as a relay sends it. -/
  wireChars : SignedEvent → Nat
  /-- The content is a machine payload as JSON. -/
  isMachineContent : Text → Bool
  /-- `JSON.parse` of the raw content; `none` where it throws. -/
  parseCachedOrder : Text → Option ParsedOrder
  /-- What `parseOrderMessageRumorEvent` reads beyond the event's own fields; `none` where it
  throws. -/
  parseOrderBody : ParsedOrder → Option Text

section
variable (P : StorePlatform) (principal : Text) (now : Int)

/-- `key` of an id, under an account. -/
def key (account id : Text) : Text := account ++ ':' :: id

/-- `expiresAt && expiresAt <= Date.now()`. -/
def Lapsed (expiresAt : Option Int) : Prop := ∃ e ∈ expiresAt, e ≠ 0 ∧ e ≤ now
  deriving Decidable

/-- `open`; `none` where it throws. -/
def openCipher (value : InboxCipher) (id : Text) : Option InboxProjection :=
  if key value.account value.id = key principal id then some value.value else none

variable (event : SignedEvent)

def eventExpiry : Option Int :=
  (event.tags.find? fun t => decide (t[0]? = some "expiration".toList)).bind fun tag =>
    tag[1]?.bind fun expiry =>
      if expiry ≠ [] ∧ expiry.all isDigitChar = true then some (digitsValue expiry * 1000) else none

def Admissible : Prop :=
  P.isValidSignedEvent event = true ∧ (event.kind = 1059 ∨ event.kind = 4) ∧
    P.wireChars event ≤ maxRelayMessageChars ∧
    (event.tags.filter fun t => decide (t[0]? = some "p".toList)).length = 1 ∧
    ((∃ t ∈ event.tags, t[0]? = some "p".toList ∧ t[1]? = some principal) ∨
      event.kind = 4 ∧ event.pubkey = principal)
  deriving Decidable

/-- The row that `receive` writes over the one that is stored, if any. -/
def receivedRow (sources : List Text) : Option InboxWrapperRow → InboxWrapperRow
  | some old => { old with
      sources := (old.sources ++ sources).eraseDups
      observedAt := now
      state :=
        if old.state = .deleted ∨ old.state = .expired then old.state
        else if Lapsed now (eventExpiry event) then .expired
        else old.state }
  | none => {
      id := key principal event.id
      accountPubkey := principal
      event := event
      sources := sources.eraseDups
      observedAt := now
      state := if Lapsed now (eventExpiry event) then .expired else .queued
      rulesVersion := 0
      attempts := 0
      clientSealMetadata := false
      claim := none
      expiresAt := eventExpiry event }

/-- `none` where the event is refused. -/
def receive (sources : List Text) (db : InboxDb) : Option InboxDb :=
  if Admissible P principal event then
    let old := db.commerceInboxWrappers.get (key principal event.id)
    some { db with
      commerceInboxWrappers :=
        db.commerceInboxWrappers.put (receivedRow principal now event sources old) }
  else none

/-- The row that `claim` writes; `none` where the row is left alone. -/
def claimedRow (owner : Text) (retry : Bool) (row : InboxWrapperRow) : Option InboxWrapperRow :=
  if row.accountPubkey ≠ principal ∨ row.state = .deleted ∨ row.state = .expired ∨
      Lapsed now row.expiresAt ∨ ∃ c ∈ row.claim, now < c.expiresAt ∧ c.owner ≠ owner then none
  else
    let changedRules := row.rulesVersion ≠ inboxDecodeRulesVersion
    if retry ∧ (row.state = .opened ∨ row.state = .machine ∨ row.state = .unrelated) then none
    else if ¬ changedRules ∧ ¬ retry ∧ row.state ≠ .queued ∧ row.state ≠ .waitingForSigner ∧
        row.state ≠ .opening then none
    else if ¬ changedRules ∧ ¬ retry ∧ 3 ≤ row.attempts then none
    else some { row with
      state := .waitingForSigner
      attempts := row.attempts + 1
      claim := some ⟨owner, now + leaseMs⟩ }

def claim (id owner : Text) (retry : Bool) (db : InboxDb) : InboxDb :=
  match (db.commerceInboxWrappers.get id).bind (claimedRow principal now owner retry) with
  | some next => { db with commerceInboxWrappers := db.commerceInboxWrappers.put next }
  | none => db

def heartbeat (id owner : Text) (db : InboxDb) : InboxDb :=
  match db.commerceInboxWrappers.get id with
  | some row =>
    if row.accountPubkey = principal ∧ row.claim.map (·.owner) = some owner then
      { db with
        commerceInboxWrappers :=
          db.commerceInboxWrappers.put { row with claim := some ⟨owner, now + leaseMs⟩ } }
    else db
  | none => db

structure CommitCall where
  row : InboxWrapperRow
  owner : Text
  state : InboxDecodeState
  projection : Option InboxProjection
  innerExpiresAt : Option Int
  deriving DecidableEq

variable (call : CommitCall)

def CommitCall.target : Option InboxProjection :=
  call.projection.filter fun p => decide (p.id ≠ [])

variable (projection : InboxProjection)

variable (db : InboxDb)

/-- `retained`: the record that a commerce record will replace, as the call reads it before it
seals. -/
def retainedRow : Option InboxProjectionRow :=
  match projection.commerceRecord with
  | some _ => db.commerceInboxRecords.get (key principal projection.id)
  | none => none

variable (retained : Option InboxProjectionRow)

/-- The record with the retained association; `none` where the retained one does not open. -/
def nextProjection : Option InboxProjection :=
  match projection.commerceRecord, retained with
  | some r, some row =>
    if row.kind = .record then
      (openCipher principal row.value projection.id).map fun saved =>
        match saved.commerceRecord with
        | some s => .record { r with association := s.association }
        | none => projection
    else some projection
  | _, _ => some projection

/-- `Math.min` of the expiries that are given; `none` is `Infinity`. -/
def minExpiry : Option Int → Option Int → Option Int
  | some a, some b => some (min a b)
  | some a, none => some a
  | none, b => b

def tombstone (author id : Text) (db : InboxDb) : Option InboxDeletionRow :=
  db.commerceInboxDeletions.get (key principal (author ++ ':' :: id))

def storedRow (value : InboxCipher) (wrapId : Option Text)
    (expiresAt : Option Int) (read : Bool) : InboxProjectionRow where
  id := key principal projection.id
  accountPubkey := principal
  logicalId := projection.id
  wrapId := wrapId
  createdAt := projection.createdAt
  kind := projection.kind
  read := read
  value := value
  expiresAt := expiresAt
  deleted := false

/-- The record part of a commit's transaction; `none` where the stored record is no longer the
retained one. -/
def commitRecord (wrapId : Text) (expiresAt : Option Int) (projection : InboxProjection)
    (retained : Option InboxProjectionRow) (value : InboxCipher) (db : InboxDb) : Option InboxDb :=
  let previous := db.commerceInboxRecords.get (key principal projection.id)
  if projection.commerceRecord.isSome = true ∧
      previous.map (·.value.nonce) ≠ retained.map (·.value.nonce) then none
  else if (∃ p ∈ previous, p.deleted = true) ∨
      (tombstone principal projection.author projection.id db).isSome = true then some db
  else some { db with
    commerceInboxRecords := db.commerceInboxRecords.put (storedRow principal projection value
      (some wrapId) expiresAt ((previous.map (·.read)).getD false)) }

def committedWrapper (current : InboxWrapperRow) : InboxWrapperRow :=
  { current with
    state := call.state
    clientSealMetadata := call.row.clientSealMetadata || current.clientSealMetadata
    rulesVersion := inboxDecodeRulesVersion
    claim := none }

/-- The transaction of one attempt of `commit`; `none` where the attempt is made again. -/
def commitTransaction (value : Option InboxCipher) (db : InboxDb) : Option InboxDb :=
  match db.commerceInboxWrappers.get call.row.id with
  | none => some db
  | some current =>
    if current.claim.map (·.owner) ≠ some call.owner ∨ current.state = .deleted ∨
        current.state = .expired then some db
    else
      let expiresAt := minExpiry current.expiresAt call.innerExpiresAt
      if ∃ e ∈ expiresAt, e ≤ now then
        some { db with
          commerceInboxWrappers :=
            db.commerceInboxWrappers.put { current with state := .expired, claim := none } }
      else
        let stored :=
          match call.target, value with
          | some p, some v => commitRecord principal call.row.event.id expiresAt p retained v db
          | _, _ => some db
        stored.map fun db => { db with
          commerceInboxWrappers := db.commerceInboxWrappers.put (committedWrapper call current) }

/-- The transaction of `putProjection`; `none` where it writes nothing. -/
def putProjection (read : Bool) (value : InboxCipher) (db : InboxDb) : Option InboxDb :=
  let previous := db.commerceInboxRecords.get (key principal projection.id)
  if (∃ p ∈ previous, p.deleted = true) ∨
      (tombstone principal projection.author projection.id db).isSome = true then none
  else some { db with
    commerceInboxRecords := db.commerceInboxRecords.put (storedRow principal projection value
      (previous.bind (·.wrapId)) (previous.bind (·.expiresAt))
      ((previous.map (·.read)).getD read)) }

def Shown (row : InboxProjectionRow) : Prop :=
  row.accountPubkey = principal ∧ row.deleted = false ∧ ¬ Lapsed now row.expiresAt
  deriving Decidable

/-- `none` where a record does not open. -/
def projections : Option (List (InboxProjectionRow × InboxProjection)) :=
  (db.commerceInboxRecords.rows.filter fun row => decide (Shown principal now row)).mapM fun row =>
    (openCipher principal row.value row.logicalId).map fun p => (row, p)

variable (ids : List Text)

def markRead (db : InboxDb) : InboxDb :=
  { db with
    commerceInboxRecords := db.commerceInboxRecords.modify
      (fun row => if row.id ∈ ids.map (key principal) then { row with read := true } else row)
      (fun row => by split <;> rfl) }

/-- The tombstones that `deleteRecords` writes before it reads the records. -/
def putTombstones (author : Text) (db : InboxDb) : InboxDb :=
  { db with
    commerceInboxDeletions := (((ids.filter fun id => decide (IsHex64 id)).map fun id =>
      { id := key principal (author ++ ':' :: id)
        accountPubkey := principal
        logicalId := id
        author := author
        observedAt := now }).foldl Table.put db.commerceInboxDeletions) }

/-- The rows that `deleteRecords` goes on to mark. -/
def rowsToMark (author : Text) (db : InboxDb) : Option (List Text) :=
  (projections principal now db).map fun shown =>
    (shown.filter fun (row, p) => decide (row.logicalId ∈ ids ∧ p.author = author)).map (·.1.id)

def markDeleted (rowId : Text) (db : InboxDb) : InboxDb :=
  { db with
    commerceInboxRecords := db.commerceInboxRecords.modify
      (fun row => if row.id = rowId then { row with deleted := true } else row)
      (fun row => by split <;> rfl) }

/-- The rows of the earlier tables that `migrateLegacy` reads. -/
def legacyRows : List LegacyRow :=
  ((db.messages.rows.filter fun row =>
      decide (row.recipientPubkey = principal ∨ row.senderPubkey = principal)).map .direct) ++
    (db.orderMessages.rows.filter fun row =>
      decide (row.recipientPubkey = principal ∨ row.senderPubkey = principal)).map .order

variable (old : LegacyRow)

def quarantined : InboxProjection :=
  .quarantine old old.id old.senderPubkey old.createdAt

def cachedOrderMessage (row : CachedOrderMessage) : Option InboxMessage := do
  let cached ← P.parseCachedOrder row.rawContent
  guard (cached.id = row.id ∧ cached.senderPubkey = row.senderPubkey ∧
    cached.recipientPubkey = row.recipientPubkey ∧ cached.orderId = row.orderId ∧
    cached.createdAt = row.createdAt ∧ startsWith cached.type "organizer_" = false)
  let body ← P.parseOrderBody cached
  pure ⟨cached.id, cached.senderPubkey, cached.createdAt / 1000 * 1000, body⟩

def legacyProjection : LegacyRow → InboxProjection
  | .direct row =>
    let content := row.decrypted.getD row.content
    if (row.kind = 4 ∨ row.kind = 14) ∧ P.isMachineContent content = false then
      .direct ⟨row.id, row.senderPubkey, row.createdAt, content⟩
    else quarantined (.direct row)
  | .order row =>
    match cachedOrderMessage P row with
    | some message => .order message
    | none => quarantined (.order row)

def legacyAccounts : List Text :=
  [old.senderPubkey, old.recipientPubkey].eraseDups

def migratedRow (value : InboxCipher) : InboxProjectionRow where
  id := key value.account old.id
  accountPubkey := value.account
  logicalId := old.id
  wrapId := none
  createdAt := old.createdAt
  kind := (legacyProjection P old).kind
  read :=
    match old with
    | .direct row => row.read
    | .order _ => true
  value := value
  expiresAt := none
  deleted := false

def putMigrated (db : InboxDb) (value : InboxCipher) : InboxDb :=
  match db.commerceInboxRecords.get (key value.account old.id) with
  | some _ => db
  | none => { db with
      commerceInboxRecords := db.commerceInboxRecords.put (migratedRow P old value) }

/-- The transaction of `migrateLegacy` for one row. -/
def migrateRow (values : List InboxCipher) (db : InboxDb) : InboxDb :=
  let db := values.foldl (putMigrated P old) db
  match old with
  | .direct row => { db with messages := db.messages.remove row.id }
  | .order row => { db with orderMessages := db.orderMessages.remove row.id }

end

variable {principal : Text} {now : Int} {db db' : InboxDb}

lemma key_inj {a b : Text} (h : key principal a = key principal b) : a = b :=
  (List.cons.inj (List.append_cancel_left h)).2

variable {retained : Option InboxProjectionRow} {p : InboxProjection} {v : InboxCipher}

lemma commitRecord_cases {wrapId : Text} {expiresAt : Option Int}
    (h : commitRecord principal wrapId expiresAt p retained v db = some db') :
    db' = db ∨ tombstone principal p.author p.id db = none ∧
      (p.commerceRecord.isSome = true →
        (db.commerceInboxRecords.get (key principal p.id)).map (·.value.nonce) =
          retained.map (·.value.nonce)) ∧
      db' = { db with
        commerceInboxRecords := db.commerceInboxRecords.put (storedRow principal p v (some wrapId)
          expiresAt
          (((db.commerceInboxRecords.get (key principal p.id)).map (·.read)).getD false)) } := by
  simp only [commitRecord] at h
  split_ifs at h with hm hb
  · exact .inl (some.inj h).symm
  · rw [not_or] at hb
    refine .inr ⟨by simpa using hb.2, fun hc => ?_, (some.inj h).symm⟩
    by_contra hne
    exact hm ⟨hc, hne⟩

lemma commitTransaction_cases {call : CommitCall} {value : Option InboxCipher}
    (h : commitTransaction principal now call retained value db = some db') :
    db' = db ∨ ∃ current next stored, db.commerceInboxWrappers.get call.row.id = some current ∧
      current.claim.map (·.owner) = some call.owner ∧
      ¬(current.state = .deleted ∨ current.state = .expired) ∧
      next.id = current.id ∧ next.sources = current.sources ∧
      db' = { stored with commerceInboxWrappers := db.commerceInboxWrappers.put next } ∧
      (stored = db ∨ ∃ p v expiresAt, call.target = some p ∧ value = some v ∧
        commitRecord principal call.row.event.id expiresAt p retained v db = some stored) := by
  simp only [commitTransaction] at h
  split at h
  · exact .inl (some.inj h).symm
  · rename_i current hcur
    split_ifs at h with hc hexp
    · exact .inl (some.inj h).symm
    · rw [not_or, not_not] at hc
      exact .inr ⟨current, { current with state := .expired, claim := none }, db, hcur,
        hc.1, hc.2, rfl, rfl, (some.inj h).symm, .inl rfl⟩
    · rw [not_or, not_not] at hc
      obtain ⟨stored, hs, rfl⟩ := map_eq_some_iff.1 h
      have hr : stored = db ∨ ∃ p v expiresAt, call.target = some p ∧ value = some v ∧
          commitRecord principal call.row.event.id expiresAt p retained v db = some stored := by
        split at hs
        · rename_i p v ht
          exact .inr ⟨p, v, _, ht, rfl, hs⟩
        · exact .inl (some.inj hs).symm
      have hw : stored.commerceInboxWrappers = db.commerceInboxWrappers := by
        rcases hr with rfl | ⟨p, v, expiresAt, -, -, hcmt⟩
        · rfl
        · obtain rfl | ⟨-, -, rfl⟩ := commitRecord_cases hcmt <;> rfl
      refine .inr ⟨current, committedWrapper call current, stored, hcur, hc.1, hc.2,
        rfl, rfl, ?_, hr⟩
      rw [hw]

lemma putProjection_cases {read : Bool} (h : putProjection principal p read v db = some db') :
    tombstone principal p.author p.id db = none ∧
      db' = { db with
        commerceInboxRecords := db.commerceInboxRecords.put (storedRow principal p v
          ((db.commerceInboxRecords.get (key principal p.id)).bind (·.wrapId))
          ((db.commerceInboxRecords.get (key principal p.id)).bind (·.expiresAt))
          (((db.commerceInboxRecords.get (key principal p.id)).map (·.read)).getD read)) } := by
  simp only [putProjection] at h
  split_ifs at h with hb
  rw [not_or] at hb
  exact ⟨by simpa using hb.2, (some.inj h).symm⟩

end Conduit.Inbox
