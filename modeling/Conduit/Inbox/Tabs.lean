import Conduit.Inbox.Store
import Conduit.Runs

namespace Conduit.Inbox

open Js Stock Runs

structure CommitTask where
  call : CommitCall
  retained : Option InboxProjectionRow
  value : Option InboxCipher
  deriving DecidableEq

structure PutTask where
  projection : InboxProjection
  read : Bool
  value : InboxCipher
  deriving DecidableEq

/-- A `deleteRecords` call with its tombstones written and the rows still to mark. -/
structure DeleteTask where
  ids : List Text
  author : Text
  marks : Option (List Text)
  deriving DecidableEq

/-- A `migrateLegacy` call. `sealed`: the values of the first of the remaining rows. -/
structure MigrateTask where
  rest : List LegacyRow
  values : Option (List InboxCipher)
  deriving DecidableEq

structure InboxTabs where
  db : InboxDb
  now : Int
  sealedValues : List InboxCipher
  commits : List CommitTask
  puts : List PutTask
  deletes : List DeleteTask
  migrations : List MigrateTask
  /-- The `deleteRecords` calls that have returned. -/
  returned : List (List Text × Text)
  /-- The associations of commerce records that `putProjection` has committed, the last first. -/
  associated : List (Text × Option Text)

inductive Action where
  | tick (now : Int)
  | receive (event : SignedEvent) (sources : List Text)
  | claim (id owner : Text) (retry : Bool)
  | heartbeat (id owner : Text)
  | commitSeal (call : CommitCall) (nonce : Nat)
  | commit (task : CommitTask)
  | putSeal (projection : InboxProjection) (read : Bool) (nonce : Nat)
  | put (task : PutTask)
  | markRead (ids : List Text)
  | deleteRecords (ids : List Text) (author : Text)
  | deleteRead (task : DeleteTask)
  | deleteMark (task : DeleteTask)
  | deleteReturn (task : DeleteTask)
  | migrateRead
  | migrateSeal (task : MigrateTask) (nonces : List Nat)
  | migrate (task : MigrateTask)

section
variable (P : StorePlatform) (principal : Text)

def Fresh (s : InboxTabs) (nonces : List Nat) : Prop :=
  nonces.Nodup ∧ ∀ n ∈ nonces, ∀ c ∈ s.sealedValues, c.nonce ≠ n
  deriving Decidable

def commitSeal (call : CommitCall) (nonce : Nat) (s : InboxTabs) : Option InboxTabs :=
  match call.target with
  | none => some { s with commits := ⟨call, none, none⟩ :: s.commits }
  | some p => do
    guard (Fresh s [nonce])
    let retained := retainedRow principal p s.db
    let next ← nextProjection principal p retained
    let value : InboxCipher := ⟨nonce, principal, p.id, next⟩
    pure { s with
      commits := ⟨call, retained, some value⟩ :: s.commits
      sealedValues := value :: s.sealedValues }

def commitRun (task : CommitTask) (s : InboxTabs) : Option InboxTabs := do
  guard (task ∈ s.commits)
  let s := { s with commits := s.commits.erase task }
  match commitTransaction principal s.now task.call task.retained task.value s.db with
  | some db => pure { s with db := db }
  | none => pure s

def putSeal (projection : InboxProjection) (read : Bool) (nonce : Nat) (s : InboxTabs) :
    Option InboxTabs := do
  guard (Fresh s [nonce])
  let value : InboxCipher := ⟨nonce, principal, projection.id, projection⟩
  pure { s with
    puts := ⟨projection, read, value⟩ :: s.puts
    sealedValues := value :: s.sealedValues }

def putRun (task : PutTask) (s : InboxTabs) : Option InboxTabs := do
  guard (task ∈ s.puts)
  let s := { s with puts := s.puts.erase task }
  match putProjection principal task.projection task.read task.value s.db with
  | some db =>
    pure { s with
      db := db
      associated :=
        match task.projection.commerceRecord with
        | some r => (r.provenance.rumorId, r.association) :: s.associated
        | none => s.associated }
  | none => pure s

variable (task : DeleteTask)

variable (s : InboxTabs)

def deleteRead : Option InboxTabs := do
  guard (task ∈ s.deletes ∧ task.marks = none)
  let marks ← rowsToMark principal s.now task.ids task.author s.db
  pure { s with deletes := { task with marks := some marks } :: s.deletes.erase task }

def deleteMark : Option InboxTabs := do
  guard (task ∈ s.deletes)
  match task.marks with
  | some (rowId :: rest) =>
    pure { s with
      db := markDeleted rowId s.db
      deletes := { task with marks := some rest } :: s.deletes.erase task }
  | _ => none

def deleteReturn : Option InboxTabs := do
  guard (task ∈ s.deletes ∧ task.marks = some [])
  pure { s with
    deletes := s.deletes.erase task
    returned := (task.ids, task.author) :: s.returned }

def sealLegacy (old : LegacyRow) (nonces : List Nat) : List InboxCipher :=
  ((legacyAccounts old).zip nonces).map fun (account, nonce) =>
    ⟨nonce, account, old.id, legacyProjection P old⟩

def migrateSeal (task : MigrateTask) (nonces : List Nat) (s : InboxTabs) : Option InboxTabs := do
  guard (task ∈ s.migrations ∧ task.values = none ∧ Fresh s nonces)
  let old ← task.rest.head?
  guard (nonces.length = (legacyAccounts old).length)
  let values := sealLegacy P old nonces
  pure { s with
    migrations := { task with values := some values } :: s.migrations.erase task
    sealedValues := values ++ s.sealedValues }

def migrateRun (task : MigrateTask) (s : InboxTabs) : Option InboxTabs := do
  guard (task ∈ s.migrations)
  match task.rest, task.values with
  | old :: rest, some values =>
    pure { s with
      db := migrateRow P old values s.db
      migrations := ⟨rest, none⟩ :: s.migrations.erase task }
  | _, _ => none

def InboxTabs.next (a : Action) (s : InboxTabs) : Option InboxTabs :=
  match a with
  | .tick now => if s.now ≤ now then some { s with now := now } else none
  | .receive event sources =>
    (Inbox.receive P principal s.now event sources s.db).map fun db => { s with db := db }
  | .claim id owner retry => some { s with db := Inbox.claim principal s.now id owner retry s.db }
  | .heartbeat id owner => some { s with db := Inbox.heartbeat principal s.now id owner s.db }
  | .commitSeal call nonce => Inbox.commitSeal principal call nonce s
  | .commit task => commitRun principal task s
  | .putSeal projection read nonce => Inbox.putSeal principal projection read nonce s
  | .put task => putRun principal task s
  | .markRead ids => some { s with db := Inbox.markRead principal ids s.db }
  | .deleteRecords ids author =>
    some { s with
      db := putTombstones principal s.now ids author s.db
      deletes := ⟨ids, author, none⟩ :: s.deletes }
  | .deleteRead task => Inbox.deleteRead principal task s
  | .deleteMark task => Inbox.deleteMark task s
  | .deleteReturn task => Inbox.deleteReturn task s
  | .migrateRead => some { s with migrations := ⟨legacyRows principal s.db, none⟩ :: s.migrations }
  | .migrateSeal task nonces => Inbox.migrateSeal P task nonces s
  | .migrate task => migrateRun P task s

def Step (a : Action) (s t : InboxTabs) : Prop := s.next P principal a = some t

end

end Conduit.Inbox
