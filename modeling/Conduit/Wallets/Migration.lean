import Conduit.Platform
import Conduit.Runs
import Conduit.Table

namespace Conduit.Wallets

open Js Runs Throwing

inductive WalletKind where
  | portable
  | connected
  deriving DecidableEq

inductive WalletProviderId where
  | spark
  | nwc
  | other (name : Text)
  deriving DecidableEq

structure WalletDescriptor where
  id : Text
  kind : WalletKind
  providerId : WalletProviderId
  portableRecordVersion : Option Nat
  deriving DecidableEq

structure WalletCredential where
  walletId : Text
  providerId : WalletProviderId
  credential : Text

structure Database where
  wallets : Table WalletDescriptor WalletDescriptor.id
  walletCredentials : Table WalletCredential WalletCredential.walletId

variable (d : Database)

/-- `MarketWalletStore.list`: the registered wallets. -/
def Database.list : List WalletDescriptor :=
  d.wallets.rows.filter fun w =>
    decide (w.providerId ≠ .spark ∨ w.portableRecordVersion = some 1)

def Database.getNwcCredential (walletId : Text) : Option Text :=
  (d.walletCredentials.get walletId).bind fun c =>
    if c.providerId = .nwc then some c.credential else none

def Database.putNwcCredential (walletId uri : Text) : Database :=
  { d with walletCredentials := d.walletCredentials.put ⟨walletId, .nwc, uri⟩ }

def Database.deleteNwcCredential (walletId : Text) : Database :=
  { d with walletCredentials := d.walletCredentials.remove walletId }

/-- `MarketWalletStore.delete`, which `WalletRegistry.remove` calls. -/
def Database.delete (id : Text) : Database :=
  ⟨d.wallets.remove id, d.walletCredentials.remove id⟩

/-- `WalletRegistry.add` of a Connected Wallet, under the id that `createId` gives. -/
def Database.add (id : Text) : Result (WalletDescriptor × Database) := do
  reject (id = [] ∨ ∃ w ∈ d.list, w.id = id)
    (.error "Wallet ID is invalid or already registered.")
  let wallet : WalletDescriptor := ⟨id, .connected, .nwc, none⟩
  pure (wallet, { d with wallets := d.wallets.put wallet })

section
variable (getNwcUriFingerprint : Text → Option Text)

variable (uri : Text)

/-- `getNwcUriFingerprint`, which throws on a text that is no connection. -/
def fingerprintOf : Result Text :=
  match getNwcUriFingerprint uri with
  | some fingerprint => .ok fingerprint
  | none => .error (.error "Invalid NWC connection URI.")

def findMatchingNwcCredentialWalletIds (credentials : List WalletCredential) (uri : Text) :
    Result (List Text) := do
  let fingerprint ← fingerprintOf getNwcUriFingerprint uri
  pure ((credentials.filter fun c =>
    decide (c.providerId = .nwc ∧ getNwcUriFingerprint c.credential = some fingerprint)).map
      WalletCredential.walletId)

def repair (registeredWallets : List WalletDescriptor)
    (acc : Option WalletDescriptor × Database) (existingWalletId : Text) :
    Result (Option WalletDescriptor × Database) :=
  match registeredWallets.find? fun w => decide (w.id = existingWalletId) with
  | some registeredWallet => do
    reject (registeredWallet.kind ≠ .connected ∨ registeredWallet.providerId ≠ .nwc ∨
      acc.1.isSome = true) (.error "Connected Wallet registration is inconsistent.")
    pure (some registeredWallet, acc.2)
  | none => pure (acc.1, acc.2.deleteNwcCredential existingWalletId)

structure NwcWalletRegistration where
  wallet : WalletDescriptor
  created : Bool
  deriving DecidableEq

structure RegistrationAnswers where
  shouldContinue : Bool
  createId : Text
  stillContinue : Bool

/-- The transaction of `registerNwcWalletAtomically`. `ensureDefault` writes only defaults. -/
def registerNwcWalletAtomically (answers : RegistrationAnswers) (d : Database) :
    Result (NwcWalletRegistration × Database) := do
  let normalizedUri := trim uri
  reject (normalizedUri = []) (.error "Connected Wallet credential is required.")
  reject (answers.shouldContinue = false) (.error "Wallet sign-in changed.")
  let existingWalletIds ← findMatchingNwcCredentialWalletIds getNwcUriFingerprint
    d.walletCredentials.rows normalizedUri
  let (existingWallet, d) ← existingWalletIds.foldlM (repair d.list) (none, d)
  match existingWallet with
  | some wallet =>
    reject (answers.stillContinue = false) (.error "Wallet sign-in changed.")
    pure (⟨wallet, false⟩, d)
  | none =>
    let (wallet, d) ← d.add answers.createId
    reject (wallet.kind ≠ .connected ∨ wallet.providerId ≠ .nwc)
      (.error "Connected Wallet registration is invalid.")
    let d := d.putNwcCredential wallet.id normalizedUri
    reject (d.getNwcCredential wallet.id ≠ some normalizedUri)
      (.error "Connected Wallet credential verification failed.")
    reject (answers.stillContinue = false) (.error "Wallet sign-in changed.")
    match d.list.find? fun w => decide (w.id = wallet.id) with
    | some verifiedWallet => pure (⟨verifiedWallet, true⟩, d)
    | none => .error (.error "Connected Wallet descriptor verification failed.")

/-- `LegacyNwcRetirement["status"]`. -/
inductive RetirementStatus where
  | unchanged
  | completed
  | uncertain
  deriving DecidableEq

/-- What `retireLegacy` does: `gone` says whether the legacy copy is removed where the answer leaves
it open. -/
inductive Retirement where
  | unchanged (storageError : Bool)
  | completed
  | uncertain (gone : Bool)
  | throws (gone : Bool)

/-- A truthful answer: the legacy copy after the call. -/
def Retirement.leaves (legacy : Option Text) : Retirement → Option Text
  | .unchanged _ => legacy
  | .completed => none
  | .uncertain gone | .throws gone => if gone then none else legacy

def Retirement.status : Retirement → RetirementStatus
  | .unchanged _ => .unchanged
  | .completed => .completed
  | .uncertain _ | .throws _ => .uncertain

structure VerificationAnswers where
  (shouldContinue stillContinue : Bool)
  retireLegacy : Retirement
  commitFails : Bool

def checkMigrated (wallet : WalletDescriptor) (d : Database) : Result Unit := do
  let credential := d.getNwcCredential wallet.id
  let registered := d.list.find? fun candidate => decide (candidate.id = wallet.id)
  match credential, registered with
  | some credential, some registered =>
    reject (registered.providerId ≠ .nwc ∨ registered.kind ≠ .connected)
      (.error "Connected Wallet migration verification failed.")
    let stored ← fingerprintOf getNwcUriFingerprint credential
    let expected ← fingerprintOf getNwcUriFingerprint uri
    reject (stored ≠ expected) (.error "Connected Wallet migration verification failed.")
  | _, _ => .error (.error "Connected Wallet migration verification failed.")

/-- What `finally` finds: the retirement, the legacy copy, and what the run returns unless it
threw. -/
structure Verification where
  retirement : RetirementStatus
  legacy : Option Text
  result : Option Bool

/-- The second transaction of `migrateAccountNwcConnection`. -/
def verifyMigration (wallet : WalletDescriptor) (answers : VerificationAnswers)
    (d : Database) (legacy : Option Text) : Verification :=
  let committed (retirement : RetirementStatus) (legacy : Option Text) (result : Option Bool) :=
    (⟨retirement, legacy, if answers.commitFails then none else result⟩ : Verification)
  if answers.shouldContinue = false then committed .unchanged legacy (some false)
  else match checkMigrated getNwcUriFingerprint uri wallet d with
  | .error _ => ⟨.unchanged, legacy, none⟩
  | .ok () =>
    if answers.stillContinue = false then committed .unchanged legacy (some false)
    else match answers.retireLegacy with
    | .completed => committed .completed none (some true)
    | .unchanged false => committed .unchanged legacy (some false)
    | retirement => ⟨retirement.status, retirement.leaves legacy, none⟩

def compensates (uri walletId : Text) (d : Database) : Result Bool := do
  match d.list.find? fun candidate => decide (candidate.id = walletId) with
  | some registered =>
    if registered.providerId ≠ .nwc ∨ registered.kind ≠ .connected then return false
  | none => pure ()
  match d.getNwcCredential walletId with
  | some credential => do
    let stored ← fingerprintOf getNwcUriFingerprint credential
    let expected ← fingerprintOf getNwcUriFingerprint uri
    pure (decide (stored = expected))
  | none => pure true

/-- Where one run of the migration stands. -/
inductive Phase where
  | waiting
  | connecting
  | registered (registration : NwcWalletRegistration)
  | connected (registration : NwcWalletRegistration)
  | compensating (walletId : Text) (result : Option Bool)
  | done (result : Option Bool)
  deriving DecidableEq

/-- The device: its wallets, the account's legacy credential and the runs of all tabs. -/
structure Device where
  database : Database
  legacy : Option Text
  phases : Nat → Phase

def Device.setPhase (s : Device) (i : Nat) (phase : Phase) : Device :=
  { s with phases := Function.update s.phases i phase }

/-- `finally`: a run that created a wallet and did not touch the legacy copy compensates. -/
def finish (registration : NwcWalletRegistration) (retirement : RetirementStatus)
    (result : Option Bool) : Phase :=
  if retirement = .unchanged ∧ registration.created = true then
    .compensating registration.wallet.id result
  else .done result

inductive Action where
  | start (i : Nat) (shouldContinue : Bool)
  /-- `connect` throws before it registers, or its registration fails. -/
  | connectFails (i : Nat)
  | register (i : Nat) (answers : RegistrationAnswers)
  /-- `connect` reported the registration and then throws. -/
  | connectThrows (i : Nat)
  | connectReturns (i : Nat)
  /-- Storage fails before the verification can retire anything. -/
  | verifyFails (i : Nat)
  | verify (i : Nat) (answers : VerificationAnswers)
  | compensateFails (i : Nat)
  | compensate (i : Nat)

def act (s : Device) : Action → Option Device
  | .start i shouldContinue =>
    if s.phases i = .waiting then
      some (s.setPhase i (if shouldContinue then .connecting else .done (some false)))
    else none
  | .connectFails i =>
    if s.phases i = .connecting then some (s.setPhase i (.done none)) else none
  | .register i answers =>
    if s.phases i = .connecting then
      match registerNwcWalletAtomically getNwcUriFingerprint uri answers s.database with
      | .ok (registration, d) =>
        some ({ s with database := d }.setPhase i (.registered registration))
      | .error _ => some (s.setPhase i (.done none))
    else none
  | .connectThrows i =>
    match s.phases i with
    | .registered registration => some (s.setPhase i (finish registration .unchanged none))
    | _ => none
  | .connectReturns i =>
    match s.phases i with
    | .registered registration => some (s.setPhase i (.connected registration))
    | _ => none
  | .verifyFails i =>
    match s.phases i with
    | .connected registration => some (s.setPhase i (finish registration .unchanged none))
    | _ => none
  | .verify i answers =>
    match s.phases i with
    | .connected registration =>
      let v := verifyMigration getNwcUriFingerprint uri registration.wallet answers s.database
        s.legacy
      some ({ s with legacy := v.legacy }.setPhase i (finish registration v.retirement v.result))
    | _ => none
  | .compensateFails i =>
    match s.phases i with
    | .compensating _ _ => some (s.setPhase i (.done none))
    | _ => none
  | .compensate i =>
    match s.phases i with
    | .compensating walletId result =>
      match compensates getNwcUriFingerprint uri walletId s.database with
      | .ok true => some ({ s with database := s.database.delete walletId }.setPhase i
        (.done result))
      | .ok false => some (s.setPhase i (.done result))
      | .error _ => some (s.setPhase i (.done none))
    | _ => none

def MigrationStep (a : Action) (s t : Device) : Prop :=
  act getNwcUriFingerprint uri s a = some t

end

end Conduit.Wallets
