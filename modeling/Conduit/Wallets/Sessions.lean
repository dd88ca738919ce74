import Conduit.Js.Text
import Conduit.Runs

namespace Conduit.Wallets.Sessions

open Js Runs Function

/-- A wallet id in a tab's manager. -/
abbrev Place := Nat × Text

/-- A call of `openWithMnemonic`, which names its lease and client; `signIn` is what
`shouldContinue` asks. -/
structure Session where
  (id tab : Nat)
  (walletId identityKey : Text)
  signIn : Option Nat
  deriving DecidableEq

def Session.place (c : Session) : Place := (c.tab, c.walletId)

inductive LockName where
  | registration (walletId : Text)
  | identity (identityKey : Text)
  deriving DecidableEq

/-- What `#open` awaits, with its listener and client. -/
inductive Opening where
  | closing
  | derivesKeys
  | lockingIdentity
  | releasingRegistration
  | creating
  | listening
  | removingListener
  | disconnecting (listener : Bool)
  | releasing (created listener : Bool)
  deriving DecidableEq

inductive ClosePhase where
  | removingListener
  | disconnecting
  | releasing
  deriving DecidableEq

/-- An entry of `closeAttempts`. -/
structure Closing where
  client : Session
  lease : Option Session
  phase : ClosePhase
  cleanupErrors : Bool

structure Send where
  client : Session
  late : Bool
  deriving DecidableEq

structure Tabs where
  held : LockName → Option Session
  (clients sessionLeases : Place → Option Session)
  (quarantinedWallets disconnectedWallets : Place → Bool)
  authorities : Place → Option Nat
  eventListeners : Place → Bool
  checkoutOperations : Session → Nat
  closeAttempts : Place → Option Closing
  opening : Session → Option Opening
  payments : List Session
  endedSignIns : Nat → Bool
  nextId : Nat
  created : List Session
  (disconnected closed unclean : Session → Bool)
  sends : List Send

def Tabs.start : Tabs where
  held _ := none
  clients _ := none
  sessionLeases _ := none
  quarantinedWallets _ := false
  disconnectedWallets _ := false
  authorities _ := none
  eventListeners _ := false
  checkoutOperations _ := 0
  closeAttempts _ := none
  opening _ := none
  payments := []
  endedSignIns _ := false
  nextId := 0
  created := []
  disconnected _ := false
  closed _ := false
  unclean _ := false
  sends := []

variable (s : Tabs)

/-- `shouldContinue?.() === false`. -/
def Tabs.ends (signIn : Option Nat) : Bool := signIn.any s.endedSignIns

variable (c : Session)

/-- `close` was called on the client, or its sign-in ended. -/
def Tabs.ended : Bool := s.closed c || s.ends c.signIn

variable (p : Place)

/-- `#getClient`. -/
def Tabs.getClient : Option Session :=
  if s.quarantinedWallets p = true ∨ s.ends (s.authorities p) = true then none else s.clients p

variable (held : LockName → Option Session)

def unlock (name : LockName) (c : Session) : LockName → Option Session :=
  if held name = some c then update held name none else held

inductive Release where
  | released
  | failed (registrationFreed identityFreed : Bool)

/-- The locks after `release` of the lease of a session. -/
def releaseLease (c : Session) : Release → LockName → Option Session
  | .released => unlock (unlock held (.registration c.walletId) c) (.identity c.identityKey) c
  | .failed registrationFreed identityFreed =>
    let held := if registrationFreed = true then unlock held (.registration c.walletId) c else held
    if identityFreed = true then unlock held (.identity c.identityKey) c else held

/-- After the listener, `#close` disconnects unless the wallet's client already is. -/
def closePhase : ClosePhase :=
  if s.disconnectedWallets p = true then .releasing else .disconnecting

/-- `close` of the wallets, up to its first await. -/
def beginClose (wallets : Place → Bool) : Tabs :=
  let begins (p : Place) : Bool := wallets p && (s.closeAttempts p).isNone
  { s with
    authorities := fun p => if begins p = true then none else s.authorities p
    quarantinedWallets := fun p =>
      s.quarantinedWallets p || (begins p && (s.clients p).isSome)
    closeAttempts := fun p =>
      if begins p = true then (s.clients p).map fun c =>
        ⟨c, s.sessionLeases p,
          if s.eventListeners p = true then .removingListener else closePhase s p, false⟩
      else s.closeAttempts p
    closed := fun c => s.closed c || (wallets c.place && decide (s.clients c.place = some c)) }

/-- The attempt ends; a call of `#open` that awaited it goes on or throws. -/
def endClose (ok : Bool) : Tabs :=
  { s with
    closeAttempts := update s.closeAttempts p none
    opening := fun c =>
      if c.place = p ∧ s.opening c = some .closing then
        (if ok = true then some .derivesKeys else none)
      else s.opening c }

variable (a : Closing)

def setClosing : Tabs :=
  { s with closeAttempts := update s.closeAttempts p (some a) }

def removedListener (ok : Bool) : Tabs :=
  let s := if ok = true then { s with eventListeners := update s.eventListeners p false } else s
  setClosing s p { a with phase := closePhase s p, cleanupErrors := a.cleanupErrors || !ok }

def disconnectedClosing : Bool → Tabs
  | true => setClosing
      { s with
        disconnected := update s.disconnected a.client true
        disconnectedWallets := update s.disconnectedWallets p true }
      p { a with phase := .releasing }
  | false => endClose { s with unclean := update s.unclean a.client true } p false

def forget : Tabs :=
  { s with
    clients := update s.clients p none
    sessionLeases := update s.sessionLeases p none
    eventListeners := update s.eventListeners p false
    quarantinedWallets := update s.quarantinedWallets p false
    disconnectedWallets := update s.disconnectedWallets p false }

def releasedClosing (outcome : Release) : Tabs :=
  let s := match a.lease with
    | some lease => { s with held := releaseLease s.held lease outcome }
    | none => s
  match outcome with
  | .released =>
    endClose (forget { s with unclean := update s.unclean a.client false } p) p (!a.cleanupErrors)
  | .failed _ _ => endClose { s with unclean := update s.unclean a.client true } p false

def setOpening (phase : Option Opening) : Tabs :=
  { s with opening := update s.opening c phase }

def attach (listener : Bool) : Tabs :=
  { s with
    authorities := if c.signIn = none then s.authorities
      else update s.authorities c.place c.signIn
    clients := update s.clients c.place (some c)
    sessionLeases := update s.sessionLeases c.place (some c)
    quarantinedWallets := update s.quarantinedWallets c.place false
    disconnectedWallets := update s.disconnectedWallets c.place false
    eventListeners := if listener = true then update s.eventListeners c.place true
      else s.eventListeners
    opening := update s.opening c none }

def finishOpening (listener : Bool) : Tabs :=
  if s.ends c.signIn = true then
    setOpening s c (some (if listener = true then .removingListener else .disconnecting false))
  else attach s c listener

/-- A client that could not be cleaned up is kept, unreachable. -/
def keepUnclean (disconnected listener : Bool) : Tabs :=
  { s with
    clients := update s.clients c.place (some c)
    sessionLeases := update s.sessionLeases c.place (some c)
    quarantinedWallets := update s.quarantinedWallets c.place true
    disconnectedWallets := if disconnected = true then update s.disconnectedWallets c.place true
      else s.disconnectedWallets
    eventListeners := if listener = true then update s.eventListeners c.place true
      else s.eventListeners
    unclean := update s.unclean c true
    opening := update s.opening c none }

def releasedOpening (created listener : Bool) (outcome : Release) : Tabs :=
  let s := { s with held := releaseLease s.held c outcome }
  match outcome with
  | .released => setOpening s c none
  | .failed _ _ => if created = true then keepUnclean s c true listener else setOpening s c none

inductive Event where
  | open (c : Session)
  | deriveFails (c : Session)
  | locksRegistration (c : Session) (granted : Bool)
  | locksIdentity (c : Session) (granted : Bool)
  | releasesRegistration (c : Session) (freed : Bool)
  /-- `factory.open` returns, perhaps a client without `addEventListener`. -/
  | creates (c : Session) (listens : Bool)
  | createFails (c : Session)
  | listens (c : Session) (ok : Bool)
  | removesListener (c : Session) (ok : Bool)
  | disconnects (c : Session) (ok : Bool)
  | releases (c : Session) (outcome : Release)
  /-- Also what a revocation of the sign-in calls. -/
  | close (p : Place)
  | closeWalletsExcept (tab : Nat) (walletIds : List Text)
  | closeRemovesListener (p : Place) (ok : Bool)
  | closeDisconnects (p : Place) (ok : Bool)
  | closeReleases (p : Place) (outcome : Release)
  | signInEnds (signIn : Nat)
  | confirmSend (p : Place)
  /-- A checkout operation, of which `sendCheckoutLightningObligation` and
    `sendCheckoutTreasury` move
  money. -/
  | checkoutOperation (p : Place) (moves : Bool)
  | checkoutReturns (c : Session)
  | payInvoice (p : Place)
  /-- The quote, the approval, the saved attempt and `beforeSend` went through. -/
  | paymentSends (c : Session)
  | paymentStops (c : Session)

def startSend : Tabs := { s with sends := s.sends ++ [⟨c, s.ended c⟩] }

/-- The wallets that `closeWalletsExcept` closes. -/
def stale (tab : Nat) (walletIds : List Text) (p : Place) : Bool :=
  decide (p.1 = tab) && decide (p.2 ∉ walletIds) &&
    (s.clients p).any fun c => s.checkoutOperations c == 0

def act : Event → Option Tabs
  | .open c => do
    guard (c.id = s.nextId)
    let s := beginClose { s with nextId := s.nextId + 1 } fun p => decide (p = c.place)
    some (setOpening s c
      (some (if (s.closeAttempts c.place).isSome = true then .closing else .derivesKeys)))
  | .deriveFails c => do
    guard (s.opening c = some .derivesKeys)
    some (setOpening s c none)
  | .locksRegistration c granted => do
    guard (s.opening c = some .derivesKeys)
    if granted = true then
      guard (s.held (.registration c.walletId) = none)
      let held := update s.held (.registration c.walletId) (some c)
      some (setOpening { s with held := held } c (some .lockingIdentity))
    else some (setOpening s c none)
  | .locksIdentity c granted => do
    guard (s.opening c = some .lockingIdentity)
    if granted = true then
      guard (s.held (.identity c.identityKey) = none)
      let held := update s.held (.identity c.identityKey) (some c)
      some (setOpening { s with held := held } c
        (some (if s.ends c.signIn = true then .releasing false false else .creating)))
    else some (setOpening s c (some .releasingRegistration))
  | .releasesRegistration c freed => do
    guard (s.opening c = some .releasingRegistration)
    let held := if freed = true then unlock s.held (.registration c.walletId) c else s.held
    some (setOpening { s with held := held } c none)
  | .creates c listens => do
    guard (s.opening c = some .creating)
    let s := { s with created := c :: s.created }
    some (if listens = true then setOpening s c (some .listening) else finishOpening s c false)
  | .createFails c => do
    guard (s.opening c = some .creating)
    some (setOpening s c (some (.releasing false false)))
  | .listens c ok => do
    guard (s.opening c = some .listening)
    some (if ok = true then finishOpening s c true
      else setOpening s c (some (.disconnecting false)))
  | .removesListener c _ => do
    guard (s.opening c = some .removingListener)
    some (setOpening s c (some (.disconnecting true)))
  | .disconnects c ok => do
    match s.opening c with
    | some (.disconnecting listener) =>
      if ok = true then
        some (setOpening { s with disconnected := update s.disconnected c true } c
          (some (.releasing true listener)))
      else some (keepUnclean s c false listener)
    | _ => none
  | .releases c outcome => do
    match s.opening c with
    | some (.releasing created listener) => some (releasedOpening s c created listener outcome)
    | _ => none
  | .close p => some (beginClose s fun q => decide (q = p))
  | .closeWalletsExcept tab walletIds => some (beginClose s (stale s tab walletIds))
  | .closeRemovesListener p ok => do
    let a ← s.closeAttempts p
    guard (a.phase = .removingListener)
    some (removedListener s p a ok)
  | .closeDisconnects p ok => do
    let a ← s.closeAttempts p
    guard (a.phase = .disconnecting)
    some (disconnectedClosing s p a ok)
  | .closeReleases p outcome => do
    let a ← s.closeAttempts p
    guard (a.phase = .releasing)
    some (releasedClosing s p a outcome)
  | .signInEnds n => some { s with endedSignIns := update s.endedSignIns n true }
  | .confirmSend p => do
    let c ← s.getClient p
    some (startSend s c)
  | .checkoutOperation p moves => do
    let c ← s.getClient p
    let s := { s with
      checkoutOperations := update s.checkoutOperations c (s.checkoutOperations c + 1) }
    some (if moves = true then startSend s c else s)
  | .checkoutReturns c => do
    guard (s.checkoutOperations c ≠ 0)
    some { s with checkoutOperations := update s.checkoutOperations c (s.checkoutOperations c - 1) }
  | .payInvoice p => do
    let c ← s.getClient p
    some { s with payments := s.payments ++ [c] }
  | .paymentSends c => do
    guard (c ∈ s.payments)
    some (startSend { s with payments := s.payments.erase c } c)
  | .paymentStops c => do
    guard (c ∈ s.payments)
    some { s with payments := s.payments.erase c }

/-- A payment starts on a session that did not end, and an unreleased lease keeps its lock. -/
def Event.Meets (e : Event) (s : Tabs) : Prop :=
  match e with
  | .paymentSends c => s.ended c = false
  | .releases _ (.failed registrationFreed _) => registrationFreed = false
  | .closeReleases _ (.failed registrationFreed _) => registrationFreed = false
  | _ => True

instance (e : Event) (s : Tabs) : Decidable (e.Meets s) := by
  unfold Event.Meets
  split <;> infer_instance

end Conduit.Wallets.Sessions
