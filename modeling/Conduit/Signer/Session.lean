import Conduit.Runs

namespace Conduit.Signer

inductive FailureCode where
  | authorization_denied
  | timeout
  | unavailable
  | unsupported_operation
  | disconnected
  | authority_changed
  | invalid_response
  | invalid_ciphertext
  | identity_changed
  | background_paused
  | queue_full
  | provider_unavailable
  deriving DecidableEq

/-- `classifyNostrSignerError` on an error that carries a code. -/
def classifyNostrSignerError : FailureCode → FailureCode
  | .identity_changed => .authority_changed
  | .background_paused | .queue_full | .provider_unavailable => .unavailable
  | code => code

inductive Priority where
  | foreground
  | background
  deriving DecidableEq

inductive Method where
  | signEvent
  | encryptNip44
  | decryptNip44
  | decryptLegacy

def Method.priority : Method → Priority
  | .signEvent | .encryptNip44 => .foreground
  | .decryptNip44 | .decryptLegacy => .background

structure Request where
  id : Nat
  method : Method
  priority : Priority

/-- One `assertCurrent`: the caller's check, authority and identity (twice for `capabilities`). -/
structure Checks where
  caller : Option FailureCode
  (authority identity authorityAgain identityAgain capability : Bool)

/-- How `Promise.race` was decided. -/
inductive Race where
  | answered (failure : Option FailureCode)
  | cancelled (code : FailureCode)
  | timedOut

/-- One `executeOperation`: its answer, its abort listener, and whether `finish` is the provider's.
-/
structure Frame where
  request : Request
  (operationCurrent listening : Bool)
  answer : Option (Option FailureCode)
  providerSettled : Bool
  race : Option Race
  returned : Bool

/-- A call on the wrapped signer, with the session as it was then. -/
structure Started where
  id : Nat
  (invalidated authority : Bool)

inductive Outcome where
  | rejected (code : FailureCode)
  | failed (code : FailureCode)
  /-- The operation's result, with the session as it was when it was returned. -/
  | resolved (invalidated authority : Bool)
  deriving DecidableEq

structure Settled where
  id : Nat
  outcome : Outcome
  deriving DecidableEq

structure Session where
  (foregroundQueue backgroundQueue : List Request)
  (running providerUnavailable backgroundPaused : Bool)
  foregroundBurst : Nat
  invalidated : Bool
  frames : List Frame
  accepted : List Nat
  (foregroundTaken backgroundTaken : Nat)
  started : List Started
  settled : List Settled

def Session.start : Session :=
  ⟨[], [], false, false, false, 0, false, [], [], 0, 0, [], []⟩

variable (s : Session)

variable (id : Nat)

def Session.settle (outcome : Outcome) : Session :=
  { s with settled := s.settled ++ [⟨id, outcome⟩] }

def Session.setFrame (change : Frame → Frame) : Session :=
  { s with frames := s.frames.map fun f => if f.request.id = id then change f else f }

def rejectQueue (queue : List Request) (code : FailureCode) : List Settled :=
  queue.map fun r => ⟨r.id, .rejected code⟩

variable (code : FailureCode)

def rejectBackground : Session :=
  { s with backgroundQueue := [], settled := s.settled ++ rejectQueue s.backgroundQueue code }

def rejectQueued : Session :=
  { s with
    foregroundQueue := []
    backgroundQueue := []
    settled := s.settled ++ rejectQueue (s.foregroundQueue ++ s.backgroundQueue) code }

/-- `cancellation.abort`: the listeners cancel their operations. -/
def abort : Session :=
  { s with frames := s.frames.map fun f =>
      if f.listening ∧ f.race = none then { f with race := some (.cancelled code) } else f }

/-- `reject`: the first failure ends the session. -/
def reject : Session :=
  if s.invalidated then s
  else rejectQueued (abort { s with invalidated := true } (classifyNostrSignerError code)) code

/-- A second call aborts nothing. -/
def invalidateLocal (cause : FailureCode) : Session :=
  let s := if s.invalidated then s
    else abort { s with invalidated := true } (classifyNostrSignerError cause)
  rejectQueued s (classifyNostrSignerError cause)

def assertAuthority (authority identity : Bool) : Session × Option FailureCode :=
  if s.invalidated ∨ authority = false then
    (reject s .authority_changed, some .authority_changed)
  else if identity = false then (reject s .identity_changed, some .identity_changed)
  else (s, none)

/-- `operationOptions.assertCurrent`. -/
def assertCurrent (checks : Checks) (operationCurrent : Bool) : Session × Option FailureCode :=
  match checks.caller with
  | some code => (s, some code)
  | none =>
    if operationCurrent = false then (s, some .timeout)
    else match assertAuthority s checks.authority checks.identity with
      | (s, some code) => (s, some code)
      | (s, none) =>
        match assertAuthority s checks.authorityAgain checks.identityAgain with
        | (s, some code) => (s, some code)
        | (s, none) => (s, if checks.capability then none else some .unsupported_operation)

/-- The `catch` of `executeOperation`. -/
def caught : Session :=
  if code = .authorization_denied then
    rejectBackground { s with backgroundPaused := true } .background_paused
  else s

/-- `finish`, before it wakes the next request. -/
def finish : Session :=
  { s with
    running := false
    providerUnavailable := false
    frames := s.frames.filter fun f => decide (f.request.id ≠ id) }

structure StartAnswers where
  checks : Checks
  inCall : Option Checks

/-- The synchronous part of `executeOperation`. -/
def executeOperation (answers : StartAnswers) (r : Request) (s : Session) : Session :=
  let s := { s with
    running := true
    frames := s.frames ++ [⟨r, true, false, none, false, none, false⟩] }
  match assertCurrent s answers.checks true with
  | (s, some code) => finish ((caught s code).settle r.id (.failed code)) r.id
  | (s, none) =>
    let s := { s with
      started := s.started ++ [⟨r.id, s.invalidated, answers.checks.authorityAgain⟩] }
    let s := match answers.inCall with
      | none => s
      | some checks => (assertCurrent s checks true).1
    s.setFrame r.id fun f => { f with listening := true }

/-- `pump`, with what each request meets when it starts. -/
def pump (answers : Nat → StartAnswers) : Nat → Session → Session
  | 0, s => s
  | fuel + 1, s =>
    if s.running ∨ s.invalidated ∨ s.providerUnavailable then s
    else match s.foregroundQueue, s.backgroundQueue with
      | r :: foregroundQueue, backgroundQueue =>
        match backgroundQueue with
        | [] =>
          pump answers fuel (executeOperation (answers r.id) r { s with
            foregroundQueue := foregroundQueue
            foregroundBurst := s.foregroundBurst + 1
            foregroundTaken := s.foregroundTaken + 1 })
        | b :: backgroundQueue =>
          if s.foregroundBurst < 4 then
            pump answers fuel (executeOperation (answers r.id) r { s with
              foregroundQueue := foregroundQueue
              foregroundBurst := s.foregroundBurst + 1
              foregroundTaken := s.foregroundTaken + 1 })
          else
            pump answers fuel (executeOperation (answers b.id) b { s with
              backgroundQueue := backgroundQueue
              foregroundBurst := 0
              backgroundTaken := s.backgroundTaken + 1 })
      | [], b :: backgroundQueue =>
        pump answers fuel (executeOperation (answers b.id) b { s with
          backgroundQueue := backgroundQueue
          foregroundBurst := 0
          backgroundTaken := s.backgroundTaken + 1 })
      | [], [] => { s with foregroundBurst := 0 }

/-- A call of `pump`: each turn takes one request, so that this many turns suffice. -/
def Session.pump (s : Session) (answers : Nat → StartAnswers) : Session :=
  Signer.pump answers (s.foregroundQueue.length + s.backgroundQueue.length + 1) s

structure CallInput where
  (wellFormed ownPubkey authority identity authorityAgain identityAgain : Bool)

variable (maxQueuedOperations : Nat)

variable (answers : Nat → StartAnswers)

/-- `runOperation`: the request is queued, or refused by an error. -/
def runOperation (r : Request) (authority identity : Bool) (s : Session) : Session :=
  match assertAuthority s authority identity with
  | (s, some _) => s
  | (s, none) =>
    if s.providerUnavailable then s
    else if r.priority = .background ∧ s.backgroundPaused then s
    else if maxQueuedOperations ≤ s.foregroundQueue.length + s.backgroundQueue.length ∨
        r.priority = .background ∧
          max 1 (maxQueuedOperations * 3 / 4) ≤ s.backgroundQueue.length then s
    else
      let s := { s with accepted := s.accepted ++ [r.id] }
      match r.priority with
      | .foreground =>
        { s with foregroundQueue := s.foregroundQueue ++ [r] }.pump answers
      | .background =>
        { s with backgroundQueue := s.backgroundQueue ++ [r] }.pump answers

/-- `signEvent` and `runKeyOperation` up to `runOperation`. -/
def callMethod (r : Request) (input : CallInput) (s : Session) : Session :=
  if input.wellFormed = false then s
  else match r.method with
    | .signEvent =>
      match assertAuthority s input.authority input.identity with
      | (s, some _) => s
      | (s, none) =>
        if input.ownPubkey = false then reject s .identity_changed
        else runOperation maxQueuedOperations answers r input.authorityAgain input.identityAgain s
    | _ => runOperation maxQueuedOperations answers r input.authorityAgain input.identityAgain s

inductive SignerAnswer where
  | value
  | invalidSignature
  | changedEvent
  | throws (code : FailureCode)
  deriving DecidableEq

def operationAnswer (method : Method) (answer : SignerAnswer)
    (authority identity : Bool) : Session × Option FailureCode :=
  match method, answer with
  | .signEvent, .throws code => (s, some code)
  | .signEvent, answer =>
    match assertAuthority s authority identity with
    | (s, some code) => (s, some code)
    | (s, none) =>
      if answer = .value then (s, none)
      else (reject s .invalid_response, some .invalid_response)
  | _, .throws code =>
    match assertAuthority s authority identity with
    | (s, some failure) => (s, some failure)
    | (s, none) => (s, some code)
  | _, _ => (s, none)

/-- `finally`: `finish` now, or when the provider settles. -/
def finallyDo (f : Frame) (s : Session) : Session :=
  if f.providerSettled then (finish s f.request.id).pump answers
  else s.setFrame f.request.id fun f => { f with operationCurrent := false, returned := true }

/-- `executeOperation` after the race. -/
def continueOperation (checks : Checks) (f : Frame) (race : Race) (s : Session) : Session :=
  let (s, failure) : Session × Option FailureCode := match race with
    | .answered none => assertCurrent s checks f.operationCurrent
    | .answered (some code) | .cancelled code => (s, some code)
    | .timedOut => (s, some .timeout)
  let s := match failure with
    | none => s.settle f.request.id (.resolved s.invalidated checks.authorityAgain)
    | some code => (caught s code).settle f.request.id (.failed code)
  finallyDo answers f s

def timeOut (f : Frame) (s : Session) : Session :=
  let s := s.setFrame f.request.id fun f =>
    { f with operationCurrent := false, race := some .timedOut }
  rejectQueued { s with providerUnavailable := true } .provider_unavailable

inductive Action where
  | call (r : Request) (input : CallInput) (answers : Nat → StartAnswers)
  | invalidateLocal (cause : FailureCode)
  | resumeBackgroundOperations (authority identity : Bool) (answers : Nat → StartAnswers)
  /-- `pubkey` and `capabilities` check the authority, too. -/
  | read (authority identity : Bool)
  /-- The wrapped signer checks again after an await. -/
  | assertCurrent (id : Nat) (checks : Checks)
  | signerSettles (id : Nat) (answer : SignerAnswer) (authority identity : Bool)
  | providerSettles (id : Nat)
  | timeOut (id : Nat)
  | continueOperation (id : Nat) (checks : Checks) (answers : Nat → StartAnswers)
  | finish (id : Nat) (answers : Nat → StartAnswers)

def Session.frame : Option Frame :=
  s.frames.find? fun f => decide (f.request.id = id)

def act (s : Session) : Action → Option Session
  | .call r input answers =>
    if r.id ∈ s.accepted then none else some (callMethod maxQueuedOperations answers r input s)
  | .invalidateLocal cause => some (invalidateLocal s cause)
  | .resumeBackgroundOperations authority identity answers =>
    match assertAuthority s authority identity with
    | (s, some _) => some s
    | (s, none) => some ({ s with backgroundPaused := false }.pump answers)
  | .read authority identity => some (assertAuthority s authority identity).1
  | .assertCurrent id checks => do
    let f ← s.frame id
    some (Signer.assertCurrent s checks f.operationCurrent).1
  | .signerSettles id answer authority identity => do
    let f ← s.frame id
    guard (f.answer = none)
    let (s, failure) := operationAnswer s f.request.method answer authority identity
    some (s.setFrame id fun f => { f with answer := some failure })
  | .providerSettles id => do
    let f ← s.frame id
    let answer ← f.answer
    guard (f.providerSettled = false)
    some (s.setFrame id fun f =>
      { f with providerSettled := true, race := f.race.or (some (.answered answer)) })
  | .timeOut id => do
    let f ← s.frame id
    guard (f.race = none)
    some (Signer.timeOut f s)
  | .continueOperation id checks answers => do
    let f ← s.frame id
    let race ← f.race
    guard (f.returned = false)
    some (Signer.continueOperation answers checks f race s)
  | .finish id answers => do
    let f ← s.frame id
    guard (f.returned = true ∧ f.providerSettled = true)
    some ((Signer.finish s id).pump answers)

def SessionStep (a : Action) (s t : Session) : Prop :=
  act maxQueuedOperations s a = some t

def Session.signing : List Nat :=
  (s.frames.filter (·.answer.isNone)).map (·.request.id)

/-- The operations with a callback that is due: the answer is taken, the race is read, or `finish`
is called. -/
def Session.due : List Nat :=
  (s.frames.filter fun f => f.answer.isSome && !f.providerSettled ||
    f.race.isSome && !f.returned || f.returned && f.providerSettled).map (·.request.id)

def Session.open : List Nat :=
  (s.foregroundQueue ++ s.backgroundQueue).map Request.id ++
    (s.frames.filter fun f => !f.returned).map (·.request.id)

end Conduit.Signer
