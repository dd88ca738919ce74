import Conduit.Gateway.Names
import Conduit.Unreliable

namespace Conduit.LightningAddress

open Js Unreliable List
open Gateway (ValidName)

inductive BreezAddressFailure where
  | unconfigured | unsupported_network | locked | identity_mismatch | storage_unavailable
  | coordination_unavailable | invalid_configuration | invalid_api_key | domain_unavailable
  | provider_unavailable | invalid_response | registration_pending | names_exhausted
  | name_unavailable | invalid_username
  deriving DecidableEq

inductive CheckpointPhase where
  | selected | registering
  deriving DecidableEq

structure BreezAddressCheckpoint where
  username : Text
  attempts : Nat
  phase : CheckpointPhase

inductive BreezAddressState where
  | absent
  | registered (username : Text)

structure AddressError where
  reason : BreezAddressFailure
  registrationMayHaveCommitted : Bool := false

inductive Operation where
  | recover | available | register
  deriving DecidableEq

/-- What a request meets: the session, the signer or the proof stops it, `fetch` throws, or the
provider responds; `body` is `none` where it is too long or no JSON. -/
inductive Answer where
  | unsent (reason : BreezAddressFailure)
  | fails
  | response (status : Nat) (active : Bool) (body : Option JsonValue)

def readResponse (operation : Operation) (status : Nat) (active : Bool) (body : Option JsonValue) :
    Except BreezAddressFailure (Option JsonValue) :=
  if active = false then .error .locked
  else if status = 401 ∨ status = 403 then .error .invalid_api_key
  else match body with
    | none => .error .invalid_response
    | some body =>
      if status = 404 then
        if operation = .recover ∧ body.string? = some "user not found".toList then .ok none
        else .error .domain_unavailable
      else if operation = .register ∧ status = 409 then
        if body.string? = some "name already taken".toList ∨
          body.string? = some "name is reserved".toList then .error .names_exhausted
        else .error .registration_pending
      else if status < 200 ∨ 299 < status then .error .provider_unavailable
      else match body with
        | .object fields => .ok (some (.object fields))
        | _ => .error .invalid_response

def readAnswer (operation : Operation) : Answer → Except AddressError (Option JsonValue)
  | .unsent reason => .error ⟨reason, false⟩
  | .fails =>
    if operation = .register then .error ⟨.registration_pending, true⟩
    else .error ⟨.provider_unavailable, false⟩
  | .response status active body =>
    -- Besides these statuses, only a conflict over the name itself cannot commit the submission.
    (readResponse operation status active body).mapError fun reason =>
      ⟨reason, decide (operation = .register ∧ status ∉ [400, 401, 403, 404, 405, 422, 429] ∧
        reason ≠ .names_exhausted)⟩

def maxAttempts : Nat := 5

def reservedNames : List Text :=
  ["admin", "support", "conduit", "security", "help", "www", "root"]

def normalizeBreezUsername (value : Text) : Option Text :=
  let username := toLowerCase (trim value)
  if 3 ≤ Js.length username ∧ ValidName username ∧ username ∉ reservedNames then some username
  else none

/-- `generate` is `#generate` at the identity's scope. -/
structure BreezLightningAddressClient where
  (domain apiKey : Text)
  generate : Nat → Text

structure RunInput where
  register : Bool
  requestedUsername : Option Text
  activateApprovedName : Bool

/-- What is told of the runs, the newest first. -/
inductive Event where
  | saved (checkpoint : BreezAddressCheckpoint)
  | registers (username : Text) (rejected : Bool)
  | recovered (username : Text)

/-- What `#store` holds. -/
def stored : List Event → Option BreezAddressCheckpoint
  | [] => none
  | .saved checkpoint :: _ => some checkpoint
  | _ :: log => stored log

structure World where
  answers : List Answer
  log : List Event

abbrev Run : Type → Type := Faulty World AddressError

def save (checkpoint : BreezAddressCheckpoint) : Run Unit :=
  Faulty.write ⟨.storage_unavailable, false⟩ fun w => { w with log := .saved checkpoint :: w.log }

def request {α : Type} (read : Answer → α) (told : Answer → List Event) : Run α :=
  Faulty.access ⟨.provider_unavailable, false⟩ fun w =>
    let answer := w.answers.headD .fails
    (read answer, ⟨w.answers.tail, told answer ++ w.log⟩)

section
variable (c : BreezLightningAddressClient) (input : RunInput)

def readRecovered (answer : Answer) : Except AddressError (Option Text) :=
  (readAnswer .recover answer).bind fun
    | none => .ok none
    | some result =>
      match (result.field "username").bind JsonValue.string? with
      | none => .error ⟨.invalid_response, false⟩
      | some username =>
        if ValidName username ∧
          (result.field "lightning_address").bind JsonValue.string? =
            some (username ++ '@' :: c.domain) ∧
          (result.field "lnurl").bind JsonValue.string? =
            some ("lnurlp://".toList ++ c.domain ++ "/lnurlp/".toList ++ username)
        then .ok (some username) else .error ⟨.invalid_response, false⟩

def recover : Run (Option Text) := do
  let found ← request (readRecovered c) fun answer =>
    match readRecovered c answer with
    | .ok (some username) => [.recovered username]
    | _ => []
  Faulty.ofResult found

def isAvailable : Run Bool := do
  let result ← request (readAnswer .available) fun _ => []
  match (← Faulty.ofResult result).bind (·.field "available") with
  | some (.bool available) => pure available
  | _ => Faulty.throw ⟨.invalid_response, false⟩

def isRejected : Except AddressError (Option JsonValue) → Bool
  | .error e => !e.registrationMayHaveCommitted
  | .ok _ => false

/-- An answer other than a definite rejection may have committed the name. -/
def toldOf (username : Text) : Answer → List Event
  | .unsent _ => []
  | answer => [.registers username (isRejected (readAnswer .register answer))]

def registerName (username : Text) : Run (Except AddressError (Option JsonValue)) :=
  request (readAnswer .register) (toldOf username)

def ExplicitCustomName : Prop :=
  input.activateApprovedName = true ∧ input.register = true ∧
    c.domain = "conduit.cash".toList ∧ input.requestedUsername ≠ none
  deriving Decidable

def normalizeSelection (value : Text) : Option Text :=
  if ExplicitCustomName c input then
    let name := toLowerCase (trim value)
    if 3 ≤ Js.length name ∧ ValidName name then some name else none
  else normalizeBreezUsername value

def selected : Option Text := input.requestedUsername.bind (normalizeSelection c input)

/-- `if (found && (!explicitCustomName || found.username === selected)) return` it. -/
def unlessServed (found : Option Text) (next : Run BreezAddressState) : Run BreezAddressState :=
  match found with
  | some username =>
    if ExplicitCustomName c input ∧ some username ≠ selected c input then next
    else pure (.registered username)
  | none => next

def nextCheckpoint (attempt : Nat) : BreezAddressCheckpoint :=
  ⟨c.generate (attempt + 1), attempt + 1, .selected⟩

/-- The name was refused: go on to the next one, if it is the generated names' turn. -/
def advance (pending : BreezAddressCheckpoint) (next : Run BreezAddressState) :
    Run BreezAddressState := do
  Faulty.rejectIf (pending.phase = .registering) ⟨.registration_pending, false⟩
  Faulty.rejectIf (selected c input ≠ none) ⟨.name_unavailable, false⟩
  Faulty.rejectIf (pending.attempts = maxAttempts) ⟨.names_exhausted, false⟩
  save (nextCheckpoint c pending.attempts)
  next

/-- A definite rejection clears the uncertainty of a fresh attempt only. -/
def clearUncertainty (pending : BreezAddressCheckpoint) (e : AddressError) : Run Unit :=
  if pending.phase = .selected ∧ e.registrationMayHaveCommitted = false then save pending
  else pure ()

def submit (pending : BreezAddressCheckpoint) (next : Run BreezAddressState) :
    Run BreezAddressState := do
  save { pending with phase := .registering }
  match ← registerName pending.username with
  | .ok _ => do
    unlessServed c input (← recover c) (Faulty.throw ⟨.registration_pending, false⟩)
  | .error e => do
    clearUncertainty pending e
    unlessServed c input (← recover c)
      (if e.reason = .names_exhausted then advance c input pending next else Faulty.throw e)

/-- The loop over the attempts, the first argument being how many are left. -/
def registerFrom : Nat → Nat → Option BreezAddressCheckpoint → Run BreezAddressState
  | 0, _, _ => Faulty.throw ⟨.names_exhausted, false⟩
  | left + 1, attempt, checkpoint => do
    let username := (checkpoint.map (·.username)).getD (c.generate attempt)
    Faulty.rejectIf (normalizeSelection c input username ≠ some username)
      ⟨.invalid_configuration, false⟩
    let pending : BreezAddressCheckpoint :=
      ⟨username, attempt, (checkpoint.map (·.phase)).getD .selected⟩
    save pending
    let next := registerFrom left (attempt + 1) (some (nextCheckpoint c attempt))
    if ← isAvailable then
      unlessServed c input (← recover c) (submit c input pending next)
    else
      unlessServed c input (← recover c) (advance c input pending next)

def run : Run BreezAddressState := do
  Faulty.rejectIf (c.domain ∉ ["conduit.cash".toList, "breez.tips".toList])
    ⟨.invalid_configuration, false⟩
  Faulty.rejectIf (trim c.apiKey = []) ⟨.unconfigured, false⟩
  let existing ← recover c
  match existing.filter fun username => ¬ ExplicitCustomName c input ∨
    input.requestedUsername.map (fun name => toLowerCase (trim name)) = some username with
  | some username => pure (.registered username)
  | none => do
    if input.register = false then
      return .absent
    Faulty.rejectIf (input.requestedUsername ≠ none ∧ selected c input = none)
      ⟨.invalid_username, false⟩
    let checkpoint ← Faulty.read ⟨.storage_unavailable, false⟩ fun w => stored w.log
    Faulty.rejectIf (checkpoint.any (fun k => normalizeSelection c input k.username = none ∨
      k.attempts < 1 ∨ maxAttempts < k.attempts) = true) ⟨.storage_unavailable, false⟩
    if selected c input ≠ none ∧ checkpoint.map (·.username) ≠ selected c input then
      Faulty.rejectIf (checkpoint.any (fun k => k.phase = .registering ∧
        some k.username ≠ existing) = true) ⟨.registration_pending, false⟩
      registerFrom c input maxAttempts 1 ((selected c input).map fun name => ⟨name, 1, .selected⟩)
    else
      let attempt := (checkpoint.map (·.attempts)).getD 1
      registerFrom c input (maxAttempts + 1 - attempt) attempt checkpoint

end

/-- The name that may have been committed, and that no recovery has returned since. -/
def pinned : List Event → Option Text
  | [] => none
  | .saved _ :: log => pinned log
  | .registers username rejected :: log => if rejected = true then pinned log else some username
  | .recovered username :: log => if pinned log = some username then none else pinned log

/-- Each name that was sent was checkpointed, and no other one was pinned. -/
def Safe : List Event → Prop
  | [] => True
  | .registers username _ :: log => (∀ name, pinned log = some name → name = username) ∧
      (∃ attempts, stored log = some ⟨username, attempts, .registering⟩) ∧ Safe log
  | .saved _ :: log | .recovered _ :: log => Safe log

/-- The checkpoint is of the pinned name. -/
def Accounts (checkpoint : Option BreezAddressCheckpoint) (log : List Event) : Prop :=
  ∀ name, pinned log = some name →
    ∃ attempts, checkpoint = some ⟨name, attempts, .registering⟩

lemma pinned_recovered {username name : Text} {log : List Event}
    (h : pinned (.recovered username :: log) = some name) :
    pinned log = some name ∧ name ≠ username := by
  rw [pinned] at h
  split_ifs at h with hp
  refine ⟨h, ?_⟩
  rintro rfl
  exact hp h

lemma definite_of_exhausted {answer : Answer} {e : AddressError}
    (h : readAnswer .register answer = .error e) (he : e.reason = .names_exhausted) :
    e.registrationMayHaveCommitted = false := by
  cases answer with
  | unsent reason =>
    cases h
    rfl
  | fails =>
    cases h
    cases he
  | response status active body =>
    simp only [readAnswer] at h
    cases hr : readResponse .register status active body with
    | ok v => rw [hr] at h; cases h
    | error reason =>
      rw [hr] at h
      cases h
      simp [show reason = .names_exhausted from he]

lemma stored_mem {log : List Event} {k : BreezAddressCheckpoint} (h : stored log = some k) :
    .saved k ∈ log := by
  induction log with
  | nil => cases h
  | cons e log ih =>
    cases e with
    | saved checkpoint =>
      cases h
      exact mem_cons_self
    | registers username rejected => exact mem_cons_of_mem _ (ih h)
    | recovered username => exact mem_cons_of_mem _ (ih h)

/-- A call of `lookup` or `ensure`: where it fails, and what it is answered. -/
structure Call where
  client : BreezLightningAddressClient
  input : RunInput
  faults : List Fault
  answers : List Answer

/-- What is told of the calls, which the lock of the scope holds apart. -/
def replay (calls : List Call) : List Event :=
  calls.foldl (fun log call => (run call.client call.input call.faults ⟨call.answers, log⟩).2.1.log)
    []

section

/-- Which names may be sent at which attempts. -/
class Naming where
  Named : Text → Nat → Prop

open Naming

variable [Naming]

def Tried (username : Text) (attempt : Nat) : Prop :=
  1 ≤ attempt ∧ attempt ≤ maxAttempts ∧ Named username attempt

lemma tried_first {username : Text} (h : Named username 1) : Tried username 1 :=
  ⟨le_rfl, (by decide : 1 ≤ maxAttempts), h⟩

structure Inv (w : World) : Prop where
  safe : Safe w.log
  accounts : Accounts (stored w.log) w.log
  tried : ∀ k, .saved k ∈ w.log → Tried k.username k.attempts

/-- A state in which `checkpoint` may be saved. -/
structure Ready (checkpoint : Option BreezAddressCheckpoint) (w : World) : Prop extends Inv w where
  covers : Accounts checkpoint w.log

structure Names (c : BreezLightningAddressClient) (input : RunInput) : Prop where
  generated : ∀ attempt, Named (c.generate attempt) attempt
  selected : ∀ name, selected c input = some name → ∀ attempt, Named name attempt

variable {c : BreezLightningAddressClient} {input : RunInput} {w : World}
  {checkpoint : Option BreezAddressCheckpoint} {pending : BreezAddressCheckpoint}
  {next : Run BreezAddressState} {pre : World → Prop}

/-- What keeps the invariant, wherever it stops. -/
abbrev Keeps {α : Type} (pre : World → Prop) (m : Run α) : Prop :=
  Triple pre m (fun _ => Inv) Inv

lemma Inv.recovered {username : Text} {answers : List Answer} (h : Inv w) :
    Inv ⟨answers, .recovered username :: w.log⟩ :=
  ⟨h.safe, fun name hn => h.accounts name (pinned_recovered hn).1,
    fun k hk => h.tried k (by simpa using hk)⟩

lemma Ready.answered {answers : List Answer} (h : Ready checkpoint w) :
    Ready checkpoint ⟨answers, w.log⟩ :=
  ⟨⟨h.safe, h.accounts, h.tried⟩, h.covers⟩

lemma Inv.saved {answers : List Answer} (h : Inv w) (hp : Tried pending.username pending.attempts)
    (ha : Accounts (some pending) w.log) :
    Ready (some pending) ⟨answers, .saved pending :: w.log⟩ := by
  refine ⟨⟨h.safe, ha, fun k hk => ?_⟩, ha⟩
  rcases mem_cons.1 hk with hk | hk
  · cases hk
    exact hp
  · exact h.tried k hk

/-- A recovery keeps what accounts for the pinned name, and unpins the name that it returns. -/
lemma recover_spec : Triple (Ready checkpoint) (recover c) (fun found w => Ready checkpoint w ∧
    ∀ username, found = some username → pinned w.log ≠ some username) Inv := by
  refine Triple.bind (q := fun found w => Ready checkpoint w ∧ ∀ username,
    found = .ok (some username) → pinned w.log ≠ some username) (.access ?_ fun w h => h.toInv) ?_
  · intro w h
    dsimp only
    cases hr : readRecovered c (w.answers.headD .fails) with
    | error e => exact ⟨h.answered, nofun⟩
    | ok found =>
      cases found with
      | none => exact ⟨h.answered, nofun⟩
      | some username =>
        refine ⟨⟨h.toInv.recovered, fun name hn => h.covers name (pinned_recovered hn).1⟩, ?_⟩
        rintro _ ⟨⟩ hp
        exact (pinned_recovered hp).2 rfl
  · intro found
    refine .ofResult ?_ fun w h => h.1.toInv
    rintro found rfl w h
    exact ⟨h.1, fun username hu => h.2 username (congrArg _ hu)⟩

lemma isAvailable_spec : Triple (Ready checkpoint) isAvailable (fun _ => Ready checkpoint) Inv := by
  refine Triple.bind (q := fun _ => Ready checkpoint) (.access ?_ fun w h => h.toInv) ?_
  · exact fun w h => h.answered
  · intro result
    refine Triple.bind (q := fun _ => Ready checkpoint)
      (.ofResult (fun _ _ w h => h) fun w h => h.toInv) ?_
    intro found
    split
    · exact .pure fun w h => h
    · exact .throw fun w h => h.toInv

lemma save_spec (hp : Tried pending.username pending.attempts) :
    Triple (Ready (some pending)) (save pending) (fun _ => Ready (some pending)) Inv := by
  refine .write ?_ fun w h => h.toInv
  exact fun w h => h.toInv.saved hp h.covers

lemma Keeps.of_imp {α : Type} {m : Run α} {pre' : World → Prop} (h : Keeps pre m)
    (hp : ∀ w, pre' w → pre w) : Keeps pre' m :=
  h.weaken hp (fun _ _ h => h) fun _ h => h

lemma rejectIf_keeps {bad : Prop} [Decidable bad] {e : AddressError}
    (hp : ∀ w, pre w → Inv w) (h : ¬ bad → Keeps pre next) :
    Keeps pre (do Faulty.rejectIf bad e; next) := by
  refine Triple.bind (q := fun _ w => ¬ bad ∧ pre w)
    (.rejectIf (fun hb _ hw => ⟨hb, hw⟩) hp) fun _ => ?_
  rintro faults w ⟨hb, hw⟩
  exact h hb faults w hw

lemma unlessServed_keeps (h : Keeps (Ready checkpoint) next) :
    Keeps (Ready checkpoint) (do unlessServed c input (← recover c) next) := by
  refine recover_spec.bind fun found => ?_
  refine Keeps.of_imp (?_ : Keeps (Ready checkpoint) _) fun _ h => h.1
  unfold unlessServed
  split
  · split_ifs
    · exact h
    · exact .pure fun _ h => h.toInv
  · exact h

lemma unlessServed_throws {e : AddressError} :
    Keeps Inv (do unlessServed c input (← recover c) (Faulty.throw e)) := by
  intro faults w hw
  exact unlessServed_keeps (.throw fun _ h => h.toInv) faults w ⟨hw, hw.accounts⟩

/-- What keeps the invariant with the checkpoint of the name after this one. -/
abbrev KeepsNext (c : BreezLightningAddressClient) (attempt : Nat)
    (next : Run BreezAddressState) : Prop :=
  Tried (c.generate (attempt + 1)) (attempt + 1) →
    Keeps (Ready (some (nextCheckpoint c attempt))) next

lemma advance_keeps (hn : Names c input) (hp : Tried pending.username pending.attempts)
    (h : KeepsNext c pending.attempts next) :
    Keeps (Ready (some pending)) (advance c input pending next) := by
  refine rejectIf_keeps (fun _ h => h.toInv) fun hs => ?_
  refine rejectIf_keeps (fun _ h => h.toInv) fun _ => ?_
  refine rejectIf_keeps (fun _ h => h.toInv) fun hm => ?_
  have ht : Tried (c.generate (pending.attempts + 1)) (pending.attempts + 1) :=
    ⟨Nat.le_add_left .., lt_of_le_of_ne hp.2.1 hm, hn.generated _⟩
  refine ((save_spec ht).weaken ?_ (fun _ _ h => h) fun _ h => h).bind fun _ => h ht
  intro w hw
  refine ⟨hw.toInv, fun name hn => ?_⟩
  obtain ⟨attempts, he⟩ := hw.covers name hn
  cases he
  exact absurd rfl hs

lemma Ready.registers {answers : List Answer} (rejected : Bool) (h : Ready (some pending) w)
    (hs : stored w.log = some pending) (hp : pending.phase = .registering) :
    Inv ⟨answers, .registers pending.username rejected :: w.log⟩ := by
  have hname : ∀ name, pinned w.log = some name → name = pending.username := by
    intro name hn
    obtain ⟨attempts, he⟩ := h.covers name hn
    cases he
    rfl
  refine ⟨⟨hname, ⟨pending.attempts, hs.trans (hp ▸ rfl)⟩, h.safe⟩, fun name hn => ?_,
    fun k hk => h.tried k (by simpa using hk)⟩
  obtain rfl : name = pending.username := by
    simp only [pinned] at hn
    split_ifs at hn
    · exact hname name hn
    · exact (Option.some.inj hn).symm
  exact ⟨pending.attempts, hs.trans (hp ▸ rfl)⟩

lemma submit_keeps (hn : Names c input) (ht : Tried pending.username pending.attempts)
    (h : KeepsNext c pending.attempts next) :
    Keeps (Ready (some pending)) (submit c input pending next) := by
  let sent : BreezAddressCheckpoint := { pending with phase := .registering }
  refine Triple.bind (q := fun _ w => Ready (some sent) w ∧ stored w.log = some sent ∧
    Accounts (some pending) w.log) (.write ?_ fun w h => h.toInv) fun _ => ?_
  · intro w hw
    have hc : Accounts (some sent) w.log := by
      intro name hn
      obtain ⟨attempts, he⟩ := hw.covers name hn
      cases he
      exact ⟨attempts, rfl⟩
    exact ⟨hw.toInv.saved ht hc, rfl, hw.covers⟩
  refine Triple.bind (q := fun answer w => Inv w ∧ ∀ e, answer = .error e →
    (e.reason = .names_exhausted → e.registrationMayHaveCommitted = false) ∧
    (e.registrationMayHaveCommitted = false → Accounts (some pending) w.log))
    (.access ?_ fun w h => h.1.toInv) ?_
  · rintro w ⟨hw, hs, hp⟩
    dsimp only
    generalize w.answers.headD .fails = answer
    have hl : toldOf pending.username answer = [] ∨ toldOf pending.username answer =
        [.registers pending.username (isRejected (readAnswer .register answer))] := by
      cases answer <;> simp [toldOf]
    rcases hl with hl | hl <;> rw [hl]
    · exact ⟨hw.answered.toInv, fun e he => ⟨definite_of_exhausted he, fun _ => hp⟩⟩
    · refine ⟨hw.registers _ hs rfl, fun e he => ⟨definite_of_exhausted he, ?_⟩⟩
      intro hf name hn
      simp only [he, isRejected, hf] at hn
      exact hp name hn
  rintro (e | result)
  · refine Triple.bind (q := fun _ w => Inv w ∧ (e.reason = .names_exhausted →
      Accounts (some pending) w.log)) ?_ fun _ => ?_
    · unfold clearUncertainty
      split_ifs with hc
      · refine .write ?_ fun w h => h.1
        rintro w ⟨hw, hk⟩
        have ha := (hk e rfl).2 hc.2
        exact ⟨(hw.saved ht ha).toInv, fun _ => ha⟩
      · exact .pure fun w h => ⟨h.1, fun he => (h.2 e rfl).2 ((h.2 e rfl).1 he)⟩
    · split_ifs with he
      · exact (unlessServed_keeps (advance_keeps hn ht h)).of_imp fun w h => ⟨h.1, h.2 he⟩
      · exact unlessServed_throws.of_imp fun _ h => h.1
  · exact unlessServed_throws.of_imp fun _ h => h.1

lemma registerFrom_keeps (hn : Names c input) (left attempt : Nat)
    (ht : Tried ((checkpoint.map (·.username)).getD (c.generate attempt)) attempt) :
    Keeps (Ready checkpoint) (registerFrom c input left attempt checkpoint) := by
  induction left generalizing attempt checkpoint with
  | zero => exact .throw fun w h => h.toInv
  | succ left ih =>
    refine rejectIf_keeps (fun _ h => h.toInv) fun _ => ?_
    have hnext : KeepsNext c attempt
        (registerFrom c input left (attempt + 1) (some (nextCheckpoint c attempt))) :=
      fun ht => ih _ ht
    refine Triple.bind ((save_spec ht).weaken ?_ (fun _ _ h => h) fun _ h => h) fun _ => ?_
    · intro w h
      refine ⟨h.toInv, fun name hn => ?_⟩
      obtain ⟨attempts, rfl⟩ := h.covers name hn
      exact ⟨attempt, rfl⟩
    refine isAvailable_spec.bind fun available => ?_
    cases available with
    | false => exact unlessServed_keeps (advance_keeps hn ht hnext)
    | true => exact unlessServed_keeps (submit_keeps hn ht hnext)

lemma run_keeps (hn : Names c input) : Keeps Inv (run c input) := by
  refine rejectIf_keeps (fun _ h => h) fun _ => rejectIf_keeps (fun _ h => h) fun _ => ?_
  refine Triple.bind (q := fun found w => Inv w ∧ ∀ username, found = some username →
    pinned w.log ≠ some username) ?_ fun existing => ?_
  · intro faults w h
    exact (recover_spec.weaken (fun _ h => h) (fun _ _ h => ⟨h.1.toInv, h.2⟩) fun _ h => h)
      faults w ⟨h, h.accounts⟩
  split
  · exact .pure fun w h => h.1
  split_ifs
  · exact .pure fun w h => h.1
  refine rejectIf_keeps (fun _ h => h.1) fun _ => ?_
  refine Triple.bind (q := fun checkpoint w => Inv w ∧ checkpoint = stored w.log ∧
    ∀ username, existing = some username → pinned w.log ≠ some username)
    (.read (fun w h => ⟨h.1, rfl, h.2⟩) fun w h => h.1) fun checkpoint => ?_
  refine rejectIf_keeps (fun _ h => h.1) fun _ => ?_
  split_ifs
  · -- A pinned name that is given up for the selected one has just been recovered.
    refine rejectIf_keeps (fun _ h => h.1) fun hr => ?_
    refine (registerFrom_keeps hn _ _ (tried_first ?_)).of_imp ?_
    · cases hs : selected c input with
      | none => exact hn.generated 1
      | some name => exact hn.selected name hs 1
    · rintro w ⟨hw, rfl, he⟩
      refine ⟨hw, fun name hp => ?_⟩
      obtain ⟨attempts, hs⟩ := hw.accounts name hp
      simp only [hs, Option.any_some, decide_eq_true_eq, true_and, not_not] at hr
      exact absurd hp (he name hr.symm)
  · rintro faults w ⟨hw, rfl, -⟩
    refine registerFrom_keeps hn _ _ ?_ faults w ⟨hw, hw.accounts⟩
    cases hk : stored w.log with
    | none => exact tried_first (hn.generated 1)
    | some k => exact hw.tried k (stored_mem hk)

lemma replay_inv (calls : List Call)
    (hn : ∀ call ∈ calls, Names call.client call.input) :
    Inv ⟨[], replay calls⟩ := by
  suffices h : ∀ log, Inv ⟨[], log⟩ → Inv ⟨[], calls.foldl (fun log call =>
      (run call.client call.input call.faults ⟨call.answers, log⟩).2.1.log) log⟩ from
    h [] ⟨trivial, nofun, nofun⟩
  induction calls with
  | nil => exact fun log h => h
  | cons call calls ih =>
    intro log h
    have hk := (show Keeps Inv _ from run_keeps (hn call mem_cons_self)).final call.faults
      (show Inv ⟨call.answers, log⟩ from ⟨h.safe, h.accounts, h.tried⟩)
    exact ih (fun call hc => hn call (mem_cons_of_mem _ hc)) _ ⟨hk.safe, hk.accounts, hk.tried⟩

end

/-- While a name may have been committed, no other name is sent, and each name that is sent was
checkpointed as registering, whatever fails. -/
theorem name_stays_pinned (calls : List Call) : Safe (replay calls) :=
  let _ : Naming := ⟨fun _ _ => True⟩
  (replay_inv calls fun _ _ => ⟨fun _ => trivial, fun _ _ _ => trivial⟩).safe

/-- The names that are sent to be registered. -/
def names (log : List Event) : List Text :=
  log.filterMap fun
    | .registers username _ => some username
    | _ => none

lemma Safe.saved {log : List Event} {username : Text} (h : Safe log) (hu : username ∈ names log) :
    ∃ attempts, .saved ⟨username, attempts, .registering⟩ ∈ log := by
  induction log with
  | nil => cases hu
  | cons e log ih =>
    cases e with
    | saved _ | recovered _ =>
      obtain ⟨attempts, hs⟩ := ih h hu
      exact ⟨attempts, mem_cons_of_mem _ hs⟩
    | registers name rejected =>
      obtain ⟨-, ⟨attempts, hs⟩, h⟩ := h
      rcases mem_cons.1 hu with rfl | hu
      · exact ⟨attempts, mem_cons_of_mem _ (stored_mem hs)⟩
      · obtain ⟨attempts, hs⟩ := ih h hu
        exact ⟨attempts, mem_cons_of_mem _ hs⟩

/-- The calls send the names that they ask for, and the first five that are generated. -/
theorem names_within_attempts (calls : List Call) :
    names (replay calls) ⊆ (calls.filterMap fun call => selected call.client call.input) ++
      calls.flatMap fun call => (range' 1 maxAttempts).map call.client.generate := by
  let _ : Naming := ⟨fun name attempt =>
    (∃ call ∈ calls, selected call.client call.input = some name) ∨
      ∃ call ∈ calls, call.client.generate attempt = name⟩
  have h := replay_inv calls fun call hc =>
    ⟨fun attempt => Or.inr ⟨call, hc, rfl⟩, fun name hs _ => Or.inl ⟨call, hc, hs⟩⟩
  intro username hu
  obtain ⟨attempts, hs⟩ := h.safe.saved hu
  obtain ⟨h1, h5, hn⟩ := h.tried _ hs
  rcases hn with hn | ⟨call, hc, hg⟩
  · exact mem_append_left _ (mem_filterMap.2 hn)
  · refine mem_append_right _ (mem_flatMap.2 ⟨call, hc, mem_map.2 ⟨attempts, ?_, hg⟩⟩)
    exact mem_range'_1.2 ⟨h1, Nat.lt_succ_of_le h5⟩

end Conduit.LightningAddress
