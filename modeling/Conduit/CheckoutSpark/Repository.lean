import Conduit.CheckoutSpark.Progression
import Conduit.Table

namespace Conduit.CheckoutSpark

open Js Throwing

structure OrganizerOrderBinding where
  (identityHash termsHash : Text)
  createdAt : Int
  deriving DecidableEq

/-- Persisted local binding only. -/
structure MerchantOrderWitness where
  schemaVersion : Nat
  (merchantPubkey buyerPubkey orderId rumorId contentHash checkoutId planDigest : Text)
  organizerOrderBinding : Option OrganizerOrderBinding
  deriving DecidableEq

structure BuyerOrderBinding where
  schemaVersion : Nat
  (checkoutId planDigest orderId merchantPubkey buyerPubkey walletId : Text)
  commerceTotalSats : Int

variable (P : Platform)

variable (witness : MerchantOrderWitness)

/-- `validOrganizerOrderBinding`. -/
def OrganizerOrderBinding.Valid (value : OrganizerOrderBinding) : Prop :=
  IsHex64 value.identityHash ∧ IsHex64 value.termsHash ∧ NonnegativeSafe value.createdAt ∧
    value.identityHash = P.digest (.arr [.str witness.orderId, .str witness.buyerPubkey,
      .str witness.merchantPubkey])
  deriving Decidable

def MerchantOrderWitness.Valid (P : Platform) (witness : MerchantOrderWitness) : Prop :=
  (witness.schemaVersion = 1 ∨ witness.schemaVersion = 2) ∧
  IsHex64 witness.merchantPubkey ∧ IsHex64 witness.buyerPubkey ∧ IsHex64 witness.rumorId ∧
  IsHex64 witness.contentHash ∧ IsHex64 witness.planDigest ∧ IsId witness.orderId 512 ∧
  IsId witness.checkoutId 512 ∧
  match witness.organizerOrderBinding with
  | none => witness.schemaVersion = 1
  | some binding => witness.schemaVersion = 2 ∧ binding.Valid P witness

instance (P : Platform) (witness : MerchantOrderWitness) : Decidable (witness.Valid P) := by
  unfold MerchantOrderWitness.Valid
  cases witness.organizerOrderBinding <;> infer_instance

def OrganizerOrderBinding.InPlan (plan : SettledPlan) (binding : OrganizerOrderBinding) : Prop :=
  plan.schemaVersion = 5 ∧ plan.eventMarket.map (·.mode) = some .organizerHandoff ∧
    plan.createdAt ≤ binding.createdAt ∧ binding.createdAt < plan.takeoverAt
  deriving Decidable

/-- Fail closed on malformed local records before projecting any paid state. -/
def restoreMerchantOrderWitness (plan : SettledPlan) : Result MerchantOrderWitness := do
  reject (¬ witness.Valid P) (.error "Checkout Spark order witness is invalid.")
  let frozen ← restoreSettledPlan P plan
  reject (witness.merchantPubkey ≠ frozen.merchantPubkey ∨ witness.orderId ≠ frozen.orderId ∨
      witness.checkoutId ≠ frozen.checkoutId ∨ witness.planDigest ≠ frozen.planDigest ∨
      ∃ binding ∈ witness.organizerOrderBinding, ¬ binding.InPlan frozen)
    (.error "Checkout Spark order witness does not match plan.")
  return witness

def restoreBuyerOrderBinding (value : BuyerOrderBinding) : Result BuyerOrderBinding := do
  reject ((value.schemaVersion ≠ 1 ∧ value.schemaVersion ≠ 2) ∨ ¬ IsId value.checkoutId 512 ∨
      ¬ IsHex64 value.planDigest ∨ ¬ IsId value.orderId 512 ∨ ¬ IsHex64 value.merchantPubkey ∨
      ¬ IsHex64 value.buyerPubkey ∨ ¬ IsId value.walletId 512 ∨
      ¬ (if value.schemaVersion = 2 then NonnegativeSafe value.commerceTotalSats
        else PositiveSats value.commerceTotalSats))
    (.error "Checkout Spark retained settlement binding is invalid.")
  return value

structure PlanBinding where
  (checkoutId planDigest : Text)
  orderWitness : Option MerchantOrderWitness
  merchantSettlement : Option MerchantSettlementRecord
  buyerOrderBinding : Option BuyerOrderBinding

structure StoredReconciliation where
  checkoutId : Text
  revision : Int
  state : SettledReconciliation

structure StoredRetirement where
  checkoutId : Text
  schemaVersion : Nat
  planDigest : Text
  retiredAt : Int

structure Repository where
  bindings : Table PlanBinding PlanBinding.checkoutId
  reconciliations : Table StoredReconciliation StoredReconciliation.checkoutId
  retirements : Table StoredRetirement StoredRetirement.checkoutId

inductive RepositorySnapshot where
  | absent
  | active (revision : Int) (state : SettledReconciliation)
  | retired (planDigest : Text) (retiredAt : Int)

/-- `projectState`: the fields of what a load returns. -/
def projectState (state : SettledReconciliation) : Result SettledReconciliation :=
  restoreSettledReconciliation P state

variable (binding : PlanBinding)

def activeSnapshot (active : StoredReconciliation) : Result RepositorySnapshot := do
  reject (active.checkoutId ≠ binding.checkoutId ∨ ¬ IsSafeInteger active.revision ∨
      active.revision < 1 ∨ (active.state.schemaVersion ≠ 3 ∧ active.state.schemaVersion ≠ 4 ∧
        active.state.schemaVersion ≠ 5 ∧ active.state.schemaVersion ≠ 6))
    .repositoryIntegrity
  let state ← projectState P active.state
  reject (state.plan.checkoutId ≠ binding.checkoutId ∨ state.plan.planDigest ≠ binding.planDigest)
    .repositoryIntegrity
  return .active active.revision state

def retiredSnapshot (retired : StoredRetirement) : Result RepositorySnapshot := do
  reject (retired.checkoutId ≠ binding.checkoutId ∨ retired.schemaVersion ≠ 1 ∨
      retired.planDigest ≠ binding.planDigest ∨ ¬ NonnegativeSafe retired.retiredAt)
    .repositoryIntegrity
  return .retired retired.planDigest retired.retiredAt

def snapshotFromRows (checkoutId : Text) (binding : Option PlanBinding)
    (active : Option StoredReconciliation) (retired : Option StoredRetirement) :
    Result RepositorySnapshot :=
  match binding with
  | none => do
    reject (active ≠ none ∨ retired ≠ none) .repositoryIntegrity
    return .absent
  | some binding => do
    reject (binding.checkoutId ≠ checkoutId ∨ ¬ IsHex64 binding.planDigest) .repositoryIntegrity
    match active, retired with
    | some active, none => activeSnapshot P binding active
    | none, some retired => retiredSnapshot binding retired
    | _, _ => .error .repositoryIntegrity

variable (repo : Repository)

def Repository.readInTransaction (checkoutId : Text) : Result RepositorySnapshot :=
  snapshotFromRows P checkoutId (repo.bindings.get checkoutId) (repo.reconciliations.get checkoutId)
    (repo.retirements.get checkoutId)

def assertBuyerWitness (witness : Option MerchantOrderWitness) : Result Unit :=
  match witness, binding.buyerOrderBinding with
  | some exact, some bound => do
    let buyer ← restoreBuyerOrderBinding bound
    reject (buyer.checkoutId ≠ exact.checkoutId ∨ buyer.planDigest ≠ exact.planDigest ∨
        buyer.orderId ≠ exact.orderId ∨ buyer.merchantPubkey ≠ exact.merchantPubkey ∨
        buyer.buyerPubkey ≠ exact.buyerPubkey)
      .repositoryConflict
  | _, _ => .ok ()

def assertRetiredWitness (current : RepositorySnapshot) (binding : PlanBinding)
    (plan : SettledPlan) (witness : Option MerchantOrderWitness) : Result Unit :=
  match current, binding.merchantSettlement with
  | .retired _ _, some stored => do
    let settlement ← restoreMerchantSettlementRecord P stored plan
    reject (¬ ∃ exact ∈ witness, settlement.merchantPubkey = exact.merchantPubkey ∧
        settlement.orderId = exact.orderId ∧ settlement.checkoutId = exact.checkoutId ∧
        settlement.planDigest = exact.planDigest)
      .repositoryConflict
  | _, _ => .ok ()

def WitnessUpgrades (authenticated : Bool) (previous exact : MerchantOrderWitness) : Prop :=
  authenticated = true ∧ previous.schemaVersion = 1 ∧ exact.schemaVersion = 2 ∧
    previous.merchantPubkey = exact.merchantPubkey ∧ previous.buyerPubkey = exact.buyerPubkey ∧
    previous.orderId = exact.orderId ∧ previous.rumorId = exact.rumorId ∧
    previous.contentHash = exact.contentHash ∧ previous.checkoutId = exact.checkoutId ∧
    previous.planDigest = exact.planDigest
  deriving Decidable

def adoptWitness (plan : SettledPlan)
    (witness : Option MerchantOrderWitness) (authenticated : Bool) : Result (Option PlanBinding) :=
  match binding.orderWitness with
  | some stored => do
    let previous ← restoreMerchantOrderWitness P stored plan
    match witness with
    | some exact =>
      if previous = exact then return none
      else do
        reject (¬ WitnessUpgrades authenticated previous exact) .repositoryConflict
        return some { binding with orderWitness := some exact }
    | none => return none
  | none =>
    match witness with
    | some exact => return some { binding with orderWitness := some exact }
    | none => return none

/-- What a caller hands to `importRecoveryState` or, with a witness, to
`importMerchantOrderRecovery`. -/
structure RecoveryImport where
  state : SettledReconciliation
  witness : Option MerchantOrderWitness
  authenticated : Bool
  assertCurrent : Nat → Result Unit

variable (input : RecoveryImport)

def importAbsent (next : SettledReconciliation)
    (witness : Option MerchantOrderWitness) : Result (Repository × RepositorySnapshot) := do
  input.assertCurrent 3
  input.assertCurrent 4
  return ({ repo with
    bindings := repo.bindings.put {
      checkoutId := next.plan.checkoutId
      planDigest := next.plan.planDigest
      orderWitness := witness
      merchantSettlement := none
      buyerOrderBinding := none }
    reconciliations := repo.reconciliations.put {
      checkoutId := next.plan.checkoutId
      revision := 1
      state := next } }, .active 1 next)

def mergeActive (next : SettledReconciliation) (revision : Int) (known : SettledReconciliation) :
    Result (Repository × RepositorySnapshot) :=
  if known = next then .ok (repo, .active revision known)
  else if input.witness ≠ none ∧ assertSettledRecoveryProgression P next known = .ok () then
    .ok (repo, .active revision known)
  else do
    assertSettledRecoveryProgression P known next
    reject (¬ IsSafeInteger (revision + 1)) .repositoryConflict
    input.assertCurrent 5
    return ({ repo with
      reconciliations := repo.reconciliations.put {
        checkoutId := next.plan.checkoutId
        revision := revision + 1
        state := next } }, .active (revision + 1) next)

def importBinding (next : SettledReconciliation) (witness : Option MerchantOrderWitness)
    (current : RepositorySnapshot) (currentDigest : Text) : Result Repository := do
  reject (currentDigest ≠ next.plan.planDigest) .repositoryConflict
  input.assertCurrent 3
  match repo.bindings.get next.plan.checkoutId with
  | none => .error .repositoryConflict
  | some binding => do
    reject (binding.planDigest ≠ next.plan.planDigest) .repositoryConflict
    assertBuyerWitness binding witness
    assertRetiredWitness P current binding next.plan witness
    let written ← adoptWitness P binding next.plan witness input.authenticated
    match written with
    | some row => do
      input.assertCurrent 4
      return { repo with bindings := repo.bindings.put row }
    | none => return repo

def importOver (next : SettledReconciliation) (witness : Option MerchantOrderWitness)
    (current : RepositorySnapshot) : Result (Repository × RepositorySnapshot) :=
  match current with
  | .absent => importAbsent repo input next witness
  | .retired digest retiredAt => do
    reject (witness = none) .repositoryConflict
    let bound ← importBinding P repo input next witness current digest
    return (bound, .retired digest retiredAt)
  | .active revision known => do
    let bound ← importBinding P repo input next witness current known.plan.planDigest
    mergeActive P bound input next revision known

def importRecoveryStateWithWitness : Result (Repository × RepositorySnapshot) := do
  input.assertCurrent 0
  let next ← projectState P input.state
  let witness ← optionResult (fun w => restoreMerchantOrderWitness P w next.plan) input.witness
  input.assertCurrent 1
  let current ← repo.readInTransaction P next.plan.checkoutId
  input.assertCurrent 2
  importOver P repo input next witness current

/-- The rows after the call: a transaction that throws leaves them as they were. -/
def Repository.afterImport : Repository :=
  match importRecoveryStateWithWitness P repo input with
  | .ok (imported, _) => imported
  | .error _ => repo

end Conduit.CheckoutSpark
