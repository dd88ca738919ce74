import Conduit.CheckoutSpark.Returned
import Conduit.CheckoutSpark.Settlement

namespace Conduit.CheckoutSpark

open Js Throwing

def createNativeTreasuryFinalization : NativeTreasuryFinalization where
  intent := none
  status := .unprepared
  providerTransferId := none
  observedAt := none
  finalFeeSats := none
  finalDebitSats := none

/-- A leg whose receipt the budget may count. -/
def LegProgress.Settled (leg : LegProgress) : Prop :=
  leg.status = .paid ∧ leg.intent ≠ none ∧
    (∃ debit ∈ leg.finalDebitSats, NonnegativeSafe debit ∧ 0 < debit) ∧
    ∀ entry ∈ leg.closed, entry.closure.netDebitSats = 0
  deriving Decidable

def optionNum (o : Option Int) : Json := (o.map Json.num).getD .null

def debitSum (legs : List LegProgress) : Int := (legs.map fun l => l.finalDebitSats.getD 0).sum

variable (P : Platform)

variable (state : SettledReconciliation)

def accountingDigest (credit : CreditEvidence)
    (commerce : List LegProgress) (feeAllocation unused authorized : Int) : Text :=
  P.digest (.arr [.str "conduit:checkout-spark-native-treasury-accounting:v1",
    .str state.plan.planDigest, .str credit.transferId, .num credit.creditedSats,
    .arr (commerce.map fun leg => .arr [.str leg.legId,
      (leg.intent.map fun i => Json.str i.transferId).getD .null, optionNum leg.finalDebitSats,
      optionNum leg.finalFeeSats,
      .arr (leg.closed.map fun entry => .arr [.str entry.intent.transferId,
        .num entry.closure.netDebitSats])]),
    .num feeAllocation, .num unused, .num authorized])

def budgetFromExactState : Result NativeTreasuryBudget := do
  reject (¬ state.plan.IsNativeTreasuryPlan ∨ state.plan.nativeTreasury = none) nativeInvalid
  match state.credit with
  | none => .error nativeInvalid
  | some credit => do
    let fee ← requireSome state.plan.feeRecipient
    let feeLeg ← requireSome (state.leg fee.legId)
    let commerce := state.legs.filter fun leg => leg.legId ≠ fee.legId
    match feeLeg.allocationSats with
    | none => .error nativeInvalid
    | some feeAllocation => do
      reject (¬ NonnegativeSafe feeAllocation ∨ ∃ leg ∈ commerce, ¬ leg.Settled) nativeInvalid
      let authorized := credit.creditedSats - debitSum commerce
      let unused := authorized - feeAllocation
      reject (¬ NonnegativeSafe authorized ∨ ¬ NonnegativeSafe unused) nativeInvalid
      return {
        baseConduitAllocationSats := feeAllocation
        unusedCommerceReserveSats := unused
        authorizedDebitSats := authorized
        accountingDigest := accountingDigest P state credit commerce feeAllocation unused
          authorized }

def latestCommerceTime (credit : CreditEvidence) : Int :=
  (state.legs.filterMap fun leg => if leg.intent = none then none else leg.observedAt).foldl max
    credit.observedAt

def restoreNativeTreasuryFinalization (value : Option NativeTreasuryFinalization)
    (state : SettledReconciliation) : Result NativeTreasuryFinalization :=
  match value with
  | none => .error nativeInvalid
  | some value =>
    match value.intent with
    | none => do
      reject (value ≠ createNativeTreasuryFinalization) nativeInvalid
      return createNativeTreasuryFinalization
    | some intent => do
      let budget ← budgetFromExactState P state
      let native ← requireSome state.plan.nativeTreasury
      let credit ← requireSome state.credit
      reject (intent.invoiceId ≠ native.invoiceId ∨
          intent.invoiceRequest ≠ native.invoiceRequest ∨ intent.amountSats ≤ 0 ∨
          intent.amountSats ≠ budget.authorizedDebitSats ∨ intent.budget ≠ budget ∨
          ¬ NonnegativeSafe intent.preparedAt ∨
          intent.preparedAt < latestCommerceTime state credit ∨
          ¬ (∃ observedAt ∈ value.observedAt, NonnegativeSafe observedAt ∧
            intent.preparedAt ≤ observedAt) ∨
          value.status = .unprepared ∨ (∃ id ∈ value.providerTransferId, ¬ IsId id 512))
        nativeInvalid
      if value.status = .paid then
        reject (value.providerTransferId = none ∨ value.finalFeeSats ≠ some 0 ∨
            value.finalDebitSats ≠ some intent.amountSats)
          nativeInvalid
      else
        reject (value.finalFeeSats ≠ none ∨ value.finalDebitSats ≠ none) nativeInvalid
      return value

end Conduit.CheckoutSpark
