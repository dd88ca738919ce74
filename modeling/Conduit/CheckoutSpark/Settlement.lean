import Conduit.CheckoutSpark.State

namespace Conduit.CheckoutSpark

open Js Throwing

structure SettlementCredit where
  transferId : Text
  (creditedSats observedAt : Int)
  deriving DecidableEq

structure SettlementPaidLeg where
  (legId transferId : Text)
  (allocationSats finalDebitSats finalFeeSats observedAt : Int)
  recipientVerified : Bool
  deriving DecidableEq

structure NativeTreasurySettlement where
  budget : NativeTreasuryBudget
  (invoiceId providerTransferId : Text)
  (principalSats finalDebitSats finalFeeSats observedAt : Int)
  deriving DecidableEq

/-- Private device-local provider facts. -/
structure MerchantSettlementRecord where
  schemaVersion : Nat
  nativeTreasury : Option NativeTreasurySettlement
  (merchantPubkey orderId checkoutId planDigest : Text)
  (merchantLegId organizerLegId : Option Text)
  requiredCommerceLegIds : List Text
  feeLegId : Text
  credit : Option SettlementCredit
  paidLegs : List SettlementPaidLeg
  deriving DecidableEq

def settlementInvalid : Failure :=
  .error "Checkout Spark merchant settlement evidence is invalid."

def typeError : Failure := .error "TypeError"

/-- `list.find(…)!.legId`: reading through a missing entry throws. -/
def requireSome {α : Type} (o : Option α) : Result α :=
  match o with
  | some a => .ok a
  | none => .error typeError

def SettledPlan.feeRecipient (plan : SettledPlan) : Option SettledRecipient :=
  plan.recipients.find? fun r => r.kind = .conduit

def createMerchantSettlementRecord (P : Platform) (plan : SettledPlan) :
    Result MerchantSettlementRecord := do
  let canonical ← restoreSettledPlan P plan
  let fee ← requireSome canonical.feeRecipient
  return {
    schemaVersion := if canonical.schemaVersion = 5 then 3
      else if canonical.schemaVersion = 4 then 2 else 1
    nativeTreasury := none
    merchantPubkey := canonical.merchantPubkey
    orderId := canonical.orderId
    checkoutId := canonical.checkoutId
    planDigest := canonical.planDigest
    merchantLegId := (canonical.recipients.find? fun r => r.kind = .merchant).map (·.legId)
    organizerLegId := if canonical.schemaVersion = 5 then
        (canonical.recipients.find? fun r => r.kind = .organizer).map (·.legId)
      else none
    requiredCommerceLegIds := (canonical.recipients.filter fun r =>
      if canonical.schemaVersion = 5 then r.kind = .merchant ∨ r.kind = .supplier
      else r.kind ≠ .conduit).map (·.legId)
    feeLegId := fee.legId
    credit := none
    paidLegs := [] }

def hexGroup (l : List Char) (n : Nat) : Prop := l.length = n ∧ l.all isHexChar = true
  deriving Decidable

/-- `/^[0-9a-f]{8}-[0-9a-f]{4}-5[0-9a-f]{3}-[89ab][0-9a-f]{3}-[0-9a-f]{12}$/`. -/
def IsNameUuid (value : Text) : Prop :=
  match split '-' value with
  | [a, b, c, d, e] => hexGroup a 8 ∧ hexGroup b 4 ∧ hexGroup c 4 ∧ c.head? = some '5' ∧
      hexGroup d 4 ∧ (∃ v ∈ d.head?, v ∈ ['8', '9', 'a', 'b']) ∧ hexGroup e 12
  | _ => False

instance (value : Text) : Decidable (IsNameUuid value) := by
  unfold IsNameUuid; split <;> infer_instance

/-- `validSats`: positive whole sats. -/
def PositiveSats (value : Int) : Prop := IsSafeInteger value ∧ 0 < value
  deriving Decidable

/-- `validTime`: nonnegative whole numbers. -/
def NonnegativeSafe (value : Int) : Prop := IsSafeInteger value ∧ 0 ≤ value
  deriving Decidable

/-- `restoreCheckoutSparkNativeTreasurySettlement` accepts the value. -/
def NativeTreasurySettlement.Valid (v : NativeTreasurySettlement) : Prop :=
  IsNameUuid v.invoiceId ∧ IsId v.providerTransferId 512 ∧ IsHex64 v.budget.accountingDigest ∧
  NonnegativeSafe v.budget.baseConduitAllocationSats ∧
  NonnegativeSafe v.budget.unusedCommerceReserveSats ∧
  PositiveSats v.principalSats ∧ PositiveSats v.finalDebitSats ∧
  v.principalSats = v.finalDebitSats ∧ v.finalFeeSats = 0 ∧
  v.budget.authorizedDebitSats = v.finalDebitSats ∧
  v.budget.baseConduitAllocationSats + v.budget.unusedCommerceReserveSats =
    v.budget.authorizedDebitSats ∧
  NonnegativeSafe v.observedAt
  deriving Decidable

def SettlementPaidLeg.Valid (record : MerchantSettlementRecord) (leg : SettlementPaidLeg) : Prop :=
  ¬ (record.schemaVersion ≠ 1 ∧ leg.legId = record.feeLegId) ∧
  (leg.legId = record.feeLegId ∨ leg.legId ∈ record.requiredCommerceLegIds ∨
    (record.schemaVersion = 3 ∧ some leg.legId = record.organizerLegId)) ∧
  IsId leg.transferId 512 ∧ PositiveSats leg.allocationSats ∧ PositiveSats leg.finalDebitSats ∧
  leg.finalDebitSats ≤ leg.allocationSats ∧ NonnegativeSafe leg.finalFeeSats ∧
  leg.finalFeeSats < leg.finalDebitSats ∧ NonnegativeSafe leg.observedAt
  deriving Decidable

/-- The persisted allowlist that may authorize a projection. -/
def MerchantSettlementRecord.Valid (record : MerchantSettlementRecord) : Prop :=
  (record.schemaVersion = 1 ∨ record.schemaVersion = 2 ∨ record.schemaVersion = 3) ∧
  IsHex64 record.merchantPubkey ∧ IsHex64 record.planDigest ∧ IsId record.orderId 512 ∧
  IsId record.checkoutId 512 ∧
  (match record.merchantLegId with
    | none => record.schemaVersion = 3 ∧ record.requiredCommerceLegIds = [] ∧
        record.organizerLegId ≠ none
    | some merchant => IsHex64 merchant ∧ merchant ∈ record.requiredCommerceLegIds) ∧
  (record.schemaVersion = 3 → ∀ organizer ∈ record.organizerLegId, IsHex64 organizer ∧
    organizer ≠ record.feeLegId ∧ organizer ∉ record.requiredCommerceLegIds) ∧
  IsHex64 record.feeLegId ∧ record.feeLegId ∉ record.requiredCommerceLegIds ∧
  record.requiredCommerceLegIds.Nodup ∧ (∀ id ∈ record.requiredCommerceLegIds, IsHex64 id) ∧
  record.paidLegs.length ≤ record.requiredCommerceLegIds.length + 1 ∧
  (∀ native ∈ record.nativeTreasury, record.schemaVersion ≠ 1 → native.Valid) ∧
  (∀ credit ∈ record.credit, IsId credit.transferId 512 ∧ PositiveSats credit.creditedSats ∧
    NonnegativeSafe credit.observedAt) ∧
  (∀ leg ∈ record.paidLegs, leg.Valid record) ∧
  (record.paidLegs.map SettlementPaidLeg.legId).Nodup

instance (record : MerchantSettlementRecord) : Decidable record.Valid := by
  unfold MerchantSettlementRecord.Valid
  cases record.merchantLegId <;> infer_instance

def restoreMerchantSettlementRecord (P : Platform) (record : MerchantSettlementRecord)
    (plan : SettledPlan) : Result MerchantSettlementRecord := do
  reject (¬ record.Valid) settlementInvalid
  let expected ← createMerchantSettlementRecord P plan
  reject (record.merchantPubkey ≠ expected.merchantPubkey ∨
      record.schemaVersion ≠ expected.schemaVersion ∨ record.orderId ≠ expected.orderId ∨
      record.checkoutId ≠ expected.checkoutId ∨ record.planDigest ≠ expected.planDigest ∨
      record.merchantLegId ≠ expected.merchantLegId ∨
      record.organizerLegId ≠ expected.organizerLegId ∨ record.feeLegId ≠ expected.feeLegId ∨
      record.requiredCommerceLegIds ≠ expected.requiredCommerceLegIds)
    settlementInvalid
  return record

lemma requireSome_ok {α : Type} {o : Option α} {a : α} : requireSome o = .ok a ↔ o = some a := by
  cases o <;> simp [requireSome]

end Conduit.CheckoutSpark
