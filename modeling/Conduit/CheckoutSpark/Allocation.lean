import Conduit.Platform
import Mathlib.Tactic.Linarith

namespace Conduit.CheckoutSpark

open Js Throwing

inductive ConduitDestinationPolicy where
  | production
  | localRouterCanary
  deriving DecidableEq

def conduitFeeRecipient : ConduitDestinationPolicy → Text
  | .production => "conduithodlings@strike.me"
  | .localRouterCanary => "conduit-tester@rizful.com"

def currentConduitFeePolicy : Text := "percentage-only-v1"

def normalizePositiveSats (value : Int) (label : String) : Result Int := do
  reject (¬ IsSafeInteger value ∨ value ≤ 0) (.error ("Checkout Spark " ++ label ++ " is invalid."))
  return value

def safeNumber (value : Int) (label : String) : Result Int := do
  reject (value > maxSafeInteger) (.error ("Checkout Spark " ++ label ++ " is unsafe."))
  return value

variable (commerceTotalSats : Int)

/-- 2.1% of the authorized commerce base, rounded up. -/
def calculateConduitCheckoutFeeSats (conduitFeePolicy : Option Text) : Result Int := do
  reject (conduitFeePolicy ≠ none ∧ conduitFeePolicy ≠ some currentConduitFeePolicy)
    (.error "Checkout Spark Conduit fee policy is invalid.")
  if conduitFeePolicy ≠ none ∧ commerceTotalSats = 0 then
    return 0
  let commerceTotal ← normalizePositiveSats commerceTotalSats "commerce total"
  let percentageFee := (commerceTotal * 21 + 1000 - 1) / 1000
  safeNumber (if conduitFeePolicy ≠ none ∨ percentageFee > 111 then percentageFee else 111)
    "Conduit fee"

/-- The frozen weights; `organizerWeightSats` is zero outside event plans. -/
structure AllocationWeights where
  (commerceWeightSats conduitWeightSats organizerWeightSats : Int)

structure SettledAllocation where
  (commerceAllocationSats conduitAllocationSats organizerAllocationSats : Int)

def calculateEventAllocationWeights (commerceTotalSats organizerFeeSats : Int)
    (conduitFeePolicy : Option Text) : Result AllocationWeights := do
  reject (¬ IsSafeInteger commerceTotalSats ∨ commerceTotalSats < 0 ∨
      ¬ IsSafeInteger organizerFeeSats ∨ organizerFeeSats < 0 ∨
      (commerceTotalSats = 0 ∧ organizerFeeSats = 0))
    (.error "Checkout Spark event allocation weights are invalid.")
  let conduitWeightSats ← calculateConduitCheckoutFeeSats
    (if conduitFeePolicy = none ∧ commerceTotalSats = 0 then 1 else commerceTotalSats)
    conduitFeePolicy
  reject (commerceTotalSats + organizerFeeSats + conduitWeightSats > maxSafeInteger)
    (.error "Checkout Spark event allocation weights are unsafe.")
  return {
    commerceWeightSats := commerceTotalSats
    conduitWeightSats := conduitWeightSats
    organizerWeightSats := organizerFeeSats }

def calculateAllocationWeights (conduitFeePolicy : Option Text) : Result AllocationWeights := do
  reject (¬ IsSafeInteger commerceTotalSats ∨ commerceTotalSats ≤ 0)
    (.error "Checkout Spark allocation weights are invalid.")
  let conduitWeightSats ← calculateConduitCheckoutFeeSats commerceTotalSats conduitFeePolicy
  reject (commerceTotalSats + conduitWeightSats > maxSafeInteger)
    (.error "Checkout Spark allocation weights are unsafe.")
  return {
    commerceWeightSats := commerceTotalSats
    conduitWeightSats := conduitWeightSats
    organizerWeightSats := 0 }

/-- 0.15% of the authorized commerce, rounded up. -/
def calculateInboundNetworkAllowanceSats : Result Int := do
  reject (¬ IsSafeInteger commerceTotalSats ∨ commerceTotalSats ≤ 0)
    (.error "Checkout Spark inbound allowance base is invalid.")
  return (commerceTotalSats * 15 + 10000 - 1) / 10000

def calculateSettledGrossFundingSats (conduitFeePolicy : Option Text) : Result Int := do
  let weights ← calculateAllocationWeights commerceTotalSats conduitFeePolicy
  let allowance ← calculateInboundNetworkAllowanceSats commerceTotalSats
  let gross := weights.commerceWeightSats + weights.conduitWeightSats + allowance
  reject (gross * 1000 > maxSafeInteger) (.error "Checkout Spark gross funding is unsafe.")
  return gross

def calculateEventSettledGrossFundingSats (commerceTotalSats organizerFeeSats : Int)
    (conduitFeePolicy : Option Text) : Result Int := do
  let weights ← calculateEventAllocationWeights commerceTotalSats organizerFeeSats conduitFeePolicy
  let allowanceBase := commerceTotalSats + organizerFeeSats
  let allowance ← calculateInboundNetworkAllowanceSats allowanceBase
  let gross := allowanceBase + weights.conduitWeightSats + allowance
  reject (gross * 1000 > maxSafeInteger) (.error "Checkout Spark event gross funding is unsafe.")
  return gross

/-- Floor Conduit's proportional share and give the whole-sat remainder to commerce. -/
def allocateSettledSats (settledSats fundingInvoiceGrossSats : Int) (weights : AllocationWeights)
    (conduitFeePolicy : Option Text) : Result SettledAllocation := do
  reject (¬ IsSafeInteger settledSats ∨ settledSats ≤ 0 ∨
      ¬ IsSafeInteger fundingInvoiceGrossSats ∨ fundingInvoiceGrossSats ≤ 0 ∨
      settledSats > fundingInvoiceGrossSats)
    (.error "Checkout Spark settled amount is invalid.")
  reject (¬ IsSafeInteger weights.commerceWeightSats ∨ weights.commerceWeightSats ≤ 0 ∨
      ¬ IsSafeInteger weights.conduitWeightSats)
    (.error "Checkout Spark allocation weights are invalid.")
  let expected ← calculateConduitCheckoutFeeSats weights.commerceWeightSats conduitFeePolicy
  reject (weights.conduitWeightSats ≠ expected)
    (.error "Checkout Spark allocation weights are invalid.")
  let totalWeight := weights.commerceWeightSats + weights.conduitWeightSats
  reject (totalWeight > maxSafeInteger) (.error "Checkout Spark allocation weights are unsafe.")
  reject (fundingInvoiceGrossSats < totalWeight)
    (.error "Checkout Spark funding invoice is below frozen weights.")
  let conduitAllocationSats := settledSats * weights.conduitWeightSats / totalWeight
  return {
    commerceAllocationSats := settledSats - conduitAllocationSats
    conduitAllocationSats := conduitAllocationSats
    organizerAllocationSats := 0 }

/-- The signed organizer budget is exact. -/
def allocateEventSettledSats (settledSats fundingInvoiceGrossSats : Int)
    (weights : AllocationWeights) (conduitFeePolicy : Option Text) : Result SettledAllocation := do
  let expected ← calculateEventAllocationWeights weights.commerceWeightSats
    weights.organizerWeightSats conduitFeePolicy
  reject (expected.conduitWeightSats ≠ weights.conduitWeightSats ∨
      ¬ IsSafeInteger settledSats ∨ ¬ IsSafeInteger fundingInvoiceGrossSats ∨
      settledSats > fundingInvoiceGrossSats ∨
      settledSats < expected.commerceWeightSats + expected.conduitWeightSats +
        expected.organizerWeightSats)
    (.error "Checkout Spark event credit does not cover frozen obligations.")
  let gross ← calculateEventSettledGrossFundingSats expected.commerceWeightSats
    expected.organizerWeightSats conduitFeePolicy
  reject (fundingInvoiceGrossSats ≠ gross)
    (.error "Checkout Spark event credit does not cover frozen obligations.")
  let remaining := settledSats - weights.organizerWeightSats
  let divided ←
    if weights.commerceWeightSats = 0 then
      .ok { commerceAllocationSats := 0
            conduitAllocationSats := remaining
            organizerAllocationSats := 0 }
    else
      allocateSettledSats remaining (fundingInvoiceGrossSats - weights.organizerWeightSats)
        weights conduitFeePolicy
  return { divided with organizerAllocationSats := weights.organizerWeightSats }

variable {policy : Option Text} {w : AllocationWeights} {a : SettledAllocation} {total : Int}

lemma conduitCheckoutFee_nonneg {fee : Int}
    (h : calculateConduitCheckoutFeeSats total policy = .ok fee) : 0 ≤ fee := by
  simp only [calculateConduitCheckoutFeeSats, rejects_ok] at h
  obtain ⟨-, h⟩ := h
  split at h
  · simp only [pure_ok] at h
    omega
  · simp only [normalizePositiveSats, safeNumber, run_ok] at h
    obtain ⟨commerceTotal, ⟨hpos, rfl⟩, -, rfl⟩ := h
    split <;> omega

lemma allocationWeights_eq (h : calculateAllocationWeights total policy = .ok w) :
    0 < total ∧ w.commerceWeightSats = total ∧ 0 ≤ w.conduitWeightSats ∧
      w.organizerWeightSats = 0 := by
  simp only [calculateAllocationWeights, run_ok] at h
  obtain ⟨hpos, fee, hf, -, rfl⟩ := h
  have := conduitCheckoutFee_nonneg hf
  exact ⟨by omega, rfl, this, rfl⟩

lemma eventAllocationWeights_eq {organizer : Int}
    (h : calculateEventAllocationWeights total organizer policy = .ok w) :
    0 ≤ total ∧ 0 ≤ organizer ∧ w.commerceWeightSats = total ∧ 0 ≤ w.conduitWeightSats ∧
      w.organizerWeightSats = organizer := by
  simp only [calculateEventAllocationWeights, run_ok] at h
  obtain ⟨hpos, fee, hf, -, rfl⟩ := h
  have := conduitCheckoutFee_nonneg hf
  exact ⟨by omega, by omega, rfl, this, rfl⟩

structure Divides (settledSats : Int) (a : SettledAllocation) : Prop where
  commerce : 0 ≤ a.commerceAllocationSats
  conduit : 0 ≤ a.conduitAllocationSats
  organizer : 0 ≤ a.organizerAllocationSats
  total : a.commerceAllocationSats + a.conduitAllocationSats + a.organizerAllocationSats =
    settledSats

lemma allocateSettledSats_divides {settled gross : Int}
    (h : allocateSettledSats settled gross w policy = .ok a) :
    Divides settled a ∧ a.organizerAllocationSats = 0 := by
  simp only [allocateSettledSats, run_ok] at h
  obtain ⟨hset, hweig, fee, hf, heq, -, -, rfl⟩ := h
  have hf0 := conduitCheckoutFee_nonneg hf
  have hw : 0 ≤ w.conduitWeightSats := by
    omega
  have hs : 0 ≤ settled := by omega
  have ht : 0 < w.commerceWeightSats + w.conduitWeightSats := by omega
  have hl : 0 ≤ settled * w.conduitWeightSats / (w.commerceWeightSats + w.conduitWeightSats) :=
    Int.ediv_nonneg (Int.mul_nonneg hs hw) ht.le
  have hhigh : settled * w.conduitWeightSats / (w.commerceWeightSats + w.conduitWeightSats) ≤
      settled := by
    apply Int.ediv_le_of_le_mul ht
    exact mul_le_mul_of_nonneg_left (by omega) hs
  exact ⟨⟨by dsimp only; omega, hl, le_refl _, by dsimp only; omega⟩, rfl⟩

lemma allocateEventSettledSats_divides {settled gross : Int}
    (h : allocateEventSettledSats settled gross w policy = .ok a) :
    Divides settled a ∧ a.organizerAllocationSats = w.organizerWeightSats ∧
      (w.commerceWeightSats = 0 → a.commerceAllocationSats = 0) := by
  simp only [allocateEventSettledSats, run_ok] at h
  obtain ⟨expected, he, hcover, -, -, -, h⟩ := h
  obtain ⟨hc, ho, hec, hef, heo⟩ := eventAllocationWeights_eq he
  split at h
  · rename_i hzero
    cases h
    exact ⟨⟨le_refl _, by dsimp only; omega, ho, by dsimp only; omega⟩, rfl, fun _ => rfl⟩
  · rename_i hne
    simp only [run_ok] at h
    obtain ⟨divided, hd, rfl⟩ := h
    obtain ⟨⟨h₁, h₂, -, h₄⟩, h₅⟩ := allocateSettledSats_divides hd
    exact ⟨⟨h₁, h₂, ho, by dsimp only; omega⟩, rfl, fun hz => absurd hz hne⟩

end Conduit.CheckoutSpark
