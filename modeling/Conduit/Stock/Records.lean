import Conduit.Platform
import Conduit.Table

namespace Conduit.Stock

open Js Throwing Option

def maxStock : Int := 2147483647

structure SignedEvent where
  (id pubkey : Text)
  (createdAt kind : Int)
  tags : List (List Text)
  (content sig : Text)
  deriving DecidableEq

inductive Method where
  | ordinary
  | pickup
  | shipping
  | digital
  deriving DecidableEq

inductive Inventory where
  | tracked (quantity : Int)
  | untracked
  deriving DecidableEq

def Inventory.IsTracked : Inventory → Prop
  | .tracked _ => True
  | .untracked => False

instance (i : Inventory) : Decidable i.IsTracked := by
  unfold Inventory.IsTracked; split <;> infer_instance

def Inventory.quantity : Inventory → Int
  | .tracked quantity => quantity
  | .untracked => 0

inductive AssignmentState where
  | active
  | removed
  deriving DecidableEq

/-- Private advance handover. -/
structure OrganizerStockHold where
  (poolId organizerPubkey : Text)
  (quantity importedQuantity : Int)
  closed : Bool
  deriving DecidableEq

structure AssignmentSnapshot where
  state : AssignmentState
  inventory : Inventory
  fulfillmentMethods : List Method
  organizerStockHold : Option OrganizerStockHold
  deriving DecidableEq

inductive JobState where
  | awaitingSignature
  | signed
  | delivered
  | superseded
  deriving DecidableEq

structure PublicationJob where
  id : Text
  state : JobState
  (revision createdAt : Int)
  productStock : Option Int
  assignmentSnapshot : Option AssignmentSnapshot
  deriving DecidableEq

structure Product where
  (coordinate merchantPubkey : Text)
  /-- Absent means genuinely untracked, never zero or infinity. -/
  stock : Option Int
  revision : Int
  (sourceProductEvent signedProductEvent : SignedEvent)
  publicationJobs : List PublicationJob
  deriving DecidableEq

structure Assignment where
  (coordinate merchantPubkey productCoordinate marketCoordinate occurrenceCoordinate : Text)
  inventory : Inventory
  state : AssignmentState
  fulfillmentMethods : List Method
  occurrenceEndMs : Int
  terminal : Bool
  organizerStockHold : Option OrganizerStockHold
  revision : Int
  signedAssignmentEventId : Option Text
  publicationJobs : List PublicationJob
  deriving DecidableEq

def job (id : Text) (revision createdAt : Int) : PublicationJob where
  id := id
  state := .awaitingSignature
  revision := revision
  createdAt := createdAt
  productStock := none
  assignmentSnapshot := none

variable (a : Assignment)

def Assignment.snapshot : AssignmentSnapshot where
  state := a.state
  inventory := a.inventory
  fulfillmentMethods := a.fulfillmentMethods
  organizerStockHold := a.organizerStockHold

def requireStock (value : Int) (name : String) : Result Unit :=
  reject (value < 0 ∨ value > maxStock) (.error ("Invalid " ++ name))

def OrganizerStockHold.WellFormed (hold : OrganizerStockHold) : Prop :=
  trim hold.poolId ≠ [] ∧ IsHex64 hold.organizerPubkey ∧ 1 ≤ hold.quantity ∧
    hold.quantity ≤ maxStock ∧ 0 ≤ hold.importedQuantity ∧ hold.importedQuantity ≤ hold.quantity
  deriving Decidable

def OrganizerStockHold.outstanding (hold : OrganizerStockHold) : Int :=
  if hold.closed then 0 else hold.quantity - hold.importedQuantity

def outstandingOrganizerStockHold (assignment : Assignment) : Result Int :=
  match assignment.organizerStockHold with
  | none => .ok 0
  | some hold => do
    reject (¬ hold.WellFormed) (.error "Organizer stock hold requires reconciliation")
    reject (hold.outstanding > 0 ∧ ¬ assignment.inventory.IsTracked)
      (.error "Organizer stock hold requires tracked inventory")
    return hold.outstanding

def Assignment.liveAllocation (nowMs : Int) : Int :=
  if a.state = .active ∧ a.terminal = false ∧ nowMs < a.occurrenceEndMs ∧ a.inventory.IsTracked then
    a.inventory.quantity
  else 0

def effectiveAllocation (assignment : Assignment) (nowMs : Int) : Result Int := do
  let hold ← outstandingOrganizerStockHold assignment
  return max (assignment.liveAllocation nowMs) hold

/-- `assignments.reduce((sum, a) => sum + effectiveAllocation(a, nowMs), 0)`. -/
def reservedAllocation (assignments : List Assignment) (nowMs : Int) : Result Int := do
  let allocations ← mapResult (fun a => effectiveAllocation a nowMs) assignments
  return allocations.sum

def Assignment.held : Int :=
  (a.organizerStockHold.map (·.outstanding)).getD 0

def Assignment.effective (nowMs : Int) : Int :=
  max (a.liveAllocation nowMs) a.held

def Assignment.HoldInOrder : Prop :=
  ∀ hold ∈ a.organizerStockHold, hold.WellFormed ∧ (0 < hold.outstanding → a.inventory.IsTracked)

section
variable {a : Assignment} {nowMs : Int}

lemma outstandingOrganizerStockHold_ok {held : Int} :
    outstandingOrganizerStockHold a = .ok held ↔ a.HoldInOrder ∧ held = a.held := by
  unfold outstandingOrganizerStockHold Assignment.HoldInOrder Assignment.held
  cases a.organizerStockHold with
  | none => simp [eq_comm]
  | some hold =>
    simp only [rejects_ok, pure_ok, not_not, not_and, mem_some_iff, forall_eq',
      map_some, getD_some, and_assoc, gt_iff_lt, @eq_comm _ held]

lemma effectiveAllocation_ok {alloc : Int} : effectiveAllocation a nowMs = .ok alloc ↔
      a.HoldInOrder ∧ alloc = a.effective nowMs := by
  simp only [effectiveAllocation, bind_ok, outstandingOrganizerStockHold_ok, pure_ok]
  constructor
  · rintro ⟨held, ⟨ho, rfl⟩, rfl⟩
    exact ⟨ho, rfl⟩
  · rintro ⟨ho, rfl⟩
    exact ⟨_, ⟨ho, rfl⟩, rfl⟩

lemma reservedAllocation_ok {l : List Assignment} {reserved : Int} :
    reservedAllocation l nowMs = .ok reserved ↔
      (∀ a ∈ l, a.HoldInOrder) ∧ reserved = (l.map fun a => a.effective nowMs).sum := by
  simp only [reservedAllocation, run_ok]
  constructor
  · rintro ⟨allocations, h, rfl⟩
    refine ⟨fun a ha => ?_, ?_⟩
    · obtain ⟨i, hi, rfl⟩ := List.getElem_of_mem ha
      have hl := mapResult_length h
      exact (effectiveAllocation_ok.1 ((mapResult_eq_ok_getElem?.1 h).2 i _ _
        (List.getElem?_eq_getElem hi) (List.getElem?_eq_getElem (hl.symm ▸ hi)))).1
    · have hm := mapResult_map (g := fun n => n) (k := fun a => a.effective nowMs)
        (fun a n hn => (effectiveAllocation_ok.1 hn).2) h
      rw [← hm, List.map_id']
  · rintro ⟨ho, rfl⟩
    exact ⟨_, mapResult_of_ok fun a ha => effectiveAllocation_ok.2 ⟨ho a ha, rfl⟩, rfl⟩

lemma HoldInOrder.held_nonneg (h : a.HoldInOrder) : 0 ≤ a.held := by
  unfold Assignment.held
  cases hh : a.organizerStockHold with
  | none => simp
  | some hold =>
    obtain ⟨⟨-, -, -, -, -, hle⟩, -⟩ := h hold hh
    simp only [map_some, getD_some, OrganizerStockHold.outstanding]
    split <;> omega

lemma effective_antitone {later : Int} (ho : a.HoldInOrder) (h : nowMs ≤ later) :
    a.effective later ≤ a.effective nowMs := by
  have hh := HoldInOrder.held_nonneg ho
  unfold Assignment.effective Assignment.liveAllocation
  split_ifs with h₁ h₂
  · exact le_refl _
  · exact absurd ⟨h₁.1, h₁.2.1, lt_of_le_of_lt h h₁.2.2.1, h₁.2.2.2⟩ h₂
  · exact max_le (le_max_of_le_right hh) (le_max_right _ _)
  · exact le_refl _

end

end Conduit.Stock
