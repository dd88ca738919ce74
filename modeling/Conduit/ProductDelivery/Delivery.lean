import Conduit.ProductDelivery.Leases

namespace Conduit.ProductDelivery

open Js Runs Stock Throwing Option Table Prod

def Action.Short (P : DeliveryPlatform) : Action → Prop
  | .persistDeletion input _ => ShortCanonical P input
  | _ => True

def Action.Unforced : Action → Prop
  | .claimLease _ _ forceRecovery => forceRecovery = false
  | _ => True

/-- A step of the listing side. -/
def Undisturbed (s t : Outboxes) : Prop :=
  t.clock = s.clock ∧ t.deletions = s.deletions ∧ t.deletionRuns = s.deletionRuns

section
variable {P : DeliveryPlatform} {s t : Outboxes} {a : Action} {now : Int}

lemma step_inv (hP : P.Lawful) (hs : Inv P s) (hsh : a.Short P) (h : Step P a s t) :
    Inv P t ∧ Later s t := by
  cases a with
  | persistListing => exact persistListing_inv hs h
  | persistDeletion => exact persistDeletion_inv hP hs hsh h
  | markReady => exact markReady_inv hs h
  | putShipping row =>
    cases h
    exact putShipping_inv row hs
  | putIntents intents =>
    cases h
    exact putIntents_inv intents hs
  | loadListing => exact loadListing_inv hs h
  | beginListing => exact beginListing_inv hs h
  | admitPair => exact admitPair_inv hs h
  | claimPair => exact claimPair_inv hs h
  | startPair => exact startPair_inv hs h
  | publishPair => exact publishPair_inv hs h
  | answerPair => exact answerPair_inv hs h
  | recordPair => exact recordPair_inv hs h
  | loadDeletion => exact loadDeletion_inv hs h
  | permitDeletion => exact permitDeletion_inv hs h
  | retireTargets => exact retireTargets_inv hs h
  | claimLease => exact claimLease_inv hs h
  | settleDeletion => exact settleDeletion_inv hs h
  | skipRelay => exact skipRelay_inv hs h
  | startDeletionRun => exact startDeletionRun_inv hs h
  | attemptRelay => exact attemptRelay_inv hs h
  | publishDeletion => exact publishDeletion_inv hs h
  | answerDeletion => exact answerDeletion_inv hs h
  | recordDeletion => exact recordDeletion_inv hs h
  | finishDeletion => exact finishDeletion_inv hs h

lemma updateListing_undisturbed {id : Text} {f : ListingJob → ListingJob} {next : ListingJob}
    (h : s.updateListing id f = some (next, t)) : Undisturbed s t := by
  simp only [Outboxes.updateListing, run_gives, Prod.mk.injEq] at h
  obtain ⟨j, -, -, -, rfl⟩ := h
  exact ⟨rfl, rfl, rfl⟩

lemma countRun_undisturbed {task : ListingTask} {delay : Int} {started : ListingJob}
    (h : countRun task now delay s = some (started, t)) : Undisturbed s t := by
  unfold countRun at h
  split at h
  · obtain ⟨-, rfl⟩ := mk.inj (some.inj h)
    exact ⟨rfl, rfl, rfl⟩
  · obtain ⟨⟨next, u⟩, hupd, heq⟩ := map_eq_some_iff.1 h
    obtain ⟨-, rfl⟩ := mk.inj heq
    have hu := updateListing_undisturbed hupd
    exact hu

lemma LeaseInv.undisturbed (h : LeaseInv s) (ht : Undisturbed s t) : LeaseInv t := by
  obtain ⟨hc, hr, hru⟩ := ht
  refine h.keep ⟨hc.ge, fun id row hrow => ⟨row, ?_, .refl row⟩, fun task hta a ha => ?_⟩
  · rwa [hr]
  · rw [hru] at hta
    exact .of_mem hta ha

lemma LeaseInv.persistDeletion {input : DeletionInput} (h : LeaseInv s)
    (hs : persistDeletion P input now s = some t) : LeaseInv t := by
  simp only [ProductDelivery.persistDeletion, run_gives] at hs
  obtain ⟨job, -, hn, rfl⟩ := hs
  refine h.keep ⟨le_refl _, fun id row hr => ⟨row, ?_, .refl row⟩, fun _ ht _ ha => .of_mem ht ha⟩
  refine (get_put_of_ne fun hid => ?_).trans hr
  rw [hid, hn] at hr
  cases hr

lemma lease_step (hs : Inv P s) (hl : LeaseInv s) (hf : a.Unforced) (h : Step P a s t) :
    LeaseInv t := by
  cases a with
  | persistListing input now =>
    simp only [Step, apply, persistListing, run_gives] at h
    obtain ⟨job, -, -, rfl⟩ := h
    exact hl.undisturbed ⟨rfl, rfl, rfl⟩
  | persistDeletion input now => exact hl.persistDeletion h
  | markReady id now =>
    simp only [Step, apply, markReady, run_gives] at h
    obtain ⟨⟨next, u⟩, hupd, rfl⟩ := h
    exact hl.undisturbed (updateListing_undisturbed hupd)
  | putShipping row =>
    cases h
    exact hl.undisturbed ⟨rfl, rfl, rfl⟩
  | putIntents intents =>
    cases h
    exact hl.undisturbed ⟨rfl, rfl, rfl⟩
  | loadListing run id =>
    simp only [Step, apply, loadListing, run_gives] at h
    obtain ⟨-, stored, -, -, rfl⟩ := h
    exact hl.undisturbed ⟨rfl, rfl, rfl⟩
  | beginListing task now delay =>
    simp only [Step, apply, beginListing, run_gives] at h
    obtain ⟨-, -, -, h⟩ := h
    split_ifs at h
    · obtain ⟨⟨next, u⟩, hupd, h⟩ := bind_eq_some_iff.1 h
      cases h
      have hu := updateListing_undisturbed hupd
      exact hl.undisturbed hu
    · cases h
      exact hl.undisturbed ⟨rfl, rfl, rfl⟩
  | admitPair task eventId url =>
    simp only [Step, apply, admitPair, run_gives] at h
    obtain ⟨-, -, -, rfl⟩ := h
    exact hl.undisturbed ⟨rfl, rfl, rfl⟩
  | claimPair task eventId url now =>
    simp only [Step, apply, claimPair, run_gives] at h
    obtain ⟨-, job, -, -, pair, -, -, h⟩ := h
    split_ifs at h
    all_goals
      cases h
      exact hl.undisturbed ⟨rfl, rfl, rfl⟩
  | startPair task eventId url now delay =>
    simp only [Step, apply, startPair, run_gives] at h
    obtain ⟨-, ⟨started, u⟩, hco, -, rfl⟩ := h
    have hu := countRun_undisturbed hco
    exact hl.undisturbed hu
  | publishPair task eventId url =>
    simp only [Step, apply, publishPair, run_gives] at h
    obtain ⟨-, event, -, target, -, h⟩ := h
    split_ifs at h
    all_goals
      cases h
      exact hl.undisturbed ⟨rfl, rfl, rfl⟩
  | answerPair task eventId url status =>
    simp only [Step, apply, answerPair, run_gives] at h
    obtain ⟨-, rfl⟩ := h
    exact hl.undisturbed ⟨rfl, rfl, rfl⟩
  | recordPair task eventId url status now delay =>
    simp only [Step, apply, recordPair, run_gives] at h
    obtain ⟨-, ⟨next, u⟩, hupd, rfl⟩ := h
    have hu := updateListing_undisturbed hupd
    exact hl.undisturbed hu
  | loadDeletion owner id leaseMs delay =>
    simp only [Step, apply, loadDeletion, run_gives] at h
    obtain ⟨-, stored, -, -, rfl⟩ := h
    refine hl.keep ⟨le_refl _, fun _ row hr => ⟨row, hr, .refl row⟩, fun task ht a ha => ?_⟩
    rcases mem_put.1 ht with rfl | ⟨hold, -⟩
    · cases ha
    · exact .of_mem hold ha
  | permitDeletion task stored =>
    simp only [Step, apply, permitDeletion, run_gives] at h
    obtain ⟨⟨ht, -⟩, -, -, rfl⟩ := h
    exact hl.keep (keepsLeases_of_move ht fun a ha => by cases ha)
  | retireTargets task now =>
    simp only [Step, apply, retireTargets, run_gives] at h
    obtain ⟨⟨-, -, hc⟩, ⟨next, u⟩, hupd, rfl⟩ := h
    exact hl.keep (keepsLeases_of_update hupd (fun _ _ _ => retire_keepsLease) hc rfl)
  | claimLease task now force =>
    obtain rfl : force = false := hf
    exact hl.claimLease h
  | settleDeletion task now =>
    simp only [Step, apply, settleDeletion, run_gives] at h
    obtain ⟨⟨-, -, hc⟩, ⟨next, u⟩, hupd, rfl⟩ := h
    refine hl.keep (keepsLeases_of_update hupd (fun j k _ hk => ?_) hc rfl)
    cases hk
    exact ⟨rfl, rfl⟩
  | skipRelay task url rest started =>
    simp only [Step, apply, skipRelay, run_gives] at h
    obtain ⟨⟨ht, -⟩, rfl⟩ := h
    exact hl.keep (keepsLeases_of_move ht fun a ha => by cases ha)
  | startDeletionRun task rest now =>
    simp only [Step, apply, startDeletionRun, run_gives] at h
    obtain ⟨⟨-, -, hc⟩, ⟨next, u⟩, hupd, rfl⟩ := h
    refine hl.keep (keepsLeases_of_update hupd (fun j k _ hk => ?_) hc rfl)
    cases hk
    exact (markDeletionRunStarted_write (P := P) task.owner now task.retryDelayMs j).2
  | attemptRelay task url rest now => exact hl.attemptRelay hs h
  | publishDeletion task current url rest attemptAt =>
    simp only [Step, apply, publishDeletion, run_gives] at h
    obtain ⟨⟨ht, hph⟩, -, h⟩ := h
    split_ifs at h
    · cases h
      have hm : LeaseInv (s.moveDeletion task (.answering url rest attemptAt)) :=
        hl.keep (keepsLeases_of_move ht fun a ha => by rw [hph]; exact ha)
      exact ⟨hm.held, hm.apart⟩
    · cases h
      exact hl.keep (keepsLeases_of_move ht fun a ha => by cases ha)
  | answerDeletion task url rest attemptAt status =>
    simp only [Step, apply, answerDeletion, run_gives] at h
    obtain ⟨⟨ht, -⟩, rfl⟩ := h
    refine hl.keep (keepsLeases_of_move ht fun a ha => ?_)
    cases status <;> cases ha
  | recordDeletion task url rest status now =>
    simp only [Step, apply, recordDeletion, run_gives] at h
    obtain ⟨⟨-, -, hc⟩, ⟨next, u⟩, hupd, rfl⟩ := h
    refine hl.keep (keepsLeases_of_update hupd (fun j k hj hk => ?_) hc rfl)
    cases hk
    exact (markRelayOutcome_write (P := P) url task.owner status now task.retryDelayMs j
      (hs.deletions j (mem_of_get hj)).nodup).2
  | finishDeletion task released => exact hl.finishDeletion h

end

end Conduit.ProductDelivery
