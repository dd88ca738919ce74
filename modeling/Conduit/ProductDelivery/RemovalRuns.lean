import Conduit.ProductDelivery.Runs

namespace Conduit.ProductDelivery

open Js Runs Stock Throwing Option Table

variable {P : DeliveryPlatform} {s t : Outboxes} {task : DeletionTask}

/-- Past the companion check nothing but the release of the family is kept. -/
def DeletionPhase.permits : DeletionPhase → Prop
  | .loaded _ | .attempted _ _ _ _ => False
  | _ => True

lemma DeletionTaskOk.released (h : DeletionTaskOk s task) (hph : ∀ j, task.phase ≠ .loaded j) :
    ∃ row ∈ s.deletions.rows, row.id = task.id ∧ Released s s.log row := by
  obtain ⟨row, hr, hid, hok⟩ := h
  refine ⟨row, hr, hid, ?_⟩
  cases hp : task.phase with
  | loaded j => exact absurd hp (hph j)
  | attempted current url rest attemptAt =>
    rw [hp] at hok
    exact hok.2
  | _ =>
    rw [hp] at hok
    exact hok

variable {phase : DeletionPhase} {stored : DeletionJob} {attemptAt : Int} {id : Text}

lemma DeletionTaskOk.of_released (hph : phase.permits)
    (h : ∃ row ∈ s.deletions.rows, row.id = task.id ∧ Released s s.log row) :
    DeletionTaskOk s { task with phase := phase } := by
  obtain ⟨row, hr, hid, hrel⟩ := h
  refine ⟨row, hr, hid, ?_⟩
  cases phase with
  | loaded _ | attempted _ _ _ _ => exact hph.elim
  | _ => exact hrel

lemma DeletionTaskOk.goOn (h : DeletionTaskOk s task) (hl : Later s t)
    (hb : ∀ j, task.phase ≠ .loaded j) (ha : phase.permits) :
    DeletionTaskOk t { task with phase := phase } := by
  obtain ⟨row, hr, hid, hrel⟩ := h.released hb
  obtain ⟨k, hk, hg⟩ := hl.deletions row hr
  exact .of_released ha ⟨k, hk, hg.id.trans hid, hrel.later hl hg hl.log⟩

section

variable (hs : Inv P s)
include hs

lemma loadDeletion_inv {owner : Text} {leaseMs delay : Int}
    (h : loadDeletion owner id leaseMs delay s = some t) : Inv P t ∧ Later s t := by
  simp only [loadDeletion, run_gives] at h
  obtain ⟨-, stored, hsto, -, rfl⟩ := h
  refine ⟨hs.setDeletionRuns fun other ho => ?_, .of_eq rfl rfl rfl⟩
  rcases mem_put.1 ho with rfl | ⟨hold, -⟩
  · exact ⟨stored, mem_of_get hsto, key_of_get hsto, .refl stored⟩
  · exact hs.deletionRuns other hold

lemma familyAcked_of_delivered (hid : stored.companionListingJobId = some id)
    (h : IsDeliveredCompanionListingForDeletion P (s.listings.get id) stored) :
    FamilyAcked s s.log id := by
  obtain ⟨l, hl, hcom, -, -, -, -, -, hne, -, -, -, -, hc⟩ := h
  have hlid : l.id = id := some.inj (hcom.symm.trans hid)
  have hr := mem_of_get hl
  obtain ⟨-, target, ht, hall⟩ := hc
  refine ⟨l, hr, hlid, hne, target, ht, fun event hev => ?_⟩
  obtain ⟨d, hd, hev', hu, ha⟩ := hall event hev
  have hlog := hs.acks l hr d hd ha
  rwa [hlid, hev', hu] at hlog

lemma permitDeletion_inv (h : permitDeletion P task stored s = some t) : Inv P t ∧ Later s t := by
  simp only [permitDeletion, run_gives] at h
  obtain ⟨⟨ht, hph⟩, hc, -, rfl⟩ := h
  obtain ⟨row, hr, hid, hg⟩ := hs.deletionRuns task ht
  rw [hph] at hg
  refine ⟨hs.moveDeletion (.of_released trivial ⟨row, hr, hid, fun listingId hl => ?_⟩),
    .of_eq rfl rfl rfl⟩
  rw [hg.companion] at hl
  exact familyAcked_of_delivered hs hl (hc listingId hl)

lemma Inv.writeDeletion {f : DeletionJob → Result DeletionJob} {next : DeletionJob}
    (phase : DeletionPhase) (hta : task ∈ s.deletionRuns.rows)
    (hb : ∀ j, task.phase ≠ .loaded j) (ha : phase.permits)
    (hu : s.updateDeletion task.id f = some (next, t))
    (hf : ∀ j k, DeletionOk P j → f j = .ok k → DeletionWrite P j k) :
    Inv P (t.moveDeletion task phase) ∧ Later s (t.moveDeletion task phase) := by
  obtain ⟨ht, hl, -⟩ := hs.updateDeletion hu hf
  exact ⟨ht.moveDeletion ((hs.deletionRuns task hta).goOn hl hb ha), hl.trans (.of_eq rfl rfl rfl)⟩

lemma Inv.moveOn (phase : DeletionPhase) (ht : task ∈ s.deletionRuns.rows)
    (hb : ∀ j, task.phase ≠ .loaded j) (ha : phase.permits) :
    Inv P (s.moveDeletion task phase) ∧ Later s (s.moveDeletion task phase) :=
  ⟨hs.moveDeletion ((hs.deletionRuns task ht).goOn (.refl s) hb ha), .of_eq rfl rfl rfl⟩

end

lemma Inv.andClock (h : Inv P t ∧ Later s t) (now : Int) :
    Inv P { t with clock := now } ∧ Later s { t with clock := now } :=
  ⟨h.1.setClock now, h.2.trans (.of_eq rfl rfl rfl)⟩

variable {rest : List Text} {now : Int} {url : Text}

section

variable (hs : Inv P s)
include hs

lemma retireTargets_inv (h : retireTargets P task now s = some t) : Inv P t ∧ Later s t := by
  simp only [retireTargets, run_gives] at h
  obtain ⟨⟨ht, hph, -⟩, ⟨next, u⟩, hu, rfl⟩ := h
  refine Inv.andClock (hs.writeDeletion .retired ht (by simp [hph]) trivial hu ?_) now
  intro j k hok hr
  rw [hok.retire now task.retryDelayMs] at hr
  cases hr
  exact .refl j

lemma claimLease_inv {force : Bool} (h : claimLease P task now force s = some t) :
    Inv P t ∧ Later s t := by
  simp only [claimLease, run_gives] at h
  obtain ⟨⟨ht, hph, -⟩, ⟨claimed, u⟩, hupd, h⟩ := h
  have hw : ∀ j k, DeletionOk P j → (.ok (claimDeliveryLease task.owner now task.leaseMs force
      j) : Result DeletionJob) = .ok k → DeletionWrite P j k := by
    rintro j k - heq
    cases heq
    exact claimDeliveryLease_write task.owner now task.leaseMs force j
  obtain ⟨hu, hl, -⟩ := hs.updateDeletion hupd hw
  obtain ⟨hc, hlat⟩ := Inv.andClock ⟨hu, hl⟩ now
  split_ifs at h with hstop
  · cases h
    exact ⟨hc.endDeletion task, hlat.trans (.of_eq rfl rfl rfl)⟩
  all_goals
    cases h
    refine ⟨hc.moveDeletion ((hs.deletionRuns task ht).goOn hlat
      (by simp [hph]) trivial), hlat.trans (.of_eq rfl rfl rfl)⟩

lemma settleDeletion_inv (h : settleDeletion task now s = some t) : Inv P t ∧ Later s t := by
  simp only [settleDeletion, run_gives] at h
  obtain ⟨⟨ht, hph, -⟩, ⟨next, u⟩, hu, rfl⟩ := h
  refine Inv.andClock (hs.writeDeletion (.running [] true) ht (by simp [hph]) trivial hu ?_) now
  rintro j k - heq
  cases heq
  exact reconcileDeletion_write now task.retryDelayMs j

lemma skipRelay_inv {started : Bool} (h : skipRelay task url rest started s = some t) :
    Inv P t ∧ Later s t := by
  simp only [skipRelay, run_gives] at h
  obtain ⟨⟨ht, hph⟩, rfl⟩ := h
  exact hs.moveOn (.running rest started) ht (by simp [hph]) trivial

lemma startDeletionRun_inv (h : startDeletionRun task rest now s = some t) :
    Inv P t ∧ Later s t := by
  simp only [startDeletionRun, run_gives] at h
  obtain ⟨⟨ht, hph, -⟩, ⟨next, u⟩, hu, rfl⟩ := h
  refine Inv.andClock (hs.writeDeletion (.running rest true) ht (by simp [hph]) trivial hu ?_) now
  rintro j k - heq
  cases heq
  exact (markDeletionRunStarted_write task.owner now task.retryDelayMs j).1

lemma attemptRelay_inv (h : attemptRelay task url rest now s = some t) : Inv P t ∧ Later s t := by
  simp only [attemptRelay, run_gives] at h
  obtain ⟨⟨ht, hph, -⟩, ⟨current, u⟩, hupd, h⟩ := h
  have hw : ∀ j k, DeletionOk P j → (.ok (markRelayAttemptStarted url task.owner now
      task.leaseMs j) : Result DeletionJob) = .ok k → DeletionWrite P j k := by
    rintro j k - heq
    cases heq
    exact markRelayAttemptStarted_write url task.owner now task.leaseMs j
  obtain ⟨hu, hla, j, hj, -, hgrw, hcur, hid⟩ := hs.updateDeletion hupd hw
  obtain ⟨hc, hl⟩ := Inv.andClock ⟨hu, hla⟩ now
  have htas := hs.deletionRuns task ht
  split_ifs at h with hstop
  · cases h
    exact ⟨hc.moveDeletion (htas.goOn hl (by simp [hph]) trivial), hl.trans (.of_eq rfl rfl rfl)⟩
  · cases h
    obtain ⟨row, hrow, hr, hrel⟩ := htas.released (by simp [hph])
    have hsa : row = j := by
      have hg := get_of_mem hrow
      rw [hr, hj] at hg
      exact (some.inj hg).symm
    subst hsa
    refine ⟨hc.moveDeletion ⟨current, hcur, hid, .refl current, ?_⟩, hl.trans (.of_eq rfl rfl rfl)⟩
    exact hrel.later hl hgrw hl.log

lemma publishDeletion_inv {current : DeletionJob}
    (h : publishDeletion P task current url rest attemptAt s = some t) : Inv P t ∧ Later s t := by
  simp only [publishDeletion, run_gives] at h
  obtain ⟨⟨ht, hph⟩, -, h⟩ := h
  have hb : ∀ j, task.phase ≠ .loaded j := by simp [hph]
  split_ifs at h with htgt
  · cases h
    obtain ⟨row, hr, hid, hok⟩ := hs.deletionRuns task ht
    rw [hph] at hok
    obtain ⟨hg, hrel⟩ := hok
    obtain ⟨target, hf, -⟩ := htgt
    refine ⟨(hs.moveOn (.answering url rest attemptAt) ht hb trivial).1.log_cons
      ⟨row, hr, hid, hg.signedEvent.symm, ⟨target, ?_, ?_⟩, hrel⟩,
      ⟨fun j hj => ⟨j, hj, .refl j⟩, fun j hj => ⟨j, hj, .refl j⟩,
        fun _ he => .tail _ he⟩⟩
    · rw [hg.relayPlan]
      exact List.mem_of_find?_eq_some hf
    · exact of_decide_eq_true
        (List.find?_some (p := fun x : DeletionTarget => decide (x.relayUrl = url)) hf)
  · cases h
    exact hs.moveOn (.recording url rest .rejected) ht hb trivial

lemma answerDeletion_inv {status : Option DeletionStatus}
    (h : answerDeletion task url rest attemptAt status s = some t) : Inv P t ∧ Later s t := by
  simp only [answerDeletion, run_gives] at h
  obtain ⟨⟨ht, hph, -⟩, rfl⟩ := h
  have hb : ∀ j, task.phase ≠ .loaded j := by simp [hph]
  cases status with
  | none => exact hs.moveOn (.running rest true) ht hb trivial
  | some status => exact hs.moveOn (.recording url rest status) ht hb trivial

lemma recordDeletion_inv {status : DeletionStatus}
    (h : recordDeletion task url rest status now s = some t) : Inv P t ∧ Later s t := by
  simp only [recordDeletion, run_gives] at h
  obtain ⟨⟨ht, hph, -⟩, ⟨next, u⟩, hu, rfl⟩ := h
  refine Inv.andClock (hs.writeDeletion (.running rest true) ht (by simp [hph]) trivial hu ?_) now
  intro j k hok heq
  cases heq
  exact (markRelayOutcome_write url task.owner status now task.retryDelayMs j hok.nodup).1

lemma finishDeletion_inv {released : Bool} (h : finishDeletion task released s = some t) :
    Inv P t ∧ Later s t := by
  simp only [finishDeletion, run_gives] at h
  obtain ⟨-, h⟩ := h
  split_ifs at h
  · obtain ⟨⟨next, u⟩, hupd, h⟩ := bind_eq_some_iff.1 h
    cases h
    obtain ⟨hu, hl, -⟩ := hs.updateDeletion hupd (by
      rintro j k - heq
      cases heq
      exact releaseDeliveryLease_write task.owner j)
    exact ⟨hu.endDeletion task, hl.trans (.of_eq rfl rfl rfl)⟩
  · cases h
    exact ⟨hs.endDeletion task, .of_eq rfl rfl rfl⟩

end

end Conduit.ProductDelivery
