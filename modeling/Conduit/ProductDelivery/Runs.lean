import Conduit.ProductDelivery.Steps

namespace Conduit.ProductDelivery

open Js Runs Stock Throwing List Table Option

variable {P : DeliveryPlatform} {s t : Outboxes}
  {status : ListingStatus} {now : Int} {relayUrl id : Text} {eligible : List Text}

lemma persistListing_inv {input : ListingInput} (hs : Inv P s)
    (h : persistListing P input now s = some t) : Inv P t ∧ Later s t := by
  simp only [persistListing, run_gives] at h
  obtain ⟨job, hjob, hnew, rfl⟩ := h
  have hp : prepareProductListingDeliveryJob P input now = .ok job := by
    cases hok : prepareProductListingDeliveryJob P input now with
    | error e => rw [hok] at hjob; cases hjob
    | ok k => rw [hok] at hjob; exact congrArg Except.ok (some.inj hjob)
  obtain ⟨hok, hn⟩ := prepared_listingOk hp
  have hl : Later s { s with listings := s.listings.put job } := by
    refine ⟨fun j hj => ⟨j, mem_put.2 (.inr ⟨hj, ?_⟩), .refl j⟩,
      fun j hj => ⟨j, hj, .refl j⟩, fun _ he => he⟩
    exact get_eq_none.1 hnew j hj
  refine ⟨⟨fun j hj => ?_, fun j hj d hd ha => ?_, hs.deletions, hs.shipping,
    fun task ht => (hs.listingRuns task ht).later hl,
    fun task ht => (hs.deletionRuns task ht).later hl, hs.log.later hl⟩, hl⟩
  · rcases mem_put.1 hj with rfl | ⟨hold, -⟩
    · exact hok
    · exact hs.listings j hold
  · rcases mem_put.1 hj with rfl | ⟨hold, -⟩
    · exact absurd ha (hn d hd)
    · exact hs.acks j hold d hd ha

lemma persistDeletion_inv {input : DeletionInput} (hP : P.Lawful) (hs : Inv P s)
    (hsh : ShortCanonical P input) (h : persistDeletion P input now s = some t) :
    Inv P t ∧ Later s t := by
  simp only [persistDeletion, run_gives] at h
  obtain ⟨job, hjob, hn, rfl⟩ := h
  have hp : prepareProductDeletionDeliveryJob P input now = .ok job := by
    cases hok : prepareProductDeletionDeliveryJob P input now with
    | error e => rw [hok] at hjob; cases hjob
    | ok k => rw [hok] at hjob; exact congrArg Except.ok (some.inj hjob)
  have hl : Later s { s with deletions := s.deletions.put job } := by
    refine ⟨fun j hj => ⟨j, hj, .refl j⟩,
      fun j hj => ⟨j, mem_put.2 (.inr ⟨hj, ?_⟩), .refl j⟩, fun _ he => he⟩
    exact get_eq_none.1 hn j hj
  refine ⟨⟨hs.listings, hs.acks, fun j hj => ?_, hs.shipping,
    fun task ht => (hs.listingRuns task ht).later hl,
    fun task ht => (hs.deletionRuns task ht).later hl, hs.log.later hl⟩, hl⟩
  rcases mem_put.1 hj with rfl | ⟨hold, -⟩
  · exact prepared_deletionOk hP hsh hp
  · exact hs.deletions j hold

lemma markReady_inv (hs : Inv P s) (h : markReady id now s = some t) : Inv P t ∧ Later s t := by
  simp only [markReady, run_gives] at h
  obtain ⟨⟨next, u⟩, hu, rfl⟩ := h
  exact hs.updateListing hu fun j => markReady_write now j

lemma putShipping_inv (row : ShippingRow) (hs : Inv P s) :
    Inv P (putShipping row s) ∧ Later s (putShipping row s) := by
  have hl : Later s (putShipping row s) :=
    ⟨fun j hj => ⟨j, hj, .refl j⟩, fun j hj => ⟨j, hj, .refl j⟩,
      fun _ he => mem_append_right _ he⟩
  refine ⟨⟨hs.listings, fun j hj d hd ha => hl.log _ (hs.acks j hj d hd ha), hs.deletions,
    fun r hr url hu => ?_, fun task ht => (hs.listingRuns task ht).later hl,
    fun task ht => (hs.deletionRuns task ht).later hl, ?_⟩, hl⟩
  · rcases mem_put.1 hr with rfl | ⟨hold, -⟩
    · exact mem_append_left _ (mem_map_of_mem hu)
    · exact hl.log _ (hs.shipping r hold url hu)
  · refine (hs.log.later hl).append fun e he earlier => ?_
    obtain ⟨url, -, rfl⟩ := mem_map.1 he
    trivial

lemma putIntents_inv (intents : List WriteIntent) (hs : Inv P s) :
    Inv P { s with intents := intents } ∧ Later s { s with intents := intents } := by
  have hl : Later s { s with intents := intents } := .of_eq rfl rfl rfl
  exact ⟨⟨hs.listings, hs.acks, hs.deletions, hs.shipping,
    fun task ht => (hs.listingRuns task ht).later hl,
    fun task ht => (hs.deletionRuns task ht).later hl, hs.log.later hl⟩, hl⟩

lemma loadListing_inv {run : Nat} (hs : Inv P s) (h : loadListing run id s = some t) :
    Inv P t ∧ Later s t := by
  simp only [loadListing, run_gives] at h
  obtain ⟨-, stored, hsto, -, rfl⟩ := h
  refine ⟨hs.setListingRuns fun task ht => ?_, .of_eq rfl rfl rfl⟩
  rcases mem_cons.1 ht with rfl | hold
  · refine ⟨⟨stored, mem_of_get hsto, .refl stored⟩, fun relayUrl hr => ?_⟩
    cases hr
  · exact hs.listingRuns task hold

variable {task : ListingTask} {eid relayUrl : Text} {job : ListingJob} {now delay : Int}

lemma beginListing_inv (hs : Inv P s) (h : beginListing P task now delay s = some t) :
    Inv P t ∧ Later s t := by
  simp only [beginListing, run_gives] at h
  obtain ⟨⟨ht, -⟩, -, -, h⟩ := h
  split_ifs at h with hpairs
  · obtain ⟨⟨next, u⟩, hupd, h⟩ := bind_eq_some_iff.1 h
    cases h
    obtain ⟨hu, hl⟩ := hs.updateListing hupd fun j =>
      ListingWrite.reconciled j j ⟨rfl, rfl, rfl, rfl, rfl, rfl, rfl⟩ rfl now delay
    exact ⟨hu.moveListing fun _ hn => absurd hn not_mem_nil, hl.trans (.of_eq rfl rfl rfl)⟩
  · cases h
    refine ⟨hs.moveListing fun other ho => ?_, .of_eq rfl rfl rfl⟩
    obtain ⟨d, -, rfl⟩ := mem_map.1 ho
    refine ⟨(hs.listingRuns task ht).stored, fun relayUrl hr => ?_⟩
    cases hr

lemma subset_eligibleAfter (h : relayUrl ∈ eligibleAfter s job eligible id) : relayUrl ∈ eligible ∧
      ∃ row, s.shipping.get id = some row ∧ relayUrl ∈ row.acknowledgedRelayUrls := by
  unfold eligibleAfter at h
  cases hr : s.shipping.get id with
  | none => rw [hr] at h; cases h
  | some row =>
    simp only [hr] at h
    split_ifs at h with hr'
    · obtain ⟨hm, ha⟩ := mem_filter.1 h
      exact ⟨hm, row, rfl, of_decide_eq_true ha⟩
    · cases h

lemma foldl_eligible {ids : List Text} (h : relayUrl ∈ ids.foldl (eligibleAfter s job) eligible) :
    relayUrl ∈ eligible ∧
      ∀ id ∈ ids, ∃ row, s.shipping.get id = some row ∧ relayUrl ∈ row.acknowledgedRelayUrls := by
  induction ids generalizing eligible with
  | nil => exact ⟨h, fun _ hid => nomatch hid⟩
  | cons id ids ih =>
    obtain ⟨hm, hr⟩ := ih h
    obtain ⟨hb, hrow⟩ := subset_eligibleAfter hm
    refine ⟨hb, fun other ho => ?_⟩
    rcases mem_cons.1 ho with rfl | ho
    · exact hrow
    · exact hr other ho

lemma shipped_of_eligible (hs : Inv P s) (h : relayUrl ∈ shippingPrerequisiteEligibleRelays s job) :
    Shipped s.log job relayUrl := by
  intro id hid
  obtain ⟨row, hr, ha⟩ := (foldl_eligible h).2 id hid
  have hl := hs.shipping row (mem_of_get hr) relayUrl ha
  rwa [key_of_get hr] at hl

lemma admitPair_inv (hs : Inv P s) (h : admitPair task eid relayUrl s = some t) :
    Inv P t ∧ Later s t := by
  simp only [admitPair, run_gives] at h
  obtain ⟨⟨ht, -⟩, -, he, rfl⟩ := h
  refine ⟨hs.moveListing fun other ho => ?_, .of_eq rfl rfl rfl⟩
  obtain rfl := mem_singleton.1 ho
  refine ⟨(hs.listingRuns task ht).stored, fun url hu => ?_⟩
  cases hu
  exact shipped_of_eligible hs he

lemma ListingTaskOk.goOn (h : ListingTaskOk s task) (relayUrl : Text) (phase : ListingPhase)
    (hb : task.phase.relay = some relayUrl) (ha : phase.relay = some relayUrl) :
    ListingTaskOk s { task with phase := phase } := by
  refine ⟨h.stored, fun url hu => ?_⟩
  obtain rfl : relayUrl = url := some.inj (ha.symm.trans hu)
  exact h.shipped relayUrl hb

section

variable (hs : Inv P s)
include hs

lemma claimPair_inv (h : claimPair task eid relayUrl now s = some t) : Inv P t ∧ Later s t := by
  simp only [claimPair, run_gives] at h
  obtain ⟨⟨ht, hph⟩, job, hj, -, pair, -, -, h⟩ := h
  obtain ⟨hu, hl⟩ := hs.putListing hj (startedDeliveryAttempt_write eid relayUrl now job)
  have hm := ((hs.listingRuns task ht).later hl).goOn relayUrl
    (.claimed eid relayUrl) (by rw [hph]; rfl) rfl
  split_ifs at h
  · cases h
    refine ⟨hu.moveListing fun other ho => ?_, hl.trans (.of_eq rfl rfl rfl)⟩
    obtain rfl := mem_singleton.1 ho
    exact hm
  · cases h
    exact ⟨hu.moveListing fun _ hn => absurd hn not_mem_nil, hl.trans (.of_eq rfl rfl rfl)⟩

lemma Inv.setStarts (starts : List (Nat × ListingJob)) : Inv P { s with starts := starts } := by
  have hl : Later s { s with starts := starts } := .of_eq rfl rfl rfl
  exact ⟨hs.listings, hs.acks, hs.deletions, hs.shipping,
    fun task ht => (hs.listingRuns task ht).later hl,
    fun task ht => (hs.deletionRuns task ht).later hl, hs.log.later hl⟩

lemma startPair_inv (h : startPair task eid relayUrl now delay s = some t) :
    Inv P t ∧ Later s t := by
  simp only [startPair, run_gives] at h
  obtain ⟨⟨ht, hph⟩, ⟨started, u⟩, hc, -, rfl⟩ := h
  have hu : Inv P u ∧ Later s u := by
    unfold countRun at hc
    split at hc
    · obtain ⟨-, rfl⟩ := Prod.mk.inj (some.inj hc)
      exact ⟨hs, .refl s⟩
    · obtain ⟨⟨next, v⟩, hupd, heq⟩ := map_eq_some_iff.1 hc
      obtain ⟨-, rfl⟩ := Prod.mk.inj heq
      obtain ⟨hv, hl⟩ := hs.updateListing hupd fun j => markListingRunStarted_write now delay j
      exact ⟨hv.setStarts _, hl.trans (.of_eq rfl rfl rfl)⟩
  refine ⟨hu.1.moveListing fun other ho => ?_, hu.2.trans (.of_eq rfl rfl rfl)⟩
  obtain rfl := mem_singleton.1 ho
  exact ((hs.listingRuns task ht).later hu.2).goOn relayUrl _ (by rw [hph]; rfl) rfl

lemma publishPair_inv (h : publishPair P task eid relayUrl s = some t) : Inv P t ∧ Later s t := by
  simp only [publishPair, run_gives] at h
  obtain ⟨⟨hta, hph⟩, event, hev, target, htgt, h⟩ := h
  have ht := hs.listingRuns task hta
  have hr : task.phase.relay = some relayUrl := by rw [hph]; rfl
  have hm : ∀ phase : ListingPhase, phase.relay = some relayUrl →
      Inv P (s.moveListing task [{ task with phase := phase }]) := by
    intro phase ha
    refine hs.moveListing fun other ho => ?_
    obtain rfl := mem_singleton.1 ho
    exact ht.goOn relayUrl phase hr ha
  split_ifs at h
  · cases h
    have hu : target.relayUrl = relayUrl := of_decide_eq_true
      (find?_some (p := fun x : ListingTarget => decide (x.relayUrl = relayUrl)) htgt)
    obtain ⟨row, hrow, hg⟩ := ht.stored
    obtain ⟨hid, -, heven, htar, -, -, hp⟩ := hg.intent
    refine ⟨(hm _ rfl).log_cons ⟨row, hrow, hid, ?_, ⟨target, ?_, rfl⟩, fun id hid' => ?_⟩,
      ⟨fun j hj => ⟨j, hj, .refl j⟩, fun j hj => ⟨j, hj, .refl j⟩,
        fun _ he => .tail _ he⟩⟩
    · rw [heven]
      exact mem_of_find?_eq_some hev
    · rw [htar]
      exact mem_of_find?_eq_some htgt
    · rw [hp] at hid'
      rw [hu]
      exact ht.shipped relayUrl hr id hid'
  · cases h
    exact ⟨hm _ rfl, .of_eq rfl rfl rfl⟩

lemma answerPair_inv (h : answerPair task eid relayUrl status s = some t) :
    Inv P t ∧ Later s t := by
  simp only [answerPair, run_gives] at h
  obtain ⟨⟨ht, hph, -⟩, rfl⟩ := h
  refine ⟨hs.moveListing fun other ho => ?_, .of_eq rfl rfl rfl⟩
  obtain rfl := mem_singleton.1 ho
  exact (hs.listingRuns task ht).goOn relayUrl _ (by rw [hph]; rfl) rfl

lemma recordPair_inv (h : recordPair task eid relayUrl status now delay s = some t) :
    Inv P t ∧ Later s t := by
  simp only [recordPair, run_gives] at h
  obtain ⟨-, ⟨next, u⟩, hupd, rfl⟩ := h
  obtain ⟨hu, hl⟩ := hs.updateListing hupd fun j =>
    markListingOutcome_write eid relayUrl status now delay j
  have he : ackEvents task.stored.id (if status = .acked then some (eid, relayUrl) else
      none) = if status = .acked then [.listingAcked task.stored.id eid relayUrl] else [] := by
    split_ifs <;> rfl
  rw [he] at hu hl
  have hm : Inv P (Outboxes.moveListing _ task []) :=
    hu.moveListing fun _ hn => nomatch hn
  exact ⟨hm, hl.trans (.of_eq rfl rfl rfl)⟩

end

end Conduit.ProductDelivery
