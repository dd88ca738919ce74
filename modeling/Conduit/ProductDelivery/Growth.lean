import Conduit.ProductDelivery.Outboxes

namespace Conduit.ProductDelivery

open Js Stock Throwing List

/-- An acknowledged pair stays acknowledged. -/
structure PairGrows (d e : ListingDelivery) : Prop where
  eventId : e.eventId = d.eventId
  relayUrl : e.relayUrl = d.relayUrl
  acked : d.status = .acked → e.status = .acked
  rejected : d.status = .rejected → e.status = .rejected ∨ e.status = .acked

lemma PairGrows.refl (d : ListingDelivery) : PairGrows d d := ⟨rfl, rfl, id, .inl⟩

variable {d : ListingDelivery} {timestamp : Int} {α : Type}

lemma PairGrows.trans {e f : ListingDelivery} (h : PairGrows d e) (h' : PairGrows e f) :
    PairGrows d f := by
  refine ⟨h'.eventId.trans h.eventId, h'.relayUrl.trans h.relayUrl, fun hd => h'.acked (h.acked hd),
    fun hd => ?_⟩
  rcases h.rejected hd with hr | ha
  · exact h'.rejected hr
  · exact .inr (h'.acked ha)

structure ListingGrows (j k : ListingJob) : Prop where
  intent : SameListingIntent k j
  pairs : List.Forall₂ PairGrows j.relayDelivery k.relayDelivery

lemma ListingGrows.refl (j : ListingJob) : ListingGrows j j :=
  ⟨⟨rfl, rfl, rfl, rfl, rfl, rfl, rfl⟩, forall₂_same.2 fun d _ => PairGrows.refl d⟩

lemma SameListingIntent.trans {j k l : ListingJob} (h : SameListingIntent k j)
    (h' : SameListingIntent l k) : SameListingIntent l j := by
  obtain ⟨h₁, h₂, h₃, h₄, h₅, h₆, h₇⟩ := h
  obtain ⟨h₁', h₂', h₃', h₄', h₅', h₆', h₇'⟩ := h'
  exact ⟨h₁'.trans h₁, h₂'.trans h₂, h₃'.trans h₃, h₄'.trans h₄, h₅'.trans h₅, h₆'.trans h₆,
    h₇'.trans h₇⟩

lemma forall₂_trans {R : α → α → Prop} (ht : ∀ a b c, R a b → R b c → R a c) {l m n : List α}
    (h : Forall₂ R l m) (h' : Forall₂ R m n) : Forall₂ R l n := by
  induction h generalizing n with
  | nil => exact h'
  | cons hab _ ih =>
    cases h' with
    | cons hbc hr => exact .cons (ht _ _ _ hab hbc) (ih hr)

lemma ListingGrows.trans {j k l : ListingJob} (h : ListingGrows j k) (h' : ListingGrows k l) :
    ListingGrows j l :=
  ⟨h.intent.trans h'.intent, forall₂_trans (R := PairGrows) (fun _ _ _ => PairGrows.trans) h.pairs h'.pairs⟩

lemma forall₂_map_right {β : Type} {R : α → β → Prop} {f : α → β} (l : List α)
    (h : ∀ a ∈ l, R a (f a)) : Forall₂ R l (l.map f) :=
  forall₂_map_right_iff.2 (forall₂_same.2 h)

lemma ListingGrows.common {j k : ListingJob} (h : ListingGrows j k)
    (hj : HasCommonAcknowledgedRelay j) : HasCommonAcknowledgedRelay k := by
  obtain ⟨-, -, heven, ht, -⟩ := h.intent
  obtain ⟨hne, target, htgt, hall⟩ := hj
  refine ⟨by rw [heven]; exact hne, target, by rw [ht]; exact htgt, ?_⟩
  intro event hev
  rw [heven] at hev
  obtain ⟨d, hd, hid, hu, ha⟩ := hall event hev
  obtain ⟨e, he, hg⟩ := forall₂_left h.pairs hd
  exact ⟨e, he, hg.eventId.trans hid, hg.relayUrl.trans hu, hg.acked ha⟩

structure ListingOk (j : ListingJob) : Prop where
  live : j.state ≠ .superseded_unpublished
  delivered : j.state = .delivered ↔ HasCommonAcknowledgedRelay j

/-- A write of a listing job. `outcome`: the pair whose acknowledgement it records. -/
structure ListingWrite (outcome : Option (Text × Text)) (j k : ListingJob) : Prop where
  grows : ListingGrows j k
  ok : ListingOk j → ListingOk k
  acks : ∀ e ∈ k.relayDelivery, e.status = .acked →
    (∃ d ∈ j.relayDelivery, d.eventId = e.eventId ∧ d.relayUrl = e.relayUrl ∧ d.status = .acked) ∨
      outcome = some (e.eventId, e.relayUrl)

lemma deriveListingState_ne_superseded (j : ListingJob) :
    deriveListingState j ≠ .superseded_unpublished := by
  unfold deriveListingState
  split_ifs <;> exact ListingState.noConfusion

lemma deriveListingState_delivered (j : ListingJob) :
    deriveListingState j = .delivered ↔ HasCommonAcknowledgedRelay j := by
  unfold deriveListingState
  split_ifs with hc
  · exact ⟨fun _ => hc, fun _ => rfl⟩
  all_goals simp only [hc, reduceCtorEq]

lemma reconcileListing_ok (j : ListingJob) (timestamp delay : Int) :
    ListingOk (reconcileListing j timestamp delay) :=
  ⟨deriveListingState_ne_superseded j, deriveListingState_delivered j⟩

lemma ListingWrite.reconciled (j k : ListingJob) (hi : SameListingIntent k j)
    (hp : k.relayDelivery = j.relayDelivery) (timestamp delay : Int) :
    ListingWrite none j (reconcileListing k timestamp delay) where
  grows := by
    refine ⟨hi, ?_⟩
    show Forall₂ PairGrows j.relayDelivery k.relayDelivery
    rw [hp]
    exact (ListingGrows.refl j).pairs
  ok _ := reconcileListing_ok k timestamp delay
  acks e he ha := by
    have he' : e ∈ j.relayDelivery := hp ▸ he
    exact .inl ⟨e, he', rfl, rfl, ha⟩

lemma ListingWrite.refl (j : ListingJob) : ListingWrite none j j :=
  ⟨.refl j, id, fun e he ha => .inl ⟨e, he, rfl, rfl, ha⟩⟩

lemma markListingRunStarted_write (timestamp delay : Int) (j : ListingJob) :
    ListingWrite none j (markListingRunStarted timestamp delay j) := by
  unfold markListingRunStarted
  split_ifs
  · refine ListingWrite.reconciled j _ ?_ ?_ timestamp delay
    · exact ⟨rfl, rfl, rfl, rfl, rfl, rfl, rfl⟩
    · rfl
  · exact .refl j

lemma markReady_write (now : Int) (j : ListingJob) :
    ListingWrite none j { j with readyForDelivery := true, updatedAt := now } where
  grows := ⟨⟨rfl, rfl, rfl, rfl, rfl, rfl, rfl⟩, (ListingGrows.refl j).pairs⟩
  ok h := ⟨h.live, h.delivered⟩
  acks e he ha := .inl ⟨e, he, rfl, rfl, ha⟩

lemma startedDelivery_grows (eventId relayUrl : Text) (timestamp : Int) (d : ListingDelivery) :
    PairGrows d (startedDelivery eventId relayUrl timestamp d) := by
  unfold startedDelivery
  split_ifs with hp
  · obtain ⟨-, -, hr⟩ := hp
    refine ⟨rfl, rfl, fun ha => ?_, fun hrej => ?_⟩
    · rcases hr with h | h <;> rw [ha] at h <;> cases h
    · rcases hr with h | h <;> rw [hrej] at h <;> cases h
  · exact .refl d

lemma startedDelivery_acked {eventId relayUrl : Text}
    (h : (startedDelivery eventId relayUrl timestamp d).status = .acked) : d.status = .acked := by
  unfold startedDelivery at h
  split_ifs at h with hpair
  exact h

lemma startedDeliveryAttempt_write (eventId relayUrl : Text) (timestamp : Int) (j : ListingJob) :
    ListingWrite none j (startedDeliveryAttempt eventId relayUrl timestamp j) := by
  have hg : ListingGrows j (startedDeliveryAttempt eventId relayUrl timestamp j) :=
    ⟨⟨rfl, rfl, rfl, rfl, rfl, rfl, rfl⟩, forall₂_map_right _ fun d _ =>
      startedDelivery_grows eventId relayUrl timestamp d⟩
  have hac : ∀ e ∈ (startedDeliveryAttempt eventId relayUrl timestamp j).relayDelivery,
      e.status = .acked → ∃ d ∈ j.relayDelivery, d.eventId = e.eventId ∧ d.relayUrl = e.relayUrl ∧
        d.status = .acked := by
    intro e he ha
    obtain ⟨d, hd, rfl⟩ := mem_map.1 he
    have heq := startedDelivery_grows eventId relayUrl timestamp d
    exact ⟨d, hd, heq.eventId.symm, heq.relayUrl.symm, startedDelivery_acked ha⟩
  refine ⟨hg, fun h => ⟨h.live, h.delivered.trans ⟨hg.common, ?_⟩⟩,
    fun e he ha => .inl (hac e he ha)⟩
  rintro ⟨hne, target, ht, hall⟩
  refine ⟨hne, target, ht, fun event hev => ?_⟩
  obtain ⟨e, he, hid, hu, ha⟩ := hall event hev
  obtain ⟨d, hd, hid', hu', ha'⟩ := hac e he ha
  exact ⟨d, hd, hid'.trans hid, hu'.trans hu, ha'⟩

lemma recordedDelivery_grows (eventId relayUrl : Text) (status : ListingStatus) (timestamp : Int)
    (d : ListingDelivery) : PairGrows d (recordedDelivery eventId relayUrl status timestamp d) := by
  unfold recordedDelivery
  by_cases ho : d.eventId ≠ eventId ∨ d.relayUrl ≠ relayUrl
  · rw [if_pos ho]
    exact .refl d
  rw [if_neg ho]
  by_cases ha : d.status = .acked
  · rw [if_pos ha]
    exact .refl d
  rw [if_neg ha]
  by_cases hr : d.status = .rejected ∧ status ≠ .acked
  · rw [if_pos hr]
    exact .refl d
  rw [if_neg hr]
  refine ⟨rfl, rfl, fun h => absurd h ha, fun h => ?_⟩
  by_contra hn
  obtain ⟨-, hst⟩ := not_or.1 hn
  exact hr ⟨h, hst⟩

lemma recordedDelivery_acked {eventId relayUrl : Text} {status : ListingStatus}
    (h : (recordedDelivery eventId relayUrl status timestamp d).status = .acked) :
    d.status = .acked ∨ status = .acked ∧ d.eventId = eventId ∧ d.relayUrl = relayUrl := by
  unfold recordedDelivery at h
  by_cases ho : d.eventId ≠ eventId ∨ d.relayUrl ≠ relayUrl
  · rw [if_pos ho] at h
    exact .inl h
  rw [if_neg ho] at h
  by_cases ha : d.status = .acked
  · exact .inl ha
  rw [if_neg ha] at h
  by_cases hr : d.status = .rejected ∧ status ≠ .acked
  · rw [if_pos hr] at h
    exact .inl h
  rw [if_neg hr] at h
  rw [not_or, not_not, not_not] at ho
  exact .inr ⟨h, ho⟩

lemma markListingOutcome_write (eventId relayUrl : Text) (status : ListingStatus)
    (timestamp delay : Int) (j : ListingJob) :
    ListingWrite (if status = .acked then some (eventId, relayUrl) else none) j
      (markListingOutcome eventId relayUrl status timestamp delay j) := by
  refine ⟨⟨⟨rfl, rfl, rfl, rfl, rfl, rfl, rfl⟩, forall₂_map_right _ fun d _ =>
    recordedDelivery_grows eventId relayUrl status timestamp d⟩,
    fun _ => reconcileListing_ok _ timestamp delay, ?_⟩
  intro e he ha
  obtain ⟨d, hd, rfl⟩ := mem_map.1 he
  have heq := recordedDelivery_grows eventId relayUrl status timestamp d
  rcases recordedDelivery_acked ha with hold | ⟨hst, hid, hu⟩
  · exact .inl ⟨d, hd, heq.eventId.symm, heq.relayUrl.symm, hold⟩
  · right
    rw [if_pos hst, heq.eventId, heq.relayUrl, hid, hu]

lemma prepared_listingOk {P : DeliveryPlatform} {input : ListingInput} {now : Int}
    {job : ListingJob} (h : prepareProductListingDeliveryJob P input now = .ok job) :
    ListingOk job ∧ ∀ d ∈ job.relayDelivery, d.status ≠ .acked := by
  obtain ⟨merchantPubkey, -, h⟩ := bind_ok.1 h
  obtain ⟨hfam, h⟩ := rejects_ok.1 h
  obtain ⟨targets, -, h⟩ := bind_ok.1 h
  obtain ⟨companion, -, h⟩ := bind_ok.1 h
  obtain ⟨-, h⟩ := rejects_ok.1 h
  obtain ⟨-, h⟩ := rejects_ok.1 h
  obtain rfl := pure_ok.1 h
  have hp : ∀ d ∈ input.signedEvents.flatMap fun event => targets.map fun target =>
      (⟨event.id, target.relayUrl, .pending, 0, none, none, none, none⟩ : ListingDelivery),
      d.status ≠ .acked := by
    intro d hd
    obtain ⟨event, -, hd⟩ := mem_flatMap.1 hd
    obtain ⟨target, -, rfl⟩ := mem_map.1 hd
    exact ListingStatus.noConfusion
  refine ⟨⟨ListingState.noConfusion, fun h => ListingState.noConfusion h, ?_⟩, hp⟩
  rintro ⟨hne, target, -, hall⟩
  obtain ⟨event, hev⟩ := exists_mem_of_ne_nil _ hne
  obtain ⟨d, hd, -, -, ha⟩ := hall event hev
  exact absurd ha (hp d hd)

end Conduit.ProductDelivery
