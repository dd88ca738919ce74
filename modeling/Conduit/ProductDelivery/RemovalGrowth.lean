import Conduit.ProductDelivery.Growth

namespace Conduit.ProductDelivery

open Js Stock Throwing List
open Network (sortUrls)

structure RelayGrows (d e : DeletionDelivery) : Prop where
  relayUrl : e.relayUrl = d.relayUrl
  acked : d.status = .acked → e.status = .acked

structure DeletionGrows (j k : DeletionJob) : Prop where
  id : k.id = j.id
  signedEvent : k.signedEvent = j.signedEvent
  relayPlan : k.relayPlan = j.relayPlan
  companion : k.companionListingJobId = j.companionListingJobId
  relays : List.Forall₂ RelayGrows j.relayDelivery k.relayDelivery

lemma RelayGrows.refl (d : DeletionDelivery) : RelayGrows d d := ⟨rfl, id⟩

lemma DeletionGrows.refl (j : DeletionJob) : DeletionGrows j j :=
  ⟨rfl, rfl, rfl, rfl, forall₂_same.2 fun d _ => RelayGrows.refl d⟩

variable {plan : List DeletionTarget} {target : DeletionTarget} {l : List DeletionDelivery}
  {role : RelayRole} {j : DeletionJob}

lemma DeletionGrows.trans {k l : DeletionJob} (h : DeletionGrows j k) (h' : DeletionGrows k l) :
    DeletionGrows j l :=
  ⟨h'.id.trans h.id, h'.signedEvent.trans h.signedEvent, h'.relayPlan.trans h.relayPlan,
    h'.companion.trans h.companion, forall₂_trans (R := RelayGrows)
      (fun _ _ _ hab hbc => ⟨hbc.relayUrl.trans hab.relayUrl, hbc.acked ∘ hab.acked⟩)
      h.relays h'.relays⟩

/-- The plan's pairs, all publishable, and delivered exactly when all acknowledged. -/
structure DeletionOk (P : DeliveryPlatform) (j : DeletionJob) : Prop where
  live : j.state ≠ .superseded_unpublished
  delivered : j.state = .delivered ↔ AllAcked j.relayDelivery
  nodup : (j.relayDelivery.map DeletionDelivery.relayUrl).Nodup
  planned : j.relayDelivery.map DeletionDelivery.relayUrl = j.relayPlan.map DeletionTarget.relayUrl
  approved : ∀ target ∈ j.relayPlan, IsApprovedDeletionTarget P target

structure KeepsLease (j k : DeletionJob) : Prop where
  owner : k.deliveryLeaseOwner = j.deliveryLeaseOwner
  expires : k.deliveryLeaseExpiresAt = j.deliveryLeaseExpiresAt

lemma KeepsLease.refl (j : DeletionJob) : KeepsLease j j := ⟨rfl, rfl⟩

structure DeletionWrite (P : DeliveryPlatform) (j k : DeletionJob) : Prop where
  grows : DeletionGrows j k
  ok : DeletionOk P j → DeletionOk P k

variable {P : DeliveryPlatform}

lemma DeletionWrite.refl (j : DeletionJob) : DeletionWrite P j j := ⟨.refl j, id⟩

lemma urls_of_relays {m : List DeletionDelivery} (h : Forall₂ RelayGrows l m) :
    m.map DeletionDelivery.relayUrl = l.map DeletionDelivery.relayUrl := by
  induction h with
  | nil => rfl
  | cons hab _ ih => rw [map_cons, map_cons, hab.relayUrl, ih]

lemma DeletionOk.of_grows {k : DeletionJob} (h : DeletionOk P j) (hg : DeletionGrows j k)
    (hl : k.state ≠ .superseded_unpublished)
    (hd : k.state = .delivered ↔ AllAcked k.relayDelivery) : DeletionOk P k where
  live := hl
  delivered := hd
  nodup := by rw [urls_of_relays hg.relays]; exact h.nodup
  planned := by rw [urls_of_relays hg.relays, hg.relayPlan]; exact h.planned
  approved := by rw [hg.relayPlan]; exact h.approved

lemma deriveDeletionState_ne_superseded (l : List DeletionDelivery) (n : Nat) :
    deriveDeletionState l n ≠ .superseded_unpublished := by
  unfold deriveDeletionState
  split_ifs <;> exact DeletionState.noConfusion

lemma deriveDeletionState_delivered (l : List DeletionDelivery) (n : Nat) :
    deriveDeletionState l n = .delivered ↔ AllAcked l := by
  unfold deriveDeletionState
  split_ifs with ha
  · exact ⟨fun _ => ha, fun _ => rfl⟩
  all_goals simp only [ha, reduceCtorEq]

lemma DeletionWrite.reconciled (j k : DeletionJob) (hg : DeletionGrows j k)
    (time delay : Int) : DeletionWrite P j (reconcileDeletion time delay k) where
  grows := ⟨hg.id, hg.signedEvent, hg.relayPlan, hg.companion, hg.relays⟩
  ok h := h.of_grows
    ⟨hg.id, hg.signedEvent, hg.relayPlan, hg.companion, hg.relays⟩
    (deriveDeletionState_ne_superseded _ _) (deriveDeletionState_delivered _ _)

lemma reconcileDeletion_write (time delay : Int) (j : DeletionJob) :
    DeletionWrite P j (reconcileDeletion time delay j) := .reconciled j j (.refl j) _ _

lemma DeletionOk.retire (h : DeletionOk P j) (time delay : Int) :
    retireUnapprovedPersistedRelayTargets P time delay j = .ok j := by
  have ha : (j.relayPlan.filter fun target => decide (IsApprovedDeletionTarget P target)) =
      j.relayPlan :=
    filter_eq_self.2 fun target ht => decide_eq_true (h.approved target ht)
  unfold retireUnapprovedPersistedRelayTargets
  rw [if_neg h.live, ha, if_pos rfl]

lemma markDeletionRunStarted_write (leaseOwner : Text) (time delay : Int) (j : DeletionJob) :
    DeletionWrite P j (markDeletionRunStarted leaseOwner time delay j) ∧
      KeepsLease j (markDeletionRunStarted leaseOwner time delay j) := by
  unfold markDeletionRunStarted
  split_ifs
  · exact ⟨.refl j, .refl j⟩
  · exact ⟨.refl j, .refl j⟩
  · refine ⟨DeletionWrite.reconciled j _ ?_ time delay, rfl, rfl⟩
    exact ⟨rfl, rfl, rfl, rfl, (DeletionGrows.refl j).relays⟩

lemma attemptedDelivery_grows (relayUrl : Text) (time : Int) (d : DeletionDelivery) :
    RelayGrows d (attemptedDelivery relayUrl time d) := by
  unfold attemptedDelivery
  split_ifs with hp
  · exact ⟨rfl, fun ha => absurd ha hp.2⟩
  · exact .refl d

lemma allAcked_attempted {relayUrl : Text} {time : Int} :
    AllAcked (l.map (attemptedDelivery relayUrl time)) ↔ AllAcked l := by
  constructor
  · intro hall d hd
    have ha := hall _ (mem_map_of_mem hd)
    unfold attemptedDelivery at ha
    split_ifs at ha with hpair
    exact ha
  · intro hall e he
    obtain ⟨d, hd, rfl⟩ := mem_map.1 he
    exact (attemptedDelivery_grows relayUrl time d).acked (hall d hd)

lemma markRelayAttemptStarted_write (relayUrl leaseOwner : Text) (time leaseMs : Int)
    (j : DeletionJob) :
    DeletionWrite P j (markRelayAttemptStarted relayUrl leaseOwner time leaseMs j) := by
  unfold markRelayAttemptStarted
  split_ifs
  · exact .refl j
  · exact .refl j
  · have hr : Forall₂ RelayGrows j.relayDelivery
        (j.relayDelivery.map (attemptedDelivery relayUrl time)) :=
      forall₂_map_right _ fun d _ => attemptedDelivery_grows relayUrl time d
    refine ⟨⟨rfl, rfl, rfl, rfl, hr⟩, fun h => ?_⟩
    exact h.of_grows ⟨rfl, rfl, rfl, rfl, hr⟩ h.live (h.delivered.trans allAcked_attempted.symm)

lemma markRelayOutcome_write (relayUrl leaseOwner : Text) (status : DeletionStatus)
    (time delay : Int) (j : DeletionJob) (hnd : (j.relayDelivery.map
      DeletionDelivery.relayUrl).Nodup) :
    DeletionWrite P j (markRelayOutcome relayUrl leaseOwner status time delay j) ∧
      KeepsLease j (markRelayOutcome relayUrl leaseOwner status time delay j) := by
  simp only [markRelayOutcome]
  split_ifs with hk
  · exact ⟨.refl j, .refl j⟩
  · obtain ⟨hf, -⟩ := not_or.1 hk
    refine ⟨DeletionWrite.reconciled j _ ?_ time delay, rfl, rfl⟩
    refine ⟨rfl, rfl, rfl, rfl, forall₂_map_right _ fun d hd => ?_⟩
    unfold outcomeDelivery
    by_cases ho : d.relayUrl ≠ relayUrl
    · rw [if_pos ho]
      exact .refl d
    rw [if_neg ho]
    refine ⟨rfl, fun ha => absurd ?_ hf⟩
    exact ⟨d, (Keyed.find?_key_iff hnd).2 ⟨hd, not_not.1 ho⟩, ha⟩

lemma claimDeliveryLease_write (leaseOwner : Text) (time leaseMs : Int) (force : Bool)
    (j : DeletionJob) : DeletionWrite P j (claimDeliveryLease leaseOwner time leaseMs force j) := by
  unfold claimDeliveryLease
  split_ifs
  · exact .refl j
  · exact .refl j
  · exact ⟨⟨rfl, rfl, rfl, rfl, (DeletionGrows.refl j).relays⟩,
      fun h => ⟨h.live, h.delivered, h.nodup, h.planned, h.approved⟩⟩

lemma releaseDeliveryLease_write (leaseOwner : Text) (j : DeletionJob) :
    DeletionWrite P j (releaseDeliveryLease leaseOwner j) := by
  unfold releaseDeliveryLease
  split_ifs
  · exact .refl j
  · exact ⟨⟨rfl, rfl, rfl, rfl, (DeletionGrows.refl j).relays⟩,
      fun h => ⟨h.live, h.delivered, h.nodup, h.planned, h.approved⟩⟩

/-- Normal forms are fixed, public addresses parse, and the isolated relay is configured normally.
-/
structure DeliveryPlatform.Lawful (P : DeliveryPlatform) : Prop where
  idempotent : ∀ url u, P.tryNormalizeRelayUrl url = some u → P.tryNormalizeRelayUrl u = some u
  isolated : ∀ url ∈ P.isolatedRelayUrl, P.e2eRelayIsolationEnabled = true ∧
    P.tryNormalizeRelayUrl url = some url ∧ startsWith url "ws://" = true
  public_normalizes : ∀ raw url, P.normalizePublicWebSocketUrl raw = some url →
    ∃ u, P.tryNormalizeRelayUrl url = some u
  public_of_short : ∀ raw url u, P.normalizePublicWebSocketUrl raw = some url →
    P.tryNormalizeRelayUrl url = some u → Js.length u ≤ 4096 →
    (P.normalizePublicWebSocketUrl u).isSome = true

def ShortCanonical (P : DeliveryPlatform) (input : DeletionInput) : Prop :=
  ∀ url ∈ P.normalizePublicWebSocketUrl input.canonicalConduitRelayUrl,
    ∀ u ∈ P.tryNormalizeRelayUrl url, Js.length u ≤ 4096

variable {input : DeletionInput} {entries : List (Text × RelayRole)}

lemma mem_targetsOf {app personal : List Text} (h : target ∈ targetsOf entries app personal) :
    (∃ role, (target.relayUrl, role) ∈ entries) ∧
      target.roles = roleOrder.filter fun role => decide ((target.relayUrl, role) ∈ entries) := by
  obtain ⟨url, hu, rfl⟩ := mem_map.1 h
  rw [Network.mem_sortUrls, mem_eraseDups] at hu
  obtain ⟨entry, he, rfl⟩ := mem_map.1 hu
  exact ⟨⟨entry.2, he⟩, rfl⟩

lemma nodup_targetsOf (entries : List (Text × RelayRole)) (app personal : List Text) :
    ((targetsOf entries app personal).map DeletionTarget.relayUrl).Nodup := by
  have heq : (targetsOf entries app personal).map DeletionTarget.relayUrl =
      sortUrls (entries.map Prod.fst).eraseDups := by
    rw [targetsOf, map_map]
    exact map_id _
  rw [heq]
  exact Network.nodup_sortUrls (Network.nodup_eraseDups _)

lemma mem_roles {p : RelayRole → Bool} : role ∈ roleOrder.filter p ↔ p role = true := by
  rw [mem_filter]
  refine and_iff_right ?_
  cases role <;> decide

lemma mem_withRole {urls : List Text} {r : RelayRole} {u : Text} :
    (u, r) ∈ ((urls.filterMap P.tryNormalizeRelayUrl).map fun url => (url, role)) ↔
      r = role ∧ ∃ url ∈ urls, P.tryNormalizeRelayUrl url = some u := by
  simp only [mem_map, mem_filterMap, Prod.mk.injEq]
  constructor
  · rintro ⟨v, ⟨url, hurl, hv⟩, rfl, rfl⟩
    exact ⟨rfl, url, hurl, hv⟩
  · rintro ⟨rfl, url, hurl, hu⟩
    exact ⟨u, ⟨url, hurl, hu⟩, rfl, rfl⟩

lemma approved_isolated (hP : P.Lawful) {url : Text} (h : P.isolatedRelayUrl = some url)
    (ht : target.relayUrl = url) : IsApprovedDeletionTarget P target := by
  obtain ⟨hon, hn, hws⟩ := hP.isolated url h
  refine ⟨url, by rw [ht]; exact hn, ?_⟩
  rw [if_pos hon]
  simp only [normalizeConfiguredE2eLoopbackRelayUrl, hn, Option.bind_eq_bind,
    Option.bind_some, hws, h, and_self, guard_true]
  rfl

lemma planned_approved (hP : P.Lawful) (hs : ShortCanonical P input)
    (h : planProductDeletionRelays P input = .ok plan) :
    ∀ target ∈ plan, IsApprovedDeletionTarget P target := by
  intro target ht
  simp only [planProductDeletionRelays] at h
  by_cases hon : P.e2eRelayIsolationEnabled = true
  · rw [if_pos hon] at h
    cases hi : P.isolatedRelayUrl with
    | none => rw [hi] at h; cases h
    | some isolated =>
      simp only [hi] at h
      obtain ⟨-, h⟩ := rejects_ok.1 h
      obtain rfl := pure_ok.1 h
      obtain ⟨⟨role, he⟩, -⟩ := mem_targetsOf ht
      refine approved_isolated hP hi ?_
      simp only [mem_append] at he
      rcases he with (he | he) | he
      · exact (Prod.mk.inj (mem_singleton.1 he)).1
      · split_ifs at he
        · exact (Prod.mk.inj (mem_singleton.1 he)).1
        · cases he
      · split_ifs at he
        · exact (Prod.mk.inj (mem_singleton.1 he)).1
        · cases he
  · rw [if_neg hon] at h
    have hno : P.isolatedRelayUrl = none := by
      cases hi : P.isolatedRelayUrl with
      | none => rfl
      | some url => exact absurd (hP.isolated url hi).1 hon
    obtain ⟨canonical, hc, h⟩ := bind_ok.1 h
    obtain rfl := pure_ok.1 h
    have hp : P.normalizePublicWebSocketUrl input.canonicalConduitRelayUrl = some canonical := by
      have hl : normalizeConfiguredE2eLoopbackRelayUrl P input.canonicalConduitRelayUrl =
          none := by
        cases hr : P.tryNormalizeRelayUrl input.canonicalConduitRelayUrl <;>
          simp [normalizeConfiguredE2eLoopbackRelayUrl, hr, hno]
      rw [hl, Option.or_none] at hc
      cases hr : P.normalizePublicWebSocketUrl input.canonicalConduitRelayUrl with
      | none => rw [hr] at hc; cases hc
      | some url =>
        rw [hr] at hc
        exact congrArg some (Except.ok.inj hc)
    obtain ⟨⟨role, he⟩, hro⟩ := mem_targetsOf ht
    have haut : ∀ a ∈ input.currentWriteRelayUrls,
        P.tryNormalizeRelayUrl a = some target.relayUrl → .author_write ∈ target.roles := by
      intro a ha hn
      rw [hro, mem_roles]
      refine decide_eq_true ?_
      rw [mem_append, mem_append]
      exact .inl (.inl (mem_withRole.2 ⟨rfl, a, ha, hn⟩))
    rw [mem_append, mem_append, mem_withRole, mem_withRole, mem_withRole] at he
    rcases he with (⟨-, a, ha, hn⟩ | ⟨-, a, ha, hn⟩) | ⟨-, a, ha, hn⟩
    · refine ⟨target.relayUrl, hP.idempotent _ _ hn, ?_⟩
      rw [if_neg hon]
      exact .inr (.inr (haut a ha hn))
    · refine ⟨target.relayUrl, hP.idempotent _ _ hn, ?_⟩
      rw [if_neg hon]
      obtain ⟨hmem, hk⟩ := mem_filter.1 ha
      obtain ⟨raw, -, hr⟩ := mem_filterMap.1 hmem
      have heq : a = target.relayUrl :=
        Option.some.inj ((hP.idempotent _ _ hr).symm.trans hn)
      subst heq
      rcases (of_decide_eq_true hk).2 with hopen | ⟨b, hb, hown⟩
      · exact .inl hopen
      · exact .inr (.inr (haut b hb hown))
    · refine ⟨target.relayUrl, hP.idempotent _ _ hn, ?_⟩
      rw [if_neg hon]
      obtain rfl := mem_singleton.1 ha
      exact .inl (hP.public_of_short _ _ _ hp hn (hs _ hp _ hn))

lemma targetsOf_ne_nil {app personal : List Text} {entry : Text × RelayRole} (h : entry ∈ entries)
    : targetsOf entries app personal ≠ [] := by
  have hm : entry.1 ∈ sortUrls (entries.map Prod.fst).eraseDups := by
    rw [Network.mem_sortUrls, mem_eraseDups]
    exact mem_map_of_mem h
  exact ne_nil_of_mem (mem_map_of_mem hm)

lemma planned_shape (hP : P.Lawful) (h : planProductDeletionRelays P input = .ok plan) :
    plan ≠ [] ∧ (plan.map DeletionTarget.relayUrl).Nodup := by
  simp only [planProductDeletionRelays] at h
  by_cases hon : P.e2eRelayIsolationEnabled = true
  · rw [if_pos hon] at h
    cases hi : P.isolatedRelayUrl with
    | none => rw [hi] at h; cases h
    | some isolated =>
      simp only [hi] at h
      obtain ⟨-, h⟩ := rejects_ok.1 h
      obtain rfl := pure_ok.1 h
      exact ⟨targetsOf_ne_nil (mem_append_left _ (mem_append_left _ mem_cons_self)),
        nodup_targetsOf _ _ _⟩
  · rw [if_neg hon] at h
    obtain ⟨canonical, hc, h⟩ := bind_ok.1 h
    obtain rfl := pure_ok.1 h
    refine ⟨?_, nodup_targetsOf _ _ _⟩
    have hn : ∃ u, P.tryNormalizeRelayUrl canonical = some u := by
      cases hr : P.normalizePublicWebSocketUrl input.canonicalConduitRelayUrl with
      | some url =>
        rw [hr] at hc
        obtain rfl : url = canonical := Except.ok.inj hc
        exact hP.public_normalizes _ _ hr
      | none =>
        rw [hr, Option.none_or] at hc
        cases hl : normalizeConfiguredE2eLoopbackRelayUrl P input.canonicalConduitRelayUrl with
        | none => rw [hl] at hc; cases hc
        | some url =>
          rw [hl] at hc
          obtain rfl : url = canonical := Except.ok.inj hc
          simp only [normalizeConfiguredE2eLoopbackRelayUrl, run_gives] at hl
          obtain ⟨u, hu, -, rfl⟩ := hl
          exact ⟨u, hP.idempotent _ _ hu⟩
    obtain ⟨u, hu⟩ := hn
    exact targetsOf_ne_nil (mem_append_right _
      (mem_withRole.2 ⟨rfl, canonical, mem_cons_self, hu⟩))

lemma prepared_deletionOk (hP : P.Lawful) {now : Int} {job : DeletionJob}
    (hs : ShortCanonical P input) (h : prepareProductDeletionDeliveryJob P input now = .ok job)
    : DeletionOk P job := by
  obtain ⟨-, h⟩ := rejects_ok.1 h
  obtain ⟨plan, hp, h⟩ := bind_ok.1 h
  obtain ⟨companion, -, h⟩ := bind_ok.1 h
  obtain rfl := pure_ok.1 h
  obtain ⟨hne, hnd⟩ := planned_shape hP hp
  have hu : (plan.map fun target => (⟨target.relayUrl, .pending, 0, none, none, none, none,
      none⟩ : DeletionDelivery)).map DeletionDelivery.relayUrl =
      plan.map DeletionTarget.relayUrl := by
    rw [map_map]
    rfl
  refine ⟨DeletionState.noConfusion, ⟨fun h => DeletionState.noConfusion h, fun ha => ?_⟩,
    by rw [hu]; exact hnd, hu, planned_approved hP hs hp⟩
  obtain ⟨target, ht⟩ := exists_mem_of_ne_nil _ hne
  exact absurd (ha _ (mem_map_of_mem ht)) DeletionStatus.noConfusion

end Conduit.ProductDelivery
