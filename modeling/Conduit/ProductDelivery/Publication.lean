import Conduit.ProductDelivery.Delivery

namespace Conduit.ProductDelivery

open Js Runs Stock Throwing List Table

section
variable {P : DeliveryPlatform} {s t : Outboxes} {actions : List Action}

lemma run_inv (hP : P.Lawful) (h : Run (Step P) s actions t) (hsh : ∀ a ∈ actions, a.Short P)
    (hs : Inv P s) : Inv P t ∧ Later s t := by
  have hr := h.restrict hsh
  refine ⟨hr.invariant (I := Inv P) (fun a s t hs hst => (step_inv hP hs hst.1 hst.2).1) hs, ?_⟩
  exact hr.related (I := Inv P) (R := Later) (fun s _ => .refl s) (fun _ _ _ => .trans)
    (fun a s t hs hst => step_inv hP hs hst.1 hst.2) hs

lemma run_lease (hP : P.Lawful) (h : Run (Step P) s actions t)
    (hsh : ∀ a ∈ actions, a.Short P) (hf : ∀ a ∈ actions, a.Unforced) (hs : Inv P s)
    (hl : LeaseInv s) : LeaseInv t := by
  have hr := h.restrict fun a ha => (⟨hsh a ha, hf a ha⟩ : a.Short P ∧ a.Unforced)
  refine (hr.invariant (I := fun s => Inv P s ∧ LeaseInv s) ?_ ⟨hs, hl⟩).2
  rintro a s t ⟨hs, hl⟩ ⟨⟨hsh, hf⟩, hst⟩
  exact ⟨(step_inv hP hs hsh hst).1, lease_step hs hl hf hst⟩

lemma LogOk.suffix {later earlier : List Event} {e : Event}
    (h : LogOk s (later ++ e :: earlier)) : EventOk s earlier e := by
  induction later with
  | nil => exact h.1
  | cons _ later ih => exact ih h.2

lemma allAcked_grows {l m : List DeletionDelivery} (h : Forall₂ RelayGrows l m)
    (hl : AllAcked l) : AllAcked m := by
  intro e he
  obtain ⟨d, hd, hg⟩ := forall₂_left h.flip he
  exact hg.acked (hl d hd)

end

section
variable {P : DeliveryPlatform}

lemma guard_bind {α : Type} {p : Prop} [Decidable p] (h : p) (x : Option α) :
    (do guard p; x) = x := by
  rw [guard, if_pos h]
  rfl

variable {target other : DeletionTarget}

lemma retire_drops {j : DeletionJob} (hl : j.state ≠ .superseded_unpublished)
    (ht : target ∈ j.relayPlan) (hr : ¬ IsApprovedDeletionTarget P target)
    (ho : other ∈ j.relayPlan) (happ : IsApprovedDeletionTarget P other) (now delay : Int)
    : ∃ k, retireUnapprovedPersistedRelayTargets P now delay j = .ok k ∧ k.id = j.id ∧
      k.signedEvent = j.signedEvent ∧ k.companionListingJobId = j.companionListingJobId ∧
      k.relayPlan ≠ j.relayPlan := by
  have hk : other ∈ j.relayPlan.filter fun t => decide (IsApprovedDeletionTarget P t) :=
    mem_filter.2 ⟨ho, decide_eq_true happ⟩
  have hf : (j.relayPlan.filter fun t => decide (IsApprovedDeletionTarget P t)).length ≠
      j.relayPlan.length := by
    intro ha
    rw [length_filter_eq_length_iff] at ha
    exact hr (of_decide_eq_true (ha target ht))
  have hret : ∃ k, retireUnapprovedPersistedRelayTargets P now delay j = .ok k ∧
      k.id = j.id ∧ k.signedEvent = j.signedEvent ∧
      k.companionListingJobId = j.companionListingJobId ∧
      k.relayPlan = j.relayPlan.filter fun t => decide (IsApprovedDeletionTarget P t) := by
    unfold retireUnapprovedPersistedRelayTargets
    rw [if_neg hl, if_neg hf, if_neg (length_pos_of_mem hk).ne']
    exact ⟨_, rfl, rfl, rfl, rfl, rfl⟩
  obtain ⟨k, hok, hid, hev, hc, hp⟩ := hret
  refine ⟨k, hok, hid, hev, hc, fun heq => hf ?_⟩
  rw [← hp, heq]

lemma plan_shrinks {input : DeletionInput} {job : DeletionJob} {prepareAt now : Int}
    (hj : prepareProductDeletionDeliveryJob P input prepareAt = .ok job)
    (hcom : input.companionListingJobId = none) (hnow : 0 ≤ now)
    (htgt : target ∈ job.relayPlan) (href : ¬ IsApprovedDeletionTarget P target)
    (hoth : other ∈ job.relayPlan) (happ : IsApprovedDeletionTarget P other) :
    ∃ s t : Outboxes, ∃ actions, Run (Step P) .start [.persistDeletion input prepareAt] s ∧
      Run (Step P) s actions t ∧ job ∈ s.deletions.rows ∧
      ∃ k ∈ t.deletions.rows, k.id = job.id ∧ k.relayPlan ≠ job.relayPlan := by
  obtain ⟨hs, hno, hl⟩ : IsSignedDeletion P job.signedEvent ∧
      job.companionListingJobId = none ∧ job.state ≠ .superseded_unpublished := by
    obtain ⟨hs, hj⟩ := rejects_ok.1 hj
    obtain ⟨plan, -, hj⟩ := bind_ok.1 hj
    obtain ⟨companion, hn, hj⟩ := bind_ok.1 hj
    obtain rfl := pure_ok.1 hj
    rw [hcom] at hn
    exact ⟨not_not.1 hs, (Except.ok.inj hn).symm, DeletionState.noConfusion⟩
  obtain ⟨k, hret, hk, hkev, hkc, hne⟩ :=
    retire_drops hl htgt href hoth happ now 0
  let task (phase : DeletionPhase) : DeletionTask := ⟨[], job.id, 0, 0, phase⟩
  let s : Outboxes := { Outboxes.start with deletions := empty.put job }
  let loaded : Outboxes := { s with deletionRuns := empty.put (task (.loaded job)) }
  let permitted := loaded.moveDeletion (task (.loaded job)) .permitted
  let written : Outboxes := { permitted with deletions := permitted.deletions.put k }
  have hg : s.deletions.get job.id = some job := get_put_self _ _
  have hper : persistDeletion P input prepareAt .start = some s := by
    simp only [persistDeletion, hj]
    rfl
  have hlo : loadDeletion [] job.id 0 0 s = some loaded := by
    have hf : s.deletionRuns.get ([], job.id) = none := rfl
    unfold loadDeletion
    rw [hg, guard_bind hf]
    exact guard_bind hl _
  have hp : permitDeletion P (task (.loaded job)) job loaded = some permitted := by
    unfold permitDeletion
    rw [guard_bind ⟨mem_put.2 (.inl rfl), rfl⟩, guard_bind, guard_bind hs]
    · rfl
    · intro id hid
      rw [hno] at hid
      cases hid
  have hr : retireTargets P (task .permitted) now permitted =
      some { written.moveDeletion (task .permitted) .retired with clock := now } := by
    have hupd : permitted.updateDeletion job.id
        (retireUnapprovedPersistedRelayTargets P now 0) = some (k, written) := by
      unfold Outboxes.updateDeletion
      rw [show permitted.deletions.get job.id = some job from hg, Option.bind_eq_bind,
        Option.bind_some, hret]
      exact guard_bind ⟨hk, hkev, hkc⟩ _
    unfold retireTargets
    rw [guard_bind ⟨mem_put.2 (.inl rfl), rfl, hnow⟩]
    rw [hupd]
    rfl
  have hrun : Run (Step P) s [.loadDeletion [] job.id 0 0, .permitDeletion (task (.loaded job)) job,
      .retireTargets (task .permitted) now] _ :=
    .cons hlo (.cons hp (.cons hr (.nil _)))
  refine ⟨s, _, _, .cons hper (.nil s), hrun, mem_of_get hg, k, ?_, hk, hne⟩
  exact mem_put.2 (.inl rfl)

end

namespace Sample

def encode (c : Char) : Text := if c = 'é' then "%C3%A9" else [c]

def merchant : Text := hexText 64 0xaa82e337f634ebf899da6a11853a9311b2bbe094bdede0c17c068f6738554477

def parcel : Text := hexText 64 0xe339a5fd3edae2c16c3050ad7cb7c9a2477e26394f62d1e88fb64d49f317a0cb

def listed : SignedEvent where
  id := hexText 64 0xde94e530bdf131d481ac0b5982a3abe44b87dc1ae2ab42eaf542a13f26bc1734
  pubkey := merchant
  createdAt := 1700000010
  kind := 30402
  tags := [["d", "scarf-2"], ["title", "Scarf"],
    ["price", "30", "USD"],
    ["shipping_option".toList, ("30406:" : Text) ++ merchant ++ ":parcel"]]
  content := "A woollen scarf"
  sig := hexText 128 0x751513d7daf97bb7ae1fab8c091d70737432267e5650c19c17d86ff032543fce62a673e0cfaa16814bef71e2d5fb93d486ab76875c4b4a9c341dda94ab812065

def removed : SignedEvent where
  id := hexText 64 0x1dc407b559169c4c4159cc83bcecaa68af5bf3c4883cea4536da278649a0e299
  pubkey := merchant
  createdAt := 1700000020
  kind := 5
  tags := [["a".toList, ("30402:" : Text) ++ merchant ++ ":scarf"],
    ["k", "30402"]]
  content := []
  sig := hexText 128 0xf7ce00f2082250126c1507aa6fcfea113f9f961c11baeffc0ada3906bb5a51268b159cb7336fb011d374c05870c9ec968fdcbd7688d08e32f4597c3fb8164848

def platform : DeliveryPlatform where
  tryNormalizeRelayUrl raw := if startsWith raw "wss://" then some (raw.flatMap encode) else none
  normalizePublicWebSocketUrl raw :=
    if startsWith raw "wss://" ∧ Js.length raw ≤ 4096 then some (raw.flatMap encode) else none
  e2eRelayIsolationEnabled := false
  isolatedRelayUrl := none
  configuredRelayUrls := []
  isValidSignedPublicNostrEvent event := decide (event = listed)
  admitted event := decide (event = listed ∨ event = removed)
  deletesProducts event := decide (event = removed)

lemma encode_encode (c : Char) : (encode c).flatMap encode = encode c := by
  unfold encode
  split_ifs with ha
  · decide
  · rw [flatMap_singleton, if_neg ha]

variable {n : Nat} {raw : Text}

lemma startsWith_encoded (h : startsWith raw "wss://" = true) :
    startsWith (raw.flatMap encode) "wss://" = true := by
  obtain ⟨rest, rfl⟩ := isPrefixOf_iff_prefix.1 h
  exact isPrefixOf_iff_prefix.2 ⟨rest.flatMap encode, rfl⟩

lemma normalize_encoded {u : Text} (h : platform.tryNormalizeRelayUrl raw = some u) :
    platform.tryNormalizeRelayUrl u = some u := by
  simp only [platform, Option.ite_none_right_eq_some, Option.some.injEq] at h ⊢
  obtain ⟨hs, rfl⟩ := h
  refine ⟨startsWith_encoded hs, ?_⟩
  rw [flatMap_assoc]
  exact congrArg (raw.flatMap ·) (funext encode_encode)

lemma platform_lawful : platform.Lawful where
  idempotent url u h := normalize_encoded h
  isolated url h := by cases h
  public_normalizes raw url h := by
    simp only [platform, Option.ite_none_right_eq_some, Option.some.injEq] at h ⊢
    obtain ⟨⟨hs, -⟩, rfl⟩ := h
    exact ⟨_, startsWith_encoded hs, rfl⟩
  public_of_short raw url u h hu hsh := by
    simp only [platform, Option.ite_none_right_eq_some, Option.some.injEq] at h hu ⊢
    obtain ⟨⟨hs, -⟩, rfl⟩ := h
    obtain ⟨-, rfl⟩ := hu
    rw [if_pos ⟨startsWith_encoded (startsWith_encoded hs), hsh⟩]
    rfl

def conduitRelay : Text := "wss://relay.conduit.market/main"

def ownRelay : Text := "wss://scarves.market/inbox"

def listing : ListingInput where
  merchantPubkey := merchant
  signedEvents := [listed]
  relayTargets := [⟨ownRelay, true, false, true, false⟩]
  companionDeletionJobId := some removed.id
  prerequisiteShippingEventIds := [parcel]
  readyForDelivery := none
  replacesRejectedListingJobId := none

def listingId : Text := getProductListingDeliveryJobId [listed]

def removal (canonical : Text) (companion : Option Text) : DeletionInput where
  signedEvent := removed
  currentWriteRelayUrls := [ownRelay]
  currentAppRelayUrls := []
  currentPersonalRelayUrls := [ownRelay]
  sourceRelayUrls := []
  canonicalConduitRelayUrl := canonical
  companionListingJobId := companion

def replay (actions : List Action) (s : Outboxes) : Option Outboxes :=
  actions.foldlM (apply platform) s

lemma run_of_replay {actions : List Action} {s t : Outboxes}
    (h : replay actions s = some t) : Run (Step platform) s actions t :=
  Run.of_foldlM (fun _ _ _ hs => hs) h

def accented (n : Nat) : Text := ("wss://relay.conduit.market/" : Text) ++ List.replicate n 'é'

def task (phase : DeletionPhase) : DeletionTask := ⟨"tab", removed.id, 120000, 60000, phase⟩

def persisted (canonical : Text) (companion : Option Text) : List Action :=
  [.persistDeletion (removal canonical companion) 1700000021000]

def opened (job : DeletionJob) : List Action :=
  [.loadDeletion "tab" removed.id 120000 60000, .permitDeletion (task (.loaded job)) job,
    .retireTargets (task .permitted) 1700000022000]

def staged : List Action :=
  [.putShipping ⟨parcel, merchant, [ownRelay], [ownRelay]⟩,
    .putIntents [⟨listingId, merchant, [parcel]⟩], .persistListing listing 1700000021000] ++
    persisted conduitRelay (some listingId) ++ [.markReady listingId 1700000021000]

def listingRun (job : ListingJob) : List Action :=
  [.loadListing 0 listingId, .beginListing ⟨0, job, .loaded⟩ 1700000021000 60000,
    .admitPair ⟨0, job, .waiting listed.id ownRelay⟩ listed.id ownRelay,
    .claimPair ⟨0, job, .admitted listed.id ownRelay⟩ listed.id ownRelay 1700000021000,
    .startPair ⟨0, job, .claimed listed.id ownRelay⟩ listed.id ownRelay 1700000021000 60000,
    .publishPair ⟨0, job, .started listed.id ownRelay⟩ listed.id ownRelay,
    .answerPair ⟨0, job, .answering listed.id ownRelay⟩ listed.id ownRelay .acked,
    .recordPair ⟨0, job, .recording listed.id ownRelay .acked⟩ listed.id ownRelay .acked
      1700000021500 60000]

def attemptRun (job : DeletionJob) : List Action :=
  opened job ++ [.claimLease (task .retired) 1700000022000 false,
    .startDeletionRun (task (.running [conduitRelay, ownRelay] false)) [conduitRelay, ownRelay]
      1700000022000,
    .attemptRelay (task (.running [conduitRelay, ownRelay] true)) conduitRelay [ownRelay]
      1700000022000]

def publishRun (current : DeletionJob) : List Action :=
  [.publishDeletion (task (.attempted current conduitRelay [ownRelay] 1700000022000)) current
    conduitRelay [ownRelay] 1700000022000]

def listedState : Option Outboxes := do
  let s ← replay staged .start
  let job ← s.listings.get listingId
  replay (listingRun job) s

def removedState : Option Outboxes := do
  let s ← listedState
  let job ← s.deletions.get removed.id
  let t ← replay (attemptRun job) s
  let current ← t.deletions.get removed.id
  replay (publishRun current) t

lemma short_removal (companion : Option Text) :
    ShortCanonical platform (removal conduitRelay companion) := by
  have hn : platform.tryNormalizeRelayUrl conduitRelay = some conduitRelay := by
    decide +kernel
  have hp : platform.normalizePublicWebSocketUrl conduitRelay = some conduitRelay := by
    decide +kernel
  intro url hurl u hu
  obtain rfl := Option.some.inj (hp.symm.trans hurl)
  obtain rfl := Option.some.inj (hn.symm.trans hu)
  decide +kernel

lemma removed_log : removedState.map Outboxes.log = some
    [.deletionPublished removed.id removed conduitRelay, .listingAcked listingId listed.id ownRelay,
      .listingPublished listingId listed ownRelay, .shippingAcked parcel ownRelay] := by
  decide +kernel

lemma length_append (l m : Text) : Js.length (l ++ m) = Js.length l + Js.length m := by
  rw [Js.length, map_append, sum_append]
  rfl

lemma length_encoded (n : Nat) : Js.length ((replicate n 'é').flatMap encode) = 6 * n := by
  induction n with
  | zero => rfl
  | succ n ih =>
    rw [replicate_succ, flatMap_cons, length_append, ih, Nat.mul_succ, Nat.add_comm]
    rfl

lemma entry_target {entries : List (Text × RelayRole)} {app personal : List Text} {url : Text}
    (role : RelayRole) (h : (url, role) ∈ entries) :
    ∃ t ∈ targetsOf entries app personal, t.relayUrl = url := by
  refine ⟨_, mem_map_of_mem (a := url) ?_, rfl⟩
  rw [Network.mem_sortUrls, mem_eraseDups]
  exact mem_map_of_mem h

lemma length_relay : Js.length "wss://relay.conduit.market/" = 27 := by decide +kernel

lemma encode_relay : ("wss://relay.conduit.market/" : Text).flatMap encode =
    "wss://relay.conduit.market/" := by decide +kernel

lemma encode_accented (n : Nat) : (accented n).flatMap encode =
    ("wss://relay.conduit.market/" : Text) ++ (replicate n 'é').flatMap encode := by
  have ha : (accented n).flatMap encode = ("wss://relay.conduit.market/" : Text).flatMap
      encode ++ (replicate n 'é').flatMap encode := flatMap_append
  exact ha.trans (congrArg (· ++ (replicate n 'é').flatMap encode) encode_relay)

lemma accented_refused (hn : 4096 < 27 + 6 * n) :
    platform.normalizePublicWebSocketUrl ((accented n).flatMap encode) = none := by
  have hlen : Js.length ((accented n).flatMap encode) = 27 + 6 * n := by
    have hs := (congrArg Js.length (encode_accented n)).trans (length_append _ _)
    exact hs.trans (congrArg₂ (· + ·) length_relay (length_encoded n))
  have hl : ¬ Js.length ((accented n).flatMap encode) ≤ 4096 := by
    omega
  simp only [platform]
  rw [if_neg fun h => hl h.2]

lemma accented_start (n : Nat) : startsWith (accented n) "wss://" = true :=
  isPrefixOf_iff_prefix.2 ⟨("relay.conduit.market/" : Text) ++ replicate n 'é', rfl⟩

lemma accented_public (hn : 27 + n ≤ 4096) :
    platform.normalizePublicWebSocketUrl (accented n) = some ((accented n).flatMap encode) := by
  have hl : Js.length (replicate n 'é') = n := by
    rw [Js.length, map_replicate, sum_replicate]
    exact Nat.mul_one n
  have hlen : Js.length (accented n) = 27 + n :=
    (length_append _ _).trans (congrArg₂ (· + ·) length_relay hl)
  have hs : Js.length (accented n) ≤ 4096 := by
    rw [hlen]
    exact hn
  simp only [platform]
  rw [if_pos ⟨accented_start n, hs⟩]

lemma removal_refused (hs : 27 + n ≤ 4096) (hn : 4096 < 27 + 6 * n) :
    ∃ job, prepareProductDeletionDeliveryJob platform (removal (accented n) none) 1700000021000 =
      .ok job ∧ ∃ target ∈ job.relayPlan, ¬ IsApprovedDeletionTarget platform target ∧
        ∃ other ∈ job.relayPlan, IsApprovedDeletionTarget platform other := by
  have hpub := accented_public hs
  have hraw : platform.tryNormalizeRelayUrl (accented n) = some ((accented n).flatMap encode) := by
    simp only [platform]
    rw [if_pos (accented_start n)]
  have hno := platform_lawful.idempotent _ _ hraw
  have hown : platform.tryNormalizeRelayUrl ownRelay = some ownRelay := by decide +kernel
  have hpl : ∃ plan, planProductDeletionRelays platform (removal (accented n) none) = .ok plan ∧
      (∃ t ∈ plan, t.relayUrl = (accented n).flatMap encode) ∧
      (∃ t ∈ plan, t.relayUrl = ownRelay) ∧
      ∀ t ∈ plan, .author_write ∈ t.roles → t.relayUrl = ownRelay := by
    simp only [planProductDeletionRelays, removal, hpub]
    refine ⟨_, rfl, entry_target .conduit ?_, entry_target .author_write ?_, fun t ht hr => ?_⟩
    · exact mem_append_right _ (mem_withRole.2 ⟨rfl, _, .head _, hno⟩)
    · exact mem_append_left _ (mem_append_left _
        (mem_withRole.2 ⟨rfl, _, .head _, hown⟩))
    · obtain ⟨-, hro⟩ := mem_targetsOf ht
      rw [hro, mem_roles, decide_eq_true_eq, mem_append, mem_append] at hr
      rcases hr with (hr | hr) | hr
      · obtain ⟨-, url, hu, hno'⟩ := mem_withRole.1 hr
        obtain rfl := mem_singleton.1 hu
        exact Option.some.inj (hno'.symm.trans hown)
      · exact absurd (mem_withRole.1 hr).1 (by decide)
      · exact absurd (mem_withRole.1 hr).1 (by decide)
  obtain ⟨plan, hp, ⟨long, hl, hlon⟩, ⟨own, ho, hownUrl⟩, ha⟩ := hpl
  have hsig : IsSignedDeletion platform removed := by decide +kernel
  have hprep : ∃ job, prepareProductDeletionDeliveryJob platform (removal (accented n) none)
      1700000021000 = .ok job ∧ job.relayPlan = plan := by
    unfold prepareProductDeletionDeliveryJob
    rw [hp]
    refine ⟨_, rejects_ok.2 ⟨not_not.2 hsig, rfl⟩, rfl⟩
  obtain ⟨job, hjob, hj⟩ := hprep
  rw [← hj] at hl ho ha
  refine ⟨job, hjob, long, hl, ?_, own, ho, ?_⟩
  · rintro ⟨url, hu, happ⟩
    rw [hlon, hno] at hu
    cases hu
    rw [if_neg (show ¬ platform.e2eRelayIsolationEnabled = true from Bool.false_ne_true),
      accented_refused hn] at happ
    rcases happ with hnone | hloop | hr
    · cases hnone
    · simp [normalizeConfiguredE2eLoopbackRelayUrl, platform] at hloop
    · have heq := hlon.symm.trans (ha long hl hr)
      rw [encode_accented] at heq
      have hh := congrArg (take 8) heq
      rw [take_append_of_le_length (by decide)] at hh
      exact absurd hh (by decide +kernel)
  · refine ⟨ownRelay, by rw [hownUrl]; exact hown, ?_⟩
    exact .inl (by decide +kernel)

end Sample

end Conduit.ProductDelivery
