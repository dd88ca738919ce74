import Conduit.Orders.RelayTabs
import Mathlib.Data.Option.Basic

namespace Conduit.OrderRelay

open Js Stock Runs Throwing List RelayPlan Table

structure TargetGrows (old new : OrderRelayDelivery) : Prop where
  relayUrl : new.relayUrl = old.relayUrl
  source : new.source = old.source
  acked : old.status = .acked → new = old
  generation : old.attemptGeneration.getD 0 ≤ new.attemptGeneration.getD 0
  attempts : old.attemptCount ≤ new.attemptCount

lemma TargetGrows.refl (target : OrderRelayDelivery) : TargetGrows target target :=
  ⟨rfl, rfl, fun _ => rfl, le_refl _, le_refl _⟩

lemma TargetGrows.trans {a b c : OrderRelayDelivery} (h₁ : TargetGrows a b)
    (h₂ : TargetGrows b c) : TargetGrows a c where
  relayUrl := h₂.relayUrl.trans h₁.relayUrl
  source := h₂.source.trans h₁.source
  acked := by
    intro ha
    have hb : b = a := h₁.acked ha
    rw [h₂.acked (hb ▸ ha), hb]
  generation := h₁.generation.trans h₂.generation
  attempts := h₁.attempts.trans h₂.attempts

structure DeliveryGrows (old new : OrderRelayDeliveryRecord) : Prop where
  rumorId : new.rumorId = old.rumorId
  signedRecipientWrap : new.signedRecipientWrap = old.signedRecipientWrap
  route : new.route = old.route
  routingAuthority : new.routingAuthority = old.routingAuthority
  compatibilityPlan : new.compatibilityPlan = old.compatibilityPlan
  targets : ∃ f, (∀ target, TargetGrows target (f target)) ∧
    new.relayDelivery = old.relayDelivery.map f

namespace DeliveryGrows

lemma refl (delivery : OrderRelayDeliveryRecord) : DeliveryGrows delivery delivery :=
  ⟨rfl, rfl, rfl, rfl, rfl, id, TargetGrows.refl, (map_id _).symm⟩

lemma trans {a b c : OrderRelayDeliveryRecord} (h₁ : DeliveryGrows a b)
    (h₂ : DeliveryGrows b c) : DeliveryGrows a c where
  rumorId := h₂.rumorId.trans h₁.rumorId
  signedRecipientWrap := h₂.signedRecipientWrap.trans h₁.signedRecipientWrap
  route := h₂.route.trans h₁.route
  routingAuthority := h₂.routingAuthority.trans h₁.routingAuthority
  compatibilityPlan := h₂.compatibilityPlan.trans h₁.compatibilityPlan
  targets := by
    obtain ⟨f, hf, hb⟩ := h₁.targets
    obtain ⟨g, hg, hc⟩ := h₂.targets
    refine ⟨g ∘ f, fun target => (hf target).trans (hg _), ?_⟩
    rw [hc, hb, map_map]

variable {old new : OrderRelayDeliveryRecord}

lemma plan (h : DeliveryGrows old new) : immutableRelayPlan new = immutableRelayPlan old := by
  obtain ⟨f, hf, hn⟩ := h.targets
  have hp : new.relayDelivery.map (fun target => (target.relayUrl, target.source)) =
      old.relayDelivery.map fun target => (target.relayUrl, target.source) := by
    rw [hn, map_map]
    apply map_congr_left
    intro target _
    simp only [Function.comp_apply, (hf target).relayUrl, (hf target).source]
  simp only [immutableRelayPlan, h.rumorId, h.signedRecipientWrap, h.route, h.routingAuthority,
    h.compatibilityPlan, hp]

lemma target (h : DeliveryGrows old new) {t : OrderRelayDelivery} (ht : t ∈ old.relayDelivery) :
    ∃ t' ∈ new.relayDelivery, TargetGrows t t' := by
  obtain ⟨f, hf, hn⟩ := h.targets
  exact ⟨f t, hn ▸ mem_map_of_mem ht, hf t⟩

end DeliveryGrows

variable {d d' : OrderRelayDeliveryRecord}

section

variable (h : immutableRelayPlan d = immutableRelayPlan d')
include h

lemma relayUrls_of_plan : d.relayUrls = d'.relayUrls := by
  have hp := congrArg (fun plan : RelayPlan => plan.relayPlan.map Prod.fst) h
  simp only [immutableRelayPlan, map_map] at hp
  exact hp

lemma sources_of_plan (p : OrderRelaySource → Prop) :
    (∀ target ∈ d.relayDelivery, p target.source) ↔
      ∀ target ∈ d'.relayDelivery, p target.source := by
  have hp := congrArg (fun plan : RelayPlan => plan.relayPlan.map Prod.snd) h
  simp only [immutableRelayPlan, map_map] at hp
  have ha := congrArg (fun l : List OrderRelaySource => ∀ source ∈ l, p source) hp
  simpa [forall_mem_map] using ha

lemma hasValid_of_plan {P : RelayPlatform} {merchant : Text} :
    HasValidOrderRelayRoutingAuthority P d merchant ↔
      HasValidOrderRelayRoutingAuthority P d' merchant := by
  have hu := relayUrls_of_plan h
  have hs := sources_of_plan h
  have hw : d.signedRecipientWrap = d'.signedRecipientWrap :=
    congrArg signedRecipientWrap h
  have hr : d.route = d'.route := congrArg route h
  have ha : d.routingAuthority = d'.routingAuthority :=
    congrArg routingAuthority h
  have hc : d.compatibilityPlan = d'.compatibilityPlan :=
    congrArg compatibilityPlan h
  unfold HasValidOrderRelayRoutingAuthority IsHistorical
  rw [hw, hr, ha, hc, hu]
  rw [propext (hs FromRegistry), propext (hs (· = .declared))]

end

section Updates
variable {P : RelayPlatform}

def StatusOk (row : OrderLifecycle) : Prop :=
  ∀ delivery, row.orderRelayDelivery = some delivery →
    (row.orderDeliveryStatus = .sent ↔ AnyAcked delivery)

/-- What any update may do to an order's row. -/
structure Grows (old new : OrderLifecycle) : Prop where
  snapshot : immutableLifecycleSnapshot new = immutableLifecycleSnapshot old
  delivery : ∀ d, old.orderRelayDelivery = some d →
    ∃ d', new.orderRelayDelivery = some d' ∧ DeliveryGrows d d'
  status : StatusOk old → StatusOk new

lemma Grows.refl (row : OrderLifecycle) : Grows row row :=
  ⟨rfl, fun d hd => ⟨d, hd, .refl d⟩, id⟩

lemma Grows.trans {a b c : OrderLifecycle} (h₁ : Grows a b) (h₂ : Grows b c) : Grows a c where
  snapshot := h₂.snapshot.trans h₁.snapshot
  delivery := by
    intro d hd
    obtain ⟨d₁, hd₁, hg₁⟩ := h₁.delivery d hd
    obtain ⟨d₂, hd₂, hg₂⟩ := h₂.delivery d₁ hd₁
    exact ⟨d₂, hd₂, hg₁.trans hg₂⟩
  status := fun h => h₂.status (h₁.status h)

lemma Grows.orderId {old new : OrderLifecycle} (h : Grows old new) : new.orderId = old.orderId :=
  congrArg (·.1.orderId) h.snapshot

lemma Grows.buyerPubkey {old new : OrderLifecycle} (h : Grows old new) :
    new.buyerPubkey = old.buyerPubkey :=
  congrArg (·.1.buyerPubkey) h.snapshot

lemma beginTarget_grows (time : Int) (urls : List Text) (target : OrderRelayDelivery) :
    TargetGrows target (beginTarget time urls target) := by
  unfold beginTarget
  split_ifs with hb
  · refine ⟨rfl, rfl, fun ha => absurd ha hb.2, ?_, Nat.le_succ _⟩
    exact Nat.le_succ _
  · exact .refl target

variable {time : Int}
  {delivery : OrderRelayDeliveryRecord} {current : OrderLifecycle} {input : BeginInput}
  {urls : List Text}

lemma beginTarget_acked {target : OrderRelayDelivery} :
    (beginTarget time urls target).status = .acked ↔ target.status = .acked := by
  unfold beginTarget
  split_ifs with hb
  · exact ⟨nofun, fun ha => absurd ha hb.2⟩
  · rfl

lemma begunRow_grows (hd : current.orderRelayDelivery = some delivery) :
    Grows current (begunRow input time current delivery urls) where
  snapshot := rfl
  delivery := by
    intro d hd'
    cases hd.symm.trans hd'
    exact ⟨_, rfl, rfl, rfl, rfl, rfl, rfl, beginTarget time urls, beginTarget_grows time urls, rfl⟩
  status := by
    intro hok d' hd'
    cases hd'
    have hs := hok delivery hd
    have ha : (∃ target ∈ delivery.relayDelivery.map (beginTarget time urls),
        target.status = .acked) ↔ AnyAcked delivery := by
      simp [beginTarget_acked, AnyAcked]
    simp only [AnyAcked, begunRow]
    rw [ha, ← hs]
    split_ifs with h
    · exact ⟨fun _ => h, fun _ => rfl⟩
    · exact ⟨nofun, fun h' => absurd h' h⟩

lemma beginAttempt_grows {shouldContinue : Bool} {row : OrderLifecycle}
    {generations : List (Text × Nat)}
    (h : beginAttempt P input shouldContinue time current = some (row, generations)) :
    Grows current row := by
  simp only [beginAttempt, run_gives] at h
  obtain ⟨delivery, hd, _, h⟩ := h
  split_ifs at h
  · cases h
    exact .refl _
  · cases h
    exact begunRow_grows hd

lemma recordTarget_grows (input : RecordInput) (time : Int)
    (delivery : OrderRelayDeliveryRecord) (target : OrderRelayDelivery) :
    TargetGrows target (recordTarget input time delivery target) := by
  unfold recordTarget
  split
  · exact .refl target
  · rename_i outcome _
    by_cases ha : Accepts input delivery target outcome
    · rw [if_pos ha]
      exact ⟨rfl, rfl, fun hac => absurd hac ha.1, le_refl _, le_refl _⟩
    · rw [if_neg ha]
      exact .refl target

@[simp] lemma releaseLease_relayDelivery (release : Bool) (leaseOwner : Text)
    (delivery : OrderRelayDeliveryRecord) :
    (releaseLease release leaseOwner delivery).relayDelivery = delivery.relayDelivery := by
  unfold releaseLease
  split_ifs <;> rfl

lemma releaseLease_grows (release : Bool) (owner : Text) (delivery : OrderRelayDeliveryRecord) :
    DeliveryGrows delivery (releaseLease release owner delivery) := by
  unfold releaseLease
  split_ifs
  · exact ⟨rfl, rfl, rfl, rfl, rfl, id, TargetGrows.refl, (map_id _).symm⟩
  · exact .refl delivery

lemma recordedDelivery_grows (input : RecordInput) (time : Int)
    (delivery : OrderRelayDeliveryRecord) :
    DeliveryGrows delivery (recordedDelivery input time delivery) := by
  refine DeliveryGrows.trans ?_ (releaseLease_grows _ _ _)
  exact ⟨rfl, rfl, rfl, rfl, rfl, recordTarget input time delivery,
    recordTarget_grows input time delivery, rfl⟩

lemma recordOutcomes_grows (input : RecordInput) (time : Int) (current : OrderLifecycle) :
    Grows current (recordOutcomes P input time current) := by
  unfold recordOutcomes
  split
  · exact .refl current
  · rename_i delivery hd
    split_ifs
    · refine ⟨rfl, ?_, ?_⟩
      · intro d hd'
        cases hd.symm.trans hd'
        exact ⟨_, rfl, recordedDelivery_grows input time delivery⟩
      · intro _ d' hd'
        cases hd'
        simp only [recordedRow]
        split_ifs with h
        · exact ⟨fun _ => h, fun _ => rfl⟩
        · exact ⟨nofun, fun h' => absurd h' h⟩
    · exact .refl current

lemma grows_of_lease {new : OrderLifecycle} {d' : OrderRelayDeliveryRecord}
    (hd : current.orderRelayDelivery = some delivery) (hn : new.orderRelayDelivery = some d')
    (hs : immutableLifecycleSnapshot new = immutableLifecycleSnapshot current)
    (hst : new.orderDeliveryStatus = current.orderDeliveryStatus)
    (hp : immutableRelayPlan d' = immutableRelayPlan delivery)
    (ht : d'.relayDelivery = delivery.relayDelivery) : Grows current new where
  snapshot := hs
  delivery := by
    intro d hd₀
    cases hd.symm.trans hd₀
    exact ⟨d', hn, congrArg rumorId hp, congrArg signedRecipientWrap hp,
      congrArg route hp, congrArg routingAuthority hp,
      congrArg compatibilityPlan hp, id, TargetGrows.refl, by
        rw [map_id]; exact ht⟩
  status := by
    intro hok d hd₀
    cases hn.symm.trans hd₀
    rw [hst, hok delivery hd, AnyAcked, AnyAcked, ht]

lemma claimRetry_grows (input : RetryInput) (time : Int) (current : OrderLifecycle) :
    Grows current (claimRetry P input time current) := by
  unfold claimRetry
  split
  · exact .refl current
  · rename_i delivery hd
    split_ifs
    · exact grows_of_lease hd rfl rfl rfl rfl rfl
    · exact .refl current

lemma finishRetry_grows (owner : Text) (retryNow now : Int) (current : OrderLifecycle) :
    Grows current (finishRetry P owner retryNow now current) := by
  unfold finishRetry
  split
  · exact .refl current
  · rename_i delivery hd
    by_cases ho : delivery.deliveryLeaseOwner = some owner
    · rw [if_pos ho]
      exact grows_of_lease hd rfl rfl rfl rfl rfl
    · rw [if_neg ho]
      exact .refl current

end Updates

section Staging
variable {P : RelayPlatform} {life : StagedOrderLifecycleInput}
  {prepared : PreparedOrderRelayDelivery} {owner : Text} {time : Int}

lemma prepareStage_ok {record : OrderLifecycle}
    (h : prepareStage P life prepared owner time = .ok record) :
    record = stagedRecord life prepared owner time ∧
      (Declared life prepared ∨ Compatibility P prepared) ∧
      P.isValidSignedPublicNostrEvent prepared.signedRecipientWrap = true ∧
      InOrderScope prepared.signedRecipientWrap life.merchantPubkey ∧
      RelayPlanOk P life prepared := by
  obtain ⟨_, _, h⟩ := bind_ok.1 h
  obtain ⟨hr, h⟩ := rejects_ok.1 h
  obtain ⟨hv, h⟩ := rejects_ok.1 h
  obtain ⟨hs, h⟩ := rejects_ok.1 h
  obtain ⟨_, h⟩ := rejects_ok.1 h
  obtain ⟨hp, h⟩ := rejects_ok.1 h
  obtain ⟨_, h⟩ := rejects_ok.1 h
  refine ⟨(pure_ok.1 h).symm, (not_not.1 hr).2.2.2, ?_, not_not.1 hs, not_not.1 hp⟩
  simpa using hv

lemma stagedDelivery_relayUrls :
    (stagedDelivery life prepared owner time).relayUrls = prepared.relayUrls := by
  simp only [OrderRelayDeliveryRecord.relayUrls, stagedDelivery, map_map]
  rfl

lemma stagedDelivery_valid (hro : Declared life prepared ∨ Compatibility P prepared)
    (hv : P.isValidSignedPublicNostrEvent prepared.signedRecipientWrap = true)
    (hs : InOrderScope prepared.signedRecipientWrap life.merchantPubkey)
    (hp : RelayPlanOk P life prepared) :
    HasValidOrderRelayRoutingAuthority P (stagedDelivery life prepared owner time)
      life.merchantPubkey := by
  obtain ⟨hne, hso, -, -, hu⟩ := hp
  by_cases hd : Declared life prepared
  · rw [if_pos hd] at hu
    obtain ⟨hr, hc, authority, ha, hok⟩ := hd
    have ha : prepared.routingAuthority = some authority := ha
    rw [ha, Option.map_some, Option.some_inj] at hu
    simp only [HasValidOrderRelayRoutingAuthority, stagedDelivery_relayUrls]
    simp only [stagedDelivery, ha, hc, hr]
    exact ⟨hok, hu ▸ hne, hu⟩
  · obtain ⟨hr, ha, plan, hc, happ⟩ := hro.resolve_left hd
    have hc : prepared.compatibilityPlan = some plan := hc
    rw [if_neg hd, hc, Option.map_some, Option.some_inj] at hu
    simp only [HasValidOrderRelayRoutingAuthority, stagedDelivery_relayUrls]
    simp only [stagedDelivery, ha, hc, hr]
    refine ⟨hv, hs, hu, .inl (hu ▸ happ), ?_⟩
    intro target ht
    obtain ⟨planned, hm, rfl⟩ := mem_map.1 ht
    have := hso planned hm
    rwa [if_neg hd] at this

end Staging

section System
variable (P : RelayPlatform)

def IsStaged (record : OrderLifecycle) : Prop :=
  ∃ d, record.orderRelayDelivery = some d ∧
    HasValidOrderRelayRoutingAuthority P d record.merchantPubkey ∧ d.relayUrls.Nodup ∧
    StatusOk record

/-- The row of an order that was staged as `record`. -/
structure Holds (record row : OrderLifecycle) : Prop where
  snapshot : immutableLifecycleSnapshot row = immutableLifecycleSnapshot record
  delivery : ∃ d₀ d, record.orderRelayDelivery = some d₀ ∧ row.orderRelayDelivery = some d ∧
    immutableRelayPlan d = immutableRelayPlan d₀
  status : StatusOk row

def RowsKept (old new : OrderTable) : Prop :=
  ∀ orderId row, old.get orderId = some row → ∃ row', new.get orderId = some row' ∧ Grows row row'

variable (table : OrderTable)

def BegunOk (b : Begun) : Prop :=
  ∃ row d, table.get b.orderId = some row ∧ row.orderRelayDelivery = some d ∧ 0 < b.generation ∧
    ∃ target ∈ d.relayDelivery, target.relayUrl = b.relayUrl ∧
      b.generation ≤ target.attemptGeneration.getD 0 ∧ 0 < target.attemptCount

def PublishedOk (p : Publication) : Prop :=
  ∃ row d, table.get p.orderId = some row ∧ row.orderRelayDelivery = some d ∧
    p.event = d.signedRecipientWrap ∧ p.relayUrl ∈ d.relayUrls

def RetryPhase.attempt : RetryPhase → Option (Text × Nat × Text)
  | .begun relayUrl generation wrapId => some (relayUrl, generation, wrapId)
  | .published relayUrl generation wrapId => some (relayUrl, generation, wrapId)
  | _ => none

def TaskOk (begun : List Begun) (task : RetryTask) : Prop :=
  ∃ row d, table.get task.input.orderId = some row ∧ row.orderRelayDelivery = some d ∧
    row.buyerPubkey = task.claimed.buyerPubkey ∧
    immutableRelayPlan task.delivery = immutableRelayPlan d ∧
    (∀ url ∈ task.rest, url ∈ d.relayUrls) ∧
    ∀ url g w, task.phase.attempt = some (url, g, w) →
      url ∈ d.relayUrls ∧ w = d.signedRecipientWrap.id ∧ ⟨task.input.orderId, url, g⟩ ∈ begun

structure Inv (s : RelayTabs) : Prop where
  staged : ∀ r ∈ s.staged, IsStaged P r ∧ ∃ row, s.table.get r.orderId = some row ∧ Holds r row
  begun : ∀ b ∈ s.begun, BegunOk s.table b
  published : ∀ p ∈ s.published, PublishedOk s.table p
  retries : ∀ task ∈ s.retries, TaskOk s.table s.begun task

structure StepFacts (s t : RelayTabs) : Prop where
  kept : RowsKept s.table t.table
  stagedKept : ∀ r ∈ s.staged, r ∈ t.staged
  begunKept : ∀ b ∈ s.begun, b ∈ t.begun
  staged : ∀ r ∈ t.staged, r ∈ s.staged ∨ IsStaged P r ∧ t.table.get r.orderId = some r
  begun : ∀ b ∈ t.begun, b ∈ s.begun ∨ BegunOk t.table b
  published : ∀ p ∈ t.published, p ∈ s.published ∨ PublishedOk t.table p
  retries : ∀ task ∈ t.retries, task ∈ s.retries ∨ TaskOk t.table t.begun task

end System

section Keeping
variable {P : RelayPlatform} {old new : OrderTable}

lemma RowsKept.refl (table : OrderTable) : RowsKept table table :=
  fun _ row h => ⟨row, h, .refl row⟩

lemma RowsKept.trans {a b c : OrderTable} (h₁ : RowsKept a b) (h₂ : RowsKept b c) :
    RowsKept a c := by
  intro orderId row hr
  obtain ⟨row₁, hr₁, hg₁⟩ := h₁ orderId row hr
  obtain ⟨row₂, hr₂, hg₂⟩ := h₂ orderId row₁ hr₁
  exact ⟨row₂, hr₂, hg₁.trans hg₂⟩

variable {orderId : Text} {record row : OrderLifecycle}

lemma rowsKept_put {current : OrderLifecycle} (hg : old.get orderId = some current)
    (hgrw : Grows current row) : RowsKept old (old.put row) := by
  intro k kept hk
  have hc : current.orderId = orderId := key_of_get (t := old) hg
  by_cases hkey : k = row.orderId
  · have heq : kept = current := by
      rw [hkey, hgrw.orderId, hc, hg] at hk
      exact (Option.some_inj.1 hk).symm
    exact ⟨row, hkey ▸ get_put_self old row, heq ▸ hgrw⟩
  · exact ⟨kept, (get_put_of_ne (t := old) (a := row) hkey).trans hk, .refl kept⟩

lemma rowsKept_update {updater : OrderLifecycle → OrderLifecycle}
    (hg : ∀ row, Grows row (updater row)) : RowsKept old (updateOrder orderId updater old) := by
  unfold updateOrder
  split
  · rename_i current hget
    exact rowsKept_put hget (hg current)
  · exact .refl old

lemma rowsKept_insert (hg : old.get record.orderId = none) : RowsKept old (old.put record) := by
  intro k kept hk
  have hne : k ≠ record.orderId := by
    rintro rfl
    rw [hg] at hk
    cases hk
  exact ⟨kept, (get_put_of_ne (t := old) (a := record) hne).trans hk, .refl kept⟩

lemma RowsKept.delivery (h : RowsKept old new) {d : OrderRelayDeliveryRecord}
    (hr : old.get orderId = some row) (hd : row.orderRelayDelivery = some d) :
    ∃ row' d', new.get orderId = some row' ∧ row'.orderRelayDelivery = some d' ∧
      Grows row row' ∧ DeliveryGrows d d' := by
  obtain ⟨row', hr', hg⟩ := h orderId row hr
  obtain ⟨d', hd', hdgr⟩ := hg.delivery d hd
  exact ⟨row', d', hr', hd', hg, hdgr⟩

lemma Holds.grows {row' : OrderLifecycle} (h : Holds record row) (hg : Grows row row') :
    Holds record row' where
  snapshot := hg.snapshot.trans h.snapshot
  delivery := by
    obtain ⟨d₀, d, hd₀, hd, hp⟩ := h.delivery
    obtain ⟨d', hd', hdgr⟩ := hg.delivery d hd
    exact ⟨d₀, d', hd₀, hd', hdgr.plan.trans hp⟩
  status := hg.status h.status

lemma BegunOk.kept (h : RowsKept old new) {b : Begun} (hb : BegunOk old b) : BegunOk new b := by
  obtain ⟨row, d, hr, hd, hp, target, ht, hu, hg, ha⟩ := hb
  obtain ⟨row', d', hr', hd', -, hgrw⟩ := h.delivery hr hd
  obtain ⟨target', ht', htgr⟩ := hgrw.target ht
  exact ⟨row', d', hr', hd', hp, target', ht', htgr.relayUrl.trans hu,
    hg.trans htgr.generation, ha.trans_le htgr.attempts⟩

lemma PublishedOk.kept (h : RowsKept old new) {p : Publication} (hp : PublishedOk old p) :
    PublishedOk new p := by
  obtain ⟨row, d, hr, hd, hev, hu⟩ := hp
  obtain ⟨row', d', hr', hd', -, hg⟩ := h.delivery hr hd
  exact ⟨row', d', hr', hd', hev.trans hg.signedRecipientWrap.symm, relayUrls_of_plan hg.plan ▸ hu⟩

lemma TaskOk.kept (h : RowsKept old new) {begun begun' : List Begun}
    (hb : ∀ b ∈ begun, b ∈ begun') {task : RetryTask} (ht : TaskOk old begun task) :
    TaskOk new begun' task := by
  obtain ⟨row, d, hr, hd, hbu, hp, hre, ha⟩ := ht
  obtain ⟨row', d', hr', hd', hg, hdgr⟩ := h.delivery hr hd
  have hu : d'.relayUrls = d.relayUrls := relayUrls_of_plan hdgr.plan
  refine ⟨row', d', hr', hd', hg.buyerPubkey.trans hbu, hp.trans hdgr.plan.symm, hu ▸ hre, ?_⟩
  intro url g w hph
  obtain ⟨hurl, hw, hm⟩ := ha url g w hph
  exact ⟨hu ▸ hurl, by rw [hw, hdgr.signedRecipientWrap], hb _ hm⟩

lemma holds_self (h : IsStaged P record) : Holds record record := by
  obtain ⟨d, hd, -, -, hst⟩ := h
  exact ⟨rfl, ⟨d, d, hd, hd, rfl⟩, hst⟩

lemma StepFacts.inv {s t : RelayTabs} (h : StepFacts P s t) (hs : Inv P s) : Inv P t where
  staged := by
    intro r hr
    rcases h.staged r hr with hold | ⟨hst, hg⟩
    · obtain ⟨hst, row, hrow, hh⟩ := hs.staged r hold
      obtain ⟨row', hrow', hgrw⟩ := h.kept _ _ hrow
      exact ⟨hst, row', hrow', hh.grows hgrw⟩
    · exact ⟨hst, r, hg, holds_self hst⟩
  begun := fun b hb => (h.begun b hb).elim (fun hold => (hs.begun b hold).kept h.kept) id
  published := fun p hp =>
    (h.published p hp).elim (fun hold => (hs.published p hold).kept h.kept) id
  retries := fun task ht =>
    (h.retries task ht).elim (fun hold => (hs.retries task hold).kept h.kept h.begunKept) id

end Keeping

end Conduit.OrderRelay
