import Conduit.Inbox.PrivateWraps

namespace Conduit.PrivateDelivery

open Js Stock Runs Throwing List Option Table OrderRelay
open OrderRelay (RelayPlatform DeclarationState toOption_eq_some privateDeliveryRetryTargets_sub)

section Steps
variable {s t : DeliveryTabs}

lemma StepFacts.refl (hs : Inv s) : StepFacts s s where
  kept := .refl s.rows
  sealedKept := fun _ h => h
  rows := hs.rows
  unique := hs.unique
  sends := fun _ h => .inl h
  retries := fun _ h => .inl h
  staged := .inl rfl
  recorded := fun _ h => .inl h
  published := fun _ h => .inl h
  reports := fun _ h => .inl h

lemma StepFacts.moveSend (h : StepFacts s t) {task next : SendTask} (hse : t.sends = s.sends)
    (hn : SendOk t next) : StepFacts s (t.moveSend task next) := by
  refine { h with sends := ?_ }
  intro other ho
  rcases mem_cons.1 ho with rfl | hold
  · exact .inr hn
  · exact .inl (hse ▸ mem_of_mem_erase hold)

lemma StepFacts.moveRetry (h : StepFacts s t) {task next : RetryTask}
    (hr : t.retries = s.retries) (hn : RetryOk t next) : StepFacts s (t.moveRetry task next) := by
  refine { h with retries := ?_ }
  intro other ho
  rcases mem_cons.1 ho with rfl | hold
  · exact .inr hn
  · exact .inl (hr ▸ mem_of_mem_erase hold)

lemma facts_of_update (hs : Inv s) {id : Text} {f : DeliveryRow → DeliveryRow}
    (hgrw : ∀ row, Grows row (f row)) (hva : ∀ row, (f row).value = row.value) :
    StepFacts s { s with rows := updateRow id f s.rows } where
  kept := rowsKept_update hgrw
  sealedKept := fun _ h => h
  rows := by
    intro row' hr'
    obtain ⟨row, hr, hv, hg⟩ := rows_update hgrw hva hr'
    obtain ⟨hm, hid, hsnd⟩ := hs.rows row hr
    exact ⟨hv ▸ hm, by rw [hv, hg.id, hid], hg.sound hsnd⟩
  unique := hs.unique
  sends := fun _ h => .inl h
  retries := fun _ h => .inl h
  staged := .inl rfl
  recorded := fun _ h => .inl h
  published := fun _ h => .inl h
  reports := fun _ h => .inl h

lemma releaseClaim_value (owner : Text) (row : DeliveryRow) :
    (releaseClaim owner row).value = row.value := by
  unfold releaseClaim
  split_ifs <;> rfl

lemma heartbeat_value (owner : Text) (now : Int) (row : DeliveryRow) :
    (heartbeat owner now row).value = row.value := by
  unfold heartbeat
  split_ifs <;> rfl

lemma release_update_facts (hs : Inv s) (id owner : Text) :
    StepFacts s { s with rows := updateRow id (releaseClaim owner) s.rows } :=
  facts_of_update hs (releaseClaim_grows owner) (releaseClaim_value owner)

variable {call : RecordCall} {l : List SealedJob}

lemma unique_cons {value : SealedJob} (h : ∀ a ∈ l, ∀ b ∈ l, a.nonce = b.nonce → a = b)
    (hf : ∀ other ∈ l, other.nonce ≠ value.nonce) :
    ∀ a ∈ value :: l, ∀ b ∈ value :: l, a.nonce = b.nonce → a = b := by
  intro a ha b hb hab
  rcases mem_cons.1 ha with rfl | ha' <;> rcases mem_cons.1 hb with rfl | hb'
  · rfl
  · exact absurd hab.symm (hf b hb')
  · exact absurd hab (hf a ha')
  · exact h a ha' b hb' hab

lemma load_facts (hs : Inv s) {next : RecordCall} {nonce : Nat}
    (h : loadCall call nonce s = some (next, t)) :
    StepFacts s t ∧ t.sends = s.sends ∧ t.retries = s.retries ∧ CallOk t.sealedJobs next ∧
      next.id = call.id ∧ next.eventId = call.eventId ∧ next.delivery = call.delivery := by
  simp only [loadCall, run_gives] at h
  obtain ⟨⟨-, -, hf⟩, row, hg, job, hj, h⟩ := h
  cases h
  have hr := hs.rows row (mem_of_get hg)
  refine ⟨{ StepFacts.refl hs with
    sealedKept := fun _ hv => .tail _ hv
    rows := ?_
    unique := unique_cons hs.unique hf
    sends := fun _ h => .inl h
    retries := fun _ h => .inl h }, rfl, rfl, ?_, rfl, rfl, rfl⟩
  · intro row hr
    obtain ⟨hm, hre⟩ := hs.rows row hr
    exact ⟨.tail _ hm, hre⟩
  · intro n value hl
    cases hl
    exact ⟨.head _, rfl, row.value, .tail _ hr.1, rfl, hj⟩

lemma commit_facts (hs : Inv s) (hca : CallOk s.sealedJobs call) {now : Int}
    {next : Option RecordCall} (h : commitCall call now s = some (next, t)) :
    StepFacts s t ∧ t.sends = s.sends ∧ t.retries = s.retries ∧
      (next = none → ∃ current row, s.rows.get call.id = some current ∧
        t.rows.get call.id = some row ∧ updateLeg call.eventId (recordLeg call.delivery)
          current.value.job.legs = some row.value.job.legs) ∧
      ∀ c, next = some c → c = { call with attempt := call.attempt + 1, loaded := none } := by
  simp only [commitCall, bind_gives] at h
  obtain ⟨⟨nonce, value⟩, hl, committed, ht, h⟩ := h
  obtain ⟨hmem, hid, read, hr, hn, hm⟩ := hca nonce value hl
  simp only [recordTransaction, bind_gives] at ht
  obtain ⟨current, hg, ht⟩ := ht
  split_ifs at ht with heq
  · cases ht
    cases h
    have hcur := hs.rows current (mem_of_get hg)
    have hv : read = current.value :=
      hs.unique read hr _ hcur.1 (hn.trans heq.symm)
    rw [hv] at hm
    obtain ⟨-, hle, hj⟩ := mergedJob_spec hm
    have hk : current.id = call.id := key_of_get (t := s.rows) hg
    have hgrw : Grows current (recordedRow call value now current) := ⟨rfl, hj, .inr rfl⟩
    have hnew := get_put_grown hg hgrw
    refine ⟨⟨rowsKept_put hg hgrw, fun _ h => h, ?_, hs.unique, fun _ h => .inl h,
      fun _ h => .inl h, .inl rfl, ?_, fun _ h => .inl h, fun _ h => .inl h⟩, rfl, rfl,
      fun _ => ⟨current, _, hg, hnew, hle⟩,
      fun _ hc => absurd hc (some_ne_none _).symm⟩
    · intro row hrow
      rcases mem_put.1 hrow with rfl | ⟨hold, -⟩
      · exact ⟨hmem, hid.trans hk.symm, .inr rfl⟩
      · exact hs.rows row hold
    · intro id hid'
      rcases mem_cons.1 hid' with rfl | hold
      · exact .inr ⟨_, hnew, rfl⟩
      · exact .inl hold
  · cases ht
    cases h
    exact ⟨.refl hs, rfl, rfl, fun hno => absurd hno (some_ne_none _),
      fun c hc => (some_inj.1 hc).symm⟩

lemma callOk_unloaded (h : call.loaded = none) : CallOk l call := by
  intro nonce value hl
  rw [h] at hl
  cases hl

end Steps

section Actions
variable {P : RelayPlatform} {principal : Text} {s t : DeliveryTabs}
  {task : SendTask} {now : Int} {outcome : Option PublishWithPlannerResult}
  {leg : PrivateDeliveryLeg} {nonce : Nat} {owner : Text}

lemma stage_facts (hs : Inv s) {rumorId senderPubkey : Text} {selfCopy : Bool}
    {requireAck flagsFailure : Bool}
    (h : stage P principal rumorId senderPubkey selfCopy leg requireAck flagsFailure
      nonce owner now s = some t) : StepFacts s t := by
  simp only [stage, run_gives] at h
  obtain ⟨-, hf, rows, hr, h⟩ := h
  cases h
  rw [toOption_eq_some] at hr
  obtain ⟨hn, hr⟩ := rejects_ok.1 hr
  cases hr
  have hg := not_not.1 hn
  have hp := get_put_self s.rows (⟨deliveryId rumorId selfCopy,
    ⟨nonce, deliveryId rumorId selfCopy, ⟨rumorId, senderPubkey, [leg], now⟩⟩, .queued, now,
    some ⟨owner, now + claimMs⟩⟩ : DeliveryRow)
  refine ⟨rowsKept_insert hg, fun _ hv => .tail _ hv, ?_,
    unique_cons hs.unique hf, ?_, fun _ h => .inl h, .inr ⟨_, rfl, hg, by rw [hp]; rfl⟩,
    fun _ h => .inl h, fun _ h => .inl h, fun _ h => .inl h⟩
  · intro row hrow
    rcases mem_put.1 hrow with rfl | ⟨hold, -⟩
    · exact ⟨.head _, rfl, .inl rfl⟩
    · obtain ⟨hm, hre⟩ := hs.rows row hold
      exact ⟨.tail _ hm, hre⟩
  · intro task ht
    rcases mem_cons.1 ht with rfl | hold
    · exact .inr ⟨⟨_, leg, hp, rfl, .refl leg⟩, trivial⟩
    · exact .inl hold

lemma hold_facts (hs : Inv s) (h : hold task s = some t) : StepFacts s t := by
  simp only [hold, run_gives] at h
  obtain ⟨⟨ht, -⟩, owner, -, h⟩ := h
  cases h
  exact (StepFacts.refl hs).moveSend rfl ⟨(hs.sends task ht).1, trivial⟩

lemma publish_facts (hs : Inv s) (h : publish task outcome s = some t) : StepFacts s t := by
  simp only [publish, run_gives] at h
  obtain ⟨⟨ht, hw⟩, h⟩ := h
  split at h
  · rename_i owner hph
    cases h
    obtain ⟨hsa, -⟩ := hs.sends task ht
    have hm : StepFacts s (s.moveSend task { task with
        phase := .recording owner outcome ⟨task.id, task.leg.event.id, outcome, true, 0, none⟩ }) :=
      (StepFacts.refl hs).moveSend rfl
        ⟨hsa, callOk_unloaded rfl, rfl, rfl, rfl, hw⟩
    refine { hm with published := ?_ }
    intro p hp
    rcases mem_cons.1 hp with rfl | hold
    · obtain ⟨row, leg, hr, hl, hg⟩ := hsa
      exact .inr ⟨row, leg, hr, by rw [hl]; exact mem_singleton_self leg,
        hg.recipientPubkey, hg.event, fun url hu => hg.relayUrls ▸ hu⟩
    · exact .inl hold
  · cases h

lemma load_send_facts (hs : Inv s) (h : load task nonce s = some t) : StepFacts s t := by
  simp only [load, run_gives] at h
  obtain ⟨ht, h⟩ := h
  split at h
  · rename_i owner outcome call hph
    simp only [bind_gives] at h
    obtain ⟨⟨next, u⟩, hl, h⟩ := h
    cases h
    obtain ⟨hf, hsends, -, hc, hid, hev, hd⟩ := load_facts hs hl
    have hse := hs.sends task ht
    obtain ⟨hsa, -⟩ := hse.kept hf.kept hf.sealedKept
    have hold := hse.2
    rw [hph] at hold
    obtain ⟨-, hid', hev', hd', hw⟩ := hold
    exact hf.moveSend hsends ⟨hsa, hc, hid.trans hid', hev.trans hev', hd.trans hd', hw⟩
  · cases h

lemma reported_recorded {result : PublishWithPlannerResult} (hg : LegGrows task.leg leg)
    (hw : Within (some result) task.leg.relayUrls) (hne : result.successfulRelayUrls ≠ []) :
    (recordLeg (some result) leg).acknowledged ≠ [] := by
  obtain ⟨relay, hr⟩ := exists_mem_of_ne_nil _ hne
  have hm : relay ∈ leg.relayUrls := hg.relayUrls ▸ hw result rfl relay hr
  refine ne_nil_of_mem (a := relay) (mem_eraseDups.2 (mem_append_right _ ?_))
  exact mem_filter.2 ⟨hr, decide_eq_true hm⟩

lemma commit_send_facts (hs : Inv s) (h : commit task now s = some t) : StepFacts s t := by
  simp only [commit, run_gives] at h
  obtain ⟨ht, h⟩ := h
  split at h
  · rename_i owner outcome call hph
    simp only [bind_gives] at h
    obtain ⟨⟨next, u⟩, hcmt, h⟩ := h
    have hse := hs.sends task ht
    have hold := hse.2
    rw [hph] at hold
    obtain ⟨hc, hid, hev, hd, hw⟩ := hold
    obtain ⟨hf, hsends, -, hdo, ha⟩ := commit_facts hs hc hcmt
    obtain ⟨hsa, -⟩ := hse.kept hf.kept hf.sealedKept
    cases next with
    | some c =>
      cases h
      obtain rfl := ha c rfl
      exact hf.moveSend hsends ⟨hsa, callOk_unloaded rfl, hid, hev, hd, hw⟩
    | none =>
      cases h
      refine hf.moveSend hsends ⟨hsa, ?_⟩
      intro hac _ hack
      obtain ⟨current, row, hget, hrow, hl⟩ := hdo rfl
      obtain ⟨⟨saved, leg, hsget, hsaved_legs, hg⟩, -⟩ := hse
      rw [hid] at hget hrow
      cases hsget.symm.trans hget
      rw [hsaved_legs, updateLeg, if_pos (by rw [hev, hg.event]), some_inj] at hl
      obtain ⟨result, hres⟩ := ne_none_iff_exists'.1 hac
      obtain ⟨rfl, hne⟩ := filter_eq_some_iff.1 hres
      have hack : task.requireAck = true := hack
      have hne : result.successfulRelayUrls ≠ [] := by simpa [hack] using hne
      refine ⟨row, recordLeg call.delivery leg, hrow, ?_, hg.recipientPubkey, ?_⟩
      · rw [← hl]
        exact .head _
      · rw [hd]
        exact reported_recorded hg hw hne
  · cases h

lemma recordFails_facts (hs : Inv s) (h : recordFails task s = some t) : StepFacts s t := by
  simp only [recordFails, run_gives] at h
  obtain ⟨ht, h⟩ := h
  split at h
  · cases h
    exact (StepFacts.refl hs).moveSend rfl ⟨(hs.sends task ht).1, fun _ => nofun⟩
  · cases h

lemma release_facts (hs : Inv s) {committed : Bool} (h : release task committed s = some t) :
    StepFacts s t := by
  simp only [release, run_gives] at h
  obtain ⟨ht, h⟩ := h
  split at h
  · rename_i owner accepted checkpointFailure hph
    cases h
    have hro : StepFacts s { s with rows :=
        if committed = true then updateRow task.id (releaseClaim owner) s.rows else s.rows } := by
      split_ifs
      · exact release_update_facts hs task.id owner
      · exact .refl hs
    refine { hro with sends := fun _ hm => .inl (mem_of_mem_erase hm), reports := ?_ }
    intro r hr
    have hold := (hs.sends task ht).2
    rw [hph] at hold
    by_cases hrep : (if committed = true then accepted else task.unrecorded accepted) ≠ none ∧
        task.requireAck = true
    · rw [if_pos hrep] at hr
      rcases mem_cons.1 hr with rfl | hm
      · refine .inr fun hf => ?_
        simp only [Bool.or_eq_false_iff, Bool.not_eq_false'] at hf
        have ha := hrep.1
        rw [if_pos hf.2] at ha
        exact (hold ha hf.1 hrep.2).kept hro.kept
      · exact .inl hm
    · rw [if_neg hrep] at hr
      exact .inl hr
  · cases h

lemma claim_facts (hs : Inv s) {id : Text} {replayAcknowledged : Bool}
    (h : claimRow id owner replayAcknowledged now s = some t) : StepFacts s t := by
  simp only [claimRow, run_gives] at h
  obtain ⟨current, hg, -, job, hj, h⟩ := h
  cases h
  have hgrw := fun row => grows_claim row (some ⟨owner, now + claimMs⟩)
  have hu := @facts_of_update s hs id _ hgrw fun _ => rfl
  have hp : updateRow id (fun row => { row with claim := some ⟨owner, now + claimMs⟩ }) s.rows =
      s.rows.put { current with claim := some ⟨owner, now + claimMs⟩ } := by
    unfold updateRow
    rw [hg]
  rw [hp] at hu
  refine { hu with retries := ?_ }
  intro task ht
  rcases mem_cons.1 ht with rfl | hold
  · refine .inr ⟨?_, trivial⟩
    intro leg hl
    unfold openJob at hj
    split_ifs at hj
    cases hj
    exact ⟨_, leg, get_put_grown hg (hgrw current), hl, .refl leg⟩
  · exact .inl hold

variable {task : RetryTask}

section

variable (hs : Inv s)
include hs

lemma holdRetry_facts (h : holdRetry task s = some t) : StepFacts s t := by
  simp only [holdRetry, run_gives] at h
  obtain ⟨⟨ht, -⟩, owner, -, h⟩ := h
  cases h
  exact (StepFacts.refl hs).moveRetry rfl ⟨(hs.retries task ht).1, trivial⟩

lemma publishRetry_facts {decl : DeclarationState}
    (h : publishRetry P task decl outcome s = some t) : StepFacts s t := by
  simp only [publishRetry, run_gives] at h
  obtain ⟨ht, leg, hh, -, h⟩ := h
  split at h
  · rename_i owner hph
    cases h
    obtain ⟨hr, -⟩ := hs.retries task ht
    have hm : StepFacts s (s.moveRetry task { task with
        phase := .recording owner ⟨task.id, leg.event.id, outcome, true, 0, none⟩
        rest := task.rest.tail }) :=
      (StepFacts.refl hs).moveRetry rfl
        ⟨fun other ho => hr other (mem_of_mem_tail ho), callOk_unloaded rfl, rfl⟩
    refine { hm with published := ?_ }
    intro p hp
    rcases mem_cons.1 hp with rfl | hold
    · obtain ⟨row, leg', hrow, hl', hg⟩ := hr leg (mem_of_mem_head? hh)
      refine .inr ⟨row, leg', hrow, hl', hg.recipientPubkey, hg.event, ?_⟩
      intro url hu
      have hsub := privateDeliveryRetryTargets_sub hu
      exact hg.relayUrls ▸ (mem_filter.1 hsub).1
    · exact .inl hold
  · cases h

lemma skipRetry_facts (h : skipRetry task s = some t) : StepFacts s t := by
  simp only [skipRetry, run_gives] at h
  obtain ⟨ht, h⟩ := h
  obtain ⟨hr, -⟩ := hs.retries task ht
  split at h
  · rename_i owner hph
    cases h
    exact (StepFacts.refl hs).moveRetry rfl
      ⟨fun other ho => hr other (mem_of_mem_tail ho), by rw [hph]; trivial⟩
  · cases h
    exact (StepFacts.refl hs).moveRetry rfl ⟨hr, trivial⟩
  · cases h

lemma loadRetry_facts {nonce : Nat} (h : loadRetry task nonce s = some t) : StepFacts s t := by
  simp only [loadRetry, run_gives] at h
  obtain ⟨ht, h⟩ := h
  split at h
  · rename_i owner call hph
    simp only [bind_gives] at h
    obtain ⟨⟨next, u⟩, hl, h⟩ := h
    cases h
    obtain ⟨hf, -, hret, hc, hid, -⟩ := load_facts hs hl
    have hr := hs.retries task ht
    obtain ⟨hre, -⟩ := hr.kept hf.kept hf.sealedKept
    have hold := hr.2
    rw [hph] at hold
    exact hf.moveRetry hret ⟨hre, hc, hid.trans hold.2⟩
  · cases h

lemma commitRetry_facts (h : commitRetry task now s = some t) : StepFacts s t := by
  simp only [commitRetry, run_gives] at h
  obtain ⟨ht, h⟩ := h
  split at h
  · rename_i owner call hph
    simp only [bind_gives] at h
    obtain ⟨⟨next, u⟩, hc, h⟩ := h
    have hr := hs.retries task ht
    have hold := hr.2
    rw [hph] at hold
    obtain ⟨hf, -, hret, -, ha⟩ := commit_facts hs hold.1 hc
    obtain ⟨hre, -⟩ := hr.kept hf.kept hf.sealedKept
    cases next with
    | some c =>
      cases h
      obtain rfl := ha c rfl
      exact hf.moveRetry hret ⟨hre, callOk_unloaded rfl, hold.2⟩
    | none =>
      cases h
      exact hf.moveRetry hret ⟨hre, trivial⟩
  · cases h

lemma finishRetry_facts (h : finishRetry task s = some t) : StepFacts s t := by
  simp only [finishRetry, run_gives] at h
  obtain ⟨-, h⟩ := h
  cases h
  have hr : ∀ {rows}, StepFacts s { s with rows := rows } →
      StepFacts s { s with rows := rows, retries := s.retries.erase task } := fun hf =>
    { hf with retries := fun _ hm => .inl (mem_of_mem_erase hm) }
  apply hr
  split
  · exact release_update_facts hs task.id _
  · exact release_update_facts hs task.id _
  · exact .refl hs

lemma resumed_facts {rumorId rcp : Text} (h : resumed rumorId rcp s = some t) : StepFacts s t := by
  simp only [resumed, run_gives] at h
  obtain ⟨row, hrow, job, hj, ⟨leg, hf, -, hne⟩, h⟩ := h
  cases h
  unfold openJob at hj
  split_ifs at hj
  cases hj
  refine { StepFacts.refl hs with reports := ?_ }
  intro r hr
  rcases mem_cons.1 hr with rfl | hold
  · exact .inr fun _ => ⟨row, leg, hrow, mem_of_find?_eq_some hf,
      of_decide_eq_true (find?_some hf :), hne⟩
  · exact .inl hold

lemma step_facts {a : Action} (h : Step P principal a s t) : StepFacts s t := by
  cases a with
  | stage => exact stage_facts hs h
  | hold => exact hold_facts hs h
  | beat id owner now =>
    cases h
    exact facts_of_update hs (heartbeat_grows owner now) (heartbeat_value owner now)
  | publish => exact publish_facts hs h
  | load => exact load_send_facts hs h
  | commit => exact commit_send_facts hs h
  | recordFails => exact recordFails_facts hs h
  | release => exact release_facts hs h
  | claim => exact claim_facts hs h
  | holdRetry => exact holdRetry_facts hs h
  | publishRetry => exact publishRetry_facts hs h
  | skipRetry => exact skipRetry_facts hs h
  | loadRetry => exact loadRetry_facts hs h
  | commitRetry => exact commitRetry_facts hs h
  | finishRetry => exact finishRetry_facts hs h
  | resumed => exact resumed_facts hs h

end

end Actions

section Results
variable {P : RelayPlatform} {principal : Text} {s t : DeliveryTabs}

/-- No call is in flight, and the rows are as the program writes them. -/
structure Started (s : DeliveryTabs) : Prop where
  rows : ∀ row ∈ s.rows.rows, row.value ∈ s.sealedJobs ∧ row.value.id = row.id ∧ Sound row
  unique : ∀ a ∈ s.sealedJobs, ∀ b ∈ s.sealedJobs, a.nonce = b.nonce → a = b
  sends : s.sends = []
  retries : s.retries = []
  staged : s.staged = []
  recorded : s.recorded = []
  published : s.published = []
  reports : s.reports = []

lemma inv_started (hs : Started s) : Inv s where
  rows := hs.rows
  unique := hs.unique
  sends := fun _ h => absurd (hs.sends ▸ h) not_mem_nil
  retries := fun _ h => absurd (hs.retries ▸ h) not_mem_nil
  staged := by
    rw [hs.staged]
    exact ⟨nodup_nil, fun _ h => nomatch h⟩
  recorded := fun _ h => absurd (hs.recorded ▸ h) not_mem_nil
  published := fun _ h => absurd (hs.published ▸ h) not_mem_nil
  reports := fun _ h => absurd (hs.reports ▸ h) not_mem_nil

variable {l : List Action}

lemma run_inv (hs : Started s) (h : Run (Step P principal) s l t) : Inv t := by
  refine Run.invariant (I := Inv) ?_ h (inv_started hs)
  intro a s t hI hst
  exact (step_facts hI hst).inv hI

lemma run_kept (hs : Inv s) (h : Run (Step P principal) s l t) : RowsKept s.rows t.rows := by
  refine Run.related (I := Inv) (R := fun s t => RowsKept s.rows t.rows)
    (fun s _ => .refl s.rows) (fun _ _ _ h₁ h₂ => h₁.trans h₂) ?_ h hs
  intro a s t hI hst
  have hf := step_facts hI hst
  exact ⟨hf.inv hI, hf.kept⟩

/-- Saved deliveries are kept over any run, and a return says truly what was recorded. -/
theorem deliveries_kept {u : DeliveryTabs} {l m : List Action} (hs : Started s)
    (h₁ : Run (Step P principal) s l u) (h₂ : Run (Step P principal) u m t) :
    (∀ a ∈ t.rows.rows, ∀ b ∈ t.rows.rows, a.id = b.id → a = b) ∧ t.staged.Nodup ∧
    (∀ id row, u.rows.get id = some row → ∃ row', t.rows.get id = some row' ∧
      JobGrows row.value.job row'.value.job ∧
      (row.state = .accepted → row'.state = .accepted)) ∧
    (∀ p ∈ t.published, PublishedOk t.rows p) ∧
    (∀ id ∈ t.recorded, ∃ row, t.rows.get id = some row ∧
      (row.state = .accepted ↔ ∀ leg ∈ row.value.job.legs, Accepted leg)) ∧
    ∀ r ∈ t.reports, r.checkpointFailure = false → Recorded t.rows r.id r.recipientPubkey := by
  have hu := run_inv hs h₁
  have ht := run_inv hs (h₁.append h₂)
  refine ⟨?_, ht.staged.1, ?_, ht.published, ?_, ht.reports⟩
  · intro a ha b hb hab
    have hgeta : t.rows.get a.id = some a := get_of_mem (t := t.rows) ha
    have hgetb : t.rows.get b.id = some b := get_of_mem (t := t.rows) hb
    rw [hab, hgetb] at hgeta
    exact (some_inj.1 hgeta).symm
  · intro id row hrow
    obtain ⟨row', hrow', hgrows⟩ := run_kept hu h₂ id row hrow
    have hsound := (hu.rows row (mem_of_get hrow)).2.2
    exact ⟨row', hrow', hgrows.job, hgrows.accepted hsound⟩
  · intro id hid
    obtain ⟨row, hrow, hsettled⟩ := ht.recorded id hid
    refine ⟨row, hrow, ?_⟩
    rw [hsettled]
    exact recordedState_accepted

end Results

def messageLeg : PrivateDeliveryLeg where
  recipientPubkey := OrderRelay.relayMerchant
  event := OrderRelay.orderWrap
  relayUrls := OrderRelay.inboxRelays
  compatibility := false
  plan := ""
  acknowledged := []
  failed := []
  delivery := none

def messageRumor : Text := "a614758c9b6427a349e448e0c635d1f3a2cf7ee9e738b5a07ffb1655d6951de0"

def noDeliveries : DeliveryTabs := ⟨Table.empty, [], [], [], [], [], [], []⟩

def acceptedByOne : PublishWithPlannerResult :=
  ⟨["wss://inbox.example.com"], ["wss://relay.example.net"]⟩

def messageSend (phase : SendPhase) : SendTask :=
  ⟨deliveryId messageRumor false, messageLeg, true, true, phase⟩

def messageRecord (loaded : Option (Nat × SealedJob)) : RecordCall :=
  ⟨deliveryId messageRumor false, OrderRelay.orderWrap.id, some acceptedByOne, true, 0, loaded⟩

def messageMerged : SealedJob :=
  ⟨2, deliveryId messageRumor false,
    ⟨messageRumor, OrderRelay.relayBuyer, [recordLeg (some acceptedByOne) messageLeg],
      1700000000000⟩⟩

def messagePublished : List Action :=
  [.stage messageRumor OrderRelay.relayBuyer false messageLeg true true 1 "tab-1" 1700000000000,
    .hold (messageSend .staged),
    .publish (messageSend (.publishing "tab-1")) (some acceptedByOne)]

set_option maxRecDepth 8000 in
theorem deliveries_kept_sample : ∃ u t,
    Run (Step relayPlatform relayBuyer) noDeliveries messagePublished u ∧
    Run (Step relayPlatform relayBuyer) u
      [.load (messageSend (.recording "tab-1" (some acceptedByOne) (messageRecord none))) 2,
        .commit (messageSend (.recording "tab-1" (some acceptedByOne)
          (messageRecord (some (1, messageMerged))))) 1700000001000,
        .release (messageSend (.releasing "tab-1" (some acceptedByOne) false)) true] t ∧
    ⟨deliveryId messageRumor false, relayMerchant, false⟩ ∈ t.reports ∧
    Recorded t.rows (deliveryId messageRumor false) relayMerchant := by
  have hruns : ∃ u t,
      Run (Step relayPlatform relayBuyer) noDeliveries messagePublished u ∧
      Run (Step relayPlatform relayBuyer) u
        [.load (messageSend (.recording "tab-1" (some acceptedByOne) (messageRecord none))) 2,
          .commit (messageSend (.recording "tab-1" (some acceptedByOne)
            (messageRecord (some (1, messageMerged))))) 1700000001000,
          .release (messageSend (.releasing "tab-1" (some acceptedByOne) false)) true] t ∧
      ⟨deliveryId messageRumor false, relayMerchant, false⟩ ∈ t.reports :=
    ⟨_, _, .cons rfl (.cons rfl (.cons rfl (.nil _))), .cons rfl (.cons rfl (.cons rfl (.nil _))),
      mem_cons_self⟩
  obtain ⟨u, t, h₁, h₂, hreport⟩ := hruns
  have hstarted : Started noDeliveries :=
    ⟨nofun, nofun, rfl, rfl, rfl, rfl, rfl, rfl⟩
  exact ⟨u, t, h₁, h₂, hreport, (deliveries_kept hstarted h₁ h₂).2.2.2.2.2 _ hreport rfl⟩

/-- The session ends while the relay answers. -/
def unrecordedSend : List Action :=
  messagePublished ++
    [.recordFails (messageSend (.recording "tab-1" (some acceptedByOne) (messageRecord none))),
      .release (messageSend (.releasing "tab-1" (some acceptedByOne) true)) false]

set_option maxRecDepth 8000 in
theorem accepted_unrecorded : ∃ t r,
    Run (Step relayPlatform relayBuyer) noDeliveries unrecordedSend t ∧
    r ∈ t.reports ∧ ¬ Recorded t.rows r.id r.recipientPubkey := by
  refine ⟨_, ⟨deliveryId messageRumor false, relayMerchant, true⟩,
    .cons rfl (.cons rfl (.cons rfl (.cons rfl (.cons rfl (.nil _))))), mem_cons_self, ?_⟩
  rintro ⟨row, leg, hrow, hleg, -, hne⟩
  cases hrow
  cases mem_singleton.1 hleg
  exact hne rfl

end Conduit.PrivateDelivery
