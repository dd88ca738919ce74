import Conduit.Inbox.PrivateSends
import Conduit.Orders.RelayAttempts

namespace Conduit.PrivateDelivery

open Js Stock Runs Throwing List Option Table
open OrderRelay (RelayPlatform DeclarationState toOption_eq_some privateDeliveryRetryTargets_sub)

structure LegGrows (old new : PrivateDeliveryLeg) : Prop where
  recipientPubkey : new.recipientPubkey = old.recipientPubkey
  event : new.event = old.event
  relayUrls : new.relayUrls = old.relayUrls
  acknowledged : ∀ relay ∈ old.acknowledged, relay ∈ new.acknowledged

lemma LegGrows.refl (leg : PrivateDeliveryLeg) : LegGrows leg leg :=
  ⟨rfl, rfl, rfl, fun _ h => h⟩

lemma LegGrows.trans {a b c : PrivateDeliveryLeg} (h₁ : LegGrows a b) (h₂ : LegGrows b c) :
    LegGrows a c :=
  ⟨h₂.recipientPubkey.trans h₁.recipientPubkey, h₂.event.trans h₁.event,
    h₂.relayUrls.trans h₁.relayUrls,
    fun relay h => h₂.acknowledged relay (h₁.acknowledged relay h)⟩

lemma LegGrows.accepted {old new : PrivateDeliveryLeg} (h : LegGrows old new)
    (hold : Accepted old) : Accepted new := by
  intro relay hr
  exact h.acknowledged relay (hold relay (h.relayUrls ▸ hr))

lemma recordLeg_grows (deliv : Option PublishWithPlannerResult) (leg : PrivateDeliveryLeg) :
    LegGrows leg (recordLeg deliv leg) := by
  refine ⟨rfl, rfl, rfl, ?_⟩
  intro relay hr
  exact mem_eraseDups.2 (mem_append_left _ hr)

structure JobGrows (old new : PrivateDeliveryJob) : Prop where
  rumorId : new.rumorId = old.rumorId
  senderPubkey : new.senderPubkey = old.senderPubkey
  createdAt : new.createdAt = old.createdAt
  legs : List.Forall₂ LegGrows old.legs new.legs

lemma forall₂_legs_refl (legs : List PrivateDeliveryLeg) : Forall₂ LegGrows legs legs :=
  forall₂_same.2 fun leg _ => .refl leg

lemma forall₂_legs_trans {a b c : List PrivateDeliveryLeg} (h₁ : Forall₂ LegGrows a b)
    (h₂ : Forall₂ LegGrows b c) : Forall₂ LegGrows a c := by
  induction h₁ generalizing c with
  | nil => exact h₂
  | cons hl _ ih =>
    cases h₂ with
    | cons hl' hr' => exact .cons (hl.trans hl') (ih hr')

lemma JobGrows.refl (job : PrivateDeliveryJob) : JobGrows job job :=
  ⟨rfl, rfl, rfl, forall₂_legs_refl job.legs⟩

lemma JobGrows.trans {a b c : PrivateDeliveryJob} (h₁ : JobGrows a b) (h₂ : JobGrows b c) :
    JobGrows a c :=
  ⟨h₂.rumorId.trans h₁.rumorId, h₂.senderPubkey.trans h₁.senderPubkey,
    h₂.createdAt.trans h₁.createdAt, forall₂_legs_trans h₁.legs h₂.legs⟩

section

variable {old new : List PrivateDeliveryLeg} (h : List.Forall₂ LegGrows old new)
include h

lemma exists_grown {leg : PrivateDeliveryLeg} (hl : leg ∈ old) :
    ∃ leg' ∈ new, LegGrows leg leg' := by
  induction h with
  | nil => cases hl
  | cons hgrw _ ih =>
    rcases mem_cons.1 hl with rfl | hr
    · exact ⟨_, .head _, hgrw⟩
    · obtain ⟨leg', hm, hg⟩ := ih hr
      exact ⟨leg', .tail _ hm, hg⟩

lemma all_accepted (hold : ∀ leg ∈ old, Accepted leg) : ∀ leg ∈ new, Accepted leg := by
  induction h with
  | nil => exact hold
  | cons hg _ ih =>
    intro leg hl
    rcases mem_cons.1 hl with rfl | hr
    · exact hg.accepted (hold _ mem_cons_self)
    · exact ih (fun leg h => hold leg (mem_cons_of_mem _ h)) leg hr

end

lemma updateLeg_grows {eventId : Text} {deliv : Option PublishWithPlannerResult}
    {legs legs' : List PrivateDeliveryLeg}
    (h : updateLeg eventId (recordLeg deliv) legs = some legs') : Forall₂ LegGrows legs legs' := by
  induction legs generalizing legs' with
  | nil => cases h
  | cons leg rest ih =>
    simp only [updateLeg] at h
    split_ifs at h
    · cases h
      exact .cons (recordLeg_grows deliv leg) (forall₂_legs_refl rest)
    · obtain ⟨rest', hr, rfl⟩ := map_eq_some_iff.1 h
      exact .cons (.refl leg) (ih hr)

variable {job : PrivateDeliveryJob}

lemma mergedJob_spec {call : RecordCall} {value : SealedJob} (h : mergedJob call value = some job) :
    value.id = call.id ∧
      updateLeg call.eventId (recordLeg call.delivery) value.job.legs = some job.legs ∧
      JobGrows value.job job := by
  simp only [mergedJob, openJob, bind_gives] at h
  obtain ⟨opened, ho, legs, hl, h⟩ := h
  split_ifs at ho with hid
  cases ho
  cases h
  exact ⟨hid, hl, rfl, rfl, rfl, updateLeg_grows hl⟩

def Settled (row : DeliveryRow) : Prop := row.state = recordedState row.value.job

/-- No outcome has been recorded, or the state is the one that the outcomes give. -/
def Sound (row : DeliveryRow) : Prop := row.state = .queued ∨ Settled row

lemma recordedState_accepted : recordedState job = .accepted ↔ ∀ leg ∈ job.legs, Accepted leg := by
  unfold recordedState
  split_ifs with h
  · exact ⟨fun _ => h, fun _ => rfl⟩
  · exact ⟨nofun, fun h' => absurd h' h⟩
  · exact ⟨nofun, fun h' => absurd h' h⟩

structure Grows (old new : DeliveryRow) : Prop where
  id : new.id = old.id
  job : JobGrows old.value.job new.value.job
  state : new.value = old.value ∧ new.state = old.state ∨ Settled new

lemma Grows.refl (row : DeliveryRow) : Grows row row := ⟨rfl, .refl _, .inl ⟨rfl, rfl⟩⟩

lemma Grows.trans {a b c : DeliveryRow} (h₁ : Grows a b) (h₂ : Grows b c) : Grows a c where
  id := h₂.id.trans h₁.id
  job := h₁.job.trans h₂.job
  state := by
    rcases h₂.state with ⟨hv, hst⟩ | hs
    · rcases h₁.state with ⟨hv', hst'⟩ | hs
      · exact .inl ⟨hv.trans hv', hst.trans hst'⟩
      · refine .inr ?_
        unfold Settled at *
        rw [hv, hst, hs]
    · exact .inr hs

variable {old new : DeliveryRow}

lemma Grows.settled (h : Grows old new) (hold : Settled old) : Settled new := by
  rcases h.state with ⟨hv, hst⟩ | hs
  · unfold Settled at *
    rw [hv, hst, hold]
  · exact hs

lemma Grows.sound (h : Grows old new) (hold : Sound old) : Sound new := by
  rcases h.state with ⟨hv, hst⟩ | hs
  · unfold Sound Settled at *
    rwa [hv, hst]
  · exact .inr hs

lemma Grows.accepted (h : Grows old new) (hsnd : Sound old) (hold : old.state = .accepted) :
    new.state = .accepted := by
  rcases h.state with ⟨-, hst⟩ | hset
  · exact hst.trans hold
  · have ha : ∀ leg ∈ old.value.job.legs, Accepted leg := by
      rcases hsnd with hq | hs
      · rw [hold] at hq
        cases hq
      · exact recordedState_accepted.1 (hs.symm.trans hold)
    rw [hset]
    exact recordedState_accepted.2 (all_accepted h.job.legs ha)

lemma grows_claim (row : DeliveryRow) (claim : Option DeliveryClaim) :
    Grows row { row with claim := claim } := ⟨rfl, .refl _, .inl ⟨rfl, rfl⟩⟩

lemma heartbeat_grows (owner : Text) (now : Int) (row : DeliveryRow) :
    Grows row (heartbeat owner now row) := by
  unfold heartbeat
  split_ifs
  · exact grows_claim row _
  · exact .refl row

lemma releaseClaim_grows (owner : Text) (row : DeliveryRow) :
    Grows row (releaseClaim owner row) := by
  unfold releaseClaim
  split_ifs
  · exact grows_claim row _
  · exact .refl row

def RowsKept (old new : DeliveryTable) : Prop :=
  ∀ id row, old.get id = some row → ∃ row', new.get id = some row' ∧ Grows row row'

section Keeping
variable {old new : DeliveryTable}

lemma RowsKept.refl (table : DeliveryTable) : RowsKept table table :=
  fun _ row h => ⟨row, h, .refl row⟩

lemma RowsKept.trans {a b c : DeliveryTable} (h₁ : RowsKept a b) (h₂ : RowsKept b c) :
    RowsKept a c := by
  intro id row hr
  obtain ⟨row₁, hr₁, hg₁⟩ := h₁ id row hr
  obtain ⟨row₂, hr₂, hg₂⟩ := h₂ id row₁ hr₁
  exact ⟨row₂, hr₂, hg₁.trans hg₂⟩

variable {id : Text} {f : DeliveryRow → DeliveryRow} {row : DeliveryRow} {current : DeliveryRow}

lemma get_put_grown (hg : old.get id = some current) (hgrw : Grows current row) :
    (old.put row).get id = some row := by
  have hk : current.id = id := key_of_get (t := old) hg
  have := get_put_self old row
  rwa [hgrw.id, hk] at this

lemma rowsKept_put (hg : old.get id = some current) (hgrw : Grows current row) :
    RowsKept old (old.put row) := by
  intro k kept hk
  have hkey : current.id = id := key_of_get (t := old) hg
  by_cases heq : k = id
  · rw [heq, hg] at hk
    cases hk
    exact ⟨row, heq ▸ get_put_grown hg hgrw, hgrw⟩
  · have hne : k ≠ row.id := by rwa [hgrw.id, hkey]
    exact ⟨kept, (get_put_of_ne (t := old) (a := row) hne).trans hk, .refl kept⟩

lemma rowsKept_update (hg : ∀ row, Grows row (f row)) : RowsKept old (updateRow id f old) := by
  unfold updateRow
  split
  · rename_i current hget
    exact rowsKept_put hget (hg current)
  · exact .refl old

lemma rowsKept_insert (hg : old.get row.id = none) : RowsKept old (old.put row) := by
  intro k kept hk
  have hne : k ≠ row.id := by
    rintro rfl
    rw [hg] at hk
    cases hk
  exact ⟨kept, (get_put_of_ne (t := old) (a := row) hne).trans hk, .refl kept⟩

lemma RowsKept.leg (h : RowsKept old new) {leg : PrivateDeliveryLeg} (hr : old.get id = some row)
    (hl : leg ∈ row.value.job.legs) :
    ∃ row' leg', new.get id = some row' ∧ leg' ∈ row'.value.job.legs ∧ LegGrows leg leg' := by
  obtain ⟨row', hr', hgrw⟩ := h id row hr
  obtain ⟨leg', hl', hg⟩ := exists_grown hgrw.job.legs hl
  exact ⟨row', leg', hr', hl', hg⟩

lemma rows_update (hg : ∀ row, Grows row (f row)) (hv : ∀ row, (f row).value = row.value)
    {row' : DeliveryRow} (h : row' ∈ (updateRow id f old).rows) :
    ∃ row ∈ old.rows, row'.value = row.value ∧ Grows row row' := by
  unfold updateRow at h
  split at h
  · rename_i current hget
    rcases mem_put.1 h with rfl | ⟨hm, -⟩
    · exact ⟨current, mem_of_get hget, hv current, hg current⟩
    · exact ⟨row', hm, rfl, .refl row'⟩
  · exact ⟨row', h, rfl, .refl row'⟩

end Keeping

section Invariant

def CallOk (sealedJobs : List SealedJob) (call : RecordCall) : Prop :=
  ∀ nonce value, call.loaded = some (nonce, value) → value ∈ sealedJobs ∧ value.id = call.id ∧
    ∃ read ∈ sealedJobs, read.nonce = nonce ∧ mergedJob call read = some value.job

variable (rows : DeliveryTable)

def Recorded (id recipientPubkey : Text) : Prop :=
  ∃ row leg, rows.get id = some row ∧ leg ∈ row.value.job.legs ∧
    leg.recipientPubkey = recipientPubkey ∧ leg.acknowledged ≠ []

variable (s : DeliveryTabs)

def SendPhase.Ok (task : SendTask) : SendPhase → Prop
  | .recording _ outcome call => CallOk s.sealedJobs call ∧ call.id = task.id ∧
      call.eventId = task.leg.event.id ∧ call.delivery = outcome ∧
      Within outcome task.leg.relayUrls
  | .releasing _ accepted checkpointFailure =>
    accepted ≠ none → checkpointFailure = false → task.requireAck = true →
      Recorded s.rows task.id task.leg.recipientPubkey
  | _ => True

def SendOk (task : SendTask) : Prop :=
  (∃ row leg, s.rows.get task.id = some row ∧ row.value.job.legs = [leg] ∧
    LegGrows task.leg leg) ∧ task.phase.Ok s task

def RetryPhase.Ok (task : RetryTask) : RetryPhase → Prop
  | .recording _ call => CallOk s.sealedJobs call ∧ call.id = task.id
  | _ => True

def RetryOk (task : RetryTask) : Prop :=
  (∀ leg ∈ task.rest, ∃ row leg', s.rows.get task.id = some row ∧ leg' ∈ row.value.job.legs ∧
    LegGrows leg leg') ∧ task.phase.Ok s task

def PublishedOk (p : Publication) : Prop :=
  ∃ row leg, rows.get p.id = some row ∧ leg ∈ row.value.job.legs ∧
    leg.recipientPubkey = p.recipientPubkey ∧ leg.event = p.event ∧
    ∀ url ∈ p.relayUrls, url ∈ leg.relayUrls

def ReportOk (r : Report) : Prop :=
  r.checkpointFailure = false → Recorded rows r.id r.recipientPubkey

structure Inv (s : DeliveryTabs) : Prop where
  rows : ∀ row ∈ s.rows.rows, row.value ∈ s.sealedJobs ∧ row.value.id = row.id ∧ Sound row
  unique : ∀ a ∈ s.sealedJobs, ∀ b ∈ s.sealedJobs, a.nonce = b.nonce → a = b
  sends : ∀ task ∈ s.sends, SendOk s task
  retries : ∀ task ∈ s.retries, RetryOk s task
  staged : s.staged.Nodup ∧ ∀ id ∈ s.staged, (s.rows.get id).isSome = true
  recorded : ∀ id ∈ s.recorded, ∃ row, s.rows.get id = some row ∧ Settled row
  published : ∀ p ∈ s.published, PublishedOk s.rows p
  reports : ∀ r ∈ s.reports, ReportOk s.rows r

structure StepFacts (s t : DeliveryTabs) : Prop where
  kept : RowsKept s.rows t.rows
  sealedKept : ∀ value ∈ s.sealedJobs, value ∈ t.sealedJobs
  rows : ∀ row ∈ t.rows.rows, row.value ∈ t.sealedJobs ∧ row.value.id = row.id ∧ Sound row
  unique : ∀ a ∈ t.sealedJobs, ∀ b ∈ t.sealedJobs, a.nonce = b.nonce → a = b
  sends : ∀ task ∈ t.sends, task ∈ s.sends ∨ SendOk t task
  retries : ∀ task ∈ t.retries, task ∈ s.retries ∨ RetryOk t task
  staged : t.staged = s.staged ∨ ∃ id, t.staged = id :: s.staged ∧ s.rows.get id = none ∧
    (t.rows.get id).isSome = true
  recorded : ∀ id ∈ t.recorded, id ∈ s.recorded ∨ ∃ row, t.rows.get id = some row ∧ Settled row
  published : ∀ p ∈ t.published, p ∈ s.published ∨ PublishedOk t.rows p
  reports : ∀ r ∈ t.reports, r ∈ s.reports ∨ ReportOk t.rows r

variable {s t : DeliveryTabs}

lemma CallOk.mono {l m : List SealedJob} (h : ∀ value ∈ l, value ∈ m) {call : RecordCall}
    (hc : CallOk l call) : CallOk m call := by
  intro nonce value hl
  obtain ⟨hm, hid, read, hr, hn, hmer⟩ := hc nonce value hl
  exact ⟨h _ hm, hid, read, h _ hr, hn, hmer⟩

lemma Recorded.kept {old new : DeliveryTable} (h : RowsKept old new) {id recipient : Text}
    (hr : Recorded old id recipient) : Recorded new id recipient := by
  obtain ⟨row, leg, hrow, hl, hrcp, hne⟩ := hr
  obtain ⟨row', leg', hrow', hl', hg⟩ := h.leg hrow hl
  refine ⟨row', leg', hrow', hl', hg.recipientPubkey.trans hrcp, ?_⟩
  obtain ⟨relay, hre⟩ := exists_mem_of_ne_nil _ hne
  exact ne_nil_of_mem (hg.acknowledged relay hre)

lemma SendOk.kept (hk : RowsKept s.rows t.rows)
    (hs : ∀ value ∈ s.sealedJobs, value ∈ t.sealedJobs) {task : SendTask}
    (h : SendOk s task) : SendOk t task := by
  obtain ⟨⟨row, leg, hrow, hl, hgrw⟩, hph⟩ := h
  obtain ⟨row', hrow', hg⟩ := hk _ _ hrow
  have hl' := hg.job.legs
  rw [hl] at hl'
  obtain ⟨leg', rest, hleg', hr, hn⟩ := forall₂_cons_left_iff.1 hl'
  rw [forall₂_nil_left_iff] at hr
  refine ⟨⟨row', leg', hrow', by rw [hn, hr], hgrw.trans hleg'⟩, ?_⟩
  cases hp : task.phase with
  | staged => trivial
  | publishing => trivial
  | recording owner outcome call =>
    rw [hp] at hph
    exact ⟨hph.1.mono hs, hph.2⟩
  | releasing owner accepted checkpointFailure =>
    rw [hp] at hph
    intro h₁ h₂ h₃
    exact (hph h₁ h₂ h₃).kept hk

lemma RetryOk.kept (hk : RowsKept s.rows t.rows)
    (hs : ∀ value ∈ s.sealedJobs, value ∈ t.sealedJobs) {task : RetryTask}
    (h : RetryOk s task) : RetryOk t task := by
  obtain ⟨hre, hph⟩ := h
  constructor
  · intro leg hl
    obtain ⟨row, leg', hr, hl', hg⟩ := hre leg hl
    obtain ⟨row', leg'', hr', hl'', hg'⟩ := hk.leg hr hl'
    exact ⟨row', leg'', hr', hl'', hg.trans hg'⟩
  · cases hp : task.phase with
    | claimed => trivial
    | sending => trivial
    | recording owner call =>
      rw [hp] at hph
      exact ⟨hph.1.mono hs, hph.2⟩

lemma PublishedOk.kept {old new : DeliveryTable} (h : RowsKept old new) {p : Publication}
    (hp : PublishedOk old p) : PublishedOk new p := by
  obtain ⟨row, leg, hr, hl, hrcp, hev, hu⟩ := hp
  obtain ⟨row', leg', hr', hl', hg⟩ := h.leg hr hl
  exact ⟨row', leg', hr', hl', hg.recipientPubkey.trans hrcp,
    hg.event.trans hev, fun url hurl => hg.relayUrls ▸ hu url hurl⟩

lemma StepFacts.inv (h : StepFacts s t) (hs : Inv s) : Inv t where
  rows := h.rows
  unique := h.unique
  sends := fun task ht =>
    (h.sends task ht).elim (fun hold => (hs.sends task hold).kept h.kept h.sealedKept) id
  retries := fun task ht =>
    (h.retries task ht).elim (fun hold => (hs.retries task hold).kept h.kept h.sealedKept) id
  staged := by
    have hso : ∀ id ∈ s.staged, (t.rows.get id).isSome = true := by
      intro id hid
      obtain ⟨row, hrow⟩ := isSome_iff_exists.1 (hs.staged.2 id hid)
      obtain ⟨row', hrow', -⟩ := h.kept _ _ hrow
      rw [hrow']
      rfl
    rcases h.staged with heq | ⟨id, hn, hno, hput⟩
    · rw [heq]
      exact ⟨hs.staged.1, hso⟩
    · rw [hn]
      refine ⟨nodup_cons.2 ⟨?_, hs.staged.1⟩, ?_⟩
      · intro hm
        have := hs.staged.2 id hm
        rw [hno] at this
        cases this
      · intro k hk
        rcases mem_cons.1 hk with rfl | hold
        · exact hput
        · exact hso k hold
  recorded := by
    intro id hid
    rcases h.recorded id hid with hold | hn
    · obtain ⟨row, hrow, hset⟩ := hs.recorded id hold
      obtain ⟨row', hrow', hg⟩ := h.kept _ _ hrow
      exact ⟨row', hrow', hg.settled hset⟩
    · exact hn
  published := fun p hp =>
    (h.published p hp).elim (fun hold => (hs.published p hold).kept h.kept) id
  reports := fun r hr =>
    (h.reports r hr).elim (fun hold hf => (hs.reports r hold hf).kept h.kept) id

end Invariant

end Conduit.PrivateDelivery
