import Conduit.Orders.RelayFacts

namespace Conduit.OrderRelay

open Js Stock Runs Throwing List Option Table

lemma toOption_eq_some {ε α : Type} {x : Except ε α} {a : α} : x.toOption = some a ↔ x = .ok a := by
  cases x <;> simp [Except.toOption]

section Steps
variable {P : RelayPlatform} {s t : RelayTabs}
  {timestamp : Int} {task : RetryTask} {shouldContinue : Bool}
  {generations : List (Text × Nat)} {table : OrderTable} {input : BeginInput}
  {deliv : OrderRelayDeliveryRecord} {decl : DeclarationState}
  {current row : OrderLifecycle}

lemma facts_of_kept (h : RowsKept s.table table) : StepFacts P s { s with table := table } :=
  ⟨h, fun _ h => h, fun _ h => h, fun _ h => .inl h, fun _ h => .inl h, fun _ h => .inl h,
    fun _ h => .inl h⟩

lemma StepFacts.refl (s : RelayTabs) : StepFacts P s s :=
  facts_of_kept (.refl s.table)

lemma begins_of_generation {urls : List Text} {g : Text × Nat}
    (h : g ∈ generationsByRelay urls deliv) : ∃ target ∈ deliv.relayDelivery, Begins urls target ∧
      g = (target.relayUrl, target.nextGeneration) := by
  obtain ⟨target, ht, rfl⟩ := mem_map.1 h
  obtain ⟨hm, hb⟩ := mem_filter.1 ht
  exact ⟨target, hm, of_decide_eq_true hb, rfl⟩

lemma beginAttempt_begun
    (h : beginAttempt P input shouldContinue timestamp current = some (row, generations)) :
    ∀ g ∈ generations, ∃ d, row.orderRelayDelivery = some d ∧ 0 < g.2 ∧
      ∃ target ∈ d.relayDelivery, target.relayUrl = g.1 ∧
        g.2 ≤ target.attemptGeneration.getD 0 ∧ 0 < target.attemptCount := by
  intro g hg
  simp only [beginAttempt, run_gives] at h
  obtain ⟨deliv, _, _, h⟩ := h
  split_ifs at h
  · cases h
    cases hg
  · cases h
    obtain ⟨target, hm, hb, rfl⟩ := begins_of_generation hg
    refine ⟨_, rfl, Nat.succ_pos _, _, mem_map_of_mem hm, ?_⟩
    rw [beginTarget, if_pos hb]
    exact ⟨rfl, le_refl _, Nat.succ_pos _⟩

variable {row : OrderLifecycle} {leaseOwner orderId url : Text}

lemma beginRun_spec (h : beginRun P input shouldContinue timestamp s = some (t, row, generations)) :
    ∃ current, s.table.get input.orderId = some current ∧
      beginAttempt P input shouldContinue timestamp current = some (row, generations) ∧
      t = { s with
        table := s.table.put row
        begun := (generations.map fun g => ⟨input.orderId, g.1, g.2⟩) ++ s.begun } := by
  simp only [beginRun, bind_gives] at h
  obtain ⟨current, hg, ⟨row', generations'⟩, hb, h⟩ := h
  cases h
  exact ⟨current, hg, hb, rfl⟩

lemma get_put_grown (hg : table.get orderId = some current) (hgrw : Grows current row) :
    (table.put row).get orderId = some row := by
  have hk : current.orderId = orderId := key_of_get (t := table) hg
  have := get_put_self table row
  rwa [hgrw.orderId, hk] at this

lemma beginRun_facts (h : beginRun P input shouldContinue timestamp s = some (t, row, generations))
    : StepFacts P s t ∧ t.retries = s.retries ∧ t.table.get input.orderId = some row ∧
      ∀ g ∈ generations, ⟨input.orderId, g.1, g.2⟩ ∈ t.begun := by
  obtain ⟨current, hget, hbe, rfl⟩ := beginRun_spec h
  have hgrw := beginAttempt_grows hbe
  have hr := get_put_grown hget hgrw
  have hm : ∀ g ∈ generations, (⟨input.orderId, g.1, g.2⟩ : Begun) ∈
      generations.map fun g => (⟨input.orderId, g.1, g.2⟩ : Begun) := by
    intro g hg
    exact mem_map_of_mem (f := fun g : Text × Nat => (⟨input.orderId, g.1, g.2⟩ : Begun)) hg
  refine ⟨{ facts_of_kept (rowsKept_put hget hgrw) with
    begunKept := fun b hb => mem_append_right _ hb
    begun := ?_
    retries := fun _ ht => .inl ht }, rfl, hr, fun g hg => mem_append_left _ (hm g hg)⟩
  intro b hb
  rcases mem_append.1 hb with hn | hold
  · obtain ⟨g, hg, rfl⟩ := mem_map.1 hn
    obtain ⟨d, hd, hp, hre⟩ := beginAttempt_begun hbe g hg
    exact .inr ⟨row, d, hr, hd, hp, hre⟩
  · exact .inl hold

lemma facts_of_update {updater : OrderLifecycle → OrderLifecycle}
    (hg : ∀ row, Grows row (updater row)) :
    StepFacts P s { s with table := updateOrder orderId updater s.table } :=
  facts_of_kept (rowsKept_update hg)

lemma recordRun_facts (input : RecordInput) (timestamp : Int) :
    StepFacts P s (recordRun P input timestamp s) :=
  facts_of_update fun row => recordOutcomes_grows input timestamp row

lemma StepFacts.move (h : StepFacts P s t) {task next : RetryTask}
    (hr : t.retries = s.retries) (hn : TaskOk t.table t.begun next) :
    StepFacts P s (t.move task next) := by
  refine { h with retries := ?_ }
  intro other ho
  rcases mem_cons.1 ho with rfl | hold
  · exact .inr hn
  · exact .inl (hr ▸ mem_of_mem_erase hold)

lemma TaskOk.next {begun : List Begun} {task next : RetryTask} (h : TaskOk table begun task)
    (hi : next.input = task.input) (hc : next.claimed = task.claimed)
    (hdel : next.delivery = task.delivery) (hr : ∀ url ∈ next.rest, url ∈ task.rest)
    (ha : ∀ a, next.phase.attempt = some a → task.phase.attempt = some a) :
    TaskOk table begun next := by
  obtain ⟨row, d, hrow, hd, hb, hp, hu, hold⟩ := h
  refine ⟨row, d, hi ▸ hrow, hd, hc ▸ hb, hdel ▸ hp, fun url hurl => hu url (hr url hurl), ?_⟩
  intro url g w hph
  rw [hi]
  exact hold url g w (ha _ hph)

lemma stage_facts {life : StagedOrderLifecycleInput} {prepared : PreparedOrderRelayDelivery}
    (h : stage P life prepared leaseOwner timestamp s = some t) : StepFacts P s t := by
  simp only [stage, bind_gives] at h
  obtain ⟨record, hrec, ⟨inserted, table⟩, ht, h⟩ := h
  cases h
  rw [toOption_eq_some] at hrec ht
  unfold stageTransaction at ht
  split at ht
  · obtain ⟨-, ht⟩ := rejects_ok.1 ht
    cases ht
    exact .refl s
  · rename_i hg
    obtain ⟨_, -, ht⟩ := bind_ok.1 ht
    cases ht
    obtain ⟨rfl, hro, hv, hsc, hp⟩ := prepareStage_ok hrec
    have hst : IsStaged P (stagedRecord life prepared leaseOwner timestamp) := by
      refine ⟨_, rfl, stagedDelivery_valid hro hv hsc hp, ?_, ?_⟩
      · rw [stagedDelivery_relayUrls]
        exact hp.2.2.2.1
      · intro d hd
        cases hd
        refine ⟨nofun, ?_⟩
        rintro ⟨target, htgt, ha⟩
        obtain ⟨planned, _, rfl⟩ := mem_map.1 htgt
        cases ha
    refine { facts_of_kept (P := P) (rowsKept_insert hg) with
      stagedKept := fun _ hr => .tail _ hr
      staged := ?_ }
    intro r hr
    rcases mem_cons.1 hr with rfl | hold
    · exact .inr ⟨hst, get_put_self s.table _⟩
    · exact .inl hold

lemma claim_facts {input : RetryInput} (h : claimRun P input timestamp s = some t) :
    StepFacts P s t := by
  simp only [claimRun, bind_gives] at h
  obtain ⟨current, hg, h⟩ := h
  have hgrw := claimRetry_grows (P := P) input timestamp current
  have hp : StepFacts P s
      { s with table := s.table.put (claimRetry P input timestamp current) } :=
    facts_of_kept (rowsKept_put hg hgrw)
  split at h
  · cases h
    exact hp
  · rename_i deliv hd
    split_ifs at h with hclm
    · cases h
      refine { hp with retries := ?_ }
      intro task ht
      rcases mem_cons.1 ht with rfl | hold
      · refine .inr ⟨_, deliv, get_put_grown hg hgrw, hd, rfl, rfl, ?_, ?_⟩
        · intro _ hph
          cases hph
        · intro _ _ _ hph
          cases hph
      · exact .inl hold
    · cases h
      exact hp

lemma privateDeliveryRetryTargets_sub {relayUrls : List Text} {compatibility : Bool}
    (h : url ∈ privateDeliveryRetryTargets P relayUrls compatibility decl) : url ∈ relayUrls := by
  unfold privateDeliveryRetryTargets at h
  split at h
  · cases h
  · cases h
  · split_ifs at h
    · exact h
    · cases h
    · exact (mem_filter.1 h).1
  · split_ifs at h
    · cases h
    · exact h

lemma retryLeg_sub (h : url ∈ retryLeg P deliv) : url ∈ deliv.relayUrls := by
  obtain ⟨target, ht, rfl⟩ := mem_map.1 h
  exact mem_map_of_mem (mem_filter.1 ht).1

section

variable (hs : Inv P s)
include hs

lemma plan_facts {ordered : List Text} (h : planRun P task decl ordered s = some t) :
    StepFacts P s t := by
  simp only [planRun, run_gives] at h
  obtain ⟨⟨ht, hph⟩, hpm, h⟩ := h
  cases h
  refine (StepFacts.refl s).move rfl ?_
  obtain ⟨row, d, hr, hd, hb, hp, -, -⟩ := hs.retries task ht
  refine ⟨row, d, hr, hd, hb, hp, ?_, nofun⟩
  intro url hu
  have hl := privateDeliveryRetryTargets_sub (hpm.mem_iff.1 hu)
  exact relayUrls_of_plan hp ▸ retryLeg_sub hl

lemma skip_facts (h : skipRun task s = some t) : StepFacts P s t := by
  simp only [skipRun, run_gives] at h
  obtain ⟨⟨ht, -⟩, h⟩ := h
  cases h
  exact (StepFacts.refl s).move rfl
    ((hs.retries task ht).next rfl rfl rfl (fun _ => mem_of_mem_tail) fun _ ha => ha)

lemma beginRetry_facts (h : beginRetryRun P task shouldContinue timestamp s = some t) :
    StepFacts P s t := by
  simp only [beginRetryRun, run_gives] at h
  obtain ⟨⟨ht, hph⟩, relayUrl, hh, ⟨u, row, generations⟩, hb, d, hd, h⟩ := h
  obtain ⟨hf, hret, hget, hbe⟩ := beginRun_facts hb
  have hok := (hs.retries task ht).kept hf.kept hf.begunKept
  have hr : relayUrl ∈ task.rest := mem_of_mem_head? hh
  split at h
  · cases h
    exact hf.move hret
      (hok.next rfl rfl rfl (fun _ => mem_of_mem_tail) fun _ ha => ha)
  · rename_i g hfi
    cases h
    refine hf.move hret ?_
    obtain ⟨row', d', hrow', hd', hbu, hp, hu, -⟩ := hok
    have heq : row' = row := some_inj.1 (hrow'.symm.trans hget)
    have hds : d' = d := some_inj.1 (hd'.symm.trans (heq ▸ hd))
    have hg : g.1 = relayUrl := of_decide_eq_true (find?_some hfi :)
    refine ⟨row', d', hrow', hd', hbu, hp, fun url hurl => hu url (mem_of_mem_tail hurl), ?_⟩
    intro url gen w hatt
    cases hatt
    exact ⟨hu _ hr, by rw [hds], hg ▸ hbe g (mem_of_find?_eq_some hfi)⟩

lemma cancel_facts (h : cancelRun task s = some t) : StepFacts P s t := by
  simp only [cancelRun, run_gives] at h
  obtain ⟨ht, h⟩ := h
  split at h
  · cases h
    exact (StepFacts.refl s).move rfl
      ((hs.retries task ht).next rfl rfl rfl (fun _ hu => hu) nofun)
  · cases h

lemma publish_facts (h : publishRun task s = some t) : StepFacts P s t := by
  simp only [publishRun, run_gives] at h
  obtain ⟨ht, h⟩ := h
  split at h
  · rename_i relayUrl generation wrapId hph
    cases h
    have hok := hs.retries task ht
    have hm : StepFacts P s
        (s.move task { task with phase := .published relayUrl generation wrapId }) :=
      (StepFacts.refl s).move rfl
        (hok.next rfl rfl rfl (fun _ hu => hu) fun a ha => by rw [hph]; exact ha)
    refine { hm with published := ?_ }
    intro p hp
    rcases mem_cons.1 hp with rfl | hold
    · obtain ⟨row, d, hr, hd, -, hpl, -, hatt⟩ := hok
      have hu := (hatt relayUrl generation wrapId (by rw [hph]; rfl)).1
      exact .inr ⟨row, d, hr, hd, congrArg RelayPlan.signedRecipientWrap hpl, hu⟩
    · exact .inl hold
  · cases h

lemma settle_facts {status : OrderRelayDeliveryStatus}
    (h : settleRun P task status timestamp s = some t) : StepFacts P s t := by
  simp only [settleRun, run_gives] at h
  obtain ⟨ht, h⟩ := h
  split at h
  · rename_i relayUrl generation wrapId _
    cases h
    have hf := recordRun_facts (P := P) (s := s)
      (task.recordInput status relayUrl generation wrapId) timestamp
    refine hf.move rfl ?_
    exact ((hs.retries task ht).kept hf.kept hf.begunKept).next rfl rfl rfl
      (fun _ hu => hu) nofun
  · cases h

end

lemma finish_facts {retryNow now : Int} (h : finishRun P task retryNow now s = some t) :
    StepFacts P s t := by
  simp only [finishRun, run_gives] at h
  obtain ⟨-, h⟩ := h
  cases h
  have hf := fun row => finishRetry_grows (P := P) task.input.leaseOwner retryNow now row
  have hfac := @facts_of_update P s task.input.orderId _ hf
  exact { hfac with retries := fun _ hm => .inl (mem_of_mem_erase hm) }

lemma resumeNext_facts {task : ResumeTask} {allowGuest : Bool}
    (h : resumeNextRun P task leaseOwner allowGuest timestamp s = some t) : StepFacts P s t := by
  simp only [resumeNextRun, run_gives] at h
  obtain ⟨-, lifecycle, -, h⟩ := h
  split_ifs at h
  · have hc := claim_facts h
    exact { hc with }
  · cases h
    exact { StepFacts.refl s with }

lemma step_facts {a : Action} (hs : Inv P s) (h : Step P a s t) : StepFacts P s t := by
  cases a with
  | stage => exact stage_facts h
  | begin input shouldContinue timestamp =>
    obtain ⟨⟨u, row, generations⟩, hb, rfl⟩ := map_eq_some_iff.1 h
    exact (beginRun_facts hb).1
  | record input timestamp =>
    cases h
    exact recordRun_facts input timestamp
  | claim => exact claim_facts h
  | plan => exact plan_facts hs h
  | skip => exact skip_facts hs h
  | beginRetry => exact beginRetry_facts hs h
  | cancel => exact cancel_facts hs h
  | publish => exact publish_facts hs h
  | settle => exact settle_facts hs h
  | finish => exact finish_facts h
  | list buyerPubkey timestamp =>
    cases h
    exact { StepFacts.refl s with }
  | resumeNext => exact resumeNext_facts h

end Steps

section Outcomes
variable {o : Outcome} {c : Option Outcome} {outcomes l : List Outcome}

lemma chosen_mem (h : l.foldl chooseOutcome c = some o) : c = some o ∨ o ∈ l := by
  induction l generalizing c with
  | nil => exact .inl h
  | cons head l ih =>
    rcases ih h with hc | hm
    · unfold chooseOutcome at hc
      split at hc
      · exact .inr (some_inj.1 hc ▸ .head _)
      · split_ifs at hc
        · exact .inl hc
        · exact .inr (some_inj.1 hc ▸ .head _)
        · exact .inl hc
    · exact .inr (.tail _ hm)

def ChoseAck (c : Option Outcome) : Prop := ∃ o, c = some o ∧ o.status = .acked

lemma choseAck_step (h : ChoseAck c ∨ o.status = .acked) : ChoseAck (chooseOutcome c o) := by
  cases c with
  | none =>
    rcases h with ⟨_, hc, -⟩ | ho
    · cases hc
    · exact ⟨o, rfl, ho⟩
  | some current =>
    by_cases hcur : current.status = .acked
    · exact ⟨current, if_pos hcur, hcur⟩
    · rcases h with ⟨_, hc, ha⟩ | ho
      · cases hc
        exact absurd ha hcur
      · exact ⟨o, by simp only [chooseOutcome, if_neg hcur, if_pos ho], ho⟩

lemma choseAck (h : ChoseAck c ∨ ∃ o ∈ l, o.status = .acked) :
    ChoseAck (l.foldl chooseOutcome c) := by
  induction l generalizing c with
  | nil =>
    rcases h with hc | ⟨o, ho, -⟩
    · exact hc
    · cases ho
  | cons head l ih =>
    apply ih
    rcases h with hc | ⟨o, ho, ha⟩
    · exact .inl (choseAck_step (.inl hc))
    · rcases mem_cons.1 ho with rfl | hm
      · exact .inl (choseAck_step (.inr ha))
      · exact .inr ⟨o, hm, ha⟩

lemma outcomeFor_mem {relayUrl : Text} (h : outcomeFor outcomes relayUrl = some o) :
    o ∈ outcomes ∧ o.relayUrl = relayUrl := by
  rcases chosen_mem h with hn | hm
  · cases hn
  · obtain ⟨hm, hu⟩ := mem_filter.1 hm
    exact ⟨hm, of_decide_eq_true hu⟩

lemma outcomeFor_acked (ho : o ∈ outcomes) (ha : o.status = .acked) :
    ChoseAck (outcomeFor outcomes o.relayUrl) :=
  choseAck (.inr ⟨o, mem_filter.2 ⟨ho, decide_eq_true rfl⟩, ha⟩)

lemma recordTarget_ne {input : RecordInput} {timestamp : Int}
    {deliv : OrderRelayDeliveryRecord} {target : OrderRelayDelivery}
    (h : recordTarget input timestamp deliv target ≠ target) :
    ∃ o ∈ input.outcomes, o.relayUrl = target.relayUrl ∧
      (recordTarget input timestamp deliv target).status = o.status ∧
      Accepts input deliv target o := by
  unfold recordTarget at h ⊢
  split at h
  · exact absurd rfl h
  · rename_i o hf
    by_cases ha : Accepts input deliv target o
    · obtain ⟨hm, hu⟩ := outcomeFor_mem hf
      exact ⟨o, hm, hu, by rw [if_pos ha], ha⟩
    · rw [if_neg ha] at h
      exact absurd rfl h

end Outcomes

section Results
variable (P : RelayPlatform)

/-- No retry is in flight. -/
structure Started (s : RelayTabs) : Prop where
  retries : s.retries = []
  staged : s.staged = []
  begun : s.begun = []
  published : s.published = []

def AckedAt (s : RelayTabs) (orderId relayUrl : Text) : Prop :=
  ∃ row d, s.table.get orderId = some row ∧ row.orderRelayDelivery = some d ∧
    ∃ target ∈ d.relayDelivery, target.relayUrl = relayUrl ∧ target.status = .acked

def OfBegun (s : RelayTabs) (orderId : Text) (o : Outcome) : Prop :=
  ∃ b ∈ s.begun, b.orderId = orderId ∧ b.relayUrl = o.relayUrl ∧ b.generation = o.generation

def OfOrder (record : OrderLifecycle) (wrap : SignedEvent) (input : RecordInput) : Prop :=
  input.orderId = record.orderId ∧ input.buyerPubkey = record.buyerPubkey ∧ input.wrapId = wrap.id

def KeepsAcks (s t : RelayTabs) (orderId : Text) (input : RecordInput) : Prop :=
  ∀ o ∈ input.outcomes, o.status = .acked →
    (∀ o' ∈ input.outcomes, o'.relayUrl = o.relayUrl → o'.status = .acked →
      IsSafeInteger o'.generation ∧ OfBegun s orderId o') → AckedAt t orderId o.relayUrl

def AppliesLatest (d d' : OrderRelayDeliveryRecord) (input : RecordInput) : Prop :=
  ∀ target ∈ d.relayDelivery, ∀ target' ∈ d'.relayDelivery, target'.relayUrl = target.relayUrl →
    target' ≠ target → ∃ o ∈ input.outcomes, o.relayUrl = target.relayUrl ∧
      target'.status = o.status ∧ (o.status ≠ .acked →
        o.generation = (target.attemptGeneration.getD 0 : Nat) ∧
          d.deliveryLeaseOwner = some input.leaseOwner)

variable {P} {s t : RelayTabs}

lemma inv_started (hs : Started s) : Inv P s where
  staged := fun _ hr => absurd (hs.staged ▸ hr) not_mem_nil
  begun := fun _ hb => absurd (hs.begun ▸ hb) not_mem_nil
  published := fun _ hp => absurd (hs.published ▸ hp) not_mem_nil
  retries := fun _ ht => absurd (hs.retries ▸ ht) not_mem_nil

variable {l : List Action} {orderId : Text}

lemma run_inv (hs : Started s) (h : Run (Step P) s l t) : Inv P t := by
  refine Run.invariant (I := Inv P) ?_ h (inv_started hs)
  intro a s t hI hst
  exact (step_facts hI hst).inv hI

lemma run_kept (hs : Inv P s) (h : Run (Step P) s l t) :
    RowsKept s.table t.table ∧ ∀ r ∈ s.staged, r ∈ t.staged := by
  refine Run.related (I := Inv P)
    (R := fun s t => RowsKept s.table t.table ∧ ∀ r ∈ s.staged, r ∈ t.staged)
    (fun s _ => ⟨.refl _, fun _ hr => hr⟩) ?_ ?_ h hs
  · intro a b c hab hbc
    exact ⟨hab.1.trans hbc.1, fun r hr => hbc.2 r (hab.2 r hr)⟩
  · intro a s t hI hst
    have hf := step_facts hI hst
    exact ⟨hf.inv hI, hf.kept, hf.stagedKept⟩

lemma AckedAt.kept (h : RowsKept s.table t.table) {relayUrl : Text}
    (ha : AckedAt s orderId relayUrl) : AckedAt t orderId relayUrl := by
  obtain ⟨row, d, hr, hd, target, ht, hu, hst⟩ := ha
  obtain ⟨row', d', hr', hd', -, hg⟩ := h.delivery hr hd
  obtain ⟨target', ht', htgr⟩ := hg.target ht
  have heq : target' = target := htgr.acked hst
  exact ⟨row', d', hr', hd', target', ht', heq ▸ hu, heq ▸ hst⟩

variable {d : OrderRelayDeliveryRecord} {row : OrderLifecycle} {input : RecordInput}
  {timestamp : Int}

lemma recorded_table {a : Action} (h : Step P a s t) (hr : a.recorded = some input) :
    ∃ timestamp, t.table =
      updateOrder input.orderId (recordOutcomes P input timestamp) s.table := by
  cases a with
  | record input' timestamp =>
    cases hr
    cases h
    exact ⟨timestamp, rfl⟩
  | settle task status timestamp =>
    have hset : settleRun P task status timestamp s = some t := h
    simp only [settleRun, run_gives] at hset
    obtain ⟨-, hset⟩ := hset
    simp only [Action.recorded] at hr
    split at hr
    · rename_i hph
      cases hr
      rw [hph] at hset
      cases hset
      exact ⟨timestamp, rfl⟩
    · cases hr
  | _ => cases hr

lemma recordOutcomes_eq (hd : row.orderRelayDelivery = some d)
    (hv : HasValidOrderRelayRoutingAuthority P d row.merchantPubkey)
    (hb : row.buyerPubkey = input.buyerPubkey) (hw : d.signedRecipientWrap.id = input.wrapId)
    : recordOutcomes P input timestamp row = recordedRow input timestamp row d := by
  unfold recordOutcomes
  rw [hd]
  exact if_pos ⟨hv, hb, hw⟩

@[simp] lemma recordedDelivery_relayDelivery (input : RecordInput) (timestamp : Int)
    (d : OrderRelayDeliveryRecord) : (recordedDelivery input timestamp d).relayDelivery =
      d.relayDelivery.map (recordTarget input timestamp d) := by
  simp [recordedDelivery]

lemma target_unique (hnd : d.relayUrls.Nodup) {a b : OrderRelayDelivery}
    (ha : a ∈ d.relayDelivery) (hb : b ∈ d.relayDelivery) (h : a.relayUrl = b.relayUrl) : a = b :=
  inj_on_of_nodup_map hnd ha hb h

lemma updateOrder_get {updater : OrderLifecycle → OrderLifecycle} {table : OrderTable}
    (hg : table.get orderId = some row) (hgrw : Grows row (updater row)) :
    (updateOrder orderId updater table).get orderId = some (updater row) := by
  unfold updateOrder
  rw [hg]
  exact get_put_grown hg hgrw

lemma recordTarget_acked {target : OrderRelayDelivery} {o : Outcome} (ho : o ∈ input.outcomes)
    (ha : o.status = .acked) (hu : o.relayUrl = target.relayUrl) (hatts : 0 < target.attemptCount)
    (hb : ∀ o ∈ input.outcomes, o.relayUrl = target.relayUrl → o.status = .acked →
      IsSafeInteger o.generation ∧ 0 < o.generation ∧
        o.generation ≤ (target.attemptGeneration.getD 0 : Nat)) :
    (recordTarget input timestamp d target).status = .acked := by
  by_cases ht : target.status = .acked
  · rw [(recordTarget_grows input timestamp d target).acked ht]
    exact ht
  obtain ⟨chosen, hf, hc⟩ := outcomeFor_acked ho ha
  rw [hu] at hf
  obtain ⟨hm, heq⟩ := outcomeFor_mem hf
  obtain ⟨hsa, hp, hle⟩ := hb chosen hm heq hc
  have hacc : Accepts input d target chosen :=
    ⟨ht, hatts, hsa, hp, hle, fun hne => absurd hc hne⟩
  unfold recordTarget
  rw [hf]
  simp only [if_pos hacc]
  exact hc

lemma recordOutcomes_cases (input : RecordInput) (timestamp : Int)
    (hd : row.orderRelayDelivery = some d) : recordOutcomes P input timestamp row = row ∨
      recordOutcomes P input timestamp row = recordedRow input timestamp row d := by
  unfold recordOutcomes
  rw [hd]
  exact (ite_eq_or_eq _ _ _).symm

lemma recordOutcomes_applies {d d' : OrderRelayDeliveryRecord}
    (hd : row.orderRelayDelivery = some d) (hnd : d.relayUrls.Nodup)
    (hd' : (recordOutcomes P input timestamp row).orderRelayDelivery = some d') :
    AppliesLatest d d' input := by
  intro target ht target' ht' hu hne
  rcases recordOutcomes_cases (P := P) input timestamp hd with heq | hr
  · rw [heq, hd] at hd'
    cases hd'
    exact absurd (target_unique hnd ht' ht hu) hne
  · rw [hr] at hd'
    cases hd'
    rw [recordedDelivery_relayDelivery] at ht'
    obtain ⟨old, hold, rfl⟩ := mem_map.1 ht'
    have hold_url := (recordTarget_grows input timestamp d old).relayUrl
    have : old = target := target_unique hnd hold ht (hold_url.symm.trans hu)
    subst this
    obtain ⟨o, ho, ho_url, hst, ha⟩ := recordTarget_ne hne
    exact ⟨o, ho, ho_url, hst, ha.2.2.2.2.2⟩

lemma recordOutcomes_keeps (hs : Inv P s) (hg : s.table.get input.orderId = some row)
    (hd : row.orderRelayDelivery = some d) (hnd : d.relayUrls.Nodup)
    (hv : HasValidOrderRelayRoutingAuthority P d row.merchantPubkey)
    (hbu : row.buyerPubkey = input.buyerPubkey) (hw : d.signedRecipientWrap.id = input.wrapId)
    (ht : t.table = updateOrder input.orderId (recordOutcomes P input timestamp) s.table) :
    KeepsAcks s t input.orderId input := by
  intro o ho ha hbe
  -- the target of an att that was begun
  have hf : ∀ o' ∈ input.outcomes, o'.relayUrl = o.relayUrl → o'.status = .acked →
      ∃ target ∈ d.relayDelivery, target.relayUrl = o.relayUrl ∧ 0 < target.attemptCount ∧
        IsSafeInteger o'.generation ∧ 0 < o'.generation ∧
        o'.generation ≤ (target.attemptGeneration.getD 0 : Nat) := by
    intro o' ho' hu ha'
    obtain ⟨hsa, b, hb, hord, hb_url, hgen⟩ := hbe o' ho' hu ha'
    obtain ⟨row', d', hr', hd', hpos, target, htgt, ht_url, hle, hatts⟩ := hs.begun b hb
    rw [hord, hg] at hr'
    cases hr'
    cases hd.symm.trans hd'
    refine ⟨target, htgt, by rw [ht_url, hb_url, hu], hatts, hsa, ?_, ?_⟩ <;> omega
  obtain ⟨target, htgt, ht_url, hatts, -⟩ := hf o ho rfl ha
  have hgrw := recordOutcomes_grows (P := P) input timestamp row
  refine ⟨_, recordedDelivery input timestamp d, ht ▸ updateOrder_get hg hgrw, ?_,
    recordTarget input timestamp d target, ?_, ?_, ?_⟩
  · rw [recordOutcomes_eq hd hv hbu hw]
    rfl
  · rw [recordedDelivery_relayDelivery]
    exact mem_map_of_mem htgt
  · exact (recordTarget_grows input timestamp d target).relayUrl.trans ht_url
  · refine recordTarget_acked ho ha ht_url.symm hatts ?_
    intro o' ho' hu ha'
    obtain ⟨other, hoth, hother_url, -, hre⟩ := hf o' ho' (hu.trans ht_url) ha'
    rwa [target_unique hnd hoth htgt (hother_url.trans ht_url.symm)] at hre

lemma settle_reports (hs : Inv P s) {task : RetryTask} {status : OrderRelayDeliveryStatus}
    (h : Step P (.settle task status timestamp) s t)
    (hr : (Action.settle task status timestamp).recorded = some input)
    (hg : s.table.get input.orderId = some row) (hd : row.orderRelayDelivery = some d) :
    input.buyerPubkey = row.buyerPubkey ∧ input.wrapId = d.signedRecipientWrap.id ∧
      ∀ o ∈ input.outcomes, OfBegun s input.orderId o := by
  have hset : settleRun P task status timestamp s = some t := h
  simp only [settleRun, run_gives] at hset
  obtain ⟨row', d', hrow', hd', hb, -, -, ha⟩ := hs.retries task hset.1
  simp only [Action.recorded] at hr
  split at hr
  · rename_i relayUrl generation wrapId hph
    cases hr
    cases hrow'.symm.trans hg
    cases hd'.symm.trans hd
    obtain ⟨-, hw, hm⟩ := ha relayUrl generation wrapId (by rw [hph]; rfl)
    refine ⟨hb.symm, hw, ?_⟩
    intro o ho
    rw [mem_singleton.1 ho]
    refine ⟨_, hm, rfl, ?_, ?_⟩ <;> unfold settledOutcome <;> split_ifs <;> rfl
  · cases hr

end Results

def relayMerchant : Text := "daec2a9dc1829df1633d8e5b023c83a3bb4f633a0d0f9abc244db3945be671aa"

def relayBuyer : Text := "ae3f7f3701bc83712ba7aec50375187db2dfd1d5c802f836896fa74e49a3f60c"

def orderWrap : SignedEvent where
  id := "84568996eb2ec81864c4bc92ca4ebf8b01fe1bda9d8758b01ea4e592952823c1"
  pubkey := "088f3b9d6c60eecaa0ffd1bebca4b43822fa85ac0be04582763e049c1240fc03"
  createdAt := 1700000000
  kind := 1059
  tags := [["p", relayMerchant]]
  content := "AgtQ0wQmC1vX8pZk3mRrS5uTn2yJd7eHbF6cGaLqWxYz"
  sig := hexText 128 0xd2a767a0f8640df1aeef2c8738126bc8ac0328419a0ef02c15ec9ddfd7fd34281565e8ff28d10988f5dd995bc65343920f56bfe8451aa4652dc6584b9d63707a

def inboxRelays : List Text := ["wss://inbox.example.com", "wss://relay.example.net"]

def relayPlatform : RelayPlatform where
  isValidSignedPublicNostrEvent := fun event => event = orderWrap
  tryNormalizeRelayUrl := some
  normalizeSecureOrIsolatedE2eRelayUrls := id
  secureAutomaticRelayUrls := id
  normalizePublicWebSocketUrl := some
  dmCompatibilityOrderRelayUrls := []
  parseEventMarketFreePurchaseDelivery := fun packet => .ok packet
  jsonLength := fun _ => 0

def stagedOrder : StagedOrderLifecycleInput where
  orderId := "order-7"
  buyerPubkey := relayBuyer
  buyerIdentityKind := some .signedIn
  guestSessionExpiresAt := none
  merchantPubkey := relayMerchant
  checkoutMode := .payLater
  checkoutSparkRouterBinding := none
  eventMarketFreePurchaseDelivery := none
  publicZapSigner := none
  publicZapFallback := none
  merchantLightningAddress := none
  paymentTarget := none
  items := []
  totalSats := 2100
  totalMsats := 2100000
  zapContent := none
  shippingAddress := none
  contactNote := none
  guestContact := none
  createdAt := 1700000000000
  details := ""

def preparedOrder : PreparedOrderRelayDelivery where
  rumorId := "a614758c9b6427a349e448e0c635d1f3a2cf7ee9e738b5a07ffb1655d6951de0"
  signedRecipientWrap := orderWrap
  route := .declaredInbox
  routingAuthority := some
    { eventId := "80cd9d63393c3800b4820fa9b15fdbd0e1741b6fe33b96ed2787bd4af9fe0434"
      eventCreatedAt := 1699990000
      pubkey := relayMerchant
      kind := privateMessageRelays
      relayUrls := inboxRelays }
  compatibilityPlan := none
  relayPlan := inboxRelays.map fun url => (url, .declared)

def stagedOrderRecord : OrderLifecycle :=
  stagedRecord stagedOrder preparedOrder "tab-1" 1700000000000

def noOrders : RelayTabs := ⟨Table.empty, [], [], [], [], []⟩

def relayAnswers : RecordInput where
  orderId := "order-7"
  buyerPubkey := relayBuyer
  leaseOwner := "tab-1"
  wrapId := orderWrap.id
  outcomes :=
    [⟨"wss://inbox.example.com", .acked, 1, by decide⟩,
      ⟨"wss://relay.example.net", .rejected, 1, by decide⟩]
  releaseLease := true
  retryDelayMs := none

end Conduit.OrderRelay
