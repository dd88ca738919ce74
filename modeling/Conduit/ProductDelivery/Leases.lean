import Conduit.ProductDelivery.RemovalRuns

namespace Conduit.ProductDelivery

open Js Runs Stock Throwing Option Table

def DeletionPhase.attemptAt : DeletionPhase → Option Int
  | .attempted _ _ _ attemptAt | .answering _ _ attemptAt => some attemptAt
  | _ => none

variable (s : Outboxes)

/-- The job is leased to the run until its attempt runs out, or that time is over. -/
def Held (task : DeletionTask) (attemptAt : Int) : Prop :=
  (∃ row, s.deletions.get task.id = some row ∧ row.deliveryLeaseOwner = some task.owner ∧
    ∃ expires ∈ row.deliveryLeaseExpiresAt, attemptAt + task.leaseMs ≤ expires) ∨
  attemptAt + task.leaseMs ≤ s.clock

def LeasesApart : Prop :=
  ∀ task ∈ s.deletionRuns.rows, ∀ other ∈ s.deletionRuns.rows, task.id = other.id →
    task.owner ≠ other.owner → ∀ a ∈ task.phase.attemptAt, ∀ b ∈ other.phase.attemptAt,
      a + task.leaseMs ≤ b ∨ b + other.leaseMs ≤ a

structure LeaseInv (s : Outboxes) : Prop where
  held : ∀ task ∈ s.deletionRuns.rows, ∀ attemptAt ∈ task.phase.attemptAt, Held s task attemptAt
  apart : LeasesApart s

lemma LeaseInv.start : LeaseInv .start :=
  ⟨fun _ h => absurd h List.not_mem_nil, fun _ h => absurd h List.not_mem_nil⟩

def WasTrying (task : DeletionTask) (attemptAt : Int) : Prop :=
  ∃ before ∈ s.deletionRuns.rows, before.id = task.id ∧ before.owner = task.owner ∧
    before.leaseMs = task.leaseMs ∧ attemptAt ∈ before.phase.attemptAt

/-- What a step without a claim or a release does to the leases. -/
structure KeepsLeases (s t : Outboxes) : Prop where
  clock : s.clock ≤ t.clock
  rows : ∀ id row, s.deletions.get id = some row → ∃ next, t.deletions.get id = some next ∧
    KeepsLease row next
  tasks : ∀ task ∈ t.deletionRuns.rows, ∀ attemptAt ∈ task.phase.attemptAt,
    WasTrying s task attemptAt

section
variable {P : DeliveryPlatform} {s t : Outboxes} {task : DeletionTask}

lemma LeasesApart.of_wasTrying (h : LeasesApart s) (ht : ∀ task ∈ t.deletionRuns.rows,
    ∀ attemptAt ∈ task.phase.attemptAt, WasTrying s task attemptAt) : LeasesApart t := by
  intro task hta other hoth hid ho a ha b hb
  obtain ⟨task', hta', hid', ho', hl', ha'⟩ := ht task hta a ha
  obtain ⟨other', hoth', hid'', ho'', hl'', hb'⟩ := ht other hoth b hb
  rw [← hl', ← hl'']
  apply h task' hta' other' hoth' ?_ ?_ a ha' b hb'
  · rw [hid', hid'', hid]
  · rw [ho', ho'']
    exact ho

lemma LeaseInv.keep (h : LeaseInv s) (hk : KeepsLeases s t) : LeaseInv t := by
  refine ⟨fun task ht a ha => ?_, h.apart.of_wasTrying hk.tasks⟩
  obtain ⟨before, hb, hid, hown, hl, ha'⟩ := hk.tasks task ht a ha
  have hh := h.held before hb a ha'
  rw [Held, hid, hown, hl] at hh
  rcases hh with ⟨row, hr, hleas, expires, he, hle⟩ | ho
  · obtain ⟨next, hn, hke⟩ := hk.rows task.id row hr
    exact .inl ⟨next, hn, hke.owner.trans hleas, expires, by rw [hke.expires]; exact he, hle⟩
  · exact .inr (ho.trans hk.clock)

lemma WasTrying.of_mem {attemptAt : Int} (ht : task ∈ s.deletionRuns.rows)
    (ha : attemptAt ∈ task.phase.attemptAt) : WasTrying s task attemptAt :=
  ⟨task, ht, rfl, rfl, rfl, ha⟩

variable {f : DeletionJob → Result DeletionJob}
  {phase : DeletionPhase} {next j : DeletionJob} {now : Int}

lemma updateDeletion_eq {id : Text} (h : s.updateDeletion id f = some (next, t)) :
    ∃ current, s.deletions.get id = some current ∧
      f current = .ok next ∧ next.id = id ∧ t = { s with deletions := s.deletions.put next } := by
  simp only [Outboxes.updateDeletion, run_gives, Prod.mk.injEq] at h
  obtain ⟨current, hc, k, hk, ⟨hkid, -, -⟩, rfl, rfl⟩ := h
  refine ⟨current, hc, ?_, hkid, rfl⟩
  cases hf : f current with
  | error e => rw [hf] at hk; cases hk
  | ok k' =>
    rw [hf] at hk
    exact congrArg Except.ok (some.inj hk)

lemma keepsLeases_of_update (hu : s.updateDeletion task.id f = some (next, t))
    (hf : ∀ j k, s.deletions.get task.id = some j → f j = .ok k → KeepsLease j k)
    (hc : s.clock ≤ now) (hph : phase.attemptAt = none) :
    KeepsLeases s { t.moveDeletion task phase with clock := now } := by
  obtain ⟨current, hcur, hok, hid, rfl⟩ := updateDeletion_eq hu
  refine ⟨hc, fun id row hr => ?_, fun other ho a ha => ?_⟩
  · show ∃ k, (s.deletions.put next).get id = some k ∧ KeepsLease row k
    rw [get_put]
    by_cases heq : id = next.id
    · rw [heq, hid, hcur] at hr
      cases hr
      exact ⟨next, by rw [if_pos heq], hf current next hcur hok⟩
    · exact ⟨row, by rw [if_neg heq]; exact hr, .refl row⟩
  · rcases mem_put.1 ho with rfl | ⟨hold, -⟩
    · have hn : a ∈ phase.attemptAt := ha
      rw [hph] at hn
      cases hn
    · exact .of_mem hold ha

lemma keepsLeases_of_move (ht : task ∈ s.deletionRuns.rows)
    (hph : ∀ a ∈ phase.attemptAt, a ∈ task.phase.attemptAt) :
    KeepsLeases s (s.moveDeletion task phase) := by
  refine ⟨le_refl _, fun id row hr => ⟨row, hr, .refl row⟩, fun other ho a ha => ?_⟩
  rcases mem_put.1 ho with rfl | ⟨hold, -⟩
  · exact ⟨task, ht, rfl, rfl, rfl, hph a ha⟩
  · exact .of_mem hold ha

lemma keepsLeases_of_end (task : DeletionTask) : KeepsLeases s (s.endDeletion task) :=
  ⟨le_refl _, fun _ row hr => ⟨row, hr, .refl row⟩,
    fun _ ho _ ha => .of_mem (mem_remove.1 ho).1 ha⟩

lemma retire_keepsLease {delay : Int} {k : DeletionJob}
    (h : retireUnapprovedPersistedRelayTargets P now delay j = .ok k) : KeepsLease j k := by
  simp only [retireUnapprovedPersistedRelayTargets] at h
  split_ifs at h
  all_goals
    cases h
    exact ⟨rfl, rfl⟩

lemma claimDeliveryLease_cases (owner : Text) (now leaseMs : Int) (j : DeletionJob) :
    claimDeliveryLease owner now leaseMs false j = j ∨
      ((∀ other ∈ j.deliveryLeaseOwner, other ≠ owner → j.deliveryLeaseExpiresAt.getD 0 ≤ now) ∧
        (claimDeliveryLease owner now leaseMs false j).deliveryLeaseOwner = some owner) := by
  unfold claimDeliveryLease
  split_ifs with hended hl
  · exact .inl rfl
  · exact .inl rfl
  · refine .inr ⟨fun other ho hne => ?_, rfl⟩
    by_contra hla
    exact hl ⟨⟨other, ho, hne⟩, not_le.1 hla, rfl⟩

lemma Held.of_write {a : Int} {task : DeletionTask} {current : DeletionJob}
    (hh : Held s task a) (hc : s.clock ≤ now) (hg : s.deletions.get next.id = some current)
    (hoth : next.id = task.id → current.deliveryLeaseOwner = some task.owner →
      KeepsLease current next ∨ current.deliveryLeaseExpiresAt.getD 0 ≤ now) :
    Held { s with deletions := s.deletions.put next, clock := now } task a := by
  rcases hh with ⟨row, hr, hl, expires, he, hle⟩ | ho
  · by_cases heq : task.id = next.id
    · rw [heq, hg] at hr
      cases hr
      rcases hoth heq.symm hl with hk | hla
      · refine .inl ⟨next, ?_, hk.owner.trans hl, expires,
          by rw [hk.expires]; exact he, hle⟩
        rw [heq]
        exact get_put_self _ _
      · rw [mem_def.1 he] at hla
        exact .inr (hle.trans hla)
    · refine .inl ⟨row, ?_, hl, expires, he, hle⟩
      exact (get_put_of_ne heq).trans hr
  · exact .inr (ho.trans hc)

lemma LeaseInv.claimLease (h : LeaseInv s) (hs : claimLease P task now false s = some t) :
    LeaseInv t := by
  simp only [ProductDelivery.claimLease, run_gives] at hs
  obtain ⟨⟨ht, hph, hc⟩, ⟨claimed, u⟩, hu, hs⟩ := hs
  obtain ⟨current, hcur, hok, hid, rfl⟩ := updateDeletion_eq hu
  cases hok
  have hw : LeaseInv { s with
      deletions := s.deletions.put (claimDeliveryLease task.owner now task.leaseMs false current)
      clock := now } := by
    refine ⟨fun other ho a ha => ?_, h.apart⟩
    refine (h.held other ho a ha).of_write hc (by rw [hid]; exact hcur) ?_
    intro heq hown
    rcases claimDeliveryLease_cases task.owner now task.leaseMs current with hk | ⟨hl, -⟩
    · rw [hk]
      exact .inl (.refl current)
    · refine .inr (hl other.owner hown fun hse => ?_)
      -- a tab has one run of the job, and this one is not in an attempt
      have hkey : other.key = task.key := Prod.ext hse (heq.symm.trans hid)
      have hg := get_of_mem ho
      rw [hkey, get_of_mem ht] at hg
      cases hg
      rw [hph] at ha
      cases ha
  have hm : ∀ phase : DeletionPhase, phase.attemptAt = none → LeaseInv (Outboxes.moveDeletion
      { s with
        deletions := s.deletions.put (claimDeliveryLease task.owner now task.leaseMs false current)
        clock := now } task phase) := by
    intro phase hn
    refine hw.keep (keepsLeases_of_move ht fun a ha => ?_)
    rw [hn] at ha
    cases ha
  split_ifs at hs
  · cases hs
    exact hw.keep (keepsLeases_of_end task)
  · cases hs
    exact hm .settling rfl
  · cases hs
    exact hm (.running _ false) rfl

lemma releaseDeliveryLease_cases (owner : Text) (j : DeletionJob) :
    releaseDeliveryLease owner j = j ∨ j.deliveryLeaseOwner = some owner := by
  unfold releaseDeliveryLease
  split_ifs with ho
  · exact .inl rfl
  · exact .inr (not_not.1 ho)

lemma LeaseInv.finishDeletion {released : Bool} (h : LeaseInv s)
    (hs : finishDeletion task released s = some t) : LeaseInv t := by
  simp only [ProductDelivery.finishDeletion, run_gives] at hs
  obtain ⟨htask, hs⟩ := hs
  split_ifs at hs
  · obtain ⟨⟨next, u⟩, hu, hs⟩ := bind_eq_some_iff.1 hs
    cases hs
    obtain ⟨current, hc, hok, hid, rfl⟩ := updateDeletion_eq hu
    cases hok
    refine ⟨fun other ho a ha => ?_, h.apart.of_wasTrying fun other ho a ha =>
      .of_mem (mem_remove.1 ho).1 ha⟩
    obtain ⟨hm, hkey⟩ := mem_remove.1 ho
    refine (h.held other hm a ha).of_write (le_refl _) (by rw [hid]; exact hc) ?_
    intro heq hown
    rcases releaseDeliveryLease_cases task.owner current with hk | hse
    · rw [hk]
      exact .inl (.refl current)
    · have hse' : other.owner = task.owner := some.inj (hown.symm.trans hse)
      exact absurd (Prod.ext hse' (heq.symm.trans hid)) hkey
  · cases hs
    exact h.keep (keepsLeases_of_end task)

lemma markRelayAttemptStarted_lease (url owner : Text) (now leaseMs : Int)
    (hl : j.state ≠ .superseded_unpublished) :
    j.deliveryLeaseOwner ≠ some owner ∧ markRelayAttemptStarted url owner now leaseMs j = j ∨
      j.deliveryLeaseOwner = some owner ∧
        (markRelayAttemptStarted url owner now leaseMs j).deliveryLeaseOwner = some owner ∧
        (markRelayAttemptStarted url owner now leaseMs j).deliveryLeaseExpiresAt =
          some (now + leaseMs) := by
  unfold markRelayAttemptStarted
  rw [if_neg hl]
  split_ifs with ho
  · exact .inl ⟨ho, rfl⟩
  · exact .inr ⟨not_not.1 ho, not_not.1 ho, rfl⟩

lemma LeaseInv.attemptRelay {url : Text} {rest : List Text} (hs : Inv P s) (h : LeaseInv s)
    (hst : attemptRelay task url rest now s = some t) : LeaseInv t := by
  simp only [ProductDelivery.attemptRelay, run_gives] at hst
  obtain ⟨⟨ht, hph, hc⟩, ⟨next, u⟩, hupd, hst⟩ := hst
  obtain ⟨current, hcur, hok, hid, rfl⟩ := updateDeletion_eq hupd
  have hl := markRelayAttemptStarted_lease url task.owner now task.leaseMs
    (hs.deletions current (mem_of_get hcur)).live
  rw [Except.ok.inj hok] at hl
  -- where the lease is this run's, the time of every other run is over
  have hov : current.deliveryLeaseOwner = some task.owner → ∀ other ∈ s.deletionRuns.rows,
      task.id = other.id → task.owner ≠ other.owner → ∀ b ∈ other.phase.attemptAt,
        b + other.leaseMs ≤ now := by
    intro hm other ho heq hne b hb
    rcases h.held other ho b hb with ⟨row, hr, hown, -⟩ | hp
    · rw [← heq, hcur] at hr
      cases hr
      exact absurd (some.inj (hm.symm.trans hown)) hne
    · exact hp.trans hc
  have hw : LeaseInv { s with deletions := s.deletions.put next, clock := now } := by
    refine ⟨fun other ho a ha => ?_, h.apart⟩
    refine (h.held other ho a ha).of_write hc (by rw [hid]; exact hcur) ?_
    intro heq hown
    rcases hl with ⟨-, hk⟩ | ⟨hm, -⟩
    · rw [hk]
      exact .inl (.refl current)
    · have hself : other.owner = task.owner := some.inj (hown.symm.trans hm)
      have hkey : other.key = task.key := Prod.ext hself (heq.symm.trans hid)
      have hget := get_of_mem ho
      rw [hkey, get_of_mem ht] at hget
      cases hget
      rw [hph] at ha
      cases ha
  split_ifs at hst with hstop
  · cases hst
    exact hw.keep (keepsLeases_of_move ht fun a ha => by cases ha)
  · cases hst
    obtain ⟨hm, -⟩ := not_or.1 hstop
    obtain ⟨hbef, haf, hexpy⟩ : current.deliveryLeaseOwner = some task.owner ∧
        next.deliveryLeaseOwner = some task.owner ∧
        next.deliveryLeaseExpiresAt = some (now + task.leaseMs) := by
      rcases hl with ⟨ho, hk⟩ | hext
      · rw [hk] at hm
        exact absurd (not_not.1 hm) ho
      · exact hext
    refine ⟨fun other ho a ha => ?_, fun x hx y hy heq hne a ha b hb => ?_⟩
    · rcases mem_put.1 ho with rfl | ⟨hold, -⟩
      · obtain rfl : now = a := some.inj ha
        refine .inl ⟨next, ?_, haf, now + task.leaseMs, hexpy, le_refl _⟩
        rw [← hid]
        exact get_put_self _ _
      · exact hw.held other hold a ha
    · rcases mem_put.1 hx with rfl | ⟨hx, -⟩
      · obtain rfl : now = a := some.inj ha
        rcases mem_put.1 hy with rfl | ⟨hy, -⟩
        · exact absurd rfl hne
        · exact .inr (hov hbef y hy heq hne b hb)
      · rcases mem_put.1 hy with rfl | ⟨hy, -⟩
        · obtain rfl : now = b := some.inj hb
          exact .inl (hov hbef x hx heq.symm hne.symm a ha)
        · exact h.apart x hx y hy heq hne a ha b hb

end

end Conduit.ProductDelivery
