import Conduit.CheckoutSpark.Guarantees
import Conduit.CheckoutSpark.MerchantRecord

namespace Conduit.CheckoutSpark

open Js Throwing Agreement List Sample SettlementPaidLeg Keyed

/-- A provider's answer about one payout, with the evidence of its recipient. -/
structure PayoutFact where
  target : OutgoingTarget
  observation : OutgoingObservation
  observedAt : Int
  invoiceOrigin : Option InvoiceOriginRecord
  invoiceRecipient : Option InvoiceRecipientRecord

inductive SettlementFact where
  | credit (proof : ReceiveCreditProof) (observedAt : Int)
  | payout (fact : PayoutFact)

def recordFact (P : Platform) (plan : SettledPlan) (record : MerchantSettlementRecord) :
    SettlementFact → Result MerchantSettlementRecord
  | .credit proof observedAt => recordMerchantCredit P record plan proof observedAt
  | .payout fact => recordMerchantPayout P record plan fact.target fact.observation
      fact.observedAt fact.invoiceOrigin fact.invoiceRecipient

def SettlementFact.Prepared : SettlementFact → Prop
  | .credit _ _ => True
  | .payout fact => 0 < fact.target.intent.invoiceAmountSats

structure PayoutFact.Writes (P : Platform) (plan : SettledPlan) (created : MerchantSettlementRecord)
    (fact : PayoutFact) (next : SettlementPaidLeg) : Prop where
  exact : requireSettledExactOutgoingRequest P plan fact.target = .ok ()
  status : fact.observation.status = .paid next.finalFeeSats next.finalDebitSats
  tracked : created.Tracks fact.target.legId
  answers : fact.observation.Answers fact.target next.finalFeeSats next.finalDebitSats
  prepared : fact.target.intent.preparedAt ≤ fact.observedAt
  time : NonnegativeSafe fact.observedAt
  attributed : isAttributed P plan fact.target fact.invoiceOrigin fact.invoiceRecipient =
    .ok next.recipientVerified
  legId : next.legId = fact.target.legId
  transferId : next.transferId = fact.target.intent.transferId
  allocationSats : next.allocationSats = fact.target.allocationSats
  observedAt : next.observedAt = fact.observedAt

def Agrees (P : Platform) (plan : SettledPlan) (created : MerchantSettlementRecord) :
    SettlementFact → SettlementFact → Prop
  | .credit p _, .credit q _ => p.transferId = q.transferId ∧ p.creditedSats = q.creditedSats
  | .credit p at_, .payout f | .payout f, .credit p at_ =>
    ∀ v, creditedReconciliation P plan (proofEvidence plan p at_) = .ok v →
      v.allocation f.target.legId = some f.target.allocationSats
  | .payout f, .payout g => ∀ next next', f.Writes P plan created next →
      g.Writes P plan created next' → next.legId = next'.legId → next.receipt = next'.receipt

def Admits (P : Platform) (plan : SettledPlan) (created : MerchantSettlementRecord) :
    SettlementFact → Prop
  | .credit p at_ => created.Valid ∧ p.mode = .ordinaryV3 ∧ NonnegativeSafe at_ ∧
      ∃ v, creditedReconciliation P plan (proofEvidence plan p at_) = .ok v
  | .payout f => created.Valid ∧ ∃ next, f.Writes P plan created next

/-- The record `s` holds exactly the facts of `l`. -/
structure Holds (P : Platform) (plan : SettledPlan) (created : MerchantSettlementRecord)
    (l : List SettlementFact) (s : MerchantSettlementRecord) : Prop where
  extends_ : created.Extends s
  credit_of : ∀ p at_, .credit p at_ ∈ l → ∃ c ∈ s.credit, c.transferId = p.transferId ∧
    c.creditedSats = p.creditedSats
  of_credit : ∀ c ∈ s.credit, ∃ p v, .credit p c.observedAt ∈ l ∧ p.transferId = c.transferId ∧
    p.creditedSats = c.creditedSats ∧
    creditedReconciliation P plan (proofEvidence plan p c.observedAt) = .ok v
  leg_of : ∀ f, .payout f ∈ l → ∃ next, f.Writes P plan created next ∧
    ∃ leg ∈ s.paidLegs, leg.legId = next.legId ∧ leg.receipt = next.receipt ∧
      (next.recipientVerified = true → leg.recipientVerified = true)
  of_leg : ∀ leg ∈ s.paidLegs, ∃ f next, .payout f ∈ l ∧ f.Writes P plan created next ∧
    next.legId = leg.legId ∧ next.receipt = leg.receipt
  of_verified : ∀ leg ∈ s.paidLegs, leg.recipientVerified = true → ∃ f next, .payout f ∈ l ∧
    f.Writes P plan created next ∧ next.legId = leg.legId ∧ next.recipientVerified = true
  nodup : (s.paidLegs.map SettlementPaidLeg.legId).Nodup
  legs_valid : ∀ leg ∈ s.paidLegs, leg.Valid created

section
variable {P : Platform} {plan : SettledPlan} {created s t : MerchantSettlementRecord}
  {l : List SettlementFact} {leg : SettlementPaidLeg} {c : SettlementCredit} {at_ : Int}

lemma Holds.valid (hs : Holds P plan created l s) (hval : created.Valid) : s.Valid := by
  refine valid_of_extends hs.extends_ hval (fun c hc => ?_) hs.legs_valid hs.nodup
  obtain ⟨p, v, -, htr, hsa, hv⟩ := hs.of_credit c hc
  rw [← htr, ← hsa]
  exact creditedReconciliation_valid hv

variable {l m : List SettlementFact} {legs : List SettlementPaidLeg} {f : PayoutFact}
  {next : SettlementPaidLeg} {p : ReceiveCreditProof}

lemma PayoutFact.Writes.unique {next next' : SettlementPaidLeg} (h : f.Writes P plan created next)
    (h' : f.Writes P plan created next') : next = next' := by
  obtain ⟨-, hst, -, -, -, -, hattr, hl, htr, ha, hat⟩ := h
  obtain ⟨-, hst', -, -, -, -, hattr', hl', htr', ha', hat'⟩ := h'
  obtain ⟨_, _, _, _, _, _, _⟩ := next
  obtain ⟨_, _, _, _, _, _, _⟩ := next'
  rw [hst, OutgoingStatus.paid.injEq] at hst'
  rw [hattr, Except.ok.injEq] at hattr'
  simp only [SettlementPaidLeg.mk.injEq]
  exact ⟨hl.trans hl'.symm, htr.trans htr'.symm,
    ha.trans ha'.symm, hst'.2, hst'.1, hat.trans hat'.symm, hattr'⟩

lemma Agrees.symm (f g : SettlementFact) (h : Agrees P plan created f g) :
    Agrees P plan created g f := by
  cases f with
  | credit p at_ =>
    cases g with
    | credit q at' => exact ⟨h.1.symm, h.2.symm⟩
    | payout g => exact h
  | payout f =>
    cases g with
    | credit q at' => exact h
    | payout g => exact fun next next' hg hf hid => (h next' next hf hg hid.symm).symm

section

variable (hcreate : createMerchantSettlementRecord P plan = .ok created)
include hcreate

lemma recordMerchantPayout_ok (he : created.Extends s) : recordFact P plan s (.payout f) = .ok t ↔
      s.Valid ∧ assertRecordedAllocation P plan f.target s.credit = .ok () ∧
        ∃ next, f.Writes P plan created next ∧ addPaidLeg s next = .ok t := by
  simp only [recordFact, recordMerchantPayout, bind_ok]
  constructor
  · rintro ⟨current, hr, u, hexact, h⟩
    obtain ⟨hv, rfl⟩ := (restore_extends hcreate he).1 hr
    cases hst : f.observation.status with
    | paid fee debit =>
      simp only [hst, run_ok, not_or, not_not, not_lt] at h
      obtain ⟨⟨-, htr, hans, hp, hti⟩, _, ha, b, hb, hadd⟩ := h
      exact ⟨hv, ha, _, ⟨hexact, hst, (tracks_extends he _).1 htr, hans,
        hp, hti, hb, rfl, rfl, rfl, rfl⟩, hadd⟩
    | _ => simp [hst] at h
  · rintro ⟨hv, ha, next, hw, hadd⟩
    have hkn : plan.recipient f.target.legId ≠ none := by
      intro hn
      have := hw.exact
      simp [requireSettledExactOutgoingRequest, hn] at this
    refine ⟨s, (restore_extends hcreate he).2 ⟨hv, rfl⟩, (), hw.exact, ?_⟩
    simp only [hw.status, run_ok, not_or, not_not, not_lt]
    refine ⟨⟨hkn, (tracks_extends he _).2 hw.tracked, hw.answers, hw.prepared, hw.time⟩, (),
      ha, next.recipientVerified, hw.attributed, ?_⟩
    rw [← hw.legId, ← hw.transferId, ← hw.allocationSats, ← hw.observedAt]
    exact hadd

lemma recordMerchantCredit_ok (he : created.Extends s) :
    recordFact P plan s (.credit p at_) = .ok t ↔
      s.Valid ∧ p.mode = .ordinaryV3 ∧ NonnegativeSafe at_ ∧
        ∃ v, creditedReconciliation P plan (proofEvidence plan p at_) = .ok v ∧
          (∀ paid ∈ s.paidLegs, v.allocation paid.legId = some paid.allocationSats) ∧
          (∀ known ∈ s.credit, known.transferId = p.transferId ∧
            known.creditedSats = p.creditedSats) ∧
          t = { s with credit := s.credit.or (some ⟨p.transferId, p.creditedSats, at_⟩) } := by
  simp only [recordFact, recordMerchantCredit, bind_ok, restore_extends hcreate he, exists_reject, not_not]
  constructor
  · rintro ⟨record, ⟨hval, heq⟩, hm, hti, v, hv, credit, hc, hp, h⟩
    simp only [heq] at hp h
    obtain ⟨current, -, -, hev, -⟩ := creditedReconciliation_ok hv
    rw [hev] at hc
    obtain rfl := Option.some.inj (requireSome_ok.1 hc)
    refine ⟨hval, hm, hti, v, hv, by simpa using hp, ?_⟩
    cases hkn : s.credit with
    | none =>
      simp only [hkn, pure_ok] at h
      exact ⟨by simp, h.symm⟩
    | some known =>
      simp only [hkn, run_ok, not_or, ne_eq, not_not] at h
      refine ⟨fun k hk => ?_, ?_⟩
      · cases hk
        exact h.1
      · rw [← h.2, Option.some_or, ← hkn]
  · rintro ⟨hval, hm, hti, v, hv, hp, hkn, rfl⟩
    obtain ⟨current, -, -, hev, -⟩ := creditedReconciliation_ok hv
    refine ⟨s, ⟨hval, rfl⟩, hm, hti, v, hv, _, requireSome_ok.2 hev, by simpa using hp, ?_⟩
    cases hc : s.credit with
    | none => rfl
    | some known =>
      obtain ⟨htr, hsa⟩ := hkn known hc
      simp only [run_ok, not_or, ne_eq, not_not, Option.some_or]
      refine ⟨⟨htr, hsa⟩, ?_⟩
      rw [← hc]

end

def SettlementPaidLeg.attributed (leg next : SettlementPaidLeg) : SettlementPaidLeg :=
  if leg.legId = next.legId then
    { leg with recipientVerified := leg.recipientVerified || next.recipientVerified }
  else leg

namespace SettlementPaidLeg
variable (leg next : SettlementPaidLeg)

lemma attributed_legId : (leg.attributed next).legId = leg.legId := by
  unfold attributed; split <;> rfl

lemma attributed_receipt : (leg.attributed next).receipt = leg.receipt := by
  unfold attributed; split <;> rfl

lemma attributed_valid : (leg.attributed next).Valid created ↔ leg.Valid created := by
  unfold attributed; split <;> rfl

lemma attributed_verified (h : leg.recipientVerified = true) :
    (leg.attributed next).recipientVerified = true := by
  unfold attributed; split <;> simp [h]

end SettlementPaidLeg

def withPaidLeg (legs : List SettlementPaidLeg) (next : SettlementPaidLeg) :
    List SettlementPaidLeg :=
  if ∃ leg ∈ legs, leg.legId = next.legId then legs.map fun leg => leg.attributed next
  else legs ++ [next]

lemma addPaidLeg_ok (hnd : (s.paidLegs.map legId).Nodup) : addPaidLeg s next = .ok t ↔
      (∀ leg ∈ s.paidLegs, leg.legId = next.legId → leg.receipt = next.receipt) ∧
        t = { s with paidLegs := withPaidLeg s.paidLegs next } := by
  unfold addPaidLeg withPaidLeg
  cases hf : s.paidLegs.find? fun leg => leg.legId = next.legId with
  | none =>
    have hne : ∀ leg ∈ s.paidLegs, leg.legId ≠ next.legId := by
      simpa using find?_eq_none.1 hf
    rw [if_neg (by rintro ⟨leg, hleg, hid⟩; exact hne leg hleg hid), pure_ok, eq_comm]
    exact ⟨fun h => ⟨fun leg hleg hid => absurd hid (hne leg hleg), h⟩, And.right⟩
  | some previous =>
    have hm := mem_of_find?_eq_some hf
    have hid : previous.legId = next.legId := by simpa using find?_some hf
    have ho : ∀ leg ∈ s.paidLegs, leg.legId = next.legId → leg = previous :=
      fun leg hleg h => eq_of_key_eq hnd hleg hm (h.trans hid.symm)
    have hu : (if next.recipientVerified = true ∧ previous.recipientVerified = false then
          { s with paidLegs := s.paidLegs.map fun leg =>
              if leg.legId = next.legId then { leg with recipientVerified := true } else leg }
        else s) = { s with paidLegs := s.paidLegs.map fun leg => leg.attributed next } := by
      unfold attributed
      split
      · next h => simp only [h.1, Bool.or_true]
      · next h =>
        have hk : ∀ leg ∈ s.paidLegs, (if leg.legId = next.legId then
            { leg with recipientVerified := leg.recipientVerified || next.recipientVerified }
            else leg) = leg := by
          intro leg hleg
          by_cases hl : leg.legId = next.legId
          · rw [if_pos hl]
            obtain rfl := ho leg hleg hl
            rw [not_and, Bool.not_eq_false] at h
            cases hv : next.recipientVerified with
            | false => rw [Bool.or_false]
            | true => rw [Bool.or_true, ← h hv]
          · rw [if_neg hl]
        rw [map_congr_left hk, map_id']
    simp only [run_ok, not_not, hu]
    rw [if_pos ⟨previous, hm, hid⟩, eq_comm (b := t)]
    refine and_congr_left fun _ => ⟨fun h leg hleg hl => ?_, fun h => h previous hm hid⟩
    rw [ho leg hleg hl, h]

lemma mem_withPaidLeg_of_mem (next : SettlementPaidLeg) (hl : leg ∈ legs) :
    ∃ leg' ∈ withPaidLeg legs next,
      leg'.legId = leg.legId ∧ leg'.receipt = leg.receipt ∧
        (leg.recipientVerified = true → leg'.recipientVerified = true) := by
  unfold withPaidLeg
  split
  · exact ⟨_, mem_map.2 ⟨leg, hl, rfl⟩, leg.attributed_legId next, leg.attributed_receipt next,
      leg.attributed_verified next⟩
  · exact ⟨leg, mem_append_left _ hl, rfl, rfl, id⟩

lemma exists_mem_withPaidLeg
    (heq : ∀ leg ∈ legs, leg.legId = next.legId → leg.receipt = next.receipt) :
    ∃ leg ∈ withPaidLeg legs next, leg.legId = next.legId ∧ leg.receipt = next.receipt ∧
      (next.recipientVerified = true → leg.recipientVerified = true) := by
  unfold withPaidLeg
  split
  · next h =>
    obtain ⟨leg, hl, hid⟩ := h
    refine ⟨_, mem_map.2 ⟨leg, hl, rfl⟩, (leg.attributed_legId next).trans hid,
      (leg.attributed_receipt next).trans (heq leg hl hid), fun hv => ?_⟩
    simp [attributed, hid, hv]
  · exact ⟨next, mem_append_right _ (mem_singleton_self next), rfl, rfl, id⟩

lemma of_mem_withPaidLeg {next : SettlementPaidLeg} (h : leg ∈ withPaidLeg legs next) :
    leg = next ∨ ∃ old ∈ legs, leg = old.attributed next ∧ (leg.recipientVerified = true →
      old.recipientVerified = true ∨ next.legId = leg.legId ∧ next.recipientVerified = true) := by
  unfold withPaidLeg at h
  split at h
  · obtain ⟨old, hold, rfl⟩ := mem_map.1 h
    refine .inr ⟨old, hold, rfl, fun hv => ?_⟩
    rw [old.attributed_legId]
    unfold attributed at hv
    split at hv
    · next hid =>
      rcases Bool.or_eq_true_iff.1 hv with hv | hv
      · exact .inl hv
      · exact .inr ⟨hid.symm, hv⟩
    · exact .inl hv
  · next hno =>
    rcases mem_append.1 h with h | h
    · exact .inr ⟨leg, h, (if_neg fun hid => hno ⟨leg, h, hid⟩).symm, .inl⟩
    · exact .inl (mem_singleton.1 h)

lemma withPaidLeg_nodup (next : SettlementPaidLeg) (hnd : (legs.map legId).Nodup) :
    ((withPaidLeg legs next).map legId).Nodup := by
  unfold withPaidLeg
  split
  · rw [map_map]
    have hi : legId ∘ (fun leg => attributed leg next) =
        legId := funext fun leg => leg.attributed_legId next
    rwa [hi]
  · next hno =>
    rw [map_append, map_singleton, ← concat_eq_append]
    refine hnd.concat fun hm => hno ?_
    obtain ⟨leg, hl, hid⟩ := mem_map.1 hm
    exact ⟨leg, hl, hid⟩

lemma Holds.accepts_credit (hcreate : createMerchantSettlementRecord P plan = .ok created)
    (hs : Holds P plan created l s) : (∃ t, recordFact P plan s (.credit p at_) = .ok t) ↔
      Admits P plan created (.credit p at_) ∧ ∀ g ∈ l, Agrees P plan created (.credit p at_) g := by
  simp only [recordMerchantCredit_ok hcreate hs.extends_]
  constructor
  · rintro ⟨t, hval, hm, hti, v, hv, hp, hkn, -⟩
    refine ⟨⟨valid_of_created hs.extends_ (createMerchantSettlementRecord_empty hcreate).1
      (createMerchantSettlementRecord_empty hcreate).2 hval, hm, hti, v, hv⟩, ?_⟩
    rintro (⟨q, at'⟩ | f) hg
    · obtain ⟨c, hc, htr, hsa⟩ := hs.credit_of q at' hg
      obtain ⟨htr', hsa'⟩ := hkn c hc
      exact ⟨htr'.symm.trans htr, hsa'.symm.trans hsa⟩
    · intro v' hv'
      obtain rfl : v = v' := Except.ok.inj (hv.symm.trans hv')
      obtain ⟨next, hw, leg, hl, hid, hr, -⟩ := hs.leg_of f hg
      have ha := hp leg hl
      simp only [receipt, Prod.mk.injEq] at hr
      rwa [hid, hw.legId, hr.2.1, hw.allocationSats] at ha
  · rintro ⟨⟨hval, hm, hti, v, hv⟩, hagr⟩
    refine ⟨_, hs.valid hval, hm, hti, v, hv, fun leg hl => ?_, fun c hc => ?_, rfl⟩
    · obtain ⟨f, next, hf, hw, hid, hr⟩ := hs.of_leg leg hl
      have ha := hagr _ hf v hv
      simp only [receipt, Prod.mk.injEq] at hr
      rw [← hid, hw.legId, ← hr.2.1, hw.allocationSats]
      exact ha
    · obtain ⟨q, -, hq, htr, hsa, -⟩ := hs.of_credit c hc
      obtain ⟨htr', hsa'⟩ := hagr _ hq
      exact ⟨htr.symm.trans htr'.symm, hsa.symm.trans hsa'.symm⟩

lemma Holds.recordedEvidence_eq (hs : Holds P plan created l s) (hc : c ∈ s.credit) :
    ∃ p v, .credit p c.observedAt ∈ l ∧ p.creditedSats = c.creditedSats ∧
      creditedReconciliation P plan (proofEvidence plan p c.observedAt) = .ok v ∧
      creditedReconciliation P plan (recordedEvidence plan c) = .ok v := by
  obtain ⟨p, v, hp, htr, hsa, hv⟩ := hs.of_credit c hc
  refine ⟨p, v, hp, hsa, hv, ?_⟩
  have hsc := creditedReconciliation_scope hv rfl
  rw [hsc] at hv
  obtain ⟨tid, creditedSats, observedAt⟩ := c
  subst htr hsa
  exact hv

section

variable (hcreate : createMerchantSettlementRecord P plan = .ok created)
include hcreate

lemma Holds.accepts_payout (hs : Holds P plan created l s) :
    (∃ t, recordFact P plan s (.payout f) = .ok t) ↔
      Admits P plan created (.payout f) ∧ ∀ g ∈ l, Agrees P plan created (.payout f) g := by
  simp only [recordMerchantPayout_ok hcreate hs.extends_, addPaidLeg_ok hs.nodup]
  constructor
  · rintro ⟨t, hval, ha, next, hw, heq, -⟩
    refine ⟨⟨valid_of_created hs.extends_ (createMerchantSettlementRecord_empty hcreate).1
      (createMerchantSettlementRecord_empty hcreate).2 hval, next, hw⟩, ?_⟩
    rintro (⟨p, at_⟩ | g) hg
    · intro v hv
      obtain ⟨c, hc, -, hsa⟩ := hs.credit_of p at_ hg
      rw [Option.mem_def.1 hc] at ha
      simp only [assertRecordedAllocation, bind_ok, reject_ok, not_not] at ha
      obtain ⟨v', hv', hv''⟩ := ha
      rw [← hv'']
      exact creditedReconciliation_legs hv hv' hsa.symm f.target.legId
    · intro next₁ next₂ hw₁ hw₂ hid
      obtain rfl := hw.unique hw₁
      obtain ⟨next₃, hw₃, leg, hl, hid₃, hr, -⟩ := hs.leg_of g hg
      obtain rfl := hw₂.unique hw₃
      rw [← hr]
      exact (heq leg hl (hid₃.trans hid.symm)).symm
  · rintro ⟨⟨hval, next, hw⟩, hagr⟩
    refine ⟨_, hs.valid hval, ?_, next, hw, fun leg hl hid => ?_, rfl⟩
    · cases hc : s.credit with
      | none => rfl
      | some c =>
        obtain ⟨p, v, hp, -, hv, hv'⟩ := hs.recordedEvidence_eq hc
        simp only [assertRecordedAllocation, hv', ok_bind, reject_ok, not_not]
        exact hagr _ hp v hv
    · obtain ⟨g, next', hg, hw', hid', hr⟩ := hs.of_leg leg hl
      rw [← hr]
      exact (hagr _ hg next next' hw hw' (hid.symm.trans hid'.symm)).symm

lemma feeLeg_kind (hv : created.Valid) (hver : created.schemaVersion ≠ 1)
    {r : SettledRecipient} (hr : r ∈ plan.recipients) (hid : r.legId = created.feeLegId) :
    r.kind = .conduit ∧ plan.IsNativeTreasuryPlan := by
  simp only [createMerchantSettlementRecord, run_ok] at hcreate
  obtain ⟨canon, hc, fee, -, rfl⟩ := hcreate
  obtain ⟨weights, hfr⟩ := frozenPlan_of_restore hc
  obtain ⟨heq, hp⟩ := restoreSettledPlan_version hc
  rw [← (restoreSettledPlan_keeps hc).1] at hr
  obtain ⟨-, -, -, -, -, -, hor, -, hf, -⟩ := hv
  rw [← hid] at hf
  rcases hp with ⟨h3, -⟩ | ⟨h4, -⟩ | ⟨h5, -, hmkt, -⟩
  · simp [h3] at hver
  · refine ⟨?_, .inl (heq ▸ h4)⟩
    by_contra hki
    refine hf (mem_map.2 ⟨r, mem_filter.2 ⟨hr, ?_⟩, rfl⟩)
    simp [h4, hki]
  · refine ⟨?_, .inr (heq ▸ h5)⟩
    by_contra hki
    have horg : r.kind = .organizer := by
      cases hk : r.kind <;> simp_all
    obtain ⟨market, hm⟩ := Option.ne_none_iff_exists'.1 hmkt
    have hone := (assertRecipients_ok hfr.recipients).2.2.2 market hm
    obtain ⟨o, ho⟩ : ∃ o, ofKind .organizer canon.recipients = [o] := by
      have hmem : r ∈ ofKind .organizer canon.recipients :=
        mem_filter.2 ⟨hr, by simpa using horg⟩
      refine length_eq_one_iff.1 ?_
      have hpos := length_pos_of_mem hmem
      split at hone <;> omega
    have hro : r = o := by
      have hmem : r ∈ ofKind .organizer canon.recipients :=
        mem_filter.2 ⟨hr, by simpa using horg⟩
      rw [ho] at hmem
      exact mem_singleton.1 hmem
    have hfi : canon.recipients.find? (fun r => r.kind = .organizer) = some o := by
      have := congrArg head? ho
      simpa [ofKind] using this
    refine (hor (by simp [h5]) o.legId ?_).2.1 (hro ▸ hid)
    simp [h5, hfi]

lemma PayoutFact.Writes.valid (hv : created.Valid) (hw : f.Writes P plan created next)
    (hp : (SettlementFact.payout f).Prepared) : next.Valid created := by
  obtain ⟨he, -, htrac, ⟨-, -, -, -, -, -, hfee, hcap, hdebit, halloc⟩, -, hti, -, hl,
    htran, hsats, hat⟩ := hw
  unfold requireSettledExactOutgoingRequest at he
  cases hr : plan.recipient f.target.legId with
  | none => simp [hr] at he
  | some r =>
    simp only [hr, bind_ok, reject_ok, exists_const, not_or, not_and, not_not, not_le] at he
    obtain ⟨⟨-, -, -, hn, -, -, -⟩, transferId, hder, htr, hsa, hpos, -⟩ :=
      he
    have hid : IsId f.target.intent.transferId 512 := htr ▸ isId_settledTransferId hder
    have hamt : 0 < f.target.intent.invoiceAmountSats := hp
    obtain ⟨hf, hfe⟩ := hfee
    unfold IsSafeInteger at hsa
    refine ⟨?_, ?_, htran ▸ hid, ?_, ?_, ?_, ⟨hf, hfe⟩, by omega, hat ▸ hti⟩
    · rintro ⟨hver, hfeeL⟩
      have hrid : r.legId = created.feeLegId := by
        have := find?_some hr
        rw [← hfeeL, hl]
        simpa using this
      obtain ⟨hk, hpl⟩ := feeLeg_kind hcreate hv hver (mem_of_find?_eq_some hr) hrid
      exact hn hpl hk
    · rw [hl]
      rcases htrac with h | h | h
      exacts [.inr (.inl h), .inl h, .inr (.inr h)]
    · rw [hsats]
      exact ⟨hsa, hpos⟩
    · unfold PositiveSats IsSafeInteger
      omega
    · omega

lemma Holds.keeps_credit (hs : Holds P plan created l s)
    (h : recordFact P plan s (.credit p at_) = .ok t) :
    Holds P plan created (.credit p at_ :: l) t := by
  obtain ⟨-, -, -, v, hv, -, hkn, rfl⟩ := (recordMerchantCredit_ok hcreate hs.extends_).1 h
  refine {
    extends_ := ?_, credit_of := ?_, of_credit := ?_, leg_of := ?_, of_leg := ?_
    of_verified := ?_, nodup := hs.nodup, legs_valid := hs.legs_valid }
  · have he := hs.extends_
    unfold MerchantSettlementRecord.Extends at he ⊢
    rw [he]
  · intro q at' hq
    have hm : q = p → ∃ c ∈ s.credit.or (some ⟨p.transferId, p.creditedSats, at_⟩),
        c.transferId = q.transferId ∧ c.creditedSats = q.creditedSats := by
      rintro rfl
      cases hc : s.credit with
      | none => exact ⟨_, rfl, rfl, rfl⟩
      | some c => exact ⟨c, rfl, hkn c hc⟩
    rcases mem_cons.1 hq with hq | hq
    · exact hm (SettlementFact.credit.inj hq).1
    · obtain ⟨c, hc, heq⟩ := hs.credit_of q at' hq
      exact ⟨c, by rw [Option.mem_def.1 hc]; rfl, heq⟩
  · intro c hc
    cases hold : s.credit with
    | none =>
      rw [hold, Option.none_or] at hc
      cases hc
      exact ⟨p, v, .head _, rfl, rfl, hv⟩
    | some known =>
      rw [hold, Option.some_or] at hc
      obtain ⟨q, w, hq, hr⟩ := hs.of_credit c (hold.trans hc)
      exact ⟨q, w, .tail _ hq, hr⟩
  · intro f hf
    rcases mem_cons.1 hf with hf | hf
    · cases hf
    · exact hs.leg_of f hf
  · intro leg hl
    obtain ⟨f, next, hf, hr⟩ := hs.of_leg leg hl
    exact ⟨f, next, .tail _ hf, hr⟩
  · intro leg hl hver
    obtain ⟨f, next, hf, hr⟩ := hs.of_verified leg hl hver
    exact ⟨f, next, .tail _ hf, hr⟩

lemma Holds.keeps_payout (hs : Holds P plan created l s)
    (hpr : (SettlementFact.payout f).Prepared) (h : recordFact P plan s (.payout f) = .ok t) :
    Holds P plan created (.payout f :: l) t := by
  obtain ⟨hval, -, next, hw, h⟩ := (recordMerchantPayout_ok hcreate hs.extends_).1 h
  obtain ⟨heq, rfl⟩ := (addPaidLeg_ok hs.nodup).1 h
  have hemp := createMerchantSettlementRecord_empty hcreate
  have hm := valid_of_created hs.extends_ hemp.1 hemp.2 hval
  refine {
    extends_ := ?_, credit_of := ?_, of_credit := ?_, leg_of := ?_, of_leg := ?_
    of_verified := ?_, nodup := withPaidLeg_nodup next hs.nodup, legs_valid := ?_ }
  · have he := hs.extends_
    unfold MerchantSettlementRecord.Extends at he ⊢
    rw [he]
  · intro p at_ hp
    rcases mem_cons.1 hp with hp | hp
    · cases hp
    · exact hs.credit_of p at_ hp
  · intro c hc
    obtain ⟨p, v, hp, hre⟩ := hs.of_credit c hc
    exact ⟨p, v, .tail _ hp, hre⟩
  · intro g hg
    rcases mem_cons.1 hg with hg | hg
    · obtain rfl := SettlementFact.payout.inj hg
      exact ⟨next, hw, exists_mem_withPaidLeg heq⟩
    · obtain ⟨next', hw', leg, hl, hid, hr, hver⟩ := hs.leg_of g hg
      obtain ⟨leg', hl', hid', hr', hver'⟩ := mem_withPaidLeg_of_mem next hl
      exact ⟨next', hw', leg', hl', hid'.trans hid, hr'.trans hr, fun hv => hver' (hver hv)⟩
  · intro leg hl
    rcases of_mem_withPaidLeg hl with rfl | ⟨old, hold, rfl, -⟩
    · exact ⟨f, leg, .head _, hw, rfl, rfl⟩
    · obtain ⟨g, next', hg, hw', hid, hr⟩ := hs.of_leg old hold
      exact ⟨g, next', .tail _ hg, hw', hid.trans (old.attributed_legId next).symm,
        hr.trans (old.attributed_receipt next).symm⟩
  · intro leg hl hv
    rcases of_mem_withPaidLeg hl with rfl | ⟨old, hold, rfl, hwhy⟩
    · exact ⟨f, leg, .head _, hw, rfl, hv⟩
    · rcases hwhy hv with hv | ⟨hid, hv⟩
      · obtain ⟨g, next', hg, hw', hid, hv'⟩ := hs.of_verified old hold hv
        exact ⟨g, next', .tail _ hg, hw', hid.trans (old.attributed_legId next).symm, hv'⟩
      · exact ⟨f, next, .head _, hw, hid, hv⟩
  · intro leg hl
    rcases of_mem_withPaidLeg hl with rfl | ⟨old, hold, rfl, -⟩
    · exact hw.valid hcreate hm hpr
    · exact (old.attributed_valid next).2 (hs.legs_valid old hold)

lemma holds_created : Holds P plan created [] created := by
  obtain ⟨hc, hp⟩ := createMerchantSettlementRecord_empty hcreate
  exact {
    extends_ := rfl
    credit_of := by simp
    of_credit := by simp [hc]
    leg_of := by simp
    of_leg := by simp [hp]
    of_verified := by simp [hp]
    nodup := by simp [hp]
    legs_valid := by simp [hp] }

lemma settlementRecorder :
    Recorder (recordFact P plan) SettlementFact.Prepared (Admits P plan created)
      (Agrees P plan created) (Holds P plan created) where
  symm := Agrees.symm
  accepts l s f hs := by
    cases f with
    | credit p at_ => exact hs.accepts_credit hcreate
    | payout f => exact hs.accepts_payout hcreate
  keeps l s f t hs hp h := by
    cases f with
    | credit p at_ => exact hs.keeps_credit hcreate h
    | payout f => exact hs.keeps_payout hcreate hp h

end

structure SameSettlement (s t : MerchantSettlementRecord) : Prop where
  credit : s.credit.map (fun c => (c.transferId, c.creditedSats)) =
    t.credit.map fun c => (c.transferId, c.creditedSats)
  legs : ∀ legId, (s.paidLegs.find? fun leg => leg.legId = legId).map
      (fun leg => (leg.receipt, leg.recipientVerified)) =
    (t.paidLegs.find? fun leg => leg.legId = legId).map
      fun leg => (leg.receipt, leg.recipientVerified)

lemma Holds.leg_of_subset (hs : Holds P plan created m s) (ht : Holds P plan created l t)
    (hsub : ∀ f ∈ m, f ∈ l) (hl : leg ∈ s.paidLegs) : ∃ leg' ∈ t.paidLegs, leg'.legId = leg.legId ∧
      leg'.receipt = leg.receipt ∧
      (leg.recipientVerified = true → leg'.recipientVerified = true) := by
  obtain ⟨f, next, hf, hw, hid, hr⟩ := hs.of_leg leg hl
  obtain ⟨next', hw', leg', hl', hid', hr', -⟩ := ht.leg_of f (hsub _ hf)
  obtain rfl := hw.unique hw'
  refine ⟨leg', hl', hid'.trans hid, hr'.trans hr, fun hv => ?_⟩
  obtain ⟨g, next', hg, hwg, hi, hvg⟩ := hs.of_verified leg hl hv
  obtain ⟨next'', hwg', leg'', hl'', hid'', -, hv''⟩ := ht.leg_of g (hsub _ hg)
  obtain rfl := hwg.unique hwg'
  have heq : leg'' = leg' := eq_of_key_eq ht.nodup hl'' hl'
    ((hid''.trans hi).trans (hid'.trans hid).symm)
  rw [← heq]
  exact hv'' hvg

lemma Holds.credit_of_subset (hs : Holds P plan created m s) (ht : Holds P plan created l t)
    (hsub : ∀ f ∈ m, f ∈ l) (hc : c ∈ s.credit) : ∃ c' ∈ t.credit, c'.transferId = c.transferId ∧
      c'.creditedSats = c.creditedSats := by
  obtain ⟨p, v, hp, htr, hsa, -⟩ := hs.of_credit c hc
  obtain ⟨c', hc', htr', hsa'⟩ := ht.credit_of p c.observedAt (hsub _ hp)
  exact ⟨c', hc', htr'.trans htr, hsa'.trans hsa⟩

lemma Holds.same (hs : Holds P plan created l s) (ht : Holds P plan created m t)
    (hlm : ∀ f, f ∈ l ↔ f ∈ m) : SameSettlement s t := by
  refine ⟨?_, fun legId => ?_⟩
  · cases hc : s.credit with
    | none =>
      cases hc' : t.credit with
      | none => rfl
      | some c' =>
        obtain ⟨c, hc'', -⟩ := ht.credit_of_subset hs (fun f hf => (hlm f).2 hf) hc'
        rw [hc] at hc''
        cases hc''
    | some c =>
      obtain ⟨c', hc', htr, hsa⟩ := hs.credit_of_subset ht (fun f hf => (hlm f).1 hf) hc
      rw [Option.mem_def.1 hc', Option.map_some, Option.map_some, htr, hsa]
  · apply Option.ext
    intro r
    simp only [Option.map_eq_some_iff, find?_key_iff hs.nodup, find?_key_iff ht.nodup]
    constructor
    · rintro ⟨leg, ⟨hl, hid⟩, rfl⟩
      obtain ⟨leg', hl', hid', hr, hv⟩ :=
        hs.leg_of_subset ht (fun f hf => (hlm f).1 hf) hl
      obtain ⟨leg'', hl'', hid'', -, hv'⟩ := ht.leg_of_subset hs (fun f hf => (hlm f).2 hf) hl'
      obtain rfl : leg'' = leg := eq_of_key_eq hs.nodup hl'' hl (hid''.trans hid')
      refine ⟨leg', ⟨hl', hid'.trans hid⟩, ?_⟩
      rw [hr, Bool.eq_iff_iff.2 ⟨hv', hv⟩]
    · rintro ⟨leg, ⟨hl, hid⟩, rfl⟩
      obtain ⟨leg', hl', hid', hr, hv⟩ :=
        ht.leg_of_subset hs (fun f hf => (hlm f).2 hf) hl
      obtain ⟨leg'', hl'', hid'', -, hv'⟩ := hs.leg_of_subset ht (fun f hf => (hlm f).1 hf) hl'
      obtain rfl : leg'' = leg := eq_of_key_eq ht.nodup hl'' hl (hid''.trans hid')
      refine ⟨leg', ⟨hl', hid'.trans hid⟩, ?_⟩
      rw [hr, Bool.eq_iff_iff.2 ⟨hv', hv⟩]

lemma exists_leg_iff (hnd : (legs.map legId).Nodup) {legId : Text} {verified : Bool} :
    (∃ leg ∈ legs, leg.recipientVerified = verified ∧ leg.legId = legId) ↔
      ∃ rcpt, (legs.find? fun leg => leg.legId = legId).map
        (fun leg => (leg.receipt, leg.recipientVerified)) = some (rcpt, verified) := by
  simp only [Option.map_eq_some_iff, find?_key_iff hnd, Prod.mk.injEq]
  constructor
  · rintro ⟨leg, hl, hv, hid⟩
    exact ⟨_, leg, ⟨hl, hid⟩, rfl, hv⟩
  · rintro ⟨rcpt, leg, ⟨hl, hid⟩, -, hv⟩
    exact ⟨leg, hl, hv, hid⟩

section

variable (h : SameSettlement s t)
include h

section

variable (hs : (s.paidLegs.map legId).Nodup)
include hs

section

variable (ht : (t.paidLegs.map legId).Nodup)
include ht

lemma SameSettlement.exists_leg (legId : Text) (verified : Bool) :
    (∃ leg ∈ s.paidLegs, leg.recipientVerified = verified ∧ leg.legId = legId) ↔
      ∃ leg ∈ t.paidLegs, leg.recipientVerified = verified ∧ leg.legId = legId := by
  rw [exists_leg_iff hs, exists_leg_iff ht, h.legs legId]

lemma SameSettlement.attributes (legId : Text) : s.Attributes legId ↔ t.Attributes legId :=
  h.exists_leg hs ht legId true

lemma SameSettlement.unverified : (∃ leg ∈ s.paidLegs, leg.recipientVerified = false) ↔
      ∃ leg ∈ t.paidLegs, leg.recipientVerified = false := by
  constructor
  · rintro ⟨leg, hl, hv⟩
    obtain ⟨leg', hl', hv', -⟩ := (h.exists_leg hs ht leg.legId false).1 ⟨leg, hl, hv, rfl⟩
    exact ⟨leg', hl', hv'⟩
  · rintro ⟨leg, hl, hv⟩
    obtain ⟨leg', hl', hv', -⟩ := (h.exists_leg hs ht leg.legId false).2 ⟨leg, hl, hv, rfl⟩
    exact ⟨leg', hl', hv'⟩

lemma SameSettlement.paid (legId : Text) :
    (∃ leg ∈ s.paidLegs, leg.legId = legId) ↔ ∃ leg ∈ t.paidLegs, leg.legId = legId := by
  constructor
  · rintro ⟨leg, hl, hid⟩
    obtain ⟨leg', hl', -, hid'⟩ := (h.exists_leg hs ht legId _).1 ⟨leg, hl, rfl, hid⟩
    exact ⟨leg', hl', hid'⟩
  · rintro ⟨leg, hl, hid⟩
    obtain ⟨leg', hl', -, hid'⟩ := (h.exists_leg hs ht legId _).2 ⟨leg, hl, rfl, hid⟩
    exact ⟨leg', hl', hid'⟩

end

end

end

lemma Holds.project_same (hcreate : createMerchantSettlementRecord P plan = .ok created)
    (hs : Holds P plan created l s) (ht : Holds P plan created m t) (h : SameSettlement s t) :
    projectMerchantSettlement s = projectMerchantSettlement t := by
  have he := createMerchantSettlementRecord_empty hcreate
  have hval : s.Valid ↔ t.Valid :=
    ⟨fun hv => ht.valid (valid_of_created hs.extends_ he.1 he.2 hv),
      fun hv => hs.valid (valid_of_created ht.extends_ he.1 he.2 hv)⟩
  have hc : s.credit.isSome = t.credit.isSome := by
    have := congrArg Option.isSome h.credit
    simpa only [Option.isSome_map] using this
  have hes := hs.extends_
  have het := ht.extends_
  have hm : s.merchantLegId = t.merchantLegId := by rw [hes, het]
  have hr : s.requiredCommerceLegIds = t.requiredCommerceLegIds := by rw [hes, het]
  have hver : s.schemaVersion = t.schemaVersion := by rw [hes, het]
  have hn : s.nativeTreasury = t.nativeTreasury := by rw [hes, het]
  have hf : s.feeLegId = t.feeLegId := by rw [hes, het]
  simp only [projectMerchantSettlement, hval, hc, hm, hr, hver, hn,
    hf, h.attributes hs.nodup ht.nodup, h.unverified hs.nodup ht.nodup,
    h.paid hs.nodup ht.nodup]

/-- No verified flag of `p` is off in `q`. -/
structure SettlementProjection.Within (p q : SettlementProjection) : Prop where
  credit : p.creditVerified = true → q.creditVerified = true
  merchant : p.merchantVerified = true → q.merchantVerified = true
  commerce : p.commerceVerified = true → q.commerceVerified = true

lemma Holds.attributes_subset (hs : Holds P plan created m s) (ht : Holds P plan created l t)
    (hsub : ∀ f ∈ m, f ∈ l) {legId : Text} (h : s.Attributes legId) : t.Attributes legId := by
  obtain ⟨leg, hl, hv, hid⟩ := h
  obtain ⟨leg', hl', hid', -, hv'⟩ := hs.leg_of_subset ht hsub hl
  exact ⟨leg', hl', hv' hv, hid'.trans hid⟩

lemma Holds.project_within (hs : Holds P plan created m s) (ht : Holds P plan created l t)
    (hsub : ∀ f ∈ m, f ∈ l) {p q : SettlementProjection} (hp : projectMerchantSettlement s = .ok p)
    (hq : projectMerchantSettlement t = .ok q) : p.Within q := by
  simp only [projectMerchantSettlement, run_ok] at hp hq
  obtain ⟨-, rfl⟩ := hp
  obtain ⟨-, rfl⟩ := hq
  have hcr : s.credit.isSome = true → t.credit.isSome = true := by
    intro hso
    obtain ⟨c, hc⟩ := Option.isSome_iff_exists.1 hso
    obtain ⟨c', hc', -⟩ := hs.credit_of_subset ht hsub hc
    exact Option.isSome_iff_exists.2 ⟨c', hc'⟩
  have hes := hs.extends_
  have het := ht.extends_
  have hm : s.merchantLegId = t.merchantLegId := by rw [hes, het]
  have hr : s.requiredCommerceLegIds = t.requiredCommerceLegIds := by rw [hes, het]
  refine ⟨hcr, ?_, ?_⟩
  · dsimp only
    rw [hm]
    cases t.merchantLegId with
    | none => exact hcr
    | some legId =>
      simp only [decide_eq_true_eq]
      exact hs.attributes_subset ht hsub
  · simp only [decide_eq_true_eq, hr]
    rintro ⟨hc, ha⟩
    exact ⟨hcr hc, fun legId hid => hs.attributes_subset ht hsub (ha legId hid)⟩

/-- Accepted facts are accepted in every order, with one projection, and turn no verified flag off.
-/
theorem settlement_facts_commute (hcreate : createMerchantSettlementRecord P plan = .ok created)
    {facts facts' : List SettlementFact} (hprepared : ∀ f ∈ facts, f.Prepared)
    (hperm : facts.Perm facts') {record : MerchantSettlementRecord}
    (hrun : foldResult (recordFact P plan) created facts = .ok record) :
    (∃ record', foldResult (recordFact P plan) created facts' = .ok record' ∧
      SameSettlement record record' ∧
      projectMerchantSettlement record = projectMerchantSettlement record') ∧
    ∀ before after earlier, facts = before ++ after →
      foldResult (recordFact P plan) created before = .ok earlier →
      (∀ legId, earlier.Attributes legId → record.Attributes legId) ∧
      ∀ p q, projectMerchantSettlement earlier = .ok p →
        projectMerchantSettlement record = .ok q → p.Within q := by
  have hr := settlementRecorder hcreate
  have hstart := holds_created hcreate
  have hholds := hr.run_keeps hstart hprepared hrun
  refine ⟨?_, ?_⟩
  · obtain ⟨record', hrun'⟩ := hr.run_perm hstart hprepared hperm hrun
    have hholds' := hr.run_keeps hstart (fun f hf => hprepared f (hperm.mem_iff.2 hf)) hrun'
    have hsame := hholds.same hholds' fun f => by simp [hperm.mem_iff]
    exact ⟨record', hrun', hsame, hholds.project_same hcreate hholds' hsame⟩
  · rintro before after earlier rfl hbefore
    have hearlier := hr.run_keeps hstart
      (fun f hf => hprepared f (mem_append_left after hf)) hbefore
    have hsub : ∀ f ∈ before.reverse ++ [], f ∈ (before ++ after).reverse ++ [] := by
      intro f hf
      simp only [append_nil, mem_reverse] at hf ⊢
      exact mem_append_left after hf
    exact ⟨fun legId => hearlier.attributes_subset hholds hsub,
      fun p q => hearlier.project_within hholds hsub⟩

end

namespace Sample

def originPlatform : Platform :=
  { platform with
    digest := fun
      | .arr (.str domain :: rest) =>
        if domain = "conduit.checkout-spark.local-invoice-origin.v1" then
          hexText 64 0x713b5d29f1b08395f203b3c3bae242845418eba639fabf3a53e9bc174232b731
        else digest (.arr (.str domain :: rest))
      | value => digest value }

def creditFact : SettlementFact :=
  .credit {
    mode := .ordinaryV3
    requestId := "funding"
    transferId := "credit"
    receiverIdentityPublicKey := receiver
    grossSats := 1023
    creditedSats := 1023 } 1800000030000

def payoutFact (observedAt : Int) (invoiceOrigin : Option InvoiceOriginRecord) : SettlementFact :=
  .payout {
    target := {
      generation := none
      walletId := "wallet"
      network := .regtest
      legId := merchantLeg
      recipientId := merchant
      allocationSats := 1002
      unpaidAllocationSats := 1002
      intent := payout }
    observation := {
      legId := merchantLeg
      transferId := transferId
      paymentRequest := payoutInvoice
      paymentHash := payoutHash
      invoiceAmountSats := 1000
      maxFeeSats := 2
      status := .paid 1 1001 }
    observedAt := observedAt
    invoiceOrigin := invoiceOrigin
    invoiceRecipient := none }

def origin : InvoiceOriginRecord where
  schemaVersion := 1
  legId := merchantLeg
  intentDigest := hexText 64 0x713b5d29f1b08395f203b3c3bae242845418eba639fabf3a53e9bc174232b731
  resolvedAt := 1800000050000

def emptySettlement : MerchantSettlementRecord :=
  { settlement with credit := none, paidLegs := [] }

def facts : List SettlementFact :=
  [payoutFact 1800000070000 none, creditFact, payoutFact 1800000075000 (some origin)]

lemma create_settlement :
    createMerchantSettlementRecord originPlatform plan = .ok emptySettlement := by decide +kernel

lemma facts_prepared : ∀ f ∈ facts, f.Prepared := by
  simp [facts, creditFact, payoutFact, SettlementFact.Prepared, payout]

lemma run_facts : foldResult (recordFact originPlatform plan) emptySettlement facts =
    .ok settlement := by decide +kernel

end Sample

theorem settlement_facts_commute_sample :
    (∃ record', foldResult (recordFact originPlatform plan) emptySettlement
        facts.reverse = .ok record' ∧
      SameSettlement settlement record' ∧
      projectMerchantSettlement settlement = projectMerchantSettlement record') ∧
    ∀ before after earlier, facts = before ++ after →
      foldResult (recordFact originPlatform plan) emptySettlement before = .ok earlier →
      (∀ legId, earlier.Attributes legId → settlement.Attributes legId) ∧
      ∀ p q, projectMerchantSettlement earlier = .ok p →
        projectMerchantSettlement settlement = .ok q → p.Within q :=
  settlement_facts_commute create_settlement facts_prepared
    facts.reverse_perm.symm run_facts

end Conduit.CheckoutSpark
