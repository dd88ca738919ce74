import Conduit.Network.InboxGrace

namespace Conduit.Network

open Js Stock Throwing CheckoutSpark Runs List Option

section Merging
variable {P : NetworkPlatform} {l m n : List InboxDeclarationCutoverRecovery}
  {R S T : InboxDeclarationCutoverRecovery}

lemma Compatible.symm (h : Compatible R S) : Compatible S R :=
  ⟨h.1.symm, fun s hs t ht => (h.2 t ht s hs).symm⟩

lemma CompatibleLists.symm (h : CompatibleLists l m) : CompatibleLists m l :=
  fun S hS R hR hid => (h R hR S hS hid.symm).symm

lemma compatible_congr (hr : R.relayUrls = S.relayUrls)
    (hs : R.replacementEventSig = S.replacementEventSig) : Compatible R T ↔ Compatible S T := by
  unfold Compatible
  rw [hr, hs]

lemma joinRecoveries_sig (hR : RecoveryNormal P R) :
    (joinRecoveries P R S).replacementEventSig = R.replacementEventSig := by
  obtain ⟨s, hs, -⟩ := hR.sig
  rw [joinRecoveries, hs]
  rfl

lemma compatibleLists_join (hP : P.Lawful) (hl : RecoveriesNormal P l)
    (hm : RecoveriesNormal P m) (h : CompatibleLists l m) :
    CompatibleLists (joinLists recoveryKey (joinRecoveries P) (recoveryLe P) l m) n ↔
      CompatibleLists l n ∧ CompatibleLists m n := by
  constructor
  · intro hj
    refine ⟨?_, ?_⟩
    · intro R hR T hT hid
      obtain ⟨c, hc, rfl | ⟨S, -, -, rfl⟩⟩ := exists_joined_left recoveryKey_join
        hl.canonical.nodup hm.canonical.nodup hR
      · exact hj _ hc T hT hid
      · have hs := joinRecoveries_sig (P := P) (S := S) (hl.normal R hR)
        exact (compatible_congr (R := joinRecoveries P R S) (S := R) rfl hs).1 (hj _ hc T hT hid)
    · intro S hS T hT hid
      obtain ⟨c, hc, rfl | ⟨R, hR, hk, rfl⟩⟩ := exists_joined_right recoveryKey_join
        hl.canonical.nodup hm.canonical.nodup hS
      · exact hj _ hc T hT hid
      · have hRS := h R hR S hS hk
        have hs := (joinRecoveries_sig (P := P) (S := S) (hl.normal R hR)).trans
          (sig_eq (hl.normal R hR) (hm.normal S hS) hRS)
        apply (compatible_congr (R := joinRecoveries P R S) hRS.1 hs).1
        exact hj _ hc T hT (hk.trans hid)
  · rintro ⟨hln, hmn⟩
    apply forall_joinLists recoveryKey_join (recoveries_separate hP) hl.canonical.nodup
      hm.canonical.nodup hln hmn
    intro R hR S _ _ T hT hid
    have hs := joinRecoveries_sig (P := P) (S := S) (hl.normal R hR)
    exact (compatible_congr (R := joinRecoveries P R S) (S := R) rfl hs).2 (hln R hR T hT hid)

def merged (P : NetworkPlatform) (l m : List InboxDeclarationCutoverRecovery) :
    Option (List InboxDeclarationCutoverRecovery) :=
  (mergeCutoverRecoveries P (some l) (some m)).toOption

lemma merged_eq_some (hP : P.Lawful) (hl : RecoveriesNormal P l) (hm : RecoveriesNormal P m) :
    merged P l m = some n ↔ CompatibleLists l m ∧
      n = joinLists recoveryKey (joinRecoveries P) (recoveryLe P) l m := by
  rw [← mergeRecoveries_ok hP hl hm, merged, mergeCutoverRecoveries, getD_some, getD_some]
  cases normalizeCutoverRecoveries P (l ++ m) none <;> simp [Except.toOption]

lemma merged_comm (hP : P.Lawful) (hl : RecoveriesNormal P l) (hm : RecoveriesNormal P m) :
    merged P l m = merged P m l := by
  ext r
  rw [merged_eq_some hP hl hm, merged_eq_some hP hm hl]
  have hj : CompatibleLists l m →
      joinLists recoveryKey (joinRecoveries P) (recoveryLe P) l m =
        joinLists recoveryKey (joinRecoveries P) (recoveryLe P) m l := by
    intro h
    apply joinLists_comm recoveryKey_join (recoveries_separate hP) hl.canonical.nodup
      hm.canonical.nodup
    intro R hR S hS hk
    exact joinRecoveries_comm hP (hl.normal R hR) (hm.normal S hS) hk (h R hR S hS hk)
  constructor
  · rintro ⟨h, rfl⟩
    exact ⟨h.symm, hj h⟩
  · rintro ⟨h, rfl⟩
    exact ⟨h.symm, (hj h.symm).symm⟩

lemma merged_assoc (hP : P.Lawful) (hl : RecoveriesNormal P l) (hm : RecoveriesNormal P m)
    (hn : RecoveriesNormal P n) :
    ((merged P l m).bind fun r => merged P r n) = (merged P m n).bind fun r => merged P l r := by
  ext r
  simp only [bind_eq_some_iff]
  have hj : CompatibleLists l m → CompatibleLists m n →
      joinLists recoveryKey (joinRecoveries P) (recoveryLe P)
          (joinLists recoveryKey (joinRecoveries P) (recoveryLe P) l m) n =
        joinLists recoveryKey (joinRecoveries P) (recoveryLe P) l
          (joinLists recoveryKey (joinRecoveries P) (recoveryLe P) m n) := by
    intro hlm hmn
    apply joinLists_assoc recoveryKey_join (recoveries_separate hP) hl.canonical.nodup
      hm.canonical.nodup hn.canonical.nodup
    intro R hR S hS T hT hRS hST
    exact joinRecoveries_assoc hP (hl.normal R hR) (hm.normal S hS) (hn.normal T hT)
      (hlm R hR S hS hRS) (hmn S hS T hT hST)
  constructor
  · rintro ⟨q, hq, hr⟩
    obtain ⟨hlm, rfl⟩ := (merged_eq_some hP hl hm).1 hq
    obtain ⟨ha, rfl⟩ := (merged_eq_some hP (joined_normal hP hl hm hlm) hn).1 hr
    obtain ⟨hln, hmn⟩ := (compatibleLists_join hP hl hm hlm).1 ha
    refine ⟨_, (merged_eq_some hP hm hn).2 ⟨hmn, rfl⟩,
      (merged_eq_some hP hl (joined_normal hP hm hn hmn)).2 ⟨?_, hj hlm hmn⟩⟩
    exact ((compatibleLists_join hP hm hn hmn).2 ⟨hlm.symm, hln.symm⟩).symm
  · rintro ⟨q, hq, hr⟩
    obtain ⟨hmn, rfl⟩ := (merged_eq_some hP hm hn).1 hq
    obtain ⟨ha, rfl⟩ := (merged_eq_some hP hl (joined_normal hP hm hn hmn)).1 hr
    obtain ⟨hml, hnl⟩ := (compatibleLists_join hP hm hn hmn).1 ha.symm
    refine ⟨_, (merged_eq_some hP hl hm).2 ⟨hml.symm, rfl⟩,
      (merged_eq_some hP (joined_normal hP hl hm hml.symm) hn).2 ⟨?_, (hj hml.symm hmn).symm⟩⟩
    exact (compatibleLists_join hP hl hm hml.symm).2 ⟨hnl.symm, hmn⟩

lemma merged_self (hP : P.Lawful) (hl : RecoveriesNormal P l) : merged P l l = some l := by
  refine (merged_eq_some hP hl hl).2 ⟨?_, ?_⟩
  · intro R hR S hS hid
    obtain rfl := Keyed.eq_of_key_eq hl.canonical.nodup hR hS hid
    exact ⟨rfl, fun s hs t ht => some_inj.1 (hs.symm.trans ht)⟩
  · exact (joinLists_self recoveryKey_join (recoveries_separate hP) hl.canonical
      fun R hR => joinRecoveries_self hP (hl.normal R hR)).symm

end Merging

section Runs
variable {P : NetworkPlatform} {s t : Option InboxDeclarationEvidenceRecord} {l : List InboxAction}

def StateOk (P : NetworkPlatform) (s : Option InboxDeclarationEvidenceRecord) : Prop :=
  ∀ r, s = some r → RecordOk P r

lemma inboxStep_spec (hP : P.Lawful) {a : InboxAction} (hs : StateOk P s) (h : InboxStep P a s t) :
    StateOk P t ∧ RecoveryStep a.readbackAt (batches s) (batches t) := by
  obtain ⟨record, hr, rfl⟩ := h
  obtain ⟨hok, hst⟩ := apply_step hP hs hr
  refine ⟨?_, hst⟩
  rintro r ⟨⟩
  exact hok

lemma run_ok (hP : P.Lawful) (h : Run (InboxStep P) s l t) (hs : StateOk P s) : StateOk P t :=
  h.invariant (I := StateOk P) (fun _ _ _ hs hst => (inboxStep_spec hP hs hst).1) hs

lemma run_grows (hP : P.Lawful) (h : Run (InboxStep P) s l t) (hs : StateOk P s) :
    RecoveriesGrow (batches s) (batches t) := by
  apply Run.related (R := fun s t => RecoveriesGrow (batches s) (batches t))
    (fun _ _ => .refl _) (fun _ _ _ hst htu => hst.trans htu) _ h hs
  intro a s t hs hstep
  obtain ⟨hok, hr⟩ := inboxStep_spec hP hs hstep
  exact ⟨hok, hr.grow⟩

def ClockStarted (P : NetworkPlatform) (s : Option InboxDeclarationEvidenceRecord)
    (l : List InboxAction) (id : Text) (e : Int) : Prop :=
  ∃ l₁ a l₂ q u R readAt, l = l₁ ++ a :: l₂ ∧ Run (InboxStep P) s l₁ q ∧ InboxStep P a q u ∧
    R ∈ batches u ∧ R.replacementEventId = id ∧ a.readbackAt = some readAt ∧
    Confirmed readAt R ∧ e = readAt + inboxDeclarationCutoverGraceMs

lemma run_clock (hP : P.Lawful) (h : Run (InboxStep P) s l t) (hs : StateOk P s) :
    ∀ R ∈ batches t, ∀ e, R.expiresAt = some e →
      (∃ Q ∈ batches s, Q.replacementEventId = R.replacementEventId ∧ Q.expiresAt = some e) ∨
        ClockStarted P s l R.replacementEventId e := by
  induction h with
  | nil s => exact fun R hR e he => .inl ⟨R, hR, rfl, he⟩
  | cons head tail ih =>
    intro R hR e he
    obtain ⟨hok, hst⟩ := inboxStep_spec hP hs head
    rcases ih hok R hR e he with ⟨Q, hQ, hid, hQe⟩ |
      ⟨l₁, b, l₂, q, u, Q, readAt, rfl, hrun, hb, hQ⟩
    · rcases hst.clock Q hQ e hQe with ⟨O, hO, hOid, hOe⟩ | ⟨readAt, hr, hc⟩
      · exact .inl ⟨O, hO, hOid.trans hid, hOe⟩
      · refine .inr ⟨[], _, _, _, _, Q, readAt, rfl, .nil _, head, hQ, hid, hr, hc, ?_⟩
        exact some_inj.1 (hQe.symm.trans hc.expiry)
    · exact .inr ⟨_ :: l₁, b, l₂, q, u, Q, readAt, rfl, .cons head hrun, hb, hQ⟩

lemma stateOk_none : StateOk P none := by
  rintro r ⟨⟩

end Runs

namespace Sample

def quoteChar (c : Char) : Text := if c = '"' ∨ c = '\\' then ['\\', c] else [c]

def quote (t : Text) : Text := '"' :: t.flatMap quoteChar ++ ['"']

def stringifyTail : List Text → Text
  | [] => [']']
  | t :: l => ',' :: quote t ++ stringifyTail l

def stringify : List Text → Text
  | [] => ['[', ']']
  | t :: l => '[' :: quote t ++ stringifyTail l

lemma quoted_inj {s t x y : Text} (h : s.flatMap quoteChar ++ '"' :: x =
    t.flatMap quoteChar ++ '"' :: y) : s = t ∧ x = y := by
  induction s generalizing t with
  | nil =>
    cases t with
    | nil => exact ⟨rfl, (cons.inj h).2⟩
    | cons d t =>
      simp only [flatMap_nil, nil_append, flatMap_cons, quoteChar] at h
      split_ifs at h with hd
      · cases (cons.inj h).1
      · simp only [cons_append, cons.injEq] at h
        exact absurd (.inl h.1.symm) hd
  | cons c s ih =>
    cases t with
    | nil =>
      simp only [flatMap_nil, nil_append, flatMap_cons, quoteChar] at h
      split_ifs at h with hc
      · cases (cons.inj h).1
      · simp only [cons_append, cons.injEq] at h
        exact absurd (.inl h.1) hc
    | cons d t =>
      simp only [flatMap_cons, quoteChar] at h ih
      split_ifs at h with hc hd hd <;>
        simp only [cons_append, nil_append, cons.injEq] at h
      · obtain ⟨hst, hxy⟩ := ih h.2.2
        exact ⟨by rw [h.2.1, hst], hxy⟩
      · exact absurd (.inr h.1.symm) hd
      · exact absurd (.inr h.1) hc
      · obtain ⟨hst, hxy⟩ := ih h.2
        exact ⟨by rw [h.1, hst], hxy⟩

lemma quote_append_inj {s t x y : Text} (h : quote s ++ x = quote t ++ y) : s = t ∧ x = y := by
  simp only [quote, cons_append, append_assoc, cons.injEq, true_and, nil_append] at h
  exact quoted_inj h

lemma stringifyTail_inj {l m : List Text} (h : stringifyTail l = stringifyTail m) : l = m := by
  induction l generalizing m with
  | nil => cases m with
    | nil => rfl
    | cons t m => cases (cons.inj h).1
  | cons s l ih => cases m with
    | nil => cases (cons.inj h).1
    | cons t m =>
      obtain ⟨hst, hlm⟩ := quote_append_inj (cons.inj h).2
      rw [hst, ih hlm]

lemma stringify_inj {l m : List Text} (h : stringify l = stringify m) : l = m := by
  cases l with
  | nil => cases m with
    | nil => rfl
    | cons t m => cases (cons.inj (cons.inj h).2).1
  | cons s l => cases m with
    | nil => cases (cons.inj (cons.inj h).2).1
    | cons t m =>
      obtain ⟨hst, hlm⟩ := quote_append_inj (cons.inj h).2
      rw [hst, stringifyTail_inj hlm]

def platform : NetworkPlatform where
  tryNormalizeRelayUrl := fun url => if startsWith url "wss://" then some url else none
  e2eRelayIsolation := none
  isVerifiedNostrEvent := fun _ => true
  localeLe := fun a b => decide (TextLe a b)
  confirmationAttemptKey := stringify

lemma platform_lawful : platform.Lawful where
  idempotent := by
    intro url u h
    simp only [platform, ite_none_right_eq_some] at h ⊢
    obtain ⟨hs, heq⟩ := h
    cases heq
    exact ⟨hs, trivial⟩
  localeLe_total a b := by simpa [platform] using Std.Total.total (r := TextLe) a b
  localeLe_trans a b c hab hbc := by
    simp only [platform, decide_eq_true_eq] at hab hbc ⊢
    exact IsTrans.trans (r := TextLe) a b c hab hbc
  localeLe_antisymm a b hab hba := by
    simp only [platform, decide_eq_true_eq] at hab hba
    exact textLe_antisymm hab hba
  key_injective _ _ h := stringify_inj h

def replacement : SignedEvent where
  id := List.replicate 64 'b'
  pubkey := List.replicate 64 'a'
  createdAt := 1000
  kind := 10050
  tags := [["relay", "wss://new.example"]]
  content := []
  sig := List.replicate 128 'c'

def stage : StageInput where
  pubkey := List.replicate 64 'a'
  signedEvent := replacement
  publishRelayUrls := ["wss://new.example"]
  confirmationRelayUrls := none
  relayOutcomes := none
  previousRelayUrls := some ["wss://old.example"]
  excludedRelayUrls := none
  cutoverPolicyVersion := some 1
  cutoverGraceMs := some inboxDeclarationCutoverGraceMs
  expectedCurrentEventId := none
  stagedAt := some 5000
  cachedAt := none

def readback : ReadbackInput where
  replacementEventId := replacement.id
  replacementEventSig := replacement.sig
  readback := [⟨"wss://new.example", .observed⟩]
  observedAt := 9000

/-- A declaration replaces an inbox and is read back four seconds later. -/
def play : List InboxAction := [.stage stage 5000, .readback readback]

def record : Result InboxDeclarationEvidenceRecord := do
  let staged ← applyInboxDeclarationDistributionStage platform none stage 5000
  applyInboxDeclarationCutoverRecoveryReadback platform staged readback

lemma record_expiry : ∃ r ∈ record.toOption, ∃ R ∈ r.cutoverRecoveries.getD [],
    R.replacementEventId = replacement.id ∧
      R.expiresAt = some (9000 + inboxDeclarationCutoverGraceMs) := by
  decide +kernel

lemma record_run {r : InboxDeclarationEvidenceRecord} (h : record = .ok r) :
    Run (InboxStep platform) none play (some r) := by
  simp only [record, bind_ok] at h
  obtain ⟨staged, hs, hr⟩ := h
  exact .cons ⟨staged, hs, rfl⟩ (.cons ⟨r, hr, rfl⟩ (.nil _))

end Sample

end Conduit.Network
