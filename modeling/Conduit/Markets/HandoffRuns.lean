import Conduit.Markets.HandoffClaims
import Conduit.Runs

namespace Conduit.Markets

open Js Runs Stock Throwing List Option Prod

structure RecordGrows (r r' : TerminalRecord) : Prop where
  claimRef : r'.claimRef = r.claimRef
  readyReceiptId : r'.readyReceiptId = r.readyReceiptId
  graphDigest : r'.graphDigest = r.graphDigest
  ack : r.ack = true → r'.ack = true
  revoked : r.revoked = true → r'.revoked = true
  conflicting : r.conflicting = true → r'.conflicting = true
  compacted : r.compacted = true → r'.compacted = true

lemma RecordGrows.refl (r : TerminalRecord) : RecordGrows r r := ⟨rfl, rfl, rfl, id, id, id, id⟩

lemma RecordGrows.trans {q r s : TerminalRecord} (h : RecordGrows q r) (h' : RecordGrows r s) :
    RecordGrows q s :=
  ⟨h'.claimRef.trans h.claimRef, h'.readyReceiptId.trans h.readyReceiptId,
    h'.graphDigest.trans h.graphDigest, h'.ack ∘ h.ack, h'.revoked ∘ h.revoked,
    h'.conflicting ∘ h.conflicting, h'.compacted ∘ h.compacted⟩

def HistoryGrows (h h' : TerminalHistory) : Prop :=
  ∀ claimRef r, recordOf h claimRef = some r → ∃ r', recordOf h' claimRef = some r' ∧
    RecordGrows r r'

lemma HistoryGrows.refl (h : TerminalHistory) : HistoryGrows h h :=
  fun _ r hr => ⟨r, hr, .refl r⟩

lemma HistoryGrows.trans {h h' h'' : TerminalHistory} (hgrows : HistoryGrows h h')
    (hgrows' : HistoryGrows h' h'') : HistoryGrows h h'' := by
  intro claimRef r hr
  obtain ⟨r', hr', hrr⟩ := hgrows claimRef r hr
  obtain ⟨r'', hr'', hrr'⟩ := hgrows' claimRef r' hr'
  exact ⟨r'', hr'', hrr.trans hrr'⟩

section
variable {P : HandoffPlatform} {history : TerminalHistory} {m : HandoffMessage} {claimRef : Text}
  {r : TerminalRecord} {order : PickupOrder} {claim : Option (Option OrganizerClaim)}

lemma claimRef_of_recordOf (h : recordOf history claimRef = some r) :
    r.claimRef = claimRef := (mem_of_lookup h).2

lemma historyGrows_mapSet {new : TerminalRecord}
    (h : ∀ r, recordOf history new.claimRef = some r → RecordGrows r new) :
    HistoryGrows history (mapSet TerminalRecord.claimRef history new) := by
  intro claimRef r hr
  by_cases heq : new.claimRef = claimRef
  · refine ⟨new, by rw [recordOf, lookup_mapSet, if_pos heq], h r ?_⟩
    rw [heq]
    exact hr
  · exact ⟨r, by rw [recordOf, lookup_mapSet, if_neg heq]; exact hr, .refl r⟩

lemma noteTerminal_grows (history : TerminalHistory) (m : HandoffMessage) :
    HistoryGrows history (noteTerminal P history m) := by
  unfold noteTerminal
  cases m.body.readyReceiptId with
  | none => exact .refl history
  | some readyReceiptId =>
    refine historyGrows_mapSet fun r hr => ?_
    cases hp : recordOf history m.graph.claimRef with
    | none =>
      simp only [hp] at hr
      cases hr
    | some previous =>
      simp only [hp, claimRef_of_recordOf hp] at hr
      cases hr
      exact ⟨rfl, rfl, rfl, fun h => by simp [h], fun h => by simp [h], fun h => by simp [h], id⟩

lemma noteObserved_grows (history : TerminalHistory) (m : HandoffMessage) :
    HistoryGrows history (noteObserved P history m) := by
  unfold noteObserved
  cases hrec : recordOf history m.graph.claimRef with
  | none => exact .refl history
  | some record =>
    refine historyGrows_mapSet fun r hr => ?_
    simp only [claimRef_of_recordOf hrec, hrec] at hr
    cases hr
    exact ⟨rfl, rfl, rfl, id, id, fun h => by simp [h], id⟩

lemma foldl_grows {f : TerminalHistory → HandoffMessage → TerminalHistory}
    (hf : ∀ history m, HistoryGrows history (f history m)) (msgs : List HandoffMessage)
    (history : TerminalHistory) : HistoryGrows history (msgs.foldl f history) := by
  induction msgs generalizing history with
  | nil => exact .refl history
  | cons m msgs ih => exact (hf history m).trans (ih _)

lemma noteTerminalMessages_grows (history : TerminalHistory) (msgs : List HandoffMessage) :
    HistoryGrows history (noteTerminalMessages P history msgs) :=
  (foldl_grows noteTerminal_grows msgs history).trans
    (foldl_grows noteObserved_grows msgs _)

structure Records (r : TerminalRecord) (m : HandoffMessage) : Prop where
  ack : m.body.isAck = true → r.ack = true
  revoked : m.body.isRevocation = true → r.revoked = true

lemma Records.grows {r r' : TerminalRecord} (h : Records r m) (hgrows : RecordGrows r r') :
    Records r' m := ⟨hgrows.ack ∘ h.ack, hgrows.revoked ∘ h.revoked⟩

lemma noteTerminal_records (ht : m.body.readyReceiptId ≠ none) :
    ∃ r, recordOf (noteTerminal P history m) m.graph.claimRef = some r ∧ Records r m := by
  unfold noteTerminal
  cases hr : m.body.readyReceiptId with
  | none => exact absurd hr ht
  | some readyReceiptId =>
    cases hp : recordOf history m.graph.claimRef with
    | none => exact ⟨_, by rw [recordOf, lookup_mapSet, if_pos rfl], id, id⟩
    | some previous =>
      refine ⟨_, by rw [recordOf, lookup_mapSet, if_pos (claimRef_of_recordOf hp)], ?_⟩
      exact ⟨fun h => by simp [h], fun h => by simp [h]⟩

lemma noteTerminalMessages_records {msgs : List HandoffMessage} (hm : m ∈ msgs)
    (ht : m.body.readyReceiptId ≠ none) :
    ∃ r, recordOf (noteTerminalMessages P history msgs) m.graph.claimRef = some r ∧
      Records r m := by
  obtain ⟨before, after, rfl⟩ := append_of_mem hm
  have hn : ∃ r, recordOf (noteTerminal P (before.foldl (noteTerminal P) history) m)
      m.graph.claimRef = some r ∧ Records r m := noteTerminal_records ht
  obtain ⟨r, hr, hre⟩ := hn
  have hrest := (foldl_grows (noteTerminal_grows (P := P)) after _).trans
    (foldl_grows (noteObserved_grows (P := P)) (before ++ m :: after) _) m.graph.claimRef r hr
  obtain ⟨r', hr', hgrows⟩ := hrest
  refine ⟨r', ?_, hre.grows hgrows⟩
  have hs : (before ++ m :: after).foldl (noteTerminal P) history =
      after.foldl (noteTerminal P) (noteTerminal P (before.foldl (noteTerminal P) history) m) := by
    rw [foldl_append, foldl_cons]
  rw [noteTerminalMessages, hs]
  exact hr'

variable {a a' : Account} {owner : Text} {read : PrivateRead} {stop : Option Stop}

structure RetainsRead (P : HandoffPlatform) (read : PrivateRead) (stop : Option Stop)
    (a a' : Account) (out : Option (List HandoffMessage)) : Prop where
  grows : HistoryGrows a.terminal a'.terminal
  records : (∀ kept, stop ≠ some (.recalled kept)) →
    (read.messages.map HandoffMessage.id).Nodup → ∀ m ∈ read.messages,
      AuthenticatedFutureMessage P m → m.body.readyReceiptId ≠ none →
      ∃ r, recordOf a'.terminal m.graph.claimRef = some r ∧ Records r m
  valid : ∀ messages ∈ out, ∀ r ∈ a.terminal, r.Valid

lemma retain_retains {out : Option (List HandoffMessage)}
    (h : retainFutureMessages P owner read stop a = some (a', out)) :
    RetainsRead P read stop a a' out := by
  unfold retainFutureMessages at h
  by_cases hs : ∃ kept, stop = some (.recalled kept)
  · obtain ⟨kept, rfl⟩ := hs
    obtain ⟨rfl, rfl⟩ := mk.inj (some.inj h)
    refine ⟨.refl _, fun hk => absurd rfl (hk kept), fun msgs hms => ?_⟩
    cases hms
  · have hc : ∃ recov history, recoverStored P owner (a.memory.getD []) a = some recov ∧
        loadTerminalHistory a = some history ∧ a'.terminal = noteTerminalMessages P history
          ((recov ++ authenticatedIn P read.messages).foldl (mapSet HandoffMessage.id)
            (a.memory.getD [])) := by
      cases stop with
      | none =>
        simp only [run_gives, reduceCtorEq, if_false, mk.injEq] at h
        obtain ⟨recov, hr, -, history, hh, rfl, -⟩ := h
        exact ⟨recov, history, hr, hh, rfl⟩
      | some stop =>
        cases stop with
        | recalled kept => exact absurd ⟨kept, rfl⟩ hs
        | noted =>
          simp only [run_gives, if_true, mk.injEq] at h
          obtain ⟨recov, hr, -, history, hh, rfl, -⟩ := h
          exact ⟨recov, history, hr, hh, rfl⟩
        | merged =>
          simp only [run_gives, reduceCtorEq, if_false, if_true, mk.injEq] at h
          obtain ⟨recov, hr, -, history, hh, rfl, -⟩ := h
          exact ⟨recov, history, hr, hh, rfl⟩
    obtain ⟨recov, history, -, hl, ht⟩ := hc
    have hlo : (∀ r ∈ a.terminal, r.Valid) ∧ a.terminal = history := by
      simpa [loadTerminalHistory, guard_eq_some', bind_eq_some_iff] using hl
    obtain ⟨hv, rfl⟩ := hlo
    refine ⟨?_, fun _ hnd m hm ha hre => ?_, fun _ _ => hv⟩
    · rw [ht]
      exact noteTerminalMessages_grows a.terminal _
    · rw [ht]
      refine noteTerminalMessages_records ?_ hre
      rw [foldl_append]
      have hmem : m ∈ authenticatedIn P read.messages :=
        mem_filter.2 ⟨hm, decide_eq_true ha⟩
      exact (mem_of_lookup (lookup_foldl_mapSet (nodup_authenticated hnd) hmem)).1

lemma compact_grows {status : FinalStatus} {stopped : Bool}
    (h : compactCompletedFutureMarketDelivery owner claimRef status stopped a = some a') :
    HistoryGrows a.terminal a'.terminal := by
  simp only [compactCompletedFutureMarketDelivery, run_gives] at h
  obtain ⟨-, history, hl, terminal, ht, -, h⟩ := h
  have heq : a.terminal = history := by
    have hlo : (∀ r ∈ a.terminal, r.Valid) ∧ a.terminal = history := by
      simpa [loadTerminalHistory, guard_eq_some', bind_eq_some_iff] using hl
    exact hlo.2
  subst heq
  have hgrows : HistoryGrows a.terminal
      (mapSet TerminalRecord.claimRef a.terminal { terminal with compacted := true }) := by
    refine historyGrows_mapSet fun r hr => ?_
    simp only [claimRef_of_recordOf ht, ht] at hr
    cases hr
    exact ⟨rfl, rfl, rfl, id, id, id, fun _ => rfl⟩
  split_ifs at h
  all_goals
    cases h
    exact hgrows

structure Kept (a : Account) (claimRef : Text) (r : TerminalRecord) : Prop where
  found : recordOf a.terminal claimRef = some r
  terminal : r.ack = true ∨ r.revoked = true

lemma applyTerminal_ne_ready (claim : OrganizerClaim) (h : r.ack = true ∨ r.revoked = true) :
    (applyTerminal P (some r) claim).state ≠ .ready_for_pickup := by
  simp only [applyTerminal]
  by_cases hr : r.revoked = true
  · split_ifs <;> simp
  · have hack := h.resolve_right hr
    split_ifs <;> simp

lemma receipt_applyTerminal (terminal : Option TerminalRecord) (claim : OrganizerClaim) :
    (applyTerminal P terminal claim).receipt = claim.receipt := by
  cases terminal with
  | none => rfl
  | some r =>
    simp only [applyTerminal]
    split_ifs <;> rfl

lemma not_ready_of_kept {claims shown : List OrganizerClaim} (hk : Kept a claimRef r)
    (howner : IsHex64 owner) (hc : IsHex64 claimRef)
    (h : applyTerminalHistoryToClaims P owner claims a = some shown) :
    ∀ claim ∈ shown, claim.receipt.graph.claimRef = claimRef → claim.state ≠ .ready_for_pickup := by
  intro claim hclm heq
  obtain ⟨before, -, ha⟩ := (mapM_eq_some_mem h).1 claim hclm
  simp only [run_gives] at ha
  obtain ⟨terminal, ht, rfl⟩ := ha
  rw [receipt_applyTerminal] at heq
  rw [heq, getFutureMarketTerminalHistory, if_pos ⟨howner, hc⟩] at ht
  obtain ⟨history, hl, rfl⟩ := map_eq_some_iff.1 ht
  have hlo : (∀ r ∈ a.terminal, r.Valid) ∧ a.terminal = history := by
    simpa [loadTerminalHistory, guard_eq_some', bind_eq_some_iff] using hl
  obtain ⟨-, rfl⟩ := hlo
  rw [hk.found]
  exact applyTerminal_ne_ready before hk.terminal

lemma Kept.isHex64 (h : Kept a claimRef r) (hv : ∀ r ∈ a.terminal, r.Valid) : IsHex64 claimRef := by
  obtain ⟨hm, hc⟩ := mem_of_lookup h.found
  rw [← hc]
  exact (hv r hm).1

lemma Kept.grows (h : Kept a claimRef r) (hgrows : HistoryGrows a.terminal a'.terminal) :
    ∃ r', Kept a' claimRef r' ∧ RecordGrows r r' := by
  obtain ⟨r', hr', hrr⟩ := hgrows claimRef r h.found
  exact ⟨r', ⟨hr', h.terminal.imp hrr.ack hrr.revoked⟩, hrr⟩

variable {coordinate : Option Text} {action : PickupAction} {verified : Bool}

lemma receipts_not_ready {claims : Option (List OrganizerClaim)} (hk : Kept a claimRef r)
    (howner : IsHex64 owner)
    (h : readFutureMarketReadyReceipts P owner coordinate read stop a = some (a', claims)) :
    HistoryGrows a.terminal a'.terminal ∧ ∀ shown ∈ claims, ∀ claim ∈ shown,
      claim.receipt.graph.claimRef = claimRef → claim.state ≠ .ready_for_pickup := by
  simp only [readFutureMarketReadyReceipts, run_gives, mk.injEq] at h
  obtain ⟨⟨b, messages⟩, hr, rfl, rfl⟩ := h
  have hret := retain_retains hr
  refine ⟨hret.grows, fun shown hs => ?_⟩
  obtain ⟨list, hl, ha⟩ := bind_eq_some_iff.1 hs
  obtain ⟨r', hk', -⟩ := hk.grows hret.grows
  exact not_ready_of_kept hk' howner (hk.isHex64 (hret.valid list hl)) ha

lemma merchantClaim_not_ready (hk : Kept a claimRef r) (howner : IsHex64 order.merchantPubkey)
    (h : readFutureMarketMerchantClaim P order read stop a = some (a', claim)) :
    HistoryGrows a.terminal a'.terminal ∧ ∀ shown ∈ claim,
      IsHex64 claimRef ∧ ∀ claim ∈ shown, claim.receipt.graph.claimRef = claimRef →
        claim.state ≠ .ready_for_pickup := by
  simp only [readFutureMarketMerchantClaim, run_gives, mk.injEq] at h
  obtain ⟨⟨b, messages⟩, hr, rfl, rfl⟩ := h
  have hret := retain_retains hr
  refine ⟨hret.grows, fun shown hs => ?_⟩
  obtain ⟨list, hl, hc⟩ := bind_eq_some_iff.1 hs
  obtain ⟨claims, ha, hh⟩ := bind_eq_some_iff.1 hc
  have hhex := hk.isHex64 (hret.valid list hl)
  refine ⟨hhex, fun claim hclm heq => ?_⟩
  obtain ⟨r', hk', -⟩ := hk.grows hret.grows
  cases hh
  obtain ⟨before, hb, rfl⟩ := map_eq_some_iff.1 hclm
  unfold checkSnapshot at heq ⊢
  split_ifs at heq ⊢
  · exact not_ready_of_kept hk' howner hhex ha before (mem_of_head? hb) heq
  · exact ClaimState.noConfusion

def Settled (claimRef : Text) : Report → Prop
  | .reported claims => ∀ claim ∈ claims, claim.receipt.graph.claimRef = claimRef →
      claim.state ≠ .ready_for_pickup
  | .ackBuilt other | .released other => other ≠ claimRef

structure Onward (s t : Desk) : Prop where
  grows : HistoryGrows s.account.terminal t.account.terminal
  reports : ∃ new, t.log = new ++ s.log ∧ ∀ claimRef r, Kept s.account claimRef r →
    ∀ e ∈ new, Settled claimRef e

lemma Onward.refl (s : Desk) : Onward s s :=
  ⟨.refl _, [], rfl, fun _ _ _ _ h => nomatch h⟩

lemma Onward.trans {s t u : Desk} (h : Onward s t) (h' : Onward t u) : Onward s u := by
  refine ⟨h.grows.trans h'.grows, ?_⟩
  obtain ⟨new, hn, hs⟩ := h.reports
  obtain ⟨new', hn', hs'⟩ := h'.reports
  refine ⟨new' ++ new, by rw [hn', hn, append_assoc], fun claimRef r hk e he => ?_⟩
  rcases mem_append.1 he with he | he
  · obtain ⟨r', hk', -⟩ := hk.grows h.grows
    exact hs' claimRef r' hk' e he
  · exact hs claimRef r hk e he

variable {s t : Desk}

section

variable (hgrows : HistoryGrows s.account.terminal t.account.terminal)
include hgrows

lemma Onward.silent (hl : t.log = s.log) : Onward s t :=
  ⟨hgrows, [], hl, fun _ _ _ _ h => nomatch h⟩

lemma Onward.report {out : Option Report} (hl : t.log = out.toList ++ s.log)
    (ho : ∀ e ∈ out, ∀ claimRef r, Kept s.account claimRef r → Settled claimRef e) : Onward s t :=
  ⟨hgrows, out.toList, hl, fun claimRef r hk e he =>
    ho e (mem_toList.1 he) claimRef r hk⟩

end

lemma showReceipts_onward (howner : IsHex64 owner)
    (h : showReceipts P owner coordinate read stop s = some t) : Onward s t := by
  simp only [showReceipts, run_gives] at h
  obtain ⟨⟨a, claims⟩, hr, rfl⟩ := h
  have hret : HistoryGrows s.account.terminal a.terminal := by
    simp only [readFutureMarketReadyReceipts, run_gives, mk.injEq] at hr
    obtain ⟨⟨b, messages⟩, hre, rfl, -⟩ := hr
    exact (retain_retains hre).grows
  refine .report hret rfl fun e he claimRef r hk => ?_
  obtain ⟨shown, hs, rfl⟩ := map_eq_some_iff.1 he
  exact (receipts_not_ready hk howner hr).2 shown hs

lemma merchantClaim_grows
    (h : readFutureMarketMerchantClaim P order read stop a = some (a', claim)) :
    HistoryGrows a.terminal a'.terminal := by
  simp only [readFutureMarketMerchantClaim, run_gives, mk.injEq] at h
  obtain ⟨⟨b, messages⟩, hr, rfl, -⟩ := h
  exact (retain_retains hr).grows

section

variable (howner : IsHex64 owner)
include howner

lemma showMerchantClaim_onward (h : showMerchantClaim P owner order read stop s = some t) :
    Onward s t := by
  simp only [showMerchantClaim, run_gives] at h
  obtain ⟨rfl, ⟨a, claim⟩, hr, rfl⟩ := h
  refine .report (merchantClaim_grows hr) rfl fun e he claimRef r hk => ?_
  obtain ⟨shown, hs, rfl⟩ := map_eq_some_iff.1 he
  intro claim hc
  exact ((merchantClaim_not_ready hk howner hr).2 shown hs).2 claim
    (mem_toList.1 hc)

lemma handOut_onward {claim : OrganizerClaim}
    (h : publishFutureMarketHandoffAck P owner claim verified read stop s = some t) :
    Onward s t := by
  simp only [publishFutureMarketHandoffAck, run_gives] at h
  obtain ⟨-, ⟨a, claims⟩, hr, rfl⟩ := h
  have hgrows : HistoryGrows s.account.terminal a.terminal := by
    simp only [readFutureMarketReadyReceipts, run_gives, mk.injEq] at hr
    obtain ⟨⟨b, messages⟩, hret, rfl, -⟩ := hr
    exact (retain_retains hret).grows
  refine .report hgrows rfl fun e he claimRef r hk => ?_
  obtain ⟨exact, hexact, rfl⟩ := map_eq_some_iff.1 he
  obtain ⟨hf, hre⟩ := filter_eq_some_iff.1 hexact
  have hm := mem_of_find?_eq_some hf
  cases claims with
  | none => cases hm
  | some shown =>
    intro heq
    exact (receipts_not_ready hk howner hr).2 shown rfl exact hm heq
      (of_decide_eq_true hre).1

lemma release_onward
    (h : publishFutureMarketReadyReceipt P owner order verified read stop s = some t) :
    Onward s t := by
  simp only [publishFutureMarketReadyReceipt, run_gives] at h
  obtain ⟨⟨-, rfl⟩, ⟨-, hn⟩, -, ⟨a, recovered⟩, hr, rfl⟩ := h
  refine ⟨merchantClaim_grows hr, _, rfl, fun claimRef r hk e he => ?_⟩
  split_ifs at he with hrel
  · obtain rfl := mem_singleton.1 he
    intro heq
    have hh := ((merchantClaim_not_ready hk howner hr).2 none hrel.1).1
    rw [heq, getFutureMarketTerminalHistory, if_pos ⟨howner, hh⟩] at hn
    obtain ⟨history, hl, hrec⟩ := map_eq_some_iff.1 hn
    have hlo : (∀ r ∈ s.account.terminal, r.Valid) ∧ s.account.terminal = history := by
      simpa [loadTerminalHistory, guard_eq_some', bind_eq_some_iff] using hl
    rw [← hlo.2, hk.found] at hrec
    cases hrec
  · cases he

lemma step_onward (h : PickupStep P owner action s t) : Onward s t := by
  cases action with
  | showReceipts coordinate read stop => exact showReceipts_onward howner h
  | showMerchantClaim order read stop => exact showMerchantClaim_onward howner h
  | readAcks read stop =>
    simp only [PickupStep, applyPickup, readAcks, run_gives] at h
    obtain ⟨⟨a, messages⟩, hr, rfl⟩ := h
    exact .silent (retain_retains hr).grows rfl
  | handOut claim verified read stop => exact handOut_onward howner h
  | release order verified read stop => exact release_onward howner h
  | compact claimRef status stopped =>
    obtain ⟨a, hc, rfl⟩ := map_eq_some_iff.1 h
    exact .silent (compact_grows hc) rfl
  | saveDeliveries pending archive marks =>
    cases h
    exact .silent (.refl _) rfl
  | restart =>
    cases h
    exact .silent (.refl _) rfl

lemma run_onward {actions : List PickupAction} (h : Run (PickupStep P owner) s actions t) :
    Onward s t :=
  h.related (I := fun _ => True) (R := Onward) (fun s _ => .refl s) (fun _ _ _ => .trans)
    (fun _ _ _ _ hs => ⟨trivial, step_onward howner hs⟩) trivial

end

def PickupAction.retention : PickupAction → Option (PrivateRead × Option Stop)
  | .showReceipts _ read stop | .showMerchantClaim _ read stop | .readAcks read stop
  | .handOut _ _ read stop | .release _ _ read stop => some (read, stop)
  | _ => none

structure PickupAction.Retained (P : HandoffPlatform) (action : PickupAction)
    (m : HandoffMessage) : Prop where
  call : ∃ read stop, action.retention = some (read, stop) ∧
    (∀ kept, stop ≠ some (.recalled kept)) ∧
    (read.messages.map HandoffMessage.id).Nodup ∧ m ∈ read.messages
  authenticated : AuthenticatedFutureMessage P m
  terminal : m.body.readyReceiptId ≠ none

lemma retained_records (hm : action.Retained P m) (h : PickupStep P owner action s t) :
    ∃ r, recordOf t.account.terminal m.graph.claimRef = some r ∧ Records r m := by
  obtain ⟨read, stop, hre, hs, hnd, hmem⟩ := hm.call
  have hr : ∃ owner out,
      retainFutureMessages P owner read stop s.account = some (t.account, out) := by
    cases action with
    | showReceipts coordinate read' stop' =>
      obtain ⟨rfl, rfl⟩ := mk.inj (some.inj hre)
      simp only [PickupStep, applyPickup, showReceipts, readFutureMarketReadyReceipts, run_gives] at h
      obtain ⟨_, ⟨⟨a, messages⟩, hr, rfl⟩, rfl⟩ := h
      exact ⟨_, _, hr⟩
    | showMerchantClaim order read' stop' =>
      obtain ⟨rfl, rfl⟩ := mk.inj (some.inj hre)
      simp only [PickupStep, applyPickup, showMerchantClaim, readFutureMarketMerchantClaim,
        run_gives] at h
      obtain ⟨-, _, ⟨⟨a, messages⟩, hr, rfl⟩, rfl⟩ := h
      exact ⟨_, _, hr⟩
    | readAcks read' stop' =>
      obtain ⟨rfl, rfl⟩ := mk.inj (some.inj hre)
      simp only [PickupStep, applyPickup, readAcks, run_gives] at h
      obtain ⟨⟨a, messages⟩, hr, rfl⟩ := h
      exact ⟨_, _, hr⟩
    | handOut claim verified read' stop' =>
      obtain ⟨rfl, rfl⟩ := mk.inj (some.inj hre)
      simp only [PickupStep, applyPickup, publishFutureMarketHandoffAck,
        readFutureMarketReadyReceipts, run_gives] at h
      obtain ⟨-, _, ⟨⟨a, messages⟩, hr, rfl⟩, rfl⟩ := h
      exact ⟨_, _, hr⟩
    | release order verified read' stop' =>
      obtain ⟨rfl, rfl⟩ := mk.inj (some.inj hre)
      simp only [PickupStep, applyPickup, publishFutureMarketReadyReceipt,
        readFutureMarketMerchantClaim, run_gives] at h
      obtain ⟨-, -, -, _, ⟨⟨a, messages⟩, hr, rfl⟩, rfl⟩ := h
      exact ⟨_, _, hr⟩
    | compact | saveDeliveries | restart => cases hre
  obtain ⟨owner', out, hr⟩ := hr
  exact (retain_retains hr).records hs hnd m hmem hm.authenticated hm.terminal

end

/-- Claims do not depend on the order of messages, only settle, and stay as recorded. -/
theorem pickup_stays_settled (P : HandoffPlatform) :
    (∀ organizer coordinate l l', (l.map HandoffMessage.id).Nodup →
      ∀ claim ∈ reduceFutureMarketOrganizerClaims P organizer coordinate l,
        (l.Perm l' → ∃ claim' ∈ reduceFutureMarketOrganizerClaims P organizer coordinate l',
          claim'.key = claim.key ∧ claim'.state = claim.state) ∧
        ((l'.map HandoffMessage.id).Nodup → (∀ m ∈ l, m ∈ l') →
          ∃ claim' ∈ reduceFutureMarketOrganizerClaims P organizer coordinate l',
            claim'.key = claim.key ∧ claim.state.Settles claim'.state) ∧
        ∀ other ∈ reduceFutureMarketOrganizerClaims P organizer coordinate l,
          other.key = claim.key → other = claim) ∧
    ∀ owner, IsHex64 owner → ∀ action m s mid actions t, action.Retained P m →
      PickupStep P owner action s mid → Run (PickupStep P owner) mid actions t →
      ∃ r r', recordOf mid.account.terminal m.graph.claimRef = some r ∧ Records r m ∧
        recordOf t.account.terminal m.graph.claimRef = some r' ∧ RecordGrows r r' ∧
        ∃ new, t.log = new ++ mid.log ∧ ∀ e ∈ new, Settled m.graph.claimRef e := by
  refine ⟨fun organizer coordinate l l' hl claim hclaim => ⟨fun hperm => ?_, fun hl' hsub => ?_,
    fun other hother hkey => claims_unique hl hother hclaim hkey⟩, ?_⟩
  · exact claims_perm hl hperm hclaim
  · exact claims_settle hl hl' hsub hclaim
  · intro owner howner action m s mid actions t hm hstep hrun
    obtain ⟨r, hr, hrecords⟩ := retained_records hm hstep
    have hset : r.ack = true ∨ r.revoked = true := by
      cases hbody : m.body with
      | future_market_ready authority items issuedAt =>
        exact absurd (by rw [hbody]; rfl) hm.terminal
      | future_market_revoked id issuedAt => exact Or.inr (hrecords.revoked (by rw [hbody]; rfl))
      | future_market_handed_out id handedOutAt => exact Or.inl (hrecords.ack (by rw [hbody]; rfl))
    have honward := run_onward howner hrun
    obtain ⟨r', hr', hgrows⟩ := honward.grows m.graph.claimRef r hr
    obtain ⟨new, hnew, hsettled⟩ := honward.reports
    exact ⟨r, r', hr, hrecords, hr', hgrows, new, hnew, hsettled _ r ⟨hr, hset⟩⟩

namespace PickupSample

def merchant : Text := hexText 64 0xaa82e337f634ebf899da6a11853a9311b2bbe094bdede0c17c068f6738554477

def organizer : Text := hexText 64 0x57ecba7a2893465823005367c00011f6774f245ac243ed7e422fa9308f45ed03

def claim : Text := hexText 64 0x4870ea3567e90e91c2ed1d406abd235f4e1fb67bcf95a20349d5b0e2e5d1318d

def graph : HandoffGraph where
  claimRef := claim
  merchantPubkey := merchant
  organizerPubkey := organizer
  market := ⟨("30409:" : Text) ++ organizer ++ ":spring-market",
    hexText 64 0x127624f70da597f86e7e259d6d75b6381790076ec19e4ee22142bf0d3c48d762, 1700000200000⟩
  calendar := ⟨("31923:" : Text) ++ organizer ++ ":spring-date",
    hexText 64 0x6f6b4a42a4baece8c0a664eaef3d14ce56923e053c9f15fd34d80b72e76db312, 1700000200000⟩
  grant := ⟨hexText 64 0xb48d851f52ad8440cb1fa64b478e2935a7f7e266605446d4229756746726f136,
    1700000300000⟩

def platform : HandoffPlatform where
  schemaAccepts graph _ := decide (IsHex64 graph.claimRef ∧ IsHex64 graph.merchantPubkey ∧
    IsHex64 graph.organizerPubkey ∧ graph.merchantPubkey ≠ graph.organizerPubkey)
  futurePrivateGraphDigest other := if other = graph then
    hexText 64 0x177e40ea7696caf128df7084e1b6852a5c68cbe55fe6559be0cd40867bd4f6b4 else []
  unwrapGiftWrap _ _ := none
  isValidGiftWrap _ _ := false
  claimRefDigest _ _ _ _ := claim

def released : HandoffMessage where
  id := hexText 64 0x523c2517a3cd2c99d998582e07801256edc228f84c8188f2504108a2282883af
  senderPubkey := merchant
  recipientPubkey := organizer
  createdAt := 1700000400
  graph := graph
  body := .future_market_ready none [⟨⟨("30402:" : Text) ++ merchant ++ ":scarf-2",
    hexText 64 0xde94e530bdf131d481ac0b5982a3abe44b87dc1ae2ab42eaf542a13f26bc1734,
    1700000010000⟩, none, 1, none⟩] 1700000400

def handedOut : HandoffMessage where
  id := hexText 64 0xf1b5a7e7ce2f7ecea96e914952d973af77a7984555de7890bcde578474387962
  senderPubkey := organizer
  recipientPubkey := merchant
  createdAt := 1700000500
  graph := graph
  body := .future_market_handed_out released.id 1700000500

def whole : PickupAction := .showReceipts none ⟨[released, handedOut], [], false, false⟩ none

/-- The tab is opened again, and the inbox finds the release alone. -/
def reopened : List PickupAction :=
  [.restart, .showReceipts none ⟨[released], [], true, true⟩ none]

def afterWhole : Option Desk := applyPickup platform organizer .start whole

def afterReopened : Option Desk := do
  let s ← afterWhole
  reopened.foldlM (applyPickup platform organizer) s

lemma reopened_log : afterReopened.map (fun s => s.log.map fun
    | .reported claims => claims.map OrganizerClaim.state
    | _ => []) = some [[.handed_out], [.handed_out]] := by decide +kernel

end PickupSample

open PickupSample in
theorem pickup_stays_settled_handed_out : ∃ mid t : Desk,
    PickupStep platform organizer whole .start mid ∧
    Run (PickupStep platform organizer) mid reopened t ∧
    ∃ r', recordOf t.account.terminal claim = some r' ∧ r'.ack = true ∧
      ∃ new, t.log = new ++ mid.log ∧ ∀ e ∈ new, Settled claim e := by
  have hlog := reopened_log
  cases ht : afterReopened with
  | none => rw [ht] at hlog; cases hlog
  | some t =>
    simp only [afterReopened, reopened, foldlM_cons, foldlM_nil, run_gives] at ht
    obtain ⟨mid, hmid, opened, hopened, last, hlast, rfl⟩ := ht
    have hrun : Run (PickupStep platform organizer) mid reopened last :=
      .cons hopened (.cons hlast (.nil last))
    have hretained : whole.Retained platform handedOut :=
      ⟨⟨_, _, rfl, fun _ => nofun, by decide +kernel, by decide +kernel⟩, by decide +kernel,
        by decide +kernel⟩
    obtain ⟨r, r', -, hrecords, hr', hgrows, hnew⟩ := (pickup_stays_settled platform).2 organizer
      (by decide +kernel) whole handedOut .start mid reopened last hretained hmid hrun
    exact ⟨mid, last, hmid, hrun, r', hr', hgrows.ack (hrecords.ack rfl), hnew⟩

end Conduit.Markets
