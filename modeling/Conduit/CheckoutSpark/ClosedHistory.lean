import Conduit.CheckoutSpark.NativeRetirement
import Mathlib.Data.List.Pairwise
import Mathlib.Data.List.Perm.Subperm

namespace Conduit.CheckoutSpark.Retirement

open Js Throwing List Option Prod

open Emitting

section Reads

variable {L : Collation} {input : Input} {closedReturns : List (Text × Int)}
  {requests : List SwapRequestFacts} {read : Option Raw} {offset : Int} {c : Call} {r : Raw}
  {remaining : Nat}

lemma guardedRead_value (h : (guardedRead input c read).value = some r) : read = some r := by
  simp only [guardedRead, bind_value, value_require, value_emit, value_pure, some.injEq] at h
  obtain ⟨-, -, a, ha, -, -, rfl⟩ := h
  exact ha

lemma guardedRead_calls (h : (guardedRead input c read).value = some r) :
    (guardedRead input c read).emitted = [c] := by
  unfold guardedRead at h ⊢
  obtain ⟨u, hu, h⟩ := bind_value.1 h
  obtain ⟨a, ha, h⟩ := bind_value.1 h
  obtain ⟨v, hv, -⟩ := bind_value.1 h
  rw [emitted_bind hu, emitted_bind ha, emitted_bind hv]
  simp

inductive Scans (reader : Reader) (scan : Nat) : Nat → Int → List (List Raw) → Prop
  | last {page : Nat} {offset next : Int} {result : Raw} {transfers : List Raw}
      (hread : reader.getTransfers scan page offset = some result)
      (hpage : pageOf offset result = some (transfers, next)) (hend : next < 0) :
      Scans reader scan page offset [transfers]
  | more {page : Nat} {offset next : Int} {result : Raw} {transfers : List Raw}
      {rest : List (List Raw)}
      (hread : reader.getTransfers scan page offset = some result)
      (hpage : pageOf offset result = some (transfers, next)) (hnext : offset < next)
      (hrest : Scans reader scan (page + 1) next rest) :
      Scans reader scan page offset (transfers :: rest)

lemma pageOf_next {next : Int} {result : Raw} {transfers : List Raw}
    (h : pageOf offset result = some (transfers, next)) (hnext : ¬ next < 0) : offset < next := by
  simp only [pageOf, run_gives, Prod.mk.injEq] at h
  omega

variable {scan : Nat} {history : List HistoryTransfer} {extras : List HistoryTransfer}
  {legs : List Legs}

section

variable {page : Nat}
  (h : (readPages L input closedReturns scan remaining page offset).value = some history)
include h

lemma readPages_spec :
    ∃ pages, Scans input.authenticatedReader scan page offset pages ∧ pages.length ≤ remaining ∧
      pages.flatten.mapM (historyTransfer L input closedReturns) = some history := by
  induction remaining generalizing page offset history with
  | zero => simp [readPages] at h
  | succ remaining ih =>
    obtain ⟨result, hres, h⟩ := bind_value.1 h
    obtain ⟨⟨transfers, next⟩, hp, h⟩ := bind_value.1 h
    obtain ⟨listed, hl, h⟩ := bind_value.1 h
    rw [value_give] at hp hl
    have hr := guardedRead_value hres
    by_cases he : next < 0
    · simp only [he, ↓reduceIte, value_pure, some.injEq] at h
      subst h
      refine ⟨[transfers], .last hr hp he, by simp, ?_⟩
      simpa using hl
    · simp only [he, ↓reduceIte] at h
      obtain ⟨rest, hre, h⟩ := bind_value.1 h
      simp only [value_pure, some.injEq] at h
      subst h
      obtain ⟨pages, hs, hlen, hm⟩ := ih hre
      refine ⟨transfers :: pages, .more hr hp (pageOf_next hp he) hs, ?_, ?_⟩
      · simpa using hlen
      · rw [flatten_cons, mapM_append, hl, hm]
        rfl

lemma readPages_calls : Call.transfers scan page offset ∈
      (readPages L input closedReturns scan remaining page offset).emitted := by
  cases remaining with
  | zero => simp [readPages] at h
  | succ remaining =>
    simp only [readPages] at h ⊢
    obtain ⟨result, hr, -⟩ := bind_value.1 h
    rw [emitted_bind hr, guardedRead_calls hr]
    simp

end

lemma readCompleteHistory_value :
    (readCompleteHistory L input closedReturns scan).value = some history ↔
      ∃ listed, (readPages L input closedReturns scan maxPages 0 0).value = some listed ∧
        IsWhole input closedReturns listed ∧ sortHistory L listed = history := by
  simp only [readCompleteHistory, bind_value, value_require, value_pure, exists_const, some.injEq]

lemma sortHistory_perm (history : List HistoryTransfer) :
    (sortHistory L history).Perm history := perm_insertionSort _ _

lemma IsWhole.congr {listed history : List HistoryTransfer} (hpm : listed.Perm history)
    (h : IsWhole input closedReturns listed) : IsWhole input closedReturns history := by
  have hi := hpm.map HistoryTransfer.id
  obtain ⟨hnd, he, hc⟩ := h
  refine ⟨hi.nodup_iff.1 hnd, ?_, ?_⟩
  · intro id hid
    exact hi.mem_iff.1 (he id hid)
  · intro id hid
    exact hi.mem_iff.1 (hc id hid)

lemma historyTransfer_spec {raw : Raw} {t : HistoryTransfer}
    (h : historyTransfer L input closedReturns raw = some t) :
    StatusHolds closedReturns t.id t.type t.status t.totalValue ∧ t.type ∈ transferTypes ∧
      t.network = networkNumber input.network ∧ IsId t.id 512 ∧ 0 ≤ t.totalValue := by
  simp only [historyTransfer, run_gives] at h
  obtain ⟨id, hid, type, -, status, -, network, -, totalValue, -, hg, h⟩ := h
  obtain ⟨hst, ht, hn, -, hp⟩ := hg
  have hid : IsId id 512 := by
    simp only [isIdentifier, run_gives] at hid
    obtain ⟨_, -, hid, rfl⟩ := hid
    exact hid
  split at h
  · obtain ⟨facts, -, h⟩ := Option.bind_eq_some_iff.1 h
    simp only [Option.pure_def, Option.some.injEq] at h
    subst h
    exact ⟨hst, ht, hn, hid, hp⟩
  · simp only [Option.pure_def, Option.some.injEq] at h
    subst h
    exact ⟨hst, ht, hn, hid, hp⟩

structure Settles (input : Input) (evidence : Raw) (transfer : HistoryTransfer)
    (s : SwapRequestFacts) : Prop where
  succeeded : (((evidence.field "transfer").field "userRequest").field "status").asText =
    some "SUCCEEDED".toList
  free : satsAmount (((evidence.field "transfer").field "userRequest").field "fee") = some 0
  parties : s.walletIdentity ≠ s.sspIdentity
  legs : s.outboundId ≠ s.inboundId
  names : transfer.id = s.outboundId ∨ transfer.id = s.inboundId
  amount : 0 < s.value
  network : s.network = input.network

lemma snapshotSwapRequest_spec {evid : Raw} {transfer : HistoryTransfer} {s : SwapRequestFacts}
    (h : snapshotSwapRequest evid transfer input.network = some s) :
    Settles input evid transfer s := by
  simp only [snapshotSwapRequest, run_gives] at h
  obtain ⟨wallet, -, ssp, -, requestId, -, value, -, outboundId, -, inboundId, -, swapLeaves, -,
    hg, inboundLeafIds, -, -, rfl⟩ := h
  obtain ⟨hp, -, -, -, hst, -, hf, hv, hl, hn, -⟩ := hg
  exact {
    succeeded := hst
    free := hf
    parties := hp
    legs := hl
    names := hn
    amount := hv
    network := rfl }

lemma readRequests_spec {readEvidence : Nat → Text → Option Raw} {context : Option (Text × Text)}
    {result : List SwapRequestFacts} {transfers : List HistoryTransfer}
    (h : (readRequests input readEvidence scan context requests transfers).value = some result) :
    ∃ parties, (∀ c ∈ context, c = parties) ∧ ∀ s ∈ result, s ∈ requests ∨
      (s.walletIdentity, s.sspIdentity) = parties ∧
        ∃ t ∈ transfers, ∃ evid, readEvidence scan t.id = some evid ∧
          snapshotSwapRequest evid t input.network = some s := by
  induction transfers generalizing context requests with
  | nil =>
    simp only [readRequests, value_pure, some.injEq] at h
    subst h
    refine ⟨context.getD ([], []), ?_, fun s hs => .inl hs⟩
    intro c hc
    rw [mem_def.1 hc]
    rfl
  | cons transfer transfers ih =>
    obtain ⟨evid, he, h⟩ := bind_value.1 h
    obtain ⟨request, hreq, h⟩ := bind_value.1 h
    obtain ⟨_, hcon, h⟩ := bind_value.1 h
    obtain ⟨-, -, h⟩ := bind_value.1 h
    rw [value_require] at hcon
    obtain ⟨parties, hp, ha⟩ := ih h
    have hth := hp _ rfl
    refine ⟨parties, fun c hc => (hcon c hc).trans hth, ?_⟩
    intro s hs
    rcases ha s hs with hm | ⟨hs', t, ht, hr⟩
    · have hca : s ∈ requests ∨ s = request := by
        split at hm
        · exact .inl hm
        · simpa using hm
      rcases hca with hm | rfl
      · exact .inl hm
      · exact .inr ⟨hth, transfer, .head _, evid, guardedRead_value he,
          hreq⟩
    · exact .inr ⟨hs', t, .tail _ ht, hr⟩

structure Legs where
  request : SwapRequestFacts
  (outbound inbound : HistoryTransfer)

def Legs.both (l : Legs) : List HistoryTransfer := [l.outbound, l.inbound]

structure Legs.Agree (extras : List HistoryTransfer) (l : Legs) : Prop where
  outbound_mem : l.outbound ∈ extras
  inbound_mem : l.inbound ∈ extras
  outbound_id : l.outbound.id = l.request.outboundId
  inbound_id : l.inbound.id = l.request.inboundId
  facts : ∃ out inn, l.outbound.swapFacts = some out ∧ l.inbound.swapFacts = some inn ∧
    LegsAgree l.request l.outbound l.inbound out inn

lemma coverLegs_spec {covered result : List Text}
    (hle : ∀ s ∈ requests, s.outboundId ≠ s.inboundId) (hc : covered.Nodup)
    (h : coverLegs extras covered requests = some result) :
    ∃ legs : List Legs, legs.map Legs.request = requests ∧ (∀ l ∈ legs, l.Agree extras) ∧
      result = covered ++ (legs.flatMap Legs.both).map HistoryTransfer.id ∧ result.Nodup := by
  induction requests generalizing covered with
  | nil =>
    simp only [coverLegs, some.injEq] at h
    subst h
    exact ⟨[], rfl, by simp, by simp, hc⟩
  | cons request requests ih =>
    simp only [coverLegs, run_gives] at h
    obtain ⟨outbound, ho, inbound, hinb, out, hout, inn, hinn, ⟨ha, hfr, hf⟩, h⟩ := h
    have hi : outbound.id = request.outboundId := by
      simpa using find?_some ho
    have hidIn : inbound.id = request.inboundId := by
      simpa using find?_some hinb
    have hne : outbound.id ≠ inbound.id := by
      rw [hi, hidIn]
      exact hle request mem_cons_self
    have hnd : (covered ++ [outbound.id, inbound.id]).Nodup := by
      rw [nodup_append']
      refine ⟨hc, by simpa using hne, ?_⟩
      intro id hid hp
      rcases mem_pair.1 hp with rfl | rfl
      · exact hfr hid
      · exact hf hid
    obtain ⟨legs, hr, hall, hres, hfi⟩ :=
      ih (fun s hs => hle s (mem_cons_of_mem _ hs)) hnd h
    refine ⟨⟨request, outbound, inbound⟩ :: legs, by simp [hr], ?_, ?_, hfi⟩
    · intro l hl
      rcases mem_cons.1 hl with rfl | hl
      · exact ⟨mem_of_find?_eq_some ho, mem_of_find?_eq_some hinb, hi,
          hidIn, out, inn, hout, hinn, ha⟩
      · exact hall l hl
    · rw [hres]
      simp [Legs.both]

lemma legs_perm (ha : ∀ l ∈ legs, l.Agree extras)
    (hnd : ((legs.flatMap Legs.both).map HistoryTransfer.id).Nodup)
    (hlen : ((legs.flatMap Legs.both).map HistoryTransfer.id).length = extras.length) :
    (legs.flatMap Legs.both).Perm extras := by
  have hs : (legs.flatMap Legs.both) ⊆ extras := by
    intro t ht
    obtain ⟨l, hl, ht⟩ := mem_flatMap.1 ht
    rcases mem_pair.1 ht with rfl | rfl
    · exact (ha l hl).outbound_mem
    · exact (ha l hl).inbound_mem
  apply ((Nodup.of_map _ hnd).subperm hs).perm_of_length_le
  rw [← hlen, length_map]

def signedSats (wallet : Text) (t : HistoryTransfer) : Int :=
  match t.swapFacts with
  | some facts => if facts.senderIdentity = wallet then -t.totalValue else t.totalValue
  | none => t.totalValue

lemma legs_net_zero {wallet : Text} (ha : ∀ l ∈ legs, l.Agree extras)
    (hp : ∀ l ∈ legs, l.request.walletIdentity = wallet ∧ l.request.sspIdentity ≠ wallet) :
    ((legs.flatMap Legs.both).map (signedSats wallet)).sum = 0 := by
  induction legs with
  | nil => rfl
  | cons l legs ih =>
    obtain ⟨out, inn, hout, hinn, -, ho, hi, hs, -, hs', -⟩ :=
      (ha l mem_cons_self).facts
    obtain ⟨hw, hser⟩ := hp l mem_cons_self
    have hr := ih (fun l hl => ha l (mem_cons_of_mem _ hl))
      (fun l hl => hp l (mem_cons_of_mem _ hl))
    have hd : signedSats wallet l.outbound = -l.request.value := by
      simp [signedSats, hout, hs, hw, ho]
    have hc : signedSats wallet l.inbound = l.request.value := by
      simp [signedSats, hinn, hs', hser, hi]
    rw [flatMap_cons, map_append, sum_append, hr]
    simp [Legs.both, hd, hc]

structure SwapsProven (input : Input) (closedReturns : List (Text × Int)) (scan : Nat)
    (history : List HistoryTransfer) (swaps : List SwapRequestFacts) : Prop where
  once : ∀ t ∈ extrasOf input closedReturns history,
    ∃! s, s ∈ swaps ∧ (t.id = s.outboundId ∨ t.id = s.inboundId)
  settled : ∀ s ∈ swaps, ∃ t ∈ extrasOf input closedReturns history, ∃ readEvidence evidence,
    input.authenticatedReader.getInternalSwapEvidence = some readEvidence ∧
      readEvidence scan t.id = some evidence ∧ Settles input evidence t s
  legs : ∀ s ∈ swaps, ∃ l : Legs, l.request = s ∧ l.Agree (extrasOf input closedReturns history)
  parties : ∃ wallet service, (∀ s ∈ swaps, s.walletIdentity = wallet ∧ s.sspIdentity = service) ∧
    ((extrasOf input closedReturns history).map (signedSats wallet)).sum = 0

lemma legs_once (ha : ∀ l ∈ legs, l.Agree extras) (hpm : (legs.flatMap Legs.both).Perm extras)
    (hnd : ((legs.flatMap Legs.both).map HistoryTransfer.id).Nodup) :
    ∀ t ∈ extras, ∃! s, s ∈ legs.map Legs.request ∧ (t.id = s.outboundId ∨ t.id = s.inboundId) := by
  intro t ht
  have names : ∀ l ∈ legs, t.id = l.request.outboundId ∨ t.id = l.request.inboundId →
      t.id ∈ l.both.map HistoryTransfer.id := by
    intro l hl hid
    rw [← (ha l hl).outbound_id, ← (ha l hl).inbound_id] at hid
    simpa [Legs.both] using hid
  rw [map_flatMap] at hnd
  have hd := (nodup_flatMap.1 hnd).2
  obtain ⟨l, hl, hleg⟩ := mem_flatMap.1 (hpm.mem_iff.2 ht)
  refine ⟨l.request, ⟨mem_map_of_mem hl, ?_⟩, ?_⟩
  · rcases mem_pair.1 hleg with rfl | rfl
    · exact .inl (ha l hl).outbound_id
    · exact .inr (ha l hl).inbound_id
  · rintro s ⟨hs, hid⟩
    obtain ⟨l', hl', rfl⟩ := mem_map.1 hs
    by_contra hne
    have hsymm : Std.Symm (Function.onFun List.Disjoint fun l : Legs =>
        l.both.map HistoryTransfer.id) := ⟨fun _ _ h => disjoint_symm h⟩
    have hap := hd.forall hl' hl (fun heq => hne (congrArg Legs.request heq))
    exact hap (names l' hl' hid) (mem_map_of_mem hleg)

lemma proveInternalSwapScope_spec {swaps : List SwapRequestFacts}
    (h : (proveInternalSwapScope L input closedReturns scan history).value = some swaps) :
    SwapsProven input closedReturns scan history swaps := by
  unfold proveInternalSwapScope at h
  by_cases hext : extrasOf input closedReturns history = []
  · simp only [hext, ↓reduceIte, value_pure, some.injEq] at h
    subst h
    refine ⟨?_, by simp, by simp, [], [], by simp, by rw [hext]; rfl⟩
    rw [hext]
    simp
  · simp only [hext, ↓reduceIte] at h
    obtain ⟨readEvidence, hr, h⟩ := bind_value.1 h
    obtain ⟨-, -, h⟩ := bind_value.1 h
    obtain ⟨requests, hre, h⟩ := bind_value.1 h
    obtain ⟨covered, hcov, h⟩ := bind_value.1 h
    obtain ⟨_, hlen, h⟩ := bind_value.1 h
    rw [value_require] at hlen
    simp only [value_pure, some.injEq] at h
    subst h
    obtain ⟨⟨wallet, service⟩, -, hall⟩ := readRequests_spec hre
    have hsh : ∀ s ∈ requests, (s.walletIdentity, s.sspIdentity) = (wallet, service) ∧
        ∃ t ∈ extrasOf input closedReturns history, ∃ evid,
          readEvidence scan t.id = some evid ∧ Settles input evid t s := by
      intro s hs
      rcases hall s hs with hnil | ⟨hp, t, ht, evid, he, hsn⟩
      · exact nomatch hnil
      · exact ⟨hp, t, ht, evid, he, snapshotSwapRequest_spec hsn⟩
    have hne : ∀ s ∈ requests, s.outboundId ≠ s.inboundId := by
      intro s hs
      obtain ⟨-, t, -, evid, -, hset⟩ := hsh s hs
      exact hset.legs
    obtain ⟨legs, hm, ha, hc, hnd⟩ := coverLegs_spec hne nodup_nil hcov
    subst hc
    have hpm := legs_perm ha hnd hlen
    have hso : ∀ s, s ∈ requests.insertionSort (L.ByKey SwapRequestFacts.requestId) ↔
        s ∈ requests := fun s => mem_insertionSort _
    constructor
    · intro t ht
      have ho := legs_once ha hpm hnd t ht
      rw [hm] at ho
      simpa only [hso] using ho
    · intro s hs
      obtain ⟨-, t, ht, evid, he, hset⟩ := hsh s ((hso s).1 hs)
      exact ⟨t, ht, readEvidence, evid, hr, he, hset⟩
    · intro s hs
      rw [hso, ← hm] at hs
      obtain ⟨l, hl, rfl⟩ := mem_map.1 hs
      exact ⟨l, rfl, ha l hl⟩
    · refine ⟨wallet, service, ?_, ?_⟩
      · intro s hs
        exact mk.inj (hsh s ((hso s).1 hs)).1
      · rw [← (hpm.map _).sum_eq]
        apply legs_net_zero ha
        intro l hl
        have hmem : l.request ∈ requests := hm ▸ mem_map_of_mem hl
        obtain ⟨hp, t, -, evid, -, hset⟩ := hsh l.request hmem
        obtain ⟨hw, -⟩ := mk.inj hp
        refine ⟨hw, ?_⟩
        rw [← hw]
        exact hset.parties.symm

end Reads

end Conduit.CheckoutSpark.Retirement
