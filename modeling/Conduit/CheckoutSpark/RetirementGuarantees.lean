import Conduit.CheckoutSpark.ClosedHistory
import Conduit.Js.Map

namespace Conduit.CheckoutSpark.Retirement

open Js Emitting Throwing List

section Scopes

variable {L : Collation} {input : Input} {closedReturns : List (Text × Int)}

structure ClosedScope (L : Collation) (input : Input) (closedReturns : List (Text × Int))
    (history : List HistoryTransfer) (swaps : List SwapRequestFacts) (scan : Nat) : Prop where
  scanned : ∃ pages listed, Scans input.authenticatedReader scan 0 0 pages ∧
    pages.length ≤ maxPages ∧
    pages.flatten.mapM (historyTransfer L input closedReturns) = some listed ∧
    listed.Perm history
  whole : IsWhole input closedReturns history
  shown : ∀ t ∈ history, StatusHolds closedReturns t.id t.type t.status t.totalValue ∧
    t.type ∈ transferTypes ∧ t.network = networkNumber input.network
  swaps : SwapsProven input closedReturns scan history swaps

variable {history : List HistoryTransfer} {opened : List (Text × Int) × Int}
  {swaps : List SwapRequestFacts} {value : Raw} {scan secondScan : Nat}

lemma closedScope_of_reads (he : input.requireExactHistoryScope = true)
    (hr : (readCompleteHistory L input closedReturns scan).value = some history)
    (hs : (swapScope L input closedReturns scan history).value = some swaps) :
    ClosedScope L input closedReturns history swaps scan := by
  obtain ⟨listed, hp, hw, rfl⟩ := readCompleteHistory_value.1 hr
  obtain ⟨pages, hsc, hlen, hl⟩ := readPages_spec hp
  have hpm : listed.Perm (sortHistory L listed) := (sortHistory_perm listed).symm
  rw [swapScope, if_pos he] at hs
  constructor
  · exact ⟨pages, listed, hsc, hlen, hl, hpm⟩
  · exact hw.congr hpm
  · intro t ht
    obtain ⟨raw, -, hraw⟩ := (mapM_eq_some_mem hl).1 t (hpm.mem_iff.2 ht)
    obtain ⟨hst, hty, hn, -⟩ := historyTransfer_spec hraw
    exact ⟨hst, hty, hn⟩
  · exact proveInternalSwapScope_spec hs

variable {firstScan : Nat}

lemma readStableHistoryScope_spec (hexact : input.requireExactHistoryScope = true)
    (h : (readStableHistoryScope L input closedReturns firstScan secondScan).value =
      some (history, swaps)) : ClosedScope L input closedReturns history swaps firstScan ∧
      ClosedScope L input closedReturns history swaps secondScan := by
  obtain ⟨first, hf, h⟩ := bind_value.1 h
  obtain ⟨firstSwaps, hfir, h⟩ := bind_value.1 h
  obtain ⟨second, hs, h⟩ := bind_value.1 h
  obtain ⟨_, he, h⟩ := bind_value.1 h
  obtain ⟨secondSwaps, hsec, h⟩ := bind_value.1 h
  obtain ⟨_, he', h⟩ := bind_value.1 h
  rw [value_require] at he he'
  obtain ⟨rfl, rfl⟩ := h
  subst he he'
  exact ⟨closedScope_of_reads hexact hf hfir, closedScope_of_reads hexact hs hsec⟩

lemma readCompleteHistory_calls
    (h : (readCompleteHistory L input closedReturns scan).value = some history) :
    Call.transfers scan 0 0 ∈ (readCompleteHistory L input closedReturns scan).emitted := by
  obtain ⟨listed, hl, -⟩ := bind_value.1 h
  exact mem_append_left _ (readPages_calls hl)

lemma readStableHistoryScope_calls {scope : List HistoryTransfer × List SwapRequestFacts}
    (h : (readStableHistoryScope L input closedReturns firstScan secondScan).value =
      some scope) : Call.transfers firstScan 0 0 ∈
        (readStableHistoryScope L input closedReturns firstScan secondScan).emitted ∧
      Call.transfers secondScan 0 0 ∈
        (readStableHistoryScope L input closedReturns firstScan secondScan).emitted := by
  unfold readStableHistoryScope at h ⊢
  obtain ⟨first, hf, h⟩ := bind_value.1 h
  obtain ⟨firstSwaps, hfir, h⟩ := bind_value.1 h
  obtain ⟨second, hs, -⟩ := bind_value.1 h
  rw [emitted_bind hf, emitted_bind hfir, emitted_bind hs]
  simp [readCompleteHistory_calls hf, readCompleteHistory_calls hs]

lemma readFunds_spec {available owned : Raw} {empty : Bool}
    (h : (readFunds input).value = some (available, owned, empty)) :
    input.authenticatedReader.getAvailableBalance = some available ∧
      input.authenticatedReader.getOwnedBalance = some owned ∧
      (∃ pend, input.authenticatedReader.getPendingTransfers = some pend ∧
        pend.isEmptyArray = empty) ∧
      (readFunds input).emitted = [.available, .owned, .pending] := by
  unfold readFunds at h ⊢
  obtain ⟨a, ha, h⟩ := bind_value.1 h
  obtain ⟨o, ho, h⟩ := bind_value.1 h
  obtain ⟨p, hp, h⟩ := bind_value.1 h
  obtain ⟨rfl, rfl, rfl⟩ := h
  refine ⟨guardedRead_value ha, guardedRead_value ho, ⟨p, guardedRead_value hp, rfl⟩, ?_⟩
  rw [emitted_bind ha, emitted_bind ho, emitted_bind hp, guardedRead_calls ha, guardedRead_calls ho,
    guardedRead_calls hp]
  rfl

lemma bigintValue_eq_some {n : Int} (h : value.bigintValue = some n) : value = .bigint n := by
  cases value <;> simp_all [Raw.bigintValue]

lemma isEmptyArray_eq_true (h : value.isEmptyArray = true) : value = .array [] := by
  unfold Raw.isEmptyArray at h
  split at h
  · rfl
  · exact absurd h Bool.false_ne_true

/-- Both balances are the given one and nothing is pending, read after the first two scans
began. -/
structure FundsRead (input : Input) (calls : List Call) (sats : Int) : Prop where
  available : input.authenticatedReader.getAvailableBalance = some (.bigint sats)
  owned : input.authenticatedReader.getOwnedBalance = some (.bigint sats)
  pending : input.authenticatedReader.getPendingTransfers = some (.array [])
  after_scans : ∃ earlier later, calls = earlier ++ [.available, .owned, .pending] ++ later ∧
    Call.transfers 0 0 0 ∈ earlier ∧ Call.transfers 1 0 0 ∈ earlier

lemma FundsRead.of_reads {funds : Raw × Raw × Bool} {sats : Int} {calls earlier later : List Call}
    (hf : (readFunds input).value = some funds)
    (hs : funds.1.bigintValue = some sats ∧ funds.2.1.bigintValue = some sats ∧
      funds.2.2 = true) (hc : calls = earlier ++ (readFunds input).emitted ++ later)
    (hfst : Call.transfers 0 0 0 ∈ earlier) (hsnd : Call.transfers 1 0 0 ∈ earlier) :
    FundsRead input calls sats := by
  obtain ⟨available, owned, empty⟩ := funds
  obtain ⟨havail, ho, ⟨pending, hp, he⟩, hr⟩ := readFunds_spec hf
  obtain ⟨ha, hown, hn⟩ := hs
  rw [hr] at hc
  have hav : available = .bigint sats := bigintValue_eq_some ha
  have hownedIs : owned = .bigint sats := bigintValue_eq_some hown
  have hpen : pending = .array [] := isEmptyArray_eq_true (he.trans hn)
  rw [hav] at havail
  rw [hownedIs] at ho
  rw [hpen] at hp
  exact ⟨havail, ho, hp, earlier, later, hc, hfst, hsnd⟩

lemma requireFreshClosedReturns_spec {pass index : Nat} {seen result : List (Text × Int)}
    {proofs : List (Option ReturnClosure)}
    (h : requireFreshClosedReturns input pass index seen proofs = some result) :
    (∀ r ∈ seen, r ∈ result) ∧ ∀ proof ∈ proofs, ∃ closure, proof = some closure ∧
      closure.walletId = input.walletId ∧ (closure.transferId, closure.debitedSats) ∈ result := by
  -- Every proof reads the clock under its own index, and adds its return to the seen ones.
  induction proofs generalizing index seen with
  | nil =>
    simp only [requireFreshClosedReturns, Option.some.injEq] at h
    subst h
    exact ⟨fun _ hr => hr, by simp⟩
  | cons proof proofs ih =>
    simp only [requireFreshClosedReturns, run_gives] at h
    obtain ⟨nowMs, -, closure, hc, -, h⟩ := h
    simp only [assertClosedReturnedProof, run_gives] at hc
    obtain ⟨kept, hpr, ⟨hw, -⟩, rfl⟩ := hc
    obtain ⟨ho, hre⟩ := ih h
    constructor
    · intro r hr
      exact ho r (mem_append_left _ hr)
    · intro p hp
      rcases mem_cons.1 hp with rfl | hp
      · exact ⟨kept, hpr, hw, ho _ (by simp)⟩
      · exact hre p hp

lemma openScope_value (h : (openScope input).value = some opened) :
    requireFreshClosedReturns input 0 0 [] input.closedReturnedProofs = some opened.1 ∧
      (openScope input).emitted = [] := by
  unfold openScope at h ⊢
  obtain ⟨_, hl, h⟩ := bind_value.1 h
  obtain ⟨closed, hc, h⟩ := bind_value.1 h
  obtain ⟨_, hcur, h⟩ := bind_value.1 h
  obtain ⟨startedAt, hs, h⟩ := bind_value.1 h
  obtain ⟨_, ht, h⟩ := bind_value.1 h
  simp only [value_pure, Option.some.injEq] at h
  subst h
  refine ⟨hc, ?_⟩
  rw [emitted_bind hl, emitted_bind hc, emitted_bind hcur, emitted_bind hs, emitted_bind ht]
  rfl

/-- Every scan shows one closed history, with each archived return, and funds of `sats`. -/
structure ClosedHistory (L : Collation) (input : Input) (scans : List Nat) (calls : List Call)
    (sats : Int) : Prop where
  shown : ∃ closedReturns history swaps, (∀ scan ∈ scans,
      ClosedScope L input closedReturns history swaps scan) ∧
    ∀ proof ∈ input.closedReturnedProofs, ∃ closure, proof = some closure ∧
      closure.walletId = input.walletId ∧
      closure.transferId ∈ history.map HistoryTransfer.id
  funds : FundsRead input calls sats

lemma returns_listed (ho : (openScope input).value = some opened)
    (hw : IsWhole input opened.1 history) :
    ∀ proof ∈ input.closedReturnedProofs, ∃ closure, proof = some closure ∧
      closure.walletId = input.walletId ∧
      closure.transferId ∈ history.map HistoryTransfer.id := by
  intro proof hp
  obtain ⟨closure, heq, hwal, hm⟩ :=
    (requireFreshClosedReturns_spec (openScope_value ho).1).2 proof hp
  exact ⟨closure, heq, hwal, hw.2.2 _ (mem_map_of_mem hm)⟩

lemma treasury_spec {authorizedDebitSats : Int} {u : Unit}
    (he : input.requireExactHistoryScope = true)
    (h : (treasuryHistory L input authorizedDebitSats).value = some u) :
    ClosedHistory L input [0, 1] (treasuryHistory L input authorizedDebitSats).emitted
      authorizedDebitSats := by
  unfold treasuryHistory at h ⊢
  obtain ⟨_, hi, h⟩ := bind_value.1 h
  obtain ⟨opened, ho, h⟩ := bind_value.1 h
  obtain ⟨scope, hs, h⟩ := bind_value.1 h
  obtain ⟨funds, hf, h⟩ := bind_value.1 h
  obtain ⟨_, hcur, h⟩ := bind_value.1 h
  obtain ⟨again, hagain, hsa⟩ := bind_value.1 h
  rw [value_require] at hsa
  obtain ⟨hfst, hsnd⟩ := readStableHistoryScope_spec he hs
  constructor
  · refine ⟨opened.1, scope.1, scope.2, ?_, returns_listed ho hfst.whole⟩
    simpa using ⟨hfst, hsnd⟩
  · obtain ⟨hz, hone⟩ := readStableHistoryScope_calls hs
    rw [emitted_bind hi, emitted_bind ho, emitted_bind hs, (openScope_value ho).2]
    simp only [emitted_require, nil_append]
    exact FundsRead.of_reads hf hsa (append_assoc _ _ _).symm hz hone

lemma collect_spec {evidence : RetirementEvidence} (he : input.requireExactHistoryScope = true)
    (h : (collectCheckoutSparkNativeRetirementEvidence L input).value = some evidence) :
    ClosedHistory L input [0, 1, 2, 3]
      (collectCheckoutSparkNativeRetirementEvidence L input).emitted 0 := by
  unfold collectCheckoutSparkNativeRetirementEvidence at h ⊢
  obtain ⟨_, hi, h⟩ := bind_value.1 h
  obtain ⟨opened, ho, h⟩ := bind_value.1 h
  obtain ⟨scope, hs, h⟩ := bind_value.1 h
  obtain ⟨funds, hf, h⟩ := bind_value.1 h
  obtain ⟨_, hsa, h⟩ := bind_value.1 h
  obtain ⟨again, ha, h⟩ := bind_value.1 h
  obtain ⟨_, heq, -⟩ := bind_value.1 h
  rw [value_require] at heq
  obtain ⟨hfst, hsnd⟩ := readStableHistoryScope_spec he hs
  obtain ⟨ht, hfo⟩ := readStableHistoryScope_spec he (heq ▸ ha)
  constructor
  · refine ⟨opened.1, scope.1, scope.2, ?_, returns_listed ho hfst.whole⟩
    simpa using ⟨hfst, hsnd, ht, hfo⟩
  · obtain ⟨hz, hone⟩ := readStableHistoryScope_calls hs
    rw [emitted_bind hi, emitted_bind ho, emitted_bind hs, (openScope_value ho).2]
    simp only [emitted_require, nil_append]
    exact FundsRead.of_reads hf (value_require.1 hsa) (append_assoc _ _ _).symm hz
      hone

end Scopes

section Order

variable {L : Collation} {input : Input} {closedReturns : List (Text × Int)}

/-- No two different transfers have ids that tie under `localeCompare`. -/
def Untied (L : Collation) (history : List HistoryTransfer) : Prop :=
  ∀ a ∈ history, ∀ b ∈ history, L.le a.id b.id = true → L.le b.id a.id = true → a = b

lemma sortHistory_pairwise (history : List HistoryTransfer) :
    (sortHistory L history).Pairwise (L.ByKey HistoryTransfer.id) :=
  pairwise_insertionSort (L.ByKey HistoryTransfer.id) history

variable {scope : List HistoryTransfer × List SwapRequestFacts} {scan : Nat}
  {listed other : List HistoryTransfer} {firstScan secondScan : Nat} {authorizedDebitSats : Int}
  {a b : HistoryTransfer} {opened : List (Text × Int) × Int} {evidence : RetirementEvidence}

lemma sortHistory_eq_of_perm (hu : Untied L listed) (hpm : other.Perm listed) :
    sortHistory L other = sortHistory L listed := by
  have hs : (sortHistory L other).Perm (sortHistory L listed) :=
    (sortHistory_perm other).trans (hpm.trans (sortHistory_perm listed).symm)
  apply Perm.eq_of_pairwise _ (sortHistory_pairwise other) (sortHistory_pairwise listed)
    hs
  intro a b ha hb
  exact hu a (hpm.mem_iff.1 ((sortHistory_perm other).mem_iff.1 ha)) b
    ((sortHistory_perm listed).mem_iff.1 hb)

variable {listed : List HistoryTransfer} {α : Type} {offset : Int} {l : List α} {u : Unit}

lemma not_both_orders {a b : α} (hnd : l.Nodup) (hab : [a, b].Sublist l) (hba : [b, a].Sublist l)
    : False := by
  induction l with
  | nil => simp at hab
  | cons x l ih =>
    obtain ⟨hx, hl⟩ := nodup_cons.1 hnd
    cases hab with
    | cons _ hab =>
      cases hba with
      | cons _ hba => exact ih hl hab hba
      | cons_cons _ ha => exact hx (hab.subset (by simp))
    | cons_cons _ hb =>
      cases hba with
      | cons _ hba => exact hx (hba.subset (by simp))
      | cons_cons _ ha => exact hx (ha.subset (by simp))

lemma pair_sublist_sortHistory (hle : L.le a.id b.id = true) (h : [a, b].Sublist listed) :
    [a, b].Sublist (sortHistory L listed) :=
  pair_sublist_insertionSort hle h

lemma sortHistory_ne_of_tie (hnd : listed.Nodup) (hab : L.le a.id b.id = true)
    (hba : L.le b.id a.id = true) (hl : [a, b].Sublist listed) (ho : [b, a].Sublist other)
    : sortHistory L other ≠ sortHistory L listed := by
  intro heq
  have hs : (sortHistory L listed).Nodup := (sortHistory_perm listed).nodup_iff.2 hnd
  -- The sort is stable, so equal results would hold the two in both orders.
  apply not_both_orders hs (pair_sublist_sortHistory hab hl)
  rw [← heq]
  exact pair_sublist_sortHistory hba ho

def withPages (input : Input) (getTransfers : Nat → Nat → Int → Option Raw) : Input :=
  { input with
    authenticatedReader := { input.authenticatedReader with getTransfers := getTransfers } }

variable {pages : Nat → Nat → Int → Option Raw}

lemma readRequests_withPages {readEvidence : Nat → Text → Option Raw}
    {context : Option (Text × Text)} {requests : List SwapRequestFacts}
    {transfers : List HistoryTransfer} :
    readRequests (withPages input pages) readEvidence scan context requests transfers =
      readRequests input readEvidence scan context requests transfers := by
  induction transfers generalizing context requests with
  | nil => rfl
  | cons transfer transfers ih =>
    simp only [readRequests, ih]
    rfl

lemma swapScope_withPages {history : List HistoryTransfer} :
    swapScope L (withPages input pages) closedReturns scan history =
      swapScope L input closedReturns scan history := by
  simp only [swapScope, proveInternalSwapScope, readRequests_withPages]
  rfl

lemma requireFreshClosedReturns_withPages {pass index : Nat} {seen : List (Text × Int)}
    {proofs : List (Option ReturnClosure)} :
    requireFreshClosedReturns (withPages input pages) pass index seen proofs =
      requireFreshClosedReturns input pass index seen proofs := by
  induction proofs generalizing index seen with
  | nil => rfl
  | cons proof proofs ih =>
    simp only [requireFreshClosedReturns, ih]
    rfl

lemma openScope_withPages : openScope (withPages input pages) = openScope input := by
  simp only [openScope, requireFreshClosedReturns_withPages]
  rfl

def listing (L : Collation) (input : Input) (closedReturns : List (Text × Int)) (scan : Nat) :
    Option (List HistoryTransfer) :=
  (readPages L input closedReturns scan maxPages 0 0).value

def SameListings (L : Collation) (input : Input) (closedReturns : List (Text × Int))
    (pages : Nat → Nat → Int → Option Raw) : Prop :=
  ∀ scan, Option.Rel List.Perm (listing L (withPages input pages) closedReturns scan)
    (listing L input closedReturns scan)

def UntiedScans (L : Collation) (input : Input) (closedReturns : List (Text × Int))
    (scans : List Nat) : Prop :=
  ∀ scan ∈ scans, ∀ listed ∈ listing L input closedReturns scan, Untied L listed

lemma readCompleteHistory_withPages (heq : SameListings L input closedReturns pages)
    (hu : ∀ listed ∈ listing L input closedReturns scan, Untied L listed) :
    (readCompleteHistory L (withPages input pages) closedReturns scan).value =
      (readCompleteHistory L input closedReturns scan).value := by
  apply Option.ext
  intro history
  rw [readCompleteHistory_value, readCompleteHistory_value]
  -- Everything after the pages depends on the two listings alone.
  have hr := heq scan
  unfold listing at hr hu
  generalize (readPages L (withPages input pages) closedReturns scan maxPages 0 0).value = other
    at hr
  generalize (readPages L input closedReturns scan maxPages 0 0).value = listed at hr hu
  cases hr with
  | none => simp
  | some hpm =>
    have hs := sortHistory_eq_of_perm (hu _ rfl) hpm
    simp only [Option.some.injEq, exists_eq_left', hs]
    refine and_congr_left fun _ => ?_
    exact ⟨fun h => IsWhole.congr hpm h, fun h => IsWhole.congr hpm.symm h⟩

lemma readStableHistoryScope_withPages (heq : SameListings L input closedReturns pages)
    (hf : ∀ listed ∈ listing L input closedReturns firstScan, Untied L listed)
    (hs : ∀ listed ∈ listing L input closedReturns secondScan, Untied L listed) :
    (readStableHistoryScope L (withPages input pages) closedReturns firstScan secondScan).value =
      (readStableHistoryScope L input closedReturns firstScan secondScan).value := by
  simp only [readStableHistoryScope, value_bind, readCompleteHistory_withPages heq hf,
    readCompleteHistory_withPages heq hs, swapScope_withPages]

def openedReturns (input : Input) : Option (List (Text × Int)) :=
  requireFreshClosedReturns input 0 0 [] input.closedReturnedProofs

lemma withPages_now : (withPages input pages).now = input.now := by
  simp only [withPages]

lemma withPages_walletId : (withPages input pages).walletId = input.walletId := by
  simp only [withPages]

lemma withPages_network : (withPages input pages).network = input.network := by
  simp only [withPages]

lemma withPages_stateUpdatedAt : (withPages input pages).stateUpdatedAt = input.stateUpdatedAt := by
  simp only [withPages]

lemma withPages_assertCurrent : (withPages input pages).assertCurrent = input.assertCurrent := by
  simp only [withPages]

lemma withPages_closedReturnedProofs :
    (withPages input pages).closedReturnedProofs = input.closedReturnedProofs := by
  simp only [withPages]

lemma readFunds_withPages : readFunds (withPages input pages) = readFunds input := by
  rfl

lemma inputHolds_withPages : InputHolds (withPages input pages) = InputHolds input := by
  simp only [InputHolds, withPages]

lemma collect_withPages
    (h : ∀ closedReturns ∈ openedReturns input, SameListings L input closedReturns pages ∧
      UntiedScans L input closedReturns [0, 1, 2, 3]) :
    (collectCheckoutSparkNativeRetirementEvidence L (withPages input pages)).value =
      (collectCheckoutSparkNativeRetirementEvidence L input).value := by
  simp only [collectCheckoutSparkNativeRetirementEvidence, value_bind, inputHolds_withPages,
    openScope_withPages, requireFreshClosedReturns_withPages, readFunds_withPages,
    withPages_now, withPages_walletId, withPages_network, withPages_stateUpdatedAt,
    withPages_assertCurrent, withPages_closedReturnedProofs]
  cases ho : (openScope input).value with
  | none => simp only [Option.bind_none]
  | some opened =>
    obtain ⟨heq, hu⟩ := h opened.1 (openScope_value ho).1
    simp only [Option.bind_some,
      readStableHistoryScope_withPages heq (hu 0 (by simp)) (hu 1 (by simp)),
      readStableHistoryScope_withPages heq (hu 2 (by simp)) (hu 3 (by simp))]

lemma treasury_withPages
    (h : ∀ closedReturns ∈ openedReturns input, SameListings L input closedReturns pages ∧
      UntiedScans L input closedReturns [0, 1]) :
    (treasuryHistory L (withPages input pages) authorizedDebitSats).value =
      (treasuryHistory L input authorizedDebitSats).value := by
  simp only [treasuryHistory, value_bind, inputHolds_withPages, openScope_withPages,
    requireFreshClosedReturns_withPages, readFunds_withPages, withPages_assertCurrent,
    withPages_closedReturnedProofs]
  cases ho : (openScope input).value with
  | none => simp only [Option.bind_none]
  | some opened =>
    obtain ⟨heq, hu⟩ := h opened.1 (openScope_value ho).1
    simp only [Option.bind_some,
      readStableHistoryScope_withPages heq (hu 0 (by simp)) (hu 1 (by simp))]

/-- Pages with every listed value replaced. -/
def relisted (input : Input) (g : Nat → Raw → Raw) (scan page : Nat) (offset : Int) : Option Raw :=
  (input.authenticatedReader.getTransfers scan page offset).map fun result =>
    match pageOf offset result with
    | some (transfers, next) =>
      .object [("transfers", .array (transfers.map (g scan))), ("offset", .number next)]
    | none => result

variable {g : Nat → Raw → Raw} {σ : Nat → HistoryTransfer → HistoryTransfer}

lemma pageOf_relisted {result : Raw} : pageOf offset (match pageOf offset result with
      | some (transfers, next) =>
        Raw.object [("transfers", .array (transfers.map (g scan))), ("offset", .number next)]
      | none => result) =
      (pageOf offset result).map fun answer => (answer.1.map (g scan), answer.2) := by
  cases hp : pageOf offset result with
  | none => simpa using hp
  | some answer =>
    simp only [pageOf, run_gives] at hp
    obtain ⟨items, -, next, -, ⟨hlen, hs, hn⟩, rfl, rfl⟩ := hp
    have hg : (guard ((items.map (g scan)).length ≤ pageSize ∧ IsSafeInteger next ∧
        ¬ (0 ≤ next ∧ next ≤ offset)) : Option Unit) = some () := by
      rw [length_map]
      exact if_pos ⟨hlen, hs, hn⟩
    have hl : (Raw.object [("transfers", .array (items.map (g scan))),
        ("offset", .number next)]).field "transfers" = .array (items.map (g scan)) := rfl
    have ho : (Raw.object [("transfers", .array (items.map (g scan))),
        ("offset", .number next)]).field "offset" = .number next := rfl
    show pageOf offset (Raw.object [("transfers", .array (items.map (g scan))),
      ("offset", .number next)]) = some (items.map (g scan), next)
    unfold pageOf
    rw [hl, ho]
    simp only [Raw.asArray, Raw.asNumber, Option.bind_eq_bind, Option.bind_some, hg,
      Option.pure_def]

lemma mapM_map_of {β : Type} {f : α → Option β} {g : α → α} {σ : β → β}
    (h : ∀ a, f (g a) = (f a).map σ) (l : List α) : (l.map g).mapM f = (l.mapM f).map (map σ) := by
  induction l with
  | nil => rfl
  | cons a l ih =>
    simp only [map_cons, mapM_cons, h, ih]
    cases f a <;> cases l.mapM f <;> rfl

lemma guardedRead_map {c : Call} {read : Option Raw} {f : Raw → Raw} :
    (guardedRead (withPages input pages) c (read.map f)).value =
      (guardedRead input c read).value.map f := by
  simp only [guardedRead, value_bind, withPages_assertCurrent]
  cases hbef : (require (input.assertCurrent (.before c) = true)).value <;>
    cases hafter : (require (input.assertCurrent (.after c) = true)).value <;> cases read <;>
    simp_all

lemma readPages_relisted (hg : ∀ scan raw, historyTransfer L input closedReturns (g scan raw) =
      (historyTransfer L input closedReturns raw).map (σ scan)) {scan remaining page : Nat} :
    (readPages L (withPages input (relisted input g)) closedReturns scan remaining page
        offset).value =
      (readPages L input closedReturns scan remaining page offset).value.map
        (map (σ scan)) := by
  -- Page by page: the next offset is kept, so both readers go through the same pages.
  induction remaining generalizing page offset with
  | zero => rfl
  | succ remaining ih =>
    have hm := mapM_map_of (hg scan)
    have hr : (guardedRead (withPages input (relisted input g)) (.transfers scan page offset)
        ((withPages input (relisted input g)).authenticatedReader.getTransfers scan page
          offset)).value = _ := guardedRead_map
    simp only [readPages, value_bind, hr, value_give]
    cases (guardedRead input (.transfers scan page offset)
        (input.authenticatedReader.getTransfers scan page offset)).value with
    | none => rfl
    | some result =>
      simp only [Option.map_some, Option.bind_some, pageOf_relisted]
      cases pageOf offset result with
      | none => rfl
      | some answer =>
        have hl : (answer.1.map (g scan)).mapM
            (historyTransfer L (withPages input (relisted input g)) closedReturns) = _ :=
          hm answer.1
        simp only [Option.map_some, Option.bind_some, hl]
        cases answer.1.mapM (historyTransfer L input closedReturns) with
        | none => rfl
        | some listed =>
          split
          · rfl
          · simp only [value_bind, ih]
            cases (readPages L input closedReturns scan remaining (page + 1) answer.2).value <;>
              simp

lemma map_swap_perm (hnd : listed.Nodup) (ha : a ∈ listed) (hb : b ∈ listed) :
    (listed.map (Equiv.swap a b)).Perm listed := by
  rw [perm_ext_iff_of_nodup (hnd.map (Equiv.swap a b).injective) hnd]
  intro t
  rw [mem_map_of_involutive (fun t => Equiv.swap_apply_self a b t)]
  by_cases hta : t = a
  · subst hta
    simpa using iff_of_true hb ha
  · by_cases htb : t = b
    · subst htb
      simpa using iff_of_true ha hb
    · rw [Equiv.swap_apply_of_ne_of_ne hta htb]

lemma pair_sublist_of_mem {a b : α} (ha : a ∈ l) (hb : b ∈ l) (hne : a ≠ b) :
    [a, b].Sublist l ∨ [b, a].Sublist l := by
  induction l with
  | nil => simp at ha
  | cons x l ih =>
    rcases mem_cons.1 ha with rfl | ha'
    · rcases mem_cons.1 hb with rfl | hb'
      · exact absurd rfl hne
      · exact .inl ((singleton_sublist.2 hb').cons_cons _)
    · rcases mem_cons.1 hb with rfl | hb'
      · exact .inr ((singleton_sublist.2 ha').cons_cons _)
      · exact (ih ha' hb').imp (Sublist.cons x) (Sublist.cons x)

lemma readStableHistoryScope_sorted
    (h : (readStableHistoryScope L input closedReturns firstScan secondScan).value =
      some scope) : ∃ first second, listing L input closedReturns firstScan = some first ∧
      listing L input closedReturns secondScan = some second ∧
      IsWhole input closedReturns second ∧
      sortHistory L first = scope.1 ∧ sortHistory L second = scope.1 := by
  obtain ⟨first, hf, h⟩ := bind_value.1 h
  obtain ⟨firstSwaps, -, h⟩ := bind_value.1 h
  obtain ⟨second, hsnd, h⟩ := bind_value.1 h
  obtain ⟨_, he, h⟩ := bind_value.1 h
  obtain ⟨secondSwaps, -, h⟩ := bind_value.1 h
  obtain ⟨_, -, h⟩ := bind_value.1 h
  rw [value_require] at he
  simp only [value_pure, Option.some.injEq] at h
  subst h he
  obtain ⟨listed, hl, -, hs⟩ := readCompleteHistory_value.1 hf
  obtain ⟨listed', hl', hw, hs'⟩ := readCompleteHistory_value.1 hsnd
  exact ⟨listed, listed', hl, hl', hw, hs, hs'⟩

lemma untied_of_perm (hpm : other.Perm listed) (h : Untied L listed) :
    Untied L other := fun a ha b hb =>
  h a (hpm.mem_iff.1 ha) b (hpm.mem_iff.1 hb)

lemma untied_of_stable (hsc : firstScan ≠ secondScan)
    (h : (readStableHistoryScope L input closedReturns firstScan secondScan).value = some scope)
    (hc : ∀ pages, SameListings L input closedReturns pages →
      ∃ scope', (readStableHistoryScope L (withPages input pages) closedReturns firstScan
        secondScan).value = some scope') : Untied L scope.1 := by
  obtain ⟨first, second, hf, hsnd, hw, hso, hso'⟩ :=
    readStableHistoryScope_sorted h
  have hnd : second.Nodup := Nodup.of_map _ hw.1
  have hpm : scope.1.Perm second := hso' ▸ sortHistory_perm second
  refine untied_of_perm hpm ?_
  intro a ha b hb hab hba
  by_contra hne
  obtain ⟨pages, -, hl⟩ := readPages_spec hsnd
  obtain ⟨rawA, -, hr⟩ := (mapM_eq_some_mem hl.2).1 a ha
  obtain ⟨rawB, -, hra⟩ := (mapM_eq_some_mem hl.2).1 b hb
  -- The reader that lists `a` for `b` and `b` for `a`, in the second scan only.
  let g : Nat → Raw → Raw := fun scan raw =>
    if scan = secondScan then
      if historyTransfer L input closedReturns raw = some a then rawB
      else if historyTransfer L input closedReturns raw = some b then rawA
      else raw
    else raw
  let σ : Nat → HistoryTransfer → HistoryTransfer := fun scan =>
    if scan = secondScan then Equiv.swap a b else id
  have hg : ∀ scan raw, historyTransfer L input closedReturns (g scan raw) =
      (historyTransfer L input closedReturns raw).map (σ scan) := by
    intro scan raw
    by_cases hs : scan = secondScan
    · by_cases hi : historyTransfer L input closedReturns raw = some a
      · simp [g, σ, hs, hi, hra]
      · by_cases hisB : historyTransfer L input closedReturns raw = some b
        · simp [g, σ, hs, hisB, hr, Ne.symm hne]
        · simp only [g, σ, hs, ↓reduceIte, hi, hisB]
          cases hraw : historyTransfer L input closedReturns raw with
          | none => rfl
          | some t =>
            have hta : t ≠ a := fun h => hi (hraw.trans (congrArg some h))
            have htb : t ≠ b := fun h => hisB (hraw.trans (congrArg some h))
            simp [Equiv.swap_apply_of_ne_of_ne hta htb]
    · simp [g, σ, hs]
  have hlis : ∀ scan, listing L (withPages input (relisted input g)) closedReturns scan =
      (listing L input closedReturns scan).map (map (σ scan)) := fun scan =>
    readPages_relisted hg
  have heq : SameListings L input closedReturns (relisted input g) := by
    intro scan
    rw [hlis]
    by_cases hs : scan = secondScan
    · subst hs
      rw [hsnd]
      simpa [σ] using map_swap_perm hnd ha hb
    · cases listing L input closedReturns scan with
      | none => exact .none
      | some listed =>
        simp [σ, hs]
  obtain ⟨scope', hscope'⟩ := hc _ heq
  obtain ⟨first', second', hf', hsnd', -, hfir, hsec⟩ :=
    readStableHistoryScope_sorted hscope'
  rw [hlis, hf] at hf'
  rw [hlis, hsnd] at hsnd'
  simp only [Option.map_some, Option.some.injEq, σ, hsc, ↓reduceIte, map_id_fun, id_eq] at hf' hsnd'
  subst hf' hsnd'
  have he : sortHistory L (second.map (Equiv.swap a b)) = sortHistory L second := by
    rw [hsec, ← hfir, hso, hso']
  rcases pair_sublist_of_mem ha hb hne with hsub | hsub
  · refine sortHistory_ne_of_tie hnd hab hba hsub ?_ he
    simpa using hsub.map (Equiv.swap a b)
  · refine sortHistory_ne_of_tie hnd hba hab hsub ?_ he
    simpa using hsub.map (Equiv.swap a b)

lemma listing_of_stable {firstScan secondScan scan : Nat}
    (h : (readStableHistoryScope L input closedReturns firstScan secondScan).value = some scope)
    (hsc : scan = firstScan ∨ scan = secondScan) (hu : Untied L scope.1) :
    ∀ listed ∈ listing L input closedReturns scan, Untied L listed := by
  obtain ⟨first, second, hf, hsnd, -, hs, hs'⟩ := readStableHistoryScope_sorted h
  intro listed hl
  rw [Option.mem_def] at hl
  refine untied_of_perm ?_ hu
  rcases hsc with rfl | rfl
  · rw [hf, Option.some.injEq] at hl
    exact hs ▸ hl ▸ (sortHistory_perm first).symm
  · rw [hsnd, Option.some.injEq] at hl
    exact hs' ▸ hl ▸ (sortHistory_perm second).symm

lemma collect_scopes
    (h : (collectCheckoutSparkNativeRetirementEvidence L input).value = some evidence) :
    ∃ opened scope, (openScope input).value = some opened ∧
      (readStableHistoryScope L input opened.1 0 1).value = some scope ∧
      (readStableHistoryScope L input opened.1 2 3).value = some scope := by
  obtain ⟨_, -, h⟩ := bind_value.1 h
  obtain ⟨opened, ho, h⟩ := bind_value.1 h
  obtain ⟨scope, hs, h⟩ := bind_value.1 h
  obtain ⟨funds, -, h⟩ := bind_value.1 h
  obtain ⟨_, -, h⟩ := bind_value.1 h
  obtain ⟨again, ha, h⟩ := bind_value.1 h
  obtain ⟨_, heq, -⟩ := bind_value.1 h
  rw [value_require] at heq
  exact ⟨opened, scope, ho, hs, heq ▸ ha⟩

lemma treasury_scope (h : (treasuryHistory L input authorizedDebitSats).value = some u) :
    ∃ opened scope, (openScope input).value = some opened ∧
      (readStableHistoryScope L input opened.1 0 1).value = some scope := by
  obtain ⟨_, -, h⟩ := bind_value.1 h
  obtain ⟨opened, ho, h⟩ := bind_value.1 h
  obtain ⟨scope, hs, -⟩ := bind_value.1 h
  exact ⟨opened, scope, ho, hs⟩

/-- A judgement that sees the sets only. -/
def OrderFree {α : Type} (L : Collation) (input : Input) (judge : Input → Reading α) : Prop :=
  ∀ pages, (∀ closedReturns ∈ openedReturns input,
    SameListings L input closedReturns pages) →
      (judge (withPages input pages)).value = (judge input).value

def TieFree (L : Collation) (input : Input) (scans : List Nat) : Prop :=
  ∀ closedReturns ∈ openedReturns input, UntiedScans L input closedReturns scans

lemma stable_of_orderFree {judge : Input → Reading α} {a : α}
    (hj : ∀ input' : Input, (judge input').value = some a → ∃ opened scope,
      (openScope input').value = some opened ∧
        (readStableHistoryScope L input' opened.1 0 1).value = some scope)
    (hv : (judge input).value = some a) (hf : OrderFree L input judge)
    (ho : (openScope input).value = some opened)
    (hs : (readStableHistoryScope L input opened.1 0 1).value = some scope) : Untied L scope.1 := by
  apply untied_of_stable (by decide) hs
  intro pages hsame
  have hl : ∀ closedReturns ∈ openedReturns input,
      SameListings L input closedReturns pages := by
    intro closedReturns hc
    have heq : some closedReturns = some opened.1 :=
      (Option.mem_def.1 hc).symm.trans (openScope_value ho).1
    rwa [Option.some.inj heq]
  obtain ⟨opened', scope', ho', hs'⟩ :=
    hj (withPages input pages) ((hf pages hl).trans hv)
  rw [openScope_withPages, ho, Option.some.injEq] at ho'
  subst ho'
  exact ⟨scope', hs'⟩

lemma opened_unique {closedReturns : List (Text × Int)} (ho : (openScope input).value = some opened)
    (hc : closedReturns ∈ openedReturns input) : closedReturns = opened.1 :=
  Option.some.inj ((Option.mem_def.1 hc).symm.trans (openScope_value ho).1)

lemma collect_tieFree
    (h : (collectCheckoutSparkNativeRetirementEvidence L input).value = some evidence)
    (hf : OrderFree L input (collectCheckoutSparkNativeRetirementEvidence L)) :
    TieFree L input [0, 1, 2, 3] := by
  obtain ⟨opened, scope, ho, hs, hs'⟩ := collect_scopes h
  have hu := stable_of_orderFree (fun input' h' => by
    obtain ⟨opened, scope, ho, hs, -⟩ := collect_scopes h'
    exact ⟨opened, scope, ho, hs⟩) h hf ho hs
  intro closedReturns hcls scan hsc
  rw [opened_unique ho hcls]
  have hc : (scan = 0 ∨ scan = 1) ∨ scan = 2 ∨ scan = 3 := by
    simpa [or_assoc] using hsc
  rcases hc with hfst | hsnd
  · exact listing_of_stable hs hfst hu
  · exact listing_of_stable hs' hsnd hu

lemma treasury_tieFree (h : (treasuryHistory L input authorizedDebitSats).value = some u)
    (hf : OrderFree L input (treasuryHistory L · authorizedDebitSats)) :
    TieFree L input [0, 1] := by
  obtain ⟨opened, scope, ho, hs⟩ := treasury_scope h
  have hu := stable_of_orderFree (fun input' h' => treasury_scope h') h hf ho hs
  intro closedReturns hc scan hsc
  rw [opened_unique ho hc]
  exact listing_of_stable hs (by simpa using hsc) hu

end Order

def accentCollation : Collation where
  le a b := decide (TextLe (a.flatMap spell) (b.flatMap spell))
  trans a b c hab hbc := decide_eq_true
    (List.le_trans (of_decide_eq_true hab) (of_decide_eq_true hbc))
  total a b := by
    simpa using Std.Total.total (r := TextLe) (a.flatMap spell) (b.flatMap spell)
where
  spell (c : Char) : Text := if c = 'é' then ['e', '\u0301'] else [c]

def samplePage (transfers : List Raw) : Option Raw :=
  some (.object [("transfers", .array transfers), ("offset", .number (-1))])

def samplePayment (id : Text) : Raw :=
  .object [("id", .text id), ("type", .number 0), ("status", .number 5), ("network", .number 1),
    ("totalValue", .number 10)]

def sampleInput (expected : List Text) (reader : Reader) : Input where
  authenticatedReader := reader
  walletId := "wallet"
  network := .mainnet
  sparkAddress := "spark1wallet"
  stateUpdatedAt := 1
  expectedTransferIds := expected
  closedReturnedProofs := []
  requireExactHistoryScope := true
  now _ := some 5
  assertCurrent _ := true

def accentInput : Input :=
  sampleInput [['é'], ['e', '\u0301']] {
    getTransfers _ _ _ := samplePage [samplePayment ['é'], samplePayment ['e', '\u0301']]
    getInternalSwapEvidence := none
    getAvailableBalance := some (.bigint 0)
    getOwnedBalance := some (.bigint 0)
    getPendingTransfers := some (.array []) }

def accentPages (scan _page : Nat) (_offset : Int) : Option Raw :=
  match scan with
  | 1 => samplePage [samplePayment ['e', '\u0301'], samplePayment ['é']]
  | _ => samplePage [samplePayment ['é'], samplePayment ['e', '\u0301']]

def accentHistory : List HistoryTransfer :=
  [{ id := ['é'], type := 0, status := 5, network := 1, totalValue := 10, swapFacts := none },
    { id := ['e', '\u0301'], type := 0, status := 5, network := 1, totalValue := 10,
      swapFacts := none }]

lemma accent_listing (scan : Nat) :
    listing accentCollation accentInput [] scan = some accentHistory := by
  rfl

lemma accent_listing_pages (scan : Nat) :
    listing accentCollation (withPages accentInput accentPages) [] scan =
      some (if scan = 1 then accentHistory.reverse else accentHistory) := by
  match scan with
  | 0 => rfl
  | 1 => rfl
  | _ + 2 => rfl

def walletBytes : List Nat := 2 :: List.replicate 32 0x11

def serviceBytes : List Nat := 3 :: List.replicate 32 0x22

def sampleLeg (id : Text) (type : Int) (sender receiver : List Nat) (leaf : Text) : Raw :=
  .object [("id", .text id), ("type", .number type), ("status", .number 5), ("network", .number 1),
    ("totalValue", .number 7),
    ("senders", .array [.object [("id", .text "from"), ("identityPublicKey", .bytes sender)]]),
    ("receivers", .array [.object [("id", .text "to"), ("identityPublicKey", .bytes receiver),
      ("status", .number 6), ("amountSats", .number 7)]]),
    ("leaves", .array [.object [("leaf", .object [("id", .text leaf), ("value", .number 7)]),
      ("transferSenderId", .text "from"), ("transferReceiverId", .text "to")]])]

def sampleSats (sats : Int) : Raw :=
  .object [("originalUnit", .text "SATOSHI"), ("originalValue", .number sats)]

def sampleEvidence (transferId : Text) : Raw :=
  .object [("walletIdentityPublicKey", .text ("02".toList ++ List.replicate 64 '1')),
    ("sspIdentityPublicKey", .text ("03".toList ++ List.replicate 64 '2')),
    ("transfer", .object [("sparkId", .text transferId), ("totalAmount", sampleSats 7),
      ("userRequest", .object [("typename", .text "LeavesSwapRequest"), ("id", .text "swap"),
        ("status", .text "SUCCEEDED"), ("network", .text "MAINNET"), ("fee", sampleSats 0),
        ("totalAmount", sampleSats 7),
        ("outboundTransfer", .object [("sparkId", .text "out"), ("totalAmount", sampleSats 7)]),
        ("inboundTransfer", .object [("sparkId", .text "in"), ("totalAmount", sampleSats 7)]),
        ("swapLeaves", .array [.object [("leafId", .text "leaf2")]])])])]

def swapInput : Input :=
  sampleInput ["funding", "payout"] {
    getTransfers _ _ _ := samplePage [samplePayment "funding", samplePayment "payout",
      sampleLeg "out" 4 walletBytes serviceBytes "leaf1",
      sampleLeg "in" 5 serviceBytes walletBytes "leaf2"]
    getInternalSwapEvidence := some fun _ transferId => some (sampleEvidence transferId)
    getAvailableBalance := some (.bigint 0)
    getOwnedBalance := some (.bigint 0)
    getPendingTransfers := some (.array []) }

end Conduit.CheckoutSpark.Retirement
