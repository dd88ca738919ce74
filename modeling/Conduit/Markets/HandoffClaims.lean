import Conduit.Markets.Handoff

namespace Conduit.Markets

open Js Stock List

def OrganizerClaim.key (claim : OrganizerClaim) : Text × Text :=
  (claim.receipt.graph.claimRef, claim.receipt.graph.merchantPubkey)

section
variable {messages messages' siblings siblings' : List HandoffMessage} {receipt m : HandoffMessage}

/-- Updates that name the receipt differ from it, revoke it or acknowledge it. -/
structure Names (messages : List HandoffMessage) (receipt : HandoffMessage)
    (p : HandoffMessage → Prop) : Prop where
  named : ∃ m ∈ messages, m.body.readyReceiptId = some receipt.id ∧ p m

lemma Names.mono {p : HandoffMessage → Prop} (h : Names messages receipt p)
    (hs : ∀ m ∈ messages, m ∈ messages') : Names messages' receipt p := by
  obtain ⟨m, hm, hnm⟩ := h.named
  exact ⟨m, hs m hm, hnm⟩

lemma mem_terminalOf : m ∈ terminalOf messages receipt.id ↔
    m ∈ messages ∧ m.body.readyReceiptId = some receipt.id := by
  rw [terminalOf, mem_filter, decide_eq_true_eq]

lemma differs_iff : (∃ m ∈ terminalOf messages receipt.id, m.graph ≠ receipt.graph) ↔
    Names messages receipt fun m => m.graph ≠ receipt.graph := by
  constructor
  · rintro ⟨m, hm, hne⟩
    obtain ⟨hmem, hnm⟩ := mem_terminalOf.1 hm
    exact ⟨m, hmem, hnm, hne⟩
  · rintro ⟨m, hmem, hnm, hne⟩
    exact ⟨m, mem_terminalOf.2 ⟨hmem, hnm⟩, hne⟩

lemma filter_terminalOf {p : HandoffMessage → Bool} :
    (terminalOf messages receipt.id).filter p ≠ [] ↔
      Names messages receipt fun m => p m = true := by
  constructor
  · intro hne
    obtain ⟨m, hm⟩ := exists_mem_of_ne_nil _ hne
    obtain ⟨ht, hp⟩ := mem_filter.1 hm
    obtain ⟨hmem, hnm⟩ := mem_terminalOf.1 ht
    exact ⟨m, hmem, hnm, hp⟩
  · rintro ⟨m, hmem, hnm, hp⟩
    exact ne_nil_of_mem (mem_filter.2 ⟨mem_terminalOf.2 ⟨hmem, hnm⟩, hp⟩)

lemma state_claimOf : (claimOf messages siblings receipt).state =
    if siblings.length ≠ 1 ∨ (∃ m ∈ terminalOf messages receipt.id, m.graph ≠ receipt.graph) ∨
        ((terminalOf messages receipt.id).filter (·.body.isRevocation) ≠ [] ∧
          (terminalOf messages receipt.id).filter (·.body.isAck) ≠ []) then .conflicting
    else if (terminalOf messages receipt.id).filter (·.body.isRevocation)
        ≠ [] then .revoked
    else if (terminalOf messages receipt.id).filter (·.body.isAck) ≠ [] then .handed_out
    else .ready_for_pickup := rfl

lemma state_of_siblings (h : siblings.length ≠ 1) :
    (claimOf messages siblings receipt).state = .conflicting := by
  rw [state_claimOf, if_pos (.inl h)]

def ClaimState.Settles (before after : ClaimState) : Prop :=
  before = .ready_for_pickup ∨ after = before ∨ after = .conflicting

lemma settles_of_imp {differs differs' revoked revoked' acked acked' : Prop} [Decidable differs]
    [Decidable differs'] [Decidable revoked] [Decidable revoked'] [Decidable acked]
    [Decidable acked'] (hdif : differs → differs') (hrev : revoked → revoked')
    (hacked : acked → acked') : ClaimState.Settles (if differs ∨ revoked ∧ acked then .conflicting
        else if revoked then .revoked else if acked then .handed_out else .ready_for_pickup)
      (if differs' ∨ revoked' ∧ acked' then .conflicting
        else if revoked' then .revoked else if acked' then .handed_out else .ready_for_pickup) := by
  unfold ClaimState.Settles
  split_ifs <;> simp_all

lemma claimOf_settles (hs : ∀ m ∈ messages, m ∈ messages') (h : siblings.length = 1)
    (h' : siblings'.length = 1) : (claimOf messages siblings receipt).state.Settles
      (claimOf messages' siblings' receipt).state := by
  have hdif : (∃ m ∈ terminalOf messages receipt.id, m.graph ≠ receipt.graph) →
      ∃ m ∈ terminalOf messages' receipt.id, m.graph ≠ receipt.graph :=
    fun hd => differs_iff.2 ((differs_iff.1 hd).mono hs)
  have hf : ∀ p : HandoffMessage → Bool, (terminalOf messages receipt.id).filter p ≠ [] →
      (terminalOf messages' receipt.id).filter p ≠ [] :=
    fun p hp => filter_terminalOf.2 ((filter_terminalOf.1 hp).mono hs)
  rw [state_claimOf, state_claimOf]
  simp only [h, h', ne_eq, not_true_eq_false, false_or]
  exact settles_of_imp hdif (hf _) (hf _)

lemma claimOf_congr (heq : ∀ m, m ∈ messages ↔ m ∈ messages') (h : siblings.length = 1)
    (h' : siblings'.length = 1) :
    (claimOf messages siblings receipt).state = (claimOf messages' siblings' receipt).state := by
  have hdif : (∃ m ∈ terminalOf messages receipt.id, m.graph ≠ receipt.graph) ↔
      ∃ m ∈ terminalOf messages' receipt.id, m.graph ≠ receipt.graph := by
    rw [differs_iff, differs_iff]
    exact ⟨fun hd => hd.mono fun m => (heq m).1, fun hd => hd.mono fun m => (heq m).2⟩
  have hf : ∀ p : HandoffMessage → Bool, (terminalOf messages receipt.id).filter p ≠ [] ↔
      (terminalOf messages' receipt.id).filter p ≠ [] := by
    intro p
    rw [filter_terminalOf, filter_terminalOf]
    exact ⟨fun hp => hp.mono fun m => (heq m).1, fun hp => hp.mono fun m => (heq m).2⟩
  rw [state_claimOf, state_claimOf]
  simp only [h, h', hdif, hf]

end

section
variable {P : HandoffPlatform} {org : Text} {coord : Option Text}
  {l l' : List HandoffMessage} {receipt receipt' m : HandoffMessage} {claim claim' : OrganizerClaim}

def receiptsOf (P : HandoffPlatform) (organizer : Text) (coordinate : Option Text)
    (l : List HandoffMessage) : List HandoffMessage :=
  (authenticatedIn P l).filter (isReceiptFor organizer coordinate)

lemma mem_of_mem_receiptsOf (h : m ∈ receiptsOf P org coord l) : m ∈ l :=
  (mem_filter.1 (mem_filter.1 h).1).1

variable {receipts : List HandoffMessage}

lemma mem_siblingsOf : m ∈ siblingsOf receipts receipt ↔
    m ∈ receipts ∧ m.graph.claimRef = receipt.graph.claimRef ∧
      m.graph.merchantPubkey = receipt.graph.merchantPubkey := by
  rw [siblingsOf, mem_filter, decide_eq_true_eq]

lemma siblingsOf_congr (hc : receipt.graph.claimRef = receipt'.graph.claimRef)
    (hm : receipt.graph.merchantPubkey = receipt'.graph.merchantPubkey) :
    siblingsOf receipts receipt = siblingsOf receipts receipt' := by
  rw [siblingsOf, siblingsOf, hc, hm]

section

variable (hl : (l.map HandoffMessage.id).Nodup)
include hl

lemma nodup_authenticated : ((authenticatedIn P l).map HandoffMessage.id).Nodup :=
  hl.sublist (filter_sublist.map _)

lemma eq_of_id (h : receipt ∈ l) (h' : receipt' ∈ l) (hid : receipt.id = receipt'.id) :
    receipt = receipt' :=
  inj_on_of_nodup_map hl h h' hid

lemma mem_reduce : claim ∈ reduceFutureMarketOrganizerClaims P org coord l ↔
      ∃ receipt ∈ receiptsOf P org coord l,
        (siblingsOf (receiptsOf P org coord l) receipt).head? = some receipt ∧
        claim = claimOf (authenticatedIn P l)
          (siblingsOf (receiptsOf P org coord l) receipt) receipt := by
  have hh : ∀ receipt ∈ receiptsOf P org coord l,
      ((siblingsOf (receiptsOf P org coord l) receipt).head?.map HandoffMessage.id =
          some receipt.id ↔
        (siblingsOf (receiptsOf P org coord l) receipt).head? = some receipt) := by
    intro receipt hr
    constructor
    · intro h
      obtain ⟨first, hf, hid⟩ := Option.map_eq_some_iff.1 h
      have hm := (mem_siblingsOf.1 (mem_of_head? hf)).1
      rw [hf, eq_of_id hl (mem_of_mem_receiptsOf hm) (mem_of_mem_receiptsOf hr) hid]
    · intro h
      rw [h]
      rfl
  rw [reduceFutureMarketOrganizerClaims, mem_sortBy, mem_map]
  constructor
  · rintro ⟨receipt, hr, rfl⟩
    obtain ⟨hm, hf⟩ := mem_filter.1 hr
    exact ⟨receipt, hm, (hh receipt hm).1 (of_decide_eq_true hf), rfl⟩
  · rintro ⟨receipt, hm, hf, rfl⟩
    exact ⟨receipt, mem_filter.2 ⟨hm, decide_eq_true ((hh receipt hm).2 hf)⟩, rfl⟩

lemma claims_unique (h : claim ∈ reduceFutureMarketOrganizerClaims P org coord l)
    (h' : claim' ∈ reduceFutureMarketOrganizerClaims P org coord l)
    (hk : claim.key = claim'.key) : claim = claim' := by
  obtain ⟨receipt, -, hf, rfl⟩ := (mem_reduce hl).1 h
  obtain ⟨receipt', -, hf', rfl⟩ := (mem_reduce hl).1 h'
  obtain ⟨hc, hm⟩ := Prod.mk.inj hk
  have heq : siblingsOf (receiptsOf P org coord l) receipt =
      siblingsOf (receiptsOf P org coord l) receipt' :=
    siblingsOf_congr hc hm
  rw [heq, hf'] at hf
  rw [heq, Option.some.inj hf]

end

lemma exists_claim (hl' : (l'.map HandoffMessage.id).Nodup)
    (hsub : ∀ m ∈ l, m ∈ l') (h : receipt ∈ receiptsOf P org coord l) :
    ∃ receipt' ∈ receiptsOf P org coord l',
      claimOf (authenticatedIn P l') (siblingsOf (receiptsOf P org coord l') receipt')
        receipt' ∈ reduceFutureMarketOrganizerClaims P org coord l' ∧
      receipt'.graph.claimRef = receipt.graph.claimRef ∧
      receipt'.graph.merchantPubkey = receipt.graph.merchantPubkey ∧
      ((siblingsOf (receiptsOf P org coord l') receipt').length = 1 → receipt' = receipt) := by
  have hr : receipt ∈ receiptsOf P org coord l' := by
    obtain ⟨ha, hfor⟩ := mem_filter.1 h
    obtain ⟨hm, ha⟩ := mem_filter.1 ha
    exact mem_filter.2 ⟨mem_filter.2 ⟨hsub _ hm, ha⟩, hfor⟩
  have hs : receipt ∈ siblingsOf (receiptsOf P org coord l') receipt :=
    mem_siblingsOf.2 ⟨hr, rfl, rfl⟩
  obtain ⟨receipt', hf⟩ : ∃ r,
      (siblingsOf (receiptsOf P org coord l') receipt).head? = some r :=
    Option.isSome_iff_exists.1 (isSome_head?.2 (ne_nil_of_mem hs))
  obtain ⟨hm, hc, hmer⟩ := mem_siblingsOf.1 (mem_of_head? hf)
  have heq : siblingsOf (receiptsOf P org coord l') receipt' =
      siblingsOf (receiptsOf P org coord l') receipt := siblingsOf_congr hc hmer
  refine ⟨receipt', hm, (mem_reduce hl').2 ⟨receipt', hm, by rw [heq]; exact hf, rfl⟩,
    hc, hmer, fun ho => ?_⟩
  rw [heq] at ho
  obtain ⟨only, hon⟩ := length_eq_one_iff.1 ho
  rw [hon] at hf hs
  rw [← Option.some.inj hf, mem_singleton.1 hs]

lemma receiptsOf_sub (hs : ∀ m ∈ l, m ∈ l') : ∀ m ∈ receiptsOf P org coord l,
    m ∈ receiptsOf P org coord l' := by
  intro m hm
  obtain ⟨ha, hf⟩ := mem_filter.1 hm
  obtain ⟨hmem, ha⟩ := mem_filter.1 ha
  exact mem_filter.2 ⟨mem_filter.2 ⟨hs _ hmem, ha⟩, hf⟩

lemma claims_settle (hl : (l.map HandoffMessage.id).Nodup)
    (hl' : (l'.map HandoffMessage.id).Nodup) (hsub : ∀ m ∈ l, m ∈ l')
    (h : claim ∈ reduceFutureMarketOrganizerClaims P org coord l) :
    ∃ claim' ∈ reduceFutureMarketOrganizerClaims P org coord l',
      claim'.key = claim.key ∧ claim.state.Settles claim'.state := by
  obtain ⟨receipt, hr, hf, rfl⟩ := (mem_reduce hl).1 h
  obtain ⟨receipt', -, hc', hc, hmer, hon⟩ := exists_claim hl' hsub hr
  refine ⟨_, hc', Prod.ext hc hmer, ?_⟩
  by_cases ho : (siblingsOf (receiptsOf P org coord l') receipt').length = 1
  · have heq := hon ho
    subst heq
    refine claimOf_settles (fun m hm => ?_) ?_ ho
    · obtain ⟨hmem, ha⟩ := mem_filter.1 hm
      exact mem_filter.2 ⟨hsub m hmem, ha⟩
    · have hnd : (siblingsOf (receiptsOf P org coord l) receipt').Nodup :=
        ((hl.of_map _).filter _).filter _ |>.filter _
      have hs : siblingsOf (receiptsOf P org coord l) receipt' ⊆
          siblingsOf (receiptsOf P org coord l') receipt' := by
        intro m hm
        obtain ⟨hmem, hk⟩ := mem_siblingsOf.1 hm
        exact mem_siblingsOf.2 ⟨receiptsOf_sub hsub m hmem, hk⟩
      have hle := hnd.length_le_of_subset hs
      have hpos := length_pos_of_mem (mem_of_head? hf)
      omega
  · rw [state_of_siblings ho]
    exact .inr (.inr rfl)

lemma claims_perm (hl : (l.map HandoffMessage.id).Nodup) (hpm : l.Perm l')
    (h : claim ∈ reduceFutureMarketOrganizerClaims P org coord l) :
    ∃ claim' ∈ reduceFutureMarketOrganizerClaims P org coord l',
      claim'.key = claim.key ∧ claim'.state = claim.state := by
  have hl' := ((hpm.map HandoffMessage.id).nodup_iff).1 hl
  obtain ⟨receipt, hr, hfst, rfl⟩ := (mem_reduce hl).1 h
  obtain ⟨receipt', -, hc', hc, hmer, hon⟩ :=
    exists_claim hl' (fun m hm => hpm.mem_iff.1 hm) hr
  have hlen : (siblingsOf (receiptsOf P org coord l') receipt').length =
      (siblingsOf (receiptsOf P org coord l) receipt).length := by
    rw [siblingsOf_congr hc hmer]
    exact (((hpm.filter _).filter _).filter _).length_eq.symm
  refine ⟨_, hc', Prod.ext hc hmer, ?_⟩
  by_cases ho : (siblingsOf (receiptsOf P org coord l') receipt').length = 1
  · have heq := hon ho
    subst heq
    refine (claimOf_congr (fun m => ?_) (hlen.symm.trans ho) ho).symm
    exact (hpm.filter _).mem_iff
  · rw [state_of_siblings ho, state_of_siblings fun h => ho (hlen.trans h)]

end

end Conduit.Markets
