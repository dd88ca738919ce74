import Conduit.Markets.RecoveryHolds
import Conduit.Stock.Guarantees

namespace Conduit.Markets

open Js Runs Stock Throwing List Function

section
variable {P : RecoveryPlatform} {merchantPubkey productCoordinate : Text} {s t : State} {i : Nat}
  {seen : List SignedEvent} {evid : EvidenceTable} {work : Work} {e : SignedEvent}

def Action.mover : Action → Nat
  | .start i _ | .observe i _ _ | .retain i _ | .load i | .resolve i _ _ _ | .ask i | .date i _ _
  | .commit i _ | .stop i => i

structure FreshStock (P : RecoveryPlatform) (merchantPubkey productCoordinate : Text) (s t : State)
    (work : Work) (product : Product) (recovered : List Assignment) (now : Int) : Prop where
  absent : s.products.get productCoordinate = none
  products : t.products = s.products.put product
  assignments : t.assignments = s.assignments.putAll recovered ∧
    ∀ a ∈ recovered, s.assignments.get a.coordinate = none
  signed : product.coordinate = productCoordinate ∧ product.merchantPubkey = merchantPubkey ∧
    ∃ source, acceptedSource P merchantPubkey productCoordinate product.signedProductEvent =
      some source ∧ product.stock = source.stock
  nodup : (recovered.map (·.coordinate)).Nodup
  newest : ∀ a ∈ recovered, Newest P merchantPubkey productCoordinate work.read a
  covers : ∀ c ∈ work.candidates, ∃ coordinate, coordinateOf c = some coordinate ∧
    (coordinate ∈ recovered.map (·.coordinate) ∨ coordinate ∈ work.unassigned)
  modes : ∀ a ∈ recovered, a.state = .active → (a.inventory.IsTracked ↔ product.stock.isSome = true)
  fits : ∀ n ∈ product.stock, (recovered.map fun a => a.effective now).sum ≤ n
  released : ∀ e ∈ work.before, IsMarker P merchantPubkey productCoordinate e → Released P t.seen e

structure StepOk (P : RecoveryPlatform) (merchantPubkey productCoordinate : Text) (a : Action)
    (s t : State) : Prop where
  final : ∀ i result, s.calls i = some (.returned result) → t.calls i = some (.returned result)
  writes : t.products = s.products ∧ t.assignments = s.assignments ∨
    ∃ coverage product n, t.calls a.mover = some (.returned (.ready coverage product n false))
  ready : ∀ i coverage product n, t.calls i = some (.returned (.ready coverage product n true)) →
    s.calls i ≠ t.calls i → s.products.get productCoordinate = some product ∧
      t.products = s.products ∧ t.assignments = s.assignments
  fresh : ∀ i coverage product n, t.calls i = some (.returned (.ready coverage product n false)) →
    s.calls i ≠ t.calls i → ∃ work recovered now, s.calls i = some (.resolving work [] recovered) ∧
      n = recovered.length ∧
      FreshStock P merchantPubkey productCoordinate s t work product recovered now
  blocked : ∀ i coverage reason, t.calls i = some (.returned (.unsafeConflict coverage reason)) →
    s.calls i ≠ t.calls i → t.products = s.products ∧ t.assignments = s.assignments

def EndsWith (productCoordinate : Text) (s : State) (call : Call) : Prop :=
  ∀ coverage product n already, call = .returned (.ready coverage product n already) →
    already = true ∧ s.products.get productCoordinate = some product

structure Moves (merchantPubkey productCoordinate : Text) (a : Action) (s t : State) (call : Call) :
    Prop where
  calls : t.calls = Function.update s.calls a.mover (some call)
  running : ∀ result, s.calls a.mover ≠ some (.returned result)
  outcome : (t.products = s.products ∧ t.assignments = s.assignments ∧
      EndsWith productCoordinate s call) ∨
    ∃ work recovered now, s.calls a.mover = some (.resolving work [] recovered) ∧
      allocationConflict work.source.stock recovered now = none ∧
      s.products.get productCoordinate = none ∧
      (∀ a ∈ recovered, s.assignments.get a.coordinate = none) ∧
      call = .returned (.ready work.coverage (freshProduct merchantPubkey productCoordinate work)
        recovered.length false) ∧ t.seen = s.seen ∧
      t.products = s.products.put (freshProduct merchantPubkey productCoordinate work) ∧
      t.assignments = s.assignments.putAll recovered

variable {event : SignedEvent} {now : Int} {a : Action}

lemma observedCall_ends {source : ProductSource} {plan : Option Bool} {answer : ReadResult} :
    EndsWith productCoordinate s
      (observedCall P merchantPubkey productCoordinate event source plan answer evid seen) := by
  intro coverage product n already h
  unfold observedCall at h
  dsimp only at h
  split_ifs at h
  · cases h
  · cases h
  · split at h <;> cases h

variable {recovered : List Assignment}

lemma resolvedCall_ends {cand : Revision} {resolved : AssignmentRead}
    {pend : List Revision} : EndsWith productCoordinate s
      (resolvedCall P merchantPubkey productCoordinate work cand resolved pend
        recovered) := by
  intro coverage product n already h
  unfold resolvedCall at h
  split_ifs at h
  · cases h
  · cases h
  cases ha : resolved.assignment with
  | none =>
    rw [ha] at h
    cases h
  | some assignment =>
    rw [ha] at h
    dsimp only at h
    split_ifs at h
    cases h

lemma startedCall_ends : EndsWith productCoordinate s
    (startedCall P merchantPubkey productCoordinate s.products event) := by
  intro coverage product n already h
  unfold startedCall at h
  cases he : s.products.get productCoordinate with
  | some existing =>
    rw [he] at h
    cases h
    exact ⟨rfl, rfl⟩
  | none =>
    rw [he] at h
    dsimp only at h
    split at h <;> cases h

lemma committed_moves (hc : s.calls i = some (.resolving work [] recovered)) :
    ∃ call, Moves merchantPubkey productCoordinate (.commit i now) s
      (committed merchantPubkey productCoordinate s i work recovered now) call := by
  have hr : ∀ result, s.calls i ≠ some (.returned result) := by simp [hc]
  unfold committed
  cases hcon : allocationConflict work.source.stock recovered now with
  | some reason => exact ⟨_, rfl, hr, .inl ⟨rfl, rfl, fun _ _ _ _ h => by cases h⟩⟩
  | none =>
    cases hp : s.products.get productCoordinate with
    | some current =>
      refine ⟨_, rfl, hr, .inl ⟨rfl, rfl, fun _ _ _ _ h => ?_⟩⟩
      cases h
      exact ⟨rfl, hp⟩
    | none =>
      split_ifs with ht
      · exact ⟨_, rfl, hr, .inl ⟨rfl, rfl, fun _ _ _ _ h => by cases h⟩⟩
      · refine ⟨_, rfl, hr, .inr ⟨work, recovered, now, hc, hcon, hp,
          fun a ha => ?_, rfl, rfl, rfl, rfl⟩⟩
        cases hg : s.assignments.get a.coordinate with
        | none => rfl
        | some old => exact absurd ⟨a, ha, by rw [hg]; rfl⟩ ht

lemma moves (h : act P merchantPubkey productCoordinate s a = some t) :
    ∃ call, Moves merchantPubkey productCoordinate a s t call := by
  cases a with
  | start i event =>
    simp only [act] at h
    split at h
    · cases h
      exact ⟨_, rfl, by simp [Action.mover, *], .inl ⟨rfl, rfl, startedCall_ends⟩⟩
    · cases h
  | observe i plan answer =>
    simp only [act] at h
    split at h
    · cases h
      exact ⟨_, rfl, by simp [Action.mover, *], .inl ⟨rfl, rfl, observedCall_ends⟩⟩
    · cases h
  | retain i now =>
    simp only [act] at h
    split at h
    · cases h
      exact ⟨_, rfl, by simp [Action.mover, *], .inl ⟨rfl, rfl, fun _ _ _ _ h => by cases h⟩⟩
    · cases h
  | load i =>
    simp only [act] at h
    split at h
    · cases h
      exact ⟨_, rfl, by simp [Action.mover, *], .inl ⟨rfl, rfl, fun _ _ _ _ h => by cases h⟩⟩
    · cases h
      exact ⟨_, rfl, by simp [Action.mover, *], .inl ⟨rfl, rfl, fun _ _ _ _ h => by cases h⟩⟩
    · cases h
  | resolve i fetched resolved now =>
    simp only [act] at h
    split at h
    · split_ifs at h
      cases h
      exact ⟨_, rfl, by simp [Action.mover, *], .inl ⟨rfl, rfl, resolvedCall_ends⟩⟩
    · cases h
  | ask i =>
    simp only [act] at h
    split at h
    · cases h
      exact ⟨_, rfl, by simp [Action.mover, *], .inl ⟨rfl, rfl, fun _ _ _ _ h => by cases h⟩⟩
    · cases h
  | date i reads now =>
    simp only [act] at h
    split at h
    · cases h
      exact ⟨_, rfl, by simp [Action.mover, *], .inl ⟨rfl, rfl, fun _ _ _ _ h => by cases h⟩⟩
    · cases h
  | commit i now =>
    simp only [act] at h
    split at h
    · rename_i work recovered hc
      cases h
      exact committed_moves hc
    · cases h
  | stop i =>
    simp only [act] at h
    split at h
    · cases h
    · cases h
    · cases h
    · cases h
    · rename_i call _ hr _ hc
      cases h
      refine ⟨_, rfl, fun result heq => hr result ?_, .inl ⟨rfl, rfl, fun _ _ _ _ h => by cases h⟩⟩
      exact Option.some.inj (hc.symm.trans heq)

lemma fits_of_allocationConflict {stock : Option Int}
    (h : allocationConflict stock recovered now = none)
    (hh : ∀ a ∈ recovered, a.organizerStockHold = none ∧ 0 ≤ a.inventory.quantity) :
    (∀ a ∈ recovered, a.state = .active → (a.inventory.IsTracked ↔ stock.isSome = true)) ∧
      ∀ n ∈ stock, (recovered.map fun a => a.effective now).sum ≤ n := by
  unfold allocationConflict at h
  dsimp only at h
  split_ifs at h with hm hf
  push Not at hm hf
  have he : ∀ l : List Assignment, (∀ a ∈ l, a ∈ recovered) →
      (l.map fun a => a.effective now).sum =
        ((l.filter fun a => decide (a.state = .active)).map fun a => a.liveAllocation now).sum := by
    intro l hl
    induction l with
    | nil => rfl
    | cons a l ih =>
      rw [forall_mem_cons] at hl
      obtain ⟨hno, hq⟩ := hh a hl.1
      have heq : a.effective now = a.liveAllocation now := by
        unfold Assignment.effective Assignment.held
        rw [hno]
        refine max_eq_left ?_
        unfold Assignment.liveAllocation
        split_ifs
        · exact hq
        · exact le_refl _
      rw [map_cons, sum_cons, ih hl.2, heq]
      by_cases hact : a.state = .active
      · rw [filter_cons_of_pos (by simpa using hact), map_cons, sum_cons]
      · rw [filter_cons_of_neg (by simpa using hact), Assignment.liveAllocation,
          if_neg fun hli => hact hli.1, zero_add]
  refine ⟨fun a ha hact => ?_, fun n hn => ?_⟩
  · have hmem : a ∈ recovered.filter fun a => decide (a.state = .active) :=
      mem_filter.2 ⟨ha, by simpa using hact⟩
    have := hm a hmem
    tauto
  · rw [he recovered fun a ha => ha]
    exact hf n hn

lemma freshStock_of_moves (h : Inv P merchantPubkey productCoordinate s)
    (hca : s.calls i = some (.resolving work [] recovered))
    (hcon : allocationConflict work.source.stock recovered now = none)
    (habs : s.products.get productCoordinate = none)
    (hn : ∀ a ∈ recovered, s.assignments.get a.coordinate = none) (hs : t.seen = s.seen)
    (hp : t.products = s.products.put (freshProduct merchantPubkey productCoordinate work))
    (hasn : t.assignments = s.assignments.putAll recovered) :
    FreshStock P merchantPubkey productCoordinate s t work
      (freshProduct merchantPubkey productCoordinate work) recovered now := by
  have hres : Resolving P merchantPubkey productCoordinate s.seen work [] recovered :=
    h.calls i _ hca
  obtain ⟨hm, hf⟩ := fits_of_allocationConflict hcon fun a ha => by
    obtain ⟨r, endMs, terminal, -, hr, -, rfl, -⟩ := hres.newest a ha
    exact ⟨rfl, (reads_of_parse hr.parse).quantity⟩
  have hnd := hres.nodup
  rw [map_nil, append_nil] at hnd
  refine ⟨habs, hp, ⟨hasn, hn⟩, ⟨rfl, rfl, _, hres.base.signed, rfl⟩, hnd,
    hres.newest, fun c hc => ?_, hm, hf, fun e he hmr => ?_⟩
  · obtain ⟨r, hr, hco, -⟩ := hres.base.passed.covers c hc
    refine ⟨r.coordinate, hco, ?_⟩
    rcases hres.covers r hr with hpe | hre
    · cases hpe
    · exact hre
  · rw [hs]
    exact hres.base.before e he hmr

lemma Inv.stepOk (h : Inv P merchantPubkey productCoordinate s)
    (hs : act P merchantPubkey productCoordinate s a = some t) :
    StepOk P merchantPubkey productCoordinate a s t := by
  obtain ⟨call, hca, hrun, ho⟩ := moves hs
  -- Only the call that moves can come to return.
  have hm : ∀ i result, t.calls i = some (.returned result) → s.calls i ≠ t.calls i →
      i = a.mover ∧ call = .returned result := by
    intro i result hres hne
    rw [hca] at hres hne
    by_cases hi : i = a.mover
    · subst hi
      rw [update_self] at hres
      exact ⟨rfl, Option.some.inj hres⟩
    · exact absurd (update_of_ne hi _ _).symm hne
  refine ⟨fun i result hres => ?_, ?_, fun i coverage product n hr hne => ?_,
    fun i coverage product n hr hne => ?_, fun i coverage reason hcon hne => ?_⟩
  · have hi : i ≠ a.mover := fun heq => hrun result (heq ▸ hres)
    rw [hca, update_of_ne hi]
    exact hres
  · refine ho.imp (fun hq => ⟨hq.1, hq.2.1⟩) ?_
    rintro ⟨work, recovered, now, -, -, -, -, rfl, -⟩
    exact ⟨_, _, _, by rw [hca, update_self]⟩
  · obtain ⟨rfl, rfl⟩ := hm i _ hr hne
    rcases ho with ⟨hp, ha, he⟩ | ⟨_, _, _, -, -, -, -, hc, -⟩
    · exact ⟨(he _ _ _ _ rfl).2, hp, ha⟩
    · cases hc
  · obtain ⟨rfl, rfl⟩ := hm i _ hr hne
    rcases ho with ⟨-, -, he⟩ |
      ⟨work, recovered, now, hc, hcon, habs, hn, heq, hse, hp, ha⟩
    · cases (he _ _ _ _ rfl).1
    · cases heq
      exact ⟨work, recovered, now, hc, rfl, freshStock_of_moves h hc hcon
        habs hn hse
        hp ha⟩
  · obtain ⟨rfl, rfl⟩ := hm i _ hcon hne
    rcases ho with ⟨hp, ha, -⟩ | ⟨_, _, _, -, -, -, -, hc, -⟩
    · exact ⟨hp, ha⟩
    · cases hc

end

def Call.before : Call → Option (List SignedEvent)
  | .scoping work _ | .resolving work _ _ | .asking work _ _ _ | .dating work _ _ _ _ =>
    some work.before
  | .reading _ _ | .retaining _ _ | .returned _ | .threw => none

def ReadsAfter (read : List SignedEvent) (i : Nat) (s : State) : Prop :=
  read ⊆ s.seen ∧ ∀ call, s.calls i = some call → ∀ before ∈ call.before, read ⊆ before

section
variable {P : RecoveryPlatform} {merchantPubkey productCoordinate : Text} {s t : State} {i : Nat}
  {seen : List SignedEvent} {evid : EvidenceTable} {work : Work}
  {event : SignedEvent} {a : Action}

lemma observedCall_before {source : ProductSource} {plan : Option Bool} {answer : ReadResult} :
    ∀ before ∈ (observedCall P merchantPubkey productCoordinate event source
      plan answer evid seen).before, before = seen := by
  intro before h
  unfold observedCall at h
  dsimp only at h
  split_ifs at h
  · cases h
  · cases h
  · split at h
    · cases h
    · cases h
    · exact (Option.some.inj h).symm

lemma resolvedCall_before {cand : Revision} {resolved : AssignmentRead} {pend : List Revision}
    {recovered : List Assignment} : ∀ before ∈ (resolvedCall P merchantPubkey productCoordinate work
      cand resolved pend recovered).before, before = work.before := by
  intro before h
  unfold resolvedCall at h
  split_ifs at h
  · cases h
  · cases h
  cases ha : resolved.assignment with
  | none =>
    rw [ha] at h
    exact (Option.some.inj h).symm
  | some assignment =>
    rw [ha] at h
    dsimp only at h
    split_ifs at h
    · cases h
    · exact (Option.some.inj h).symm
    · exact (Option.some.inj h).symm

lemma startedCall_before {products : Table Product Product.coordinate} :
    (startedCall P merchantPubkey productCoordinate products event).before = none := by
  unfold startedCall
  split
  · rfl
  · split <;> rfl

lemma before_of_act (h : act P merchantPubkey productCoordinate s a = some t) :
    s.seen ⊆ t.seen ∧ ∃ call, t.calls = update s.calls a.mover (some call) ∧
      ∀ before ∈ call.before, before = s.seen ∨
        ∃ old, s.calls a.mover = some old ∧ before ∈ old.before := by
  have hn : ∀ {call : Call}, call.before = none → ∀ before ∈ call.before, before = s.seen ∨
      ∃ old, s.calls a.mover = some old ∧ before ∈ old.before := by
    intro call hc before hbef
    rw [hc] at hbef
    cases hbef
  cases a with
  | start i event =>
    simp only [act] at h
    split at h
    · cases h
      exact ⟨.refl _, _, rfl, hn startedCall_before⟩
    · cases h
  | observe i plan answer =>
    simp only [act] at h
    split at h
    · cases h
      exact ⟨subset_append_left _ _, _, rfl, fun before hb =>
        .inl (observedCall_before before hb)⟩
    · cases h
  | retain i now =>
    simp only [act] at h
    split at h
    · cases h
      exact ⟨.refl _, _, rfl, hn rfl⟩
    · cases h
  | load i =>
    simp only [act] at h
    split at h
    · rename_i hc
      cases h
      exact ⟨subset_append_left _ _, _, rfl, fun before hb => .inr ⟨_, hc, hb⟩⟩
    · rename_i hc
      cases h
      exact ⟨.refl _, _, rfl, fun before hb => .inr ⟨_, hc, hb⟩⟩
    · cases h
  | resolve i fetched resolved now =>
    simp only [act] at h
    split at h
    · rename_i hc
      split_ifs at h
      cases h
      refine ⟨subset_append_left _ _, _, rfl, fun before hb => .inr ⟨_, hc, ?_⟩⟩
      rw [resolvedCall_before before hb]
      rfl
    · cases h
  | ask i =>
    simp only [act] at h
    split at h
    · rename_i hc
      cases h
      exact ⟨.refl _, _, rfl, fun before hb => .inr ⟨_, hc, hb⟩⟩
    · cases h
  | date i reads now =>
    simp only [act] at h
    split at h
    · rename_i hc
      cases h
      exact ⟨.refl _, _, rfl, fun before hb => .inr ⟨_, hc, hb⟩⟩
    · cases h
  | commit i now =>
    simp only [act] at h
    split at h
    · cases h
      unfold committed
      split
      · exact ⟨.refl _, _, rfl, hn rfl⟩
      · split
        · exact ⟨.refl _, _, rfl, hn rfl⟩
        · split_ifs
          · exact ⟨.refl _, _, rfl, hn rfl⟩
          · exact ⟨.refl _, _, rfl, hn rfl⟩
    · cases h
  | stop i =>
    simp only [act] at h
    split at h
    · cases h
    · cases h
    · cases h
    · cases h
    · cases h
      exact ⟨.refl _, _, rfl, hn rfl⟩

lemma ReadsAfter.step {read : List SignedEvent} (h : ReadsAfter read i s)
    (hs : act P merchantPubkey productCoordinate s a = some t) : ReadsAfter read i t := by
  obtain ⟨hse, call, hca, hb⟩ := before_of_act hs
  refine ⟨Subset.trans h.1 hse, fun call' hc' before hm => ?_⟩
  rw [hca] at hc'
  by_cases hi : i = a.mover
  · subst hi
    rw [update_self] at hc'
    cases hc'
    rcases hb before hm with rfl | ⟨old, hold, hm⟩
    · exact h.1
    · exact h.2 old hold before hm
  · rw [update_of_ne hi] at hc'
    exact h.2 call' hc' before hm

end

namespace Entrusted

def merchant : Text := hexText 64 0xaa82e337f634ebf899da6a11853a9311b2bbe094bdede0c17c068f6738554477

def organizer : Text := hexText 64 0x57ecba7a2893465823005367c00011f6774f245ac243ed7e422fa9308f45ed03

def springTuple : Text := hexText 64 0x25eabe70b67e44e2ac2a9d370f182b9f3dd9cbc9aaab36800d8e9914f97e8f71

def autumnTuple : Text := hexText 64 0x94340fdd3ba99e3f912efbe9d777f45dc5366a1bd91d7d1c1c3fa93f108947a4

def springGrant : Text := hexText 64 0x9faed83ee27147848afb310f9f173cd2260dd681e4c5d9200fe6f740ad9698fc

def autumnGrant : Text := hexText 64 0xf0b118de97a5390dca2ae7d2ee91df49fc2063555fc0218f11bffc48a65e1cfb

def scarf : Text := ("30402:" : Text) ++ merchant ++ ":scarf-2"

def springMarket : Text := ("30409:" : Text) ++ organizer ++ ":spring-market"

def springDate : Text := ("31923:" : Text) ++ organizer ++ ":spring-date"

def autumnMarket : Text := ("30409:" : Text) ++ organizer ++ ":autumn-market"

def autumnDate : Text := ("31923:" : Text) ++ organizer ++ ":autumn-date"

def springEntrusted : SignedEvent where
  id := hexText 64 0x0b937c92a0abdabc37be81381707248b3448506657c45d969b6df621ae530e70
  pubkey := merchant
  createdAt := 1700000100
  kind := 30410
  tags := [["d", springTuple],
    ["openmarkets", "event-market-assignment", "1"],
    ["a", springMarket], ["a", springDate], ["a", scarf],
    ["state", "active"], ["inventory", "tracked", "2"],
    ["fulfillment", "pickup"],
    ["conduit_stock_pool", "1", "active", springGrant, organizer, "2",
      "0"],
    ["alt", "Open Markets occurrence product assignment"]]
  content := []
  sig := hexText 128 0xcf6f4f6adb9b37a948dfc34e192e905920e29e065ff8257dc65a5058a463cc518d34bcaee92da2825d5bbf60ba1c5a4ba070003581d61ed759de14a14161d69f

def autumnEntrusted : SignedEvent where
  id := hexText 64 0xc1c24d794d1a25e2419f78c95100d411071ce8161e797fcb155a6d335aef9926
  pubkey := merchant
  createdAt := 1700000110
  kind := 30410
  tags := [["d", autumnTuple],
    ["openmarkets", "event-market-assignment", "1"],
    ["a", autumnMarket], ["a", autumnDate], ["a", scarf],
    ["state", "active"], ["inventory", "tracked", "3"],
    ["fulfillment", "pickup"],
    ["conduit_stock_pool", "1", "active", autumnGrant, organizer, "3",
      "0"],
    ["alt", "Open Markets occurrence product assignment"]]
  content := []
  sig := hexText 128 0x82c0c2ff9a649a53338887e016ccd6d151d3a1b0c42025a8d0ef93ba29d2322db8fa11c85bad397134939dea108626330f197abf5feecd05a4a89e8e94e30c3e

def springReturned : SignedEvent where
  id := hexText 64 0xdc577d3f896b5ac81cc7acaf8742c6313cbdcf0f1cf594c91c20cd67502db6bd
  pubkey := merchant
  createdAt := 1700000300
  kind := 30410
  tags := [["d", springTuple],
    ["openmarkets", "event-market-assignment", "1"],
    ["a", springMarket], ["a", springDate], ["a", scarf],
    ["state", "active"], ["inventory", "tracked", "2"],
    ["fulfillment", "pickup"],
    ["conduit_stock_pool", "1", "closed", springGrant, organizer, "2",
      "1"],
    ["alt", "Open Markets occurrence product assignment"]]
  content := []
  sig := hexText 128 0x7bf9b2aacd94edafb8dfb781aa2a3a540961a56cf27963162e280395bf6ae259a880cbf5491182ee0720853a2088e17d3f8b2b005a95817597ca7fda87048239

def autumnOlder : SignedEvent where
  id := hexText 64 0x2150f5350a8cbf8accf3b7fbaf0fec3750594573e5d4bc97b4cd3009e908b299
  pubkey := merchant
  createdAt := 1700000050
  kind := 30410
  tags := [["d", autumnTuple],
    ["openmarkets", "event-market-assignment", "1"],
    ["a", autumnMarket], ["a", autumnDate], ["a", scarf],
    ["state", "active"], ["inventory", "tracked", "1"],
    ["fulfillment", "pickup"],
    ["alt", "Open Markets occurrence product assignment"]]
  content := []
  sig := hexText 128 0x4e2d362498041c1ee4f16af3690e4818cc671cc9c569636cdc62bd8c7816a4df9c4d4041a6bed420dec4628420d006c5f0e4262d27e0dd3aaa71aecb5c67c2f8

def stockedProduct : SignedEvent where
  id := hexText 64 0x2bfa52ecd774ffbd9c80c0579d9c82a3da8b43fdf7303628ae9b1532c796b2ec
  pubkey := merchant
  createdAt := 1700000010
  kind := 30402
  tags := [["d", "scarf-2"], ["title", "Scarf"],
    ["price", "20000", "SATS"], ["stock", "5"],
    ["type", "simple"]]
  content := "A scarf."
  sig := hexText 128 0x583aac3760a6277dcb8e97a2b3e55c8ef61fd188c4418aa424367b4bb5303bfc9cdac5d1b96160fead3865528f7d75bb35a680ee8197a2bcd186feac96d8914b

def events : List SignedEvent :=
  [springEntrusted, autumnEntrusted, springReturned, autumnOlder, stockedProduct]

def digest : Json → Text
  | .arr [.str market, .str date, .str product] =>
    if market = springMarket ∧ date = springDate ∧ product = scarf then springTuple
    else if market = autumnMarket ∧ date = autumnDate ∧ product = scarf then autumnTuple
    else []
  | _ => []

def platform : RecoveryPlatform where
  toStockPlatform :=
    { Stock.Sample.platform with
      digest := digest
      isValidSignedEvent := fun event => decide (event ∈ events)
      eventBytes := fun event => if tagsNamed event.tags "conduit_stock_pool" = []
        then 860 else 1038
      calendarEnd := fun _ => none }
  parseProductEvent event :=
    if event = stockedProduct then some ⟨scarf, merchant, false, some 5⟩ else none

lemma platform_sound : Sound platform := by
  have hv : ∀ e, platform.isValidSignedEvent e = true → e ∈ events := fun e h =>
    of_decide_eq_true h
  refine ⟨fun e h => ?_, fun e h => ?_, fun a b ha hb hid => ?_, fun a b r r' hr hr' heq => ?_⟩
  · have hall : ∀ e ∈ events, IsHex64 e.id := by decide +kernel
    exact hall e (hv e h)
  · have hall : ∀ e ∈ events, IsSafeInteger e.createdAt ∧ 0 ≤ e.createdAt := by decide +kernel
    exact hall e (hv e h)
  · have hall : ∀ a ∈ events, ∀ b ∈ events, a.id = b.id →
        a = { b with sig := a.sig } ∧ platform.eventBytes a = platform.eventBytes b := by
      decide +kernel
    exact hall a (hv a ha) b (hv b hb) hid
  · have hall : ∀ a ∈ events, ∀ b ∈ events, ∀ r ∈ parseRevision platform a,
        ∀ r' ∈ parseRevision platform b, r.coordinate = r'.coordinate →
          r.merchantPubkey = r'.merchantPubkey ∧ r.marketCoordinate = r'.marketCoordinate ∧
            r.productCoordinate = r'.productCoordinate := by
      decide +kernel
    exact hall a (hv a (reads_of_parse hr).valid) b
      (hv b (reads_of_parse hr').valid) r hr r'
      hr' heq

def unused : State where
  evidence := .empty
  products := .empty
  assignments := .empty
  calls _ := none
  seen := []

def replay (actions : List Action) (s : State) : Option State :=
  actions.foldlM (act platform merchant scarf) s

variable {actions : List Action}

lemma run_of_replay {s t : State} (h : replay actions s = some t) :
    Run (RecoveryStep platform merchant scarf) s actions t :=
  Run.of_foldlM (fun _ _ _ hs => hs) h

def nothingRead : OccurrenceReads := ⟨none, [], none⟩

def resolution (event : SignedEvent) : AssignmentRead :=
  ⟨parseRevision platform event, .active, .complete⟩

def reads (i : Nat) (candidates : List SignedEvent) : Action :=
  .observe i (some false) ⟨candidates, [.success]⟩

/-- A call resolves one candidate, whose occurrence is not found. -/
def resolves (i : Nat) (event : SignedEvent) : List Action :=
  [.resolve i [event] (resolution event) 1700000400000, .ask i, .date i nothingRead 1700000400000]

def readyFresh : Option Call → Bool
  | some (.returned (.ready _ _ _ false)) => true
  | _ => false

def isRetaining : Option Call → Bool
  | some (.retaining _ _) => true
  | _ => false

variable {call : Option Call}

lemma exists_ready (h : readyFresh call = true) :
    ∃ coverage product n, call = some (.returned (.ready coverage product n false)) := by
  unfold readyFresh at h
  split at h
  · exact ⟨_, _, _, rfl⟩
  · cases h

/-- The first call reads both markers. -/
def sold : Option (State × State × State) := do
  let s₁ ← replay [.start 0 stockedProduct, reads 0 [springEntrusted, autumnEntrusted],
    .retain 0 1700000200000] unused
  let s ← replay ([.start 1 stockedProduct, reads 1 [springReturned, autumnOlder], .load 1, .load 1,
    .load 1] ++ resolves 1 springReturned ++ resolves 1 autumnOlder) s₁
  let t ← act platform merchant scarf s (.commit 1 1700000400000)
  return (s₁, s, t)

def soldChecks (states : State × State × State) : Bool :=
  let (s₁, s, t) := states
  (s₁.calls 1).isNone && decide (autumnEntrusted ∈ s₁.seen) && !readyFresh (s.calls 1) &&
    readyFresh (t.calls 1) && t.seen.all fun n =>
      decide ¬(coordinateOf n = coordinateOf autumnEntrusted ∧
        0 < compareReplaceableEventFrontiers n autumnEntrusted)

lemma sold_checked : sold.any soldChecks = true := by decide +kernel

lemma autumn_marked : IsMarker platform merchant scarf autumnEntrusted := by
  have hprs : ∃ r ∈ parseRevision platform autumnEntrusted, r.merchantPubkey = merchant ∧
      r.productCoordinate = scarf ∧ requiresOrganizerStockRecovery r.toParsedAssignment := by
    decide +kernel
  obtain ⟨r, hr, hm, hp, hmrk⟩ := hprs
  exact ⟨r, ⟨hr, hm, hp⟩, hmrk⟩

lemma calls_of_replay {s t : State} {i : Nat} (h : replay actions s = some t)
    (hi : ∀ a ∈ actions, a.mover ≠ i) : t.calls i = s.calls i := by
  induction actions generalizing s with
  | nil =>
    cases h
    rfl
  | cons a actions ih =>
    simp only [replay, foldlM_cons, bind_gives] at h
    obtain ⟨u, hu, hr⟩ := h
    obtain ⟨call, hm⟩ := moves hu
    rw [forall_mem_cons] at hi
    rw [ih hr hi.2, hm.calls, update_of_ne (Ne.symm hi.1)]

def isObserve : Action → Bool
  | .observe _ _ _ => true
  | _ => false

lemma keeps_of_not_observe {a : Action} (s : State) (h : isObserve a = false) :
    KeepsMarkers platform merchant scarf s a := by
  cases a with
  | observe i plan answer => cases h
  | _ => trivial

lemma kept_of_replay {s t : State} (h : replay actions s = some t)
    (hq : ∀ a ∈ actions, isObserve a = false) :
    Run (KeptStep platform merchant scarf) s actions t := by
  have hr := (run_of_replay h).restrict hq
  exact hr.mono fun a s t hst => ⟨keeps_of_not_observe s hst.1, hst.2⟩

def reachesFirst (evidence : EvidenceTable) (candidates : List SignedEvent)
    (e : SignedEvent) : Bool :=
  let rows := retainedRows merchant scarf evidence
  let found := candidatesOf platform merchant scarf rows candidates
  decide (rows.length ≤ maxRetained) && decide (found.length ≤ maxCandidates) &&
    found.all (fun c => (coordinateOf c).isSome) &&
    match byCoordinate found with
    | [] => false
    | group :: _ => decide (coordinateOf e = some group.1) &&
      (currentOf platform group.1 group.2).isSome

lemma reached_of_first {evid : EvidenceTable} {answer : ReadResult} {e : SignedEvent}
    (h : reachesFirst evid answer.events e = true) :
    Reached platform merchant scarf evid answer e := by
  unfold reachesFirst at h
  cases hgr : byCoordinate (candidatesOf platform merchant scarf
      (retainedRows merchant scarf evid) answer.events) with
  | nil => simp [hgr] at h
  | cons group after =>
    simp only [hgr, Bool.and_eq_true, decide_eq_true_eq, all_eq_true] at h
    obtain ⟨⟨⟨hr, hf⟩, hcoor⟩, hco, hcur⟩ := h
    refine ⟨hr, hf, fun c hc hn => ?_, [], group, after, hgr, hco,
      fun g hg => absurd hg not_mem_nil, Option.isSome_iff_exists.1 hcur⟩
    have := hcoor c hc
    rw [hn] at this
    cases this

def recovered : Option (State × State × State × State × State) := do
  let started ← replay [.start 0 stockedProduct] unused
  let marked ← act platform merchant scarf started (reads 0 [springEntrusted])
  let s₁ ← replay [.retain 0 1700000200000, .start 1 stockedProduct] marked
  let found ← act platform merchant scarf s₁ (reads 1 [springReturned])
  let s ← replay ([.load 1, .load 1] ++ resolves 1 springReturned) found
  let t ← act platform merchant scarf s (.commit 1 1700000400000)
  return (started, s₁, found, s, t)

def recoveredChecks (states : State × State × State × State × State) : Bool :=
  let (started, s₁, _, s, t) := states
  reachesFirst started.evidence [springEntrusted] springEntrusted &&
    !isRetaining (started.calls 0) && !isRetaining (s₁.calls 0) && !isRetaining (s₁.calls 1) &&
    decide (springEntrusted ∈ s₁.seen) && !readyFresh (s.calls 1) && readyFresh (t.calls 1) &&
    match s₁.calls 1 with
    | some (.reading _ _) => true
    | _ => false

lemma recovered_checked : recovered.any recoveredChecks = true := by decide +kernel

lemma spring_markers : IsMarker platform merchant scarf springEntrusted ∧
    ¬IsMarker platform merchant scarf springReturned := by
  have hprs : (∃ r ∈ parseRevision platform springEntrusted, r.merchantPubkey = merchant ∧
      r.productCoordinate = scarf ∧ requiresOrganizerStockRecovery r.toParsedAssignment) ∧
      ∀ r ∈ parseRevision platform springReturned,
        ¬requiresOrganizerStockRecovery r.toParsedAssignment := by
    decide +kernel
  obtain ⟨⟨r, hr, hmer, hp, hm⟩, hret⟩ := hprs
  refine ⟨⟨r, ⟨hr, hmer, hp⟩, hm⟩, ?_⟩
  rintro ⟨r, hr, hm⟩
  exact hret r hr.parse hm

lemma not_retaining (h : isRetaining call = false) (coverage : Coverage) (current : Revision) :
    call ≠ some (.retaining coverage current) := by
  rintro rfl
  cases h

end Entrusted

end Conduit.Markets
