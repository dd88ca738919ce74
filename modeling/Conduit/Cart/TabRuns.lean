import Conduit.Cart.Tabs

namespace Conduit.Cart

open Js Throwing Runs Lots List Option Sample Browser

variable {P : CartPlatform}

@[simp] lemma Browser.setTab_stored (s : Browser) (t : Nat) (tab : Tab) :
    (s.setTab t tab).stored = s.stored := rfl

@[simp] lemma Browser.setTab_self (s : Browser) (t : Nat) (tab : Tab) :
    (s.setTab t tab).tabs t = tab := Function.update_self ..

lemma Browser.setTab_ne (s : Browser) {t t' : Nat} (tab : Tab) (h : t' ≠ t) :
    (s.setTab t tab).tabs t' = s.tabs t' := Function.update_of_ne h ..

variable {t : Nat} {op : CartOp} {s s' : Browser} {tab : Tab} {before after : CanonicalCartRecord}
  {acting : Option CanonicalCartRecord} {stored : Option CanonicalCartRecord}
  {current : CanonicalCartRecord}
  {s : Browser} {observed before record : CanonicalCartRecord} {actions : List TabAction}
  {action : TabAction} {now : Int}

lemma Browser.acting_persistent (h : (s.tabs t).persistenceMode = .persistent) :
    s.acting t = s.stored := by
  unfold acting
  rw [h]

lemma Browser.acting_memory (h : (s.tabs t).persistenceMode = .memory) :
    s.acting t = (s.tabs t).memoryRecord := by
  unfold acting
  rw [h]

lemma BrowserOk.update (h : BrowserOk s) (hs : ∀ row, stored = some row → row.Named)
    (hmo : ∀ r, s.stored = some r → ∃ r', stored = some r' ∧ Precedes r r')
    (htab : TabOk (({ s with stored := stored }.setTab t tab).acting t) tab) :
    BrowserOk ({ s with stored := stored }.setTab t tab) where
  stored := hs
  tabs := by
    intro t'
    by_cases ht : t' = t
    · subst ht
      rw [setTab_self]
      exact htab
    · have heq : ({ s with stored := stored }.setTab t tab).tabs t' = s.tabs t' :=
        setTab_ne _ tab ht
      rw [heq]
      cases hm : (s.tabs t').persistenceMode with
      | persistent =>
        have hb := acting_persistent hm
        have ha : ({ s with stored := stored }.setTab t tab).acting t' = stored :=
          acting_persistent (heq ▸ hm)
        rw [ha]
        exact (hb ▸ h.tabs t').moved hmo
      | memory =>
        have hb := acting_memory hm
        have ha : ({ s with stored := stored }.setTab t tab).acting t' =
            (s.tabs t').memoryRecord :=
          (acting_memory (heq ▸ hm)).trans (congrArg Tab.memoryRecord heq)
        rw [ha]
        exact hb ▸ h.tabs t'

lemma BrowserOk.updateTab (h : BrowserOk s) (ht : TabOk ((s.setTab t tab).acting t) tab) :
    BrowserOk (s.setTab t tab) :=
  h.update h.stored (fun r hr => ⟨r, hr, .refl (h.stored r hr)⟩) ht

lemma TabOk.seen_precedes (h : TabOk acting tab) (hc : acting = some current) :
    ∀ observed ∈ tab.seen, Precedes observed current := by
  intro observed ho
  obtain ⟨record, hr, hp⟩ := h.published observed ho
  obtain ⟨-, current', hc', hp'⟩ := h.acting record hr
  rw [hc] at hc'
  exact hp.trans (some.inj hc' ▸ hp')

lemma TabOk.published_precedes (h : TabOk acting tab) (hc : acting = some current) :
    ∀ record, tab.publishedRecord = some record → Precedes record current :=
  fun record hr => h.seen_precedes hc record (h.acting record hr).1

lemma acting_publish (s : Browser) (t : Nat) (stored : Option CanonicalCartRecord)
    (record : CanonicalCartRecord) :
    ({ s with stored := stored }.setTab t ((s.tabs t).publish .persistent record)).acting t =
      stored := by
  apply acting_persistent
  rw [setTab_self]
  rfl

lemma acting_remember (s : Browser) (t : Nat) (stored : Option CanonicalCartRecord)
    (record : CanonicalCartRecord) :
    ({ s with stored := stored }.setTab t ((s.tabs t).remember record)).acting t = some record := by
  rw [acting_memory (by rw [setTab_self]; rfl), setTab_self]
  rfl

lemma BrowserOk.publish (h : BrowserOk s) {row stored : CanonicalCartRecord}
    (hrow : s.stored = some row) (hm : (s.tabs t).persistenceMode = .persistent)
    (hnm : stored.Named) (hs : Precedes row stored) (hrec : Precedes row record)
    (hl : Precedes record stored) : BrowserOk ({ s with stored := some stored }.setTab t
      ((s.tabs t).publish .persistent record)) := by
  apply h.update
  · rintro r ⟨rfl⟩
    exact hnm
  · intro r hr
    rw [hrow] at hr
    exact ⟨stored, rfl, some.inj hr ▸ hs⟩
  · rw [acting_publish]
    have ha : s.acting t = some row := (acting_persistent hm).trans hrow
    apply (h.tabs t).publish hl.1
    · intro pub hp
      exact ((h.tabs t).published_precedes ha pub hp).trans hrec
    · exact ⟨stored, rfl, hl⟩
    · rfl

lemma BrowserOk.remember (h : BrowserOk s) (hpub : (s.tabs t).publishedRecord = some before)
    (ha : Precedes before after) : BrowserOk (s.setTab t ((s.tabs t).remember after)) := by
  apply h.updateTab
  rw [show (s.setTab t ((s.tabs t).remember after)).acting t = some after from
    acting_remember s t s.stored after]
  apply (h.tabs t).remember ha.2.named
  intro pub hp
  rw [hpub] at hp
  exact some.inj hp ▸ ha

lemma Mutates.precedes (h : Mutates P tab op now before after) (hnm : before.Named) :
    Precedes before after := by
  rw [h.after]
  exact next_precedes hnm

lemma TabOk.published_named (h : TabOk acting tab) (hr : tab.publishedRecord = some record) :
    record.Named := by
  obtain ⟨-, current, -, hp⟩ := h.acting record hr
  exact hp.1

lemma tabOk_first (acting : Option CanonicalCartRecord) : TabOk acting Tab.opened where
  published := by
    intro observed ho
    cases ho
  acting := by
    intro record hr
    cases hr
  memory := by
    intro hm
    cases hm

lemma TabStep.ok (h : BrowserOk s) (hst : TabStep P action s s') : BrowserOk s' := by
  cases hst with
  | @initializeStored s t legacy now admits row record opened row_eq restored =>
    have hnm : row.Named := by
      rw [row_eq]
      cases hs : s.stored with
      | none => exact createRecordFromLegacy_named legacy now
      | some r => exact h.stored r hs
    have heq : SameLots row record := by
      rcases restored with hres | ⟨-, hprs⟩
      · exact restoreStoredRecord_same hres
      · exact parseStoredRecord_same hprs
    apply h.update
    · rintro r ⟨rfl⟩
      exact hnm
    · intro r hr
      rw [hr] at row_eq
      have hrow : row = r := row_eq
      exact ⟨row, rfl, hrow ▸ .refl hnm⟩
    · rw [acting_publish, opened]
      apply (tabOk_first none).publish (heq.precedes hnm).2.named
      · intro pub hp
        cases hp
      · exact ⟨row, rfl, heq.symm.precedes (heq.precedes hnm).2.named⟩
      · rfl
  | @initializeInMemory s t legacy now stored opened stored_eq =>
    have hlg := createRecordFromLegacy_named (P := P) legacy now
    apply h.update
    · intro row hrow
      rcases stored_eq with rfl | rfl
      · exact h.stored row hrow
      · cases hs : s.stored with
        | none =>
          rw [hs] at hrow
          exact some.inj hrow ▸ hlg
        | some r =>
          rw [hs] at hrow
          exact some.inj hrow ▸ h.stored r hs
    · intro r hr
      rcases stored_eq with rfl | rfl
      · exact ⟨r, hr, .refl (h.stored r hr)⟩
      · exact ⟨r, by rw [hr]; rfl, .refl (h.stored r hr)⟩
    · rw [acting_remember, opened]
      apply (tabOk_first none).remember hlg
      intro pub hp
      cases hp
  | @refresh s t admits pub row record hy persistent stored restored =>
    have hnm := h.stored row stored
    have heq := restoreStoredRecord_same restored
    have hp := h.publish (t := t) stored persistent hnm (.refl hnm)
      (heq.precedes hnm) (heq.symm.precedes (heq.precedes hnm).2.named)
    have hs : { s with stored := some row } = s := by rw [← stored]
    rwa [hs] at hp
  | @read s t row pub hy persistent stored =>
    apply h.updateTab
    have hact : (s.setTab t { s.tabs t with reading := some row }).acting t = s.acting t := by
      unfold acting
      rw [setTab_self, setTab_stored]
    rw [hact]
    exact ⟨(h.tabs t).published, (h.tabs t).acting, (h.tabs t).memory⟩
  | @retry s t row reading changed =>
    apply h.updateTab
    have hact : (s.setTab t { s.tabs t with reading := none }).acting t = s.acting t := by
      unfold acting
      rw [setTab_self, setTab_stored]
    rw [hact]
    exact ⟨(h.tabs t).published, (h.tabs t).acting, (h.tabs t).memory⟩
  | @commit s t op now admits row before after persistent reading unchanged loads accepted mutates =>
    have hnm := h.stored row unchanged
    have heq := CartOp.load_same loads
    have hb := heq.precedes hnm
    have ha := mutates.precedes hb.2.named
    have hrow : SameLots after (op.row P now row before) := mutates.after ▸ CartOp.row_same heq
    have hl := hrow.precedes ha.2.named
    exact h.publish unchanged persistent hl.2.named (hb.trans (ha.trans hl))
      (hb.trans ha) hl
  | @fallBack s t op now before after persistent pub remembers mutates =>
    exact h.remember pub (mutates.precedes ((h.tabs t).published_named pub))
  | @inMemory s t op now before after memory record remembers mutates =>
    have hp := ((h.tabs t).memory memory).symm.trans record
    exact h.remember hp (mutates.precedes ((h.tabs t).published_named hp))
  | @loseStorage s t now pub persistent hy clock =>
    exact h.remember hy
      (createMemoryRecord_precedes ((h.tabs t).published_named hy) clock)

structure Browser.Starts (s : Browser) : Prop where
  stored : ∀ row, s.stored = some row → row.Named
  tabs : ∀ t, s.tabs t = Tab.opened

lemma Browser.Starts.ok (h : s.Starts) : BrowserOk s where
  stored := h.stored
  tabs := by
    intro t
    rw [h.tabs t]
    exact tabOk_first _

lemma run_browserOk {s₀ : Browser} (h : s₀.Starts) (hr : Run (TabStep P) s₀ actions s) :
    BrowserOk s :=
  hr.invariant (fun _ _ _ hI hs => hs.ok hI) h.ok

lemma TabStep.mutates (hs : TabStep P (.mutate t op before after) s s') :
    ∃ now, Mutates P (s.tabs t) op now before after := by
  cases hs with
  | commit persistent reading unchanged loads accepted mutates => exact ⟨_, mutates⟩
  | fallBack persistent published remembers mutates => exact ⟨_, mutates⟩
  | inMemory memory record remembers mutates => exact ⟨_, mutates⟩

lemma TabStep.seen_precedes (h : BrowserOk s) (hs : TabStep P (.mutate t op before after) s s')
    : before.Named ∧ ∀ observed ∈ (s.tabs t).seen, Precedes observed before := by
  cases hs with
  | commit persistent reading unchanged loads accepted mutates =>
    have hb := (CartOp.load_same loads).precedes (h.stored _ unchanged)
    have ha := (acting_persistent persistent).trans unchanged
    exact ⟨hb.2.named, fun observed ho =>
      ((h.tabs t).seen_precedes ha observed ho).trans hb⟩
  | fallBack persistent pub remembers mutates =>
    refine ⟨(h.tabs t).published_named pub, ?_⟩
    intro observed ho
    obtain ⟨record, hr, hp⟩ := (h.tabs t).published observed ho
    rw [pub] at hr
    exact some.inj hr ▸ hp
  | inMemory memory record remembers mutates =>
    have hpub := ((h.tabs t).memory memory).symm.trans record
    refine ⟨(h.tabs t).published_named hpub, ?_⟩
    intro observed ho
    obtain ⟨pub, hr, hp⟩ := (h.tabs t).published observed ho
    rw [hpub] at hr
    exact some.inj hr ▸ hp

lemma TabStep.after_seen (hs : TabStep P (.mutate t op before after) s s') :
    after ∈ (s'.tabs t).seen := by
  cases hs with
  | commit persistent reading unchanged loads accepted mutates =>
    rw [setTab_self]
    exact .head _
  | fallBack persistent published remembers mutates =>
    rw [setTab_self]
    exact .head _
  | inMemory memory record remembers mutates =>
    rw [setTab_self]
    exact .head _

lemma seen_setTab (tab : Tab) (hs : (s.tabs t).seen ⊆ tab.seen) (t' : Nat) :
    (s.tabs t').seen ⊆ (({ s with stored := stored }.setTab t tab).tabs t').seen := by
  by_cases ht : t' = t
  · subst ht
    rw [setTab_self]
    exact hs
  · rw [setTab_ne _ tab ht]
    exact .refl _

lemma TabStep.seen_subset (hs : TabStep P action s s') (t' : Nat) :
    (s.tabs t').seen ⊆ (s'.tabs t').seen := by
  cases hs with
  | initializeStored => exact seen_setTab _ (subset_cons_self _ _) t'
  | initializeInMemory => exact seen_setTab _ (subset_cons_self _ _) t'
  | refresh => exact seen_setTab _ (subset_cons_self _ _) t'
  | @read s t row published hydr persistent stored =>
    exact seen_setTab { s.tabs t with reading := some row } (.refl _) t'
  | @retry s t row reading changed =>
    exact seen_setTab { s.tabs t with reading := none } (.refl _) t'
  | commit => exact seen_setTab _ (subset_cons_self _ _) t'
  | fallBack => exact seen_setTab _ (subset_cons_self _ _) t'
  | inMemory => exact seen_setTab _ (subset_cons_self _ _) t'
  | loseStorage => exact seen_setTab _ (subset_cons_self _ _) t'

lemma run_seen_subset (hr : Run (TabStep P) s actions s') (t : Nat) :
    (s.tabs t).seen ⊆ (s'.tabs t).seen :=
  hr.related (I := fun _ => True) (R := fun a b => (a.tabs t).seen ⊆ (b.tabs t).seen)
    (fun _ _ => .refl _) (fun _ _ _ hab hbc => Subset.trans hab hbc)
    (fun _ _ _ _ hs => ⟨trivial, hs.seen_subset t⟩) trivial

def CartOp.isRemoval : CartOp → Bool
  | .remove .. | .clear .. | .clearPurchase .. | .consume .. => true
  | _ => false

lemma purchaseAllocations_takenFrom (record : CanonicalCartRecord) (purchaseId : PurchaseId) :
    TakenFrom record (purchaseAllocations record purchaseId) := by
  intro alloc ha
  obtain ⟨line, hl, rfl⟩ := mem_map.1 ha
  exact ⟨line, mem_of_mem_filter hl, rfl⟩

lemma CartOp.ObservedIn.takenFrom (h : op.ObservedIn observed) :
    TakenFrom observed op.allocations := by
  cases op with
  | remove seen ident =>
    obtain rfl : seen = observed := h
    intro alloc ha
    obtain ⟨line, hl, rfl⟩ := mem_map.1 ha
    exact ⟨line, observedLine_mem (mem_toList.1 hl), rfl⟩
  | clear seen =>
    obtain rfl : seen = observed := h
    intro alloc ha
    obtain ⟨line, hl, rfl⟩ := mem_map.1 ha
    exact ⟨line, hl, rfl⟩
  | clearPurchase seen purchaseId =>
    obtain rfl : seen = observed := h
    exact purchaseAllocations_takenFrom seen purchaseId
  | consume claim =>
    have hc : claim.allocations = purchaseAllocations observed claim.purchaseId := h
    intro alloc ha
    rw [CartOp.allocations, hc] at ha
    exact purchaseAllocations_takenFrom observed claim.purchaseId alloc ha
  | changeFulfillment ident input revision => exact nofun
  | add input qty => exact nofun
  | increment ident qty evid => exact nofun
  | refreshAndIncrement ident input qty => exact nofun
  | install prop revision replaceExisting => exact nofun
  | decrement seen ident => exact nofun

lemma CartOp.next_of_isRemoval (hop : op.isRemoval = true) (now : Int)
    (record : CanonicalCartRecord) :
    op.next P now record = (removeAllocatedBatches op.allocations record).map (Cart.commit now) := by
  cases op with
  | remove seen identity => rfl
  | clear seen => rfl
  | clearPurchase seen purchaseId => rfl
  | consume claim => rfl
  | changeFulfillment identity input expectedRevision => cases hop
  | add input quantity => cases hop
  | increment identity quantity evidence => cases hop
  | refreshAndIncrement identity input quantity => cases hop
  | install proposed expectedRevision replaceExisting => cases hop
  | decrement seen identity => cases hop

structure OnlyTakes (op : CartOp) (observed before after : CanonicalCartRecord) : Prop where
  takes : lots after.lines = without (namedKeys op.allocations) (lots before.lines)
  bounded : ∀ key q, (key, q) ∈ lots before.lines → key ∈ namedKeys op.allocations →
    ∃ p, (key, p) ∈ lots observed.lines ∧ q ≤ p
  survives : ∀ key q, (key, q) ∈ lots before.lines → (∀ p, (key, p) ∉ lots observed.lines) →
    (key, q) ∈ lots after.lines

def TakesOneUnit (observed before after : CanonicalCartRecord) : Prop :=
  ∃ front key q back, lots before.lines = front ++ (key, q) :: back ∧
    lots after.lines = front ++ oneLess key q ++ back ∧ ∃ p, (key, p) ∈ lots observed.lines

def Observable (observed before : CanonicalCartRecord) : Prop :=
  observed.lines = [] ∨ Precedes observed before

lemma TakenFrom.takes_observable {allocations : List CartAllocation}
    (h : TakenFrom observed allocations) (hnm : before.Named) (ho : Observable observed before) :
    lots ((removeAllocatedBatches allocations before).getD before).lines =
      without (namedKeys allocations) (lots before.lines) := by
  rcases ho with he | hp
  · have hn : ∀ lot ∈ lots before.lines, lot.1 ∉ namedKeys allocations := by
      intro lot _ hk
      obtain ⟨q, hq⟩ := h.mem_lots hk
      rw [he] at hq
      cases hq
    rw [removeAllocatedBatches_eq_none hnm hn, without_eq_self hn]
    rfl
  · exact h.takes hp.1 hp.2

lemma Observable.bounded (h : Observable observed before) {key : Text × Text} {p q : Int}
    (hp : (key, p) ∈ lots observed.lines) (hq : (key, q) ∈ lots before.lines) :
    ∃ p, (key, p) ∈ lots observed.lines ∧ q ≤ p := by
  rcases h with he | hpr
  · rw [he] at hp
    cases hp
  · exact hpr.2.stems.bounded (hpr.1.not_fresh hp (le_refl _)) hq

lemma lots_getD_commit (next : Option CanonicalCartRecord) (now : Int)
    (before : CanonicalCartRecord) :
    lots ((next.map (Cart.commit now)).getD before).lines = lots (next.getD before).lines := by
  cases next with
  | none => rfl
  | some next => rfl

lemma onlyTakes_of_removal (hop : op.isRemoval = true) (ht : TakenFrom observed op.allocations)
    (hnm : before.Named) (ho : Observable observed before) :
    OnlyTakes op observed before ((op.next P now before).getD before) := by
  have hta : lots ((op.next P now before).getD before).lines =
      without (namedKeys op.allocations) (lots before.lines) := by
    rw [CartOp.next_of_isRemoval hop, lots_getD_commit]
    exact ht.takes_observable hnm ho
  refine ⟨hta, ?_, ?_⟩
  · intro key q hq hk
    obtain ⟨p, hp⟩ := ht.mem_lots hk
    exact ho.bounded hp hq
  · intro key q hq hn
    rw [hta]
    refine mem_without.2 ⟨hq, ?_⟩
    intro hk
    obtain ⟨p, hp⟩ := ht.mem_lots hk
    exact hn p hp

lemma decrement_takes {seen : CanonicalCartRecord} {ident : CartItemIdentity} :
    ((CartOp.decrement seen ident).next P now before).getD before = before ∨
      TakesOneUnit seen before
        (((CartOp.decrement seen ident).next P now before).getD before) := by
  change (((decrementCartRepositoryItem seen ident before).map (Cart.commit now)).getD before) =
    before ∨ TakesOneUnit seen before
      (((decrementCartRepositoryItem seen ident before).map (Cart.commit now)).getD before)
  cases hn : decrementCartRepositoryItem seen ident before with
  | none => exact .inl rfl
  | some next =>
    have ht := decrementCartRepositoryItem_takes hn
    exact .inr ht

variable {after : CanonicalCartRecord}

lemma OnlyTakes.gone {later : CanonicalCartRecord} (h : OnlyTakes op observed before after)
    (ht : TakenFrom observed op.allocations) (ho : Observable observed before)
    (ha : Precedes before after) (hl : Precedes after later) :
    ∀ lot ∈ lots later.lines, lot.1 ∉ namedKeys op.allocations := by
  rintro ⟨key, q⟩ hq hk
  obtain ⟨p, hp⟩ := ht.mem_lots hk
  rcases ho with he | hpr
  · rw [he] at hp
    cases hp
  · have hg : ¬ Fresh after.nextSequence key :=
      hpr.1.not_fresh hp (hpr.2.le.trans ha.2.le)
    apply hl.2.stems.gone hg ?_ q hq
    intro r hr
    rw [h.takes] at hr
    exact (mem_without.1 hr).2 hk

lemma TabStep.observable (h : BrowserOk s) (hs : TabStep P (.mutate t op before after) s s')
    (ho : (s.tabs t).Observed observed) : Observable observed before := by
  rcases ho with hse | he
  · exact .inr ((hs.seen_precedes h).2 observed hse)
  · exact .inl he

lemma consume_again {s' s₂ s₃ : Browser} {claim claim' : CartPurchaseClaim}
    {before₂ after₂ : CanonicalCartRecord} {later : List TabAction} (h : BrowserOk s)
    (hst : TabStep P (.mutate t (.consume claim) before after) s s')
    (ht : OnlyTakes (.consume claim) observed before after)
    (hta : TakenFrom observed claim.allocations) (ho : Observable observed before)
    (hr : Run (TabStep P) s' later s₂) (heq : claim'.allocations = claim.allocations)
    (ha : TabStep P (.mutate t (.consume claim') before₂ after₂) s₂ s₃) : after₂ = before₂ := by
  obtain ⟨now, hm⟩ := hst.mutates
  obtain ⟨now₂, hm₂⟩ := ha.mutates
  have hok₂ : BrowserOk s₂ := hr.invariant (fun _ _ _ hI hs => hs.ok hI) (hst.ok h)
  obtain ⟨hnm₂, hse₂⟩ := ha.seen_precedes hok₂
  have hl : Precedes after before₂ :=
    hse₂ after (run_seen_subset hr t hst.after_seen)
  have haf := hm.precedes (hst.seen_precedes h).1
  have hg := ht.gone hta ho haf hl
  have hn : (CartOp.consume claim').next P now₂ before₂ = none := by
    have hnot : removeAllocatedBatches claim'.allocations before₂ = none :=
      removeAllocatedBatches_eq_none hnm₂ (heq ▸ hg)
    exact congrArg (Option.map (Cart.commit now₂)) hnot
  rw [hm₂.after, hn]
  rfl

/-- A removal takes only what its tab observed, a decrement one such unit, and a consumed claim
nothing more. -/
theorem mutation_takes_observed {s₀ s s' : Browser} {actions : List TabAction} {t : Nat}
    {op : CartOp} {before after : CanonicalCartRecord} (hstart : s₀.Starts)
    (hrun : Run (TabStep P) s₀ actions s) (hstep : TabStep P (.mutate t op before after) s s') :
    ∃ observed, (s.tabs t).Observed observed ∧ op.ObservedIn observed ∧
      (observed ∈ (s.tabs t).seen → before.Follows observed) ∧ after.Follows before ∧
      (op.isRemoval = true → OnlyTakes op observed before after) ∧
      (∀ seen identity, op = .decrement seen identity →
        after = before ∨ TakesOneUnit observed before after) ∧
      (∀ claim, op = .consume claim →
        ∀ later claim' before₂ after₂ s₂ s₃, Run (TabStep P) s' later s₂ →
          claim'.allocations = claim.allocations →
          TabStep P (.mutate t (.consume claim') before₂ after₂) s₂ s₃ → after₂ = before₂) := by
  have hok := run_browserOk hstart hrun
  obtain ⟨now, hmutates⟩ := hstep.mutates
  obtain ⟨hnamed, hseen⟩ := hstep.seen_precedes hok
  obtain ⟨observed, hobserved, hin⟩ := hmutates.observed
  have hobservable := hstep.observable hok hobserved
  have hremoval : op.isRemoval = true → OnlyTakes op observed before after := by
    intro hop
    rw [hmutates.after]
    exact onlyTakes_of_removal hop hin.takenFrom hnamed hobservable
  refine ⟨observed, hobserved, hin, fun h => (hseen observed h).2, (hmutates.precedes hnamed).2,
    hremoval, ?_, ?_⟩
  · rintro seen identity rfl
    obtain rfl : seen = observed := hin
    rw [hmutates.after]
    exact decrement_takes
  · rintro claim rfl later claim' before₂ after₂ s₂ s₃ hrun₂ hsame hagain
    exact consume_again hok hstep (hremoval rfl) hin.takenFrom hobservable hrun₂ hsame hagain

namespace Sample

def browser : Browser := ⟨some cart, fun _ => Tab.opened⟩

def published : Browser := browser.setTab 0 (Tab.opened.publish .persistent cart)

def reading : Browser :=
  published.setTab 0 { Tab.opened.publish .persistent cart with reading := some cart }

lemma browser_starts : browser.Starts where
  stored := by
    rintro row ⟨rfl⟩
    refine ⟨?_, canonical_cart.lines.issued, canonical_cart.lines.lineIds, by decide⟩
    intro line hl
    have hls : line = mugLine 1 .shipping ∨ line = mugLine 3 (.eventMarketPickup pickup) := by
      simpa [cart] using hl
    rcases hls with rfl | rfl
    · exact ⟨by decide, by decide⟩
    · exact ⟨by decide, by decide⟩
  tabs := fun _ => rfl

lemma run_reading : Run (TabStep platform) browser
    [.initializeCartRepository 0, .read 0] reading := by
  have hr : restoreStoredRecord platform (fun _ => .verified) cart = .ok cart := by
    decide +kernel
  have hf : TabStep platform (.initializeCartRepository 0) browser published :=
    @TabStep.initializeStored platform browser 0 [] 0 _ cart cart rfl rfl (.inl hr)
  have hs : TabStep platform (.read 0) published reading :=
    @TabStep.read platform published 0 cart cart rfl rfl rfl
  exact .cons hf (.cons hs (.nil _))

end Sample

/-- A tab that clears the cart takes what the cart held. -/
theorem mutation_takes_observed_clear : OnlyTakes (.clear cart) cart cart
      (((CartOp.clear cart).next platform 700 cart).getD cart) := by
  have hloads : (CartOp.clear cart).load platform (fun _ => .verified)
      cart = .ok cart := by decide +kernel
  obtain ⟨observed, -, hin, -, -, hremoval, -, -⟩ :=
    mutation_takes_observed browser_starts run_reading
      (.commit (s := reading) (t := 0) rfl rfl rfl hloads nofun
        ⟨⟨cart, Or.inl mem_cons_self, rfl⟩, rfl⟩)
  obtain rfl : cart = observed := hin
  exact hremoval rfl

end Conduit.Cart
