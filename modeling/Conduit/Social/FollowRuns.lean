import Conduit.Social.FollowFacts

namespace Conduit.Social

open Js CheckoutSpark Runs Function Throwing List Option

structure Replaces (u : Update) (base : Option ListEvent) (e : ListEvent) : Prop where
  later : ∀ b, base = some b → b.createdAt < e.createdAt
  content : e.content = (base.map ListEvent.content).getD []
  tags : e.tags.filter (Kept u.targetPubkey u.app) =
    ((base.map ListEvent.tags).getD []).filter (Kept u.targetPubkey u.app)
  follows : ∀ pubkey, Follows (some e) pubkey ↔
    if pubkey = u.targetPubkey then u.shouldFollow = true else Follows base pubkey
  changes : Follows base u.targetPubkey ↔ u.shouldFollow = false

/-- The list was stored over a base at least as strong as the row, or over no row after a complete
empty read. -/
structure Stored (P : SocialPlatform) (st : Store) : Prop where
  verified : Verified P st.event
  replaces : Replaces st.update st.base st.event
  base : ∀ b, st.base = some b → Verified P b ∧ ∀ r, st.before = some r → AtLeast b r.event
  first : st.base = none → st.before = none ∧ CompleteEmptyRead st.read

def Lists.storedEvents (s : Lists) : List ListEvent := s.stores.map Store.event

structure Known (P : SocialPlatform) (stored : List ListEvent) (x : Snapshot) : Prop where
  verified : Verified P x.event
  pending : x.state = .pending → x.event ∈ stored

structure ReadOk (P : SocialPlatform) (stored : List ListEvent) (read : FollowListAuthorRead) :
    Prop where
  event : ∀ e, read.event = some e → Verified P e ∧ (read.snapshotState = .pending → e ∈ stored)
  safety : ∀ x, read.ownerSafetySnapshot = some x → Known P stored x

structure Decided (P : SocialPlatform) (u : Update) (read : FollowListAuthorRead)
    (base : Option ListEvent) : Prop where
  verified : ∀ b, base = some b → Verified P b
  first : base = none → CompleteEmptyRead read
  changes : Follows base u.targetPubkey ↔ u.shouldFollow = false

variable (P : SocialPlatform)

def PurposeOk (stored : List ListEvent) (x : Snapshot) : Purpose → Prop
  | .observing read _ => Known P stored x ∧ ReadOk P stored read
  | .storing u read base => Verified P x.event ∧ Replaces u base x.event ∧ Decided P u read base
  | .acknowledging => Known P stored x

def AnswerOk (a : RelayAnswer) : Prop :=
  ∀ f, a.fetched = some f → ∀ e ∈ f.verifiedContactLists, Verified P e

def PhaseOk (stored : List ListEvent) : Phase → Prop
  | .fetching => True
  | .loading a _ => AnswerOk P a
  | .admitting a _ x => AnswerOk P a ∧ ∀ y, x = some y → Known P stored y
  | .getting x purpose | .verifying x purpose _ | .committing x purpose _ _ =>
    PurposeOk P stored x purpose
  | .signing u read base createdAt tags content => Decided P u read base ∧
    ∀ e : ListEvent, e.createdAt = createdAt → e.tags = tags → e.content = content →
      Replaces u base e
  | .publishing e | .acking e => Verified P e ∧ e ∈ stored

structure Inv (P : SocialPlatform) (s : Lists) : Prop where
  row : ∀ r, s.row = some r → Known P s.storedEvents r
  memory : ∀ tab x, s.memory tab = some x → Known P s.storedEvents x
  running : ∀ c phase, s.running c = some phase → c.Ok ∧ PhaseOk P s.storedEvents phase
  stores : ∀ st ∈ s.stores, Stored P st
  kept : ∀ st ∈ s.stores, ∃ r, s.row = some r ∧ AtLeast r.event st.event
  distinct : s.stores.Pairwise fun x y => x.base.map ListEvent.id ≠ y.base.map ListEvent.id
  handed : ∀ e ∈ s.handed, e ∈ s.storedEvents

section
variable {P : SocialPlatform} {s t : Lists} {c : Call} {stored more : List ListEvent}
  {x : Snapshot} {read : FollowListAuthorRead} {u : Update} {base : Option ListEvent}

lemma Known.mono (h : Known P stored x) (hs : stored ⊆ more) : Known P more x :=
  ⟨h.verified, fun hp => hs (h.pending hp)⟩

lemma ReadOk.mono (h : ReadOk P stored read) (hs : stored ⊆ more) : ReadOk P more read :=
  ⟨fun e he => ⟨(h.event e he).1, fun hp => hs ((h.event e he).2 hp)⟩,
    fun x hx => (h.safety x hx).mono hs⟩

variable {a : RelayAnswer} {now : Int} {purpose : Purpose}

lemma PurposeOk.mono (h : PurposeOk P stored x purpose) (hs : stored ⊆ more) :
    PurposeOk P more x purpose := by
  cases purpose with
  | observing read observed => exact ⟨h.1.mono hs, h.2.mono hs⟩
  | storing u read base => exact h
  | acknowledging => exact Known.mono h hs

variable {persisted : Snapshot} {phase : Phase} {tab : Nat}

lemma PhaseOk.mono (h : PhaseOk P stored phase) (hs : stored ⊆ more) : PhaseOk P more phase := by
  cases phase with
  | fetching => exact h
  | loading a now => exact h
  | admitting a now y => exact ⟨h.1, fun z hz => (h.2 z hz).mono hs⟩
  | getting x purpose => exact PurposeOk.mono h hs
  | verifying x purpose before => exact PurposeOk.mono h hs
  | committing x purpose before verified => exact PurposeOk.mono h hs
  | signing u read base createdAt tags content => exact h
  | publishing e => exact ⟨h.1, hs h.2⟩
  | acking e => exact ⟨h.1, hs h.2⟩

lemma known_choose {left : Option Snapshot} {right : Snapshot}
    (hl : ∀ y, left = some y → Known P stored y) (hr : Known P stored right) :
    Known P stored (chooseStrongestOwnContactListSnapshot left right) := by
  constructor
  · rcases choose_event left right with heq | heq
    · rw [heq]
      exact hr.verified
    · exact (hl _ heq).verified
  · intro hp
    rcases choose_pending hp with ⟨hst, heq⟩ | heq
    · rw [heq]
      exact hr.pending hst
    · exact (hl _ heq).pending hp

lemma replaces_of_draft (htgt : IsHex64 u.targetPubkey)
    (hchg : Follows base u.targetPubkey ↔ u.shouldFollow = false) {e : ListEvent}
    (hti : e.createdAt = max now ((base.map ListEvent.createdAt).getD (-1) + 1))
    (ht : e.tags = appendConduitClientTag (buildContactListUpdateTags
      ((base.map ListEvent.tags).getD []) u.targetPubkey u.shouldFollow) u.app)
    (hc : e.content = (base.map ListEvent.content).getD []) : Replaces u base e := by
  constructor
  · rintro b rfl
    rw [hti, map_some, getD_some]
    omega
  · exact hc
  · rw [ht, kept_append, kept_build htgt]
  · intro pubkey
    unfold Follows
    rw [map_some, getD_some, ht, follows_append, follows_build htgt]
  · exact hchg

lemma publishable_base {latest : Option ListEvent}
    (h : requirePublishableContactListSnapshot P read = some latest) :
    read.ownerSafetySnapshot = none ∧ read.event = latest ∧
      (latest = none → CompleteEmptyRead read) := by
  unfold requirePublishableContactListSnapshot at h
  split at h
  · cases h
  · next hs =>
    have hn : read.ownerSafetySnapshot = none := by simpa using hs
    split at h
    · next he =>
      cases h
      exact ⟨hn, he.1, fun _ => he⟩
    · split at h
      · cases h
      · next event hev =>
        split at h
        · cases h
          exact ⟨hn, hev, nofun⟩
        · cases h

lemma decideUpdate_ok (htgt : IsHex64 u.targetPubkey) (hread : ReadOk P stored read)
    (h : decideUpdate P u read now = some phase) : PhaseOk P stored phase := by
  unfold decideUpdate at h
  split at h
  · next event state hs =>
    split at h
    · next hp =>
      subst hp
      cases h
      obtain ⟨hs, -⟩ := filter_eq_some_iff.1 hs
      unfold strongestOwner at hs
      split at hs
      · next snapshot hsaf =>
        have hkn := hread.safety snapshot hsaf
        simp only [some.injEq, Prod.mk.injEq] at hs
        obtain ⟨rfl, hst⟩ := hs
        refine ⟨hkn.verified, hkn.pending ?_⟩
        cases hsn : snapshot.state with
        | observed =>
          rw [hsn] at hst
          cases hst
        | pending => rfl
      · obtain ⟨e, he, heq⟩ := map_eq_some_iff.1 hs
        simp only [Prod.mk.injEq] at heq
        obtain ⟨rfl, hst⟩ := heq
        exact ⟨(hread.event _ he).1, (hread.event _ he).2 hst⟩
    · cases h
  · next hs =>
    split at h
    · cases h
    · next latest hpub =>
      obtain ⟨hsaf, hev, hemp⟩ := publishable_base hpub
      split at h
      · cases h
      · next hn =>
        cases h
        unfold strongestOwner at hs
        rw [hsaf] at hs
        have hc : Follows latest u.targetPubkey ↔ u.shouldFollow = false := by
          cases latest with
          | none =>
            have hflw : u.shouldFollow = true := by
              by_contra hf
              exact hn ⟨rfl, Bool.eq_false_iff.2 hf⟩
            rw [hflw]
            simp [Follows, extractFollowPubkeys]
          | some e =>
            rw [hev, map_some, filter_eq_none_iff] at hs
            have hd := hs _ rfl
            cases hsh : u.shouldFollow <;> simpa [hsh] using hd
        refine ⟨⟨fun b hb => ?_, hemp, hc⟩, fun e ht hta hco =>
          replaces_of_draft htgt hc ht hta hco⟩
        exact (hread.event b (hev.trans hb)).1

lemma authorRead_ok (ha : AnswerOk P a) (now : Int) : ReadOk P stored (authorRead a now) := by
  unfold authorRead
  split
  · exact ⟨nofun, nofun⟩
  · next f hf =>
    refine ⟨fun e he => ⟨?_, fun hp => ?_⟩, nofun⟩
    · exact ha f hf e (mem_filter.1 (selectLatest_mem he)).1
    · dsimp only at hp
      split at hp <;> cases hp

lemma networkSnapshot_mem (h : networkSnapshot a now = some x) :
    x.state = .observed ∧ ∃ f, a.fetched = some f ∧ x.event ∈ f.verifiedContactLists := by
  unfold networkSnapshot at h
  split at h
  · next event sourceRelayUrls hfr =>
    cases h
    obtain ⟨f, hf, hfr⟩ := bind_eq_some_iff.1 hfr
    obtain ⟨e, he, heq⟩ := map_eq_some_iff.1 hfr
    cases heq
    exact ⟨rfl, f, hf, selectLatest_mem he⟩
  · obtain ⟨e, he, rfl⟩ := map_eq_some_iff.1 h
    obtain ⟨he, -⟩ := filter_eq_some_iff.1 he
    unfold authorRead at he
    split at he
    · cases he
    · next f hf => exact ⟨rfl, f, hf, (mem_filter.1 (selectLatest_mem he)).1⟩

lemma networkSnapshot_known (ha : AnswerOk P a) (h : networkSnapshot a now = some x) :
    Known P stored x := by
  obtain ⟨hst, f, hf, hm⟩ := networkSnapshot_mem h
  refine ⟨ha f hf _ hm, fun hp => ?_⟩
  rw [hst] at hp
  cases hp

section

variable (hread : ReadOk P stored read)
include hread

lemma withRetained_ok {winner : Option Snapshot} (hw : ∀ y, winner = some y → Known P stored y)
    (now : Int) : ReadOk P stored (withRetained read winner now) := by
  unfold withRetained
  split
  · exact hread
  · next y =>
    have hkn := hw y rfl
    split
    · refine ⟨hread.event, fun z hz => ?_⟩
      cases hz
      exact hkn
    · refine ⟨fun e he => ?_, hread.safety⟩
      cases he
      refine ⟨hkn.verified, fun hst => hkn.pending ?_⟩
      cases hs : y.state with
      | observed =>
        rw [hs] at hst
        cases hst
      | pending => rfl

lemma withPersisted_ok {seen : ListEvent} (hp : Known P stored x) (now : Int) :
    ReadOk P stored (withPersisted read seen x now) := by
  unfold withPersisted
  split
  · refine ⟨fun e he => ?_, hread.safety⟩
    cases he
    exact ⟨hp.verified, nofun⟩
  · apply withRetained_ok hread
    intro y hy
    cases hy
    exact hp

lemma withoutRetained_ok : ReadOk P stored (withoutRetained read) :=
  ⟨hread.event, hread.safety⟩

end

section

variable (h : Inv P s)
include h

lemma Inv.setPhase {phase : Option Phase} (hok : phase ≠ none → c.Ok)
    (hph : ∀ ph, phase = some ph → PhaseOk P s.storedEvents ph) : Inv P (setPhase s c phase) where
  row := h.row
  memory := h.memory
  running d ph hd := by
    have hp : update s.running c phase d = some ph := hd
    rw [update_apply] at hp
    split at hp
    · next hdc =>
      subst hdc
      exact ⟨hok (hp ▸ some_ne_none ph), hph ph hp⟩
    · exact h.running d ph hp
  stores := h.stores
  kept := h.kept
  distinct := h.distinct
  handed := h.handed

lemma Inv.advance {ph ph' : Phase} (hc : s.running c = some ph)
    (hn : PhaseOk P s.storedEvents ph → PhaseOk P s.storedEvents ph') :
    Inv P (Social.setPhase s c (some ph')) := by
  obtain ⟨hok, hph⟩ := h.running c ph hc
  refine h.setPhase (fun _ => hok) fun ph'' heq => ?_
  cases heq
  exact hn hph

lemma Inv.stop : Inv P (Social.setPhase s c none) :=
  h.setPhase (fun hne => absurd rfl hne) fun _ hph => absurd hph (some_ne_none _).symm

lemma Inv.remember (hx : Known P s.storedEvents x) : Inv P (remember s tab x) where
  row := h.row
  memory other y hy := by
    have hm : update s.memory tab
        (some (chooseStrongestOwnContactListSnapshot (s.memory tab) x)) other = some y := hy
    rw [update_apply] at hm
    split at hm
    · cases hm
      exact known_choose (h.memory tab) hx
    · exact h.memory other y hm
  running := h.running
  stores := h.stores
  kept := h.kept
  distinct := h.distinct
  handed := h.handed

lemma Inv.finishRead (hok : c.Ok) (hread : ReadOk P s.storedEvents read) (now : Int) :
    Inv P (finishRead P s c read now) := by
  refine h.setPhase (fun _ => hok) fun ph hph => ?_
  obtain ⟨u, hu, hph⟩ := bind_eq_some_iff.1 hph
  exact decideUpdate_ok (hok u hu) hread hph

end

lemma remember_memory : (remember s tab x).memory tab =
    some (chooseStrongestOwnContactListSnapshot (s.memory tab) x) :=
  update_self ..

lemma Inv.preserve (h : Inv P s) (hok : c.Ok) (ha : AnswerOk P a) {retained : Option Snapshot}
    (hr : ∀ y, retained = some y → Known P s.storedEvents y) (readAt now : Int) :
    Inv P (preserve P s c a readAt now retained) := by
  unfold Social.preserve
  split
  · next observed ho =>
    have hkn : Known P s.storedEvents observed :=
      networkSnapshot_known ha (filter_eq_some_iff.1 ho).1
    refine h.setPhase (fun _ => hok) fun ph hph => ?_
    cases hph
    exact ⟨hkn, authorRead_ok ha readAt⟩
  · exact h.finishRead hok (withRetained_ok (authorRead_ok ha readAt) hr now) now

lemma Inv.loaded (h : Inv P s) (hok : c.Ok) (ha : AnswerOk P a) {found : Option Snapshot}
    (hf : ∀ y, found = some y → Known P s.storedEvents y) (readAt now : Int) :
    Inv P (loaded P s c a readAt now found) := by
  have hc : ∀ y, chooseLoaded s c.tab found = some y → Known P s.storedEvents y := by
    intro y hy
    cases found with
    | none => exact h.memory c.tab y hy
    | some snapshot =>
      cases hy
      exact known_choose (h.memory c.tab) (hf snapshot rfl)
  unfold Social.loaded
  cases hl : chooseLoaded s c.tab found with
  | none => exact h.preserve hok ha (fun _ hy => absurd hy (some_ne_none _).symm) readAt now
  | some snapshot =>
    have hr : Inv P (Social.remember s c.tab snapshot) :=
      h.remember (hc snapshot hl)
    exact hr.preserve hok ha (fun y hy => hr.memory c.tab y hy) readAt now

lemma chooseAfterBaseCheck_eq_some {before current : Option Snapshot} {verified : Bool}
    {expected : Option (Option ListEvent)} {chosen : Snapshot}
    (h : chooseAfterBaseCheck before current verified expected x = some chosen) :
    chosen = chooseStrongestOwnContactListSnapshot current x ∧ BaseHolds current expected := by
  unfold chooseAfterBaseCheck at h
  split at h
  · cases h
  · next hc =>
    rw [not_or, not_or, Decidable.not_not] at hc
    exact ⟨(some.inj h).symm, hc.2.2⟩

lemma base_atLeast (hi : ∀ e e' : ListEvent, Verified P e → Verified P e' → e.id = e'.id →
      e.createdAt = e'.createdAt) {row : Snapshot} {b : ListEvent} (hr : Verified P row.event)
    (hb : Verified P b) (h : BaseHolds (some row) (some (some b))) : AtLeast b row.event := by
  unfold BaseHolds at h
  dsimp only at h
  rw [selectLatest_pair, map_some, some.injEq] at h
  split at h
  · next hs => exact hs.atLeast
  · have htime := hi _ _ hr hb h
    rintro (hlt | ⟨-, -, hne⟩)
    · omega
    · exact hne h

/-- The order that the transaction keeps. -/
def RowKept (s t : Lists) : Prop :=
  ∀ r, s.row = some r → ∃ r', t.row = some r' ∧ AtLeast r'.event r.event

lemma RowKept.of_eq (h : t.row = s.row) : RowKept s t :=
  fun r hr => ⟨r, h.trans hr, AtLeast.refl _⟩

lemma Inv.putRow (h : Inv P s) (hx : Known P s.storedEvents x) : Inv P { s with
    row := some (chooseStrongestOwnContactListSnapshot s.row x) } where
  row r hr := by
    cases hr
    exact known_choose h.row hx
  memory := h.memory
  running := h.running
  stores := h.stores
  kept st hst := by
    obtain ⟨r, hr, hat⟩ := h.kept st hst
    exact ⟨_, rfl, ((choose_atLeast s.row x).2 r hr).trans hat⟩
  distinct := h.distinct
  handed := h.handed

lemma Inv.putNew (h : Inv P s) (hi : ∀ e e' : ListEvent, Verified P e → Verified P e' →
      e.id = e'.id → e.createdAt = e'.createdAt) (hv : Verified P x.event)
    (hrep : Replaces u base x.event) (hd : Decided P u read base)
    (hba : BaseHolds s.row (some base)) :
    (chooseStrongestOwnContactListSnapshot s.row x).event = x.event ∧ Inv P { s with
      row := some (chooseStrongestOwnContactListSnapshot s.row x)
      stores := s.stores ++ [⟨x.event, u, read, base, s.row⟩] } := by
  have hstr : ∀ b, base = some b → ∀ r, s.row = some r → AtLeast b r.event := by
    intro b hb r hr
    rw [hb, hr] at hba
    exact base_atLeast hi (h.row r hr).verified (hd.verified b hb) hba
  -- The row is no stronger than the base, and the new list is dated after the base.
  have hnew : ∀ r, s.row = some r → r.event.createdAt < x.event.createdAt := by
    intro r hr
    cases base with
    | none =>
      rw [hr] at hba
      exact absurd hba id
    | some b =>
      have hle := (hstr b rfl r hr).createdAt
      have hlt := hrep.later b rfl
      omega
  have hch : (chooseStrongestOwnContactListSnapshot s.row x).event = x.event := by
    rcases choose_event s.row x with heq | heq
    · exact heq
    · have hlt := hnew _ heq
      have hle := (choose_atLeast s.row x).1.createdAt
      omega
  refine ⟨hch, ?_⟩
  have hm : s.storedEvents ⊆
      (s.stores ++ [(⟨x.event, u, read, base, s.row⟩ : Store)]).map Store.event := by
    rw [map_append]
    exact subset_append_left _ _
  have hmem : x.event ∈
      (s.stores ++ [(⟨x.event, u, read, base, s.row⟩ : Store)]).map Store.event := by
    simp
  constructor
  · intro r hr
    cases hr
    apply known_choose
    · exact fun y hy => (h.row y hy).mono hm
    · exact ⟨hv, fun _ => hmem⟩
  · exact fun tab y hy => (h.memory tab y hy).mono hm
  · exact fun c ph hc => ⟨(h.running c ph hc).1, (h.running c ph hc).2.mono hm⟩
  · intro st hst
    rcases mem_append.1 hst with hst | hst
    · exact h.stores st hst
    · rw [mem_singleton] at hst
      subst hst
      refine ⟨hv, hrep, fun b hb => ⟨hd.verified b hb, hstr b hb⟩, fun hn => ⟨?_, hd.first hn⟩⟩
      subst hn
      cases hrow : s.row with
      | none => rfl
      | some r =>
        rw [hrow] at hba
        exact absurd hba id
  · intro st hst
    refine ⟨_, rfl, ?_⟩
    rcases mem_append.1 hst with hst | hst
    · obtain ⟨r, hr, hat⟩ := h.kept st hst
      exact ((choose_atLeast s.row x).2 r hr).trans hat
    · rw [mem_singleton] at hst
      subst hst
      exact (choose_atLeast s.row x).1
  · -- An earlier new list over the same base is in the row, or below it, and later than the base.
    apply pairwise_append.2
    refine ⟨h.distinct, pairwise_singleton _ _, fun st hst st' hst' hs => ?_⟩
    rw [mem_singleton] at hst'
    subst hst'
    obtain ⟨r, hr, hat⟩ := h.kept st hst
    cases hb : base with
    | none =>
      rw [hb, hr] at hba
      exact absurd hba id
    | some b =>
      rw [hb, map_some] at hs
      obtain ⟨b', hb', hid⟩ := map_eq_some_iff.1 hs
      have htime := hi _ _ ((h.stores st hst).base b' hb').1 (hd.verified b hb) hid
      have hlat := (h.stores st hst).replaces.later b' hb'
      have hrow := (hstr b hb r hr).createdAt
      have hkept := hat.createdAt
      omega
  · exact fun e he => hm (h.handed e he)

/-- What a call needs once its snapshot was persisted. -/
def AfterOk (P : SocialPlatform) (stored : List ListEvent) (x : Snapshot) : Purpose → Prop
  | .observing read _ => ReadOk P stored read
  | .storing .. => Verified P x.event ∧ x.event ∈ stored
  | .acknowledging => True

lemma Inv.afterPersist (h : Inv P s) (hok : c.Ok) (purpose : Purpose)
    (hper : Known P s.storedEvents persisted) (hp : AfterOk P s.storedEvents x purpose)
    (now : Int) : Inv P (afterPersist P s c x persisted purpose now) := by
  cases purpose with
  | observing read observed => exact h.finishRead hok (withPersisted_ok hp hper now) now
  | storing u read base =>
    apply h.setPhase fun _ => hok
    intro ph hph
    split at hph
    · cases hph
      exact hp
    · cases hph
  | acknowledging => exact h.stop

lemma afterPersist_row : (afterPersist P s c x persisted purpose now).row = s.row := by
  cases purpose <;> rfl

lemma Inv.commit (h : Inv P s) (hinj : ∀ e e' : ListEvent, Verified P e → Verified P e' →
      e.id = e'.id → e.createdAt = e'.createdAt) (hok : c.Ok)
    (hp : PurposeOk P s.storedEvents x purpose) (before : Option Snapshot)
    (verified succeeds : Bool) (now : Int) :
    Inv P (commit P s c x purpose before verified succeeds now) ∧
      RowKept s (commit P s c x purpose before verified succeeds now) := by
  have hrem : ∀ {t : Lists} {y : Snapshot}, Inv P t → Known P t.storedEvents y →
      Inv P (Social.remember t c.tab y) ∧
        Known P t.storedEvents (((Social.remember t c.tab y).memory c.tab).getD y) := by
    intro t y ht hy
    have hi : Inv P (Social.remember t c.tab y) := ht.remember hy
    refine ⟨hi, ?_⟩
    rw [remember_memory, getD_some]
    exact known_choose (ht.memory c.tab) hy
  have hch : ∀ y, s.row = some y →
      AtLeast (chooseStrongestOwnContactListSnapshot s.row x).event y.event :=
    (choose_atLeast s.row x).2
  unfold Social.commit
  dsimp only
  split
  · next chosen hc =>
    obtain ⟨hc, -⟩ := filter_eq_some_iff.1 hc
    obtain ⟨rfl, hb⟩ := chooseAfterBaseCheck_eq_some hc
    refine ⟨?_, fun r hr => ⟨_, afterPersist_row, hch r hr⟩⟩
    cases purpose with
    | observing read observed =>
      have hput := h.putRow hp.1
      obtain ⟨hi, hkn⟩ := hrem hput (known_choose h.row hp.1)
      exact hi.afterPersist hok (.observing read observed) hkn hp.2 now
    | storing u read base =>
      obtain ⟨hv, hrep, hd⟩ := hp
      obtain ⟨hev, hput⟩ := h.putNew hinj hv hrep hd hb
      have hs : x.event ∈
          (s.stores ++ [(⟨x.event, u, read, base, s.row⟩ : Store)]).map Store.event := by
        simp
      dsimp only
      rw [if_pos hev]
      obtain ⟨hi, hkn⟩ := hrem hput (hput.row _ rfl)
      exact hi.afterPersist hok (.storing u read base) hkn ⟨hv, hs⟩ now
    | acknowledging =>
      have hput := h.putRow hp
      obtain ⟨hi, hkn⟩ := hrem hput (known_choose h.row hp)
      exact hi.afterPersist hok .acknowledging hkn trivial now
  · split
    · exact ⟨h.stop, RowKept.of_eq rfl⟩
    · -- The transaction failed: the call goes on with what its own tab remembers.
      next hreq =>
      refine ⟨?_, RowKept.of_eq afterPersist_row⟩
      cases purpose with
      | observing read observed =>
        obtain ⟨hi, hkn⟩ := hrem h hp.1
        exact hi.afterPersist hok (.observing read observed) hkn hp.2 now
      | storing u read base => exact absurd rfl hreq
      | acknowledging =>
        obtain ⟨hi, hkn⟩ := hrem h hp
        exact hi.afterPersist hok .acknowledging hkn trivial now

lemma inv_start : Inv P .start where
  row _ := nofun
  memory _ _ := nofun
  running _ _ := nofun
  stores _ := nofun
  kept _ := nofun
  distinct := Pairwise.nil
  handed _ := nofun

lemma Inv.step (h : Inv P s) (hi : ∀ e e' : ListEvent, Verified P e → Verified P e' →
      e.id = e'.id → e.createdAt = e'.createdAt) {event : Event} (ha : act P s event = some t) :
    Inv P t ∧ RowKept s t := by
  cases event with
  | begins c =>
    simp only [act, run_gives, some.injEq] at ha
    obtain ⟨⟨-, hok⟩, rfl⟩ := ha
    refine ⟨h.setPhase (fun _ => hok) fun ph hph => ?_, RowKept.of_eq rfl⟩
    cases hph
    trivial
  | answers c answer now =>
    simp only [act, run_gives, some.injEq] at ha
    obtain ⟨⟨hp, hans⟩, rfl⟩ := ha
    exact ⟨h.advance hp fun _ => hans, RowKept.of_eq rfl⟩
  | loads c succeeds =>
    simp only [act] at ha
    split at ha
    · next answer now hp =>
      cases ha
      refine ⟨h.advance hp fun hans => ⟨hans, fun y hy => ?_⟩, RowKept.of_eq rfl⟩
      exact h.row y (filter_eq_some_iff.1 hy).1
    · cases ha
  | admits c verified now =>
    simp only [act] at ha
    split at ha
    · next answer readAt found hp =>
      obtain ⟨hok, hans, hf⟩ := h.running c _ hp
      split at ha
      · cases ha
        exact ⟨h.finishRead hok (withoutRetained_ok (authorRead_ok hans readAt)) now,
          RowKept.of_eq rfl⟩
      · cases ha
        refine ⟨h.loaded hok hans hf readAt now, RowKept.of_eq ?_⟩
        unfold Social.loaded Social.preserve
        cases chooseLoaded s c.tab found with
        | none =>
          dsimp only
          split <;> rfl
        | some snapshot =>
          dsimp only
          split <;> rfl
    · cases ha
  | gets c =>
    simp only [act] at ha
    split at ha
    · next snapshot purpose hp =>
      cases ha
      exact ⟨h.advance hp fun hok => hok, RowKept.of_eq rfl⟩
    · cases ha
  | verifies c verified =>
    simp only [act] at ha
    split at ha
    · next snapshot purpose before hp =>
      cases ha
      exact ⟨h.advance hp fun hok => hok, RowKept.of_eq rfl⟩
    · cases ha
  | commits c succeeds now =>
    simp only [act] at ha
    split at ha
    · next snapshot purpose before verified hp =>
      cases ha
      obtain ⟨hok, hpur⟩ := h.running c _ hp
      exact h.commit hi hok hpur before verified succeeds now
    · cases ha
  | signs c event now =>
    simp only [act] at ha
    split at ha
    · next update read base createdAt tags content hp =>
      simp only [run_gives, some.injEq] at ha
      obtain ⟨⟨hv, ht, hta, hc⟩, rfl⟩ := ha
      refine ⟨h.advance hp fun hs => ?_, RowKept.of_eq rfl⟩
      exact ⟨hv, hs.2 event ht hta hc, hs.1⟩
    · cases ha
  | hands c =>
    simp only [act] at ha
    split at ha
    · next event hp =>
      cases ha
      have hsto := (h.running c _ hp).2.2
      have hn : Inv P (Social.setPhase s c (some (.acking event))) :=
        h.advance hp fun hok => hok
      refine ⟨⟨hn.row, hn.memory, hn.running, hn.stores, hn.kept, hn.distinct,
        fun e he => ?_⟩, RowKept.of_eq rfl⟩
      rcases mem_append.1 he with he | he
      · exact h.handed e he
      · rw [mem_singleton] at he
        subst he
        exact hsto
    · cases ha
  | acks c urls now =>
    simp only [act] at ha
    split at ha
    · next event hp =>
      simp only [run_gives, some.injEq] at ha
      obtain ⟨-, rfl⟩ := ha
      exact ⟨h.advance hp fun hok => ⟨hok.1, nofun⟩, RowKept.of_eq rfl⟩
    · cases ha
  | stops c =>
    cases ha
    exact ⟨h.stop, RowKept.of_eq rfl⟩
  | forgets tab =>
    cases ha
    refine ⟨⟨h.row, fun other x hx => ?_, h.running, h.stores, h.kept, h.distinct, h.handed⟩,
      RowKept.of_eq rfl⟩
    have hm : update s.memory tab none other = some x := hx
    rw [update_apply] at hm
    split at hm
    · cases hm
    · exact h.memory other x hm

end

end Conduit.Social
