import Conduit.Social.FollowRuns

namespace Conduit.Social

open Js CheckoutSpark Runs Function Option

section
variable {P : SocialPlatform} {s t : Lists} {c : Call}

def IdsDistinguish (P : SocialPlatform) : Prop :=
  ∀ e e' : ListEvent, Verified P e → Verified P e' → e.id = e'.id → e.createdAt = e'.createdAt

variable {read : FollowListAuthorRead} {r y : Snapshot} {u : Update} {now : Int}

lemma choose_keeps {left : Option Snapshot} (hp : r.state = .pending)
    (hl : ∀ m, left = some m → Stronger r.event m.event ∨ m.event = r.event ∧
    m.state = .pending) : (chooseStrongestOwnContactListSnapshot left r).event = r.event ∧
      (chooseStrongestOwnContactListSnapshot left r).state = .pending := by
  unfold chooseStrongestOwnContactListSnapshot
  split
  · exact ⟨rfl, hp⟩
  · next m =>
    rcases hl m rfl with hs | ⟨hev, hst⟩
    · have hne : m.event ≠ r.event := by
        intro heq
        rw [heq] at hs
        exact AtLeast.refl _ hs
      rw [if_neg hne, selectLatest_pair, if_pos hs, if_pos rfl]
      exact ⟨rfl, hp⟩
    · rw [if_pos hev]
      refine ⟨rfl, ?_⟩
      rw [hst, hp]
      rfl

lemma choose_retains {observed : Snapshot} (h : Stronger y.event observed.event) :
    chooseStrongestOwnContactListSnapshot (some y) observed = y := by
  have hne : y.event ≠ observed.event := by
    intro heq
    rw [heq] at h
    exact AtLeast.refl _ h
  unfold chooseStrongestOwnContactListSnapshot
  dsimp only
  rw [if_neg hne, selectLatest_pair, if_neg h.atLeast, if_neg fun heq => hne (some.inj heq)]

lemma strongestOwner_retained (hs : read.ownerSafetySnapshot = none) (now : Int) :
    strongestOwner (withRetained read (some y) now) = some (y.event, y.state.toRead) := by
  unfold withRetained
  dsimp only
  split
  · rfl
  · unfold strongestOwner
    rw [hs]
    rfl

lemma decideUpdate_pending {e : ListEvent} (hstr : strongestOwner read = some (e, .pending))
    (hfol : Follows (some e) u.targetPubkey ↔ u.shouldFollow = true) :
    decideUpdate P u read now = some (.publishing e) := by
  have hm : (decide (Follows (some e) u.targetPubkey) == u.shouldFollow) = true := by
    rw [beq_iff_eq]
    cases hs : u.shouldFollow with
    | true => exact decide_eq_true (hfol.2 hs)
    | false => exact decide_eq_false fun hf => by simp [hfol.1 hf] at hs
  unfold decideUpdate
  rw [hstr, filter_some, if_pos hm]
  rfl

lemma Inv.repeats (h : Inv P s) (hi : IdsDistinguish P) {a : RelayAnswer} {readAt : Int}
    (hph : s.running c = some (.admitting a readAt (some r))) (hu : c.update = some u)
    (hp : r.state = .pending) (hfol : Follows (some r.event) u.targetPubkey ↔ u.shouldFollow = true)
    (hm : ∀ m, s.memory c.tab = some m →
      Stronger r.event m.event ∨ m.event = r.event ∧ m.state = .pending)
    (hans : ∀ f, a.fetched = some f → ∀ e ∈ f.verifiedContactLists, Stronger r.event e)
    (hact : act P s (.admits c true now) = some t) :
    t.running c = some (.publishing r.event) ∧ t.stores = s.stores := by
  obtain ⟨-, hv, hkn⟩ := h.running c _ hph
  have hr := hkn r rfl
  simp only [act, hph, isSome_some, Bool.true_eq_false, and_false, if_false, some.injEq] at hact
  subst hact
  obtain ⟨hev, hst⟩ := choose_keeps hp hm
  -- What the tab then remembers is the same pending list.
  have ha : ∀ m, s.memory c.tab = some m →
      Stronger (chooseStrongestOwnContactListSnapshot (s.memory c.tab) r).event m.event ∨
        m.event = (chooseStrongestOwnContactListSnapshot (s.memory c.tab) r).event ∧
          m.state = .pending := by
    rw [hev]
    exact hm
  obtain ⟨hev', hst'⟩ := choose_keeps hst ha
  rw [hev] at hev'
  unfold Social.loaded chooseLoaded rememberLoaded Social.preserve
  dsimp only
  rw [bind_some, remember_memory]
  generalize hy : chooseStrongestOwnContactListSnapshot (s.memory c.tab)
    (chooseStrongestOwnContactListSnapshot (s.memory c.tab) r) = y at hev' hst'
  have hn : ((networkSnapshot a readAt).filter fun observed =>
      decide ((chooseStrongestOwnContactListSnapshot (some y) observed).event.id =
        observed.event.id)) = none := by
    rw [filter_eq_none_iff]
    intro observed hobs hid
    have ho : Known P s.storedEvents observed :=
      networkSnapshot_known hv hobs
    obtain ⟨-, f, hf, hmem⟩ := networkSnapshot_mem hobs
    have hstr := hans f hf _ hmem
    rw [← hev'] at hstr
    rw [choose_retains hstr, decide_eq_true_eq] at hid
    have htime := hi _ _ (hev' ▸ hr.verified) ho.verified hid
    rcases hstr with hlt | ⟨-, -, hne⟩
    · omega
    · exact hne hid
  rw [hn]
  have hre : (authorRead a readAt).ownerSafetySnapshot = none := by
    unfold authorRead
    split <;> rfl
  have hs := strongestOwner_retained (y := y) hre now
  rw [hev', hst'] at hs
  refine ⟨(update_self ..).trans ?_, rfl⟩
  rw [hu, bind_some]
  exact decideUpdate_pending hs hfol

lemma Inv.run {l : List Event} (hi : IdsDistinguish P)
    (h : Run (fun event s t => act P s event = some t) s l t) (hs : Inv P s) : Inv P t :=
  Run.invariant (I := Inv P) (fun _ _ _ hinv ha => (hinv.step hi ha).1) h hs

/-- Handed out lists were stored, over a base as strong as the row, and change it as their update
says. No two replace one base, the row never weakens, and a repeat hands out the pending list. -/
theorem follow_updates_safe {l : List Event} (hids : IdsDistinguish P)
    (h : Run (fun event s t => act P s event = some t) .start l t) :
    (∀ e ∈ t.handed, ∃ st ∈ t.stores, st.event = e) ∧
    (∀ st ∈ t.stores, Stored P st) ∧
    (t.stores.Pairwise fun x y => x.base.map ListEvent.id ≠ y.base.map ListEvent.id) ∧
    (∀ event u, act P t event = some u → RowKept t u) ∧
    ∀ c a readAt now r u v, t.running c = some (.admitting a readAt (some r)) →
      c.update = some u → r.state = .pending →
      (Follows (some r.event) u.targetPubkey ↔ u.shouldFollow = true) →
      (∀ m, t.memory c.tab = some m →
        Stronger r.event m.event ∨ m.event = r.event ∧ m.state = .pending) →
      (∀ f, a.fetched = some f → ∀ e ∈ f.verifiedContactLists, Stronger r.event e) →
      act P t (.admits c true now) = some v →
      v.running c = some (.publishing r.event) ∧ v.stores = t.stores := by
  have hinv := inv_start.run hids h
  refine ⟨fun e he => ?_, hinv.stores, hinv.distinct,
    fun event u hact => (hinv.step hids hact).2, ?_⟩
  · obtain ⟨st, hst, heq⟩ := List.mem_map.1 (hinv.handed e he)
    exact ⟨st, hst, heq⟩
  · intro c a readAt now r u v hphase hupdate hpending hfollows hmemory hanswer hact
    exact hinv.repeats hids hphase hupdate hpending hfollows hmemory hanswer hact

end

/-- Of the lists of the run, no two have the same time. -/
def samplePlatform : SocialPlatform where
  eventId createdAt _ _ := numberText createdAt
  normalizePublicWebSocketUrl := some

lemma samplePlatform_distinguishes : IdsDistinguish samplePlatform := by
  intro e e' he he' hid
  rw [he, he'] at hid
  exact numberText_inj hid

def sampleKey : Text := List.replicate 64 'a'

def sampleUpdate : Update := ⟨sampleKey, true, ⟨"Market".toList, "market".toList, none, []⟩⟩

def firstCall : Call := ⟨0, 0, some sampleUpdate⟩

def secondCall : Call := ⟨1, 1, some sampleUpdate⟩

def emptyAnswer : RelayAnswer :=
  ⟨some ⟨[], [], false, false, true⟩, [], ["relay".toList],
    [⟨"relay".toList, .success, 0, some 0⟩], .network, false⟩

/-- A list that another client published, without the follow. -/
def otherList : ListEvent := ⟨"150".toList, 150, [], "note".toList, "other".toList⟩

def otherAnswer : RelayAnswer :=
  ⟨some ⟨[otherList], [("150".toList, ["relay".toList])], false, false, true⟩, [],
    ["relay".toList], [⟨"relay".toList, .success, 1, some 0⟩], .network, false⟩

def firstList : ListEvent := ⟨"100".toList, 100, [["p".toList, sampleKey]], [], "sig".toList⟩

def secondList : ListEvent :=
  ⟨"200".toList, 200, [["p".toList, sampleKey]], "note".toList, "sig".toList⟩

def persisting (c : Call) (now : Int) : List Event :=
    [.gets c, .verifies c true, .commits c true now]

def firstUpdate : List Event :=
  [.begins firstCall, .answers firstCall emptyAnswer 100, .loads firstCall true,
    .admits firstCall true 100, .signs firstCall firstList 100] ++ persisting firstCall 100 ++
    [.hands firstCall]

def repeatedUpdate : List Event :=
  firstUpdate ++ [.begins secondCall, .answers secondCall otherAnswer 200, .loads secondCall true,
    .admits secondCall true 200] ++ persisting secondCall 200 ++
    [.signs secondCall secondList 200] ++ persisting secondCall 200 ++ [.hands secondCall]

/-- The repeated update hands out another list than the first one. -/
theorem repeated_update_signs_again : ∃ t,
    Run (fun event s t => act samplePlatform s event = some t) .start repeatedUpdate t ∧
      t.handed = [firstList, secondList] ∧ firstList ≠ secondList ∧
      t.stores.map Store.update = [sampleUpdate, sampleUpdate] := by
  have hcheck : (repeatedUpdate.foldlM (act samplePlatform) Lists.start).any (fun t =>
      decide (t.handed = [firstList, secondList] ∧
        t.stores.map Store.update = [sampleUpdate, sampleUpdate])) = true := by decide +kernel
  obtain ⟨t, hrun, ht⟩ := (any_eq_true _ _).1 hcheck
  obtain ⟨hhanded, hupdates⟩ := of_decide_eq_true ht
  exact ⟨t, Run.of_foldlM (fun _ _ _ h => h) hrun, hhanded, by decide, hupdates⟩

theorem follow_updates_safe_repeated : ∃ t,
    Run (fun event s t => act samplePlatform s event = some t) .start repeatedUpdate t ∧
      t.stores.length = 2 ∧
      t.stores.Pairwise fun x y => x.base.map ListEvent.id ≠ y.base.map ListEvent.id := by
  have hcheck : (repeatedUpdate.foldlM (act samplePlatform) Lists.start).any (fun t =>
      decide (t.stores.length = 2)) = true := by decide +kernel
  obtain ⟨t, hrun, ht⟩ := (any_eq_true _ _).1 hcheck
  have hreached : Run (fun event s t => act samplePlatform s event = some t) .start
    repeatedUpdate t :=
    Run.of_foldlM (fun _ _ _ h => h) hrun
  exact ⟨t, hreached, of_decide_eq_true ht,
    (follow_updates_safe samplePlatform_distinguishes hreached).2.2.1⟩

end Conduit.Social
