import Conduit.Markets.Custody
import Conduit.Markets.Frontiers

namespace Conduit.Markets

open Js Stock CheckoutSpark List

inductive RosterResolution where
  | invalidReference
  | missing
  | malformed (eventId : Text)
  | deleted (eventId : Text)
  | conflicting (eventId : Text)
  | current (market : ParsedRoster)

variable (P : EvidencePlatform)

/-- The loop over the revisions. -/
def observeParents : List SignedEvent → List Text → Nat → Option Nat
  | [], _, roots => some roots
  | revision :: rest, parents, roots =>
    match parseEventMarketRosterEvent P revision with
    | none => observeParents rest parents roots
    | some parsed =>
      match parsed.previousEventId with
      | none => observeParents rest parents (roots + 1)
      | some previous =>
        if previous ∈ parents then none else observeParents rest (previous :: parents) roots

inductive Walk where
  | cycle
  | stopped
  | rooted (ancestors : List Text)

/-- A `Map` of the revisions keeps the last one of an id. -/
def knownById (revisions : List SignedEvent) (id : Text) : Option SignedEvent :=
  revisions.reverse.find? fun event => decide (event.id = id)

/-- The loop from the winner along the parents. -/
def walkAncestors (revisions : List SignedEvent) : Nat → List Text → ParsedRoster → Option Walk
  | 0, _, _ => none
  | fuel + 1, ancestors, cursor =>
    if cursor.eventId ∈ ancestors then some .cycle
    else
      match cursor.previousEventId with
      | none => some (.rooted (cursor.eventId :: ancestors))
      | some previous =>
        match (knownById revisions previous).bind (parseEventMarketRosterEvent P) with
        | none => some .stopped
        | some parent => walkAncestors revisions fuel (cursor.eventId :: ancestors) parent

def rosterRevisions (market : AddressableCoordinate) (events : List SignedEvent) :
    List SignedEvent :=
  events.filter fun event => decide (event.kind = 30409 ∧ event.pubkey = market.authorPubkey ∧
    (∃ tag ∈ event.tags, tag[0]? = some "d".toList ∧ tag[1]? = some market.dTag) ∧
    P.isValidSignedEvent event = true)

def detectForks (revisions : List SignedEvent) (winner : SignedEvent) (market : ParsedRoster) :
    Option RosterResolution :=
  match observeParents P revisions [] 0 with
  | none => some (.conflicting winner.id)
  | some roots =>
    if 1 < roots then some (.conflicting winner.id)
    else
      (walkAncestors P revisions (revisions.length + 1) [] market).map fun
      | .cycle => .conflicting winner.id
      | .stopped => .current market
      | .rooted ancestors =>
        if ∃ event ∈ revisions, event.id ∉ ancestors then .conflicting winner.id
        else .current market

def resolveEventMarketRoster (reference : Text) (events deletions : List SignedEvent) :
    Option RosterResolution :=
  match parseAddressableCoordinate P.toPlatform reference [30409] with
  | none => some .invalidReference
  | some coordinate =>
    let revisions := (rosterRevisions P coordinate events).insertionSort NewerFirst
    match revisions.head? with
    | none => some .missing
    | some winner =>
      if IsRevisionDeleted P.toStockPlatform coordinate.coordinate winner deletions then
        some (.deleted winner.id)
      else
        match parseEventMarketRosterEvent P winner with
        | none => some (.malformed winner.id)
        | some market => detectForks P revisions winner market

def previousOf (event : SignedEvent) : Option Text :=
  (parseEventMarketRosterEvent P event).bind (·.previousEventId)

/-- One linear chain of revisions, the last one first. -/
inductive Descent : List SignedEvent → Prop
  | root {e : SignedEvent} (h : previousOf P e = none) : Descent [e]
  | next {e d : SignedEvent} {l : List SignedEvent} (h : previousOf P e = some d.id)
      (hd : Descent (d :: l)) : Descent (e :: d :: l)

section
variable {P : EvidencePlatform} {e w : SignedEvent} {r : ParsedRoster} {id : Text}
  {R l v : List SignedEvent} {ps anc : List Text} {n : Nat}

lemma roster_eventId (h : parseEventMarketRosterEvent P e = some r) : r.eventId = e.id := by
  rw [parseEventMarketRosterEvent, if_pos (by by_contra hb; rw [if_neg hb] at h; cases h)] at h
  simp only [parseEventMarketRosterFieldsForPrivateOrder, Option.bind_eq_bind,
    Option.bind_eq_some_iff, Option.pure_def, Option.some.injEq] at h
  obtain ⟨-, -, d, -, dTag, -, -, -, a, -, reference, -, calendar, -, -, -, state, -, previous, -, -,
    -, merchants, -, -, -, rfl⟩ := h
  rfl

lemma observeParents_of_nodup (h : (l.map (previousOf P)).Nodup)
    (hps : ∀ p ∈ ps, some p ∉ l.map (previousOf P)) :
    ∃ m, observeParents P l ps n = some m ∧ m ≤ n + if none ∈ l.map (previousOf P) then 1 else 0 := by
  -- No parent is seen twice: those seen so far are the parents of no later revision.
  induction l generalizing ps n with
  | nil => exact ⟨n, rfl, Nat.le_add_right _ _⟩
  | cons e l ih =>
    rw [map_cons, nodup_cons] at h
    have hre : ∀ p ∈ ps, some p ∉ l.map (previousOf P) :=
      fun p hp hmem => hps p hp (mem_cons_of_mem _ hmem)
    rw [observeParents]
    cases hpa : parseEventMarketRosterEvent P e with
    | none =>
      have hpr : previousOf P e = none := by rw [previousOf, hpa]; rfl
      obtain ⟨m, hm, hle⟩ := ih h.2 hre
      refine ⟨m, hm, hle.trans ?_⟩
      simp only [map_cons, hpr, mem_cons, true_or, if_true]
      split <;> omega
    | some r =>
      have hpr : previousOf P e = r.previousEventId := by rw [previousOf, hpa]; rfl
      rw [map_cons, hpr] at hps
      rw [hpr] at h
      dsimp only
      cases hr : r.previousEventId with
      | none =>
        rw [hr] at h
        obtain ⟨m, hm, hle⟩ := ih (n := n + 1) h.2 hre
        rw [if_neg h.1] at hle
        exact ⟨m, hm, by simpa [hpr, hr] using hle⟩
      | some p =>
        rw [hr] at h hps
        have hp : p ∉ ps := fun hp => hps p hp mem_cons_self
        dsimp only
        rw [if_neg hp]
        have hnew : ∀ q ∈ p :: ps, some q ∉ l.map (previousOf P) := by
          intro q hq hmem
          rcases mem_cons.1 hq with rfl | hq
          · exact h.1 hmem
          · exact hre q hq hmem
        obtain ⟨m, hm, hle⟩ := ih (n := n) h.2 hnew
        exact ⟨m, hm, by simpa [hpr, hr] using hle⟩

lemma Descent.nodup_previous (h : Descent P l) (hnd : (l.map (·.id)).Nodup) :
    (l.map (previousOf P)).Nodup ∧ ∀ p, some p ∈ l.map (previousOf P) → p ∈ l.tail.map (·.id) := by
  induction h with
  | root h =>
    rw [map_singleton, h]
    exact ⟨nodup_singleton _, by simp⟩
  | @next e d l h _ ih =>
    obtain ⟨hpr, hm⟩ := ih (nodup_cons.1 hnd).2
    rw [map_cons, h]
    refine ⟨nodup_cons.2 ⟨fun hd => ?_, hpr⟩, fun p hp => ?_⟩
    · -- A second revision with the parent `d` would put `d` below itself.
      exact (nodup_cons.1 (nodup_cons.1 hnd).2).1 (hm _ hd)
    · rcases mem_cons.1 hp with hp | hp
      · rw [Option.some.inj hp]
        exact mem_cons_self
      · exact mem_cons_of_mem _ (hm p hp)

lemma previousOf_eq (h : parseEventMarketRosterEvent P e = some r) :
    previousOf P e = r.previousEventId := by
  rw [previousOf, h]
  rfl

lemma mem_of_knownById (h : knownById R id = some e) : e ∈ R ∧ e.id = id :=
  ⟨mem_reverse.1 (mem_of_find?_eq_some h), by simpa using find?_some h⟩

lemma knownById_of_mem (hnd : (R.map (·.id)).Nodup) (h : e ∈ R) : knownById R e.id = some e :=
  (Keyed.find?_key_iff (by rw [map_reverse]; exact nodup_reverse.2 hnd)).2 ⟨mem_reverse.2 h, rfl⟩

lemma walk_chain {res : Walk} (hpa : ∀ x ∈ R, parseEventMarketRosterEvent P x ≠ none)
    (hr : parseEventMarketRosterEvent P e = some r) (h : Descent P (e :: l))
    (hnd : ((e :: l).map (·.id)).Nodup) (ho : ∀ x ∈ R, ∀ d ∈ e :: l, x.id = d.id → x = d)
    (hanc : ∀ x ∈ e :: l, x.id ∉ anc) (hres : walkAncestors P R n anc r = some res) :
    res = .stopped ∨ ∃ a, res = .rooted a ∧ (∀ x ∈ e :: l, x.id ∈ a) ∧ ∀ i ∈ anc, i ∈ a := by
  cases n with
  | zero => cases hres
  | succ n =>
    have hm : r.eventId ∉ anc := roster_eventId hr ▸ hanc e mem_cons_self
    rw [walkAncestors, if_neg hm] at hres
    induction l generalizing e r anc n with
    | nil =>
      cases h with
      | root hp =>
        rw [previousOf_eq hr] at hp
        rw [hp] at hres
        cases hres
        refine .inr ⟨_, rfl, fun x hx => ?_, fun i hi => mem_cons_of_mem _ hi⟩
        rw [mem_singleton.1 hx, roster_eventId hr]
        exact mem_cons_self
    | cons d l ih =>
      cases h with
      | next hp hd =>
        rw [previousOf_eq hr] at hp
        rw [hp] at hres
        dsimp only at hres
        cases hg : knownById R d.id with
        | none =>
          rw [hg] at hres
          cases hres
          exact .inl rfl
        | some x =>
          obtain ⟨hx, hid⟩ := mem_of_knownById hg
          -- The parent that is found is the next revision of the chain, as their ids agree.
          obtain rfl := ho x hx d (mem_cons_of_mem _ mem_cons_self) hid
          obtain ⟨r', hr'⟩ := Option.ne_none_iff_exists'.1 (hpa x hx)
          rw [hg, Option.bind_some, hr'] at hres
          have hnd' := nodup_cons.1 hnd
          have hanc' : ∀ y ∈ x :: l, y.id ∉ r.eventId :: anc := by
            intro y hy hm'
            rcases mem_cons.1 hm' with heq | hold
            · exact hnd'.1 (mem_map.2 ⟨y, hy, heq.trans (roster_eventId hr)⟩)
            · exact hanc y (mem_cons_of_mem _ hy) hold
          cases n with
          | zero => cases hres
          | succ n =>
            have hn : r'.eventId ∉ r.eventId :: anc := roster_eventId hr' ▸ hanc' x mem_cons_self
            dsimp only at hres
            rw [walkAncestors, if_neg hn] at hres
            rcases ih hr' hd hnd'.2 (fun y hy c hc => ho y hy c (mem_cons_of_mem _ hc)) hanc' n
              hres hn with hs | ⟨a, ha, hall, hold⟩
            · exact .inl hs
            · refine .inr ⟨a, ha, fun y hy => ?_, fun i hi => hold i (mem_cons_of_mem _ hi)⟩
              rcases mem_cons.1 hy with rfl | hy
              · exact hold _ (roster_eventId hr ▸ mem_cons_self)
              · exact hall y hy

lemma walk_spec (hr : parseEventMarketRosterEvent P e = some r) (he : e ∈ R) (hv : ∀ x ∈ v, x ∈ R)
    (hnd : (v.map (·.id)).Nodup) (hfuel : R.length < n + v.length)
    (hd : ∀ l, Descent P (e :: l) → Descent P (v.reverse ++ e :: l)) :
    ∃ res, walkAncestors P R n (v.map (·.id)) r = some res ∧
      ((∀ x ∈ R, ∀ p ∈ previousOf P x,
        (knownById R p).bind (parseEventMarketRosterEvent P) ≠ none) → res ≠ .stopped) ∧
      ∀ a, res = .rooted a → ∃ u, a = u.map (·.id) ∧ a.Nodup ∧ (∀ x ∈ u, x ∈ R) ∧
        Descent P u.reverse ∧ (e :: v) <:+ u := by
  -- On the steps that are left. The visited revisions are distinct, so some are always left.
  induction n generalizing e r v with
  | zero =>
    have hlen := (subperm_of_subset (Nodup.of_map _ hnd) hv).length_le
    omega
  | succ n ih =>
    rw [walkAncestors]
    have hid := roster_eventId hr
    by_cases hm : r.eventId ∈ v.map (·.id)
    · exact ⟨.cycle, if_pos hm, fun _ h => Walk.noConfusion h, fun a h => Walk.noConfusion h⟩
    rw [if_neg hm]
    have hin : ∀ x ∈ e :: v, x ∈ R := by
      intro x hx
      rcases mem_cons.1 hx with rfl | hx
      · exact he
      · exact hv x hx
    have hnd' : ((e :: v).map (·.id)).Nodup := nodup_cons.2 ⟨fun hm' => hm (hid ▸ hm'), hnd⟩
    cases hp : r.previousEventId with
    | none =>
      refine ⟨_, rfl, fun _ h => Walk.noConfusion h, fun a h => ⟨e :: v, ?_, ?_, hin, ?_,
        suffix_refl _⟩⟩
      · rw [← Walk.rooted.inj h, hid]
        rfl
      · rw [← Walk.rooted.inj h, hid]
        exact hnd'
      · rw [reverse_cons]
        exact hd [] (.root ((previousOf_eq hr).trans hp))
    | some p =>
      dsimp only
      have hpe : previousOf P e = some p := (previousOf_eq hr).trans hp
      cases hg : (knownById R p).bind (parseEventMarketRosterEvent P) with
      | none => exact ⟨_, rfl, fun h => absurd hg (h e he p hpe), fun a h => Walk.noConfusion h⟩
      | some r' =>
        obtain ⟨d, hd', hr'⟩ := Option.bind_eq_some_iff.1 hg
        obtain ⟨hdR, rfl⟩ := mem_of_knownById hd'
        obtain ⟨res, hres, hc, hro⟩ := ih (v := e :: v) hr' hdR hin hnd'
          (by rw [length_cons]; omega) fun l hl => by
            rw [reverse_cons, append_assoc]
            exact hd (d :: l) (.next hpe hl)
        refine ⟨res, by rw [hid]; exact hres, hc, fun a ha => ?_⟩
        obtain ⟨u, hu, hau, huR, hde, hs⟩ := hro a ha
        exact ⟨u, hu, hau, huR, hde, (suffix_cons d _).trans hs⟩

end

structure Standing (P : EvidencePlatform) (market : AddressableCoordinate)
    (R deletions : List SignedEvent) (w : SignedEvent) : Prop where
  parses : ∀ e ∈ R, parseEventMarketRosterEvent P e ≠ none
  distinct : (R.map (·.id)).Nodup
  kept : ∀ e ∈ R, ¬ IsRevisionDeleted P.toStockPlatform market.coordinate e deletions
  newest : newest R = some w

def Complete (P : EvidencePlatform) (R : List SignedEvent) : Prop :=
  ∀ e ∈ R, ∀ p ∈ previousOf P e, ∃ parent ∈ R, parent.id = p

section
variable {P : EvidencePlatform} {market : AddressableCoordinate} {w : SignedEvent}
  {R deletions chain : List SignedEvent} {roster : ParsedRoster}

lemma detectForks_of_walk {res : Walk}
    (hr : walkAncestors P R (R.length + 1) [] roster = some res) :
    detectForks P R w roster = some (.conflicting w.id) ∨
      detectForks P R w roster = some (.current roster) ∧
        (res = .stopped ∨ ∃ a, res = .rooted a ∧ ∀ e ∈ R, e.id ∈ a) := by
  rw [detectForks, hr]
  cases observeParents P R [] 0 with
  | none => exact .inl rfl
  | some roots =>
    dsimp only
    split_ifs
    · exact .inl rfl
    · cases res with
      | cycle => exact .inl rfl
      | stopped => exact .inr ⟨rfl, .inl rfl⟩
      | rooted a =>
        rw [Option.map_some]
        dsimp only
        split_ifs with ho
        · exact .inl rfl
        · simp only [not_exists, not_and, not_not] at ho
          exact .inr ⟨rfl, .inr ⟨a, rfl, ho⟩⟩

lemma detectForks_chain {newer l S : List SignedEvent} (h : Standing P market R deletions w)
    (hp : S.Perm R) (hr : parseEventMarketRosterEvent P w = some roster)
    (hde : Descent P (newer ++ w :: l)) (hnd : ((newer ++ w :: l).map (·.id)).Nodup)
    (hs : ∀ e ∈ R, e ∈ newer ++ w :: l) (hn : ∀ e ∈ newer, e ∉ R) :
    detectForks P S w roster = some (.current roster) := by
  have hdr : Descent P (w :: l) := by
    clear hnd hs hn
    induction newer with
    | nil => exact hde
    | cons e newer ih =>
      cases newer <;> cases hde with
      | next _ hd => exact ih hd
  -- The links above the winner were not read: the rest of the chain holds all that were.
  have hS : ∀ e ∈ S, e ∈ w :: l := fun e he =>
    (mem_append.1 (hs e (hp.mem_iff.1 he))).resolve_left
      fun hnew => hn e hnew (hp.mem_iff.1 he)
  have hndl : ((w :: l).map (·.id)).Nodup := by
    rw [map_append] at hnd
    exact (nodup_append.1 hnd).2.1
  have hwS := hp.mem_iff.2 (newest_spec h.newest).1
  have hpar : (S.map (previousOf P)).Nodup :=
    (hp.nodup_iff.2 (Nodup.of_map _ h.distinct)).map_on fun a ha b hb hab =>
      inj_on_of_nodup_map (hdr.nodup_previous hndl).1 (hS a ha) (hS b hb) hab
  obtain ⟨m, hm, hle⟩ := observeParents_of_nodup (n := 0) hpar
    fun p (hmem : p ∈ []) => absurd hmem not_mem_nil
  have ho : ¬ 1 < m := not_lt.2 (hle.trans (by split <;> omega))
  obtain ⟨res, hres, -, -⟩ := walk_spec (v := []) (n := S.length + 1) hr hwS (by simp) nodup_nil
    (Nat.lt_succ_self _) fun l hl => hl
  simp only [map_nil] at hres
  rw [detectForks, hm, hres]
  dsimp only
  rw [if_neg ho]
  rcases walk_chain (fun x hx => h.parses x (hp.mem_iff.1 hx)) hr hdr hndl
    (fun x hx d hd hid => inj_on_of_nodup_map hndl (hS x hx) hd hid) (by simp) hres with
    rfl | ⟨a, rfl, hall, -⟩
  · rfl
  · rw [Option.map_some]
    dsimp only
    rw [if_neg (by simpa using fun e he => hall e (hS e he))]

lemma chain_of_complete {S : List SignedEvent} (h : Standing P market R deletions w)
    (hpe : S.Perm R) (hc : Complete P R) (hr : parseEventMarketRosterEvent P w = some roster)
    (hno : ¬ ∃ chain, chain.Perm R ∧ Descent P chain ∧ chain.head? = some w) :
    detectForks P S w roster = some (.conflicting w.id) := by
  have hn : (S.map (·.id)).Nodup := (hpe.map _).nodup_iff.2 h.distinct
  obtain ⟨res, hres, hs, hro⟩ := walk_spec (v := []) (n := S.length + 1) hr
    (hpe.mem_iff.2 (newest_spec h.newest).1) (by simp) nodup_nil (Nat.lt_succ_self _)
    fun l hl => hl
  refine (detectForks_of_walk hres).resolve_right ?_
  rintro ⟨-, rfl | ⟨a, rfl, ha⟩⟩
  · -- In a complete set the walk does not stop at a missing parent.
    refine hs (fun x hx p hp => ?_) rfl
    obtain ⟨parent, hpa, rfl⟩ := hc x (hpe.mem_iff.1 hx) p hp
    rw [knownById_of_mem hn (hpe.mem_iff.2 hpa), Option.bind_some]
    exact h.parses parent hpa
  · -- A walk to a root that visits every revision lists them as one chain.
    obtain ⟨u, rfl, hnd, huS, hd, t, rfl⟩ := hro a rfl
    refine hno ⟨_, (reverse_perm _).trans (Perm.trans ?_ hpe), hd, by simp⟩
    refine (perm_ext_iff_of_nodup (Nodup.of_map _ hnd) (Nodup.of_map _ hn)).2 fun e =>
      ⟨huS e, fun he => ?_⟩
    obtain ⟨x, hx, hid⟩ := mem_map.1 (ha e he)
    exact inj_on_of_nodup_map hn (huS x hx) he hid ▸ hx

variable {reference : Text} {events : List SignedEvent}
  (hmarket : parseAddressableCoordinate P.toPlatform reference [30409] = some market)
include hmarket

lemma resolve_eq (hw : newest (rosterRevisions P market events) = some w)
    (hd : ¬ IsRevisionDeleted P.toStockPlatform market.coordinate w deletions)
    (hr : parseEventMarketRosterEvent P w = some roster) :
    resolveEventMarketRoster P reference events deletions =
      detectForks P ((rosterRevisions P market events).insertionSort NewerFirst) w roster := by
  have hh : ((rosterRevisions P market events).insertionSort NewerFirst).head? = some w := hw
  simp only [resolveEventMarketRoster, hmarket, hh, if_neg hd, hr]

lemma resolve_newest : (∃ res, resolveEventMarketRoster P reference events deletions = some res) ∧
    ∀ roster, resolveEventMarketRoster P reference events deletions = some (.current roster) →
      ∃ w, newest (rosterRevisions P market events) = some w ∧
        parseEventMarketRosterEvent P w = some roster ∧
        ¬ IsRevisionDeleted P.toStockPlatform market.coordinate w deletions := by
  cases hw : newest (rosterRevisions P market events) with
  | none =>
    have hh : ((rosterRevisions P market events).insertionSort NewerFirst).head? = none := hw
    simp [resolveEventMarketRoster, hmarket, hh]
  | some w =>
    have hh : ((rosterRevisions P market events).insertionSort NewerFirst).head? = some w := hw
    by_cases hd : IsRevisionDeleted P.toStockPlatform market.coordinate w deletions
    · simp [resolveEventMarketRoster, hmarket, hh, hd]
    cases hr : parseEventMarketRosterEvent P w with
    | none => simp [resolveEventMarketRoster, hmarket, hh, hd, hr]
    | some roster =>
      obtain ⟨res, hres, -, -⟩ := walk_spec (v := []) (R := (rosterRevisions P market
        events).insertionSort NewerFirst) hr ((mem_insertionSort _).2 (newest_spec hw).1)
        (by simp) nodup_nil (Nat.lt_succ_self _) fun l hl => hl
      rw [resolve_eq hmarket hw hd hr]
      rcases detectForks_of_walk (w := w) hres with hc | ⟨hcur, -⟩
      · simp [hc]
      · simp [hcur, hr, hd]

end

/-- A complete set resolves to its newest exactly where it is one chain, a part of a chain likewise,
and nothing else is ever returned. -/
theorem resolveEventMarketRoster_detects (reference : Text) (market : AddressableCoordinate)
    (hmarket : parseAddressableCoordinate P.toPlatform reference [30409] = some market)
    (events deletions : List SignedEvent) : let revisions := rosterRevisions P market events
    (∀ w, Standing P market revisions deletions w → Complete P revisions →
      ((∃ chain, chain.Perm revisions ∧ Descent P chain ∧ chain.head? = some w) →
        ∃ roster, parseEventMarketRosterEvent P w = some roster ∧
          resolveEventMarketRoster P reference events deletions = some (.current roster)) ∧
      ((¬ ∃ chain, chain.Perm revisions ∧ Descent P chain ∧ chain.head? = some w) →
        resolveEventMarketRoster P reference events deletions = some (.conflicting w.id))) ∧
    (∀ w chain, Standing P market revisions deletions w → Descent P chain →
      (chain.map (·.id)).Nodup → (∀ e ∈ revisions, e ∈ chain) →
      (chain.Pairwise fun newer older => ¬ 0 ≤ compareReplaceableEventFrontiers older newer) →
      ∃ roster, parseEventMarketRosterEvent P w = some roster ∧
        resolveEventMarketRoster P reference events deletions = some (.current roster)) ∧
    (∃ res, resolveEventMarketRoster P reference events deletions = some res) ∧
      ∀ roster, resolveEventMarketRoster P reference events deletions = some (.current roster) →
        ∃ w, newest revisions = some w ∧ parseEventMarketRosterEvent P w = some roster ∧
          ¬ IsRevisionDeleted P.toStockPlatform market.coordinate w deletions := by
  intro revisions
  have hp : (revisions.insertionSort NewerFirst).Perm revisions := perm_insertionSort _ _
  have hresolve : ∀ w, Standing P market revisions deletions w → ∃ roster,
      parseEventMarketRosterEvent P w = some roster ∧
        resolveEventMarketRoster P reference events deletions =
          detectForks P (revisions.insertionSort NewerFirst) w roster := by
    intro w h
    have hw := (newest_spec h.newest).1
    obtain ⟨roster, hr⟩ := Option.ne_none_iff_exists'.1 (h.parses w hw)
    exact ⟨roster, hr, resolve_eq hmarket h.newest (h.kept w hw) hr⟩
  refine ⟨fun w h hc => ?_, fun w chain h hdesc hnd hsub hsort => ?_, resolve_newest hmarket⟩
  · obtain ⟨roster, hr, heq⟩ := hresolve w h
    rw [heq]
    refine ⟨?_, chain_of_complete h hp hc hr⟩
    rintro ⟨chain, hchain, hdesc, hhead⟩
    obtain ⟨l, rfl⟩ := head?_eq_some_iff.1 hhead
    exact ⟨roster, hr, detectForks_chain h hp hr (show Descent P ([] ++ w :: l) from hdesc)
      ((hchain.map _).nodup_iff.2 h.distinct) (fun e he => hchain.mem_iff.2 he) (by simp)⟩
  · obtain ⟨roster, hr, heq⟩ := hresolve w h
    obtain ⟨hw, hnewest⟩ := newest_spec h.newest
    obtain ⟨newer, l, rfl⟩ := append_of_mem (hsub w hw)
    rw [heq]
    refine ⟨roster, hr, detectForks_chain h hp hr hdesc hnd hsub fun e he hmem => ?_⟩
    exact (pairwise_append.1 hsort).2.2 e he w mem_cons_self (hnewest e hmem)

def autumnCoordinate : AddressableCoordinate := ⟨30409, marketOrganizer, "autumn-market"⟩

lemma autumn_parses : parseAddressableCoordinate evidencePlatform.toPlatform autumnMarket [30409] =
      some autumnCoordinate := rfl

lemma standing_autumn : Standing evidencePlatform autumnCoordinate
    (rosterRevisions evidencePlatform autumnCoordinate [autumnFirst, autumnSecond]) []
    autumnSecond where
  parses := by
    change ∀ e ∈ [autumnFirst, autumnSecond], _
    simp only [forall_mem_cons]
    exact ⟨Option.isSome_iff_ne_none.1 rfl, Option.isSome_iff_ne_none.1 rfl, by simp⟩
  distinct := by decide +kernel
  kept := by
    rintro e - ⟨_, -, -, _, hd, -⟩
    cases hd
  newest := by decide +kernel

theorem autumn_current : ∃ roster, parseEventMarketRosterEvent evidencePlatform autumnSecond = some roster ∧
    resolveEventMarketRoster evidencePlatform autumnMarket [autumnFirst, autumnSecond] [] =
      some (.current roster) := by
  refine ((resolveEventMarketRoster_detects evidencePlatform autumnMarket autumnCoordinate
    autumn_parses [autumnFirst, autumnSecond] []).1 autumnSecond standing_autumn ?_).1
    ⟨[autumnSecond, autumnFirst], .swap _ _ _, .next rfl (.root rfl), rfl⟩
  change ∀ e ∈ [autumnFirst, autumnSecond], _
  simp only [forall_mem_cons]
  refine ⟨fun p hp => ?_, fun p hp => ⟨autumnFirst, mem_cons_self, Option.some.inj hp⟩, by simp⟩
  cases hp

/-- No revisions at all are complete and no chain, and nothing conflicts. -/
theorem noRoster_missing :
    Complete evidencePlatform (rosterRevisions evidencePlatform autumnCoordinate []) ∧
      (¬ ∃ chain w, chain.Perm (rosterRevisions evidencePlatform autumnCoordinate []) ∧
        Descent evidencePlatform chain ∧ chain.head? = some w) ∧
      resolveEventMarketRoster evidencePlatform autumnMarket [] [] = some .missing := by
  refine ⟨fun e he => absurd he not_mem_nil, ?_, rfl⟩
  rintro ⟨chain, w, hc, hd, -⟩
  obtain rfl := hc.eq_nil
  cases hd

end Conduit.Markets
