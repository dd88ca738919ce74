import Conduit.Markets.Authorization
import Conduit.Stock.Guarantees

namespace Conduit.Markets

open Js Stock Ancestry Throwing List Option

abbrev Parsed := ParsedEventMarketAuthorization

def ParsedEventMarketAuthorization.terms (event : Parsed) : AuthorizationTerms :=
  event.toAuthorizationTerms

section
variable {events events' : List Parsed} {event other : Parsed} {id : Text}

abbrev retained (arrived : List Parsed) : List Parsed := mapOf (·.eventId) arrived

lemma retains (arrived : List Parsed) :
    Holds (fun e : Parsed => e.eventId) (retained arrived) arrived := mapOf_holds _ arrived

lemma transitionOf_eq_some (h : (events.map (·.eventId)).Nodup) :
    transitionOf events id = some event ↔ event ∈ events ∧ event.eventId = id :=
  Keyed.find?_key_iff h

lemma transitionOf_isSome : (transitionOf events id).isSome ↔
    id ∈ events.map fun e => e.eventId := by
  simp [transitionOf]

lemma transitionOf_eq_none : transitionOf events id = none ↔
    id ∉ events.map fun e => e.eventId := by
  rw [← transitionOf_isSome, not_isSome_iff_eq_none]

structure SameHistory (events events' : List Parsed) : Prop where
  nodup : (events.map (·.eventId)).Nodup
  nodup' : (events'.map (·.eventId)).Nodup
  terms : ∀ id, (transitionOf events id).map ParsedEventMarketAuthorization.terms =
    (transitionOf events' id).map ParsedEventMarketAuthorization.terms

section

variable (h : SameHistory events events')
include h

lemma SameHistory.symm : SameHistory events' events :=
  ⟨h.nodup', h.nodup, fun id => (h.terms id).symm⟩

lemma SameHistory.isSome (id : Text) :
    (transitionOf events id).isSome = (transitionOf events' id).isSome := by
  have := congrArg Option.isSome (h.terms id)
  rwa [isSome_map, isSome_map] at this

lemma SameHistory.ids_perm : (events.map (·.eventId)).Perm (events'.map (·.eventId)) := by
  refine (perm_ext_iff_of_nodup h.nodup h.nodup').2 fun id => ?_
  rw [← transitionOf_isSome, ← transitionOf_isSome, h.isSome]

lemma SameHistory.length : events.length = events'.length := by
  have := h.ids_perm.length_eq
  rwa [length_map, length_map] at this

lemma SameHistory.counterpart (hm : event ∈ events) :
    ∃ event' ∈ events', event'.terms = event.terms := by
  have hg := (transitionOf_eq_some h.nodup).2 ⟨hm, rfl⟩
  have ht := h.terms event.eventId
  rw [hg] at ht
  obtain ⟨event', hg', heq⟩ := map_eq_some_iff.1 ht.symm
  exact ⟨event', ((transitionOf_eq_some h.nodup').1 hg').1, heq⟩

lemma parentSequences_eq (ht : other.terms = event.terms) :
    parentSequences events' other = parentSequences events event := by
  have hpar : other.parentIds = event.parentIds := congrArg (·.parentIds) ht
  unfold parentSequences
  congr 1
  funext id
  have := congrArg (Option.map fun t : AuthorizationTerms => t.sequence) (h.terms id)
  simp only [Option.map_map] at this
  exact this.symm

lemma checkTransition_eq (ht : other.terms = event.terms) :
    checkTransition events' other = checkTransition events event := by
  have hp : other.parentIds = event.parentIds := congrArg (·.parentIds) ht
  have hs : other.sequence = event.sequence := congrArg (·.sequence) ht
  have hm : (∃ id ∈ event.parentIds, transitionOf events' id = none) ↔
      ∃ id ∈ event.parentIds, transitionOf events id = none := by
    simp only [← not_isSome_iff_eq_none, h.isSome]
  simp only [checkTransition, hp, hs, parentSequences_eq h ht, hm]

end

variable {fuel : Nat} {r : Resolution}

lemma checkTransition_problem (h : checkTransition events event = some r) :
    r = .malformed ∨ r = .missingParent := by
  unfold checkTransition at h
  split at h
  · exact .inl (some.inj h).symm
  · split at h
    · exact .inr (some.inj h).symm
    · split at h
      · exact .inl (some.inj h).symm
      · cases h

lemma scan_passes (h : SameHistory events events')
    (hs : events.findSome? (checkTransition events) = none) :
    events'.findSome? (checkTransition events') = none := by
  rw [findSome?_eq_none_iff] at hs ⊢
  intro event' hm
  obtain ⟨event, hev, ht⟩ := h.symm.counterpart hm
  rw [checkTransition_eq h ht.symm]
  exact hs event hev

lemma mem_tipsOf : event ∈ tipsOf events ↔
    event ∈ events ∧ ∀ child ∈ events, event.eventId ∉ child.parentIds := by
  simp [tipsOf]

lemma tipsOf_terms (h : SameHistory events events') (hm : event ∈ tipsOf events) :
    ∃ event' ∈ tipsOf events', event'.terms = event.terms := by
  obtain ⟨hev, hc⟩ := mem_tipsOf.1 hm
  obtain ⟨event', hev', ht⟩ := h.counterpart hev
  refine ⟨event', mem_tipsOf.2 ⟨hev', fun child' hc' => ?_⟩, ht⟩
  obtain ⟨child, hm, heq⟩ := h.symm.counterpart hc'
  have hid : event'.eventId = event.eventId := congrArg (·.eventId) ht
  have hp : child.parentIds = child'.parentIds := congrArg (·.parentIds) heq
  rw [hid, ← hp]
  exact hc child hm

lemma tipsOf_nodup (h : (events.map (·.eventId)).Nodup) : ((tipsOf events).map (·.eventId)).Nodup :=
  Sublist.nodup (filter_sublist.map _) h

lemma tipsOf_singleton (h : SameHistory events events') (hti : tipsOf events = [event]) :
    ∃ event', tipsOf events' = [event'] ∧ event'.terms = event.terms := by
  obtain ⟨event', hm, ht⟩ := tipsOf_terms h (hti ▸ mem_singleton_self event)
  have ha : ∀ other ∈ tipsOf events', other.eventId = event'.eventId := by
    intro other ho
    obtain ⟨back, hb, heq⟩ := tipsOf_terms h.symm ho
    rw [hti, mem_singleton] at hb
    have hid : back.eventId = other.eventId := congrArg (·.eventId) heq
    have hid' : event'.eventId = event.eventId := congrArg (·.eventId) ht
    rw [← hid, hb, hid']
  have hnd := tipsOf_nodup h.nodup'
  refine ⟨event', ?_, ht⟩
  cases hl : tipsOf events' with
  | nil => rw [hl] at hm; cases hm
  | cons first rest =>
    have hone : rest = [] := by
      by_contra hne
      obtain ⟨second, hs⟩ := exists_mem_of_ne_nil _ hne
      rw [hl, map_cons, nodup_cons] at hnd
      refine hnd.1 ?_
      rw [ha first (hl ▸ .head _), ← ha second (hl ▸ .tail _ hs)]
      exact mem_map_of_mem hs
    rw [hone] at hl ⊢
    rw [hl, mem_singleton] at hm
    rw [hm]

def maxFuel : Nat := maxSequence.toNat + 1

lemma le_foldr_max {l : List Int} {n : Int} (h : n ∈ l) : n ≤ l.foldr max 0 := by
  induction l with
  | nil => cases h
  | cons m l ih =>
    rcases mem_cons.1 h with rfl | h
    · exact le_max_left _ _
    · exact le_max_of_le_right (ih h)

abbrev Ranks (events : List Parsed) : Prop :=
  Ranked (fun e : Parsed => e.eventId) (·.parentIds) (transitionOf events)
    (·.sequence.toNat)

lemma scan_ranks (hnd : (events.map (·.eventId)).Nodup) (hnon : ∀ e ∈ events, 0 ≤ e.sequence)
    (hs : events.findSome? (checkTransition events) = none) : Ranks events := by
  refine ⟨fun k a h => ((transitionOf_eq_some hnd).1 h).2, fun k a h p hp => ?_⟩
  obtain ⟨ha, -⟩ := (transitionOf_eq_some hnd).1 h
  have hc := findSome?_eq_none_iff.1 hs a ha
  unfold checkTransition at hc
  split at hc
  · cases hc
  split at hc
  · cases hc
  split at hc
  · cases hc
  rename_i hroot hpr hseq
  have hne : a.parentIds ≠ [] := ne_nil_of_mem hp
  have hnext : a.sequence = 1 + (parentSequences events a).foldr max 0 := by
    by_contra hcon
    exact hseq ⟨hne, hcon⟩
  obtain ⟨b, hb⟩ := ne_none_iff_exists'.1 fun hn => hpr ⟨p, hp, hn⟩
  have hm : b.sequence ∈ parentSequences events a :=
    mem_filterMap.2 ⟨p, hp, by rw [hb]; rfl⟩
  have hle := le_foldr_max hm
  have hb0 := hnon b ((transitionOf_eq_some hnd).1 hb).1
  exact ⟨b, hb, by show b.sequence.toNat < a.sequence.toNat; omega⟩

abbrev DescendsIn (events : List Parsed) (transition : Parsed) (targetId : Text) : Prop :=
  Descends (fun e : Parsed => e.parentIds) (transitionOf events) targetId transition

structure Walked (events : List Parsed) (tip : Parsed) (ancestry : List Parsed) : Prop where
  nodup : (ancestry.map (·.eventId)).Nodup
  known : ∀ a ∈ ancestry, a ∈ events
  topological : Topological (fun e : Parsed => e.eventId) (·.parentIds) ancestry
  ancestors : ∀ a ∈ ancestry, a = tip ∨ DescendsIn events tip a.eventId
  tip_mem : tip ∈ ancestry

lemma walkFrom_walks (hnd : (events.map (·.eventId)).Nodup) (hr : Ranks events)
    {tip : Parsed} (ht : tip ∈ events) (hbd : tip.sequence ≤ maxSequence) :
    ∃ ancestry, (∀ fuel, maxFuel ≤ fuel → walkFrom events fuel tip = some ancestry) ∧
      Walked events tip ancestry := by
  have hg := (transitionOf_eq_some hnd).2 ⟨ht, rfl⟩
  have hsta : Visit.Sound (fun e : Parsed => e.eventId) (·.parentIds)
      (transitionOf events) [] ⟨[], []⟩ :=
    ⟨fun k => by simp, fun k hk => absurd hk not_mem_nil, nodup_nil,
      fun b hb => absurd hb not_mem_nil, topological_nil⟩
  have hf : tip.sequence.toNat < maxFuel := by unfold maxFuel maxSequence at *; omega
  obtain ⟨v, hv, hs, had, hl⟩ := visit_sound hr hg hf
    (fun k hk => absurd hk not_mem_nil) hsta
  refine ⟨v.order, fun fuel hle => ?_, hs.nodup, fun a ha => ?_, hs.topological, fun a ha => ?_, ?_⟩
  · rw [walkFrom, visit_mono hle hv, map_some]
  · exact ((transitionOf_eq_some hnd).1 (hs.known a ha)).1
  · obtain ⟨new, hn, hof⟩ := had.grows
    exact hof a (by rwa [hn] at ha)
  · obtain ⟨a, ha, hid⟩ := mem_map.1 hl
    have hg' := hs.known a ha
    rw [hid, hg] at hg'
    exact some.inj hg' ▸ ha

def Repaired (events ancestry : List Parsed) (deletionId targetId : Text) : Prop :=
  ∃ transition ∈ ancestry,
    { deletionId, targetId } ∈ transition.repairs ∧
      transition.eventId ≠ targetId ∧ (transitionOf events targetId).isSome ∧
      DescendsIn events transition targetId

def LeftDeleted (events ancestry : List Parsed) (market merchantPubkey : Text)
    (deletions : List SignedEvent) : Prop :=
  ∃ deletion ∈ deletions, ∃ targetId ∈ targetIds deletion,
    Applies events market merchantPubkey deletion targetId ∧
      ¬ Repaired events ancestry deletion.id targetId

variable {deletions deletions' : List SignedEvent} {market merchantPubkey : Text}
  {ancestry : List Parsed} {tip tip' : Parsed}

lemma repaired_decides (hnd : (events.map (·.eventId)).Nodup) (hr : Ranks events)
    (hbd : ∀ e ∈ events, e.sequence ≤ maxSequence) (hkn : ∀ a ∈ ancestry, a ∈ events)
    (hfuel : maxFuel ≤ fuel) (deletionId targetId : Text) :
    Decides (repaired events ancestry fuel deletionId targetId)
      (Repaired events ancestry deletionId targetId) := by
  refine anyM_decides fun transition hm => ?_
  have hev := hkn _ hm
  have hra : transition.sequence.toNat < fuel := by
    have := hbd _ hev
    unfold maxFuel maxSequence at *
    omega
  by_cases h : { deletionId, targetId } ∈ transition.repairs ∧
      transition.eventId ≠ targetId ∧ (transitionOf events targetId).isSome
  · obtain ⟨b, hb, hi⟩ := @descendsFrom_decides _ _ _ _ _ _ _ _ _ targetId hr _
      ((transitionOf_eq_some hnd).2 ⟨hev, rfl⟩) hra
    exact ⟨b, by rw [if_pos h]; exact hb, hi.trans (by simp [h])⟩
  · refine ⟨false, if_neg h, ?_⟩
    simp only [Bool.false_eq_true, false_iff]
    exact fun ha => h ⟨ha.1, ha.2.1, ha.2.2.1⟩

lemma unrepaired_decides (hnd : (events.map (·.eventId)).Nodup) (hr : Ranks events)
    (hbd : ∀ e ∈ events, e.sequence ≤ maxSequence) (hkn : ∀ a ∈ ancestry, a ∈ events)
    (hf : maxFuel ≤ fuel) (market merchantPubkey : Text) (deletions : List SignedEvent) :
    Decides (unrepaired events ancestry fuel market merchantPubkey deletions)
      (LeftDeleted events ancestry market merchantPubkey deletions) := by
  refine anyM_decides fun deletion _ => anyM_decides fun targetId _ => ?_
  obtain ⟨b, hb, hi⟩ := repaired_decides hnd hr hbd hkn hf deletion.id targetId
  by_cases h : Applies events market merchantPubkey deletion targetId
  · refine ⟨!b, by rw [if_pos h, hb]; rfl, ?_⟩
    simp [h, ← hi]
  · exact ⟨false, if_neg h, by simp [h]⟩

/-- What the reduction needs of the transitions that it retains. -/
structure Readable (events : List Parsed) : Prop where
  nodup : (events.map (·.eventId)).Nodup
  nonneg : ∀ e ∈ events, 0 ≤ e.sequence
  bound : ∀ e ∈ events, e.sequence ≤ maxSequence

/-- How a resolution comes about. -/
inductive ResolvesTo (events : List Parsed) (market merchantPubkey : Text)
    (deletions : List SignedEvent) : Resolution → Prop
  | problem {r : Resolution} (h : events.findSome? (checkTransition events) = some r) :
    ResolvesTo events market merchantPubkey deletions r
  | forked (hscan : events.findSome? (checkTransition events) = none)
    (htips : ∀ tip, tipsOf events ≠ [tip]) :
    ResolvesTo events market merchantPubkey deletions (.conflicting (tipsOf events))
  | apart {tip : Parsed} {ancestry : List Parsed}
    (hscan : events.findSome? (checkTransition events) = none) (htip : tipsOf events = [tip])
    (hwalked : Walked events tip ancestry)
    (hwalk : ∀ fuel, maxFuel ≤ fuel → walkFrom events fuel tip = some ancestry)
    (hlength : ancestry.length ≠ events.length) :
    ResolvesTo events market merchantPubkey deletions (.conflicting [tip])
  | deleted {tip : Parsed} {ancestry : List Parsed}
    (hscan : events.findSome? (checkTransition events) = none) (htip : tipsOf events = [tip])
    (hwalked : Walked events tip ancestry)
    (hwalk : ∀ fuel, maxFuel ≤ fuel → walkFrom events fuel tip = some ancestry)
    (hlength : ancestry.length = events.length)
    (hleft : LeftDeleted events ancestry market merchantPubkey deletions) :
    ResolvesTo events market merchantPubkey deletions (.deleted [tip])
  | settled {tip : Parsed} {ancestry : List Parsed}
    (hscan : events.findSome? (checkTransition events) = none) (htip : tipsOf events = [tip])
    (hwalked : Walked events tip ancestry)
    (hwalk : ∀ fuel, maxFuel ≤ fuel → walkFrom events fuel tip = some ancestry)
    (hlength : ancestry.length = events.length)
    (hleft : ¬ LeftDeleted events ancestry market merchantPubkey deletions) :
    ResolvesTo events market merchantPubkey deletions (.settled tip.state tip ancestry)

lemma resolveTransitions_resolves (h : Readable events) (market merchantPubkey : Text)
    (deletions : List SignedEvent) : ∃ r, ResolvesTo events market merchantPubkey deletions r ∧
      ∀ fuel, maxFuel ≤ fuel →
        resolveTransitions fuel market merchantPubkey events deletions = some r := by
  cases hs : events.findSome? (checkTransition events) with
  | some r => exact ⟨r, .problem hs, fun fuel _ => by rw [resolveTransitions, hs]⟩
  | none =>
    by_cases hti : ∃ tip, tipsOf events = [tip]
    · obtain ⟨tip, ht⟩ := hti
      have hm : tip ∈ events := (mem_tipsOf.1 (ht ▸ mem_singleton_self tip)).1
      have hr := scan_ranks h.nodup h.nonneg hs
      obtain ⟨ancestry, hw, hwal⟩ := walkFrom_walks h.nodup hr hm (h.bound tip hm)
      have hd := fun fuel (hf : maxFuel ≤ fuel) => unrepaired_decides h.nodup hr
        h.bound hwal.known hf market merchantPubkey deletions
      by_cases hlen : ancestry.length = events.length
      · by_cases hl : LeftDeleted events ancestry market merchantPubkey deletions
        · refine ⟨_, .deleted hs ht hwal hw hlen hl, fun fuel hf => ?_⟩
          obtain ⟨b, hb, hi⟩ := hd fuel hf
          simp [resolveTransitions, hs, ht, hw fuel hf, hlen, hb, hi.2 hl]
        · refine ⟨_, .settled hs ht hwal hw hlen hl, fun fuel hf => ?_⟩
          obtain ⟨b, hb, hi⟩ := hd fuel hf
          have hfa : b = false := Bool.eq_false_iff.2 fun htr => hl (hi.1 htr)
          simp [resolveTransitions, hs, ht, hw fuel hf, hlen, hb, hfa]
      · refine ⟨_, .apart hs ht hwal hw hlen, fun fuel hf => ?_⟩
        simp only [resolveTransitions, hs, ht, hw fuel hf]
        show (if ancestry.length ≠ events.length then _ else _) = _
        rw [if_pos hlen]
        rfl
    · refine ⟨_, .forked hs fun tip ht => hti ⟨tip, ht⟩, fun fuel _ => ?_⟩
      simp only [resolveTransitions, hs]
      split
      · rename_i tip ht
        exact absurd ⟨tip, ht⟩ hti
      · rfl

inductive ResolutionState where
  | invalidReference
  | missing
  | malformed
  | missingParent
  | deletedUnknown
  | deleted
  | conflicting
  | active
  | revoked
  deriving DecidableEq

def Resolution.state : Resolution → ResolutionState
  | .invalidReference => .invalidReference
  | .missing => .missing
  | .malformed => .malformed
  | .missingParent => .missingParent
  | .deletedUnknown _ _ => .deletedUnknown
  | .deleted _ => .deleted
  | .conflicting _ => .conflicting
  | .settled .active _ _ => .active
  | .settled .revoked _ _ => .revoked

/-- The history as retained does not support a reading. -/
def Resolution.IsUnreadable (r : Resolution) : Prop := r = .malformed ∨ r = .missingParent

def Resolution.settledTerms : Resolution → Option (AuthorizationTerms × List AuthorizationTerms)
  | .settled _ tip ancestry => some (tip.terms, ancestry.map (·.terms))
  | _ => none

def Resolution.Agrees (r r' : Resolution) : Prop :=
  (r.state = r'.state ∨ r.IsUnreadable ∧ r'.IsUnreadable) ∧ r.settledTerms = r'.settledTerms

lemma anyM_map_congr {f g : Parsed → Option Bool}
    (h : ∀ a b : Parsed, a.terms = b.terms → f a = g b) {l m : List Parsed}
    (hlm : l.map (·.terms) = m.map (·.terms)) : l.anyM f = m.anyM g := by
  induction l generalizing m with
  | nil =>
    rw [map_nil, eq_comm, map_eq_nil_iff] at hlm
    rw [hlm]
    rfl
  | cons a l ih =>
    cases m with
    | nil => cases hlm
    | cons b m =>
      rw [map_cons, map_cons, cons.injEq] at hlm
      rw [anyM, anyM, h a b hlm.1, ih hlm.2]

section

variable (h : SameHistory events events')
include h

lemma walkFrom_terms (htip : tip'.terms = tip.terms) (fuel : Nat) :
    (walkFrom events' fuel tip').map (map (·.terms)) =
      (walkFrom events fuel tip).map (map (·.terms)) := by
  have hm := fun (l : List Parsed) (t : Parsed) => visit_map (fun e : Parsed => e.eventId)
    (·.parentIds) (transitionOf l) (·.terms) (·.eventId)
    (·.parentIds) (fun _ => rfl) (fun _ => rfl) fuel ⟨[], []⟩ t
  have ht : (fun id => (transitionOf events' id).map fun e : Parsed => e.terms) =
      fun id => (transitionOf events id).map fun e : Parsed => e.terms :=
    funext fun id => (h.terms id).symm
  have heq := (hm events' tip').symm.trans
    ((by rw [ht, htip] : _ = _).trans (hm events tip))
  have ho := congrArg (Option.map Visit.order) heq
  rw [Option.map_map, Option.map_map] at ho
  rw [walkFrom, walkFrom, Option.map_map, Option.map_map]
  exact ho

lemma descendsFrom_terms {a b : Parsed} (hab : a.terms = b.terms) (fuel : Nat) (targetId : Text) :
    descendsFrom events fuel a targetId = descendsFrom events' fuel b targetId := by
  have hm := fun (l : List Parsed) (t : Parsed) => descendsFrom_map
    (fun e : Parsed => e.parentIds) (transitionOf l) (·.terms) (·.parentIds) (fun _ => rfl) targetId fuel t
  have ht : (fun id => (transitionOf events' id).map fun e : Parsed => e.terms) =
      fun id => (transitionOf events id).map fun e : Parsed => e.terms :=
    funext fun id => (h.terms id).symm
  exact (hm events a).symm.trans ((by rw [ht, hab] : _ = _).trans (hm events' b))

lemma unrepaired_terms {ancestry ancestry' : List Parsed}
    (hanc : ancestry.map (·.terms) = ancestry'.map (·.terms)) (fuel : Nat)
    (market merchantPubkey : Text) (deletions : List SignedEvent) :
    unrepaired events ancestry fuel market merchantPubkey deletions =
      unrepaired events' ancestry' fuel market merchantPubkey deletions := by
  have hrep : ∀ deletionId targetId, repaired events ancestry fuel deletionId targetId =
      repaired events' ancestry' fuel deletionId targetId := by
    intro deletionId targetId
    refine anyM_map_congr (fun a b hab => ?_) hanc
    have hr : a.repairs = b.repairs := congrArg (·.repairs) hab
    have hid : a.eventId = b.eventId := congrArg (·.eventId) hab
    rw [hr, hid, h.isSome, descendsFrom_terms h hab]
  unfold unrepaired
  congr 1
  funext deletion
  congr 1
  funext targetId
  have ha : Applies events market merchantPubkey deletion targetId ↔
      Applies events' market merchantPubkey deletion targetId := by
    unfold Applies
    rw [h.isSome]
  by_cases hc : Applies events market merchantPubkey deletion targetId
  · rw [if_pos hc, if_pos (ha.1 hc), hrep]
  · rw [if_neg hc, if_neg (mt ha.2 hc)]

end

lemma LeftDeleted.congr (hm : ∀ d, d ∈ deletions ↔ d ∈ deletions') :
    LeftDeleted events ancestry market merchantPubkey deletions ↔
      LeftDeleted events ancestry market merchantPubkey deletions' := by
  unfold LeftDeleted
  simp only [hm]

lemma leftDeleted_terms (h : SameHistory events events') (hr : Readable events)
    (hr' : Readable events') (hs : events.findSome? (checkTransition events) = none)
    {ancestry ancestry' : List Parsed} (hw : Walked events tip ancestry)
    (hw' : Walked events' tip' ancestry') (ha : ancestry.map (·.terms) = ancestry'.map (·.terms))
    (hm : ∀ d, d ∈ deletions ↔ d ∈ deletions') :
    LeftDeleted events ancestry market merchantPubkey deletions ↔
      LeftDeleted events' ancestry' market merchantPubkey deletions' := by
  have hra := scan_ranks hr.nodup hr.nonneg hs
  have hra' := scan_ranks hr'.nodup hr'.nonneg (scan_passes h hs)
  obtain ⟨b, hb, hi⟩ := unrepaired_decides hr.nodup hra hr.bound hw.known le_rfl
    market merchantPubkey deletions
  obtain ⟨c, hc, hi'⟩ := unrepaired_decides hr'.nodup hra' hr'.bound hw'.known
    le_rfl market merchantPubkey deletions
  rw [unrepaired_terms h ha, hc] at hb
  cases hb
  exact hi.symm.trans (hi'.trans (LeftDeleted.congr hm))

lemma state_settled {state : AuthorizationState} {l l' : List Parsed} :
    (Resolution.settled state tip l).state = (Resolution.settled state tip' l').state := by
  cases state <;> rfl

lemma ResolvesTo.agrees (h : SameHistory events events') (hre : Readable events)
    (hre' : Readable events') (hmem : ∀ d, d ∈ deletions ↔ d ∈ deletions') {r' : Resolution}
    (hr : ResolvesTo events market merchantPubkey deletions r)
    (hr' : ResolvesTo events' market merchantPubkey deletions' r') : r.Agrees r' := by
  have hprob : ∀ {l : List Parsed} {q : Resolution},
      l.findSome? (checkTransition l) = some q → q.IsUnreadable ∧ q.settledTerms = none := by
    intro l q hq
    obtain ⟨e, -, he⟩ := exists_of_findSome?_eq_some hq
    rcases checkTransition_problem he with rfl | rfl
    · exact ⟨.inl rfl, rfl⟩
    · exact ⟨.inr rfl, rfl⟩
  have hsc : events.findSome? (checkTransition events) = none ↔
      events'.findSome? (checkTransition events') = none :=
    ⟨scan_passes h, scan_passes h.symm⟩
  -- once the scan passes, both walks start from the same tip
  have hsa : ∀ {tip tip' : Parsed} {ancestry ancestry' : List Parsed},
      tipsOf events = [tip] → tipsOf events' = [tip'] →
      (∀ fuel, maxFuel ≤ fuel → walkFrom events fuel tip = some ancestry) →
      (∀ fuel, maxFuel ≤ fuel → walkFrom events' fuel tip' = some ancestry') →
      tip.terms = tip'.terms ∧ ancestry.map (·.terms) = ancestry'.map fun e => e.terms := by
    intro tip tip' ancestry ancestry' ht ht' hw hw'
    obtain ⟨other, hoth, hte⟩ := tipsOf_singleton h ht
    obtain rfl : other = tip' := singleton_inj.1 (hoth.symm.trans ht')
    have hwa := walkFrom_terms h hte maxFuel
    rw [hw maxFuel le_rfl, hw' maxFuel le_rfl] at hwa
    exact ⟨hte.symm, (some.inj hwa).symm⟩
  have hle : ∀ {ancestry ancestry' : List Parsed},
      ancestry.map (·.terms) = ancestry'.map (·.terms) →
      (ancestry.length = events.length ↔ ancestry'.length = events'.length) := by
    intro ancestry ancestry' heq
    have := congrArg List.length heq
    rw [length_map, length_map] at this
    rw [this, h.length]
  cases hr with
  | problem hq =>
    obtain ⟨hbad, hn⟩ := hprob hq
    cases hr' with
    | problem hq' =>
      obtain ⟨hbad', hn'⟩ := hprob hq'
      exact ⟨.inr ⟨hbad, hbad'⟩, hn.trans hn'.symm⟩
    | forked hs' | apart hs' | deleted hs' | settled hs' =>
      rw [hsc.2 hs'] at hq
      cases hq
  | forked hs hti =>
    have hfork : ∀ {tip'}, tipsOf events' ≠ [tip'] := by
      intro tip' ht'
      obtain ⟨tip, ht, -⟩ := tipsOf_singleton h.symm ht'
      exact hti tip ht
    cases hr' with
    | problem hq' => rw [hsc.1 hs] at hq'; cases hq'
    | forked => exact ⟨.inl rfl, rfl⟩
    | apart _ ht' | deleted _ ht' | settled _ ht' => exact absurd ht' hfork
  | apart hs ht hwal hw hl =>
    cases hr' with
    | problem hq' => rw [hsc.1 hs] at hq'; cases hq'
    | forked => exact ⟨.inl rfl, rfl⟩
    | apart => exact ⟨.inl rfl, rfl⟩
    | deleted _ ht' _ hw' hl' | settled _ ht' _ hw' hl' =>
      exact absurd ((hle (hsa ht ht' hw hw').2).2 hl') hl
  | deleted hs ht hwal hw hl hleft =>
    cases hr' with
    | problem hq' => rw [hsc.1 hs] at hq'; cases hq'
    | forked _ hti' =>
      obtain ⟨tip', ht', -⟩ := tipsOf_singleton h ht
      exact absurd ht' (hti' tip')
    | apart _ ht' _ hw' hl' =>
      exact absurd ((hle (hsa ht ht' hw hw').2).1 hl) hl'
    | deleted => exact ⟨.inl rfl, rfl⟩
    | settled _ ht' hwal' hw' _ hleft' =>
      exact absurd ((leftDeleted_terms h hre hre' hs hwal hwal'
        (hsa ht ht' hw hw').2 hmem).1 hleft) hleft'
  | settled hs ht hwal hw hl hleft =>
    cases hr' with
    | problem hq' => rw [hsc.1 hs] at hq'; cases hq'
    | forked _ hti' =>
      obtain ⟨tip', ht', -⟩ := tipsOf_singleton h ht
      exact absurd ht' (hti' tip')
    | apart _ ht' _ hw' hl' =>
      exact absurd ((hle (hsa ht ht' hw hw').2).1 hl) hl'
    | deleted _ ht' hwal' hw' _ hleft' =>
      exact absurd ((leftDeleted_terms h hre hre' hs hwal hwal'
        (hsa ht ht' hw hw').2 hmem).2 hleft') hleft
    | @settled tip' ancestry' _ ht' _ hw' =>
      obtain ⟨hte, hanc⟩ := hsa ht ht' hw hw'
      refine ⟨.inl ?_, congrArg some (Prod.ext hte hanc)⟩
      rw [show ParsedEventMarketAuthorization.toAuthorizationTerms _ = _ from hte]
      exact state_settled

end

section
variable {P : StockPlatform} {isVerifiedNostrEvent : SignedEvent → Bool}

def IdsBindContent (events : List SignedEvent) : Prop :=
  ∀ e ∈ events, ∀ e' ∈ events, e.id = e'.id → { e with sig := e'.sig } = e'

lemma parseSequence_eq_some {tag : List Text} {n : Int} (h : parseSequence tag = some n) :
    0 ≤ n ∧ n ≤ maxSequence := by
  simp only [parseSequence, run_gives] at h
  obtain ⟨text, -, hg, hn⟩ := h
  cases hn
  exact ⟨Int.natCast_nonneg _, hg.2⟩

variable {r : Resolution} {input : ResolutionInput} {event : SignedEvent} {fuel fuel' : Nat}
  {market merchantPubkey : Text} {deletions : List SignedEvent}
  {parsed : Parsed} {events : List Parsed}

section

variable (h : parseEventMarketAuthorizationFieldsForPrivateOrder P event = some parsed)
include h

lemma parseFields_eq_some :
    parsed.signedEvent = event ∧ parsed.eventId = event.id ∧ 0 ≤ parsed.sequence ∧
      parsed.sequence ≤ maxSequence := by
  simp only [parseEventMarketAuthorizationFieldsForPrivateOrder, run_gives, bind_eq_some_iff] at h
  obtain ⟨-, -, -, -, -, -, market, -, -, merchant, -, -, state, -, sequence, ⟨tag, -, hs⟩,
    -, -, -, parents, -, -, repairs, -, hp⟩ := h
  cases hp
  exact ⟨rfl, rfl, parseSequence_eq_some hs⟩

lemma parseFields_terms {sig : Text} {parsed' : Parsed}
    (h' : parseEventMarketAuthorizationFieldsForPrivateOrder P { event with sig := sig } =
      some parsed') : parsed.terms = parsed'.terms := by
  simp only [parseEventMarketAuthorizationFieldsForPrivateOrder, run_gives, bind_eq_some_iff]
    at h h'
  obtain ⟨-, -, -, -, address, ha, market, ⟨value, hv, hmkt⟩, -, merchant,
    ⟨merchantTag, hmer, hm⟩, -, state, ⟨stateTag, hstat, hst⟩, sequence,
    ⟨sequenceTag, hseq, hs⟩, -, -, -, parents, hp, -, repairs, hr,
    hprs⟩ := h
  obtain ⟨-, -, -, -, address', ha', market', ⟨value', hv', hmkt'⟩, -, merchant',
    ⟨merchantTag', hmer', hm'⟩, -, state', ⟨stateTag', hstat', hst'⟩,
    sequence', ⟨sequenceTag', hseq', hs'⟩, -, -, -, parents', hp', -, repairs',
    hr', hprs'⟩ := h'
  obtain rfl : address = address' := some.inj (ha.symm.trans ha')
  obtain rfl : value = value' := some.inj (hv.symm.trans hv')
  obtain rfl : market = market' := some.inj (hmkt.symm.trans hmkt')
  obtain rfl : merchantTag = merchantTag' := some.inj (hmer.symm.trans hmer')
  obtain rfl : merchant = merchant' := some.inj (hm.symm.trans hm')
  obtain rfl : stateTag = stateTag' := some.inj (hstat.symm.trans hstat')
  obtain rfl : state = state' := some.inj (hst.symm.trans hst')
  obtain rfl : sequenceTag = sequenceTag' := some.inj (hseq.symm.trans hseq')
  obtain rfl : sequence = sequence' := some.inj (hs.symm.trans hs')
  obtain rfl : parents = parents' := some.inj (hp.symm.trans hp')
  obtain rfl : repairs = repairs' := some.inj (hr.symm.trans hr')
  cases hprs
  cases hprs'
  rfl

end

lemma parseEvent_eq_some :
    parseEventMarketAuthorizationEvent P isVerifiedNostrEvent event = some parsed ↔
      isVerifiedNostrEvent event = true ∧
        parseEventMarketAuthorizationFieldsForPrivateOrder P event = some parsed := by
  unfold parseEventMarketAuthorizationEvent
  by_cases h : isVerifiedNostrEvent event = true
  · simp [h]
  · simp [h]

/-- How the reduction of an input comes about. -/
inductive Reduces (P : StockPlatform) (isVerifiedNostrEvent : SignedEvent → Bool)
    (input : ResolutionInput) : Resolution → Prop
  | invalid (h : ∀ market, CheckoutSpark.parseAddressableCoordinate P.toPlatform
      input.marketCoordinate [30409] = some market → ¬ IsHex64 input.merchantPubkey) :
    Reduces P isVerifiedNostrEvent input .invalidReference
  | malformed {market : CheckoutSpark.AddressableCoordinate} {event : SignedEvent}
    (hmarket : CheckoutSpark.parseAddressableCoordinate P.toPlatform input.marketCoordinate
      [30409] = some market) (hmerchant : IsHex64 input.merchantPubkey)
    (hmem : event ∈ scopedTransitions isVerifiedNostrEvent market input)
    (hparse : parseEventMarketAuthorizationEvent P isVerifiedNostrEvent event = none) :
    Reduces P isVerifiedNostrEvent input .malformed
  | unseen {market : CheckoutSpark.AddressableCoordinate}
    (hmarket : CheckoutSpark.parseAddressableCoordinate P.toPlatform input.marketCoordinate
      [30409] = some market) (hmerchant : IsHex64 input.merchantPubkey)
    (hempty : scopedTransitions isVerifiedNostrEvent market input = []) :
    Reduces P isVerifiedNostrEvent input (resolveDeletions market.coordinate input.merchantPubkey
      (acceptedDeletions isVerifiedNostrEvent market input))
  | seen {market : CheckoutSpark.AddressableCoordinate} {parsed : List Parsed} {r : Resolution}
    (hmarket : CheckoutSpark.parseAddressableCoordinate P.toPlatform input.marketCoordinate
      [30409] = some market) (hmerchant : IsHex64 input.merchantPubkey)
    (hparsed : (scopedTransitions isVerifiedNostrEvent market input).mapM
      (parseEventMarketAuthorizationEvent P isVerifiedNostrEvent) = some parsed)
    (hsome : scopedTransitions isVerifiedNostrEvent market input ≠ [])
    (h : ResolvesTo (retained parsed) market.coordinate input.merchantPubkey
      (acceptedDeletions isVerifiedNostrEvent market input) r) :
    Reduces P isVerifiedNostrEvent input r

lemma readable_retained {l : List SignedEvent} {parsed : List Parsed}
    (h : l.mapM (parseEventMarketAuthorizationEvent P isVerifiedNostrEvent) = some parsed) :
    Readable (retained parsed) := by
  have hr := retains parsed
  have hp : ∀ e ∈ retained parsed, 0 ≤ e.sequence ∧ e.sequence ≤ maxSequence := by
    intro e he
    obtain ⟨event, -, hev⟩ := (mapM_eq_some_mem h).1 e (hr.from_entries e he)
    exact (parseFields_eq_some (parseEvent_eq_some.1 hev).2).2.2
  exact ⟨hr.nodup, fun e he => (hp e he).1, fun e he => (hp e he).2⟩

lemma resolve_reduces (input : ResolutionInput) : ∃ r, Reduces P isVerifiedNostrEvent input r ∧
    ∀ fuel, maxFuel ≤ fuel →
      resolveEventMarketAuthorization P isVerifiedNostrEvent fuel input = some r := by
  cases hm : CheckoutSpark.parseAddressableCoordinate P.toPlatform input.marketCoordinate
      [30409] with
  | none =>
    refine ⟨_, .invalid fun market h => ?_, fun _ _ => ?_⟩
    · rw [hm] at h
      cases h
    · rw [resolveEventMarketAuthorization, reduceEventMarketAuthorization, hm]
  | some market =>
    by_cases hmer : IsHex64 input.merchantPubkey
    · cases hprs : (scopedTransitions isVerifiedNostrEvent market input).mapM
          (parseEventMarketAuthorizationEvent P isVerifiedNostrEvent) with
      | none =>
        obtain ⟨event, hmem, hpa⟩ := mapM_eq_none.1 hprs
        refine ⟨_, .malformed hm hmer hmem hpa, fun _ _ => ?_⟩
        simp [resolveEventMarketAuthorization, reduceEventMarketAuthorization, hm, hmer, hprs]
      | some parsed =>
        have hret := retains parsed
        cases he : retained parsed with
        | nil =>
          have hemp : scopedTransitions isVerifiedNostrEvent market input = [] := by
            refine eq_nil_iff_forall_not_mem.2 fun event hmem => ?_
            obtain ⟨p, hp, -⟩ := (mapM_eq_some_mem hprs).2 event hmem
            have := hret.held p hp
            rw [he] at this
            cases this
          refine ⟨_, .unseen hm hmer hemp, fun _ _ => ?_⟩
          simp [resolveEventMarketAuthorization, reduceEventMarketAuthorization, hm, hmer, hprs, he]
        | cons first rest =>
          have hs : scopedTransitions isVerifiedNostrEvent market input ≠ [] := by
            intro hemp
            rw [hemp] at hprs
            obtain rfl : parsed = [] := (some.inj hprs).symm
            cases he
          obtain ⟨r, hr, hres⟩ := resolveTransitions_resolves (readable_retained hprs)
            market.coordinate input.merchantPubkey
            (acceptedDeletions isVerifiedNostrEvent market input)
          refine ⟨r, .seen hm hmer hprs hs hr, fun fuel hf => ?_⟩
          rw [he] at hres
          simp [resolveEventMarketAuthorization, reduceEventMarketAuthorization, hm, hmer,
            hprs, he, hres fuel hf]
    · refine ⟨_, .invalid fun _ _ => hmer, fun _ _ => ?_⟩
      simp [resolveEventMarketAuthorization, reduceEventMarketAuthorization, hm, hmer]

lemma unrepaired_mono {ancestry : List Parsed} (h : fuel ≤ fuel') {b : Bool}
    (hb : unrepaired events ancestry fuel market merchantPubkey deletions = some b) :
    unrepaired events ancestry fuel' market merchantPubkey deletions = some b := by
  refine anyM_some_mono (fun deletion c hc => anyM_some_mono (fun targetId d hd => ?_) hc) hb
  split at hd
  · refine (if_pos ‹_›).trans ?_
    obtain ⟨e, he, hn⟩ := map_eq_some_iff.1 hd
    refine map_eq_some_iff.2 ⟨e, anyM_some_mono (fun transition f hf => ?_) he, hn⟩
    split at hf
    · refine (if_pos ‹_›).trans ?_
      exact descendsFrom_mono h hf
    · refine (if_neg ‹_›).trans ?_
      exact hf
  · refine (if_neg ‹_›).trans ?_
    exact hd

lemma resolveTransitions_mono (h : fuel ≤ fuel')
    (hr : resolveTransitions fuel market merchantPubkey events deletions = some r) :
    resolveTransitions fuel' market merchantPubkey events deletions = some r := by
  unfold resolveTransitions at hr ⊢
  split at hr
  · exact hr
  · split at hr
    · obtain ⟨ancestry, hw, hre⟩ := bind_eq_some_iff.1 hr
      obtain ⟨v, hv, hv'⟩ := map_eq_some_iff.1 hw
      refine bind_eq_some_iff.2 ⟨ancestry, ?_, ?_⟩
      · exact map_eq_some_iff.2 ⟨v, visit_mono h hv, hv'⟩
      · split at hre
        · rw [if_pos ‹_›]
          exact hre
        · rw [if_neg ‹_›]
          obtain ⟨b, hb, hd⟩ := bind_eq_some_iff.1 hre
          exact bind_eq_some_iff.2 ⟨b, unrepaired_mono h hb, hd⟩
    · exact hr

lemma resolveEventMarketAuthorization_mono (h : fuel ≤ fuel')
    (hr : resolveEventMarketAuthorization P isVerifiedNostrEvent fuel input = some r) :
    resolveEventMarketAuthorization P isVerifiedNostrEvent fuel' input = some r := by
  unfold resolveEventMarketAuthorization reduceEventMarketAuthorization at hr ⊢
  split at hr
  · exact hr
  · split at hr
    · rw [if_pos ‹_›]
      exact hr
    · rw [if_neg ‹_›]
      split at hr
      · exact hr
      · dsimp only at hr ⊢
        split at hr
        · exact hr
        · exact resolveTransitions_mono h hr

/-- With fuel enough, the resolution is `r`. -/
def Settles (P : StockPlatform) (isVerifiedNostrEvent : SignedEvent → Bool)
    (input : ResolutionInput) (r : Resolution) : Prop :=
  ∃ n, ∀ fuel, n ≤ fuel → resolveEventMarketAuthorization P isVerifiedNostrEvent fuel input = some r

lemma settles_of_resolve {n : Nat}
    (h : resolveEventMarketAuthorization P isVerifiedNostrEvent n input = some r) :
    Settles P isVerifiedNostrEvent input r :=
  ⟨n, fun _ hle => resolveEventMarketAuthorization_mono hle h⟩

lemma Settles.reduces (h : Settles P isVerifiedNostrEvent input r) :
    Reduces P isVerifiedNostrEvent input r := by
  obtain ⟨n, hn⟩ := h
  have hres : ∃ r, Reduces P isVerifiedNostrEvent input r ∧ ∀ fuel, maxFuel ≤ fuel →
      resolveEventMarketAuthorization P isVerifiedNostrEvent fuel input = some r :=
    resolve_reduces input
  obtain ⟨r', hr', hf⟩ := hres
  have heq := (hn (max n maxFuel) (le_max_left _ _)).symm.trans
    (hf (max n maxFuel) (le_max_right _ _))
  rw [some.inj heq]
  exact hr'

structure SameObservations (input input' : ResolutionInput) : Prop where
  market : input'.marketCoordinate = input.marketCoordinate
  merchant : input'.merchantPubkey = input.merchantPubkey
  transitions : ∀ e, e ∈ input'.transitions ↔ e ∈ input.transitions
  deletions : ∀ e, e ∈ input'.deletions ↔ e ∈ input.deletions

section
variable {input input' : ResolutionInput} {market : CheckoutSpark.AddressableCoordinate}
  {ancestry : List Parsed} {event : SignedEvent} {deletions : List SignedEvent}
  {tip : Parsed}

lemma mem_scopedTransitions : event ∈ scopedTransitions isVerifiedNostrEvent market input ↔
      event ∈ input.transitions ∧ (event.kind = 3841 ∧ event.pubkey = market.authorPubkey ∧
        IsScoped event market.coordinate input.merchantPubkey) ∧
          isVerifiedNostrEvent event = true := by
  simp only [scopedTransitions, mem_filter, decide_eq_true_eq, and_assoc]

lemma mem_acceptedDeletions : event ∈ acceptedDeletions isVerifiedNostrEvent market input ↔
      event ∈ input.deletions ∧ event.kind = 5 ∧ event.pubkey = market.authorPubkey ∧
        isVerifiedNostrEvent event = true := by
  simp [acceptedDeletions]

lemma SameObservations.scoped (h : SameObservations input input') (event : SignedEvent) :
    event ∈ scopedTransitions isVerifiedNostrEvent market input' ↔
      event ∈ scopedTransitions isVerifiedNostrEvent market input := by
  rw [mem_scopedTransitions, mem_scopedTransitions, h.transitions, h.merchant]

lemma SameObservations.accepted (h : SameObservations input input') (event : SignedEvent) :
    event ∈ acceptedDeletions isVerifiedNostrEvent market input' ↔
      event ∈ acceptedDeletions isVerifiedNostrEvent market input := by
  rw [mem_acceptedDeletions, mem_acceptedDeletions, h.deletions]

variable {coord merchantPubkey : Text}

lemma resolveDeletions_eq : (resolveDeletions coord merchantPubkey deletions).settledTerms = none ∧
      (resolveDeletions coord merchantPubkey deletions).state =
        if ∃ d ∈ deletions,
            IsScoped d coord merchantPubkey ∧ ∃ id ∈ targetIds d, IsHex64 id then
          .deletedUnknown
        else .missing := by
  simp only [resolveDeletions]
  by_cases h : ∃ d ∈ deletions,
      IsScoped d coord merchantPubkey ∧ ∃ id ∈ targetIds d, IsHex64 id
  · have hne : deletions.filter (fun d => IsScoped d coord merchantPubkey ∧
        ∃ id ∈ targetIds d, IsHex64 id) ≠ [] := by
      obtain ⟨d, hd, hs⟩ := h
      exact ne_nil_of_mem (mem_filter.2 ⟨hd, decide_eq_true hs⟩)
    rw [if_neg hne, if_pos h]
    exact ⟨rfl, rfl⟩
  · have hn : deletions.filter (fun d => IsScoped d coord merchantPubkey ∧
        ∃ id ∈ targetIds d, IsHex64 id) = [] := by
      rw [filter_eq_nil_iff]
      exact fun d hd hs => h ⟨d, hd, of_decide_eq_true hs⟩
    rw [if_pos hn, if_neg h]
    exact ⟨rfl, rfl⟩

lemma resolveDeletions_agrees {deletions' : List SignedEvent}
    (h : ∀ d, d ∈ deletions ↔ d ∈ deletions') :
    (resolveDeletions coord merchantPubkey deletions).Agrees
      (resolveDeletions coord merchantPubkey deletions') := by
  refine ⟨.inl ?_, resolveDeletions_eq.1.trans resolveDeletions_eq.1.symm⟩
  rw [resolveDeletions_eq.2, resolveDeletions_eq.2]
  simp only [h]

lemma sameHistory_of_parsed {l l' : List SignedEvent} {parsed parsed' : List Parsed}
    (hp : l.mapM (parseEventMarketAuthorizationEvent P isVerifiedNostrEvent) = some parsed)
    (hp' : l'.mapM (parseEventMarketAuthorizationEvent P isVerifiedNostrEvent) = some parsed')
    (hb : IdsBindContent l) (hm : ∀ e, e ∈ l' ↔ e ∈ l) :
    SameHistory (retained parsed) (retained parsed') := by
  have hr := retains parsed
  have hr' := retains parsed'
  have hev : ∀ {k : List SignedEvent} {q : List Parsed} {e : Parsed},
      k.mapM (parseEventMarketAuthorizationEvent P isVerifiedNostrEvent) = some q → e ∈ q →
      ∃ event ∈ k, event.id = e.eventId ∧
        parseEventMarketAuthorizationFieldsForPrivateOrder P event = some e := by
    intro k q e hk he
    obtain ⟨event, hm, hprs⟩ := (mapM_eq_some_mem hk).1 e he
    have hf := (parseEvent_eq_some.1 hprs).2
    exact ⟨event, hm, (parseFields_eq_some hf).2.1.symm, hf⟩
  have hids : ∀ id, id ∈ (retained parsed).map (·.eventId) ↔
      id ∈ (retained parsed').map fun e => e.eventId := by
    have ho : ∀ {k k' : List SignedEvent} {q q' : List Parsed}, (∀ e, e ∈ k → e ∈ k') →
        k.mapM (parseEventMarketAuthorizationEvent P isVerifiedNostrEvent) = some q →
        k'.mapM (parseEventMarketAuthorizationEvent P isVerifiedNostrEvent) = some q' →
        ∀ id, id ∈ (retained q).map (·.eventId) → id ∈ (retained q').map fun e => e.eventId := by
      intro k k' q q' hs hk hk' id hid
      obtain ⟨e, he, rfl⟩ := mem_map.1 hid
      obtain ⟨event, hm, hprs⟩ :=
        (mapM_eq_some_mem hk).1 e ((retains q).from_entries e he)
      obtain ⟨e', he', hprs'⟩ := (mapM_eq_some_mem hk').2 event (hs event hm)
      obtain rfl : e' = e := some.inj (hprs'.symm.trans hprs)
      exact (retains q').held e' he'
    exact fun id => ⟨ho (fun e => (hm e).2) hp hp' id, ho (fun e => (hm e).1) hp' hp id⟩
  refine ⟨hr.nodup, hr'.nodup, fun id => ?_⟩
  cases hg : transitionOf (retained parsed) id with
  | none =>
    rw [transitionOf_eq_none.2 (mt (hids id).2 (transitionOf_eq_none.1 hg))]
  | some e =>
    have hid := (hids id).1 (transitionOf_isSome.1 (by rw [hg]; rfl))
    obtain ⟨e', hg'⟩ := isSome_iff_exists.1 (transitionOf_isSome.2 hid)
    obtain ⟨he, hi⟩ := (transitionOf_eq_some hr.nodup).1 hg
    obtain ⟨he', hi'⟩ := (transitionOf_eq_some hr'.nodup).1 hg'
    obtain ⟨event, hev₁, hid₁, hprs₁⟩ := hev hp (hr.from_entries e he)
    obtain ⟨event', hev₂, hid₂, hprs₂⟩ := hev hp' (hr'.from_entries e' he')
    have hc := hb event hev₁ event' ((hm event').1 hev₂)
      (by rw [hid₁, hid₂, hi, hi'])
    rw [← hc] at hprs₂
    rw [hg', map_some, map_some, parseFields_terms hprs₁ hprs₂]

lemma Reduces.agrees (h : SameObservations input input')
    (hb : IdsBindContent input.transitions) {r r' : Resolution}
    (hr : Reduces P isVerifiedNostrEvent input r)
    (hr' : Reduces P isVerifiedNostrEvent input' r') : r.Agrees r' := by
  have hu : ∀ {k k' : List SignedEvent} {q : List Parsed} {event : SignedEvent},
      event ∈ k → parseEventMarketAuthorizationEvent P isVerifiedNostrEvent event = none →
      k'.mapM (parseEventMarketAuthorizationEvent P isVerifiedNostrEvent) = some q →
      (∀ e, e ∈ k → e ∈ k') → False := by
    intro k k' q event hmem hn hk hsub
    obtain ⟨e, -, he⟩ := (mapM_eq_some_mem hk).2 event (hsub event hmem)
    rw [hn] at he
    cases he
  cases hr with
  | invalid hi =>
    cases hr' with
    | invalid => exact ⟨.inl rfl, rfl⟩
    | malformed hm hmer | unseen hm hmer | seen hm hmer =>
      rw [h.market] at hm
      exact absurd (h.merchant ▸ hmer) (hi _ hm)
  | @malformed market event hm hmer hmem hn =>
    cases hr' with
    | invalid hi =>
      exact absurd (h.merchant.symm ▸ hmer) (hi market (by rw [h.market, hm]))
    | malformed => exact ⟨.inl rfl, rfl⟩
    | unseen hm' _ hemp =>
      rw [h.market, hm] at hm'
      cases hm'
      have := (h.scoped event).2 hmem
      rw [hemp] at this
      cases this
    | seen hm' _ hp =>
      rw [h.market, hm] at hm'
      cases hm'
      exact (hu hmem hn hp fun e => (h.scoped e).2).elim
  | @unseen market hm hmer hemp =>
    cases hr' with
    | invalid hi =>
      exact absurd (h.merchant.symm ▸ hmer) (hi market (by rw [h.market, hm]))
    | @malformed market' event hm' _ hmem =>
      rw [h.market, hm] at hm'
      cases hm'
      have := (h.scoped event).1 hmem
      rw [hemp] at this
      cases this
    | unseen hm' =>
      rw [h.market, hm] at hm'
      cases hm'
      rw [h.merchant]
      exact resolveDeletions_agrees fun d => (h.accepted d).symm
    | seen hm' _ _ hs =>
      rw [h.market, hm] at hm'
      cases hm'
      refine absurd (eq_nil_iff_forall_not_mem.2 fun event hmem => ?_) hs
      have := (h.scoped event).1 hmem
      rw [hemp] at this
      cases this
  | @seen market parsed _ hm hmer hp hs hr =>
    cases hr' with
    | invalid hi =>
      exact absurd (h.merchant.symm ▸ hmer) (hi market (by rw [h.market, hm]))
    | malformed hm' _ hmem hn =>
      rw [h.market, hm] at hm'
      cases hm'
      exact (hu hmem hn hp fun e => (h.scoped e).1).elim
    | unseen hm' _ hemp =>
      rw [h.market, hm] at hm'
      cases hm'
      refine absurd (eq_nil_iff_forall_not_mem.2 fun event hmem => ?_) hs
      have := (h.scoped event).2 hmem
      rw [hemp] at this
      cases this
    | seen hm' _ hp' _ hr' =>
      rw [h.market, hm] at hm'
      cases hm'
      rw [h.merchant] at hr'
      have hsc : IdsBindContent (scopedTransitions isVerifiedNostrEvent market input) :=
        fun e he e' he' => hb e (mem_scopedTransitions.1 he).1 e' (mem_scopedTransitions.1 he').1
      exact hr.agrees (sameHistory_of_parsed hp hp' hsc fun e => h.scoped e)
        (readable_retained hp) (readable_retained hp') (fun d => (h.accepted d).symm) hr'

/-- What an active or revoked resolution rests on. -/
structure Admits (isVerifiedNostrEvent : SignedEvent → Bool) (P : StockPlatform)
    (input : ResolutionInput) (market : CheckoutSpark.AddressableCoordinate)
    (state : AuthorizationState) (tip : Parsed) (ancestry : List Parsed) : Prop where
  state_eq : state = tip.state
  observed : ∀ event ∈ scopedTransitions isVerifiedNostrEvent market input,
    event.id ∈ ancestry.map (·.eventId)
  authentic : ∀ a ∈ ancestry, a.signedEvent ∈ scopedTransitions isVerifiedNostrEvent market input ∧
    parseEventMarketAuthorizationEvent P isVerifiedNostrEvent a.signedEvent = some a
  nodup : (ancestry.map (·.eventId)).Nodup
  topological : Topological (fun e : Parsed => e.eventId) (·.parentIds) ancestry
  tip_mem : tip ∈ ancestry
  single_tip : ∀ a ∈ ancestry, (∀ child ∈ ancestry, a.eventId ∉ child.parentIds) ↔ a = tip
  ancestors : ∀ a ∈ ancestry, a = tip ∨ DescendsIn ancestry tip a.eventId
  repaired : ∀ deletion ∈ acceptedDeletions isVerifiedNostrEvent market input,
    ∀ targetId ∈ targetIds deletion,
      targetId ∈ ancestry.map (·.eventId) ∨
        IsScoped deletion market.coordinate input.merchantPubkey →
      ∃ transition ∈ ancestry,
        { deletionId := deletion.id, targetId } ∈ transition.repairs ∧
          DescendsIn ancestry transition targetId

lemma Walked.perm {events : List Parsed} (h : Walked events tip ancestry)
    (hl : ancestry.length = events.length) : ancestry.Perm events :=
  (subperm_of_subset (Nodup.of_map _ h.nodup) h.known).perm_of_length_le hl.ge

lemma Reduces.admits {state : AuthorizationState}
    (h : Reduces P isVerifiedNostrEvent input (.settled state tip ancestry)) :
    ∃ market, CheckoutSpark.parseAddressableCoordinate P.toPlatform input.marketCoordinate
        [30409] = some market ∧
      Admits isVerifiedNostrEvent P input market state tip ancestry := by
  generalize hr : Resolution.settled state tip ancestry = r at h
  cases h with
  | invalid | malformed => cases hr
  | unseen =>
    have hn := congrArg Resolution.settledTerms hr
    rw [resolveDeletions_eq.1] at hn
    cases hn
  | @seen market parsed _ hm hmer hpa hsome h =>
    refine ⟨market, hm, ?_⟩
    subst hr
    cases h with
    | problem hq =>
      obtain ⟨e, -, he⟩ := exists_of_findSome?_eq_some hq
      rcases checkTransition_problem he with hb | hb <;> cases hb
    | settled hscan htip hw hwalk hlen hl =>
      have hret := retains parsed
      have hpm := hw.perm hlen
      have hlk : transitionOf ancestry = transitionOf (retained parsed) :=
        funext fun id => Keyed.find?_key_perm hret.nodup hpm id
      have hi : ∀ id, id ∈ ancestry.map (·.eventId) ↔
          id ∈ (retained parsed).map fun e => e.eventId :=
        fun id => (hpm.map _).mem_iff
      refine ⟨rfl, fun event hev => ?_, fun a ha => ?_, hw.nodup, hw.topological,
        hw.tip_mem, fun a ha => ?_, fun a ha => ?_,
        fun deletion hd id hid happ => ?_⟩
      · obtain ⟨p, hp, hprs⟩ := (mapM_eq_some_mem hpa).2 event hev
        rw [hi, ← (parseFields_eq_some (parseEvent_eq_some.1 hprs).2).2.1]
        exact hret.held p hp
      · obtain ⟨event, hev, hprs⟩ :=
          (mapM_eq_some_mem hpa).1 a (hret.from_entries a (hw.known a ha))
        rw [(parseFields_eq_some (parseEvent_eq_some.1 hprs).2).1]
        exact ⟨hev, hprs⟩
      · have ht : a ∈ tipsOf (retained parsed) ↔ a = tip := by
          rw [htip, mem_singleton]
        rw [← ht, mem_tipsOf]
        refine ⟨fun hn => ⟨hw.known a ha, fun child hc => ?_⟩, fun hn child hc => ?_⟩
        · exact hn child (hpm.mem_iff.2 hc)
        · exact hn.2 child (hw.known child hc)
      · show a = tip ∨ Descends _ (transitionOf ancestry) a.eventId tip
        rw [hlk]
        exact hw.ancestors a ha
      · by_contra hcon
        refine hl ⟨deletion, hd, id, hid, ?_, fun hrep => hcon ?_⟩
        · rw [hi, ← transitionOf_isSome] at happ
          exact happ
        · obtain ⟨transition, hmem, hre, -, -, hdes⟩ := hrep
          refine ⟨transition, hmem, hre, ?_⟩
          show Descends _ (transitionOf ancestry) id transition
          rw [hlk]
          exact hdes

end

end

namespace Sample

def organizer : Text := hexText 64
  0xbc7f3324281b97322236a9d693569be3d9be2c589c25fddef07edfb58ef7a484

def merchant : Text := hexText 64
  0xdaec2a9dc1829df1633d8e5b023c83a3bb4f633a0d0f9abc244db3945be671aa

def market : Text := "30409:" ++ organizer ++ ":fair"

def transition (id createdAt : Nat) (state seq : Text) (parents : List Text) (sig : Nat) :
    SignedEvent where
  id := hexText 64 id
  pubkey := organizer
  createdAt := createdAt
  kind := 3841
  tags := ([["openmarkets", "event-market-auth", "1"], ["a", market], ["p", merchant],
    ["state", state], ["seq", seq]] : List (List Text)) ++
      parents.map (fun id => ["auth_parent".toList, id]) ++
      ([["alt", "Open Markets event merchant authorization"]] : List (List Text))
  content := ""
  sig := hexText 128 sig

def admitted : SignedEvent := transition
  0xab7170149a287f92b6d68ed790e64235763a1df4c6ce114555ecc2be901a45f0 1800000100 "active" "0" []
  0x860818726fd118dc95975d24fe65963d5b49e6215fda95142533982273ab279f28f603ddd33a0ed71344549995aed3b57eae6d7c181a2f1bbccf25566441939e

def revoked : SignedEvent := transition
  0xfdba8b487c4e4b84f92bfda4fc51fa82778b918845adb5099a4118d5d975dd32 1800000400 "revoked" "1"
  [admitted.id]
  0xd890930327d619b151ff1e5f1dbe25d5f62f4d9e6cd64a9c24bb25c3afbc1ec2a35915c9620046593ef660b157f47a58b1b570b7444a7a6a9e863d1788846687

def skipping : SignedEvent := transition
  0x652b0fb3fd87bfaedd0e5b54fb114d59bce5b3ec4faa888beeeb5be182326752 1800000200 "revoked" "2"
  [admitted.id]
  0x944d3c79caeb1a8ebb4cfff92c5e4c93c7e6cf62fde47a72cbff8469317523f509481eeb46af95fdc94f9ff14b95c829f86aa0cb45ef5222f24db086198c7be6

def orphan : SignedEvent := transition
  0x4f20062670faf4db451da76645df33a1cdb488ec79f61100c7a0af251ad8adc3 1800000300 "active" "1"
  [hexText 64 0x2de0bb6ce7f9cdbe34f6ebbebde589e42c7b9fb9188f51d42b4dbd62d74a81c8]
  0x581edfcae9ee1c0340fb8f45075eb3acf667db23221e54285aa88b3e3a7084a13f8af848024241c44ef2fa24ab041d87c5c4ca31f4647f5dce1b0bb1bd094015

def isVerified (event : SignedEvent) : Bool :=
  decide (event ∈ [admitted, revoked, skipping, orphan])

def observed (transitions : List SignedEvent) : ResolutionInput where
  marketCoordinate := market
  merchantPubkey := merchant
  transitions := transitions
  deletions := []

end Sample

end Conduit.Markets
