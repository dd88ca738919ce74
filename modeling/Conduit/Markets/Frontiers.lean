import Conduit.Markets.Recovery
import Conduit.Network.RelaySets

namespace Conduit.Markets

open Js Stock CheckoutSpark List

def compareIds : Option Text → Option Text → Int
  | none, none => 0
  | none, some _ => -1
  | some _, none => 1
  | some i, some j => if i = j then 0 else if TextLe i j then 1 else -1

lemma compareIds_trans {a b c : Option Text} (hab : 0 ≤ compareIds a b)
    (hbc : 0 ≤ compareIds b c) : 0 ≤ compareIds a c := by
  cases a with
  | none =>
    cases b with
    | none => exact hbc
    | some j => simp [compareIds] at hab
  | some i =>
    cases b with
    | none =>
      cases c with
      | none => simp [compareIds]
      | some k => simp [compareIds] at hbc
    | some j =>
      cases c with
      | none => simp [compareIds]
      | some k =>
        have hle : ∀ {x y : Text}, 0 ≤ compareIds (some x) (some y) → TextLe x y := by
          intro x y h
          simp only [compareIds] at h
          split_ifs at h with heq hle
          · exact heq ▸ (Std.Total.total (r := TextLe) x x).elim (fun h => h) fun h => h
          · exact hle
          · omega
        have hik : TextLe i k := IsTrans.trans (r := TextLe) _ _ _ (hle hab) (hle hbc)
        simp only [compareIds]
        split_ifs <;> omega

lemma compareIds_antisymm {i j : Text} (h : 0 ≤ compareIds (some i) (some j))
    (h' : 0 ≤ compareIds (some j) (some i)) : i = j := by
  by_contra hne
  simp only [compareIds, if_neg hne, if_neg (Ne.symm hne)] at h h'
  split_ifs at h h' with hle hle'
  · exact hne (CheckoutSpark.textLe_antisymm hle hle')
  all_goals omega

lemma compareIds_flip {a b : Option Text} (h : compareIds a b ≤ 0) : 0 ≤ compareIds b a := by
  cases a with
  | none => cases b <;> simp [compareIds]
  | some i =>
    cases b with
    | none => simp [compareIds] at h
    | some j =>
      simp only [compareIds] at h ⊢
      rcases Std.Total.total (r := TextLe) i j with hle | hle
      · rw [if_pos hle] at h
        split_ifs at h with heq
        · rw [if_pos heq.symm]
        · omega
      · rw [if_pos hle]
        split_ifs <;> omega

def compareTimes : Option Int × Option Text → Option Int × Option Text → Int
  | (none, _), (none, _) => 0
  | (none, _), (some _, _) => -1
  | (some _, _), (none, _) => 1
  | (some x, i), (some y, j) => if x > y then 1 else if x < y then -1 else compareIds i j

def frontierOf (event : SignedEvent) : Option Int × Option Text :=
  (normalizeFrontierCreatedAt event.createdAt, normalizeFrontierEventId event.id)

lemma compare_eq (a b : SignedEvent) :
    compareReplaceableEventFrontiers a b = compareTimes (frontierOf a) (frontierOf b) := by
  unfold compareReplaceableEventFrontiers frontierOf
  cases normalizeFrontierCreatedAt a.createdAt with
  | none => cases normalizeFrontierCreatedAt b.createdAt <;> rfl
  | some x =>
    cases normalizeFrontierCreatedAt b.createdAt with
    | none => rfl
    | some y =>
      cases normalizeFrontierEventId a.id <;> cases normalizeFrontierEventId b.id <;> rfl

lemma compareTimes_flip {a b : Option Int × Option Text} (h : compareTimes a b ≤ 0) :
    0 ≤ compareTimes b a := by
  rcases a with ⟨_ | x, i⟩ <;> rcases b with ⟨_ | y, j⟩
  · simp [compareTimes]
  · simp [compareTimes]
  · simp [compareTimes] at h
  · have hids : compareIds i j ≤ 0 → 0 ≤ compareIds j i := compareIds_flip
    simp only [compareTimes] at h ⊢
    split_ifs at h ⊢ <;> omega

lemma compareTimes_trans {a b c : Option Int × Option Text} (hab : 0 ≤ compareTimes a b)
    (hbc : 0 ≤ compareTimes b c) : 0 ≤ compareTimes a c := by
  rcases a with ⟨_ | x, i⟩ <;> rcases b with ⟨_ | y, j⟩ <;> rcases c with ⟨_ | z, k⟩ <;>
    simp only [compareTimes] at hab hbc ⊢ <;> try omega
  -- Three known times: only a tie of all three leaves it to the ids.
  have hids : 0 ≤ compareIds i j → 0 ≤ compareIds j k → 0 ≤ compareIds i k := compareIds_trans
  split_ifs at hab hbc ⊢ <;> omega

lemma compare_flip {a b : SignedEvent} (h : ¬0 < compareReplaceableEventFrontiers a b) :
    0 ≤ compareReplaceableEventFrontiers b a := by
  rw [compare_eq] at h ⊢
  exact compareTimes_flip (not_lt.1 h)

lemma compare_total (a b : SignedEvent) :
    0 ≤ compareReplaceableEventFrontiers a b ∨ 0 ≤ compareReplaceableEventFrontiers b a := by
  by_cases h : 0 < compareReplaceableEventFrontiers a b
  · exact .inl h.le
  · exact .inr (compare_flip h)

lemma compare_trans {a b c : SignedEvent} (hab : 0 ≤ compareReplaceableEventFrontiers a b)
    (hbc : 0 ≤ compareReplaceableEventFrontiers b c) :
    0 ≤ compareReplaceableEventFrontiers a c := by
  rw [compare_eq] at hab hbc ⊢
  exact compareTimes_trans hab hbc

/-- The order in which revisions are sorted. -/
def NewerFirst (a b : SignedEvent) : Prop := 0 ≤ compareReplaceableEventFrontiers a b

instance : Std.Total NewerFirst := ⟨compare_total⟩

instance : IsTrans SignedEvent NewerFirst := ⟨fun _ _ _ => compare_trans⟩

instance : DecidableRel NewerFirst := fun _ _ => inferInstanceAs (Decidable (_ ≤ _))

lemma compare_self (a : SignedEvent) : 0 ≤ compareReplaceableEventFrontiers a a :=
  (compare_total a a).elim id id

lemma newest_spec {events : List SignedEvent} {event : SignedEvent}
    (h : newest events = some event) :
    event ∈ events ∧ ∀ e ∈ events, 0 ≤ compareReplaceableEventFrontiers event e := by
  have hs := pairwise_insertionSort NewerFirst events
  have hm : ∀ e, e ∈ insertionSort NewerFirst events ↔ e ∈ events :=
    fun e => mem_insertionSort _
  change (insertionSort NewerFirst events).head? = some event at h
  cases hl : insertionSort NewerFirst events with
  | nil =>
    rw [hl] at h
    cases h
  | cons first rest =>
    rw [hl] at h hs hm
    cases h
    refine ⟨(hm _).1 mem_cons_self, fun e he => ?_⟩
    rcases mem_cons.1 ((hm e).2 he) with rfl | hr
    · exact compare_self e
    · exact rel_of_pairwise_cons hs hr

/-- Ids are hashes of everything but the signature, and assignment coordinates of the tuple. -/
structure Sound (P : RecoveryPlatform) : Prop where
  id : ∀ e, P.isValidSignedEvent e = true → IsHex64 e.id
  createdAt : ∀ e, P.isValidSignedEvent e = true → IsSafeInteger e.createdAt ∧ 0 ≤ e.createdAt
  content : ∀ a b, P.isValidSignedEvent a = true → P.isValidSignedEvent b = true → a.id = b.id →
    a = { b with sig := a.sig } ∧ P.eventBytes a = P.eventBytes b
  tuple : ∀ a b r r', parseRevision P a = some r → parseRevision P b = some r' →
    r.coordinate = r'.coordinate → r.merchantPubkey = r'.merchantPubkey ∧
      r.marketCoordinate = r'.marketCoordinate ∧ r.productCoordinate = r'.productCoordinate

section
variable {P : RecoveryPlatform} {a b : SignedEvent}

lemma Sound.frontier (h : Sound P) (ha : P.isValidSignedEvent a = true) :
    frontierOf a = (some a.createdAt, some a.id) := by
  have hh := h.id a ha
  have hl : toLowerCase (trim a.id) = a.id := by
    rw [trim_of_all_isHexChar hh.2, toLowerCase,
      map_congr_left fun c hc => lowerChar_of_isHexChar (all_eq_true.1 hh.2 c hc)]
    exact map_id _
  have hne : a.id ≠ [] := by
    intro hn
    have := hh.1
    rw [hn] at this
    cases this
  unfold frontierOf normalizeFrontierCreatedAt normalizeFrontierEventId
  rw [if_pos (h.createdAt a ha), hl]
  simp [hne]

lemma Sound.id_eq_of_tie (h : Sound P) (ha : P.isValidSignedEvent a = true)
    (hb : P.isValidSignedEvent b = true) (hab : 0 ≤ compareReplaceableEventFrontiers a b)
    (hba : 0 ≤ compareReplaceableEventFrontiers b a) : a.id = b.id := by
  rw [compare_eq, h.frontier ha, h.frontier hb] at hab hba
  simp only [compareTimes] at hab hba
  split_ifs at hab hba with h₁ h₂ h₃ <;> try omega
  exact compareIds_antisymm hab hba

end

end Conduit.Markets
