import Conduit.Network.Relays

namespace Conduit.Network

open Js Stock Throwing CheckoutSpark List Option

variable {l : List Text}

lemma sortUrls_ext {m : List Text} (hl : l.Nodup) (hm : m.Nodup) (h : ∀ u, u ∈ l ↔ u ∈ m) :
    sortUrls l = sortUrls m := by
  have hpm : l.Perm m := (perm_ext_iff_of_nodup hl hm).2 h
  refine Perm.eq_of_pairwise ?_ (pairwise_insertionSort TextLe l)
    (pairwise_insertionSort TextLe m) ((perm_insertionSort TextLe l).trans
      (hpm.trans (perm_insertionSort TextLe m).symm))
  intro a b _ _ hab hba
  exact textLe_antisymm hab hba

@[simp] lemma mem_sortUrls {u : Text} : u ∈ sortUrls l ↔ u ∈ l :=
  mem_insertionSort _

lemma nodup_sortUrls (h : l.Nodup) : (sortUrls l).Nodup :=
  (perm_insertionSort _ l).nodup_iff.2 h

structure Accepts (normalize : List Text → List Text) (accept : Text → Option Text) : Prop where
  nodup : ∀ urls, (normalize urls).Nodup
  mem : ∀ {urls url}, url ∈ normalize urls ↔ ∃ u ∈ urls, accept u = some url
  idem : ∀ {u url}, accept u = some url → accept url = some url

section
variable {normalize : List Text → List Text} {accept : Text → Option Text} {l m : List Text}

/-- Every address of the list stands for itself. -/
def Settled (accept : Text → Option Text) (l : List Text) : Prop := ∀ u ∈ l, accept u = some u

lemma Accepts.settled (h : Accepts normalize accept) (l : List Text) :
    Settled accept (normalize l) := by
  intro u hu
  obtain ⟨v, -, hv⟩ := h.mem.1 hu
  exact h.idem hv

variable {u : Text}

section

variable (h : Accepts normalize accept)
include h

lemma Accepts.mem_of_settled (hl : Settled accept l) : u ∈ normalize l ↔ u ∈ l := by
  rw [h.mem]
  constructor
  · rintro ⟨v, hv, hvu⟩
    rw [hl v hv] at hvu
    exact some_inj.1 hvu ▸ hv
  · intro hu
    exact ⟨u, hu, hl u hu⟩

lemma Accepts.mem_sort (hl : Settled accept l) : u ∈ sortUrls (normalize l) ↔ u ∈ l :=
  mem_sortUrls.trans (h.mem_of_settled hl)

lemma Accepts.settled_sort (l : List Text) : Settled accept (sortUrls (normalize l)) :=
  fun u hu => h.settled l u (mem_sortUrls.1 hu)

end

lemma Settled.append (hl : Settled accept l) (hm : Settled accept m) : Settled accept (l ++ m) :=
  fun u hu => (mem_append.1 hu).elim (hl u) (hm u)

lemma Settled.subset (hm : Settled accept m) (h : ∀ u ∈ l, u ∈ m) : Settled accept l :=
  fun u hu => hm u (h u hu)

lemma Accepts.sort_ext (h : Accepts normalize accept) (hl : Settled accept l)
    (hm : Settled accept m) (hlm : ∀ u, u ∈ l ↔ u ∈ m) :
    sortUrls (normalize l) = sortUrls (normalize m) := by
  apply sortUrls_ext (h.nodup l) (h.nodup m)
  intro u
  rw [h.mem_of_settled hl, h.mem_of_settled hm]
  exact hlm u

lemma Accepts.sort_idem (h : Accepts normalize accept) (l : List Text) :
    sortUrls (normalize (sortUrls (normalize l))) = sortUrls (normalize l) := by
  apply sortUrls_ext (h.nodup _) (h.nodup _)
  intro u
  rw [h.mem_of_settled (h.settled_sort l), mem_sortUrls]

def IsCanonical (normalize : List Text → List Text) (l : List Text) : Prop :=
  sortUrls (normalize l) = l

lemma IsCanonical.settled (h : Accepts normalize accept) (hl : IsCanonical normalize l) :
    Settled accept l := by
  rw [← show sortUrls (normalize l) = l from hl]
  exact h.settled_sort l

end

section
variable (P : NetworkPlatform)

def allowed (url : Text) : Bool :=
  match P.e2eRelayIsolation with
  | some isolated => decide (isolated = some url)
  | none => true

def acceptOwnerSelected (u : Text) : Option Text := (P.tryNormalizeRelayUrl u).filter (allowed P)

def acceptSecure (u : Text) : Option Text :=
  (acceptOwnerSelected P u).filter fun url =>
    P.e2eRelayIsolation.isSome || startsWith url "wss://".toList

lemma nodup_eraseDups (l : List Text) : l.eraseDups.Nodup := by
  induction hn : l.length using Nat.strong_induction_on generalizing l with
  | _ n ih =>
    cases l with
    | nil => simp
    | cons a l =>
      rw [eraseDups_cons, nodup_cons]
      have hl : (l.filter fun b => !b == a).length < n := by
        rw [← hn]
        exact Nat.lt_succ_of_le (length_filter_le _ l)
      refine ⟨?_, ih _ hl _ rfl⟩
      simp

variable {P}

lemma isolated_accepts (hP : P.Lawful) {isolated : Option Text} :
    Accepts (isolatedRelayUrls P isolated)
      (fun u => (P.tryNormalizeRelayUrl u).filter fun url => decide (isolated = some url)) where
  nodup := by
    intro urls
    unfold isolatedRelayUrls
    split
    · exact nodup_nil
    · split_ifs
      · exact nodup_singleton _
      · exact nodup_nil
  mem := by
    intro urls url
    unfold isolatedRelayUrls
    cases isolated with
    | none => simp [filter_eq_some_iff]
    | some iso =>
      by_cases h : ∃ u ∈ urls, P.tryNormalizeRelayUrl u = some iso
      · simp only [if_pos h, mem_singleton, filter_eq_some_iff, some.injEq,
          decide_eq_true_eq]
        constructor
        · rintro rfl
          obtain ⟨u, hu, hn⟩ := h
          exact ⟨u, hu, hn, rfl⟩
        · rintro ⟨u, -, -, rfl⟩
          rfl
      · simp only [if_neg h, not_mem_nil, filter_eq_some_iff, some.injEq,
          decide_eq_true_eq, false_iff]
        rintro ⟨u, hu, hn, rfl⟩
        exact h ⟨u, hu, hn⟩
  idem := by
    intro u url h
    simp only [filter_eq_some_iff] at h ⊢
    exact ⟨hP.idempotent h.1, h.2⟩

lemma ownerSelected_accepts (hP : P.Lawful) :
    Accepts (normalizeOwnerSelectedRelayUrls P) (acceptOwnerSelected P) := by
  unfold normalizeOwnerSelectedRelayUrls acceptOwnerSelected allowed
  cases hiso : P.e2eRelayIsolation with
  | some isolated => exact isolated_accepts hP
  | none =>
    refine ⟨fun urls => nodup_eraseDups _, ?_, ?_⟩
    · intro urls url
      simp [uniqueRelayUrls, filter_eq_some_iff]
    · intro u url h
      simp only [filter_eq_some_iff] at h ⊢
      exact ⟨hP.idempotent h.1, h.2⟩

lemma secure_accepts (hP : P.Lawful) :
    Accepts (normalizeSecureOrIsolatedE2eRelayUrls P) (acceptSecure P) := by
  unfold normalizeSecureOrIsolatedE2eRelayUrls acceptSecure acceptOwnerSelected allowed
  cases hiso : P.e2eRelayIsolation with
  | some isolated =>
    have ha : ∀ o : Option Text, (o.filter fun _ => true) = o := by
      intro o
      cases o <;> rfl
    simp only [isSome_some, Bool.true_or, ha]
    exact isolated_accepts hP
  | none =>
    refine ⟨fun urls => nodup_eraseDups _, ?_, ?_⟩
    · intro urls url
      simp only [normalizeSecureRelayUrls, mem_eraseDups, mem_filter,
        mem_filterMap, filter_eq_some_iff, and_true, isSome_none,
        Bool.false_or]
      constructor
      · rintro ⟨⟨u, hu, hn⟩, hw⟩
        exact ⟨u, hu, hn, hw⟩
      · rintro ⟨u, hu, hn, hw⟩
        exact ⟨⟨u, hu, hn⟩, hw⟩
    · intro u url h
      simp only [filter_eq_some_iff] at h ⊢
      exact ⟨⟨hP.idempotent h.1.1, h.1.2⟩, h.2⟩

end

end Conduit.Network
