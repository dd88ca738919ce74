import Mathlib.Algebra.BigOperators.Group.List.Basic
import Mathlib.Data.List.Nodup

namespace Conduit.Keyed

open List Option

variable {α κ : Type} [DecidableEq κ] {key : α → κ} {l : List α} {i : Nat} {a : α} {β : Type}
  {b : α}

lemma eq_of_key_eq (h : (l.map key).Nodup) (ha : a ∈ l) (hb : b ∈ l) (hab : key a = key b) :
    a = b :=
  inj_on_of_nodup_map h ha hb hab

lemma find?_key_iff (h : (l.map key).Nodup) {k : κ} :
    l.find? (fun c => decide (key c = k)) = some a ↔ a ∈ l ∧ key a = k := by
  constructor
  · intro hf
    exact ⟨mem_of_find?_eq_some hf, by simpa using find?_some hf⟩
  · rintro ⟨ha, hk⟩
    cases hf : l.find? (fun c => decide (key c = k)) with
    | none =>
      have := find?_eq_none.1 hf a ha
      simp [hk] at this
    | some b =>
      have hb := mem_of_find?_eq_some hf
      have hbk : key b = k := by simpa using find?_some hf
      rw [eq_of_key_eq h hb ha (hbk.trans hk.symm)]

lemma find?_key_perm {l m : List α} (h : (l.map key).Nodup) (hp : m.Perm l) (k : κ) :
    m.find? (fun c => decide (key c = k)) = l.find? (fun c => decide (key c = k)) := by
  have hm : (m.map key).Nodup := (hp.map key).nodup_iff.2 h
  apply ext
  intro a
  rw [find?_key_iff h, find?_key_iff hm, hp.mem_iff]

lemma map_set {f : α → β} (ha : l[i]? = some a) (hab : f b = f a) :
    (l.set i b).map f = l.map f := by
  apply ext_getElem?
  intro j
  rw [List.getElem?_map, List.getElem?_map, List.getElem?_set]
  by_cases hij : i = j
  · subst hij
    obtain ⟨hi, -⟩ := List.getElem?_eq_some_iff.1 ha
    rw [if_pos rfl, if_pos hi, ha, map_some, map_some, hab]
  · rw [if_neg hij]

lemma split_at {l : List β} {a : β} (h : l[i]? = some a) :
    ∃ before after, l = before ++ a :: after ∧ (∀ b, l.set i b = before ++ b :: after) ∧
      l.eraseIdx i = before ++ after := by
  induction l generalizing i with
  | nil => cases h
  | cons c l ih =>
    cases i with
    | zero =>
      obtain rfl : c = a := by simpa using h
      exact ⟨[], l, rfl, fun _ => rfl, rfl⟩
    | succ i =>
      obtain ⟨before, after, hl, hs, he⟩ := ih (by simpa using h)
      exact ⟨c :: before, after, by rw [hl]; rfl, fun b => by rw [set_cons_succ, hs]; rfl,
        by rw [eraseIdx_cons_succ, he]; rfl⟩

lemma find?_set {p : α → Bool} (ha : l[i]? = some a) (hpa : p a = false) (hpb : p b = false) :
    (l.set i b).find? p = l.find? p := by
  induction l generalizing i with
  | nil => rfl
  | cons c l ih =>
    cases i with
    | zero =>
      obtain rfl : c = a := by simpa using ha
      simp [hpa, hpb]
    | succ i =>
      rw [set_cons_succ, find?_cons, find?_cons, ih (by simpa using ha)]

lemma sum_eq_add_filter {M : Type} [AddCommMonoid M] (h : (l.map key).Nodup) (ha : a ∈ l)
    (f : α → M) : (l.map f).sum = f a + ((l.filter fun c => decide (key c ≠ key a)).map f).sum := by
  induction l with
  | nil => cases ha
  | cons b l ih =>
    rw [map_cons, nodup_cons] at h
    rcases mem_cons.1 ha with rfl | ha
    · have hk : l.filter (fun c => decide (key c ≠ key a)) = l := by
        apply filter_eq_self.2
        intro c hc
        simp only [decide_eq_true_eq]
        exact fun hca => h.1 (hca ▸ mem_map_of_mem hc)
      rw [filter_cons_of_neg (by simp), hk, map_cons, sum_cons]
    · have hne : key b ≠ key a := fun hba => h.1 (hba ▸ mem_map_of_mem ha)
      rw [filter_cons_of_pos (by simpa using hne)]
      simp only [map_cons, sum_cons, ih h.2 ha]
      rw [add_left_comm]

end Conduit.Keyed
