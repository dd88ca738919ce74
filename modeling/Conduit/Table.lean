import Conduit.Keyed
import Mathlib.Algebra.Order.BigOperators.Group.List
import Mathlib.Algebra.Order.Group.Int
import Mathlib.Algebra.Ring.Int.Defs

namespace Conduit

open List Option Keyed

@[ext] structure Table (α : Type) {κ : Type} (key : α → κ) where
  rows : List α
  nodup : (rows.map key).Nodup

namespace Table

variable {α κ : Type} [DecidableEq κ] {key : α → κ}

def empty : Table α key := ⟨[], List.nodup_nil⟩

variable (t : Table α key)

def get (k : κ) : Option α := t.rows.find? fun a => decide (key a = k)

def others (k : κ) : List α := t.rows.filter fun a => decide (key a ≠ k)

lemma mem_others {t : Table α key} {k : κ} {a : α} : a ∈ t.others k ↔ a ∈ t.rows ∧ key a ≠ k := by
  simp [others]

def put (a : α) : Table α key where
  rows := t.others (key a) ++ [a]
  nodup := by
    rw [List.map_append, List.nodup_append]
    refine ⟨t.nodup.sublist (List.filter_sublist.map key), by simp, ?_⟩
    intro k hk k' hk'
    obtain ⟨b, hb, rfl⟩ := List.mem_map.1 hk
    obtain rfl : k' = key a := by simpa using hk'
    exact (mem_others.1 hb).2

def remove (k : κ) : Table α key where
  rows := t.others k
  nodup := t.nodup.sublist (List.filter_sublist.map key)

/-- Deletes the rows one after the other. -/
def removeAll (l : List α) : Table α key :=
  l.foldl (fun t a => t.remove (key a)) t

def modify (f : α → α) (hf : ∀ a, key (f a) = key a) : Table α key where
  rows := t.rows.map f
  nodup := by
    rw [List.map_map, show key ∘ f = key from funext hf]
    exact t.nodup

variable {t : Table α key} {a b : α} {k : κ}

lemma get_eq_some : t.get k = some a ↔ a ∈ t.rows ∧ key a = k := by
  unfold get
  rw [find?_key_iff t.nodup]

lemma get_eq_none : t.get k = none ↔ ∀ a ∈ t.rows, key a ≠ k := by
  simp [get]

lemma mem_of_get (h : t.get k = some a) : a ∈ t.rows := (get_eq_some.1 h).1

lemma key_of_get (h : t.get k = some a) : key a = k := (get_eq_some.1 h).2

lemma get_of_mem (h : a ∈ t.rows) : t.get (key a) = some a := get_eq_some.2 ⟨h, rfl⟩

lemma mem_put : b ∈ (t.put a).rows ↔ b = a ∨ b ∈ t.rows ∧ key b ≠ key a := by
  simp only [put, mem_append, mem_others, mem_singleton]
  exact or_comm

lemma get_put (t : Table α key) (a : α) (k : κ) :
    (t.put a).get k = if k = key a then some a else t.get k := by
  apply ext
  intro b
  rw [get_eq_some, mem_put]
  by_cases hk : k = key a
  · subst hk
    rw [if_pos rfl]
    constructor
    · rintro ⟨rfl | ⟨-, hne⟩, hkey⟩
      · rfl
      · exact absurd hkey hne
    · intro h
      cases h
      exact ⟨.inl rfl, rfl⟩
  · rw [if_neg hk, get_eq_some]
    constructor
    · rintro ⟨rfl | ⟨hb, -⟩, rfl⟩
      · exact absurd rfl hk
      · exact ⟨hb, rfl⟩
    · rintro ⟨hb, rfl⟩
      exact ⟨.inr ⟨hb, hk⟩, rfl⟩

lemma get_put_self (t : Table α key) (a : α) : (t.put a).get (key a) = some a := by
  rw [get_put, if_pos rfl]

lemma get_put_of_ne (hk : k ≠ key a) : (t.put a).get k = t.get k := by
  rw [get_put, if_neg hk]

lemma get_modify {f : α → α} (hf : ∀ a, key (f a) = key a) :
    (t.modify f hf).get k = (t.get k).map f := by
  simp only [get, modify, find?_map]
  congr 2
  funext a
  simp [hf]

lemma get_put_isSome (h : (t.get k).isSome = true) : ((t.put a).get k).isSome = true := by
  rw [get_put]
  split
  · rfl
  · exact h

variable {l : List α}

lemma get_foldl_put_isSome (h : (t.get k).isSome = true) :
    ((l.foldl put t).get k).isSome = true := by
  induction l generalizing t with
  | nil => exact h
  | cons c l ih => exact ih (get_put_isSome h)

lemma get_foldl_put_of_mem (ha : a ∈ l) : ((l.foldl put t).get (key a)).isSome = true := by
  induction l generalizing t with
  | nil => cases ha
  | cons c l ih =>
    rcases mem_cons.1 ha with rfl | hm
    · have hp : ((t.put a).get (key a)).isSome = true := by
        rw [get_put_self]
        rfl
      exact get_foldl_put_isSome (l := l) hp
    · exact ih hm

lemma put_of_get_none (h : t.get (key a) = none) : (t.put a).rows = t.rows ++ [a] := by
  have hs : t.others (key a) = t.rows :=
    filter_eq_self.2 fun b hb => by simpa using get_eq_none.1 h b hb
  simp [put, hs]

lemma rows_perm (h : t.get k = some a) : t.rows.Perm (a :: t.others k) := by
  obtain ⟨ha, rfl⟩ := get_eq_some.1 h
  refine (perm_ext_iff_of_nodup t.nodup.of_map ?_).2 fun b => ?_
  · refine nodup_cons.2 ⟨fun hm => (mem_others.1 hm).2 rfl, t.nodup.of_map.filter _⟩
  · rw [mem_cons, mem_others]
    by_cases hk : key b = key a
    · have hab : b ∈ t.rows → b = a := fun hb => by
        have hg := get_of_mem hb
        rw [hk, h] at hg
        exact (some.inj hg).symm
      constructor
      · exact fun hb => .inl (hab hb)
      · rintro (rfl | ⟨hb, -⟩)
        · exact ha
        · exact hb
    · constructor
      · exact fun hb => .inr ⟨hb, hk⟩
      · rintro (rfl | ⟨hb, -⟩)
        · exact absurd rfl hk
        · exact hb

lemma map_filter_put_perm {β : Type} (h : t.get (key a) = some b) {p : α → Bool}
    (hp : p a = p b) {f : α → β} (hf : f a = f b) :
    (((t.put a).rows.filter p).map f).Perm ((t.rows.filter p).map f) := by
  have hn : (t.put a).rows.Perm (a :: t.others (key a)) := by
    exact perm_append_comm
  refine ((hn.filter p).map f).trans (Perm.trans ?_ (((rows_perm h).filter p).map f).symm)
  by_cases hpb : p b = true
  · rw [filter_cons_of_pos (hp.trans hpb), filter_cons_of_pos hpb, map_cons,
      map_cons, hf]
  · rw [filter_cons_of_neg (by rw [hp]; exact hpb), filter_cons_of_neg hpb]

section
variable {M : Type} [AddCommMonoid M]

def total (t : Table α key) (f : α → M) : M := (t.rows.map f).sum

def totalOthers (t : Table α key) (k : κ) (f : α → M) : M := ((t.others k).map f).sum

lemma total_put (t : Table α key) (a : α) (f : α → M) :
    (t.put a).total f = t.totalOthers (key a) f + f a := by
  simp [total, totalOthers, put]

lemma total_of_get (h : t.get k = some a) (f : α → M) : t.total f = t.totalOthers k f + f a := by
  obtain ⟨ha, rfl⟩ := get_eq_some.1 h
  rw [total, sum_eq_add_filter t.nodup ha f, add_comm]
  rfl

lemma total_of_get_none (h : t.get k = none) (f : α → M) : t.total f = t.totalOthers k f := by
  rw [get_eq_none] at h
  have hs : t.others k = t.rows := filter_eq_self.2 fun a ha => by simpa using h a ha
  rw [total, totalOthers, hs]

end

lemma mem_remove : b ∈ (t.remove k).rows ↔ b ∈ t.rows ∧ key b ≠ k := mem_others

lemma mem_removeAll : b ∈ (t.removeAll l).rows ↔ b ∈ t.rows ∧ ∀ a ∈ l, key b ≠ key a := by
  induction l generalizing t with
  | nil => simp [removeAll]
  | cons c l ih =>
    have hr := ih (t := t.remove (key c))
    simp only [removeAll, foldl_cons] at hr ⊢
    rw [hr, mem_remove, forall_mem_cons]
    exact and_assoc

lemma get_removeAll (h : ∀ a ∈ l, k ≠ key a) : (t.removeAll l).get k = t.get k := by
  apply ext
  intro b
  rw [get_eq_some, get_eq_some, mem_removeAll]
  constructor
  · rintro ⟨⟨hb, -⟩, hk⟩
    exact ⟨hb, hk⟩
  · rintro ⟨hb, hk⟩
    exact ⟨⟨hb, fun a ha => hk ▸ h a ha⟩, hk⟩

variable {M : Type}

lemma total_removeAll [AddCommMonoid M] (hl : (l.map key).Nodup) (hm : ∀ a ∈ l, a ∈ t.rows)
    (f : α → M) : t.total f = (t.removeAll l).total f + (l.map f).sum := by
  induction l generalizing t with
  | nil => simp [removeAll]
  | cons c l ih =>
    rw [map_cons, nodup_cons] at hl
    rw [forall_mem_cons] at hm
    have hr := ih (t := t.remove (key c)) hl.2 fun a ha =>
      mem_remove.2 ⟨hm.2 a ha, fun hac => hl.1 (hac ▸ mem_map_of_mem ha)⟩
    have hh : t.total f = (t.remove (key c)).total f + f c := total_of_get (get_of_mem hm.1) f
    simp only [removeAll, foldl_cons] at hr ⊢
    rw [hh, hr, map_cons, sum_cons, add_assoc, add_comm (sum _)]

omit [DecidableEq κ] in
lemma total_le {f g : α → Int} (h : ∀ a ∈ t.rows, f a ≤ g a) : t.total f ≤ t.total g :=
  sum_le_sum h

omit [DecidableEq κ] in
lemma total_congr [AddCommMonoid M] {f g : α → M} (h : ∀ a ∈ t.rows, f a = g a) :
    t.total f = t.total g := by
  rw [total, total, map_congr_left h]

lemma totalOthers_congr [AddCommMonoid M] {f g : α → M} (h : ∀ a ∈ t.rows, key a ≠ k → f a = g a) :
    t.totalOthers k f = t.totalOthers k g := by
  unfold totalOthers
  rw [map_congr_left fun a ha => h a (mem_others.1 ha).1 (mem_others.1 ha).2]

/-- Writes the rows one after the other. -/
def putAll (t : Table α key) (l : List α) : Table α key := l.foldl put t

section

variable (hl : (l.map key).Nodup)
include hl

lemma mem_putAll : b ∈ (t.putAll l).rows ↔ b ∈ l ∨ b ∈ t.rows ∧ ∀ a ∈ l, key a ≠ key b := by
  induction l generalizing t with
  | nil => simp [putAll]
  | cons a l ih =>
    rw [map_cons, nodup_cons] at hl
    have hr := ih (t := t.put a) hl.2
    simp only [putAll, foldl_cons] at hr ⊢
    rw [hr, mem_put, mem_cons]
    constructor
    · rintro (hb | ⟨rfl | ⟨hb, hne⟩, hk⟩)
      · exact .inl (.inr hb)
      · exact .inl (.inl rfl)
      · exact .inr ⟨hb, forall_mem_cons.2 ⟨Ne.symm hne, hk⟩⟩
    · rintro ((rfl | hb) | ⟨hb, hk⟩)
      · refine .inr ⟨.inl rfl, fun c hc hcb => hl.1 (hcb ▸ mem_map_of_mem hc)⟩
      · exact .inl hb
      · rw [forall_mem_cons] at hk
        exact .inr ⟨.inr ⟨hb, Ne.symm hk.1⟩, hk.2⟩

lemma total_putAll_sub (f : α → Int) : (t.putAll l).total f =
      t.total f + (l.map fun a => f a - ((t.get (key a)).map f).getD 0).sum := by
  induction l generalizing t with
  | nil => simp [putAll]
  | cons c l ih =>
    rw [map_cons, nodup_cons] at hl
    have hr := ih (t := t.put c) hl.2
    have heq : (l.map fun a => f a - (((t.put c).get (key a)).map f).getD 0) =
        l.map fun a => f a - ((t.get (key a)).map f).getD 0 := by
      apply map_congr_left
      intro a ha
      rw [get_put_of_ne]
      exact fun hac => hl.1 (hac ▸ mem_map_of_mem ha)
    have hh : (t.put c).total f = t.total f + (f c - ((t.get (key c)).map f).getD 0) := by
      rw [total_put]
      cases hg : t.get (key c) with
      | none =>
        rw [total_of_get_none hg]
        simp
      | some old =>
        rw [total_of_get hg]
        simp only [map_some, getD_some]
        omega
    simp only [putAll, foldl_cons] at hr ⊢
    rw [hr, heq, hh, map_cons, sum_cons]
    omega

lemma get_putAll : (t.putAll l).get k = (l.find? fun a => decide (key a = k)).or (t.get k) := by
  apply ext
  intro b
  rw [get_eq_some, mem_putAll hl]
  cases hf : l.find? fun a => decide (key a = k) with
  | some a =>
    obtain ⟨ha, rfl⟩ := (find?_key_iff hl).1 hf
    constructor
    · rintro ⟨hb | ⟨-, hne⟩, hk⟩
      · exact congrArg some (eq_of_key_eq hl ha hb hk.symm)
      · exact absurd hk.symm (hne a ha)
    · intro hb
      cases hb
      exact ⟨.inl ha, rfl⟩
  | none =>
    have hn : ∀ a ∈ l, key a ≠ k := by simpa using hf
    rw [none_or, get_eq_some]
    constructor
    · rintro ⟨hb | ⟨hb, -⟩, hk⟩
      · exact absurd hk (hn b hb)
      · exact ⟨hb, hk⟩
    · rintro ⟨hb, rfl⟩
      exact ⟨.inr ⟨hb, hn⟩, rfl⟩

lemma rows_putAll (hn : ∀ a ∈ l, t.get (key a) = none) : (t.putAll l).rows = t.rows ++ l := by
  induction l generalizing t with
  | nil => simp [putAll]
  | cons a l ih =>
    rw [map_cons, nodup_cons] at hl
    rw [forall_mem_cons] at hn
    have hr := ih (t := t.put a) hl.2 fun c hc => by
      rw [get_put_of_ne]
      · exact hn.2 c hc
      · exact fun hca => hl.1 (hca ▸ mem_map_of_mem hc)
    simp only [putAll, foldl_cons] at hr ⊢
    rw [hr, put_of_get_none hn.1, append_assoc]
    rfl

lemma total_putAll (hba : ∀ a ∈ l, ∃ b ∈ t.rows, key b = key a) (f : α → Int) :
    (t.putAll l).total f =
      t.total fun b => f ((l.find? fun a => decide (key a = key b)).getD b) := by
  induction l generalizing t with
  | nil => rfl
  | cons a l ih =>
    rw [map_cons, nodup_cons] at hl
    have hf : ∀ b, key b = key a → (l.find? fun c => decide (key c = key b)) = none := by
      intro b hb
      apply find?_eq_none.2
      intro c hc
      simp only [decide_eq_true_eq, hb]
      exact fun hca => hl.1 (hca ▸ mem_map_of_mem hc)
    obtain ⟨old, hold, hk⟩ := hba a mem_cons_self
    have hg : t.get (key a) = some old := get_eq_some.2 ⟨hold, hk⟩
    have hr := ih (t := t.put a) hl.2 (by
      intro c hc
      by_cases hca : key c = key a
      · exact ⟨a, mem_put.2 (.inl rfl), hca.symm⟩
      · obtain ⟨b, hb, hbc⟩ := hba c (mem_cons_of_mem a hc)
        exact ⟨b, mem_put.2 (.inr ⟨hb, hbc ▸ hca⟩), hbc⟩)
    simp only [putAll, foldl_cons] at hr ⊢
    rw [hr, total_put, total_of_get hg, hf a rfl, getD_none]
    congr 1
    · apply totalOthers_congr
      intro b hb hne
      rw [find?_cons_of_neg (by simpa using Ne.symm hne)]
    · rw [find?_cons_of_pos (by simpa using hk.symm), getD_some]

end

end Table

end Conduit
