import Conduit.Js.Map
import Conduit.Keyed
import Mathlib.Data.List.Sort

namespace Conduit

open Js Keyed List Option

section
variable {α κ : Type} [DecidableEq κ] (key : α → κ) (join : α → α → α)

def lookup (k : κ) (l : List α) : Option α := l.find? fun a => decide (key a = k)

def joinInto (l : List α) (a : α) : List α :=
  mapSet key l (match lookup key (key a) l with
    | none => a
    | some b => join b a)

def joinAll (l : List α) : List α := l.foldl (joinInto key join) []

def optJoin : Option α → Option α → Option α
  | none, b => b
  | some a, none => some a
  | some a, some b => some (join a b)

variable {key join} {l m : List α} {a b : α} {k : κ}

lemma lookup_eq_some (h : (l.map key).Nodup) : lookup key k l = some a ↔ a ∈ l ∧ key a = k :=
  find?_key_iff h

lemma mem_of_lookup (h : lookup key k l = some a) : a ∈ l ∧ key a = k :=
  ⟨mem_of_find?_eq_some h, by simpa using find?_some h⟩

lemma lookup_eq_none : lookup key k l = none ↔ ∀ a ∈ l, key a ≠ k := by
  simp [lookup]

lemma lookup_mapSet :
    lookup key k (mapSet key l a) = if key a = k then some a else lookup key k l := by
  induction l with
  | nil => simp [mapSet, lookup, find?_cons]; split <;> simp_all
  | cons b l ih =>
    unfold lookup at ih ⊢
    rw [mapSet]
    by_cases hkey : key b = key a
    · rw [if_pos hkey, find?_cons, find?_cons, hkey]
      by_cases hk : key a = k <;> simp [hk]
    · rw [if_neg hkey, find?_cons, find?_cons, ih]
      by_cases hk : key a = k
      · have hb : key b ≠ k := fun hb => hkey (hb.trans hk.symm)
        simp [hk, hb]
      · simp [hk]

lemma lookup_foldl_mapSet_of_not_mem (h : k ∉ m.map key) :
    lookup key k (m.foldl (mapSet key) l) = lookup key k l := by
  induction m generalizing l with
  | nil => rfl
  | cons b m ih =>
    rw [map_cons, mem_cons, not_or] at h
    rw [foldl_cons, ih h.2, lookup_mapSet, if_neg (Ne.symm h.1)]

lemma lookup_foldl_mapSet (hm : (m.map key).Nodup) (ha : a ∈ m) :
    lookup key (key a) (m.foldl (mapSet key) l) = some a := by
  induction m generalizing l with
  | nil => cases ha
  | cons b m ih =>
    obtain ⟨hb, hm⟩ := nodup_cons.1 hm
    rcases mem_cons.1 ha with rfl | ha
    · rw [foldl_cons, lookup_foldl_mapSet_of_not_mem hb, lookup_mapSet, if_pos rfl]
    · exact ih hm ha

lemma lookup_joinInto (hkey : ∀ a b, key (join a b) = key a) :
    lookup key k (joinInto key join l a) =
      if key a = k then optJoin join (lookup key k l) (some a) else lookup key k l := by
  unfold joinInto
  rw [lookup_mapSet]
  cases hl : lookup key (key a) l with
  | none =>
    by_cases hk : key a = k
    · rw [if_pos hk, if_pos hk, ← hk, hl]
      rfl
    · rw [if_neg hk, if_neg hk]
  | some b =>
    have hb : key (join b a) = key a := (hkey b a).trans (mem_of_lookup hl).2
    by_cases hk : key a = k
    · rw [if_pos (hb.trans hk), if_pos hk, ← hk, hl]
      rfl
    · rw [if_neg (fun h => hk (hb.symm.trans h)), if_neg hk]

lemma nodup_mapSet (h : (l.map key).Nodup) : ((mapSet key l a).map key).Nodup := by
  rw [keys_mapSet]
  split
  · exact h
  · refine nodup_append.2 ⟨h, nodup_singleton _, ?_⟩
    intro k hk c hc
    rw [mem_singleton] at hc
    rintro rfl
    exact absurd (hc ▸ hk) ‹_›

lemma nodup_foldl (h : (l.map key).Nodup) : ((m.foldl (joinInto key join) l).map key).Nodup := by
  induction m generalizing l with
  | nil => exact h
  | cons a m ih => exact ih (nodup_mapSet h)

lemma nodup_joinAll : ((joinAll key join l).map key).Nodup :=
  nodup_foldl nodup_nil

section

variable (hkey : ∀ a b, key (join a b) = key a)
include hkey

lemma lookup_foldl (hm : (m.map key).Nodup) : lookup key k (m.foldl (joinInto key join) l) =
      optJoin join (lookup key k l) (lookup key k m) := by
  induction m generalizing l with
  | nil =>
    rw [foldl_nil]
    cases lookup key k l <;> rfl
  | cons a m ih =>
    rw [map_cons, nodup_cons] at hm
    rw [foldl_cons, ih hm.2, lookup_joinInto hkey]
    by_cases hk : key a = k
    · have hn : lookup key k m = none := by
        apply lookup_eq_none.2
        intro b hb hbk
        exact hm.1 (mem_map.2 ⟨b, hb, hbk.trans hk.symm⟩)
      have hc : lookup key k (a :: m) = some a := by simp [lookup, hk]
      rw [if_pos hk, hn, hc]
      cases lookup key k l <;> rfl
    · have hc : lookup key k (a :: m) = lookup key k m := by simp [lookup, hk]
      rw [if_neg hk, hc]

lemma lookup_joinAll (hl : (l.map key).Nodup) :
    lookup key k (joinAll key join l) = lookup key k l :=
  lookup_foldl hkey hl

lemma lookup_joinAll_append (hl : (l.map key).Nodup) (hm : (m.map key).Nodup) :
    lookup key k (joinAll key join (l ++ m)) = optJoin join (lookup key k l) (lookup key k m) := by
  rw [joinAll, foldl_append, lookup_foldl hkey hm]
  exact congrArg (optJoin join · _) (lookup_joinAll hkey hl)

end

lemma joinAll_of_nodup (hl : (l.map key).Nodup) : joinAll key join l = l := by
  have hf : ∀ m : List α, ((m ++ l).map key).Nodup →
      l.foldl (joinInto key join) m = m ++ l := by
    clear hl
    induction l with
    | nil =>
      intro m _
      exact (append_nil m).symm
    | cons a l ih =>
      intro m hm
      have hn : lookup key (key a) m = none := by
        apply lookup_eq_none.2
        intro b hb hba
        rw [map_append, nodup_append] at hm
        exact hm.2.2 (key b) (mem_map_of_mem hb) (key a) mem_cons_self hba
      have hs : joinInto key join m a = m ++ [a] := by
        unfold joinInto
        rw [hn]
        exact mapSet_of_new (lookup_eq_none.1 hn)
      rw [foldl_cons, hs, ih (m ++ [a]) (by simpa using hm), append_assoc]
      rfl
  exact hf [] hl

end

section
variable {α κ : Type} [DecidableEq κ] {key : α → κ} {le : α → α → Bool} {l m : List α}

structure Canonical (key : α → κ) (le : α → α → Bool) (l : List α) : Prop where
  nodup : (l.map key).Nodup
  sorted : l.Pairwise fun a b => le a b = true

/-- The order tells entries of different keys apart. -/
structure Separates (key : α → κ) (le : α → α → Bool) : Prop where
  total : ∀ a b, (le a b || le b a) = true
  trans : ∀ a b c, le a b = true → le b c = true → le a c = true
  antisymm : ∀ a b, le a b = true → le b a = true → key a = key b

def sortBy {α : Type} (le : α → α → Bool) (l : List α) : List α :=
  l.insertionSort fun a b => le a b = true

lemma mem_sortBy {a : α} : a ∈ sortBy le l ↔ a ∈ l := mem_insertionSort _

lemma sortBy_perm : (sortBy le l).Perm l := perm_insertionSort _ l

lemma canonical_sortBy (h : Separates key le) (hl : (l.map key).Nodup) :
    Canonical key le (sortBy le l) where
  nodup := (sortBy_perm.map key).nodup_iff.2 hl
  sorted := by
    haveI : Std.Total fun a b : α => le a b = true :=
      ⟨fun a b => Bool.or_eq_true_iff.1 (h.total a b)⟩
    haveI : IsTrans α fun a b => le a b = true := ⟨h.trans⟩
    exact pairwise_insertionSort _ l

lemma lookup_sortBy (hl : (l.map key).Nodup) (k : κ) :
    lookup key k (sortBy le l) = lookup key k l :=
  find?_key_perm hl sortBy_perm k

lemma Canonical.ext (h : Separates key le) (hl : Canonical key le l) (hm : Canonical key le m)
    (heq : ∀ k, lookup key k l = lookup key k m) : l = m := by
  have hmem : ∀ a, a ∈ l ↔ a ∈ m := by
    intro a
    have hla := lookup_eq_some (k := key a) (a := a) hl.nodup
    have hma := lookup_eq_some (k := key a) (a := a) hm.nodup
    rw [heq, hma] at hla
    simpa using hla.symm
  have hpm : l.Perm m := (perm_ext_iff_of_nodup hl.nodup.of_map hm.nodup.of_map).2 hmem
  refine hpm.eq_of_pairwise ?_ hl.sorted hm.sorted
  intro a b ha hb hab hba
  exact eq_of_key_eq hl.nodup ha ((hmem b).2 hb) (h.antisymm a b hab hba)

lemma Canonical.sortBy (h : Separates key le) (hl : Canonical key le l) : sortBy le l = l :=
  Canonical.ext h (canonical_sortBy h hl.nodup) hl (lookup_sortBy hl.nodup)

end

section
variable {α κ : Type} [DecidableEq κ] {key : α → κ} {join : α → α → α} {le : α → α → Bool}
  {l m n : List α}

def joinLists (key : α → κ) (join : α → α → α) (le : α → α → Bool) (l m : List α) : List α :=
  sortBy le (joinAll key join (l ++ m))

lemma joinLists_canonical (h : Separates key le) : Canonical key le (joinLists key join le l m) :=
  canonical_sortBy h nodup_joinAll

section

variable (hkey : ∀ a b, key (join a b) = key a)
include hkey

lemma lookup_joinLists (hl : (l.map key).Nodup) (hm : (m.map key).Nodup) (k : κ) :
    lookup key k (joinLists key join le l m) = optJoin join (lookup key k l) (lookup key k m) := by
  rw [joinLists, lookup_sortBy nodup_joinAll, lookup_joinAll_append hkey hl hm]

lemma forall_joinLists (h : Separates key le) (hl : (l.map key).Nodup) (hm : (m.map key).Nodup)
    {p : α → Prop} (hpl : ∀ a ∈ l, p a) (hpm : ∀ b ∈ m, p b)
    (hj : ∀ a ∈ l, ∀ b ∈ m, key a = key b → p (join a b)) :
    ∀ c ∈ joinLists key join le l m, p c := by
  intro c hc
  have hlk := (lookup_eq_some (joinLists_canonical h).nodup).2 ⟨hc, rfl⟩
  rw [lookup_joinLists hkey hl hm] at hlk
  cases ha : lookup key (key c) l with
  | none =>
    rw [ha] at hlk
    exact hpm c (mem_of_lookup hlk).1
  | some a =>
    have hal := mem_of_lookup ha
    rw [ha] at hlk
    cases hb : lookup key (key c) m with
    | none =>
      rw [hb] at hlk
      exact some_inj.1 hlk ▸ hpl a hal.1
    | some b =>
      have hbm := mem_of_lookup hb
      rw [hb] at hlk
      exact some_inj.1 hlk ▸ hj a hal.1 b hbm.1 (hal.2.trans hbm.2.symm)

lemma exists_joined_left (hl : (l.map key).Nodup) (hm : (m.map key).Nodup) {a : α} (ha : a ∈ l) :
    ∃ c ∈ joinLists key join le l m, c = a ∨ ∃ b ∈ m, key a = key b ∧ c = join a b := by
  have hlk : lookup key (key a) (joinLists key join le l m) = _ :=
    lookup_joinLists hkey hl hm (key a)
  rw [(lookup_eq_some hl).2 ⟨ha, rfl⟩] at hlk
  cases hb : lookup key (key a) m with
  | none =>
    rw [hb] at hlk
    exact ⟨a, (mem_of_lookup hlk).1, .inl rfl⟩
  | some b =>
    have hbm := mem_of_lookup hb
    rw [hb] at hlk
    exact ⟨_, (mem_of_lookup hlk).1, .inr ⟨b, hbm.1, hbm.2.symm, rfl⟩⟩

lemma exists_joined_right (hl : (l.map key).Nodup) (hm : (m.map key).Nodup) {b : α} (hb : b ∈ m) :
    ∃ c ∈ joinLists key join le l m, c = b ∨ ∃ a ∈ l, key a = key b ∧ c = join a b := by
  have hlk : lookup key (key b) (joinLists key join le l m) = _ :=
    lookup_joinLists hkey hl hm (key b)
  rw [(lookup_eq_some hm).2 ⟨hb, rfl⟩] at hlk
  cases ha : lookup key (key b) l with
  | none =>
    rw [ha] at hlk
    exact ⟨b, (mem_of_lookup hlk).1, .inl rfl⟩
  | some a =>
    have hal := mem_of_lookup ha
    rw [ha] at hlk
    exact ⟨_, (mem_of_lookup hlk).1, .inr ⟨a, hal.1, hal.2, rfl⟩⟩

lemma joinLists_comm (h : Separates key le) (hl : (l.map key).Nodup) (hm : (m.map key).Nodup)
    (hc : ∀ a ∈ l, ∀ b ∈ m, key a = key b → join a b = join b a) :
    joinLists key join le l m = joinLists key join le m l := by
  apply (joinLists_canonical h).ext h (joinLists_canonical h)
  intro k
  rw [lookup_joinLists hkey hl hm, lookup_joinLists hkey hm hl]
  cases ha : lookup key k l with
  | none => cases lookup key k m <;> rfl
  | some a =>
    cases hb : lookup key k m with
    | none => rfl
    | some b =>
      have hal := mem_of_lookup ha
      have hbm := mem_of_lookup hb
      exact congrArg some (hc a hal.1 b hbm.1 (hal.2.trans hbm.2.symm))

lemma joinLists_assoc (h : Separates key le) (hl : (l.map key).Nodup) (hm : (m.map key).Nodup)
    (hn : (n.map key).Nodup) (hassoc : ∀ a ∈ l, ∀ b ∈ m, ∀ c ∈ n, key a = key b → key b = key c →
      join (join a b) c = join a (join b c)) : joinLists key join le (joinLists key join le l m) n =
      joinLists key join le l (joinLists key join le m n) := by
  apply (joinLists_canonical h).ext h (joinLists_canonical h)
  intro k
  rw [lookup_joinLists hkey (joinLists_canonical h).nodup hn, lookup_joinLists hkey hl hm,
    lookup_joinLists hkey hl (joinLists_canonical h).nodup, lookup_joinLists hkey hm hn]
  cases ha : lookup key k l with
  | none => rfl
  | some a =>
    cases hb : lookup key k m with
    | none => rfl
    | some b =>
      cases hc : lookup key k n with
      | none => rfl
      | some c =>
        have hal := mem_of_lookup ha
        have hbm := mem_of_lookup hb
        have hcn := mem_of_lookup hc
        exact congrArg some (hassoc a hal.1 b hbm.1 c hcn.1 (hal.2.trans hbm.2.symm)
          (hbm.2.trans hcn.2.symm))

lemma joinLists_self (h : Separates key le) (hl : Canonical key le l)
    (hi : ∀ a ∈ l, join a a = a) : joinLists key join le l l = l := by
  apply (joinLists_canonical h).ext h hl
  intro k
  rw [lookup_joinLists hkey hl.nodup hl.nodup]
  cases ha : lookup key k l with
  | none => rfl
  | some a => exact congrArg some (hi a (mem_of_lookup ha).1)

end

end

end Conduit
