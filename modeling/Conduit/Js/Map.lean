import Mathlib.Data.List.Nodup

namespace Conduit.Js

open List Option

section
variable {α κ : Type} [DecidableEq κ] (key : α → κ)

/-- A key that is already there keeps its place and takes the new value. -/
def mapSet : List α → α → List α
  | [], a => [a]
  | b :: l, a => if key b = key a then a :: l else b :: mapSet l a

/-- `new Map(l.map((a) => [key(a), a])).values()`. -/
def mapOf (l : List α) : List α := l.foldl (mapSet key) []

variable {key} {l m : List α} {a b : α}

lemma keys_mapSet : (mapSet key l a).map key =
    if key a ∈ l.map key then l.map key else l.map key ++ [key a] := by
  induction l with
  | nil => rfl
  | cons b l ih =>
    rw [mapSet]
    by_cases h : key b = key a
    · simp [h]
    · rw [if_neg h, map_cons, ih, map_cons]
      by_cases hm : key a ∈ l.map key
      · rw [if_pos hm, if_pos (.tail _ hm)]
      · rw [if_neg hm, if_neg (by simpa [Ne.symm h] using hm)]
        rfl

lemma mem_mapSet (h : b ∈ mapSet key l a) : b = a ∨ b ∈ l := by
  induction l with
  | nil => exact .inl (mem_singleton.1 h)
  | cons c l ih =>
    rw [mapSet] at h
    split at h
    · exact (mem_cons.1 h).imp_right (mem_cons_of_mem _)
    · rcases mem_cons.1 h with rfl | h
      · exact .inr mem_cons_self
      · exact (ih h).imp_right (mem_cons_of_mem _)

lemma mapSet_of_new (h : ∀ b ∈ l, key b ≠ key a) : mapSet key l a = l ++ [a] := by
  induction l with
  | nil => rfl
  | cons b l ih =>
    rw [mapSet, if_neg (h b mem_cons_self), ih fun c hc => h c (mem_cons_of_mem _ hc)]
    rfl

structure Holds (key : α → κ) (l m : List α) : Prop where
  nodup : (l.map key).Nodup
  from_entries : ∀ a ∈ l, a ∈ m
  held : ∀ a ∈ m, key a ∈ l.map key

lemma Holds.mapSet (h : Holds key l m) : Holds key (mapSet key l a) (m ++ [a]) := by
  refine ⟨?_, fun b hb => ?_, fun b hb => ?_⟩
  · rw [keys_mapSet]
    split
    · exact h.nodup
    · refine nodup_append.2 ⟨h.nodup, nodup_singleton _, fun k hk c hc => ?_⟩
      rw [mem_singleton] at hc
      rintro rfl
      exact absurd (hc ▸ hk) ‹_›
  · rcases mem_mapSet hb with rfl | hb
    · exact mem_append_right _ mem_cons_self
    · exact mem_append_left _ (h.from_entries b hb)
  · rw [keys_mapSet]
    have hm : key b ∈ l.map key ∨ b = a :=
      (mem_append.1 hb).imp (h.held b) mem_singleton.1
    split
    · exact hm.elim (fun h => h) fun h => h ▸ ‹_›
    · refine mem_append.2 (hm.imp_right fun h => ?_)
      rw [h]
      exact mem_singleton_self _

lemma Holds.foldl (h : Holds key l m) (entries : List α) :
    Holds key (entries.foldl (Js.mapSet key) l) (m ++ entries) := by
  induction entries generalizing l m with
  | nil =>
    rw [append_nil]
    exact h
  | cons a entries ih =>
    have := ih (h.mapSet (a := a))
    rwa [append_assoc] at this

lemma mapOf_holds (key : α → κ) (entries : List α) : Holds key (mapOf key entries) entries := by
  have hn : Holds key [] [] := ⟨nodup_nil, fun _ h => absurd h not_mem_nil,
    fun _ h => absurd h not_mem_nil⟩
  exact hn.foldl entries

end

lemma mapM_eq_some_mem {α β : Type} {f : α → Option β} {l : List α}
    {parsed : List β} (h : l.mapM f = some parsed) :
    (∀ p ∈ parsed, ∃ e ∈ l, f e = some p) ∧ ∀ e ∈ l, ∃ p ∈ parsed, f e = some p := by
  induction l generalizing parsed with
  | nil =>
    obtain rfl : parsed = [] := (some.inj h).symm
    exact ⟨fun _ h => absurd h not_mem_nil, fun _ h => absurd h not_mem_nil⟩
  | cons e l ih =>
    simp only [mapM_cons, bind_eq_bind, bind_eq_some_iff] at h
    obtain ⟨p, hp, rest, hr, heq⟩ := h
    obtain rfl : p :: rest = parsed := some.inj heq
    obtain ⟨hf, hto⟩ := ih hr
    refine ⟨fun q hq => ?_, fun d hd => ?_⟩
    · rcases mem_cons.1 hq with rfl | hq
      · exact ⟨e, .head _, hp⟩
      · obtain ⟨d, hd, hdq⟩ := hf q hq
        exact ⟨d, .tail _ hd, hdq⟩
    · rcases mem_cons.1 hd with rfl | hd
      · exact ⟨p, .head _, hp⟩
      · obtain ⟨q, hq, hdq⟩ := hto d hd
        exact ⟨q, .tail _ hq, hdq⟩

lemma mapM_eq_none {α β : Type} {f : α → Option β} {l : List α} :
    l.mapM f = none ↔ ∃ e ∈ l, f e = none := by
  induction l with
  | nil => simp
  | cons e l ih =>
    simp only [mapM_cons, bind_eq_bind, bind_eq_none_iff, mem_cons, exists_eq_or_imp]
    cases hf : f e with
    | none => simp
    | some p => simpa [← eq_none_iff_forall_ne_some] using ih

end Conduit.Js
